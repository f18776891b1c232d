import RefCheck.Batch.Items
import RefCheck.Lib.Dict
import RefCheck.Lib.Json
import RefCheck.Model.Env

/-!
# What the batch backends have in common

The items and results of `llm/batch/base.py` for any output models, the request body that both
backends build of an item, and what may come back for an item: an error, nothing, or the content
blocks of a message. `Answers` says what a backend is for: its results are one for each item, and each
reports the outcome of its item.
-/

namespace RefCheck

/-! ### Items and results -/

/-- The output models that items may ask for: Pydantic models, with what the backends use of them. -/
structure ModelClasses (M : Type) where
  name : M → String
  Value : M → Type
  modelJsonSchema : M → List (String × Json)
  modelValidate : (m : M) → Json → Except String (Value m)

/-- `BatchItem`, with any output model. -/
structure RequestItem (M : Type) where
  customId : String
  system : String
  userMessage : String
  outputModel : M
  model : String
  maxTokens : Option ℤ := none

/-- `BatchItemResult`, with a value of any output model. -/
structure ItemResult {M : Type} (cls : ModelClasses M) where
  customId : String
  success : Bool
  value : Option ((m : M) × cls.Value m) := none
  error : Option String := none

/-- An item that failed. -/
def ItemResult.failed {M : Type} {cls : ModelClasses M} (customId error : String) : ItemResult cls where
  customId := customId
  success := false
  error := some error

section items

variable {M : Type} (py : PyText) (llmMaxTokens : ℤ) (cls : ModelClasses M)

/-- The tool that the model is told to call. -/
def toolName (m : M) : String := "emit_" ++ py.lower (cls.name m)

/-- The body of a request; the backends differ in its first member. -/
def requestBody (first : String × Json) (item : RequestItem M) : Json :=
  let name := toolName py cls item.outputModel
  .obj [first,
    ("max_tokens", .num (toString ((item.maxTokens.filter (· ≠ 0)).getD llmMaxTokens))),
    ("system", .str item.system),
    ("messages", .arr [.obj [("role", .str "user"), ("content", .str item.userMessage)]]),
    ("tools", .arr [.obj [("name", .str name),
      ("description", .str ("Emit the extracted result as " ++ cls.name item.outputModel ++ ".")),
      ("input_schema", .obj ((cls.modelJsonSchema item.outputModel).filter (·.1 ≠ "title")))]]),
    ("tool_choice", .obj [("type", .str "tool"), ("name", .str name)])]

/-- The dictionary of the items: `{i.custom_id: i for i in items}`. -/
def itemsById (items : List (RequestItem M)) : Dict String (RequestItem M) :=
  .ofPairs (items.map fun i => (i.customId, i))

/-- The result of the input of a tool call. -/
def validatedResult {cls : ModelClasses M} (customId : String) (m : M) (input : Json) :
    ItemResult cls :=
  match cls.modelValidate m input with
  | .ok value => { customId, success := true, value := some ⟨m, value⟩ }
  | .error e => .failed customId ("schema validation failed: " ++ e)

/-- Every item without a result gets one that failed. -/
def fillMissing {cls : ModelClasses M} (message : String) (results : Dict String (ItemResult cls))
    (ids : List String) : Dict String (ItemResult cls) :=
  ids.foldl (fun results id =>
    if results.contains id then results else results.set id (.failed id message)) results

end items

/-! ### Outcomes -/

/-- A block of the content of a message. -/
inductive ContentBlock where
  | toolUse (name : String) (input : Json)
  | other (type : String) (hother : type ≠ "tool_use")

/-- The input of a block that calls the tool. -/
def ContentBlock.input? (tool : String) : ContentBlock → Option Json
  | toolUse name input => if name = tool then some input else none
  | other _ _ => none

/-- What comes back for an item. -/
inductive Outcome where
  | error
  | missing
  | content (blocks : List ContentBlock)

/-- The input of the first call of the tool. -/
def Outcome.input? (tool : String) : Outcome → Option Json
  | error => none
  | missing => none
  | content blocks => blocks.findSome? (ContentBlock.input? tool)

section outcome

variable {M : Type} (py : PyText) (cls : ModelClasses M)

/-- The value that an item succeeds with. -/
def Outcome.value? (m : M) (outcome : Outcome) : Option ((m : M) × cls.Value m) :=
  match outcome.input? (toolName py cls m) with
  | none => none
  | some input =>
    match cls.modelValidate m input with
    | .ok value => some ⟨m, value⟩
    | .error _ => none

variable {py cls}

/-- A result that reports the outcome of an item. -/
structure ItemResult.Reports (py : PyText) (item : RequestItem M) (outcome : Outcome)
    (result : ItemResult cls) : Prop where
  customId : result.customId = item.customId
  value : result.value = outcome.value? py cls item.outputModel
  success : result.success = result.value.isSome

/-- The results are one for each item, and each reports the outcome of its item. -/
structure Answers (py : PyText) (items : List (RequestItem M)) (outcome : String → Outcome)
    (results : Dict String (ItemResult cls)) : Prop where
  keys : ∀ id, id ∈ results.keys ↔ id ∈ items.map (·.customId)
  reports : ∀ item ∈ items, ∃ result, results.get? item.customId = some result ∧
    result.Reports py item (outcome item.customId)

theorem isSome_value?_iff_input? {m : M} {outcome : Outcome} :
    (outcome.value? py cls m).isSome ↔ ∃ input value,
      outcome.input? (toolName py cls m) = some input ∧ cls.modelValidate m input = .ok value := by
  unfold Outcome.value?
  cases hinput : outcome.input? (toolName py cls m) with
  | none => simp
  | some input =>
    cases hvalue : cls.modelValidate m input with
    | ok value => simp [hvalue]
    | error e => simp [hvalue]

theorem reports_failed {item : RequestItem M} {outcome : Outcome} (error : String)
    (h : outcome.input? (toolName py cls item.outputModel) = none) :
    (ItemResult.failed item.customId error : ItemResult cls).Reports py item outcome := by
  refine ⟨rfl, ?_, rfl⟩
  unfold Outcome.value?
  rw [h]
  rfl

theorem reports_validatedResult {item : RequestItem M} {outcome : Outcome} {input : Json}
    (h : outcome.input? (toolName py cls item.outputModel) = some input) :
    (validatedResult item.customId item.outputModel input : ItemResult cls).Reports py item
      outcome := by
  unfold validatedResult
  cases hvalue : cls.modelValidate item.outputModel input with
  | ok value =>
    refine ⟨rfl, ?_, rfl⟩
    simp [Outcome.value?, h, hvalue]
  | error e =>
    refine ⟨rfl, ?_, rfl⟩
    simp [Outcome.value?, h, hvalue, ItemResult.failed]

theorem get?_fillMissing {message : String} (results : Dict String (ItemResult cls))
    (ids : List String) (id : String) :
    (fillMissing message results ids).get? id =
      (results.get? id).or (if id ∈ ids then some (.failed id message) else none) := by
  unfold fillMissing
  induction ids generalizing results with
  | nil => simp
  | cons i ids ih =>
    rw [List.foldl_cons, ih]
    cases hi : results.get? i with
    | some r =>
      rw [if_pos (by simp [Dict.contains, hi])]
      by_cases h : id = i
      · subst h
        rw [hi, Option.some_or, Option.some_or]
      · simp [h]
    | none =>
      rw [if_neg (by simp [Dict.contains, hi]), Dict.get?_set]
      by_cases h : id = i
      · subst h
        rw [if_pos rfl, hi, Option.some_or, Option.none_or, if_pos List.mem_cons_self]
      · simp [h]

/-- Results of the items, filled up, answer them if what was there reports the outcomes. -/
theorem answers_fillMissing {items : List (RequestItem M)} {outcome : String → Outcome}
    {message : String} {results : Dict String (ItemResult cls)} {ids : List String}
    (hids : ∀ id, id ∈ ids ↔ id ∈ items.map (·.customId)) (hkeys : ∀ id ∈ results.keys, id ∈ ids)
    (hreports : ∀ item ∈ items, ∃ result : ItemResult cls,
      (results.get? item.customId).or (some (.failed item.customId message)) = some result ∧
        result.Reports py item (outcome item.customId)) :
    Answers py items outcome (fillMissing message results ids) where
  keys := by
    intro id
    rw [← hids, Dict.mem_keys_iff]
    constructor
    · rintro ⟨result, hresult⟩
      by_contra hid
      rw [get?_fillMissing, if_neg hid, Option.or_none] at hresult
      exact hid (hkeys id ((Dict.mem_keys_iff _ _).mpr ⟨result, hresult⟩))
    · intro hid
      rw [← Option.isSome_iff_exists, get?_fillMissing, if_pos hid, Option.isSome_or]
      simp
  reports := by
    intro item hitem
    have hid : item.customId ∈ ids := (hids _).mpr (List.mem_map.mpr ⟨item, hitem, rfl⟩)
    rw [get?_fillMissing, if_pos hid]
    exact hreports item hitem

theorem get?_itemsById {items : List (RequestItem M)} (hids : (items.map (·.customId)).Nodup)
    {item : RequestItem M} (hitem : item ∈ items) :
    (itemsById items).get? item.customId = some item := by
  refine Dict.get?_ofPairs_of_mem ?_ (List.mem_map.mpr ⟨item, hitem, rfl⟩)
  rw [List.map_map]
  exact hids

theorem mem_of_get?_itemsById {items : List (RequestItem M)} {id : String} {item : RequestItem M}
    (h : (itemsById items).get? id = some item) : item ∈ items ∧ item.customId = id := by
  obtain ⟨i, hi, heq⟩ := List.mem_map.mp (Dict.mem_of_get?_ofPairs h)
  cases heq
  exact ⟨hi, rfl⟩

theorem mem_keys_itemsById {items : List (RequestItem M)} {id : String} :
    id ∈ (itemsById items).keys ↔ id ∈ items.map (·.customId) := by
  rw [itemsById, Dict.mem_keys_ofPairs, List.map_map]
  rfl

end outcome

end RefCheck
