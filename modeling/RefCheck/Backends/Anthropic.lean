import Mathlib.Data.List.Dedup
import RefCheck.Backends.Items

/-!
# The Anthropic backend

`llm/batch/anthropic_batch.py`: one batch of inline requests, and a stream of result entries. What the
service and the waiting for it come to are parameters. If the service sends for each item what came of
it, in any order and among entries of other IDs, the results answer the items (`answers`).
-/

namespace RefCheck.Anthropic

/-! ### The service -/

/-- How a request ends that did not succeed. -/
inductive FailureType where
  | errored
  | canceled
  | expired
  deriving DecidableEq

def FailureType.value : FailureType → String
  | errored => "errored"
  | canceled => "canceled"
  | expired => "expired"

/-- `entry.result`, with the text of its error or the content of its message. -/
inductive EntryResult where
  | succeeded (content : List ContentBlock)
  | unsuccessful (type : FailureType) (error : String)

/-- An entry of the result stream. -/
structure ResultEntry where
  customId : String
  result : EntryResult

/-- `client.messages.batches`, and how `wait_for_batch` ends. -/
structure Client where
  create : List Json → Except PyException String
  waitForBatch : String → Except PyException Unit
  results : String → Except PyException (List ResultEntry)

/-! ### `anthropic_batch.py` -/

section backend

variable {M : Type} (py : PyText) (llmMaxTokens : ℤ) (cls : ModelClasses M) (client : Client)

/-- `_build_params`. -/
def buildParams (item : RequestItem M) : Json :=
  requestBody py llmMaxTokens cls ("model", .str item.model) item

/-- The check that no two items share an ID. -/
def requireUnique (customIds : List String) : Except PyException Unit :=
  if customIds.length ≠ customIds.dedup.length then
    .error (.valueError "custom_id values must be unique within a batch")
  else .ok ()

/-- What is posted for the items. -/
def requests (items : List (RequestItem M)) : List Json :=
  items.map fun item => .obj [("custom_id", .str item.customId),
    ("params", buildParams py llmMaxTokens cls item)]

/-- `submit_batch`. -/
def submitBatch (items : List (RequestItem M)) : Except PyException String := do
  if items = [] then
    throw (.valueError "submit_batch called with an empty item list")
  requireUnique (items.map (·.customId))
  client.create (requests py llmMaxTokens cls items)

variable {cls}

/-- The result of one entry, for the item of its ID. -/
def entryResult (item : RequestItem M) (customId : String) : EntryResult → ItemResult cls
  | .unsuccessful type error => .failed customId (type.value ++ ": " ++ error)
  | .succeeded content =>
    match content.findSome? (ContentBlock.input? (toolName py cls item.outputModel)) with
    | some input => validatedResult customId item.outputModel input
    | none => .failed customId "model did not return expected tool call"

/-- The results of the entries; those of unknown IDs are skipped. -/
def entryResults (items : Dict String (RequestItem M)) (entries : List ResultEntry) :
    Dict String (ItemResult cls) :=
  entries.foldl (fun results entry =>
    match items.get? entry.customId with
    | none => results
    | some item => results.set entry.customId (entryResult py item entry.customId entry.result))
    .empty

/-- `fetch_batch_results`. -/
def fetchBatchResults (batchId : String) (items : Dict String (RequestItem M)) :
    Except PyException (Dict String (ItemResult cls)) := do
  let entries ← client.results batchId
  return fillMissing "no result returned for this custom_id" (entryResults py items entries)
    items.keys

/-- `run_batch_sync`. -/
def runBatchSync (items : List (RequestItem M)) :
    Except PyException (Dict String (ItemResult cls)) := do
  let byId := itemsById items
  let batchId ← submitBatch py llmMaxTokens cls client items
  client.waitForBatch batchId
  fetchBatchResults py client batchId byId

end backend

/-! ### Submitting -/

theorem requireUnique_eq_ok_iff {customIds : List String} :
    requireUnique customIds = .ok () ↔ customIds.Nodup := by
  unfold requireUnique
  split_ifs with h
  · refine iff_of_false nofun fun hnodup => h ?_
    rw [hnodup.dedup]
  · refine iff_of_true rfl ?_
    have hlength : customIds.dedup.length = customIds.length := (not_not.mp h).symm
    rw [← (List.dedup_sublist customIds).eq_of_length hlength]
    exact customIds.nodup_dedup

section answers

variable {M : Type} {py : PyText} {llmMaxTokens : ℤ} {cls : ModelClasses M} {client : Client}
  {items : List (RequestItem M)} {outcome : String → Outcome}

theorem submitBatch_eq (hne : items ≠ []) (hids : (items.map (·.customId)).Nodup) :
    submitBatch py llmMaxTokens cls client items =
      client.create (requests py llmMaxTokens cls items) := by
  unfold submitBatch
  rw [if_neg hne, requireUnique_eq_ok_iff.mpr hids]
  rfl

/-! ### What the service sends -/

/-- The results that are sent for an outcome. -/
inductive Sent : Outcome → List EntryResult → Prop
  | error (type : FailureType) (error : String) : Sent .error [.unsuccessful type error]
  | missing : Sent .missing []
  | content (blocks : List ContentBlock) : Sent (.content blocks) [.succeeded blocks]

/-- The service takes the batch, ends it, and sends for each item its outcome. -/
def Serves (py : PyText) (llmMaxTokens : ℤ) (cls : ModelClasses M) (client : Client)
    (items : List (RequestItem M)) (outcome : String → Outcome) : Prop :=
  ∃ batchId entries, client.create (requests py llmMaxTokens cls items) = .ok batchId ∧
    client.waitForBatch batchId = .ok () ∧ client.results batchId = .ok entries ∧
    ∀ item ∈ items, Sent (outcome item.customId)
      ((entries.filter (fun entry => entry.customId = item.customId)).map (·.result))

/-! ### What the results are -/

theorem entryResults_eq_ofPairs (byId : Dict String (RequestItem M)) (entries : List ResultEntry) :
    (entryResults py byId entries : Dict String (ItemResult cls)) =
      .ofPairs (entries.filterMap fun entry => (byId.get? entry.customId).map fun item =>
        (entry.customId, entryResult py item entry.customId entry.result)) := by
  unfold entryResults Dict.ofPairs
  rw [List.foldl_filterMap]
  congr 1
  funext results entry
  cases byId.get? entry.customId <;> rfl

/-- The last entry of an item decides its result. -/
theorem get?_entryResults (hids : (items.map (·.customId)).Nodup) {item : RequestItem M}
    (hitem : item ∈ items) (entries : List ResultEntry) :
    (entryResults py (itemsById items) entries : Dict String (ItemResult cls)).get? item.customId =
      (((entries.filter (fun entry => entry.customId = item.customId)).map (·.result)).map
        (entryResult py item item.customId)).getLast? := by
  rw [entryResults_eq_ofPairs, List.map_map]
  refine Dict.get?_ofPairs_filterMap (fun entry : ResultEntry => entry.customId = item.customId)
    (fun entry => entryResult py item item.customId entry.result) ?_ ?_ _
  · intro entry hmine
    rw [hmine, get?_itemsById hids hitem]
    rfl
  · intro entry p hne hpair
    obtain ⟨other, -, rfl⟩ := Option.map_eq_some_iff.mp hpair
    exact hne

theorem mem_keys_entryResults {byId : Dict String (RequestItem M)} {entries : List ResultEntry}
    {id : String} (h : id ∈ (entryResults py byId entries : Dict String (ItemResult cls)).keys) :
    id ∈ byId.keys := by
  rw [entryResults_eq_ofPairs, Dict.mem_keys_ofPairs] at h
  obtain ⟨p, hp, rfl⟩ := List.mem_map.mp h
  obtain ⟨entry, -, hpair⟩ := List.mem_filterMap.mp hp
  obtain ⟨item, hitem, rfl⟩ := Option.map_eq_some_iff.mp hpair
  exact (Dict.mem_keys_iff _ _).mpr ⟨item, hitem⟩

theorem reports_succeeded {item : RequestItem M} (blocks : List ContentBlock) :
    (entryResult py item item.customId (.succeeded blocks) : ItemResult cls).Reports py item
      (.content blocks) := by
  rw [entryResult]
  cases hinput : blocks.findSome? (ContentBlock.input? (toolName py cls item.outputModel)) with
  | some input =>
    have hout : (Outcome.content blocks).input? (toolName py cls item.outputModel) = some input :=
      hinput
    exact reports_validatedResult hout
  | none =>
    have hout : (Outcome.content blocks).input? (toolName py cls item.outputModel) = none := hinput
    exact reports_failed _ hout

theorem Sent.reports {item : RequestItem M} {out : Outcome} {sent : List EntryResult}
    (h : Sent out sent) :
    ∃ result : ItemResult cls,
      (sent.map (entryResult py item item.customId)).getLast?.or
        (some (.failed item.customId "no result returned for this custom_id")) = some result ∧
      result.Reports py item out := by
  cases h with
  | error type error => exact ⟨_, rfl, reports_failed _ rfl⟩
  | missing => exact ⟨_, rfl, reports_failed _ rfl⟩
  | content blocks => exact ⟨_, rfl, reports_succeeded blocks⟩

/-- The results answer the items. -/
theorem answers (hne : items ≠ []) (hids : (items.map (·.customId)).Nodup)
    (hserves : Serves py llmMaxTokens cls client items outcome) :
    ∃ results : Dict String (ItemResult cls),
      runBatchSync py llmMaxTokens client items = .ok results ∧ Answers py items outcome results := by
  obtain ⟨batchId, entries, hcreate, hwait, hresults, hsent⟩ := hserves
  refine ⟨fillMissing "no result returned for this custom_id"
    (entryResults py (itemsById items) entries) (itemsById items).keys, ?_, ?_⟩
  · unfold runBatchSync fetchBatchResults
    rw [submitBatch_eq hne hids, hcreate]
    simp only [bind, Except.bind, hwait, hresults]
    rfl
  · refine answers_fillMissing (fun _ => mem_keys_itemsById) (fun _ => mem_keys_entryResults) ?_
    intro item hitem
    rw [get?_entryResults hids hitem]
    exact (hsent item hitem).reports

end answers

end RefCheck.Anthropic
