import RefCheck.Backends.Interchange
import RefCheck.Lib.JsonText

/-!
# The lines of the result files

What `_fetch_single_job_results` makes of any files. A line gives a result, gives none, or raises,
whatever was read before (`lineResult`); so the results are there exactly if every line can be read
(`fetch_isolates_iff`), and the texts of a file that are joined by line feeds are its lines exactly if
they have no separator at which `str.splitlines` ends a line and JSON does not (`framing_kept_iff`).
-/

namespace RefCheck.Bedrock

/-! ### What can be read -/

/-- The blocks of a message up to the first call of the tool are objects, and the call has an input. -/
inductive BlocksReadable (tool : String) : List Json → Prop
  | nil : BlocksReadable tool []
  | call (members : List (String × Json)) (blocks : List Json)
      (hcall : (Json.obj members).getStr? "type" = some "tool_use" ∧
        (Json.obj members).getStr? "name" = some tool)
      (input : Json) (hinput : members.lookup "input" = some input) :
      BlocksReadable tool (.obj members :: blocks)
  | other (members : List (String × Json)) (blocks : List Json)
      (hother : ¬ ((Json.obj members).getStr? "type" = some "tool_use" ∧
        (Json.obj members).getStr? "name" = some tool))
      (hblocks : BlocksReadable tool blocks) : BlocksReadable tool (.obj members :: blocks)

/-- A record without a model output, or whose model output is an object with readable content. -/
def RecordReadable (tool : String) (members : List (String × Json)) : Prop :=
  ∀ modelOutput, members.lookup "modelOutput" = some modelOutput →
    ∃ output blocks, modelOutput = .obj output ∧
      iterate ((output.lookup "content").getD (.arr [])) = .ok blocks ∧ BlocksReadable tool blocks

/-- A record ID that can be looked up. -/
def RecordIdReadable (recordId : Option Json) : Prop :=
  (∀ items, recordId ≠ some (.arr items)) ∧ ∀ members, recordId ≠ some (.obj members)

theorem firstToolUse_eq_ok_iff {tool : String} {blocks : List Json} :
    (∃ input, firstToolUse tool blocks = .ok input) ↔ BlocksReadable tool blocks := by
  induction blocks with
  | nil => exact iff_of_true ⟨none, rfl⟩ .nil
  | cons block blocks ih =>
    rw [firstToolUse]
    cases block with
    | obj members =>
      simp only [asDict, bind, Except.bind]
      by_cases hcall : (Json.obj members).getStr? "type" = some "tool_use" ∧
          (Json.obj members).getStr? "name" = some tool
      · rw [if_pos hcall]
        cases hinput : members.lookup "input" with
        | some input => exact iff_of_true ⟨some input, rfl⟩ (.call _ _ hcall input hinput)
        | none =>
          refine iff_of_false ?_ ?_
          · rintro ⟨_, h⟩
            cases h
          · intro h
            cases h with
            | call _ _ _ input hsome =>
              rw [hinput] at hsome
              cases hsome
            | other _ _ hother _ => exact hother hcall
      · rw [if_neg hcall, ih]
        constructor
        · exact .other members blocks hcall
        · intro h
          cases h with
          | call _ _ hcall' => exact absurd hcall' hcall
          | other _ _ _ hblocks => exact hblocks
    | _ =>
      refine iff_of_false ?_ ?_
      · rintro ⟨_, h⟩
        cases h
      · intro h
        cases h

theorem asDict_eq_ok_iff {json : Json} {members : List (String × Json)} :
    asDict json = .ok members ↔ json = .obj members := by
  cases json with
  | obj members' => simp [asDict]
  | _ =>
    refine iff_of_false ?_ ?_
    · intro h
      cases h
    · intro h
      cases h

section record

variable {M : Type} {py : PyText} {cls : ModelClasses M} {service : Service}

theorem parseRecord_eq_ok_iff {members : List (String × Json)} {item : RequestItem M} {id : String} :
    (∃ result : ItemResult cls, parseRecord py service members item id = .ok result) ↔
      RecordReadable (toolName py cls item.outputModel) members := by
  unfold parseRecord RecordReadable
  cases members.lookup "modelOutput" with
  | none => exact iff_of_true ⟨_, rfl⟩ nofun
  | some modelOutput =>
    constructor
    · rintro ⟨result, h⟩ _ heq
      obtain rfl := Option.some.inj heq
      obtain ⟨output, houtput, h⟩ := Except.bind_eq_ok.mp h
      obtain ⟨blocks, hblocks, h⟩ := Except.bind_eq_ok.mp h
      obtain ⟨input, hinput, -⟩ := Except.bind_eq_ok.mp h
      exact ⟨output, blocks, asDict_eq_ok_iff.mp houtput, hblocks,
        firstToolUse_eq_ok_iff.mp ⟨input, hinput⟩⟩
    · intro h
      obtain ⟨output, blocks, rfl, hblocks, hreadable⟩ := h _ rfl
      obtain ⟨input, hinput⟩ := firstToolUse_eq_ok_iff.mpr hreadable
      simp only [asDict, hblocks, hinput, bind, Except.bind]
      cases input with
      | some input => exact ⟨_, rfl⟩
      | none => exact ⟨_, rfl⟩

end record

/-! ### One line -/

/-- The custom ID among the requested ones that a record ID stands for. -/
def customIdOf {M : Type} (items : Dict String (RequestItem M)) (recordId : String) : Option String :=
  (Dict.ofPairs (items.keys.map fun id => (sanitizeRecordId id, id))).get? recordId

theorem get?_of_customIdOf {M : Type} {items : Dict String (RequestItem M)} {recordId id : String}
    (h : customIdOf items recordId = some id) : ∃ item, items.get? id = some item := by
  obtain ⟨id', hid', heq⟩ := List.mem_map.mp (Dict.mem_of_get?_ofPairs h)
  cases heq
  exact (Dict.mem_keys_iff _ _).mp hid'

section line

variable {M : Type} (py : PyText) (cls : ModelClasses M) (service : Service)
  (items : Dict String (RequestItem M))

/-- The custom ID of a line with its result, if it is a record of one of the items. -/
def lineResult (line : String) : Except PyException (Option (String × ItemResult cls)) := do
  match ← recordOfLine service
      (Dict.ofPairs (items.keys.map fun id => (sanitizeRecordId id, id))) line with
  | none => return none
  | some record =>
    match items.get? record.1 with
    | none => throw (.keyError (py.reprStr record.1))
    | some item => return some (record.1, ← parseRecord py service record.2 item record.1)

variable {cls} in
/-- Puts the result of a line to the others. -/
def putResult (results : Dict String (ItemResult cls)) :
    Option (String × ItemResult cls) → Dict String (ItemResult cls)
  | none => results
  | some (id, result) => results.set id result

/-- The line is an object with a record ID that can be looked up, and readable if it is a record of an
item. -/
def LineReadable (line : String) : Prop :=
  ∃ members, service.jsonLoads line = .ok (.obj members) ∧
    RecordIdReadable (members.lookup "recordId") ∧
    ∀ recordId id item, members.lookup "recordId" = some (.str recordId) →
      customIdOf items recordId = some id → items.get? id = some item →
      RecordReadable (toolName py cls item.outputModel) members

variable {py cls service items}

theorem readLine_eq (results : Dict String (ItemResult cls)) (line : String) :
    readLine py service items (Dict.ofPairs (items.keys.map fun id => (sanitizeRecordId id, id))) results
      line = putResult results <$> lineResult py cls service items line := by
  unfold readLine lineResult
  cases recordOfLine service _ line with
  | error e => rfl
  | ok record =>
    cases record with
    | none => rfl
    | some record =>
      simp only [storeRecord, bind, Except.bind]
      cases items.get? record.1 with
      | none => rfl
      | some item =>
        dsimp only
        cases parseRecord py service record.2 item record.1 <;> rfl

theorem recordOfLine_eq_ok_iff {customIds : Dict String String} {line : String}
    (hline : Text.strip line ≠ "") {o : Option (String × List (String × Json))} :
    recordOfLine service customIds line = .ok o ↔
      ∃ members id?, service.jsonLoads line = .ok (.obj members) ∧
        lookupRecordId customIds (members.lookup "recordId") = .ok id? ∧
        o = id?.map fun id => (id, members) := by
  unfold recordOfLine
  rw [if_neg hline]
  constructor
  · intro h
    obtain ⟨record, hrecord, h⟩ := Except.bind_eq_ok.mp h
    obtain ⟨members, hmembers, h⟩ := Except.bind_eq_ok.mp h
    obtain ⟨id?, hid, ho⟩ := Except.bind_eq_ok.mp h
    obtain rfl := asDict_eq_ok_iff.mp hmembers
    exact ⟨members, id?, hrecord, hid, (Except.pure_eq_ok.mp ho).symm⟩
  · rintro ⟨members, id?, hrecord, hid, rfl⟩
    simp only [hrecord, asDict, hid, bind, Except.bind]
    rfl

theorem lookupRecordId_eq_ok_iff {customIds : Dict String String} {recordId : Option Json} :
    (∃ id?, lookupRecordId customIds recordId = .ok id?) ↔ RecordIdReadable recordId := by
  cases recordId with
  | none => exact iff_of_true ⟨none, rfl⟩ ⟨nofun, nofun⟩
  | some json =>
    cases json with
    | arr items => exact iff_of_false (fun ⟨_, h⟩ => nomatch h) fun h => h.1 items rfl
    | obj members => exact iff_of_false (fun ⟨_, h⟩ => nomatch h) fun h => h.2 members rfl
    | _ => exact iff_of_true ⟨_, rfl⟩ ⟨nofun, nofun⟩

theorem lookupRecordId_eq_some_iff {customIds : Dict String String} {recordId : Option Json}
    {id : String} : lookupRecordId customIds recordId = .ok (some id) ↔
      ∃ text, recordId = some (.str text) ∧ customIds.get? text = some id := by
  cases recordId with
  | none => simp [lookupRecordId]
  | some json =>
    cases json with
    | str text => simp [lookupRecordId]
    | _ => simp [lookupRecordId]

theorem lineResult_eq_ok_iff {line : String} (hline : Text.strip line ≠ "") :
    (∃ o, lineResult py cls service items line = .ok o) ↔ LineReadable py cls service items line := by
  constructor
  · rintro ⟨o, h⟩
    obtain ⟨record, hrecord, h⟩ := Except.bind_eq_ok.mp h
    obtain ⟨members, id?, hloads, hid, rfl⟩ := (recordOfLine_eq_ok_iff hline).mp hrecord
    refine ⟨members, hloads, lookupRecordId_eq_ok_iff.mp ⟨id?, hid⟩, ?_⟩
    intro recordId id item hrecordId hcustomId hitem
    rw [lookupRecordId_eq_some_iff.mpr ⟨recordId, hrecordId, hcustomId⟩] at hid
    cases hid
    rw [Option.map_some] at h
    dsimp only at h
    rw [hitem] at h
    obtain ⟨result, hresult, -⟩ := Except.bind_eq_ok.mp h
    exact parseRecord_eq_ok_iff.mp ⟨result, hresult⟩
  · rintro ⟨members, hloads, hrecordId, hreadable⟩
    obtain ⟨id?, hid⟩ := lookupRecordId_eq_ok_iff.mpr hrecordId
    unfold lineResult
    rw [(recordOfLine_eq_ok_iff hline).mpr ⟨members, id?, hloads, hid, rfl⟩]
    cases id? with
    | none => exact ⟨none, rfl⟩
    | some id =>
      obtain ⟨text, htext, hcustomId⟩ := lookupRecordId_eq_some_iff.mp hid
      obtain ⟨item, hitem⟩ := get?_of_customIdOf hcustomId
      obtain ⟨result, hresult⟩ : ∃ result : ItemResult cls,
          parseRecord py service members item id = .ok result :=
        parseRecord_eq_ok_iff.mpr (hreadable text id item htext hcustomId hitem)
      refine ⟨some (id, result), ?_⟩
      simp only [Option.map_some, bind, Except.bind, hitem, hresult]
      rfl

theorem lineResult_blank {line : String} (hline : Text.strip line = "") :
    lineResult py cls service items line = .ok none := by
  unfold lineResult
  rw [recordOfLine_blank _ hline]
  rfl

/-- A line gives a result exactly if it is a record of an item, and then what `_parse_record` says. -/
theorem lineResult_eq_some_iff {line id : String} {result : ItemResult cls} :
    lineResult py cls service items line = .ok (some (id, result)) ↔
      Text.strip line ≠ "" ∧ ∃ members recordId item, service.jsonLoads line = .ok (.obj members) ∧
        members.lookup "recordId" = some (.str recordId) ∧ customIdOf items recordId = some id ∧
        items.get? id = some item ∧ parseRecord py service members item id = .ok result := by
  constructor
  · intro h
    have hline : Text.strip line ≠ "" := by
      intro hblank
      rw [lineResult_blank hblank] at h
      cases h
    obtain ⟨record, hrecord, h⟩ := Except.bind_eq_ok.mp h
    obtain ⟨members, id?, hloads, hid, rfl⟩ := (recordOfLine_eq_ok_iff hline).mp hrecord
    cases id? with
    | none => cases h
    | some id' =>
      rw [Option.map_some] at h
      dsimp only at h
      obtain ⟨recordId, hrecordId, hcustomId⟩ := lookupRecordId_eq_some_iff.mp hid
      obtain ⟨item, hitem⟩ := get?_of_customIdOf hcustomId
      rw [hitem] at h
      obtain ⟨result', hresult, h⟩ := Except.bind_eq_ok.mp h
      cases h
      exact ⟨hline, members, recordId, item, hloads, hrecordId, hcustomId, hitem, hresult⟩
  · rintro ⟨hline, members, recordId, item, hloads, hrecordId, hcustomId, hitem, hresult⟩
    unfold lineResult
    rw [(recordOfLine_eq_ok_iff hline).mpr ⟨members, some id, hloads,
      lookupRecordId_eq_some_iff.mpr ⟨recordId, hrecordId, hcustomId⟩, rfl⟩]
    simp only [Option.map_some, bind, Except.bind, hitem, hresult]
    rfl

end line

/-! ### The results of an item -/

section own

variable {M : Type} {py : PyText} {cls : ModelClasses M} {service : Service}
  {items : Dict String (RequestItem M)}

/-- The result of a line, if it is for the ID. -/
def own (id : String) (o : Option (String × ItemResult cls)) : Option (ItemResult cls) :=
  (o.filter fun p => p.1 = id).map Prod.snd

theorem own_eq_some_iff {id : String} {o : Option (String × ItemResult cls)} {result : ItemResult cls} :
    own id o = some result ↔ o = some (id, result) := by
  unfold own
  rw [Option.map_eq_some_iff]
  constructor
  · rintro ⟨⟨id', result'⟩, h, rfl⟩
    obtain ⟨rfl, hid⟩ := Option.filter_eq_some_iff.mp h
    obtain rfl : id' = id := of_decide_eq_true hid
    rfl
  · rintro rfl
    exact ⟨(id, result), Option.filter_eq_some_iff.mpr ⟨rfl, by simp⟩, rfl⟩

/-- The last result of an ID is the one that stays. -/
theorem get?_foldl_putResult (os : List (Option (String × ItemResult cls)))
    (results : Dict String (ItemResult cls)) (id : String) :
    (os.foldl putResult results).get? id = (os.filterMap (own id)).getLast?.or (results.get? id) := by
  induction os generalizing results with
  | nil => rw [List.foldl_nil, List.filterMap_nil, List.getLast?_nil, Option.none_or]
  | cons o os ih =>
    rw [List.foldl_cons, ih]
    cases o with
    | none => rw [List.filterMap_cons_none rfl, putResult]
    | some p =>
      obtain ⟨id', result⟩ := p
      rw [putResult, Dict.get?_set]
      by_cases hid : id = id'
      · subst hid
        rw [List.filterMap_cons_some (own_eq_some_iff.mpr rfl), if_pos rfl, List.getLast?_cons]
        cases (os.filterMap (own id)).getLast? <;> rfl
      · have hnone : own id (some (id', result)) = none := by
          rw [Option.eq_none_iff_forall_ne_some]
          intro r hr
          rw [own_eq_some_iff, Option.some.injEq, Prod.mk.injEq] at hr
          exact hid hr.1.symm
        rw [List.filterMap_cons_none hnone, if_neg hid]

variable (py cls service items) in
/-- The result of a line for the ID, if it can be read. -/
def usableResult (id line : String) : Option (ItemResult cls) :=
  own id (lineResult py cls service items line).toOption.join

variable (py cls service items) in
/-- The results of the well-formed records for the ID, in the order of the files. -/
def usableResults (contents : List (Except PyException String)) (id : String) :
    List (ItemResult cls) :=
  contents.flatMap fun content =>
    (content.toOption.elim [] Text.splitlines).filterMap (usableResult py cls service items id)

theorem usableResult_eq_some_iff {id line : String} {result : ItemResult cls} :
    usableResult py cls service items id line = some result ↔
      lineResult py cls service items line = .ok (some (id, result)) := by
  rw [usableResult, own_eq_some_iff]
  cases lineResult py cls service items line with
  | error e => exact iff_of_false nofun nofun
  | ok o => simp [Except.toOption]

theorem filterMap_usableResult {lines : List String} {os : List (Option (String × ItemResult cls))}
    (h : List.Forall₂ (fun line o => lineResult py cls service items line = .ok o) lines os)
    (id : String) : lines.filterMap (usableResult py cls service items id) = os.filterMap (own id) := by
  induction h with
  | nil => rfl
  | cons hline _ ih =>
    rw [List.filterMap_cons, List.filterMap_cons, usableResult, hline, ih]
    rfl

theorem usableResults_singleton (body id : String) :
    usableResults py cls service items [.ok body] id =
      (Text.splitlines body).filterMap (usableResult py cls service items id) :=
  List.flatMap_singleton _ _

theorem LineReadable.of_record {line : String} {record : OutputRecord}
    (hloads : service.jsonLoads line = .ok (.obj record.members))
    (hreadable : ∀ tool, RecordReadable tool record.members) : LineReadable py cls service items line := by
  refine ⟨record.members, hloads, ?_, fun _ _ _ _ _ _ => hreadable _⟩
  rw [record.recordId_eq]
  exact ⟨nofun, nofun⟩

theorem usableResult_record_iff {line id : String} {record : OutputRecord} {result : ItemResult cls}
    (hline : Text.strip line ≠ "") (hloads : service.jsonLoads line = .ok (.obj record.members)) :
    usableResult py cls service items id line = some result ↔
      customIdOf items record.recordId = some id ∧
        ∃ item, items.get? id = some item ∧
          parseRecord py service record.members item id = .ok result := by
  rw [usableResult_eq_some_iff, lineResult_eq_some_iff]
  constructor
  · rintro ⟨-, members, recordId, item, hloads', hrecordId, hid, hitem, hresult⟩
    have hmembers := hloads.symm.trans hloads'
    cases hmembers
    have hsame := record.recordId_eq.symm.trans hrecordId
    cases hsame
    exact ⟨hid, item, hitem, hresult⟩
  · rintro ⟨hid, item, hitem, hresult⟩
    exact ⟨hline, _, _, item, hloads, record.recordId_eq, hid, hitem, hresult⟩

theorem mem_keys_of_mem_usableResults {contents : List (Except PyException String)} {id : String}
    {result : ItemResult cls} (h : result ∈ usableResults py cls service items contents id) :
    id ∈ items.keys := by
  obtain ⟨content, -, hresult⟩ := List.mem_flatMap.mp h
  obtain ⟨line, -, hline⟩ := List.mem_filterMap.mp hresult
  obtain ⟨-, -, -, item, -, -, -, hitem, -⟩ :=
    lineResult_eq_some_iff.mp (usableResult_eq_some_iff.mp hline)
  exact (Dict.mem_keys_iff _ _).mpr ⟨item, hitem⟩

end own

/-! ### The files -/

/-- What reading the result files of a job comes to: a text, or an exception when it is not UTF-8. -/
def HoldsFiles (service : Service) (jobArn : String) (contents : List (Except PyException String)) :
    Prop :=
  ∃ outputUri location pages, service.getModelInvocationJob jobArn = .ok outputUri ∧
    parseS3Uri service outputUri = .ok location ∧
    service.paginate location.1 location.2 = .ok pages ∧
    contents = ((pages.flatMap fun page => page.getD []).filter isOutputKey).map
      (service.getObject location.1)

section files

variable {M : Type} (py : PyText) (cls : ModelClasses M) (service : Service)
  (items : Dict String (RequestItem M))

/-- What the lines of a file give. -/
def contentResults (content : Except PyException String) :
    Except PyException (List (Option (String × ItemResult cls))) := do
  let body ← content
  (Text.splitlines body).mapM (lineResult py cls service items)

/-- Every file is a text, and each of its lines is blank or readable. -/
def FilesReadable (contents : List (Except PyException String)) : Prop :=
  ∀ content ∈ contents, ∃ body, content = .ok body ∧
    ∀ line ∈ bodyLines body, LineReadable py cls service items line

variable {py cls service items}

theorem contentResults_eq_ok_iff {content : Except PyException String} :
    (∃ os, contentResults py cls service items content = .ok os) ↔
      ∃ body, content = .ok body ∧
        ∀ line ∈ bodyLines body, LineReadable py cls service items line := by
  cases content with
  | error e => exact iff_of_false (fun ⟨_, h⟩ => nomatch h) (fun ⟨_, h, _⟩ => nomatch h)
  | ok body =>
    have hlines : (∃ os, contentResults py cls service items (.ok body) = .ok os) ↔
        ∀ line ∈ Text.splitlines body, ∃ o, lineResult py cls service items line = .ok o :=
      Loop.exists_mapM_eq_ok_iff
    rw [hlines]
    constructor
    · refine fun h => ⟨body, rfl, fun line hline => ?_⟩
      obtain ⟨hmem, hblank⟩ := List.mem_filter.mp hline
      exact (lineResult_eq_ok_iff (by simpa using hblank)).mp (h line hmem)
    · rintro ⟨_, hbody, h⟩ line hmem
      cases hbody
      by_cases hblank : Text.strip line = ""
      · exact ⟨none, lineResult_blank hblank⟩
      · refine (lineResult_eq_ok_iff hblank).mpr (h line ?_)
        exact List.mem_filter.mpr ⟨hmem, by simpa using hblank⟩

theorem foldlM_readObject_eq (bucket : String) (keys : List String)
    (results : Dict String (ItemResult cls)) :
    keys.foldlM (readObject py service items
        (Dict.ofPairs (items.keys.map fun id => (sanitizeRecordId id, id))) bucket) results =
      (fun os => os.flatten.foldl putResult results) <$>
        ((keys.filter isOutputKey).map (service.getObject bucket)).mapM
          (contentResults py cls service items) := by
  induction keys generalizing results with
  | nil => rfl
  | cons key keys ih =>
    rw [List.foldlM_cons, readObject]
    by_cases hkey : isOutputKey key = true
    · rw [if_pos hkey, List.filter_cons_of_pos hkey, List.map_cons, List.mapM_cons]
      cases service.getObject bucket key with
      | error e => rfl
      | ok body =>
        simp only [contentResults, bind, Except.bind]
        rw [Loop.foldlM_eq_map_mapM readLine_eq]
        cases (Text.splitlines body).mapM (lineResult py cls service items) with
        | error e => rfl
        | ok os =>
          change keys.foldlM _ (os.foldl putResult results) = _
          rw [ih]
          change _ = _ <$> (do
            let rest ← ((keys.filter isOutputKey).map (service.getObject bucket)).mapM
              (contentResults py cls service items)
            return os :: rest)
          cases ((keys.filter isOutputKey).map (service.getObject bucket)).mapM
              (contentResults py cls service items) with
          | error e => rfl
          | ok rest =>
            refine congrArg Except.ok ?_
            dsimp only
            rw [List.flatten_cons, List.foldl_append]
    · rw [if_neg hkey, List.filter_cons_of_neg hkey]
      exact ih results

/-- Fetching is reading every line, and then putting the results together. -/
theorem fetchSingleJobResults_eq {jobArn : String} {contents : List (Except PyException String)}
    (hfiles : HoldsFiles service jobArn contents) :
    (fetchSingleJobResults py service jobArn items : Except PyException (Dict String (ItemResult cls))) =
      do
        let os ← contents.mapM (contentResults py cls service items)
        return fillMissing "no output record found for this custom_id"
          (os.flatten.foldl putResult .empty) items.keys := by
  obtain ⟨outputUri, location, pages, huri, hlocation, hpages, rfl⟩ := hfiles
  unfold fetchSingleJobResults
  simp only [huri, hlocation, hpages, bind, Except.bind]
  rw [foldlM_pages, foldlM_readObject_eq]
  cases List.mapM (contentResults py cls service items) _ <;> rfl

theorem filterMap_own_flatten {contents : List (Except PyException String)}
    {os : List (List (Option (String × ItemResult cls)))}
    (h : List.Forall₂ (fun content os => contentResults py cls service items content = .ok os)
      contents os) (id : String) :
    os.flatten.filterMap (own id) = usableResults py cls service items contents id := by
  induction h with
  | nil => rfl
  | @cons content os _ _ hcontent _ ih =>
    rw [List.flatten_cons, List.filterMap_append, ih, usableResults, usableResults,
      List.flatMap_cons]
    refine congrArg (· ++ _) ?_
    cases content with
    | error e => cases hcontent
    | ok body => exact (filterMap_usableResult (Loop.mapM_eq_ok_iff.mp hcontent) id).symm

/-- One bad line costs at most its own item: there is a result for every item and for no other, the one
well-formed record of an item gives its result, and an item without one has failed. -/
structure Isolates (py : PyText) (cls : ModelClasses M) (service : Service)
    (items : Dict String (RequestItem M)) (contents : List (Except PyException String))
    (results : Dict String (ItemResult cls)) : Prop where
  keys : ∀ id, id ∈ results.keys ↔ id ∈ items.keys
  single : ∀ id result, usableResults py cls service items contents id = [result] →
    results.get? id = some result
  failed : ∀ id ∈ items.keys, usableResults py cls service items contents id = [] →
    ∃ result, results.get? id = some result ∧ result.success = false

/-- **One bad line costs at most its own item exactly if there is none: every file is a text, and each of
its lines is blank or a record that can be read.** -/
theorem fetch_isolates_iff {jobArn : String} {contents : List (Except PyException String)}
    (hfiles : HoldsFiles service jobArn contents) :
    (∃ results : Dict String (ItemResult cls),
      fetchSingleJobResults py service jobArn items = .ok results ∧
        Isolates py cls service items contents results) ↔
      FilesReadable py cls service items contents := by
  have hreadable : FilesReadable py cls service items contents ↔
      ∃ os, contents.mapM (contentResults py cls service items) = .ok os := by
    rw [Loop.exists_mapM_eq_ok_iff]
    exact forall₂_congr fun content _ => contentResults_eq_ok_iff.symm
  rw [hreadable, fetchSingleJobResults_eq hfiles]
  constructor
  · rintro ⟨results, hfetch, -⟩
    obtain ⟨os, hos, -⟩ := Except.bind_eq_ok.mp hfetch
    exact ⟨os, hos⟩
  · rintro ⟨os, hos⟩
    rw [hos]
    refine ⟨_, rfl, ?_⟩
    have hget : ∀ id, (fillMissing "no output record found for this custom_id"
          (os.flatten.foldl putResult .empty) items.keys).get? id =
        (usableResults py cls service items contents id).getLast?.or
          (if id ∈ items.keys then
            some (.failed id "no output record found for this custom_id") else none) := by
      intro id
      rw [get?_fillMissing, get?_foldl_putResult, Dict.get?_empty, Option.or_none,
        filterMap_own_flatten (Loop.mapM_eq_ok_iff.mp hos)]
    constructor
    · intro id
      rw [Dict.mem_keys_iff, hget]
      constructor
      · rintro ⟨result, hresult⟩
        by_contra hid
        rw [if_neg hid, Option.or_none] at hresult
        exact hid (mem_keys_of_mem_usableResults (List.mem_of_getLast? hresult))
      · intro hid
        rw [if_pos hid]
        cases (usableResults py cls service items contents id).getLast? with
        | some result => exact ⟨result, rfl⟩
        | none => exact ⟨_, rfl⟩
    · intro id result hsingle
      rw [hget, hsingle]
      rfl
    · intro id hid hnone
      rw [hget, hnone, if_pos hid]
      exact ⟨_, rfl, rfl⟩

end files

/-! ### A file with records of other items -/

/-- A service whose only file has the given body. -/
def fileService (loads : String → Except PyException Json) (body : String) : Service :=
  { summaryService with
    jsonLoads := loads
    paginate _ keyPrefix := .ok [some [keyPrefix ++ "records.jsonl.out"]]
    getObject _ _ := .ok body }

theorem holdsFiles_fileService (loads : String → Except PyException Json) (body : String) :
    HoldsFiles (fileService loads body) "job-1" [.ok body] := by
  have hlocation : parseS3Uri summaryService "s3://bucket/output/check-0123456789ab/" =
      .ok ("bucket", "output/check-0123456789ab/") := by decide +kernel
  exact ⟨_, _, _, rfl, hlocation, rfl, rfl⟩

theorem jsonLoads_fileService (message body : String) {record : OutputRecord}
    (hwf : JsonCodec.WellFormed (.obj record.members)) :
    (fileService (jsonLoads message) body).jsonLoads record.line = .ok (.obj record.members) :=
  jsonLoads_line message hwf

theorem readable_summaryRecord (tool : String) : RecordReadable tool summaryRecord.members := by
  rintro modelOutput ⟨⟩
  have htext : ¬ ((Json.obj [("type", .str "text"), ("text", .str "So:")]).getStr? "type" =
      some "tool_use" ∧ (Json.obj [("type", .str "text"), ("text", .str "So:")]).getStr? "name" =
        some tool) := by
    rintro ⟨htype, -⟩
    exact absurd htype (by decide)
  refine ⟨_, _, rfl, rfl, .other _ _ htext ?_⟩
  by_cases htool : tool = "emit_finalsummary"
  · subst htool
    exact .call _ _ (by decide +kernel) _ rfl
  · refine .other _ _ ?_ .nil
    rintro ⟨-, hname⟩
    exact htool (Option.some.inj hname).symm

theorem readable_refusedRecord (recordId tool : String) :
    RecordReadable tool (refusedRecord recordId).members := by
  rintro modelOutput ⟨⟩

/-- The item of the summary alone. -/
def summaryItems : Dict String (RequestItem OutputModel) := itemsById [summaryItem]

/-- Three summaries. -/
def threeItems : Dict String (RequestItem OutputModel) :=
  itemsById [summaryItem, { summaryItem with customId := "c0:r1:summary" },
    { summaryItem with customId := "c0:r2:summary" }]

def summaryResult : ItemResult summaryClasses where
  customId := "c0:r0:summary"
  success := true
  value := some ⟨.finalSummary, ⟨"Fine."⟩⟩

/-- The second summary was refused, there is a record of no item, and none of the third. -/
def threeRecords : List OutputRecord :=
  [refusedRecord "c0_r1_summary", refusedRecord "c9_r9_summary", summaryRecord]

def threeService : Service :=
  fileService (jsonLoads "Expecting value: line 1 column 1 (char 0)")
    ("\n".intercalate (threeRecords.map (·.line)))

theorem fetch_isolates_summary : ∃ results : Dict String (ItemResult summaryClasses),
    fetchSingleJobResults .plain threeService "job-1" threeItems = .ok results ∧
    Isolates .plain summaryClasses threeService threeItems
      [.ok ("\n".intercalate (threeRecords.map (·.line)))] results := by
  refine (fetch_isolates_iff (holdsFiles_fileService _ _)).mpr fun content hcontent => ?_
  obtain rfl := List.mem_singleton.mp hcontent
  have hwf : ∀ record ∈ threeRecords, JsonCodec.WellFormed (.obj record.members) := by
    simp [threeRecords, wellFormed_refusedRecord, wellFormed_summaryRecord]
  have hreadable : ∀ record ∈ threeRecords, ∀ tool, RecordReadable tool record.members := by
    simp [threeRecords, readable_refusedRecord, readable_summaryRecord]
  refine ⟨_, rfl, fun line hline => ?_⟩
  rw [bodyLines_lines hwf] at hline
  obtain ⟨record, hrecord, rfl⟩ := List.mem_map.mp hline
  exact .of_record (jsonLoads_fileService _ _ (hwf record hrecord)) (hreadable record hrecord)

/-! ### A truncated line -/

theorem splitlines_truncated :
    Text.splitlines ("\x7b\n" ++ summaryRecord.line) = ["\x7b", summaryRecord.line] := by
  have hjoin : "\x7b\n" ++ summaryRecord.line = "\n".intercalate ["\x7b", summaryRecord.line] := by
    rw [String.intercalate_cons_cons, String.intercalate_singleton]
    rfl
  have hline := splitlines_lines (List.forall_mem_singleton.mpr wellFormed_summaryRecord)
  rw [hjoin]
  refine Text.splitlines_intercalate ?_ ?_
  · simp only [List.forall_mem_cons]
    refine ⟨by decide, ?_, by simp⟩
    intro hempty
    exact summaryRecord.strip_line_ne (by rw [hempty]; rfl)
  · simp only [List.forall_mem_cons]
    refine ⟨by simp [Text.isLineBreak], ?_, by simp⟩
    rw [List.map_singleton, String.intercalate_singleton] at hline
    exact Text.isLineBreak_of_mem_splitlines (hline ▸ List.mem_singleton_self _)

theorem fetch_of_bad_line {loads : String → Except PyException Json} {body first : String}
    {rest : List String} {e : PyException} {items : Dict String (RequestItem OutputModel)}
    (hlines : Text.splitlines body = first :: rest) (hblank : Text.strip first ≠ "")
    (hbad : loads first = .error e) :
    (fetchSingleJobResults .plain (fileService loads body) "job-1" items :
        Except PyException (Dict String (ItemResult summaryClasses))) = .error e := by
  have hloads : (fileService loads body).jsonLoads first = .error e := hbad
  have hline : lineResult .plain summaryClasses (fileService loads body) items first = .error e := by
    unfold lineResult recordOfLine
    rw [if_neg hblank, hloads]
    rfl
  have hcontent : contentResults .plain summaryClasses (fileService loads body) items (.ok body) =
      .error e := by
    unfold contentResults
    simp only [bind, Except.bind]
    rw [hlines, List.mapM_cons, hline]
    rfl
  rw [fetchSingleJobResults_eq (holdsFiles_fileService _ _), List.mapM_cons, hcontent]
  rfl

/-- What `json.loads` says of a text that ends after its first brace. -/
def truncatedService : Service :=
  fileService (jsonLoads "Expecting property name enclosed in double quotes: line 1 column 2 (char 1)")
    ("\x7b\n" ++ summaryRecord.line)

/-- A truncated line loses the result of the record after it. -/
theorem truncated_line_loses_record :
    HoldsFiles truncatedService "job-1" [.ok ("\x7b\n" ++ summaryRecord.line)] ∧
    usableResults .plain summaryClasses truncatedService summaryItems
        [.ok ("\x7b\n" ++ summaryRecord.line)] "c0:r0:summary" = [summaryResult] ∧
    (fetchSingleJobResults .plain truncatedService "job-1" summaryItems :
        Except PyException (Dict String (ItemResult summaryClasses))) =
      .error (.raised "JSONDecodeError"
        "Expecting property name enclosed in double quotes: line 1 column 2 (char 1)") := by
  have hbad : JsonCodec.loads "\x7b".toList = none := by rfl
  have hrefused : jsonLoads "Expecting property name enclosed in double quotes: line 1 column 2 (char 1)"
      "\x7b" = .error (.raised "JSONDecodeError"
        "Expecting property name enclosed in double quotes: line 1 column 2 (char 1)") := by
    rw [jsonLoads, hbad]
  refine ⟨holdsFiles_fileService _ _, ?_, fetch_of_bad_line splitlines_truncated (by decide) hrefused⟩
  have hnone : usableResult .plain summaryClasses truncatedService summaryItems "c0:r0:summary"
      "\x7b" = none := by
    rw [Option.eq_none_iff_forall_ne_some]
    intro result hresult
    obtain ⟨-, members, -, -, hloads, -⟩ :=
      lineResult_eq_some_iff.mp (usableResult_eq_some_iff.mp hresult)
    cases hrefused.symm.trans hloads
  have hsome : usableResult .plain summaryClasses truncatedService summaryItems "c0:r0:summary"
      summaryRecord.line = some summaryResult := by
    have hloads : truncatedService.jsonLoads summaryRecord.line = .ok (.obj summaryRecord.members) :=
      jsonLoads_fileService _ _ wellFormed_summaryRecord
    have htool : toolName .plain summaryClasses summaryItem.outputModel = "emit_finalsummary" := by
      decide
    have hcustomId : customIdOf summaryItems summaryRecord.recordId = some "c0:r0:summary" := by decide
    have hitem : summaryItems.get? "c0:r0:summary" = some summaryItem := rfl
    have hparse : parseRecord .plain truncatedService summaryRecord.members summaryItem
        "c0:r0:summary" = .ok summaryResult := by
      unfold parseRecord
      rw [htool]
      rfl
    exact (usableResult_record_iff summaryRecord.strip_line_ne hloads).mpr
      ⟨hcustomId, summaryItem, hitem, hparse⟩
  rw [usableResults_singleton, splitlines_truncated, List.filterMap_cons_none hnone,
    List.filterMap_cons_some hsome, List.filterMap_nil]

end RefCheck.Bedrock
