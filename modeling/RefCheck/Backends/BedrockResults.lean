import RefCheck.Backends.Bedrock
import RefCheck.Lib.JsonCodec

/-!
# The results of the Bedrock backend

If every job is taken, ends, and its files hold for each of its items the record of what came of it, in
any order and among records of other IDs, the results answer the items (`answers`): those of one job
answer its own items (`fetchSingleJobResults_eq_storeRecord`), and the items of the jobs are a partition.
-/

namespace RefCheck.Bedrock

/-! ### What the service writes -/

/-- A result record: an object with a record ID. -/
structure OutputRecord where
  recordId : String
  members : List (String × Json)
  recordId_eq : members.lookup "recordId" = some (.str recordId)

/-- A content block as JSON. -/
inductive BlockSent : ContentBlock → Json → Prop
  | toolUse (name : String) (input : Json) (members : List (String × Json))
      (htype : (Json.obj members).getStr? "type" = some "tool_use")
      (hname : (Json.obj members).getStr? "name" = some name)
      (hinput : members.lookup "input" = some input) : BlockSent (.toolUse name input) (.obj members)
  | other (type : String) (hother : type ≠ "tool_use") (members : List (String × Json))
      (htype : (Json.obj members).getStr? "type" = some type) :
      BlockSent (.other type hother) (.obj members)

/-- The records that are written for an outcome. -/
inductive Sent : Outcome → List (List (String × Json)) → Prop
  | error (members : List (String × Json)) (houtput : members.lookup "modelOutput" = none) :
      Sent .error [members]
  | missing : Sent .missing []
  | content (blocks : List ContentBlock) (members output : List (String × Json)) (items : List Json)
      (houtput : members.lookup "modelOutput" = some (.obj output))
      (hcontent : output.lookup "content" = some (.arr items))
      (hblocks : List.Forall₂ BlockSent blocks items) : Sent (.content blocks) [members]

/-- The lines of a file that are not blank. -/
def bodyLines (body : String) : List String :=
  (Text.splitlines body).filter fun line => Text.strip line ≠ ""

/-- The line of a record. -/
def OutputRecord.line (record : OutputRecord) : String :=
  String.ofList (JsonCodec.dumps (.obj record.members))

theorem OutputRecord.loads_line {record : OutputRecord}
    (hwf : JsonCodec.WellFormed (.obj record.members)) :
    JsonCodec.loads record.line.toList = some (.obj record.members) := by
  rw [OutputRecord.line, String.toList_ofList, JsonCodec.loads_dumps hwf]

theorem OutputRecord.strip_line_ne (record : OutputRecord) : Text.strip record.line ≠ "" := by
  refine Text.strip_ne_empty (c := '\x7b') ?_ (by decide)
  rw [OutputRecord.line, String.toList_ofList]
  cases record.members <;> exact List.mem_cons_self

theorem splitlines_lines {records : List OutputRecord}
    (hwf : ∀ record ∈ records, JsonCodec.WellFormed (.obj record.members)) :
    Text.splitlines ("\n".intercalate (records.map (·.line))) = records.map (·.line) := by
  refine Text.splitlines_intercalate ?_ ?_
  · rw [List.forall_mem_map]
    intro record _ hempty
    exact record.strip_line_ne (by rw [hempty]; rfl)
  · rw [List.forall_mem_map]
    intro record hrecord c hc
    rw [OutputRecord.line, String.toList_ofList] at hc
    exact (JsonCodec.printable_dumps (hwf record hrecord) c hc).isLineBreak_eq

theorem bodyLines_lines {records : List OutputRecord}
    (hwf : ∀ record ∈ records, JsonCodec.WellFormed (.obj record.members)) :
    bodyLines ("\n".intercalate (records.map (·.line))) = records.map (·.line) := by
  rw [bodyLines, splitlines_lines hwf, List.filter_eq_self, List.forall_mem_map]
  exact fun record _ => decide_eq_true record.strip_line_ne

/-- The records are those on the lines of the result files of a job. -/
def Writes (service : Service) (jobArn : String) (records : List OutputRecord) : Prop :=
  ∃ outputUri location pages bodies, service.getModelInvocationJob jobArn = .ok outputUri ∧
    parseS3Uri service outputUri = .ok location ∧
    service.paginate location.1 location.2 = .ok pages ∧
    List.Forall₂ (fun key body => service.getObject location.1 key = .ok body)
      ((pages.flatMap fun page => page.getD []).filter isOutputKey) bodies ∧
    List.Forall₂ (fun line (record : OutputRecord) =>
        service.jsonLoads line = .ok (.obj record.members))
      (bodies.flatMap bodyLines) records

/-- One file with the records on lines of their own. -/
theorem Writes.of_lines {service : Service} {jobArn uri bucket keyPrefix : String} (key : String)
    {pages : List (Option (List String))} {records : List OutputRecord}
    (huri : service.getModelInvocationJob jobArn = .ok uri)
    (hlocation : parseS3Uri service uri = .ok (bucket, keyPrefix))
    (hpages : service.paginate bucket keyPrefix = .ok pages)
    (hkeys : (pages.flatMap fun page => page.getD []).filter isOutputKey = [key])
    (hbody : service.getObject bucket key = .ok ("\n".intercalate (records.map (·.line))))
    (hwf : ∀ record ∈ records, JsonCodec.WellFormed (.obj record.members))
    (hloads : ∀ record ∈ records, service.jsonLoads record.line = .ok (.obj record.members)) :
    Writes service jobArn records := by
  refine ⟨uri, (bucket, keyPrefix), pages, ["\n".intercalate (records.map (·.line))], huri, hlocation,
    hpages, ?_, ?_⟩
  · rw [hkeys]
    exact .cons hbody .nil
  · rw [List.flatMap_singleton, bodyLines_lines hwf, List.forall₂_map_left_iff, List.forall₂_same]
    exact hloads

section job

variable {M : Type} {py : PyText} {cls : ModelClasses M} {service : Service}

/-- The records hold the outcome of every item, under its record ID. -/
def HoldsOutcomes (items : List (RequestItem M)) (outcome : String → Outcome)
    (records : List OutputRecord) : Prop :=
  ∀ item ∈ items, Sent (outcome item.customId)
    ((records.filter (fun record => record.recordId = sanitizeRecordId item.customId)).map
      (·.members))

/-! ### One record -/

theorem firstToolUse_eq {blocks : List ContentBlock} {items : List Json} (tool : String)
    (h : List.Forall₂ BlockSent blocks items) :
    firstToolUse tool items = .ok (blocks.findSome? (ContentBlock.input? tool)) := by
  induction h with
  | nil => rfl
  | cons hblock _ ih =>
    cases hblock with
    | toolUse name input members htype hname hinput =>
      rw [firstToolUse, List.findSome?_cons, ContentBlock.input?]
      by_cases htool : name = tool
      · subst htool
        simp [asDict, htype, hname, hinput, bind, Except.bind, pure, Except.pure]
      · simp [asDict, htype, hname, htool, ih, bind, Except.bind]
    | other type hother members htype =>
      rw [firstToolUse, List.findSome?_cons, ContentBlock.input?]
      simp [asDict, htype, hother, ih, bind, Except.bind]

theorem parseRecord_reports {item : RequestItem M} {outcome : Outcome}
    {members : List (String × Json)} (h : Sent outcome [members]) :
    ∃ result : ItemResult cls, parseRecord py service members item item.customId = .ok result ∧
      result.Reports py item outcome := by
  unfold parseRecord
  cases h with
  | error _ houtput =>
    rw [houtput]
    exact ⟨_, rfl, reports_failed _ rfl⟩
  | content blocks _ output items houtput hcontent hblocks =>
    rw [houtput]
    simp only [asDict, hcontent, Option.getD_some, iterate, firstToolUse_eq _ hblocks, bind,
      Except.bind]
    cases hinput : blocks.findSome? (ContentBlock.input? (toolName py cls item.outputModel)) with
    | some input =>
      have hout : (Outcome.content blocks).input? (toolName py cls item.outputModel) = some input :=
        hinput
      exact ⟨_, rfl, reports_validatedResult hout⟩
    | none =>
      have hout : (Outcome.content blocks).input? (toolName py cls item.outputModel) = none := hinput
      exact ⟨_, rfl, reports_failed _ hout⟩

/-! ### The lines -/

theorem recordOfLine_blank {line : String} (customIds : Dict String String)
    (h : Text.strip line = "") : recordOfLine service customIds line = .ok none :=
  if_pos h

theorem recordOfLine_record {line : String} {record : OutputRecord} (customIds : Dict String String)
    (hline : Text.strip line ≠ "") (h : service.jsonLoads line = .ok (.obj record.members)) :
    recordOfLine service customIds line =
      .ok ((customIds.get? record.recordId).map fun id => (id, record.members)) := by
  unfold recordOfLine
  rw [if_neg hline, h]
  simp only [bind, Except.bind, asDict, record.recordId_eq, lookupRecordId]
  rfl

theorem foldlM_readLine {items : Dict String (RequestItem M)} {customIds : Dict String String}
    {lines : List String} {records : List OutputRecord}
    (h : List.Forall₂ (fun line (record : OutputRecord) =>
        service.jsonLoads line = .ok (.obj record.members))
      (lines.filter fun line => Text.strip line ≠ "") records)
    (results : Dict String (ItemResult cls)) :
    lines.foldlM (readLine py service items customIds) results =
      (records.filterMap fun record =>
        (customIds.get? record.recordId).map fun id => (id, record.members)).foldlM
          (storeRecord py service items) results := by
  induction lines generalizing records results with
  | nil =>
    cases h
    rfl
  | cons line lines ih =>
    rw [List.foldlM_cons, readLine]
    by_cases hline : Text.strip line = ""
    · rw [recordOfLine_blank _ hline]
      rw [List.filter_cons_of_neg (by simpa using hline)] at h
      exact ih h results
    · rw [List.filter_cons_of_pos (by simpa using hline)] at h
      cases h with
      | cons hrecord hrest =>
        rw [recordOfLine_record _ hline hrecord, List.filterMap_cons]
        cases customIds.get? _ with
        | none => exact ih hrest results
        | some id =>
          rw [Option.map_some, List.foldlM_cons]
          refine congrArg _ ?_
          funext results'
          exact ih hrest results'

/-! ### The files -/

theorem foldlM_pages {S : Type} (f : S → String → Except PyException S)
    (pages : List (Option (List String))) (s : S) :
    pages.foldlM (fun s page => (page.getD []).foldlM f s) s =
      (pages.flatMap fun page => page.getD []).foldlM f s := by
  induction pages generalizing s with
  | nil => rfl
  | cons page pages ih =>
    rw [List.foldlM_cons, List.flatMap_cons, List.foldlM_append]
    refine congrArg _ ?_
    funext s'
    exact ih s'

theorem foldlM_readObject {items : Dict String (RequestItem M)} {customIds : Dict String String}
    {bucket : String} {keys bodies : List String}
    (h : List.Forall₂ (fun key body => service.getObject bucket key = .ok body)
      (keys.filter isOutputKey) bodies)
    (results : Dict String (ItemResult cls)) :
    keys.foldlM (readObject py service items customIds bucket) results =
      (bodies.flatMap Text.splitlines).foldlM (readLine py service items customIds) results := by
  induction keys generalizing bodies results with
  | nil =>
    cases h
    rfl
  | cons key keys ih =>
    rw [List.foldlM_cons, readObject]
    by_cases hkey : isOutputKey key = true
    · rw [List.filter_cons_of_pos hkey] at h
      cases h with
      | cons hbody hrest =>
        rw [if_pos hkey, hbody, List.flatMap_cons, List.foldlM_append]
        refine congrArg _ ?_
        funext results'
        exact ih hrest results'
    · rw [List.filter_cons_of_neg hkey] at h
      rw [if_neg hkey]
      exact ih h results

/-- The loops over pages, objects and lines store the records of the items. -/
theorem fetchSingleJobResults_eq_storeRecord {jobArn : String} {records : List OutputRecord}
    (hwrites : Writes service jobArn records) (items : Dict String (RequestItem M)) :
    (fetchSingleJobResults py service jobArn items : Except PyException (Dict String (ItemResult cls))) =
      do
        let results ← (records.filterMap fun record =>
          ((Dict.ofPairs (items.keys.map fun id => (sanitizeRecordId id, id))).get?
            record.recordId).map fun id => (id, record.members)).foldlM
              (storeRecord py service items) .empty
        return fillMissing "no output record found for this custom_id" results items.keys := by
  obtain ⟨outputUri, location, pages, bodies, huri, hlocation, hpages, hbodies, hlines⟩ := hwrites
  unfold fetchSingleJobResults
  rw [huri]
  simp only [bind, Except.bind, hlocation, hpages]
  unfold bodyLines at hlines
  rw [← List.filter_flatMap] at hlines
  rw [foldlM_pages, foldlM_readObject hbodies, foldlM_readLine hlines]

/-! ### One job -/

/-- What a record stores. -/
def storeEffect (py : PyText) (service : Service) (items : Dict String (RequestItem M))
    (_ : Option (ItemResult cls)) (record : String × List (String × Json)) :
    Except PyException (Option (ItemResult cls)) :=
  match items.get? record.1 with
  | none => .error (.keyError (py.reprStr record.1))
  | some item => some <$> parseRecord py service record.2 item record.1

theorem storeRecord_eq (items : Dict String (RequestItem M)) :
    (storeRecord py service items : Dict String (ItemResult cls) → _ → _) =
      Loop.rowStep Dict.get? Dict.set Prod.fst (storeEffect py service items) := by
  funext results record
  unfold storeRecord Loop.rowStep storeEffect
  cases items.get? record.1 with
  | none => rfl
  | some item =>
    dsimp only
    cases parseRecord py service record.2 item record.1 <;> rfl

/-- The dictionary holds the items of a job, whose record IDs differ. -/
structure JobItems (d : Dict String (RequestItem M)) (items : List (RequestItem M)) : Prop where
  get? : ∀ item ∈ items, d.get? item.customId = some item
  keys : ∀ id, id ∈ d.keys ↔ id ∈ items.map (·.customId)
  distinct : ∀ id ∈ d.keys, ∀ id' ∈ d.keys, sanitizeRecordId id = sanitizeRecordId id' → id = id'

variable {d : Dict String (RequestItem M)} {items : List (RequestItem M)}
  {outcome : String → Outcome} {records : List OutputRecord}

theorem JobItems.get?_customIds (hjob : JobItems d items) {recordId id : String} :
    (Dict.ofPairs (d.keys.map fun id => (sanitizeRecordId id, id))).get? recordId = some id ↔
      id ∈ d.keys ∧ recordId = sanitizeRecordId id := by
  constructor
  · intro h
    obtain ⟨id', hid', heq⟩ := List.mem_map.mp (Dict.mem_of_get?_ofPairs h)
    cases heq
    exact ⟨hid', rfl⟩
  · rintro ⟨hid, rfl⟩
    refine Dict.get?_ofPairs_of_mem ?_ (List.mem_map.mpr ⟨id, hid, rfl⟩)
    rw [List.map_map]
    exact d.nodup.map_on hjob.distinct

theorem JobItems.filter_records (hjob : JobItems d items) {id : String} (hid : id ∈ d.keys)
    (records : List OutputRecord) :
    (records.filterMap fun record =>
        ((Dict.ofPairs (d.keys.map fun id => (sanitizeRecordId id, id))).get?
          record.recordId).map fun id => (id, record.members)).filter (fun r => r.1 = id) =
      ((records.filter fun record => record.recordId = sanitizeRecordId id).map
        (·.members)).map fun members => (id, members) := by
  induction records with
  | nil => rfl
  | cons record records ih =>
    by_cases hrecord : record.recordId = sanitizeRecordId id
    · have hsome := hjob.get?_customIds.mpr ⟨hid, hrecord⟩
      rw [List.filterMap_cons, hsome, List.filter_cons_of_pos (by simpa using hrecord)]
      simp only [Option.map_some]
      rw [List.filter_cons_of_pos (by simp), ih]
      rfl
    · rw [List.filterMap_cons, List.filter_cons_of_neg (by simpa using hrecord), ← ih]
      cases hget : (Dict.ofPairs (d.keys.map fun id => (sanitizeRecordId id, id))).get?
          record.recordId with
      | none => rfl
      | some id' =>
        obtain ⟨-, hid'⟩ := hjob.get?_customIds.mp hget
        have hne : id' ≠ id := by
          rintro rfl
          exact hrecord hid'
        simp only [Option.map_some]
        rw [List.filter_cons_of_neg (by simpa using hne)]

/-- What the records of one item make of its row. -/
def storeRow (py : PyText) (service : Service) (d : Dict String (RequestItem M))
    (row : Option (ItemResult cls)) (record : String × List (String × Json)) :
    Except PyException (Option (ItemResult cls)) :=
  Loop.putRow (fun _ w => some w) row <$> storeEffect py service d row record

theorem JobItems.store_sent (py : PyText) (cls : ModelClasses M) (service : Service)
    (hjob : JobItems d items) {item : RequestItem M} (hitem : item ∈ items) {out : Outcome}
    {sent : List (List (String × Json))} (hsent : Sent out sent) :
    ∃ row : Option (ItemResult cls), (sent.map fun members => (item.customId, members)).foldlM
        (storeRow py service d) none = .ok row ∧
      ∃ result, row.or (some (.failed item.customId
          "no output record found for this custom_id")) = some result ∧
        result.Reports py item out := by
  have hone : ∀ members, Sent out [members] → ∃ result : ItemResult cls,
      [(item.customId, members)].foldlM (storeRow py service d) none = .ok (some result) ∧
        result.Reports py item out := by
    intro members hmembers
    obtain ⟨result, hparse, hreports⟩ : ∃ result : ItemResult cls,
        parseRecord py service members item item.customId = .ok result ∧
          result.Reports py item out := parseRecord_reports hmembers
    refine ⟨result, ?_, hreports⟩
    rw [List.foldlM_cons, storeRow, storeEffect, hjob.get? item hitem]
    simp only [hparse]
    rfl
  cases hsent with
  | error members houtput =>
    obtain ⟨result, hrow, hreports⟩ := hone members (.error members houtput)
    exact ⟨some result, hrow, result, rfl, hreports⟩
  | missing => exact ⟨none, rfl, _, rfl, reports_failed _ rfl⟩
  | content blocks members output contents houtput hcontent hblocks =>
    obtain ⟨result, hrow, hreports⟩ :=
      hone members (.content blocks members output contents houtput hcontent hblocks)
    exact ⟨some result, hrow, result, rfl, hreports⟩

/-- The results of one job answer its items. -/
theorem fetchSingleJobResults_answers (hjob : JobItems d items) {jobArn : String}
    (hwrites : Writes service jobArn records) (hholds : HoldsOutcomes items outcome records) :
    ∃ results : Dict String (ItemResult cls),
      fetchSingleJobResults py service jobArn d = .ok results ∧ Answers py items outcome results := by
  rw [fetchSingleJobResults_eq_storeRecord hwrites, storeRecord_eq]
  have hlocal : Loop.RowLocal Dict.get? Prod.fst (storeRow py service d)
      (Loop.rowStep Dict.get? Dict.set Prod.fst
        (storeEffect py service d : Option (ItemResult cls) → _ → _)) := rowWrites_dict.rowLocal
  have hother : ∀ id, id ∉ d.keys → (records.filterMap fun record =>
      ((Dict.ofPairs (d.keys.map fun id => (sanitizeRecordId id, id))).get?
        record.recordId).map fun id => (id, record.members)).filter (fun r => r.1 = id) = [] := by
    intro id hid
    rw [List.filter_eq_nil_iff]
    intro r hr heq
    obtain ⟨record, -, hrecord⟩ := List.mem_filterMap.mp hr
    obtain ⟨id', hget, rfl⟩ := Option.map_eq_some_iff.mp hrecord
    rw [← of_decide_eq_true heq] at hid
    exact hid (hjob.get?_customIds.mp hget).1
  obtain ⟨stored, hstored⟩ := hlocal.exists_run (s := .empty) (fun id => by
    by_cases hid : id ∈ d.keys
    · obtain ⟨item, hitem, rfl⟩ := List.mem_map.mp ((hjob.keys id).mp hid)
      obtain ⟨row, hrow, -⟩ := hjob.store_sent py cls service hitem (hholds item hitem)
      rw [hjob.filter_records hid]
      exact ⟨row, hrow⟩
    · rw [hother id hid]
      exact ⟨none, rfl⟩)
  refine ⟨fillMissing "no output record found for this custom_id" stored d.keys, ?_, ?_⟩
  · rw [hstored]
    rfl
  · refine answers_fillMissing hjob.keys ?_ ?_
    · intro id hstoredId
      by_contra hid
      have hrun := hlocal.run hstored id
      rw [hother id hid, List.foldlM_nil, Except.pure_eq_ok] at hrun
      exact (Dict.get?_eq_none_iff _ _).mp hrun.symm hstoredId
    · intro item hitem
      have hid : item.customId ∈ d.keys := (hjob.keys _).mpr (List.mem_map.mpr ⟨item, hitem, rfl⟩)
      obtain ⟨row, hrow, result, hresult, hreports⟩ :=
        hjob.store_sent py cls service hitem (hholds item hitem)
      have hrun := hlocal.run hstored item.customId
      rw [hjob.filter_records hid] at hrun
      rw [Except.ok.inj (hrun.symm.trans hrow)]
      exact ⟨result, hresult, hreports⟩

end job

/-! ### All jobs -/

section jobs

variable {M : Type} {py : PyText} {llmMaxTokens : ℤ} {cls : ModelClasses M} {config : Config}
  {service : Service} {items : List (RequestItem M)} {outcome : String → Outcome}

/-- The items for one model. -/
def itemsFor (items : List (RequestItem M)) (model : String) : List (RequestItem M) :=
  items.filter fun item => item.model = model

/-- The job of a model is taken, ends, and writes what came of its items. -/
def ServesJob (py : PyText) (llmMaxTokens : ℤ) (cls : ModelClasses M) (config : Config)
    (service : Service) (items : List (RequestItem M)) (outcome : String → Outcome)
    (model jobArn : String) : Prop :=
  submitSingleModelJob py llmMaxTokens cls config service model (itemsFor items model) = .ok jobArn ∧
    service.waitForSingleJob jobArn = .ok () ∧
    ∃ records, Writes service jobArn records ∧ HoldsOutcomes (itemsFor items model) outcome records

/-- Every job is served. -/
def Serves (py : PyText) (llmMaxTokens : ℤ) (cls : ModelClasses M) (config : Config)
    (service : Service) (items : List (RequestItem M)) (outcome : String → Outcome) : Prop :=
  ∀ model ∈ items.map (·.model), ∃ jobArn,
    ServesJob py llmMaxTokens cls config service items outcome model jobArn

theorem mem_groups {model : String} {group : List (RequestItem M)}
    (h : (model, group) ∈ (Dict.group (items.map fun item => (item.model, item))).entries) :
    model ∈ items.map (·.model) ∧ group = itemsFor items model := by
  constructor
  · have hkey : model ∈ (Dict.group (items.map fun item => (item.model, item))).keys :=
      List.mem_map.mpr ⟨_, h, rfl⟩
    rw [Dict.mem_keys_group, List.map_map] at hkey
    exact hkey
  · rw [Dict.mem_entries_group h, List.filter_map, List.map_map]
    exact List.map_id _

theorem exists_submitBatch (hne : items ≠ [])
    (hserves : Serves py llmMaxTokens cls config service items outcome) :
    ∃ jobs, submitBatch py llmMaxTokens cls config service items = .ok jobs ∧
      (∀ model ∈ items.map (·.model), ∃ jobArn, (model, jobArn) ∈ jobs.entries) ∧
      ∀ job ∈ jobs.entries,
        ServesJob py llmMaxTokens cls config service items outcome job.1 job.2 := by
  choose! arn harn using hserves
  generalize hgroups : (Dict.group (items.map fun item => (item.model, item))) = groups
  have hmem : ∀ group ∈ groups.entries, group.1 ∈ items.map (·.model) ∧
      group.2 = itemsFor items group.1 := by
    intro group hgroup
    rw [← hgroups] at hgroup
    exact mem_groups hgroup
  have hkeys : ∀ model ∈ items.map (·.model), ∃ group ∈ groups.entries, group.1 = model := by
    intro model hmodel
    have hkey : model ∈ groups.keys := by
      rw [← hgroups, Dict.mem_keys_group, List.map_map]
      exact hmodel
    exact List.mem_map.mp hkey
  have hstep : ∀ group ∈ groups.entries, ∀ jobs : Dict String String,
      (do
        let jobArn ← submitSingleModelJob py llmMaxTokens cls config service group.1 group.2
        return jobs.set group.1 jobArn) = .ok (jobs.set group.1 (arn group.1)) := by
    intro group hgroup jobs
    obtain ⟨hmodel, hitems⟩ := hmem group hgroup
    rw [hitems, (harn _ hmodel).1]
    rfl
  have hnodup : ((groups.entries.map fun group => (group.1, arn group.1)).map Prod.fst).Nodup := by
    rw [List.map_map]
    exact groups.nodup
  refine ⟨.ofPairs (groups.entries.map fun group => (group.1, arn group.1)), ?_, ?_, ?_⟩
  · unfold submitBatch
    rw [if_neg hne, hgroups]
    refine (Loop.foldlM_eq_ok hstep .empty).trans ?_
    rw [Dict.ofPairs, List.foldl_map]
  · intro model hmodel
    obtain ⟨group, hgroup, rfl⟩ := hkeys model hmodel
    refine ⟨arn group.1, (Dict.mem_entries_iff _ _ _).mpr ?_⟩
    exact Dict.get?_ofPairs_of_mem hnodup (List.mem_map.mpr ⟨group, hgroup, rfl⟩)
  · rintro ⟨model, jobArn⟩ hjob
    obtain ⟨group, hgroup, heq⟩ :=
      List.mem_map.mp (Dict.mem_of_get?_ofPairs ((Dict.mem_entries_iff _ _ _).mp hjob))
    cases heq
    exact harn _ (hmem group hgroup).1

theorem jobItems_filterValues (hids : (items.map (·.customId)).Nodup)
    (hrecordIds : (items.map fun item => sanitizeRecordId item.customId).Nodup) (model : String) :
    JobItems ((itemsById items).filterValues fun item => item.model = model)
      (itemsFor items model) where
  get? := by
    intro item hitem
    obtain ⟨hmem, hmodel⟩ := List.mem_filter.mp hitem
    rw [Dict.get?_filterValues, get?_itemsById hids hmem, Option.filter_some, if_pos hmodel]
  keys := by
    intro id
    rw [Dict.mem_keys_iff, List.mem_map]
    simp only [Dict.get?_filterValues, Option.filter_eq_some_iff]
    constructor
    · rintro ⟨item, hget, hmodel⟩
      obtain ⟨hmem, hid⟩ := mem_of_get?_itemsById hget
      exact ⟨item, List.mem_filter.mpr ⟨hmem, hmodel⟩, hid⟩
    · rintro ⟨item, hitem, rfl⟩
      obtain ⟨hmem, hmodel⟩ := List.mem_filter.mp hitem
      exact ⟨item, get?_itemsById hids hmem, hmodel⟩
  distinct := by
    have hfind : ∀ id ∈ ((itemsById items).filterValues fun item => item.model = model).keys,
        ∃ item ∈ items, item.customId = id := by
      intro id hid
      obtain ⟨item, hitem⟩ := (Dict.mem_keys_iff _ _).mp hid
      rw [Dict.get?_filterValues, Option.filter_eq_some_iff] at hitem
      obtain ⟨hmem, heq⟩ := mem_of_get?_itemsById hitem.1
      exact ⟨item, hmem, heq⟩
    intro id hid id' hid' heq
    obtain ⟨item, hmem, rfl⟩ := hfind id hid
    obtain ⟨item', hmem', rfl⟩ := hfind id' hid'
    rw [List.inj_on_of_nodup_map hrecordIds hmem hmem' heq]

theorem mem_itemsFor {item : RequestItem M} (hitem : item ∈ items) :
    item ∈ itemsFor items item.model :=
  List.mem_filter.mpr ⟨hitem, decide_eq_true rfl⟩

theorem getLast?_eq_of_forall_eq {A : Type} {l : List A} {a : A} (hne : l ≠ [])
    (h : ∀ x ∈ l, x = a) : l.getLast? = some a := by
  rw [List.getLast?_eq_some_getLast hne, h _ (List.getLast_mem hne)]

/-- The results of all jobs. -/
def mergeResults (jobs : Dict String String)
    (results : String × String → Dict String (ItemResult cls)) : Dict String (ItemResult cls) :=
  jobs.entries.foldl (fun all job => all.update (results job)) .empty

theorem get?_mergeResults (jobs : Dict String String)
    (results : String × String → Dict String (ItemResult cls)) (id : String) :
    (mergeResults jobs results).get? id =
      (jobs.entries.filterMap fun job => (results job).get? id).getLast? := by
  rw [mergeResults, Dict.get?_foldl_update, Dict.get?_empty, Option.or_none]

theorem answers_of_models (hids : (items.map (·.customId)).Nodup) {jobs : Dict String String}
    {results : String × String → Dict String (ItemResult cls)}
    (hmodels : ∀ model ∈ items.map (·.model), ∃ jobArn, (model, jobArn) ∈ jobs.entries)
    (hanswers : ∀ job ∈ jobs.entries, Answers py (itemsFor items job.1) outcome (results job)) :
    Answers py items outcome (mergeResults jobs results) := by
  -- what a job has for an ID is for the item of that ID, so the job is the one of its model
  have hown : ∀ job ∈ jobs.entries, ∀ id result, (results job).get? id = some result →
      ∃ item ∈ items, item.customId = id ∧ item.model = job.1 := by
    intro job hjob id result hresult
    have hid := ((hanswers job hjob).keys id).mp ((Dict.mem_keys_iff _ _).mpr ⟨result, hresult⟩)
    obtain ⟨item, hitem, rfl⟩ := List.mem_map.mp hid
    obtain ⟨hmem, hmodel⟩ := List.mem_filter.mp hitem
    exact ⟨item, hmem, rfl, of_decide_eq_true hmodel⟩
  have hreports : ∀ item ∈ items, ∃ result,
      (jobs.entries.filterMap fun job => (results job).get? item.customId).getLast? = some result ∧
        result.Reports py item (outcome item.customId) := by
    intro item hitem
    obtain ⟨jobArn, hjob⟩ := hmodels item.model (List.mem_map.mpr ⟨item, hitem, rfl⟩)
    obtain ⟨result, hresult, hrep⟩ := (hanswers _ hjob).reports item (mem_itemsFor hitem)
    refine ⟨result, getLast?_eq_of_forall_eq ?_ ?_, hrep⟩
    · exact List.ne_nil_of_mem (List.mem_filterMap.mpr ⟨_, hjob, hresult⟩)
    · intro other hother
      obtain ⟨job, hmem, hget'⟩ := List.mem_filterMap.mp hother
      obtain ⟨item', hitem', hid, hmodel⟩ := hown job hmem _ _ hget'
      obtain rfl := List.inj_on_of_nodup_map hids hitem' hitem hid
      obtain rfl : job = (item'.model, jobArn) :=
        List.inj_on_of_nodup_map jobs.nodup hmem hjob hmodel.symm
      exact Option.some.inj (hget'.symm.trans hresult)
  constructor
  · intro id
    rw [Dict.mem_keys_iff, get?_mergeResults]
    constructor
    · rintro ⟨result, hresult⟩
      obtain ⟨job, hjob, hmem⟩ := List.mem_filterMap.mp (List.mem_of_getLast? hresult)
      obtain ⟨item, hitem, hid, -⟩ := hown job hjob _ _ hmem
      exact List.mem_map.mpr ⟨item, hitem, hid⟩
    · intro hid
      obtain ⟨item, hitem, rfl⟩ := List.mem_map.mp hid
      obtain ⟨result, hresult, -⟩ := hreports item hitem
      exact ⟨result, hresult⟩
  · intro item hitem
    rw [get?_mergeResults]
    exact hreports item hitem

/-- The results answer the items. -/
theorem answers (hne : items ≠ []) (hids : (items.map (·.customId)).Nodup)
    (hrecordIds : (items.map fun item => sanitizeRecordId item.customId).Nodup)
    (hserves : Serves py llmMaxTokens cls config service items outcome) :
    ∃ results : Dict String (ItemResult cls),
      runBatchSync py service llmMaxTokens config items = .ok results ∧
        Answers py items outcome results := by
  obtain ⟨jobs, hjobs, hmodels, hserved⟩ := exists_submitBatch hne hserves
  have hwait : waitForBatch service jobs = .ok () :=
    Loop.forM_eq_ok_iff.mpr fun job hjob => (hserved job hjob).2.1
  have hfetch : ∀ job ∈ jobs.entries, ∃ results : Dict String (ItemResult cls),
      fetchSingleJobResults py service job.2
        ((itemsById items).filterValues fun item => item.model = job.1) = .ok results ∧
      Answers py (itemsFor items job.1) outcome results := by
    intro job hjob
    obtain ⟨-, -, records, hwrites, hholds⟩ := hserved job hjob
    exact fetchSingleJobResults_answers (jobItems_filterValues hids hrecordIds job.1) hwrites hholds
  choose! results hresults hanswers using hfetch
  refine ⟨mergeResults jobs results, ?_, answers_of_models hids hmodels hanswers⟩
  unfold runBatchSync fetchBatchResults
  rw [hjobs]
  simp only [bind, Except.bind, hwait]
  refine Loop.foldlM_eq_ok (fun job hjob all => ?_) Dict.empty
  rw [hresults job hjob]
  rfl

end jobs

end RefCheck.Bedrock
