import RefCheck.Backends.Cloud
import RefCheck.Lib.JsonCodec
import RefCheck.Lib.Lists

/-!
# From the input file to the results

The Bedrock backend as one of the clients of the cloud: what it asks of a model goes into a file as JSON,
a job reads it there, and what comes of it goes back through result files. Whatever the other clients
and jobs do meanwhile, the results answer the items, each with what came of its own request
(`files_carry_answers`).
-/

namespace RefCheck.Bedrock

open JsonCodec Transitions

/-! ### The documented behaviour of the services -/

/-- The JSON library. -/
structure UsesJson (service : Service) : Prop where
  dumps : ∀ json, WellFormed json → service.jsonDumps json = String.ofList (JsonCodec.dumps json)
  loads : ∀ line json, JsonCodec.loads line.toList = some json → service.jsonLoads line = .ok json

/-- The lines of a file as a service reads and writes it, which ends lines at line feeds. -/
def jsonLines (body : String) : List (List Char) := (body.toList.splitOn '\n').filter (· ≠ [])

/-- The body of an input file has the records, one to a line: IDs and requests. -/
def IsInput (body : String) (inputs : List (String × Json)) : Prop :=
  List.Forall₂ (fun line (input : String × Json) => ∃ members,
    loads line = some (.obj members) ∧ members.lookup "recordId" = some (.str input.1) ∧
      members.lookup "modelInput" = some input.2) (jsonLines body) inputs

/-- The body of a result file has the records, one to a line. -/
def IsOutput (body : String) (records : List OutputRecord) : Prop :=
  List.Forall₂ (fun line (record : OutputRecord) => loads line = some (.obj record.members))
    (jsonLines body) records

/-- There is nothing in the body at which `str.splitlines` ends a line and JSON does not. -/
def SeparatorFree (body : String) : Prop :=
  ∀ c ∈ body.toList, c ∉ ['\r', '\u0085', '\u2028', '\u2029']

/-- The records of some files. -/
def fileRecords (recordsOf : String → List OutputRecord) (keys : List String) : List OutputRecord :=
  (keys.filter isOutputKey).flatMap recordsOf

/-- The result files of a job have no separator. -/
def Job.SeparatorFree (job : Job) : Prop :=
  ∀ file ∈ job.files.entries, isOutputKey file.1 = true → Bedrock.SeparatorFree file.2

/-- What a job that ended did: for every record of its input file, the result files hold what came of
the request, an outcome that the model may have. -/
def Processes (Responds : String → Json → Outcome → Prop) (modelId body : String)
    (files : List (String × String)) : Prop :=
  ∃ recordsOf : String → List OutputRecord,
    (∀ file ∈ files, isOutputKey file.1 = true → IsOutput file.2 (recordsOf file.1)) ∧
    ∀ inputs, IsInput body inputs → (inputs.map Prod.fst).Nodup → ∀ input ∈ inputs,
      ∃ outcome, Responds modelId input.2 outcome ∧
        Sent outcome (((fileRecords recordsOf (files.map Prod.fst)).filter
          (fun record => record.recordId = input.1)).map (·.members))

/-- The service as a client meets it that has done the steps of `labels` when it is told that its jobs
have ended, in `mid`, and that sees one of the `states` whenever it reads. -/
structure Meets (service : Service) (labels : List CloudLabel) (mid : Cloud) (states : List Cloud) :
    Prop where
  putObject : ∀ bucket key body, service.putObject bucket key body = .ok () →
    .put bucket key body ∈ labels
  create : ∀ request jobArn, service.createModelInvocationJob request = .ok jobArn →
    .create request jobArn ∈ labels
  wait : ∀ jobArn, service.waitForSingleJob jobArn = .ok () →
    ∀ job, mid.jobs.get? jobArn = some job → job.completed = true
  describe : ∀ jobArn job, mid.jobs.get? jobArn = some job →
    service.getModelInvocationJob jobArn = .ok job.request.outputUri
  /-- A listing has every key once; what is there all the time is listed. -/
  paginate : ∀ bucket keyPrefix, ∃ pages, service.paginate bucket keyPrefix = .ok pages ∧
    (pages.flatMap fun page => page.getD []).Nodup ∧
    (∀ key ∈ pages.flatMap fun page => page.getD [], Under keyPrefix key ∧
      ∃ cloud ∈ states, ∃ body, cloud.objects.get? (bucket, key) = some body) ∧
    ∀ key, Under keyPrefix key →
      (∀ cloud ∈ states, ∃ body, cloud.objects.get? (bucket, key) = some body) →
      key ∈ pages.flatMap fun page => page.getD []
  getObject : ∀ bucket key, ∃ cloud ∈ states, ∀ body, cloud.objects.get? (bucket, key) = some body →
    service.getObject bucket key = .ok body

/-! ### The input file -/

section input

variable {M : Type} {py : PyText} {llmMaxTokens : ℤ} {cls : ModelClasses M} {service : Service}
  {item : RequestItem M}

/-- The schemas of the output models are JSON. -/
def SchemasWellFormed (cls : ModelClasses M) : Prop :=
  ∀ m, WellFormed (.obj (cls.modelJsonSchema m))

theorem wellFormed_buildModelInput (hschemas : SchemasWellFormed cls) (item : RequestItem M) :
    WellFormed (buildModelInput py llmMaxTokens cls item) := by
  have hschema := hschemas item.outputModel
  rw [WellFormed, wellFormedMembers_iff] at hschema
  have hfilter : WellFormed (.obj ((cls.modelJsonSchema item.outputModel).filter (·.1 ≠ "title"))) := by
    rw [WellFormed, wellFormedMembers_iff]
    exact ⟨hschema.1.sublist (List.filter_sublist.map _),
      fun member hmember => hschema.2 member (List.mem_of_mem_filter hmember)⟩
  unfold buildModelInput requestBody
  simp only [WellFormed, WellFormedMembers, WellFormedItems, and_true, true_and]
  exact ⟨by simp, .inl (number_int _), by simp, ⟨by simp, hfilter⟩, by simp⟩

/-- What a line of the input file says. -/
def inputRecord (py : PyText) (llmMaxTokens : ℤ) (cls : ModelClasses M) (item : RequestItem M) : Json :=
  .obj [("recordId", .str (sanitizeRecordId item.customId)),
    ("modelInput", buildModelInput py llmMaxTokens cls item)]

variable (py llmMaxTokens) in
theorem wellFormed_inputRecord (hschemas : SchemasWellFormed cls) (item : RequestItem M) :
    WellFormed (inputRecord py llmMaxTokens cls item) := by
  simp only [inputRecord, WellFormed, WellFormedMembers, and_true, true_and]
  exact ⟨by simp, wellFormed_buildModelInput hschemas item⟩

theorem toList_inputLine (hjson : UsesJson service) (hschemas : SchemasWellFormed cls)
    (item : RequestItem M) : (inputLine py llmMaxTokens cls service item).toList =
      dumps (inputRecord py llmMaxTokens cls item) := by
  rw [← String.toList_ofList (l := dumps _), ← hjson.dumps _ (wellFormed_inputRecord py llmMaxTokens hschemas item)]
  rfl

theorem jsonLines_intercalate {lines : List String} (hne : ∀ line ∈ lines, line ≠ "")
    (hfeed : ∀ line ∈ lines, '\n' ∉ line.toList) :
    jsonLines ("\n".intercalate lines) = lines.map String.toList := by
  cases lines with
  | nil => decide
  | cons line lines =>
    have hsplit : ("\n".intercalate (line :: lines)).toList.splitOn '\n' =
        (line :: lines).map String.toList := by
      rw [String.toList_intercalate]
      exact List.splitOn_intercalate '\n' (by simpa using hfeed) (by simp)
    rw [jsonLines, hsplit, List.filter_eq_self]
    simpa using hne

variable (py llmMaxTokens) in
theorem isInput_items (hjson : UsesJson service) (hschemas : SchemasWellFormed cls)
    (items : List (RequestItem M)) :
    IsInput ("\n".intercalate (items.map (inputLine py llmMaxTokens cls service)))
      (items.map fun item =>
        (sanitizeRecordId item.customId, buildModelInput py llmMaxTokens cls item)) := by
  have hwf := fun item : RequestItem M => wellFormed_inputRecord py llmMaxTokens hschemas item
  rw [IsInput, jsonLines_intercalate, List.map_map, List.forall₂_map_left_iff,
    List.forall₂_map_right_iff, List.forall₂_same]
  · intro item _
    refine ⟨[("recordId", .str (sanitizeRecordId item.customId)),
      ("modelInput", buildModelInput py llmMaxTokens cls item)], ?_, rfl, rfl⟩
    rw [Function.comp_apply, toList_inputLine hjson hschemas, loads_dumps (hwf item)]
    rfl
  · rw [List.forall_mem_map]
    intro item _ hempty
    obtain ⟨c, cs, hcs, -⟩ := startsValue_dumps (hwf item)
    rw [← toList_inputLine hjson hschemas, hempty] at hcs
    cases hcs
  · rw [List.forall_mem_map]
    intro item _ hfeed
    rw [toList_inputLine hjson hschemas] at hfeed
    exact absurd (printable_dumps (hwf item) _ hfeed) (by decide)

/-- A file has only one reading. -/
theorem IsInput.unique {body : String} {inputs inputs' : List (String × Json)} (h : IsInput body inputs)
    (h' : IsInput body inputs') : inputs = inputs' := by
  rw [IsInput] at h h'
  generalize jsonLines body = lines at h h'
  induction h generalizing inputs' with
  | nil =>
    cases h'
    rfl
  | cons hinput _ ih =>
    cases h' with
    | cons hinput' hrest' =>
      obtain ⟨members, hloads, hid, hrequest⟩ := hinput
      obtain ⟨members', hloads', hid', hrequest'⟩ := hinput'
      cases hloads.symm.trans hloads'
      have hsame := hid.symm.trans hid'
      simp only [Option.some.injEq, Json.str.injEq] at hsame
      rw [Prod.ext hsame (Option.some.inj (hrequest.symm.trans hrequest')), ih hrest']

theorem of_submitSingleModelJob {config : Config} {model jobArn : String} {items : List (RequestItem M)}
    (h : submitSingleModelJob py llmMaxTokens cls config service model items = .ok jobArn) :
    service.putObject config.s3Bucket (inputKey config (jobName config (service.uuidHex model)))
        ("\n".intercalate (items.map (inputLine py llmMaxTokens cls service))) = .ok () ∧
      service.createModelInvocationJob
        (jobRequest config model (jobName config (service.uuidHex model))) = .ok jobArn := by
  unfold submitSingleModelJob at h
  obtain ⟨⟨⟩, -, h⟩ := Except.bind_eq_ok.mp h
  obtain ⟨⟨⟩, hput, h⟩ := Except.bind_eq_ok.mp h
  exact ⟨hput, h⟩

end input

/-! ### The result files -/

section output

variable {config : Config} {service : Service} {Responds : String → Json → Outcome → Prop}
  {labels : List CloudLabel} {mid : Cloud} {states : List Cloud}

theorem forall₂_flatMap {A B C : Type} {R : B → C → Prop} {f : A → List B} {g : A → List C}
    {as : List A} (h : ∀ a ∈ as, List.Forall₂ R (f a) (g a)) :
    List.Forall₂ R (as.flatMap f) (as.flatMap g) := by
  induction as with
  | nil => exact .nil
  | cons a as ih =>
    rw [List.forall_mem_cons] at h
    rw [List.flatMap_cons, List.flatMap_cons]
    exact List.rel_append h.1 (ih h.2)

/-- At most one record is sent, so its place does not matter. -/
theorem Sent.perm {out : Outcome} {sent sent' : List (List (String × Json))} (h : Sent out sent)
    (hperm : sent.Perm sent') : Sent out sent' := by
  cases h with
  | error members houtput =>
    rw [← List.singleton_perm.mp hperm]
    exact .error members houtput
  | missing =>
    rw [List.nil_perm.mp hperm]
    exact .missing
  | content blocks members output items houtput hcontent hblocks =>
    rw [← List.singleton_perm.mp hperm]
    exact .content blocks members output items houtput hcontent hblocks

/-- Without a separator in the body, the lines that the code reads are those that the service wrote. -/
theorem IsOutput.bodyLines_eq {body : String} {records : List OutputRecord} (h : IsOutput body records)
    (hfree : SeparatorFree body) : bodyLines body = (jsonLines body).map String.ofList := by
  have hobject : ∀ line ∈ jsonLines body, ∃ members, loads line = some (.obj members) := by
    intro line hline
    obtain ⟨record, -, hloads⟩ := Lists.exists_mem_of_forall₂ h hline
    exact ⟨_, hloads⟩
  have hbreak : ∀ c ∈ body.toList, Text.isLineBreak c = true → c = '\n' := by
    intro c hc hbreak
    by_contra hne
    obtain ⟨line, hline, hmem⟩ := Text.exists_mem_splitOn hc hne
    obtain ⟨members, hloads⟩ := hobject line
      (List.mem_filter.mpr ⟨hline, decide_eq_true (List.ne_nil_of_mem hmem)⟩)
    have hlist := (isTextChar_of_loads hloads c hmem).isLineBreak_iff.mp hbreak
    exact hfree c hc ((List.mem_cons.mp hlist).resolve_left hne)
  have hsame : ∀ lines : List (List Char), lines.modifyHead ([] ++ ·) = lines := by
    intro lines
    cases lines <;> rfl
  have hlines : (Text.linesAfter [] body.toList).filter (· ≠ []) = jsonLines body := by
    rw [Text.filter_linesAfter hbreak, hsame]
    rfl
  -- of the lines of the body just the empty ones are blank
  unfold bodyLines Text.splitlines
  rw [List.filter_map, ← hlines]
  refine congrArg _ (List.filter_congr fun line hline => ?_)
  by_cases hempty : line = []
  · rw [hempty]
    rfl
  · have hmem : line ∈ jsonLines body := by
      rw [← hlines]
      exact List.mem_filter.mpr ⟨hline, decide_eq_true hempty⟩
    obtain ⟨members, hloads⟩ := hobject line hmem
    have hbrace : '\x7b' ∈ (String.ofList line).toList := by
      rw [String.toList_ofList]
      exact brace_mem_of_loads hloads
    rw [decide_eq_true hempty]
    exact decide_eq_true (Text.strip_ne_empty hbrace (by decide))

theorem IsOutput.forall₂_bodyLines {body : String} {records : List OutputRecord}
    (h : IsOutput body records) (hfree : SeparatorFree body) :
    List.Forall₂ (fun line (record : OutputRecord) => loads line.toList = some (.obj record.members))
      (bodyLines body) records := by
  rw [h.bodyLines_eq hfree, List.forall₂_map_left_iff]
  simp only [String.toList_ofList]
  exact h

theorem jsonLines_lines {records : List OutputRecord}
    (hwf : ∀ record ∈ records, WellFormed (.obj record.members)) :
    jsonLines ("\n".intercalate (records.map (·.line))) =
      records.map fun record => dumps (.obj record.members) := by
  have hlist : ∀ record : OutputRecord, record.line.toList = dumps (.obj record.members) :=
    fun record => String.toList_ofList
  rw [jsonLines_intercalate, List.map_map]
  · exact List.map_congr_left fun record _ => hlist record
  · rw [List.forall_mem_map]
    intro record _ hempty
    have hchars := hlist record
    rw [hempty] at hchars
    cases hmembers : record.members <;> rw [hmembers] at hchars <;> cases hchars
  · rw [List.forall_mem_map]
    intro record hrecord hfeed
    rw [hlist] at hfeed
    exact absurd (printable_dumps (hwf record hrecord) _ hfeed) (by decide)

theorem isOutput_lines {records : List OutputRecord}
    (hwf : ∀ record ∈ records, WellFormed (.obj record.members)) :
    IsOutput ("\n".intercalate (records.map (·.line))) records := by
  rw [IsOutput, jsonLines_lines hwf, List.forall₂_map_left_iff, List.forall₂_same]
  exact fun record hrecord => loads_dumps (hwf record hrecord)

/-- What `json.dumps` writes by default has no separator. -/
theorem separatorFree_lines {records : List OutputRecord}
    (hwf : ∀ record ∈ records, WellFormed (.obj record.members)) :
    SeparatorFree ("\n".intercalate (records.map (·.line))) := by
  intro c hc hseparator
  have hne : c ≠ '\n' := by
    rintro rfl
    exact absurd hseparator (by decide)
  obtain ⟨line, hline, hmem⟩ := Text.exists_mem_splitOn hc hne
  have hjson : line ∈ jsonLines ("\n".intercalate (records.map (·.line))) :=
    List.mem_filter.mpr ⟨hline, decide_eq_true (List.ne_nil_of_mem hmem)⟩
  rw [jsonLines_lines hwf] at hjson
  obtain ⟨record, hrecord, rfl⟩ := List.mem_map.mp hjson
  have hprintable : ['\r', '\u0085', '\u2028', '\u2029'].all fun c => decide (¬ IsPrintable c) := by
    decide
  exact of_decide_eq_true (List.all_eq_true.mp hprintable c hseparator)
    (printable_dumps (hwf record hrecord) c hmem)

/-- A job that is the same in all states is read as it is. -/
structure Settled (config : Config) (states : List Cloud) (jobArn : String) (job : Job) : Prop where
  name : ∃ uuid, IsUuid uuid ∧ job.request.jobName = jobName config uuid
  outputUri : job.request.outputUri =
    s3Uri config.s3Bucket (outputPrefix config job.request.jobName)
  get?_iff : ∀ cloud ∈ states, ∀ key body,
    (Under (outputPrefix config job.request.jobName) key ∧
      cloud.objects.get? (config.s3Bucket, key) = some body) ↔ job.files.get? key = some body

theorem Settled.writes {jobArn : String} {job : Job} (h : Settled config states jobArn job)
    (hmeets : Meets service labels mid states) (hmid : mid ∈ states)
    (hjob : mid.jobs.get? jobArn = some job) (hjson : UsesJson service)
    (hbucket : '/' ∉ config.s3Bucket.toList)
    (hrecoverable : ∀ uuid, IsUuid uuid → Recoverable service.hostChecks config.s3Bucket
      (outputPrefix config (jobName config uuid)))
    {recordsOf : String → List OutputRecord}
    (houtput : ∀ file ∈ job.files.entries, isOutputKey file.1 = true →
      IsOutput file.2 (recordsOf file.1))
    (hseparators : job.SeparatorFree) :
    ∃ keys, keys.Perm job.files.keys ∧ Writes service jobArn (fileRecords recordsOf keys) := by
  obtain ⟨uuid, huuid, hname⟩ := h.name
  have hlocation : parseS3Uri service job.request.outputUri =
      .ok (config.s3Bucket, outputPrefix config job.request.jobName) := by
    rw [h.outputUri, hname]
    exact (hrecoverable uuid huuid).parseS3Uri_s3Uri hbucket
  obtain ⟨pages, hpages, hnodup, hlisted, hlists⟩ :=
    hmeets.paginate config.s3Bucket (outputPrefix config job.request.jobName)
  generalize hkeys : (pages.flatMap fun page => page.getD []) = keys at hnodup hlisted hlists
  have hmem : ∀ key, key ∈ keys ↔ key ∈ job.files.keys := by
    intro key
    rw [Dict.mem_keys_iff]
    constructor
    · intro hkey
      obtain ⟨hunder, cloud, hcloud, body, hget⟩ := hlisted key hkey
      exact ⟨body, (h.get?_iff cloud hcloud key body).mp ⟨hunder, hget⟩⟩
    · rintro ⟨body, hfile⟩
      refine hlists key ((h.get?_iff mid hmid key body).mpr hfile).1 fun cloud hcloud => ?_
      exact ⟨body, ((h.get?_iff cloud hcloud key body).mpr hfile).2⟩
  have hget : ∀ key ∈ keys, ∃ body, job.files.get? key = some body ∧
      service.getObject config.s3Bucket key = .ok body := by
    intro key hkey
    obtain ⟨body, hfile⟩ := (Dict.mem_keys_iff _ _).mp ((hmem key).mp hkey)
    obtain ⟨cloud, hcloud, hserves⟩ := hmeets.getObject config.s3Bucket key
    exact ⟨body, hfile, hserves body ((h.get?_iff cloud hcloud key body).mpr hfile).2⟩
  choose! bodyOf hfile hbody using hget
  refine ⟨keys, (List.perm_ext_iff_of_nodup hnodup job.files.nodup).mpr hmem, _, _, _,
    (keys.filter isOutputKey).map bodyOf, hmeets.describe _ _ hjob, hlocation, hpages, ?_, ?_⟩
  · rw [hkeys, List.forall₂_map_right_iff, List.forall₂_same]
    exact fun key hkey => hbody key (List.mem_of_mem_filter hkey)
  · rw [List.flatMap_map]
    refine forall₂_flatMap fun key hkey => ?_
    obtain ⟨hkey, hout⟩ := List.mem_filter.mp hkey
    have hentry := (Dict.mem_entries_iff _ _ _).mpr (hfile key hkey)
    have hlines := (houtput _ hentry hout).forall₂_bodyLines (hseparators _ hentry hout)
    exact hlines.imp fun line record hline => hjson.loads _ _ hline

end output

/-! ### The whole way -/

section whole

variable {M : Type} {py : PyText} {llmMaxTokens : ℤ} {cls : ModelClasses M} {config : Config}
  {service : Service} {items : List (RequestItem M)} {Responds : String → Json → Outcome → Prop}
  {trace trace' : List (CloudLabel × Cloud)} {mid last : Cloud}

theorem settled_of_run (hconfig : config.Separate)
    (hrun : Run (CloudStep config (Processes Responds)) .empty trace mid)
    (hrun' : Run (CloudStep config (Processes Responds)) mid trace' last) {jobArn : String} {job : Job}
    (hjob : mid.jobs.get? jobArn = some job) (hcompleted : job.completed = true) :
    Settled config (mid :: trace'.map Prod.snd) jobArn job := by
  have hinv := Cloud.invariant_of_run hconfig hrun
  have hall : ∀ cloud ∈ mid :: trace'.map Prod.snd, (∃ labels,
      cloud.Invariant config (Processes Responds) labels) ∧ cloud.jobs.get? jobArn = some job := by
    rw [List.forall_mem_cons, List.forall_mem_map]
    refine ⟨⟨⟨_, hinv⟩, hjob⟩, ?_⟩
    refine hrun'.forall_states (P := fun cloud => (∃ labels,
      cloud.Invariant config (Processes Responds) labels) ∧ cloud.jobs.get? jobArn = some job)
      ⟨⟨_, hinv⟩, hjob⟩ ?_
    rintro cloud l cloud' ⟨⟨labels, hcloud⟩, hget⟩ hstep
    exact ⟨⟨_, hstep.invariant hconfig hcloud⟩, hstep.get?_of_completed hget hcompleted⟩
  obtain ⟨uuid, model, huuid, hrequest⟩ := hinv.named _ _ hjob
  refine ⟨⟨uuid, huuid, by rw [hrequest]; rfl⟩, (hinv.location hjob).2, ?_⟩
  intro cloud hcloud key body
  obtain ⟨⟨labels, hcloudInv⟩, hget⟩ := hall cloud hcloud
  exact hcloudInv.get?_iff hconfig hget

/-- What the files of the job of a model hold: for each of its items what came of its request. -/
theorem exists_records (hconfig : config.Separate)
    (hrecoverable : ∀ uuid, IsUuid uuid → Recoverable service.hostChecks config.s3Bucket
      (outputPrefix config (jobName config uuid)))
    (hjson : UsesJson service) (hschemas : SchemasWellFormed cls)
    (hrun : Run (CloudStep config (Processes Responds)) .empty trace mid)
    (hrun' : Run (CloudStep config (Processes Responds)) mid trace' last)
    (hmeets : Meets service (trace.map Prod.fst) mid (mid :: trace'.map Prod.snd))
    (hrecordIds : (items.map fun item => sanitizeRecordId item.customId).Nodup)
    {model jobArn : String}
    (hsubmit : submitSingleModelJob py llmMaxTokens cls config service model items = .ok jobArn)
    (hwait : service.waitForSingleJob jobArn = .ok ())
    (hseparators : ∀ job, mid.jobs.get? jobArn = some job → job.SeparatorFree) :
    ∃ records, Writes service jobArn records ∧ ∀ item ∈ items, ∃ outcome,
      Responds model (buildModelInput py llmMaxTokens cls item) outcome ∧
        Sent outcome ((records.filter
          (fun record => record.recordId = sanitizeRecordId item.customId)).map (·.members)) := by
  obtain ⟨hput, hcreate⟩ := of_submitSingleModelJob hsubmit
  have hinv := Cloud.invariant_of_run hconfig hrun
  obtain ⟨-, -, hbody⟩ := hinv.puts _ _ _ (hmeets.putObject _ _ _ hput)
  obtain ⟨job, hjob, hrequest⟩ := hinv.creates _ _ (hmeets.create _ _ hcreate)
  have hcompleted := hmeets.wait _ hwait job hjob
  obtain ⟨body, hinput, recordsOf, houtput, hprocessed⟩ := hinv.ended _ _ hjob hcompleted
  -- the job read what was submitted
  rw [hrequest] at hinput hprocessed
  obtain rfl := Option.some.inj (hbody.symm.trans hinput)
  obtain ⟨keys, hperm, hwrites⟩ := (settled_of_run hconfig hrun hrun' hjob hcompleted).writes hmeets
    List.mem_cons_self hjob hjson hconfig.bucket hrecoverable houtput (hseparators job hjob)
  refine ⟨fileRecords recordsOf keys, hwrites, fun item hitem => ?_⟩
  have hrecords : (fileRecords recordsOf (job.files.entries.map Prod.fst)).Perm
      (fileRecords recordsOf keys) := ((hperm.symm.filter _).flatMap_right _)
  have hids : ((items.map fun item =>
      (sanitizeRecordId item.customId, buildModelInput py llmMaxTokens cls item)).map
        Prod.fst).Nodup := by
    rw [List.map_map]
    exact hrecordIds
  obtain ⟨outcome, hresponds, hsent⟩ := hprocessed _ (isInput_items py llmMaxTokens hjson hschemas items) hids _
    (List.mem_map.mpr ⟨item, hitem, rfl⟩)
  exact ⟨outcome, hresponds, hsent.perm ((hrecords.filter _).map _)⟩

/-- **The files carry the answers.** A client whose submissions are taken and whose jobs end gets results
that answer its items, each with an outcome of its own request, whatever the other clients and the jobs
do meanwhile and while the client reads. The IDs of the items differ, also as record IDs; the location of
a job's results is recovered from its URI (`s3_location_recovered_iff`); and its result files have no
separator at which the code ends a line and JSON does not (`framing_kept_iff`). -/
theorem files_carry_answers (hconfig : config.Separate)
    (hrecoverable : ∀ uuid, IsUuid uuid → Recoverable service.hostChecks config.s3Bucket
      (outputPrefix config (jobName config uuid)))
    (hjson : UsesJson service) (hschemas : SchemasWellFormed cls)
    (hrun : Run (CloudStep config (Processes Responds)) .empty trace mid)
    (hrun' : Run (CloudStep config (Processes Responds)) mid trace' last)
    (hmeets : Meets service (trace.map Prod.fst) mid (mid :: trace'.map Prod.snd))
    (hne : items ≠ []) (hids : (items.map (·.customId)).Nodup)
    (hrecordIds : (items.map fun item => sanitizeRecordId item.customId).Nodup)
    (hsubmit : ∀ model ∈ items.map (·.model), ∃ jobArn,
      submitSingleModelJob py llmMaxTokens cls config service model (itemsFor items model) =
        .ok jobArn ∧ service.waitForSingleJob jobArn = .ok ())
    (hseparators : ∀ model jobArn job, submitSingleModelJob py llmMaxTokens cls config service model
      (itemsFor items model) = .ok jobArn → mid.jobs.get? jobArn = some job → job.SeparatorFree) :
    ∃ (outcome : String → Outcome) (results : Dict String (ItemResult cls)),
      (∀ item ∈ items, Responds item.model (buildModelInput py llmMaxTokens cls item)
        (outcome item.customId)) ∧
      runBatchSync py service llmMaxTokens config items = .ok results ∧
      Answers py items outcome results := by
  have hjobs : ∀ model ∈ items.map (·.model), ∃ jobArn records,
      submitSingleModelJob py llmMaxTokens cls config service model (itemsFor items model) =
        .ok jobArn ∧ service.waitForSingleJob jobArn = .ok () ∧ Writes service jobArn records ∧
      ∀ item ∈ itemsFor items model, ∃ outcome,
        Responds model (buildModelInput py llmMaxTokens cls item) outcome ∧
          Sent outcome ((records.filter
            (fun record => record.recordId = sanitizeRecordId item.customId)).map (·.members)) := by
    intro model hmodel
    obtain ⟨jobArn, htaken, hwait⟩ := hsubmit model hmodel
    obtain ⟨records, hwrites, hrecords⟩ := exists_records hconfig hrecoverable hjson hschemas hrun hrun'
      hmeets (hrecordIds.sublist (List.filter_sublist.map _)) htaken hwait
      fun job hjob => hseparators model jobArn job htaken hjob
    exact ⟨jobArn, records, htaken, hwait, hwrites, hrecords⟩
  choose! jobArn records htaken hwait hwrites hrecords using hjobs
  have hout : ∀ item ∈ items, ∃ outcome,
      Responds item.model (buildModelInput py llmMaxTokens cls item) outcome ∧
        Sent outcome (((records item.model).filter
          (fun record => record.recordId = sanitizeRecordId item.customId)).map (·.members)) :=
    fun item hitem => hrecords _ (List.mem_map.mpr ⟨item, hitem, rfl⟩) item (mem_itemsFor hitem)
  have : Nonempty Outcome := ⟨.missing⟩
  choose! out hresponds hsent using hout
  -- the outcome of an ID is that of the item of the ID
  let outcome : String → Outcome := fun id => (((itemsById items).get? id).map out).getD .missing
  have houtcome : ∀ item ∈ items, outcome item.customId = out item := by
    intro item hitem
    simp only [outcome, get?_itemsById hids hitem, Option.map_some, Option.getD_some]
  have hserves : Serves py llmMaxTokens cls config service items outcome := by
    intro model hmodel
    refine ⟨jobArn model, htaken model hmodel, hwait model hmodel, records model, hwrites model hmodel,
      ?_⟩
    intro item hitem
    obtain ⟨hmem, hmodel⟩ := List.mem_filter.mp hitem
    rw [houtcome item hmem, ← of_decide_eq_true hmodel]
    exact hsent item hmem
  obtain ⟨results, hresults, hanswers⟩ := answers hne hids hrecordIds hserves
  refine ⟨outcome, results, fun item hitem => ?_, hresults, hanswers⟩
  rw [houtcome item hitem]
  exact hresponds item hitem

end whole

/-! ### A client of the cloud -/

/-- The service as it was in the state `cloud`, to a client that has done the steps of `labels`. -/
def recordedService (uuidHex : String → String) (labels : List CloudLabel) (cloud : Cloud) :
    Service where
  uuidHex := uuidHex
  jsonDumps json := String.ofList (dumps json)
  jsonLoads := jsonLoads "Expecting value: line 1 column 1 (char 0)"
  jsonStr json := String.ofList (dumps json)
  hostChecks := ⟨fun _ => none, id⟩
  putObject bucket key body :=
    if .put bucket key body ∈ labels then .ok () else .error (.raised "ClientError" "AccessDenied")
  createModelInvocationJob request :=
    match labels.findSome? fun
      | .create request' jobArn => if request' = request then some jobArn else none
      | _ => none with
    | some jobArn => .ok jobArn
    | none => .error (.raised "ClientError" "AccessDenied")
  waitForSingleJob jobArn :=
    if (cloud.jobs.get? jobArn).any (·.completed) then .ok ()
    else .error (.raised "BatchError" "did not finish")
  getModelInvocationJob jobArn :=
    match cloud.jobs.get? jobArn with
    | some job => .ok job.request.outputUri
    | none => .error (.raised "ClientError" "ResourceNotFound")
  paginate bucket keyPrefix := .ok [some ((cloud.objects.keys.filter fun location =>
    location.1 = bucket && keyPrefix.toList.isPrefixOf location.2.toList).map Prod.snd)]
  getObject bucket key :=
    match cloud.objects.get? (bucket, key) with
    | some body => .ok body
    | none => .error (.raised "ClientError" "NoSuchKey")

theorem usesJson_recordedService (uuidHex : String → String) (labels : List CloudLabel)
    (cloud : Cloud) : UsesJson (recordedService uuidHex labels cloud) where
  dumps _ _ := rfl
  loads line json h := by
    unfold recordedService jsonLoads
    dsimp only
    rw [h]

theorem meets_recordedService (uuidHex : String → String) (labels : List CloudLabel) (cloud : Cloud) :
    Meets (recordedService uuidHex labels cloud) labels cloud [cloud] where
  putObject := by
    intro bucket key body h
    unfold recordedService at h
    dsimp only at h
    split_ifs at h with hmem
    exact hmem
  create := by
    intro request jobArn h
    unfold recordedService at h
    dsimp only at h
    split at h
    · rename_i arn hfind
      cases h
      obtain ⟨label, hlabel, hcreated⟩ := List.exists_of_findSome?_eq_some hfind
      split at hcreated
      · split_ifs at hcreated with hrequest
        cases hcreated
        rw [← hrequest]
        exact hlabel
      · cases hcreated
    · cases h
  wait := by
    intro jobArn h job hjob
    unfold recordedService at h
    dsimp only at h
    rw [hjob] at h
    split_ifs at h with hany
    exact hany
  describe := by
    intro jobArn job hjob
    unfold recordedService
    dsimp only
    rw [hjob]
  paginate := by
    intro bucket keyPrefix
    refine ⟨_, rfl, ?_⟩
    have hmem : ∀ key, key ∈ (cloud.objects.keys.filter fun location =>
        location.1 = bucket && keyPrefix.toList.isPrefixOf location.2.toList).map Prod.snd ↔
          Under keyPrefix key ∧ ∃ body, cloud.objects.get? (bucket, key) = some body := by
      intro key
      simp only [List.mem_map, List.mem_filter, Bool.and_eq_true, decide_eq_true_eq,
        List.isPrefixOf_iff_prefix, ← Dict.mem_keys_iff]
      constructor
      · rintro ⟨⟨b, k⟩, ⟨hloc, rfl, hunder⟩, rfl⟩
        exact ⟨hunder, hloc⟩
      · rintro ⟨hunder, hloc⟩
        exact ⟨(bucket, key), ⟨hloc, rfl, hunder⟩, rfl⟩
    rw [List.flatMap_singleton, Option.getD_some]
    refine ⟨?_, ?_, ?_⟩
    · refine (cloud.objects.nodup.filter _).map_on ?_
      rintro ⟨b, k⟩ hloc ⟨b', k'⟩ hloc' heq
      simp only [List.mem_filter, Bool.and_eq_true, decide_eq_true_eq] at hloc hloc'
      rw [Prod.mk.injEq]
      exact ⟨hloc.2.1.trans hloc'.2.1.symm, heq⟩
    · intro key hkey
      obtain ⟨hunder, hbody⟩ := (hmem key).mp hkey
      exact ⟨hunder, cloud, List.mem_singleton_self _, hbody⟩
    · intro key hunder hstates
      exact (hmem key).mpr ⟨hunder, hstates cloud (List.mem_singleton_self _)⟩
  getObject := by
    intro bucket key
    refine ⟨cloud, List.mem_singleton_self _, fun body hget => ?_⟩
    unfold recordedService
    dsimp only
    rw [hget]

/-! ### The file of one summary -/

theorem plain_outputPrefix {uuid : String} (huuid : IsUuid uuid) :
    Url.Plain (outputPrefix defaultConfig (jobName defaultConfig uuid)) := by
  have hlist : (outputPrefix defaultConfig (jobName defaultConfig uuid)).toList =
      "refcheck-batch/output/refcheck-batch-".toList ++ (uuid.toList ++ ['/']) := by
    simp [outputPrefix, jobName, defaultConfig, String.toList_append]
  have hfixed : Url.Plain "refcheck-batch/output/refcheck-batch-" := by decide +kernel
  intro c hc
  rw [hlist, List.mem_append, List.mem_append, List.mem_singleton] at hc
  rcases hc with hc | hc | rfl
  · exact hfixed c hc
  · have hhex := List.all_eq_true.mp huuid c hc
    refine ⟨?_, ?_, ?_⟩
    · rw [Bool.eq_false_iff]
      intro hunsafe
      simp only [Url.isUnsafe, Bool.or_eq_true, decide_eq_true_eq] at hunsafe
      rcases hunsafe with (rfl | rfl) | rfl <;> cases hhex
    · rintro rfl
      cases hhex
    · rintro rfl
      cases hhex
  · decide

theorem recoverable_defaultConfig {checks : Url.HostChecks} (uuid : String) (huuid : IsUuid uuid) :
    Recoverable checks defaultConfig.s3Bucket
      (outputPrefix defaultConfig (jobName defaultConfig uuid)) :=
  .of_ascii (by simp [defaultConfig]) (by decide) (by decide) (by decide) (plain_outputPrefix huuid)
    (by simp [outputPrefix, defaultConfig, String.toList_append])

/-- The result file of the summary. -/
def summaryText : String := "\n".intercalate ([summaryRecord].map (·.line))

theorem isOutput_summaryText : IsOutput summaryText [summaryRecord] :=
  isOutput_lines (List.forall_mem_singleton.mpr wellFormed_summaryRecord)

theorem schemasWellFormed_summaryClasses : SchemasWellFormed summaryClasses := by
  intro m
  simp [summaryClasses, WellFormed, WellFormedMembers, WellFormedItems]

/-- The models of the sample answer every request with the summary. -/
def SummaryResponds (_ : String) (_ : Json) (outcome : Outcome) : Prop :=
  outcome = .content summaryBlocks

def summaryInput : String :=
  String.ofList (dumps (inputRecord .plain 1024 summaryClasses summaryItem))

theorem isInput_summaryInput : IsInput summaryInput
    [("c0_r0_summary", buildModelInput .plain 1024 summaryClasses summaryItem)] := by
  have h := isInput_items .plain 1024 (usesJson_recordedService (fun _ => "0b") [] .empty)
    schemasWellFormed_summaryClasses [summaryItem]
  rw [List.map_singleton, String.intercalate_singleton] at h
  exact h

theorem processes_summary (modelId : String) : Processes SummaryResponds modelId summaryInput
    [("refcheck-batch/output/refcheck-batch-0b/records.jsonl.out", summaryText)] := by
  refine ⟨fun _ => [summaryRecord], ?_, ?_⟩
  · intro file hfile _
    rw [List.mem_singleton.mp hfile]
    exact isOutput_summaryText
  · intro inputs hinputs _ input hinput
    rw [hinputs.unique isInput_summaryInput, List.mem_singleton] at hinput
    subst hinput
    refine ⟨_, rfl, ?_⟩
    have hrecords : fileRecords (fun _ => [summaryRecord])
        ["refcheck-batch/output/refcheck-batch-0b/records.jsonl.out"] = [summaryRecord] := by
      have hkey : isOutputKey "refcheck-batch/output/refcheck-batch-0b/records.jsonl.out" = true := by
        decide +kernel
      rw [fileRecords, List.filter_cons_of_pos hkey]
      rfl
    rw [List.map_singleton, hrecords, List.filter_eq_self.mpr (by simp [summaryRecord])]
    exact sent_summary

def summaryLocations : (String × String) × String × String :=
  (("refcheck", "refcheck-batch/input/refcheck-batch-0b.jsonl"),
    "refcheck", "refcheck-batch/output/refcheck-batch-0b/records.jsonl.out")

/-- The cloud after the job of the summary. -/
def summaryCloud : Cloud where
  objects := .ofPairs [(summaryLocations.1, summaryInput), (summaryLocations.2, summaryText)]
  jobs := .ofPairs [("job-1", ⟨jobRequest defaultConfig "large" "refcheck-batch-0b",
    .ofPairs [(summaryLocations.2.2, summaryText)], true⟩)]

theorem separatorFree_of_summaryCloud {jobArn : String} {job : Job}
    (h : summaryCloud.jobs.get? jobArn = some job) : job.SeparatorFree := by
  obtain ⟨-, rfl⟩ := Prod.mk.inj (List.mem_singleton.mp (Dict.mem_of_get?_ofPairs h))
  intro file hfile _
  have hentry := Dict.mem_of_get?_ofPairs ((Dict.mem_entries_iff _ _ _).mp hfile)
  rw [(Prod.mk.inj (List.mem_singleton.mp hentry)).2]
  exact separatorFree_lines (List.forall_mem_singleton.mpr wellFormed_summaryRecord)

def summaryLabels : List CloudLabel :=
  [.put "refcheck" summaryLocations.1.2 summaryInput,
    .create (jobRequest defaultConfig "large" "refcheck-batch-0b") "job-1",
    .write "job-1" summaryLocations.2.2 summaryText, .finish "job-1"]

theorem exists_run_summaryCloud : ∃ trace,
    Run (CloudStep defaultConfig (Processes SummaryResponds)) .empty trace summaryCloud ∧
      trace.map Prod.fst = summaryLabels := by
  have huuid : IsUuid "0b" := rfl
  have hslash : '/' ∉ "refcheck".toList := by decide
  have hunder : Under "refcheck-batch/output/refcheck-batch-0b/" summaryLocations.2.2 :=
    List.isPrefixOf_iff_prefix.mp (by decide +kernel)
  have hput := @CloudStep.put defaultConfig (Processes SummaryResponds) .empty "0b" summaryInput huuid
    rfl
  have hcreate : CloudStep defaultConfig (Processes SummaryResponds)
      ⟨.ofPairs [(summaryLocations.1, summaryInput)], .empty⟩
      (.create (jobRequest defaultConfig "large" "refcheck-batch-0b") "job-1")
      ⟨.ofPairs [(summaryLocations.1, summaryInput)],
        .ofPairs [("job-1", ⟨jobRequest defaultConfig "large" "refcheck-batch-0b", .empty, false⟩)]⟩ :=
    .create huuid nofun rfl
  have hwrite := @CloudStep.write defaultConfig (Processes SummaryResponds)
    ⟨.ofPairs [(summaryLocations.1, summaryInput)],
      .ofPairs [("job-1", ⟨jobRequest defaultConfig "large" "refcheck-batch-0b", .empty, false⟩)]⟩
    "job-1" "refcheck" _ _ summaryText
    ⟨jobRequest defaultConfig "large" "refcheck-batch-0b", .empty, false⟩ rfl rfl hslash rfl hunder
  have hfinish := @CloudStep.finish defaultConfig (Processes SummaryResponds)
    { summaryCloud with jobs := .ofPairs [("job-1",
      ⟨jobRequest defaultConfig "large" "refcheck-batch-0b",
        .ofPairs [(summaryLocations.2.2, summaryText)], false⟩)] }
    "job-1" "refcheck" summaryLocations.1.2 summaryInput
    ⟨jobRequest defaultConfig "large" "refcheck-batch-0b",
      .ofPairs [(summaryLocations.2.2, summaryText)], false⟩
    rfl rfl hslash rfl rfl (processes_summary "large")
  exact ⟨_, (((Run.nil.snoc hput).snoc hcreate).snoc hwrite).snoc hfinish, rfl⟩

theorem files_carry_summary : ∃ (outcome : String → Outcome)
    (results : Dict String (ItemResult summaryClasses)),
    outcome "c0:r0:summary" = .content summaryBlocks ∧
    runBatchSync .plain (recordedService (fun _ => "0b") summaryLabels summaryCloud) 1024 defaultConfig
      [summaryItem] = .ok results ∧
    Answers .plain [summaryItem] outcome results := by
  obtain ⟨trace, hrun, hlabels⟩ := exists_run_summaryCloud
  have hmeets : Meets (recordedService (fun _ => "0b") summaryLabels summaryCloud)
      (trace.map Prod.fst) summaryCloud [summaryCloud] := by
    rw [hlabels]
    exact meets_recordedService _ _ _
  have hsubmit : ∀ model ∈ [summaryItem].map (·.model), ∃ jobArn,
      submitSingleModelJob .plain 1024 summaryClasses defaultConfig
        (recordedService (fun _ => "0b") summaryLabels summaryCloud) model
        (itemsFor [summaryItem] model) = .ok jobArn ∧
      (recordedService (fun _ => "0b") summaryLabels summaryCloud).waitForSingleJob jobArn =
        .ok () := by
    intro model hmodel
    obtain rfl := List.mem_singleton.mp hmodel
    refine ⟨"job-1", ?_, rfl⟩
    have hitems : itemsFor [summaryItem] summaryItem.model = [summaryItem] := rfl
    have hput : (recordedService (fun _ => "0b") summaryLabels summaryCloud).putObject "refcheck"
        summaryLocations.1.2 summaryInput = .ok () := by
      have hmem : .put "refcheck" summaryLocations.1.2 summaryInput ∈ summaryLabels :=
        List.mem_cons_self
      simp only [recordedService, hmem, if_true]
    unfold submitSingleModelJob
    rw [hitems, List.map_singleton, String.intercalate_singleton]
    refine Except.bind_eq_ok.mpr ⟨(), rfl, Except.bind_eq_ok.mpr ⟨(), hput, ?_⟩⟩
    rfl
  have hseparators : ∀ model jobArn job, submitSingleModelJob .plain 1024 summaryClasses defaultConfig
      (recordedService (fun _ => "0b") summaryLabels summaryCloud) model (itemsFor [summaryItem] model) =
        .ok jobArn → summaryCloud.jobs.get? jobArn = some job → job.SeparatorFree := by
    exact fun _ _ _ _ hjob => separatorFree_of_summaryCloud hjob
  obtain ⟨outcome, results, hresponds, hresults, hanswers⟩ := files_carry_answers
    separate_defaultConfig recoverable_defaultConfig (usesJson_recordedService _ _ _)
    schemasWellFormed_summaryClasses hrun .nil hmeets (List.cons_ne_nil summaryItem [])
    (List.nodup_singleton _) (List.nodup_singleton _) hsubmit hseparators
  exact ⟨outcome, results, hresponds summaryItem List.mem_cons_self, hresults, hanswers⟩

end RefCheck.Bedrock
