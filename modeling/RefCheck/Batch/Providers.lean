import RefCheck.Backends.Files
import RefCheck.Batch.Answered
import RefCheck.Model.ModelTiers
import RefCheck.Providers.StructuredCall

/-!
# The pipeline over either provider

`run_batch_pipeline` with its `batch_provider`: the name selects the backend and the models. What the
services make of an item may depend on its ID and on what it says, but the pipeline returns the same
whichever provider is named (`batch_providers_interchangeable`).
-/

namespace RefCheck

/-! ### The backends of the pipeline -/

/-- An item, as the backends take it. The pipeline leaves `max_tokens` to them. -/
def BatchItem.requestItem (item : BatchItem) : RequestItem OutputModel where
  customId := item.customId
  system := item.system
  userMessage := item.userMessage
  outputModel := item.outputModel
  model := item.model

/-- A result, as the pipeline reads it. It has a value of the model that its item asked for. -/
def ItemResult.read {models : PipelineModels} (result : ItemResult models.classes) (m : OutputModel) :
    BatchItemResult m :=
  match result.success, result.value with
  | true, some ⟨m', value⟩ => if h : m' = m then .succeeded (h ▸ value) else .failed ""
  | _, _ => .failed (result.error.getD "")

/-- The results of a backend, as the pipeline reads them. -/
def readResults (models : PipelineModels) (results : Dict String (ItemResult models.classes)) :
    BatchResults where
  get m customId := (results.get? customId).map fun result => result.read m

/-- What `run_batch_pipeline` finds around it: the environment and settings, and the services as they are
while a batch is run. -/
structure BatchServices where
  environ : Dict String String
  llmMaxTokens : ℤ
  models : PipelineModels
  bedrockConfig : Bedrock.Config
  client : List BatchItem → Anthropic.Client
  service : List BatchItem → Bedrock.Service

section pipeline

variable (env : Env) (services : BatchServices)

/-- `_get_batch_backend`: the `run_batch_sync` of the backend. -/
def getBatchBackend (batchProvider : String) :
    Except PyException (List BatchItem → Except PyException BatchResults) :=
  if batchProvider = "anthropic" then
    .ok fun items => readResults services.models <$>
      Anthropic.runBatchSync env.toPyText services.llmMaxTokens (services.client items)
        (items.map (·.requestItem))
  else if batchProvider = "bedrock" then
    .ok fun items => readResults services.models <$>
      Bedrock.runBatchSync env.toPyText (services.service items) services.llmMaxTokens
        services.bedrockConfig (items.map (·.requestItem))
  else
    .error (.valueError ("Unknown batch_provider=" ++ env.reprStr batchProvider ++
      ". Expected 'anthropic' or 'bedrock'."))

/-- `run_batch_pipeline`, with its provider. -/
def runBatchPipelineWith (batchProvider : String) (candidates : List CandidateBatchInput) :
    Except PyException (List CandidateOutput) := do
  let runBatchSync ← getBatchBackend env services batchProvider
  let modelExtraction ← getModel env.toPyText services.environ batchProvider "extraction"
  let modelReasoning ← getModel env.toPyText services.environ batchProvider "reasoning"
  let backend : Backend := {
    getModel := fun
      | .extraction => modelExtraction
      | .reasoning => modelReasoning
    runBatchSync }
  runBatchPipeline env backend candidates

end pipeline

/-! ### What the services make of items -/

/-- What the services make of an item, by its ID, its prompts and its output model. -/
abbrev Respond := (customId : String) → (prompts : String × String) → (m : OutputModel) → Outcome

/-- The value that an outcome gives. -/
def Outcome.reply (py : PyText) (models : PipelineModels) (m : OutputModel) (outcome : Outcome) :
    Option m.Value :=
  (outcome.input? (toolName py models.classes m)).bind fun input =>
    (models.modelValidate m input).toOption

/-- The values that the outcomes give. -/
def Respond.replies (respond : Respond) (py : PyText) (models : PipelineModels) : ItemReplies :=
  fun customId prompts m => (respond customId prompts m).reply py models m

/-- The outcomes of the items. -/
def Respond.OutcomesAre (respond : Respond) (items : List BatchItem) (outcome : String → Outcome) : Prop :=
  ∀ item ∈ items, outcome item.customId =
    respond item.customId (item.system, item.userMessage) item.outputModel

/-- The services of both providers serve every batch, with the outcomes of its items. -/
structure BatchServices.Serve (services : BatchServices) (py : PyText) (respond : Respond) : Prop where
  anthropic : ∀ items, Submittable items → ∃ outcome, respond.OutcomesAre items outcome ∧
    Anthropic.Serves py services.llmMaxTokens services.models.classes (services.client items)
      (items.map (·.requestItem)) outcome
  bedrock : ∀ items, Submittable items → ∃ outcome, respond.OutcomesAre items outcome ∧
    Bedrock.Serves py services.llmMaxTokens services.models.classes services.bedrockConfig
      (services.service items) (items.map (·.requestItem)) outcome

section replies

variable {py : PyText} {models : PipelineModels}

theorem value?_eq_reply {m : OutputModel} {outcome : Outcome} :
    outcome.value? py models.classes m =
      (outcome.reply py models m).map fun value => Sigma.mk m value := by
  unfold Outcome.value? Outcome.reply
  cases outcome.input? (toolName py models.classes m) with
  | none => rfl
  | some input =>
    have hvalidate : models.modelValidate m input = models.classes.modelValidate m input := rfl
    dsimp only [Option.bind_some]
    rw [hvalidate]
    cases models.classes.modelValidate m input <;> rfl

theorem value?_read {item : RequestItem OutputModel} {outcome : Outcome}
    {result : ItemResult models.classes} (h : result.Reports py item outcome) :
    (result.read item.outputModel).value? = outcome.reply py models item.outputModel := by
  have hvalue := h.value.trans value?_eq_reply
  unfold ItemResult.read
  rw [h.success, hvalue]
  cases outcome.reply py models item.outputModel with
  | none => rfl
  | some value =>
    change BatchItemResult.value? (if h : item.outputModel = item.outputModel then
      .succeeded (h ▸ value) else .failed "") = some value
    rw [dif_pos rfl]
    rfl

theorem get_readResults_of_answers {items : List BatchItem} {outcome : String → Outcome}
    {respond : Respond} {results : Dict String (ItemResult models.classes)}
    (houtcome : respond.OutcomesAre items outcome)
    (hanswers : Answers py (items.map (·.requestItem)) outcome results) {item : BatchItem}
    (hitem : item ∈ items) :
    ∃ result, (readResults models results).get item.outputModel item.customId = some result ∧
      result.value? = respond.replies py models item.customId (item.system, item.userMessage)
        item.outputModel := by
  obtain ⟨result, hget, hreports⟩ := hanswers.reports _ (List.mem_map.mpr ⟨item, hitem, rfl⟩)
  refine ⟨result.read item.outputModel, ?_, ?_⟩
  · exact Option.map_eq_some_iff.mpr ⟨result, hget, rfl⟩
  · rw [Respond.replies, ← houtcome item hitem]
    exact value?_read hreports

end replies

/-! ### Either provider -/

section providers

variable {env : Env} {services : BatchServices} {respond : Respond}
  {candidates : List CandidateBatchInput} {batchProvider : String}

variable (env services) in
theorem exists_getBatchBackend_iff :
    (∃ run, getBatchBackend env services batchProvider = .ok run) ↔
      batchProvider = "anthropic" ∨ batchProvider = "bedrock" := by
  unfold getBatchBackend
  split_ifs with hanthropic hbedrock
  · simp [hanthropic]
  · simp [hbedrock]
  · simp [hanthropic, hbedrock]

theorem Submittable.nodup_requestItem {items : List BatchItem} (h : Submittable items) :
    ((items.map (·.requestItem)).map (·.customId)).Nodup := by
  rw [List.map_map]
  exact h.nodup

theorem Submittable.nodup_requestItem_recordId {items : List BatchItem} (h : Submittable items) :
    ((items.map (·.requestItem)).map fun item => Bedrock.sanitizeRecordId item.customId).Nodup := by
  rw [List.map_map]
  exact h.nodup_recordId

/-- Whichever backend is found, it replies as the services do. -/
theorem repliesAs_of_getBatchBackend (hserve : services.Serve env.toPyText respond)
    {run : List BatchItem → Except PyException BatchResults}
    (h : getBatchBackend env services batchProvider = .ok run) (getModel : ModelTier → String) :
    Backend.RepliesAs ⟨getModel, run⟩ (respond.replies env.toPyText services.models) := by
  intro items hitems
  have hne : items.map (·.requestItem) ≠ [] := List.map_eq_nil_iff.not.mpr hitems.ne_nil
  unfold getBatchBackend at h
  split_ifs at h
  · obtain ⟨outcome, houtcome, hserves⟩ := hserve.anthropic items hitems
    obtain ⟨results, hrun, hanswers⟩ := Anthropic.answers hne hitems.nodup_requestItem hserves
    cases h
    exact ⟨readResults _ results, Except.map_eq_ok.mpr ⟨results, hrun, rfl⟩,
      fun item hitem => get_readResults_of_answers houtcome hanswers hitem⟩
  · obtain ⟨outcome, houtcome, hserves⟩ := hserve.bedrock items hitems
    obtain ⟨results, hrun, hanswers⟩ := Bedrock.answers hne hitems.nodup_requestItem
      hitems.nodup_requestItem_recordId hserves
    cases h
    exact ⟨readResults _ results, Except.map_eq_ok.mpr ⟨results, hrun, rfl⟩,
      fun item hitem => get_readResults_of_answers houtcome hanswers hitem⟩

theorem runBatchPipelineWith_eq_ok_iff (hserve : services.Serve env.toPyText respond)
    (hprovider : batchProvider = "anthropic" ∨ batchProvider = "bedrock")
    {outputs : List CandidateOutput} :
    runBatchPipelineWith env services batchProvider candidates = .ok outputs ↔
      (∀ c ∈ candidates, c.references ≠ []) ∧
      SentimentsReplied env candidates (respond.replies env.toPyText services.models) ∧
      outputs = candidates.mapIdx fun i c =>
        c.answeredOutput env (respond.replies env.toPyText services.models) i := by
  constructor
  · intro h
    obtain ⟨run, hrun, h⟩ := Except.bind_eq_ok.mp h
    obtain ⟨_, -, h⟩ := Except.bind_eq_ok.mp h
    obtain ⟨_, -, h⟩ := Except.bind_eq_ok.mp h
    exact (runBatchPipeline_eq_ok_iff_answered (repliesAs_of_getBatchBackend hserve hrun _)).mp h
  · intro h
    have hkey : batchProvider ∈ modelTiers.keys := by
      rcases hprovider with rfl | rfl <;> decide
    obtain ⟨run, hrun⟩ := (exists_getBatchBackend_iff env services).mpr hprovider
    obtain ⟨extraction, hextraction⟩ := exists_getModel hkey .extraction
    obtain ⟨reasoning, hreasoning⟩ := exists_getModel hkey .reasoning
    refine Except.bind_eq_ok.mpr ⟨run, hrun, Except.bind_eq_ok.mpr ⟨extraction, hextraction,
      Except.bind_eq_ok.mpr ⟨reasoning, hreasoning, ?_⟩⟩⟩
    exact (runBatchPipeline_eq_ok_iff_answered (repliesAs_of_getBatchBackend hserve hrun _)).mpr h

end providers

/-! ### Services that answer every item -/

/-- The input of the tool call that every item of a model is answered with. -/
def replyInput : OutputModel → Json
  | .extractedFacts => .obj []
  | .sentimentAndRedFlags => .obj [("sentiment", .str "positive"), ("red_flags", .arr [])]
  | .discrepancyNotes => .obj [("notes", .arr [])]
  | .finalSummary => .obj [("summary", .str "Fine.")]
  | .overallSummary => .obj [("summary", .str "Fine.")]

/-- The output models, of which only these inputs validate here. -/
def replyModels : PipelineModels where
  name := summaryClasses.name
  modelJsonSchema _ := [("type", .str "object")]
  modelValidate
    | .extractedFacts, .obj [] => .ok {}
    | .sentimentAndRedFlags, .obj [("sentiment", .str "positive"), ("red_flags", .arr [])] =>
      .ok ⟨.positive, []⟩
    | .discrepancyNotes, .obj [("notes", .arr [])] => .ok ⟨[]⟩
    | .finalSummary, .obj [("summary", .str summary)] => .ok ⟨summary⟩
    | .overallSummary, .obj [("summary", .str summary)] => .ok ⟨summary⟩
    | _, _ => .error "Field required"

def replyName (m : OutputModel) : String := toolName .plain replyModels.classes m

/-- What every item is answered with. -/
def replyRespond : Respond := fun _ _ m => .content [.toolUse (replyName m) (replyInput m)]

/-- The answer as a record. -/
def replyRecord (item : BatchItem) : Bedrock.OutputRecord where
  recordId := Bedrock.sanitizeRecordId item.customId
  members := [("recordId", .str (Bedrock.sanitizeRecordId item.customId)),
    ("modelOutput", .obj [("content", .arr [.obj [("type", .str "tool_use"),
      ("name", .str (replyName item.outputModel)), ("input", replyInput item.outputModel)]])])]
  recordId_eq := rfl

/-- One file with the answers to all items, for the job of every model. -/
def replyService (items : List BatchItem) : Bedrock.Service where
  uuidHex _ := "0123456789ab"
  jsonDumps json := String.ofList (JsonCodec.dumps json)
  jsonLoads := jsonLoads "Expecting value: line 1 column 1 (char 0)"
  jsonStr _ := ""
  hostChecks := ⟨fun _ => none, id⟩
  putObject _ _ _ := .ok ()
  createModelInvocationJob request := .ok ("job-" ++ request.modelId)
  waitForSingleJob _ := .ok ()
  getModelInvocationJob _ := .ok "s3://bucket/output/check-0123456789ab/"
  paginate _ _ := .ok [some ["output/check-0123456789ab/records.jsonl.out"]]
  getObject _ _ := .ok ("\n".intercalate ((items.map replyRecord).map (·.line)))

/-- The answer as an entry of the stream. -/
def replyEntry (item : BatchItem) : Anthropic.ResultEntry where
  customId := item.customId
  result := .succeeded [.toolUse (replyName item.outputModel) (replyInput item.outputModel)]

def replyClient (items : List BatchItem) : Anthropic.Client where
  create _ := .ok "batch-1"
  waitForBatch _ := .ok ()
  results _ := .ok (items.map replyEntry)

def replyServices : BatchServices where
  environ := .ofPairs [("MODEL_BEDROCK_REASONING", "amazon.nova-pro-v1:0")]
  llmMaxTokens := 1024
  models := replyModels
  bedrockConfig := summaryConfig
  client := replyClient
  service := replyService

theorem exists_outcomesAre (respond : Respond) {items : List BatchItem} (h : Submittable items) :
    ∃ outcome, respond.OutcomesAre items outcome := by
  classical
  refine ⟨fun id => if hid : ∃ item ∈ items, item.customId = id then
    respond id (hid.choose.system, hid.choose.userMessage) hid.choose.outputModel else .missing, ?_⟩
  intro item hitem
  have hid : ∃ item' ∈ items, item'.customId = item.customId := ⟨item, hitem, rfl⟩
  have hsame : hid.choose = item :=
    List.inj_on_of_nodup_map h.nodup hid.choose_spec.1 hitem hid.choose_spec.2
  dsimp only
  rw [dif_pos hid, hsame]

theorem anthropic_serves_reply {items : List BatchItem} (h : Submittable items)
    {outcome : String → Outcome} (houtcome : replyRespond.OutcomesAre items outcome) :
    Anthropic.Serves .plain 1024 replyModels.classes (replyClient items)
      (items.map (·.requestItem)) outcome := by
  refine ⟨_, _, rfl, rfl, rfl, ?_⟩
  rw [List.forall_mem_map]
  intro item hitem
  have hfilter : items.filter ((fun entry => entry.customId = item.requestItem.customId) ∘ replyEntry) =
      [item] := Loop.filter_key_eq_singleton h.nodup hitem
  have hout : outcome item.requestItem.customId = _ := houtcome item hitem
  rw [List.filter_map, List.map_map, hfilter, hout]
  exact .content _

theorem wellFormed_replyInput (m : OutputModel) : JsonCodec.WellFormed (replyInput m) := by
  cases m <;> simp [replyInput, JsonCodec.WellFormed, JsonCodec.WellFormedMembers,
    JsonCodec.WellFormedItems]

theorem wellFormed_replyRecord (item : BatchItem) :
    JsonCodec.WellFormed (.obj (replyRecord item).members) := by
  simp [replyRecord, JsonCodec.WellFormed, JsonCodec.WellFormedMembers, JsonCodec.WellFormedItems,
    wellFormed_replyInput]

theorem bedrock_serves_reply {items : List BatchItem} (h : Submittable items)
    {outcome : String → Outcome} (houtcome : replyRespond.OutcomesAre items outcome) :
    Bedrock.Serves .plain 1024 replyModels.classes summaryConfig (replyService items)
      (items.map (·.requestItem)) outcome := by
  have hlocation : Bedrock.parseS3Uri (replyService []) "s3://bucket/output/check-0123456789ab/" =
      .ok ("bucket", "output/check-0123456789ab/") := by decide +kernel
  intro model _
  have hkeys : ["output/check-0123456789ab/records.jsonl.out"].filter Bedrock.isOutputKey =
      ["output/check-0123456789ab/records.jsonl.out"] := by decide +kernel
  have hwf : ∀ record ∈ items.map replyRecord, JsonCodec.WellFormed (.obj record.members) :=
    List.forall_mem_map.mpr fun item _ => wellFormed_replyRecord item
  refine ⟨"job-" ++ model, rfl, rfl, items.map replyRecord,
    .of_lines _ rfl hlocation rfl hkeys rfl hwf fun record hrecord =>
      jsonLoads_line _ (hwf record hrecord), ?_⟩
  intro requestItem hrequest
  obtain ⟨item, hitem, rfl⟩ := List.mem_map.mp (List.mem_of_mem_filter hrequest)
  have hfilter : items.filter ((fun record => record.recordId =
      Bedrock.sanitizeRecordId item.requestItem.customId) ∘ replyRecord) = [item] :=
    Loop.filter_key_eq_singleton h.nodup_recordId hitem
  have hout : outcome item.requestItem.customId = _ := houtcome item hitem
  rw [List.filter_map, List.map_map, hfilter, hout]
  refine .content _ _ _ _ rfl rfl (.cons ?_ .nil)
  exact .toolUse _ _ _ rfl rfl rfl

theorem serve_replyServices : replyServices.Serve .plain replyRespond where
  anthropic := by
    intro items hitems
    obtain ⟨outcome, houtcome⟩ := exists_outcomesAre replyRespond hitems
    exact ⟨outcome, houtcome, anthropic_serves_reply hitems houtcome⟩
  bedrock := by
    intro items hitems
    obtain ⟨outcome, houtcome⟩ := exists_outcomesAre replyRespond hitems
    exact ⟨outcome, houtcome, bedrock_serves_reply hitems houtcome⟩

theorem replies_replyRespond (customId : String) (prompts : String × String) (m : OutputModel) :
    replyRespond.replies .plain replyModels customId prompts m = (cleanReply m).value? := by
  have hinput : (Outcome.content [.toolUse (replyName m) (replyInput m)]).input?
      (toolName .plain replyModels.classes m) = some (replyInput m) := by
    simp [Outcome.input?, ContentBlock.input?, replyName]
  rw [Respond.replies, replyRespond, Outcome.reply, hinput]
  cases m <;> rfl

end RefCheck
