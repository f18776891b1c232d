import RefCheck.Backends.Anthropic
import RefCheck.Backends.BedrockResults

/-!
# The backends are interchangeable

Both backends answer the items (`Anthropic.answers`, `Bedrock.answers`), and answers are determined by
the outcomes but for the texts of errors (`Answers.agree`). So the pipeline gets the same from either.
-/

namespace RefCheck

section agree

variable {M : Type} {py : PyText} {cls : ModelClasses M} {items : List (RequestItem M)}
  {outcome : String → Outcome} {results results' : Dict String (ItemResult cls)}

theorem ItemResult.Reports.success_iff {item : RequestItem M} {out : Outcome} {r : ItemResult cls}
    (h : r.Reports py item out) : r.success = true ↔ ∃ input value,
      out.input? (toolName py cls item.outputModel) = some input ∧
        cls.modelValidate item.outputModel input = .ok value := by
  rw [h.success, h.value, isSome_value?_iff_input?]

theorem Answers.agree (h : Answers py items outcome results) (h' : Answers py items outcome results')
    {item : RequestItem M} (hitem : item ∈ items) : ∃ r r',
      results.get? item.customId = some r ∧ results'.get? item.customId = some r' ∧
      (r.customId = item.customId ∧ r'.customId = item.customId) ∧
      (r.success = r'.success ∧ r.value = r'.value) ∧
      r.value = (outcome item.customId).value? py cls item.outputModel ∧
      (r.success = true ↔ ∃ input value,
        (outcome item.customId).input? (toolName py cls item.outputModel) = some input ∧
          cls.modelValidate item.outputModel input = .ok value) := by
  obtain ⟨r, hr, hreports⟩ := h.reports item hitem
  obtain ⟨r', hr', hreports'⟩ := h'.reports item hitem
  have hvalue : r.value = r'.value := hreports.value.trans hreports'.value.symm
  refine ⟨r, r', hr, hr', ⟨hreports.customId, hreports'.customId⟩, ⟨?_, hvalue⟩, hreports.value,
    hreports.success_iff⟩
  rw [hreports.success, hreports'.success, hvalue]

end agree

/-- **The backends are interchangeable.** -/
theorem backends_interchangeable {M : Type} {py : PyText} {llmMaxTokens : ℤ} {cls : ModelClasses M}
    {config : Bedrock.Config} {service : Bedrock.Service} {client : Anthropic.Client}
    {items : List (RequestItem M)} {outcome : String → Outcome} (hne : items ≠ [])
    (hids : (items.map (·.customId)).Nodup)
    (hrecordIds : (items.map fun item => Bedrock.sanitizeRecordId item.customId).Nodup)
    (hbedrock : Bedrock.Serves py llmMaxTokens cls config service items outcome)
    (hanthropic : Anthropic.Serves py llmMaxTokens cls client items outcome) :
    ∃ bedrock anthropic : Dict String (ItemResult cls),
      Bedrock.runBatchSync py service llmMaxTokens config items = .ok bedrock ∧
      Anthropic.runBatchSync py llmMaxTokens client items = .ok anthropic ∧
      (∀ id, id ∈ bedrock.keys ↔ id ∈ items.map (·.customId)) ∧
      (∀ id, id ∈ anthropic.keys ↔ id ∈ items.map (·.customId)) ∧
      ∀ item ∈ items, ∃ b a, bedrock.get? item.customId = some b ∧
        anthropic.get? item.customId = some a ∧
        (b.customId = item.customId ∧ a.customId = item.customId) ∧
        (b.success = a.success ∧ b.value = a.value) ∧
        b.value = (outcome item.customId).value? py cls item.outputModel ∧
        (b.success = true ↔ ∃ input value,
          (outcome item.customId).input? (toolName py cls item.outputModel) = some input ∧
            cls.modelValidate item.outputModel input = .ok value) := by
  obtain ⟨bedrock, hrunBedrock, hbedrockAnswers⟩ := Bedrock.answers hne hids hrecordIds hbedrock
  obtain ⟨anthropic, hrunAnthropic, hanthropicAnswers⟩ := Anthropic.answers hne hids hanthropic
  exact ⟨bedrock, anthropic, hrunBedrock, hrunAnthropic, hbedrockAnswers.keys, hanthropicAnswers.keys,
    fun item hitem => hbedrockAnswers.agree hanthropicAnswers hitem⟩

/-! ### A batch for two models -/

/-- The output models of the pipeline, of which only a summary validates here. -/
def summaryClasses : ModelClasses OutputModel where
  name
    | .extractedFacts => "ExtractedFacts"
    | .sentimentAndRedFlags => "SentimentAndRedFlags"
    | .discrepancyNotes => "DiscrepancyNotes"
    | .finalSummary => "FinalSummary"
    | .overallSummary => "OverallSummary"
  Value := OutputModel.Value
  modelJsonSchema _ :=
    [("properties", .obj [("summary", .obj [("title", .str "Summary"), ("type", .str "string")])]),
      ("required", .arr [.str "summary"]), ("title", .str "FinalSummary"), ("type", .str "object")]
  modelValidate
    | .finalSummary, json =>
      match json.getStr? "summary" with
      | some summary => .ok ⟨summary⟩
      | none => .error "Field required"
    | _, _ => .error "Field required"

def summaryItem : RequestItem OutputModel where
  customId := "c0:r0:summary"
  system := "You summarize references."
  userMessage := "Summarize."
  outputModel := .finalSummary
  model := "large"

def sentimentItem : RequestItem OutputModel where
  customId := "c0:r0:sentiment"
  system := "You rate comments."
  userMessage := "Rate."
  outputModel := .sentimentAndRedFlags
  model := "small"

def summaryBlocks : List ContentBlock :=
  [.other "text" (by decide), .toolUse "emit_finalsummary" (.obj [("summary", .str "Fine.")])]

/-- The summary is made, anything else is refused. -/
def summaryOutcome (customId : String) : Outcome :=
  if customId = "c0:r0:summary" then .content summaryBlocks else .error

def summaryClient : Anthropic.Client where
  create _ := .ok "batch-1"
  waitForBatch _ := .ok ()
  results _ := .ok [⟨"c9:r9:summary", .unsuccessful .expired ""⟩,
    ⟨"c0:r0:sentiment", .unsuccessful .errored "Overloaded"⟩,
    ⟨"c0:r0:summary", .succeeded summaryBlocks⟩]

/-- The record of the summary. -/
def summaryRecord : Bedrock.OutputRecord where
  recordId := "c0_r0_summary"
  members := [("recordId", .str "c0_r0_summary"), ("modelOutput", .obj [("content", .arr
    [.obj [("type", .str "text"), ("text", .str "So:")],
      .obj [("type", .str "tool_use"), ("name", .str "emit_finalsummary"),
        ("input", .obj [("summary", .str "Fine.")])]])])]
  recordId_eq := rfl

/-- A record of a request that was refused. -/
def refusedRecord (recordId : String) : Bedrock.OutputRecord where
  recordId := recordId
  members := [("recordId", .str recordId), ("error", .obj [("errorCode", .num "400"),
    ("errorMessage", .str "Malformed input request")])]
  recordId_eq := rfl

theorem wellFormed_summaryRecord : JsonCodec.WellFormed (.obj summaryRecord.members) := by
  simp [summaryRecord, JsonCodec.WellFormed, JsonCodec.WellFormedMembers, JsonCodec.WellFormedItems]

theorem wellFormed_refusedRecord (recordId : String) :
    JsonCodec.WellFormed (.obj (refusedRecord recordId).members) := by
  have hcode : JsonText.Number "400".toList := JsonCodec.number_int 400
  simp only [refusedRecord, JsonCodec.WellFormed, JsonCodec.WellFormedMembers, and_true, true_and]
  exact ⟨by simp, by simp, .inl hcode⟩

def summaryConfig : Bedrock.Config where
  s3Bucket := "bucket"
  roleArn := "role"
  jobNamePrefix := "check"
  s3InputPrefix := "input"
  s3OutputPrefix := "output"

/-- `json.loads`, which refuses what is no JSON with the message. -/
def jsonLoads (message line : String) : Except PyException Json :=
  match JsonCodec.loads line.toList with
  | some json => .ok json
  | none => .error (.raised "JSONDecodeError" message)

theorem jsonLoads_line (message : String) {record : Bedrock.OutputRecord}
    (hwf : JsonCodec.WellFormed (.obj record.members)) :
    jsonLoads message record.line = .ok (.obj record.members) := by
  rw [jsonLoads, Bedrock.OutputRecord.loads_line hwf]

/-- The service with a job for each of the two models. -/
def summaryService : Bedrock.Service where
  uuidHex model := if model = "large" then "0123456789ab" else "ba9876543210"
  jsonDumps json := String.ofList (JsonCodec.dumps json)
  jsonLoads := jsonLoads "Expecting value: line 1 column 1 (char 0)"
  jsonStr _ := "\x7b'errorCode': 400, 'errorMessage': 'Malformed input request'\x7d"
  hostChecks := ⟨fun _ => none, id⟩
  putObject _ _ _ := .ok ()
  createModelInvocationJob request := .ok (if request.modelId = "large" then "job-1" else "job-2")
  waitForSingleJob _ := .ok ()
  getModelInvocationJob jobArn := .ok (if jobArn = "job-1" then
    "s3://bucket/output/check-0123456789ab/" else "s3://bucket/output/check-ba9876543210/")
  paginate _ keyPrefix := .ok [none, some [keyPrefix ++ "manifest.json.out",
    keyPrefix ++ "records.jsonl.out"]]
  getObject _ key := .ok ("\n".intercalate
    ((if key = "output/check-0123456789ab/records.jsonl.out" then [summaryRecord]
      else [refusedRecord "c9_r9_sentiment", refusedRecord "c0_r0_sentiment"]).map (·.line)))

theorem sent_summary : Bedrock.Sent (.content summaryBlocks) [summaryRecord.members] := by
  refine .content _ _ _ _ rfl rfl (.cons ?_ (.cons ?_ .nil))
  · exact .other _ _ _ rfl
  · exact .toolUse _ _ _ rfl rfl rfl

theorem bedrock_serves_summary : Bedrock.Serves .plain 1024 summaryClasses summaryConfig summaryService
    [summaryItem, sentimentItem] summaryOutcome := by
  intro model hmodel
  simp only [List.map_cons, List.map_nil, List.mem_cons, List.not_mem_nil, or_false] at hmodel
  rcases hmodel with rfl | rfl
  · have hlocation : Bedrock.parseS3Uri summaryService "s3://bucket/output/check-0123456789ab/" =
        .ok ("bucket", "output/check-0123456789ab/") := by decide +kernel
    have hwf : ∀ record ∈ [summaryRecord], JsonCodec.WellFormed (.obj record.members) :=
      List.forall_mem_singleton.mpr wellFormed_summaryRecord
    have hwrites : Bedrock.Writes summaryService "job-1" [summaryRecord] :=
      .of_lines "output/check-0123456789ab/records.jsonl.out" rfl hlocation rfl (by decide) rfl
        hwf fun record hrecord => jsonLoads_line _ (hwf record hrecord)
    refine ⟨"job-1", rfl, rfl, _, hwrites, ?_⟩
    intro item hitem
    have hown : Bedrock.itemsFor [summaryItem, sentimentItem] "large" = [summaryItem] := rfl
    rw [show summaryItem.model = "large" from rfl, hown, List.mem_singleton] at hitem
    subst hitem
    exact sent_summary
  · have hlocation : Bedrock.parseS3Uri summaryService "s3://bucket/output/check-ba9876543210/" =
        .ok ("bucket", "output/check-ba9876543210/") := by decide +kernel
    have hwf : ∀ record ∈ [refusedRecord "c9_r9_sentiment", refusedRecord "c0_r0_sentiment"],
        JsonCodec.WellFormed (.obj record.members) := by simp [wellFormed_refusedRecord]
    have hwrites : Bedrock.Writes summaryService "job-2"
        [refusedRecord "c9_r9_sentiment", refusedRecord "c0_r0_sentiment"] :=
      .of_lines "output/check-ba9876543210/records.jsonl.out" rfl hlocation rfl (by decide) rfl
        hwf fun record hrecord => jsonLoads_line _ (hwf record hrecord)
    refine ⟨"job-2", rfl, rfl, _, hwrites, ?_⟩
    intro item hitem
    have hown : Bedrock.itemsFor [summaryItem, sentimentItem] "small" = [sentimentItem] := rfl
    rw [show sentimentItem.model = "small" from rfl, hown, List.mem_singleton] at hitem
    subst hitem
    exact .error _ rfl

theorem anthropic_serves_summary : Anthropic.Serves .plain 1024 summaryClasses summaryClient
    [summaryItem, sentimentItem] summaryOutcome := by
  refine ⟨_, _, rfl, rfl, rfl, fun item hitem => ?_⟩
  simp only [List.mem_cons, List.not_mem_nil, or_false] at hitem
  rcases hitem with rfl | rfl
  · exact .content summaryBlocks
  · exact .error .errored "Overloaded"

/-- The summary comes out with one value from both, and the other item has failed with both. -/
theorem backends_interchangeable_summary : ∃ bedrock anthropic : Dict String (ItemResult summaryClasses),
    Bedrock.runBatchSync .plain summaryService 1024 summaryConfig [summaryItem, sentimentItem] =
      .ok bedrock ∧
    Anthropic.runBatchSync .plain 1024 summaryClient [summaryItem, sentimentItem] = .ok anthropic ∧
    (∃ b a, bedrock.get? "c0:r0:summary" = some b ∧ anthropic.get? "c0:r0:summary" = some a ∧
      b.value = some ⟨.finalSummary, ⟨"Fine."⟩⟩ ∧ b.value = a.value) ∧
    ∃ b a, bedrock.get? "c0:r0:sentiment" = some b ∧ anthropic.get? "c0:r0:sentiment" = some a ∧
      b.success = false ∧ a.success = false := by
  obtain ⟨bedrock, anthropic, hbedrock, hanthropic, -, -, hagree⟩ := backends_interchangeable
    (List.cons_ne_nil _ _) (by decide) (by decide) bedrock_serves_summary anthropic_serves_summary
  refine ⟨bedrock, anthropic, hbedrock, hanthropic, ?_, ?_⟩
  · obtain ⟨b, a, hb, ha, -, ⟨-, hsame⟩, hvalue, -⟩ := hagree summaryItem List.mem_cons_self
    exact ⟨b, a, hb, ha, hvalue, hsame⟩
  · obtain ⟨b, a, hb, ha, -, ⟨hsame, -⟩, -, hiff⟩ :=
      hagree sentimentItem (List.mem_cons_of_mem _ (List.mem_singleton_self _))
    have hfalse : b.success = false := by
      rw [Bool.eq_false_iff]
      intro htrue
      obtain ⟨input, value, hinput, -⟩ := hiff.mp htrue
      cases hinput
    exact ⟨b, a, hb, ha, hfalse, hsame ▸ hfalse⟩

end RefCheck
