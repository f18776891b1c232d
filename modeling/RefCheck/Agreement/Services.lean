import RefCheck.Agreement.Requests
import RefCheck.Batch.Providers

/-!
# One model behind every path

If what answers is a function of what is asked, it does not matter through which path it is asked. The
graphs over a real-time provider, whose calls may be throttled, and the batch pipeline over either
backend come to the same verdict on a candidate (`paths_and_providers_agree`).
-/

namespace RefCheck

/-- What a model answers, by what it is asked. -/
abbrev ModelAnswers := (prompts : String × String) → (m : OutputModel) → m.Value

/-- The provider answers every request that it makes, as the model does. -/
def Provider.AnswersAs (llm : Provider) (answers : ModelAnswers) : Prop :=
  ∀ prompts m tier, llm.answer (llm.request prompts m tier) = .ok (answers prompts m)

/-- The replies are what the model answers to the requests that they lead to. -/
def RefReplies.AreAnswers (a : RefReplies) (env : Env) (subj : Subject) (ref : ReferenceInput)
    (answers : ModelAnswers) : Prop :=
  ∀ s, a s = some (answers (ref.prompts env subj a s) s.model)

section review

variable {env : Env} {llm : Provider} {answers : ModelAnswers} {subj : Subject} {ref : ReferenceInput}
  {a : RefReplies}

theorem Provider.AnswersAs.result_bind (h : llm.AnswersAs answers) (prompts : String × String)
    (m : OutputModel) (tier : ModelTier) {B : Type} (f : m.Value → Issue LLMRequest PyException B) :
    (llm.structuredCall prompts m tier >>= f).result = (f (answers prompts m)).result := by
  have hcall : (llm.structuredCall prompts m tier).result = .ok (answers prompts m) := h prompts m tier
  rw [Issue.bind_of_ok hcall]

theorem Provider.AnswersAs.result_both_bind (h : llm.AnswersAs answers) (second : Bool)
    (prompts prompts' : String × String) (m m' : OutputModel) (tier tier' : ModelTier) {B : Type}
    (f : m.Value × m'.Value → Issue LLMRequest PyException B) :
    (Issue.both second (llm.structuredCall prompts m tier) (llm.structuredCall prompts' m' tier') >>=
      f).result = (f (answers prompts m, answers prompts' m')).result := by
  have hcall : (llm.structuredCall prompts m tier).result = .ok (answers prompts m) := h prompts m tier
  have hcall' : (llm.structuredCall prompts' m' tier').result = .ok (answers prompts' m') :=
    h prompts' m' tier'
  rw [Issue.both_of_ok hcall hcall', Issue.bind_of_ok rfl]

theorem gather_transcript_eq (h : llm.AnswersAs answers) (ha : a.AreAnswers env subj ref answers)
    (htype : ref.type = .REF1) (hvalid : ref.Valid env) :
    (gather env llm subj ref).result = .ok (ref.evidence env subj.claimedDetails a) := by
  let facts := answers (ref.prompts env subj a .extract) .extractedFacts
  let sentiment := answers (ref.prompts env subj a .sentiment) .sentimentAndRedFlags
  have hfirst : ref.firstEvidence env subj.claimedDetails a = ⟨facts,
      diffFacts env subj.claimedDetails facts, sentiment.sentiment.text, sentiment.redFlags⟩ := by
    rw [firstEvidence_of_transcript htype, ha .extract, ha .sentiment]
    rfl
  rw [gather_of_transcript htype ((valid_iff_of_transcript htype).mp hvalid)]
  unfold gatherOpenEnded
  rw [h.result_both_bind]
  change (explained env llm (diffFacts env subj.claimedDetails facts) >>= fun discrepancies =>
    pure (Evidence.mk facts discrepancies sentiment.sentiment.text sentiment.redFlags)).result = _
  unfold explained
  split_ifs with hne
  · have hnotes : a .explain = some (answers (explainDiscrepanciesRequest env.toPyText
        (diffFacts env subj.claimedDetails facts)) .discrepancyNotes) := by
      rw [ha .explain, ReferenceInput.prompts, hfirst]
    rw [bind_assoc, h.result_bind, evidence_of_transcript htype, hnotes, hfirst]
    rfl
  · rw [evidence_of_nil htype (by rw [hfirst]; exact not_not.mp hne), hfirst]
    rfl

/-- A form is evaluated as the batch does it, if its comments read the same stripped. -/
theorem gather_form_eq (h : llm.AnswersAs answers) (ha : a.AreAnswers env subj ref answers)
    (htype : ref.type = .REF2) (hvalid : ref.Valid env) (hstripped : ref.CommentsStripped) :
    (gather env llm subj ref).result = .ok (ref.evidence env subj.claimedDetails a) := by
  obtain ⟨form, hform⟩ := (valid_iff_of_form htype).mp hvalid
  rw [gather_of_form htype hform, evidence_of_form htype, ReferenceInput.commentedEvidence,
    hasComments_of_form htype hform, firstEvidence_of_form htype hform]
  unfold gatherYesNo
  split_ifs with hcomments
  · have hsame : pyStr form.additionalComments = ref.strippedComments := by
      have hhas : ref.hasComments = true := (hasComments_of_form htype hform).trans hcomments
      obtain ⟨form', comments, -, hform', hsome, hne⟩ := hasComments_iff.mp hhas
      cases hform.symm.trans hform'
      rw [ReferenceInput.strippedComments, hform, Option.map_some, Option.getD_some,
        YesNoReferenceForm.strippedComments, hsome]
      exact (hstripped form comments htype hform hsome hne).symm
    rw [h.result_bind, ha .commentSentiment, hsame]
    rfl
  · rfl

theorem review_result_eq (h : llm.AnswersAs answers) (ha : a.AreAnswers env subj ref answers)
    (hvalid : ref.Valid env) (hstripped : ref.CommentsStripped) :
    (review env llm subj ref).result = .ok (ref.evidence env subj.claimedDetails a,
      (answers (ref.prompts env subj a .summary) .finalSummary).summary) := by
  have hgather : (gather env llm subj ref).result = .ok (ref.evidence env subj.claimedDetails a) := by
    cases htype : ref.type with
    | REF1 => exact gather_transcript_eq h ha htype hvalid
    | REF2 => exact gather_form_eq h ha htype hvalid hstripped
  unfold review summarized
  rw [Issue.bind_of_ok hgather]
  simp only [bind_assoc]
  rw [h.result_bind]
  rfl

end review

/-! ### The candidate -/

/-- One provider for all calls of a candidate. Which of two calls at the same time ends first is not for
the provider to say. -/
def Provider.forCandidate (llm : Provider) (sentimentFirst : ℕ → Bool) : CandidateLLM where
  getModel := llm.getModel
  reference _ := llm.answer
  overall := llm.answer
  sentimentFirst := sentimentFirst

/-- The state that an entry of the output has the shape of, with the references it lacks. -/
def CandidateOutput.state (out : CandidateOutput) (references : List ReferenceInput) :
    CandidateState where
  candidateName := out.candidateName
  roleAppliedFor := out.roleAppliedFor
  claimedDetails := out.claimedDetails
  references := references
  referenceResults := out.referenceResults
  crossReferenceFlags := some out.crossReferenceFlags
  overallConfidence := some out.overallConfidence
  overallNeedsReview := some out.overallNeedsReview
  overallSummary := some out.overallSummary

section candidate

variable {env : Env} {llm : Provider} {answers : ModelAnswers} {c : CandidateBatchInput}
  {a : ℕ → RefReplies} {first : ℕ → Bool}

theorem results_forCandidate (h : llm.AnswersAs answers)
    (ha : ∀ j ref, c.references[j]? = some ref → (a j).AreAnswers env c.subject ref answers)
    (hvalid : ∀ ref ∈ c.references, ref.Valid env)
    (hstripped : ∀ ref ∈ c.references, ref.CommentsStripped) :
    c.results env (llm.forCandidate first) = c.batchResults env a := by
  refine List.ext_getElem? fun j => ?_
  rw [CandidateBatchInput.getElem?_results, getElem?_batchResults]
  cases hr : c.references[j]? with
  | none => rfl
  | some ref =>
    have href := List.mem_of_getElem? hr
    have hanswers := ha j ref hr
    have hllm : ((llm.forCandidate first).forReference j).AnswersAs answers := h
    have hreview := review_result_eq hllm hanswers (hvalid ref href) (hstripped ref href)
    rw [Option.map_some, Option.map_some, hreview, batchResult_of_valid (hvalid ref href),
      hanswers .summary, Option.isNone_some, Bool.or_false]
    rfl

theorem candidateGraph_invoke_forCandidate (h : llm.AnswersAs answers)
    (ha : ∀ j ref, c.references[j]? = some ref → (a j).AreAnswers env c.subject ref answers)
    (hne : c.references ≠ []) (hvalid : ∀ ref ∈ c.references, ref.Valid env)
    (hstripped : ∀ ref ∈ c.references, ref.CommentsStripped) :
    ((candidateGraph env (llm.forCandidate first)).invoke recursionLimit c.inputState).result =
      .ok ((c.batchOutput env a (some (answers (overallPrompts env c.subject (c.batchResults env a))
        .overallSummary))).state c.references) := by
  have hresults : c.results env (llm.forCandidate first) = c.batchResults env a :=
    results_forCandidate h ha hvalid hstripped
  have hanswers : (llm.forCandidate first).forOverall.AnswersAs answers := h
  rw [candidateGraph_invoke hne, Issue.bind_of_ok rfl]
  dsimp only
  rw [hanswers.result_bind, hresults]
  unfold CandidateBatchInput.finalState CandidateBatchInput.scoredState
    CandidateBatchInput.crossCheckedState CandidateBatchInput.reviewedState
  rw [hresults]
  rfl

theorem areAnswers_answered {reply : ItemReplies}
    (hreply : ∀ customId prompts m, reply customId prompts m = some (answers prompts m)) (i j : ℕ)
    (ref : ReferenceInput) (hr : c.references[j]? = some ref) :
    (c.answered env reply i j).AreAnswers env c.subject ref answers := by
  intro s
  rw [CandidateBatchInput.answered, hr]
  exact (RefEntry.answered_eq s).trans (hreply _ _ _)

end candidate

/-! ### All paths -/

section paths

variable {env : Env} {models : PipelineModels} {services : BatchServices} {respond : Respond}
  {answers : ModelAnswers} {candidates : List CandidateBatchInput} {E R : Type} {config : CallConfig}
  {toException : E → PyException} {provider : LLMProvider E R}

/-- The request of a call, for one of the tiers. -/
def LLMProvider.request (provider : LLMProvider E R) (prompts : String × String) (m : OutputModel)
    (tier : ModelTier) : LLMRequest where
  system := prompts.1
  userMessage := prompts.2
  outputModel := m
  model := provider.getModel tier

variable (env config models provider answers) in
/-- Every call to the provider gets the answer of the model, if need be after attempts that ask for
another one. -/
def CallsAnswered : Prop :=
  ∀ prompts m tier, ∃ last < config.llmMaxRetries.toNat,
    (∀ n < last, ∃ e, attempts env.toPyText config models.classes provider
        (provider.request prompts m tier).callArguments n = .error e ∧
      provider.isRetryableException e = true) ∧
    ∃ response input, attempts env.toPyText config models.classes provider
        (provider.request prompts m tier).callArguments last = .ok response ∧
      provider.extractToolInput response (toolName env.toPyText models.classes m) = some input ∧
      models.modelValidate m input = .ok (answers prompts m)

theorem CallsAnswered.answersAs (h : CallsAnswered env models answers config provider) :
    (provider.toProvider env.toPyText config models toException).AnswersAs answers := by
  intro prompts m tier
  obtain ⟨last, hlast, hcall⟩ := h prompts m tier
  have hmax : 1 ≤ config.llmMaxRetries := by omega
  exact (toProvider_answer_eq_ok_iff hmax).mpr ⟨last, hlast, hcall⟩

/-- **The path does not matter.** If the services of the batch and the real-time provider answer as one
model does, then the pipeline over either backend returns, and its entry for a candidate is the state in
which the graph of the candidate ends, whatever the provider is, however often it was throttled and
whichever of two calls at the same time ends first. Every candidate has a reference, the references are
valid, and their comments stripped. -/
theorem paths_and_providers_agree (hserve : services.Serve env.toPyText respond)
    (hrespond : ∀ customId prompts m,
      respond.replies env.toPyText services.models customId prompts m = some (answers prompts m))
    (hcalls : CallsAnswered env services.models answers config provider)
    (hne : ∀ c ∈ candidates, c.references ≠ [])
    (hvalid : ∀ c ∈ candidates, ∀ ref ∈ c.references, ref.Valid env)
    (hstripped : ∀ c ∈ candidates, ∀ ref ∈ c.references, ref.CommentsStripped) :
    ∃ outputs : List CandidateOutput, outputs.length = candidates.length ∧
      (∀ batchProvider ∈ ["anthropic", "bedrock"],
        runBatchPipelineWith env services batchProvider candidates = .ok outputs) ∧
      ∀ (i : ℕ) (c : CandidateBatchInput) (out : CandidateOutput), candidates[i]? = some c →
        outputs[i]? = some out → ∀ sentimentFirst : ℕ → Bool,
        ((candidateGraph env ((provider.toProvider env.toPyText config services.models
          toException).forCandidate sentimentFirst)).invoke recursionLimit c.inputState).result =
            .ok (out.state c.references) := by
  have hsentiments : SentimentsReplied env candidates
      (respond.replies env.toPyText services.models) := by
    intro e _ _ _
    rw [RefEntry.replyTo, hrespond]
    rfl
  refine ⟨_, List.length_mapIdx, fun batchProvider hprovider =>
    (runBatchPipelineWith_eq_ok_iff hserve ?_).mpr ⟨hne, hsentiments, rfl⟩, ?_⟩
  · rwa [List.mem_cons, List.mem_singleton] at hprovider
  · intro i c out hc hout sentimentFirst
    rw [List.getElem?_mapIdx, hc, Option.map_some, Option.some.injEq] at hout
    subst hout
    have hmem := List.mem_of_getElem? hc
    rw [CandidateBatchInput.answeredOutput, hrespond]
    exact candidateGraph_invoke_forCandidate hcalls.answersAs (areAnswers_answered hrespond i)
      (hne c hmem) (hvalid c hmem) (hstripped c hmem)

end paths

/-! ### A provider that is throttled -/

def cleanAnswers : ModelAnswers := fun _ => fun
  | .extractedFacts => {}
  | .sentimentAndRedFlags => ⟨.positive, []⟩
  | .discrepancyNotes => ⟨[]⟩
  | .finalSummary => ⟨"Fine."⟩
  | .overallSummary => ⟨"Fine."⟩

/-- The model that a tool is for. -/
def toolModel? (tool : String) : Option OutputModel :=
  [OutputModel.extractedFacts, .sentimentAndRedFlags, .discrepancyNotes, .finalSummary,
    .overallSummary].find? fun m => replyName m = tool

/-- Bedrock when it throttles the first two attempts of every call. -/
def replyAttempt (args : ExecuteArguments) (n : ℕ) :
    Except BedrockProvider.Exception (List ContentBlock) :=
  if n < 2 then .error (.clientError (some "ThrottlingException") "Too many requests")
  else
    match toolModel? args.toolName with
    | some m => .ok [.toolUse args.toolName (replyInput m)]
    | none => .ok []

def replyProvider : LLMProvider BedrockProvider.Exception (List ContentBlock) :=
  BedrockProvider.provider sampleModel replyAttempt

theorem toolModel?_replyName (m : OutputModel) : toolModel? (replyName m) = some m := by
  cases m <;> decide +kernel

theorem callsAnswered_replyProvider :
    CallsAnswered sampleEnv replyServices.models cleanAnswers ⟨1024, 4⟩ replyProvider := by
  intro prompts m tier
  refine ⟨2, by decide, fun n hn => ?_, ?_⟩
  · refine ⟨.clientError (some "ThrottlingException") "Too many requests", ?_, by decide⟩
    exact if_pos hn
  · have hattempt : ∀ args : ExecuteArguments, args.toolName = replyName m →
        replyAttempt args 2 = .ok [.toolUse (replyName m) (replyInput m)] := by
      intro args htool
      rw [replyAttempt, if_neg (by decide), htool, toolModel?_replyName]
    have htool : replyProvider.extractToolInput [.toolUse (replyName m) (replyInput m)] (replyName m) =
        some (replyInput m) := by
      change (List.findSome? _ _).bind notNone = _
      simp only [List.findSome?_cons, ContentBlock.input?, if_true]
      cases m <;> rfl
    refine ⟨_, replyInput m, hattempt _ rfl, htool, ?_⟩
    cases m <;> rfl

/-- A transcript and a form with comments. -/
def pathsCandidate : CandidateBatchInput :=
  sampleCandidate [sampleTranscript "Bob", sampleForm "Eve" (some "Great.")]

theorem references_pathsCandidate_ne_nil : pathsCandidate.references ≠ [] := List.cons_ne_nil _ _

theorem valid_of_mem_pathsCandidate {ref : ReferenceInput} (h : ref ∈ pathsCandidate.references) :
    ref.Valid sampleEnv := by
  rcases List.mem_pair.mp h with rfl | rfl
  · exact valid_sampleTranscript "Bob"
  · exact Option.some_ne_none _

theorem commentsStripped_of_mem_pathsCandidate {ref : ReferenceInput}
    (h : ref ∈ pathsCandidate.references) : ref.CommentsStripped := by
  intro form comments htype hform hcomments _
  rcases List.mem_pair.mp h with rfl | rfl
  · cases htype
  · cases hform
    cases hcomments
    decide

theorem paths_and_providers_agree_reply : ∃ out : CandidateOutput,
    runBatchPipelineWith sampleEnv replyServices "anthropic" [pathsCandidate] = .ok [out] ∧
    runBatchPipelineWith sampleEnv replyServices "bedrock" [pathsCandidate] = .ok [out] ∧
    ((candidateGraph sampleEnv ((replyProvider.toProvider .plain ⟨1024, 4⟩ replyModels
      (fun e => .raised "ClientError" e.str)).forCandidate fun i => i = 0)).invoke recursionLimit
        pathsCandidate.inputState).result = .ok (out.state pathsCandidate.references) := by
  have hrespond : ∀ customId prompts m,
      replyRespond.replies .plain replyModels customId prompts m = some (cleanAnswers prompts m) := by
    intro customId prompts m
    rw [replies_replyRespond]
    cases m <;> rfl
  have hne : ∀ c ∈ [pathsCandidate], c.references ≠ [] :=
    List.forall_mem_singleton.mpr references_pathsCandidate_ne_nil
  have hvalid : ∀ c ∈ [pathsCandidate], ∀ ref ∈ c.references, ref.Valid sampleEnv :=
    List.forall_mem_singleton.mpr fun _ => valid_of_mem_pathsCandidate
  have hstripped : ∀ c ∈ [pathsCandidate], ∀ ref ∈ c.references, ref.CommentsStripped :=
    List.forall_mem_singleton.mpr fun _ => commentsStripped_of_mem_pathsCandidate
  obtain ⟨outputs, hlength, hbatch, hgraph⟩ := @paths_and_providers_agree sampleEnv replyServices
    replyRespond cleanAnswers [pathsCandidate] _ _ ⟨1024, 4⟩ (fun e => .raised "ClientError" e.str)
    replyProvider serve_replyServices hrespond callsAnswered_replyProvider hne hvalid hstripped
  obtain ⟨out, rfl⟩ := List.length_eq_one_iff.mp hlength
  exact ⟨out, hbatch _ List.mem_cons_self, hbatch _ (List.mem_cons_of_mem _ List.mem_cons_self),
    hgraph 0 _ out rfl rfl _⟩

end RefCheck
