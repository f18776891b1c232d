import RefCheck.Batch.NonInterference
import RefCheck.Graphs.CandidateRun

/-!
# The same replies for both paths

To compare the two paths, one successful reply is fixed for every request a candidate may need. The
batch finds it under the custom ID, the graphs get it as the answer of their call
(`CandidateReplies.llm`; the requests of one reference differ in their output model). With these
answers a review is what the purpose of the batch says: `review_eq`.
-/

namespace RefCheck

/-- One successful reply for every request that a candidate may need. -/
structure CandidateReplies where
  reference : ℕ → (s : RefStep) → s.model.Value
  overall : OverallSummary
  /-- The references whose sentiment comes before the facts, where both are asked at the same time. -/
  sentimentFirst : ℕ → Bool := fun _ => false

/-- The replies for a reference, all of them there. -/
def CandidateReplies.given (R : CandidateReplies) (j : ℕ) : RefReplies :=
  fun s => some (R.reference j s)

/-- The map of a batch has the replies under the IDs of candidate `i`. -/
structure BatchResults.Holds (replies : BatchResults) (i : ℕ) (R : CandidateReplies) : Prop where
  reference : ∀ j s, replies.get s.model (cid i j s.tag) = some (.succeeded (R.reference j s))
  overall : replies.get .overallSummary (overallCid i) = some (.succeeded R.overall)

namespace BatchResults.Holds

variable {replies : BatchResults} {i : ℕ} {R : CandidateReplies}

theorem repliesAt_eq (h : replies.Holds i R) : replies.repliesAt i = R.given := by
  funext j s
  rw [BatchResults.repliesAt, BatchResults.value?, h.reference]
  rfl

theorem overall_eq (h : replies.Holds i R) :
    replies.value? .overallSummary (overallCid i) = some R.overall := by
  rw [BatchResults.value?, h.overall]
  rfl

theorem hasPhase1 {env : Env} (h : replies.Holds i R) (j : ℕ) (c : CandidateBatchInput)
    (ref : ReferenceInput) : HasPhase1 env replies ⟨i, j, c, ref⟩ := by
  rintro - -
  have hextract := h.reference j .extract
  have hsentiment := h.reference j .sentiment
  refine ⟨?_, isSome_value?_iff.mpr ⟨R.reference j .sentiment, hsentiment⟩⟩
  exact Option.isSome_iff_exists.mpr ⟨_, hextract⟩

end BatchResults.Holds

/-! ### The answers to the calls -/

/-- The answers to the calls for a reference, by the output model they ask for. -/
def stepAnswer (type : ReferenceType) (a : (s : RefStep) → s.model.Value) :
    (m : OutputModel) → Except PyException m.Value
  | .extractedFacts => .ok (a .extract)
  | .sentimentAndRedFlags => match type with
    | .REF1 => .ok (a .sentiment)
    | .REF2 => .ok (a .commentSentiment)
  | .discrepancyNotes => .ok (a .explain)
  | .finalSummary => .ok (a .summary)
  | .overallSummary => .error (.keyError "'overall'")

def stepProvider (getModel : ModelTier → String) (type : ReferenceType)
    (a : (s : RefStep) → s.model.Value) (sentimentFirst : Bool) : Provider where
  getModel := getModel
  answer rq := stepAnswer type a rq.outputModel
  sentimentFirst := sentimentFirst

/-- The answer to the call for a candidate. -/
def overallAnswer (overall : OverallSummary) : (m : OutputModel) → Except PyException m.Value
  | .overallSummary => .ok overall
  | .extractedFacts => .error (.keyError "'extract'")
  | .sentimentAndRedFlags => .error (.keyError "'sentiment'")
  | .discrepancyNotes => .error (.keyError "'explain'")
  | .finalSummary => .error (.keyError "'summary'")

/-- The replies as the answers to the calls of the graphs. -/
def CandidateReplies.llm (R : CandidateReplies) (getModel : ModelTier → String)
    (c : CandidateBatchInput) : CandidateLLM where
  getModel := getModel
  reference j rq :=
    stepAnswer ((c.references[j]?.map (·.type)).getD .REF1) (R.reference j) rq.outputModel
  overall rq := overallAnswer R.overall rq.outputModel
  sentimentFirst := R.sentimentFirst

theorem forReference_llm {R : CandidateReplies} {getModel : ModelTier → String}
    {c : CandidateBatchInput} {j : ℕ} {ref : ReferenceInput} (hr : c.references[j]? = some ref) :
    (R.llm getModel c).forReference j =
      stepProvider getModel ref.type (R.reference j) (R.sentimentFirst j) := by
  unfold CandidateLLM.forReference CandidateReplies.llm stepProvider
  dsimp only
  rw [hr]
  rfl

/-! ### The requests of a review -/

namespace ReferenceInput

/-- What the graphs ask: the comments of a form go out as they are. -/
def askedPrompts (ref : ReferenceInput) (env : Env) (subj : Subject) (a : RefReplies) :
    RefStep → String × String
  | .commentSentiment =>
    sentimentAndRedFlagsRequest (pyStr (ref.yesNoForm.bind (·.additionalComments)))
  | s => ref.prompts env subj a s

/-- The steps that are reached for a reference. -/
def askedSteps (ref : ReferenceInput) (env : Env) (claimed : ClaimedDetails) (a : RefReplies) :
    List RefStep :=
  [.extract, .sentiment, .commentSentiment, .explain, .summary].filter (ref.asks env claimed a)

/-- The requests of the graphs for a reference, in their order. -/
def askedRequests (ref : ReferenceInput) (env : Env) (getModel : ModelTier → String)
    (subj : Subject) (a : RefReplies) : List LLMRequest :=
  (ref.askedSteps env subj.claimedDetails a).map fun s =>
    { system := (ref.askedPrompts env subj a s).1
      userMessage := (ref.askedPrompts env subj a s).2
      outputModel := s.model
      model := getModel s.tier }

end ReferenceInput

section review

variable {env : Env} {getModel : ModelTier → String} {subj : Subject} {ref : ReferenceInput}
  {a : (s : RefStep) → s.model.Value} {first : Bool}

theorem askedSteps_of_transcript (htype : ref.type = .REF1) (hvalid : ref.Valid env)
    (b : RefReplies) :
    ref.askedSteps env subj.claimedDetails b =
      if (ref.firstEvidence env subj.claimedDetails b).discrepancies = [] then
        [.extract, .sentiment, .summary]
      else [.extract, .sentiment, .explain, .summary] := by
  split_ifs with hnil
  · simp [ReferenceInput.askedSteps, ReferenceInput.asks, hvalid, htype, hnil,
      hasComments_of_transcript htype]
  · simp [ReferenceInput.askedSteps, ReferenceInput.asks, hvalid, htype, hnil,
      hasComments_of_transcript htype]

theorem askedSteps_of_form (htype : ref.type = .REF2) (hvalid : ref.Valid env) (b : RefReplies) :
    ref.askedSteps env subj.claimedDetails b =
      if ref.hasComments = true then [.commentSentiment, .summary] else [.summary] := by
  split_ifs with hcomments
  · simp [ReferenceInput.askedSteps, ReferenceInput.asks, hvalid, htype, hcomments]
  · simp [ReferenceInput.askedSteps, ReferenceInput.asks, hvalid, htype, hcomments]

theorem structuredCall_bind {type : ReferenceType} {m : OutputModel} {v : m.Value} {B : Type}
    (h : stepAnswer type a m = .ok v) (prompts : String × String) (tier : ModelTier)
    (f : m.Value → Issue LLMRequest PyException B) :
    (stepProvider getModel type a first).structuredCall prompts m tier >>= f =
      ⟨⟨prompts.1, prompts.2, m, getModel tier⟩ :: (f v).log, (f v).result⟩ :=
  Issue.bind_of_ok h f

theorem both_structuredCall_bind {type : ReferenceType} {m m' : OutputModel} {v : m.Value}
    {v' : m'.Value} {B : Type} (h : stepAnswer type a m = .ok v) (h' : stepAnswer type a m' = .ok v')
    (second : Bool) (prompts prompts' : String × String) (tier tier' : ModelTier)
    (f : m.Value × m'.Value → Issue LLMRequest PyException B) :
    Issue.both second ((stepProvider getModel type a first).structuredCall prompts m tier)
        ((stepProvider getModel type a first).structuredCall prompts' m' tier') >>= f =
      ⟨⟨prompts.1, prompts.2, m, getModel tier⟩ :: ⟨prompts'.1, prompts'.2, m', getModel tier'⟩ ::
        (f (v, v')).log, (f (v, v')).result⟩ := by
  rw [Issue.both_of_ok h h', Issue.bind_of_ok rfl]
  rfl

theorem review_of_transcript (htype : ref.type = .REF1) (hvalid : ref.Valid env) :
    review env (stepProvider getModel ref.type a first) subj ref =
      ⟨ref.askedRequests env getModel subj (fun s => some (a s)),
        .ok (ref.evidence env subj.claimedDetails (fun s => some (a s)), (a .summary).summary)⟩ := by
  have hraw : RawInputOk env ref.rawInput := (valid_iff_of_transcript htype).mp hvalid
  have hextract : stepAnswer ref.type a .extractedFacts = .ok (a .extract) := rfl
  have hsentiment : stepAnswer ref.type a .sentimentAndRedFlags = .ok (a .sentiment) := by
    rw [htype]
    rfl
  have hexplain : stepAnswer ref.type a .discrepancyNotes = .ok (a .explain) := rfl
  have hsummary : stepAnswer ref.type a .finalSummary = .ok (a .summary) := rfl
  have hfirst : ref.firstEvidence env subj.claimedDetails (fun s => some (a s)) =
      ⟨a .extract, diffFacts env subj.claimedDetails (a .extract), (a .sentiment).sentiment.text,
        (a .sentiment).redFlags⟩ := firstEvidence_of_transcript htype
  unfold review ReferenceInput.askedRequests
  rw [askedSteps_of_transcript htype hvalid, gather_of_transcript htype hraw, hfirst]
  unfold gatherOpenEnded summarized
  by_cases hnil : diffFacts env subj.claimedDetails (a .extract) = []
  · have hev := evidence_of_nil htype (by rw [hfirst]; exact hnil)
    have hpure : ∀ llm : Provider, explained env llm [] = pure [] := fun llm => if_neg (by simp)
    rw [if_pos hnil]
    simp only [List.map_cons, List.map_nil, ReferenceInput.askedPrompts, ReferenceInput.prompts, hev,
      hfirst]
    simp only [bind_assoc, pure_bind]
    rw [both_structuredCall_bind hextract hsentiment]
    simp only [hnil, hpure, pure_bind]
    rw [structuredCall_bind hsummary]
    rfl
  · have hev : ref.evidence env subj.claimedDetails (fun s => some (a s)) =
        { ref.firstEvidence env subj.claimedDetails (fun s => some (a s)) with
          discrepancies := applyNotes (a .explain)
            (ref.firstEvidence env subj.claimedDetails (fun s => some (a s))).discrepancies } :=
      evidence_of_transcript htype
    unfold explained
    rw [if_neg hnil]
    simp only [List.map_cons, List.map_nil, ReferenceInput.askedPrompts, ReferenceInput.prompts, hev,
      hfirst]
    simp only [bind_assoc, pure_bind]
    rw [both_structuredCall_bind hextract hsentiment]
    rw [if_pos hnil]
    simp only [bind_assoc, pure_bind]
    simp only [structuredCall_bind hexplain, structuredCall_bind hsummary]
    rfl

theorem review_of_form (htype : ref.type = .REF2) (hvalid : ref.Valid env) :
    review env (stepProvider getModel ref.type a first) subj ref =
      ⟨ref.askedRequests env getModel subj (fun s => some (a s)),
        .ok (ref.evidence env subj.claimedDetails (fun s => some (a s)), (a .summary).summary)⟩ := by
  obtain ⟨form, hform⟩ := (valid_iff_of_form htype).mp hvalid
  have hcomment : stepAnswer ref.type a .sentimentAndRedFlags = .ok (a .commentSentiment) := by
    rw [htype]
    rfl
  have hsummary : stepAnswer ref.type a .finalSummary = .ok (a .summary) := rfl
  have hcomments := hasComments_of_form htype hform
  have hev : ref.evidence env subj.claimedDetails (fun s => some (a s)) =
      if form.hasComments = true then
        (formEvidence subj.claimedDetails form).withComments (a .commentSentiment)
      else formEvidence subj.claimedDetails form := by
    rw [evidence_of_form htype, ReferenceInput.commentedEvidence, hcomments,
      firstEvidence_of_form htype hform]
    split_ifs <;> rfl
  unfold review ReferenceInput.askedRequests
  rw [askedSteps_of_form htype hvalid, gather_of_form htype hform, hcomments]
  unfold gatherYesNo summarized
  by_cases h : form.hasComments = true
  · rw [if_pos h] at hev ⊢
    rw [if_pos h]
    simp only [List.map_cons, List.map_nil, ReferenceInput.askedPrompts, ReferenceInput.prompts, hev,
      hform]
    simp only [bind_assoc, pure_bind]
    simp only [structuredCall_bind hcomment, structuredCall_bind hsummary]
    rfl
  · rw [if_neg h] at hev ⊢
    rw [if_neg h]
    simp only [List.map_cons, List.map_nil, ReferenceInput.askedPrompts, ReferenceInput.prompts, hev]
    simp only [bind_assoc, pure_bind]
    rw [structuredCall_bind hsummary]
    rfl

/-- **A review with all its answers** makes the requests of the steps it reaches, and ends in the
evidence that the purpose of the batch makes of the same replies. -/
theorem review_eq (hvalid : ref.Valid env) :
    review env (stepProvider getModel ref.type a first) subj ref =
      ⟨ref.askedRequests env getModel subj (fun s => some (a s)),
        .ok (ref.evidence env subj.claimedDetails (fun s => some (a s)), (a .summary).summary)⟩ := by
  cases htype : ref.type with
  | REF1 =>
    rw [← htype]
    exact review_of_transcript htype hvalid
  | REF2 =>
    rw [← htype]
    exact review_of_form htype hvalid

end review

end RefCheck
