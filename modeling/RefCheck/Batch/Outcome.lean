import RefCheck.Batch.Runner
import RefCheck.Model.Evidence

/-!
# What the batch pipeline is for

The purpose of a batch, reference by reference. A reference may need five requests (`RefStep`).
From the replies that came back for them it has its evidence, and from the evidence its result; the
results of a candidate give its entry of the output. Nothing here knows of phases, of dictionaries
or of the other candidates: that the pipeline computes this is the subject of the refinement.
-/

namespace RefCheck

/-! ### The requests of a reference -/

/-- The kinds of requests made for a reference. -/
inductive RefStep where
  | extract
  | sentiment
  | commentSentiment
  | explain
  | summary
  deriving DecidableEq, Repr

namespace RefStep

/-- The tag of the custom ID. -/
def tag : RefStep → String
  | extract => "extract"
  | sentiment => "sentiment"
  | commentSentiment => "comment_sentiment"
  | explain => "explain"
  | summary => "summary"

abbrev model : RefStep → OutputModel
  | extract => .extractedFacts
  | sentiment => .sentimentAndRedFlags
  | commentSentiment => .sentimentAndRedFlags
  | explain => .discrepancyNotes
  | summary => .finalSummary

def tier : RefStep → ModelTier
  | extract => .extraction
  | sentiment => .extraction
  | commentSentiment => .extraction
  | explain => .reasoning
  | summary => .reasoning

theorem colon_not_mem_tag (s : RefStep) : ':' ∉ s.tag.toList := by
  cases s <;> decide

theorem tag_inj {s s' : RefStep} (h : s.tag = s'.tag) : s = s' := by
  cases s <;> cases s' <;> first | rfl | exact absurd h (by decide)

end RefStep

/-- The value that came back for each request; `none` for a request that failed, whose result is
missing, or that was never made. -/
abbrev RefReplies := (s : RefStep) → Option s.model.Value

/-! ### The evidence -/

namespace ReferenceInput

/-- Whether the comments of the form are read. -/
def hasComments (ref : ReferenceInput) : Bool :=
  ref.type = .REF2 && (ref.yesNoForm.map (·.hasComments)).getD false

/-- The stripped comments of the form. -/
def strippedComments (ref : ReferenceInput) : String :=
  (ref.yesNoForm.map (·.strippedComments)).getD ""

/-- The evidence of a transcript or of the answers of a form. -/
def firstEvidence (ref : ReferenceInput) (env : Env) (claimed : ClaimedDetails) (a : RefReplies) :
    Evidence :=
  match ref.type with
  | .REF1 =>
    let facts := (a .extract).getD {}
    { facts
      discrepancies := diffFacts env claimed facts
      sentiment := ((a .sentiment).map (·.sentiment.text)).getD "unclear"
      redFlags := ((a .sentiment).map (·.redFlags)).getD [] }
  | .REF2 =>
    match ref.yesNoForm with
    | some form => formEvidence claimed form
    | none => ⟨{}, [], "unclear", []⟩

/-- The evidence with the comments, if they were read. -/
def commentedEvidence (ref : ReferenceInput) (env : Env) (claimed : ClaimedDetails)
    (a : RefReplies) : Evidence :=
  match (if ref.hasComments then a .commentSentiment else none) with
  | some result => (ref.firstEvidence env claimed a).withComments result
  | none => ref.firstEvidence env claimed a

/-- The evidence with the notes on its discrepancies, if they were explained. -/
def evidence (ref : ReferenceInput) (env : Env) (claimed : ClaimedDetails) (a : RefReplies) :
    Evidence :=
  match (if ref.type = .REF1 then a .explain else none) with
  | some notes =>
    { ref.commentedEvidence env claimed a with
      discrepancies := applyNotes notes (ref.commentedEvidence env claimed a).discrepancies }
  | none => ref.commentedEvidence env claimed a

/-- Which requests are made for a reference. -/
def asks (ref : ReferenceInput) (env : Env) (claimed : ClaimedDetails) (a : RefReplies)
    (s : RefStep) : Bool :=
  ref.Valid env &&
    match s with
    | .extract => ref.type = .REF1
    | .sentiment => ref.type = .REF1
    | .commentSentiment => ref.hasComments
    | .explain => ref.type = .REF1 && (ref.firstEvidence env claimed a).discrepancies ≠ []
    | .summary => true

/-- What a request says. -/
def prompts (ref : ReferenceInput) (env : Env) (subj : Subject) (a : RefReplies) :
    RefStep → String × String
  | .extract => extractFactsRequest env.toPyText subj.candidateName subj.roleAppliedFor
      subj.claimedDetails (pyStr ref.rawInput)
  | .sentiment => sentimentAndRedFlagsRequest (pyStr ref.rawInput)
  | .commentSentiment => sentimentAndRedFlagsRequest ref.strippedComments
  | .explain => explainDiscrepanciesRequest env.toPyText
      (ref.firstEvidence env subj.claimedDetails a).discrepancies
  | .summary => (ref.evidence env subj.claimedDetails a).summaryPrompts env subj

/-! ### Results -/

/-- The result of a reference. -/
def batchResult (ref : ReferenceInput) (env : Env) (subj : Subject) (a : RefReplies) :
    ReferenceResult :=
  match validateReference env subj.candidateName ref with
  | .error e => excludedResult ref e.str
  | .ok _ =>
    { ref.reviewed env (ref.evidence env subj.claimedDetails a)
        (((a .summary).map (·.summary)).getD missingSummary) with
      needsHumanReview := ((ref.evidence env subj.claimedDetails a).score env).needsHumanReview ||
        (a .summary).isNone }

end ReferenceInput

/-! ### Evidence, type by type -/

section evidence

variable {env : Env} {ref : ReferenceInput} {claimed : ClaimedDetails} {a : RefReplies}

theorem hasComments_of_transcript (htype : ref.type = .REF1) : ref.hasComments = false := by
  simp [ReferenceInput.hasComments, htype]

theorem hasComments_of_form {form : YesNoReferenceForm}
    (htype : ref.type = .REF2) (hform : ref.yesNoForm = some form) :
    ref.hasComments = form.hasComments := by
  simp [ReferenceInput.hasComments, htype, hform]

theorem hasComments_iff :
    ref.hasComments = true ↔ ∃ form comments, ref.type = .REF2 ∧ ref.yesNoForm = some form ∧
      form.additionalComments = some comments ∧ Text.strip comments ≠ "" := by
  constructor
  · intro h
    cases htype : ref.type with
    | REF1 =>
      rw [hasComments_of_transcript htype] at h
      cases h
    | REF2 =>
      cases hform : ref.yesNoForm with
      | none => simp [ReferenceInput.hasComments, hform] at h
      | some form =>
        rw [hasComments_of_form htype hform] at h
        have hne : form.strippedComments ≠ "" := of_decide_eq_true h
        unfold YesNoReferenceForm.strippedComments at hne
        cases hcomments : form.additionalComments with
        | none =>
          rw [hcomments] at hne
          exact absurd rfl hne
        | some comments =>
          rw [hcomments] at hne
          exact ⟨form, comments, rfl, rfl, hcomments, hne⟩
  · rintro ⟨form, comments, htype, hform, hcomments, hne⟩
    rw [hasComments_of_form htype hform]
    refine decide_eq_true ?_
    rw [YesNoReferenceForm.strippedComments, hcomments]
    exact hne

theorem commentedEvidence_of_transcript (htype : ref.type = .REF1) :
    ref.commentedEvidence env claimed a = ref.firstEvidence env claimed a := by
  simp [ReferenceInput.commentedEvidence, hasComments_of_transcript htype]

theorem firstEvidence_of_transcript (htype : ref.type = .REF1) :
    ref.firstEvidence env claimed a =
      { facts := (a .extract).getD {}
        discrepancies := diffFacts env claimed ((a .extract).getD {})
        sentiment := ((a .sentiment).map (·.sentiment.text)).getD "unclear"
        redFlags := ((a .sentiment).map (·.redFlags)).getD [] } := by
  rw [ReferenceInput.firstEvidence, htype]

theorem firstEvidence_of_form {form : YesNoReferenceForm} (htype : ref.type = .REF2)
    (hform : ref.yesNoForm = some form) :
    ref.firstEvidence env claimed a = formEvidence claimed form := by
  rw [ReferenceInput.firstEvidence, htype]
  dsimp only
  rw [hform]

theorem evidence_of_transcript (htype : ref.type = .REF1) :
    ref.evidence env claimed a = match a .explain with
      | some notes => { ref.firstEvidence env claimed a with
          discrepancies := applyNotes notes (ref.firstEvidence env claimed a).discrepancies }
      | none => ref.firstEvidence env claimed a := by
  rewrite [ReferenceInput.evidence, if_pos htype, commentedEvidence_of_transcript htype]
  rfl

theorem evidence_of_form (htype : ref.type = .REF2) :
    ref.evidence env claimed a = ref.commentedEvidence env claimed a := by
  rw [ReferenceInput.evidence, if_neg (by simp [htype])]

theorem evidence_of_nil (htype : ref.type = .REF1)
    (hnil : (ref.firstEvidence env claimed a).discrepancies = []) :
    ref.evidence env claimed a = ref.firstEvidence env claimed a := by
  rw [evidence_of_transcript htype]
  cases a .explain with
  | none => rfl
  | some notes =>
    dsimp only
    rw [hnil]
    cases h : ref.firstEvidence env claimed a with
    | mk facts discrepancies sentiment redFlags =>
      rw [h] at hnil
      dsimp only at hnil
      rw [hnil]
      rfl

end evidence

/-! ### Candidates -/

namespace CandidateBatchInput

/-- The results of the references of a candidate. -/
def batchResults (c : CandidateBatchInput) (env : Env) (a : ℕ → RefReplies) :
    List ReferenceResult :=
  c.references.mapIdx fun r ref => ref.batchResult env c.subject (a r)

/-- The entry of a candidate in the output. -/
def batchOutput (c : CandidateBatchInput) (env : Env) (a : ℕ → RefReplies)
    (overall : Option OverallSummary) : CandidateOutput where
  candidateName := c.candidateName
  roleAppliedFor := c.roleAppliedFor
  claimedDetails := c.claimedDetails
  referenceResults := c.batchResults env a
  crossReferenceFlags := crossCheckReferences env.toPyText (c.batchResults env a)
  overallConfidence := (verdict env (c.batchResults env a)).overallConfidence
  overallNeedsReview := (verdict env (c.batchResults env a)).overallNeedsReview
  overallSummary := (overall.map (·.summary)).getD missingOverallSummary

end CandidateBatchInput

/-! ### Items -/

/-- The item of a request for a reference. -/
def RefEntry.item (e : RefEntry) (env : Env) (backend : Backend) (a : RefReplies) (s : RefStep) :
    BatchItem :=
  backend.item (e.cid s.tag) (e.ref.prompts env e.candidate.subject a s) s.model s.tier

/-- The items of some kinds of requests for a reference, of those that are made. -/
def RefEntry.items (e : RefEntry) (env : Env) (backend : Backend) (a : RefReplies)
    (steps : List RefStep) : List BatchItem :=
  (steps.filter (e.ref.asks env e.candidate.claimedDetails a)).map (e.item env backend a)

/-- The item of the overall summary of a candidate. -/
def CandidateBatchInput.overallItem (c : CandidateBatchInput) (env : Env) (backend : Backend)
    (candidateIdx : ℕ) (a : ℕ → RefReplies) : BatchItem :=
  backend.item (overallCid candidateIdx) (overallPrompts env c.subject (c.batchResults env a))
    .overallSummary .reasoning

/-! ### The replies in a run -/

/-- The replies for a reference, from the results of the batches its requests were in. -/
def repliesOf (phase1 phase3 phase4 phase6 : BatchResults) (candidateIdx refIdx : ℕ) : RefReplies
  | .extract => phase1.value? .extractedFacts (cid candidateIdx refIdx "extract")
  | .sentiment => phase1.value? .sentimentAndRedFlags (cid candidateIdx refIdx "sentiment")
  | .commentSentiment =>
    phase3.value? .sentimentAndRedFlags (cid candidateIdx refIdx "comment_sentiment")
  | .explain => phase4.value? .discrepancyNotes (cid candidateIdx refIdx "explain")
  | .summary => phase6.value? .finalSummary (cid candidateIdx refIdx "summary")

namespace BatchRun

variable (run : BatchRun)

/-- The replies for a reference in a run. -/
def replies (candidateIdx refIdx : ℕ) : RefReplies :=
  repliesOf run.phase1.results run.phase3.results run.phase4.results run.phase6.results
    candidateIdx refIdx

/-- The reply for the overall summary of a candidate in a run. -/
def overallReply (candidateIdx : ℕ) : Option OverallSummary :=
  run.phase8.results.value? .overallSummary (overallCid candidateIdx)

end BatchRun

end RefCheck
