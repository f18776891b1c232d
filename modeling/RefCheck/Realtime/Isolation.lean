import RefCheck.Agreement.Results

/-!
# Failures stay with their reference

Whatever the calls for the references raise, the candidate graph comes to `score_overall` with one
result for each reference (`failures_are_isolated`). A result is the failure result exactly when its
transcript is out of bounds or one of its own calls raised, it is the result that the reference has
alone, and one failure is enough to leave the candidate to a reviewer.
-/

namespace RefCheck

open StateGraph Target Issue

variable {env : Env} {llm : Provider} {subj : Subject} {ref : ReferenceInput}

/-! ### What raises in a review -/

/-- A request that the provider answers with an exception. -/
def Provider.Raises (llm : Provider) (rq : LLMRequest) : Prop := ∃ e, llm.answer rq = .error e

theorem raisesWith_structuredCall (prompts : String × String) (m : OutputModel) (tier : ModelTier) :
    RaisesWith llm.Raises (llm.structuredCall prompts m tier) :=
  RaisesWith.issue Iff.rfl

theorem raisesWith_explained (discrepancies : List Discrepancy) :
    RaisesWith llm.Raises (explained env llm discrepancies) := by
  unfold explained
  split_ifs with h
  · exact (raisesWith_structuredCall _ _ _).bind fun _ _ => RaisesWith.pure _
  · exact RaisesWith.pure _

theorem raisesWith_gatherOpenEnded (rawInput : String) :
    RaisesWith llm.Raises (gatherOpenEnded env llm subj rawInput) := by
  refine ((raisesWith_structuredCall _ _ _).both (raisesWith_structuredCall _ _ _)).bind fun _ _ => ?_
  exact (raisesWith_explained _).bind fun _ _ => RaisesWith.pure _

theorem raisesWith_gatherYesNo (claimed : ClaimedDetails) (form : YesNoReferenceForm) :
    RaisesWith llm.Raises (gatherYesNo llm claimed form) := by
  unfold gatherYesNo
  split_ifs with h
  · exact (raisesWith_structuredCall _ _ _).bind fun _ _ => RaisesWith.pure _
  · exact RaisesWith.pure _

theorem raisesWith_review (hvalid : ref.Valid env) :
    RaisesWith llm.Raises (review env llm subj ref) := by
  have hgather : RaisesWith llm.Raises (gather env llm subj ref) := by
    cases htype : ref.type with
    | REF1 =>
      rw [gather_of_transcript htype ((valid_iff_of_transcript htype).mp hvalid)]
      exact raisesWith_gatherOpenEnded _
    | REF2 =>
      obtain ⟨form, hform⟩ := (valid_iff_of_form htype).mp hvalid
      rw [gather_of_form htype hform]
      exact raisesWith_gatherYesNo _ form
  refine hgather.bind fun ev _ => ?_
  have hsummarized : RaisesWith llm.Raises (summarized env llm subj ev) :=
    (raisesWith_structuredCall _ _ _).bind fun _ _ => RaisesWith.pure _
  exact hsummarized.bind fun _ _ => RaisesWith.pure _

/-! ### The failure result -/

/-- The result of a reference that could not be processed. -/
structure ReferenceResult.IsFailure (r : ReferenceResult) : Prop where
  confidenceScore : r.confidenceScore = 0
  needsHumanReview : r.needsHumanReview = true
  extractedFacts : r.extractedFacts = {}
  discrepancies : r.discrepancies = []
  sentiment : r.sentiment = "unclear"
  redFlags : r.redFlags.length = 1

/-- A review ends in a failure result exactly when it raises. -/
theorem isFailure_resultOf_iff :
    (ref.resultOf env (review env llm subj ref).result).IsFailure ↔
      ∃ e, (review env llm subj ref).result = .error e := by
  cases h : (review env llm subj ref).result with
  | error e => exact iff_of_true ⟨rfl, rfl, rfl, rfl, rfl, rfl⟩ ⟨e, rfl⟩
  | ok y =>
    refine iff_of_false (fun hfailure => ?_) (fun ⟨e, he⟩ => by cases he)
    exact (gathered_of_ok (gather_of_review h)).sentiment_ne_unclear hfailure.sentiment

theorem review_raises_iff (hshape : ref.validateShape env.toPyText = .ok ()) :
    (∃ e, (review env llm subj ref).result = .error e) ↔
      (ref.type = .REF1 ∧ ¬ RawInputOk env ref.rawInput) ∨
        ∃ rq ∈ (review env llm subj ref).log, llm.Raises rq := by
  obtain ⟨-, hform⟩ := (validateShape_ok_iff env.toPyText ref).mp hshape
  by_cases hvalid : ref.Valid env
  · have hraw : ¬ (ref.type = .REF1 ∧ ¬ RawInputOk env ref.rawInput) := by
      rintro ⟨htype, hraw⟩
      exact hraw ((valid_iff_of_transcript htype).mp hvalid)
    rw [or_iff_right hraw]
    exact raisesWith_review hvalid
  · refine iff_of_true ?_ (Or.inl ?_)
    · unfold review
      rw [gather_of_not_valid hvalid]
      exact ⟨_, rfl⟩
    · cases htype : ref.type with
      | REF1 => exact ⟨rfl, fun hraw => hvalid ((valid_iff_of_transcript htype).mpr hraw)⟩
      | REF2 =>
        have hsome := Option.ne_none_iff_exists'.mp (hform htype)
        exact absurd ((valid_iff_of_form htype).mpr hsome) hvalid

/-! ### The candidate -/

section candidate

variable {c : CandidateBatchInput}

/-- The candidate with one reference only. -/
def CandidateBatchInput.alone (c : CandidateBatchInput) (ref : ReferenceInput) :
    CandidateBatchInput :=
  { c with references := [ref] }

/-- What answers the calls for the reference at position `i` when it is alone. -/
def CandidateLLM.alone (llm : CandidateLLM) (i : ℕ) : CandidateLLM :=
  { llm with
    reference := fun _ => llm.reference i
    sentimentFirst := fun _ => llm.sentimentFirst i }

/-- The result of a reference is the one it has alone. -/
theorem results_alone (llm : CandidateLLM) (i : ℕ) :
    (c.alone ref).results env (llm.alone i) =
      [ref.resultOf env (review env (llm.forReference i) c.subject ref).result] := rfl

theorem referenceName_resultOf (x : Except PyException (Evidence × String)) :
    (ref.resultOf env x).referenceName = ref.referenceName ∧
      (ref.resultOf env x).relationship = ref.relationship := by
  cases x <;> exact ⟨rfl, rfl⟩

/-- **Failures are isolated.** A run for an accepted candidate comes to `score_overall` in exactly
one state. It has one result for each reference, in order and under its name: the failure result
exactly when the transcript is out of bounds or a call for the reference raised, and always the
result that the reference has alone. If one reference failed the candidate is left to a reviewer. -/
theorem failures_are_isolated (h : submitCheck env.toPyText c = .ok ()) (llm : CandidateLLM) :
    ∃ st : CandidateState,
      (∀ st', (candidateGraph env llm).Reaches c.inputState ([.node .scoreOverall], st') ↔
        st' = st) ∧
      st.referenceResults.length = c.references.length ∧
      (∀ (i : ℕ) (ref : ReferenceInput) (r : ReferenceResult), c.references[i]? = some ref →
        st.referenceResults[i]? = some r →
        (r.referenceName = ref.referenceName ∧ r.relationship = ref.relationship) ∧
        (r.IsFailure ↔ (ref.type = .REF1 ∧ ¬ RawInputOk env ref.rawInput) ∨
          ∃ rq ∈ (runReference env (llm.forReference i) (c.inputState.payload ref i)).log,
            (llm.forReference i).Raises rq) ∧
        ∃ st', (candidateGraph env (llm.alone i)).Reaches (c.alone ref).inputState
          ([.node .scoreOverall], st') ∧ st'.referenceResults = [r]) ∧
      ((∃ r ∈ st.referenceResults, r.IsFailure) →
        (∃ st', (candidateGraph env llm).Reaches c.inputState ([.node .overallFlagForReview], st') ∧
          st'.overallNeedsReview = some true) ∧
        ∀ st', ¬ (candidateGraph env llm).Reaches c.inputState ([.node .overallClear], st')) := by
  obtain ⟨hne, hshape⟩ := (submitCheck_ok_iff _ _).mp h
  refine ⟨c.crossCheckedState env llm, reaches_scoreOverall_iff hne, c.length_results env llm,
    ?_, ?_⟩
  · intro i ref r hr hresult
    have heq : r = ref.resultOf env (review env (llm.forReference i) c.subject ref).result := by
      have hget : (c.results env llm)[i]? = some r := hresult
      rw [CandidateBatchInput.getElem?_results, hr, Option.map_some, Option.some.injEq] at hget
      exact hget.symm
    subst heq
    refine ⟨referenceName_resultOf _, ?_, ?_⟩
    · rw [isFailure_resultOf_iff, review_raises_iff (hshape ref (List.mem_of_getElem? hr)),
        runReference_eq]
    · refine ⟨_, (reaches_scoreOverall_iff (c := c.alone ref) (by simp [CandidateBatchInput.alone])
        _).mpr rfl, ?_⟩
      exact results_alone llm i
  · rintro ⟨r, hr, hfailure⟩
    have hmem : r ∈ c.results env llm := hr
    have hneeds : (verdict env (c.results env llm)).overallNeedsReview = true :=
      overallNeedsReview_of_mem hmem hfailure.needsHumanReview
    have hnode : overallNode env (c.results env llm) = .overallFlagForReview := by
      unfold overallNode
      rw [hneeds]
      rfl
    refine ⟨⟨_, (reaches_overall_iff hne (Or.inl rfl) _).mpr ⟨hnode, rfl⟩, ?_⟩, ?_⟩
    · exact congrArg some hneeds
    · intro st' hclear
      obtain ⟨hnode', -⟩ := (reaches_overall_iff hne (Or.inr rfl) _).mp hclear
      rw [hnode] at hnode'
      cases hnode'

end candidate

/-- The third reference of the mixed candidate has a transcript that is too short, and fails. -/
theorem short_transcript_is_isolated : ∃ st : CandidateState,
    (candidateGraph sampleEnv (cleanReplies.llm sampleModel mixedCandidate)).Reaches
      mixedCandidate.inputState ([.node .scoreOverall], st) ∧
    (∃ r, st.referenceResults[2]? = some r ∧ r.IsFailure) ∧
    ∀ st', ¬ (candidateGraph sampleEnv (cleanReplies.llm sampleModel mixedCandidate)).Reaches
      mixedCandidate.inputState ([.node .overallClear], st') := by
  have haccepted : submitCheck sampleEnv.toPyText mixedCandidate = .ok () := by decide
  obtain ⟨st, hreach, hlength, hresults, hflag⟩ :=
    failures_are_isolated haccepted (cleanReplies.llm sampleModel mixedCandidate)
  have hlt : 2 < st.referenceResults.length := by
    rw [hlength]
    decide
  have hget : st.referenceResults[2]? = some st.referenceResults[2] := List.getElem?_eq_getElem hlt
  obtain ⟨-, hfailure, -⟩ := hresults 2 _ _ rfl hget
  have hshort : ¬ RawInputOk sampleEnv (some "Ok.") := by decide
  have hr := hfailure.mpr (Or.inl ⟨rfl, hshort⟩)
  exact ⟨st, (hreach st).mpr rfl, ⟨_, hget, hr⟩, (hflag ⟨_, List.getElem_mem hlt, hr⟩).2⟩

end RefCheck
