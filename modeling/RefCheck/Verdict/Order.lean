import RefCheck.Agreement.Services
import RefCheck.CrossCheck.Fields
import RefCheck.CrossCheck.Ratings
import RefCheck.Realtime.NoFalseAlarm
import RefCheck.Realtime.Prose
import RefCheck.Verdict.Monotonicity

/-!
# The order of the references

References are reviewed one by one and then compared, and nothing that is decided about a candidate depends
on the order in which they are given (`reference_order_immaterial`): the results are the same, and so are
the verdict and the flags up to the order of the names. References must have different names: of two with
one name the later rating replaces the earlier one. And the two calls about a transcript, made at the same
time, must not fail with two exceptions: the failure result tells of the one that is raised first.
-/

namespace RefCheck

open StateGraph Issue

section flags

variable {results results' : List ReferenceResult}

/-! ### The flags -/

theorem RatingsConflict.perm (hperm : results.Perm results') (h : RatingsConflict results) :
    RatingsConflict results' := by
  obtain ⟨⟨r, hr, hstrong⟩, r', hr', hweak⟩ := h
  exact ⟨⟨r, hperm.mem_iff.mp hr, hstrong⟩, r', hperm.mem_iff.mp hr', hweak⟩

theorem performanceFlags_of_conflict (hnames : (results.map (·.referenceName)).Nodup)
    (h : RatingsConflict results) :
    ∃ f, performanceFlags results = [f] ∧ f.field = "performance_rating" ∧ f.severity = .major ∧
      f.involvedReferences = (performanceByRef results).keys := by
  obtain ⟨hstrong, hweak⟩ := ratingsKept_of_nodup hnames h
  have hboth : PerformanceRating.strong ∈ (performanceByRef results).values ∧
      PerformanceRating.weak ∈ (performanceByRef results).values :=
    ⟨mem_values_performanceByRef.mpr hstrong, mem_values_performanceByRef.mpr hweak⟩
  unfold performanceFlags
  dsimp only
  rw [if_pos hboth]
  exact ⟨_, rfl, rfl, rfl, rfl⟩

theorem keys_performanceByRef_perm (hperm : results.Perm results') :
    (performanceByRef results).keys.Perm (performanceByRef results').keys := by
  refine (List.perm_ext_iff_of_nodup (performanceByRef results).nodup
    (performanceByRef results').nodup).mpr fun name => ?_
  show name ∈ (performanceByRef results).keys ↔ name ∈ (performanceByRef results').keys
  rw [mem_keys_performanceByRef, mem_keys_performanceByRef]
  exact exists_congr fun r => and_congr_left fun _ => hperm.mem_iff

theorem performanceFlags_perm (hnames : (results.map (·.referenceName)).Nodup)
    (hperm : results.Perm results') :
    List.Forall₂ CrossReferenceFlag.SameUpToOrder (performanceFlags results)
      (performanceFlags results') := by
  by_cases h : RatingsConflict results
  · have hnames' : (results'.map (·.referenceName)).Nodup := (hperm.map _).nodup_iff.mp hnames
    obtain ⟨f, hf, hfield, hseverity, hkeys⟩ := performanceFlags_of_conflict hnames h
    obtain ⟨f', hf', hfield', hseverity', hkeys'⟩ := performanceFlags_of_conflict hnames' (h.perm hperm)
    rw [hf, hf']
    refine List.Forall₂.cons ⟨?_, ?_, ?_⟩ List.Forall₂.nil
    · rw [hfield, hfield']
    · rw [hseverity, hseverity']
    · rw [hkeys, hkeys']
      exact keys_performanceByRef_perm hperm
  · rw [performanceFlags_of_not_conflict h,
      performanceFlags_of_not_conflict fun h' => h (h'.perm hperm.symm)]
    exact List.Forall₂.nil

/-- The cross-check of references in another order. -/
theorem crossCheckReferences_perm (py : PyText) (hnames : (results.map (·.referenceName)).Nodup)
    (hperm : results.Perm results') :
    List.Forall₂ CrossReferenceFlag.SameUpToOrder (crossCheckReferences py results)
      (crossCheckReferences py results') := by
  have hfield : ∀ field : CrossField, List.Forall₂ CrossReferenceFlag.SameUpToOrder
      (fieldFlags py field.name field.value results) (fieldFlags py field.name field.value results') := by
    intro field
    rw [← flagsOn_eq, ← flagsOn_eq]
    exact flagsOn_perm hperm
  exact List.rel_append (List.rel_append (hfield .jobTitle) (hfield .company))
    (performanceFlags_perm hnames hperm)

/-! ### The verdict -/

theorem map_severity_of_sameUpToOrder {flags flags' : List CrossReferenceFlag}
    (h : List.Forall₂ CrossReferenceFlag.SameUpToOrder flags flags') :
    flags.map (·.severity) = flags'.map (·.severity) := by
  induction h with
  | nil => rfl
  | cons hf _ ih => rw [List.map_cons, List.map_cons, ih, hf.severity]

theorem overallScore_congr_flags (env : Env) {flags flags' : List CrossReferenceFlag}
    (h : flags.map (·.severity) = flags'.map (·.severity)) :
    overallScore env results flags = overallScore env results flags' := by
  have hraw : rawOverall env results flags = rawOverall env results flags' := by
    have hfold : ∀ flags : List CrossReferenceFlag, (flags.map fun f =>
        (env.severityPenalty f.severity : ℚ)) = (flags.map (·.severity)).map fun s =>
          (env.severityPenalty s : ℚ) := fun flags => by rw [List.map_map]; rfl
    rw [rawOverall_eq, rawOverall_eq, hfold, h, ← hfold]
  have hnil : flags = [] ↔ flags' = [] := by
    rw [← List.map_eq_nil_iff (f := (·.severity)), h, List.map_eq_nil_iff]
  simp only [overallScore, hraw, ne_eq, hnil]

theorem verdict_perm (env : Env) (hnames : (results.map (·.referenceName)).Nodup)
    (hperm : results.Perm results') : verdict env results' = verdict env results := by
  unfold verdict
  rw [← overallScore_perm hperm (List.Perm.refl _)]
  exact (overallScore_congr_flags env
    (map_severity_of_sameUpToOrder (crossCheckReferences_perm env.toPyText hnames hperm))).symm

end flags

/-! ### The candidate -/

section candidate

/-- The two calls about a transcript do not fail with two exceptions. -/
def Provider.FailsOneWay (llm : Provider) (env : Env) (subj : Subject) (ref : ReferenceInput) : Prop :=
  ref.type = .REF1 → ∀ e e', extractCall env llm subj ref = .error e →
    sentimentCall llm ref.rawInput = .error e' → e = e'

variable {env : Env} {llm : Provider} {c c' : CandidateBatchInput} {s s' : CandidateState}
  {first first' : ℕ → Bool}

/-- Then it does not matter which of them ends first. -/
theorem Provider.FailsOneWay.review_result {subj : Subject} {ref : ReferenceInput}
    (h : llm.FailsOneWay env subj ref) (second : Bool) :
    (review env { llm with sentimentFirst := second } subj ref).result =
      (review env llm subj ref).result := by
  have hgather : (gather env { llm with sentimentFirst := second } subj ref).result =
      (gather env llm subj ref).result := by
    unfold gather
    cases htype : ref.type with
    | REF1 =>
      rw [Issue.result_bind, Issue.result_bind]
      refine congrArg _ (funext fun _ => ?_)
      unfold gatherOpenEnded
      rw [Issue.result_bind, Issue.result_bind]
      exact congrArg (· >>= _) (Issue.result_both_congr (h htype))
    | REF2 => rfl
  unfold review
  rw [Issue.result_bind, Issue.result_bind, hgather]
  rfl

theorem results_forCandidate_eq_map (hone : ∀ ref ∈ c.references, llm.FailsOneWay env c.subject ref) :
    c.results env (llm.forCandidate first) =
      c.references.map fun ref => ref.resultOf env (review env llm c.subject ref).result := by
  refine List.ext_getElem? fun i => ?_
  rw [CandidateBatchInput.getElem?_results, List.getElem?_map]
  cases href : c.references[i]? with
  | none => rfl
  | some ref =>
    have hreview := (hone ref (List.mem_of_getElem? href)).review_result (first i)
    exact congrArg (fun x => some (ref.resultOf env x)) hreview

theorem results_perm (hsubject : c'.subject = c.subject) (hperm : c.references.Perm c'.references)
    (hone : ∀ ref ∈ c.references, llm.FailsOneWay env c.subject ref) :
    (c.results env (llm.forCandidate first)).Perm (c'.results env (llm.forCandidate first')) := by
  have hone' : ∀ ref ∈ c'.references, llm.FailsOneWay env c'.subject ref := fun ref href => by
    rw [hsubject]
    exact hone ref (hperm.mem_iff.mpr href)
  rw [results_forCandidate_eq_map hone, results_forCandidate_eq_map hone', hsubject]
  exact hperm.map _

theorem map_referenceName_results (llm : CandidateLLM) :
    (c.results env llm).map (·.referenceName) = c.references.map (·.referenceName) := by
  refine List.ext_getElem? fun i => ?_
  rw [List.getElem?_map, List.getElem?_map, CandidateBatchInput.getElem?_results, Option.map_map]
  refine congrArg (Option.map · c.references[i]?) (funext fun ref => ?_)
  exact (referenceName_resultOf _).1

/-- **The order of the references does not matter.** Two runs with one provider over the same references in
two orders come to the same results, the same verdict and the same flags, up to the order of the results
and of the names, in whatever order the calls end that are made at the same time. -/
theorem reference_order_immaterial (hsubject : c'.subject = c.subject)
    (hperm : c.references.Perm c'.references) (hnames : (c.references.map (·.referenceName)).Nodup)
    (hone : ∀ ref ∈ c.references, llm.FailsOneWay env c.subject ref)
    (h : ((candidateGraph env (llm.forCandidate first)).invoke recursionLimit c.inputState).result = .ok s)
    (h' : ((candidateGraph env (llm.forCandidate first')).invoke recursionLimit c'.inputState).result =
      .ok s') :
    s.referenceResults.Perm s'.referenceResults ∧
    s'.overallConfidence = s.overallConfidence ∧ s'.overallNeedsReview = s.overallNeedsReview ∧
    List.Forall₂ CrossReferenceFlag.SameUpToOrder (s.crossReferenceFlags.getD [])
      (s'.crossReferenceFlags.getD []) := by
  by_cases hnil : c.references = []
  · have hnil' : c'.references = [] := by
      rw [hnil] at hperm
      exact hperm.nil_eq.symm
    rw [eq_inputState_of_nil hnil (succeeds_of_nil hnil h),
      eq_inputState_of_nil hnil' (succeeds_of_nil hnil' h')]
    exact ⟨List.Perm.refl _, rfl, rfl, .nil⟩
  · have hnil' : c'.references ≠ [] := fun heq => hnil (by rw [heq] at hperm; exact hperm.eq_nil)
    obtain ⟨summary, rfl⟩ := exists_summary_of_invoke hnil h
    obtain ⟨summary', rfl⟩ := exists_summary_of_invoke hnil' h'
    have hresults : (c.results env (llm.forCandidate first)).Perm
        (c'.results env (llm.forCandidate first')) := results_perm hsubject hperm hone
    have hnodup : ((c.results env (llm.forCandidate first)).map (·.referenceName)).Nodup := by
      rwa [map_referenceName_results]
    have hverdict := verdict_perm env hnodup hresults
    exact ⟨hresults, congrArg (fun score : OverallScore => some score.overallConfidence) hverdict,
      congrArg (fun score : OverallScore => some score.overallNeedsReview) hverdict,
      crossCheckReferences_perm env.toPyText hnodup hresults⟩

end candidate

/-! ### Two orders -/

def clerkAnswer : (m : OutputModel) → Except PyException m.Value
  | .sentimentAndRedFlags => .error (.raised "APIError" "overloaded")
  | m => proseAnswer "Clerk" "Minor." m

/-- A provider that finds one title whatever it reads, and fails to tell a sentiment. -/
def clerkProvider : Provider where
  getModel := sampleModel
  answer rq := clerkAnswer rq.outputModel

theorem failsOneWay_clerkProvider (subj : Subject) (ref : ReferenceInput) :
    clerkProvider.FailsOneWay sampleEnv subj ref := by
  rintro - e e' he -
  cases he

theorem invoke_clerkProvider {c : CandidateBatchInput} (hne : c.references ≠ []) (first : ℕ → Bool) :
    ((candidateGraph sampleEnv (clerkProvider.forCandidate first)).invoke recursionLimit
      c.inputState).result = .ok (c.finalState sampleEnv (clerkProvider.forCandidate first) "Minor.") := by
  rw [candidateGraph_invoke hne]
  rfl

theorem reference_order_sample :
    ((sampleCandidate [sampleTranscript "Bob", sampleForm "Eve" none]).finalState sampleEnv
        (clerkProvider.forCandidate fun _ => false) "Minor.").referenceResults.Perm
      ((sampleCandidate [sampleForm "Eve" none, sampleTranscript "Bob"]).finalState sampleEnv
        (clerkProvider.forCandidate fun _ => true) "Minor.").referenceResults := by
  have hperm : (sampleCandidate [sampleTranscript "Bob", sampleForm "Eve" none]).references.Perm
      (sampleCandidate [sampleForm "Eve" none, sampleTranscript "Bob"]).references :=
    List.Perm.swap _ _ _
  have hnames : ((sampleCandidate [sampleTranscript "Bob", sampleForm "Eve" none]).references.map
      (·.referenceName)).Nodup := by decide
  have hsubject : (sampleCandidate [sampleForm "Eve" none, sampleTranscript "Bob"]).subject =
      (sampleCandidate [sampleTranscript "Bob", sampleForm "Eve" none]).subject := rfl
  exact (reference_order_immaterial hsubject hperm hnames (fun _ _ => failsOneWay_clerkProvider _ _)
    (invoke_clerkProvider (List.cons_ne_nil _ _) _) (invoke_clerkProvider (List.cons_ne_nil _ _) _)).1

end RefCheck
