import RefCheck.Batch.FailSafe
import RefCheck.Graphs.CandidateRun
import RefCheck.Verdict.Monotonicity

/-!
# What decides the review flag of a candidate

A result that either pipeline produces is flagged, or its score reaches the threshold. So the average
of unflagged results reaches it as well, and with an overall threshold that is not above it the
candidate is flagged exactly when a reference is or there is a cross-reference flag: the average
decides nothing by itself.
-/

namespace RefCheck

open Scores

variable {env : Env}

/-! ### Results that the pipelines produce -/

/-- A result that one of the pipelines made of a reference. -/
inductive Produced (env : Env) : ReferenceResult → Prop
  | realTime (llm : Provider) (c : CandidateBatchInput) (ref : ReferenceInput) (i : ℕ)
      (r : ReferenceResult)
      (hresult : (runReference env llm (c.inputState.payload ref i)).result = .ok r) :
      Produced env r
  | batch (backend : Backend) (candidates : List CandidateBatchInput) (run : BatchRun)
      (out : CandidateOutput) (r : ReferenceResult)
      (hrun : batchRun env backend candidates = .ok run) (hout : out ∈ run.output)
      (hr : r ∈ out.referenceResults) : Produced env r

/-- An unflagged result reaches the threshold, and no score is above 100. -/
structure ReferenceResult.Cleared (env : Env) (r : ReferenceResult) : Prop where
  reaches : r.needsHumanReview = false → env.reviewThreshold ≤ r.confidenceScore
  nonneg : 0 ≤ r.confidenceScore
  le : r.confidenceScore ≤ 100

theorem cleared_of_score (ev : Evidence) {r : ReferenceResult}
    (hscore : r.confidenceScore = (ev.score env).confidenceScore)
    (hneeds : r.needsHumanReview = false → (ev.score env).needsHumanReview = false) :
    r.Cleared env where
  reaches h := by
    rw [hscore]
    exact ((needsHumanReview_eq_false_iff _ _ _ _).mp (hneeds h)).1
  nonneg := by
    rw [hscore]
    exact clampScore_nonneg _
  le := by
    rw [hscore]
    exact clampScore_le _

/-- A result that is not from a score: a failure, or an excluded reference. -/
theorem cleared_of_zero {r : ReferenceResult} (hscore : r.confidenceScore = 0)
    (hneeds : r.needsHumanReview = true) : r.Cleared env where
  reaches h := by
    rw [hneeds] at h
    cases h
  nonneg := by rw [hscore]
  le := by
    rw [hscore]
    norm_num

theorem cleared_resultOf (ref : ReferenceInput) (x : Except PyException (Evidence × String)) :
    (ref.resultOf env x).Cleared env := by
  cases x with
  | error e => exact cleared_of_zero rfl rfl
  | ok y => exact cleared_of_score y.1 rfl id

theorem cleared_batchResult (ref : ReferenceInput) (subj : Subject) (a : RefReplies) :
    (ref.batchResult env subj a).Cleared env := by
  unfold ReferenceInput.batchResult
  cases validateReference env subj.candidateName ref with
  | error e => exact cleared_of_zero rfl rfl
  | ok u =>
    refine cleared_of_score (ref.evidence env subj.claimedDetails a) rfl fun h => ?_
    exact (Bool.or_eq_false_iff.mp h).1

theorem Produced.cleared {r : ReferenceResult} (h : Produced env r) : r.Cleared env := by
  cases h with
  | realTime llm c ref i r hresult =>
    rw [runReference_eq] at hresult
    cases hresult
    exact cleared_resultOf ref _
  | batch backend candidates run out r hrun hout hr =>
    rw [(batchRun_refines hrun).output] at hout
    obtain ⟨i, hi, rfl⟩ := List.mem_mapIdx.mp hout
    obtain ⟨j, hj, rfl⟩ := List.mem_mapIdx.mp hr
    exact cleared_batchResult _ _ _

/-! ### The verdict -/

section verdict

variable {results : List ReferenceResult} {flags : List CrossReferenceFlag}

theorem overallConfidence_of_no_flags (hne : results ≠ [])
    (hcleared : ∀ r ∈ results, r.Cleared env) :
    (overallScore env results []).overallConfidence =
      average (results.map (·.confidenceScore)) := by
  have hne' : results.map (·.confidenceScore) ≠ [] := List.map_eq_nil_iff.not.mpr hne
  have hraw : rawOverall env results [] = average (results.map (·.confidenceScore)) := by
    rw [rawOverall_eq, List.map_nil, List.sum_nil, sub_zero]
  show clampScore (rawOverall env results []) = _
  rw [hraw]
  refine clampScore_of_mem (le_average hne' fun x hx => ?_) (average_le hne' fun x hx => ?_)
  · obtain ⟨r, hr, rfl⟩ := List.mem_map.mp hx
    exact (hcleared r hr).nonneg
  · obtain ⟨r, hr, rfl⟩ := List.mem_map.mp hx
    exact (hcleared r hr).le

/-- The flag of the candidate is the flag of a reference, or a cross-reference flag. -/
def FlagDecided (results : List ReferenceResult) (flags : List CrossReferenceFlag)
    (overallNeedsReview : Bool) : Prop :=
  overallNeedsReview = true ↔ (∃ r ∈ results, r.needsHumanReview = true) ∨ flags ≠ []

theorem flagDecided_of_cleared (hthreshold : env.overallReviewThreshold ≤ env.reviewThreshold)
    (hne : results ≠ []) (hcleared : ∀ r ∈ results, r.Cleared env) :
    FlagDecided results flags (overallScore env results flags).overallNeedsReview := by
  constructor
  · intro hneeds
    by_contra hnone
    rw [not_or, not_exists, not_not] at hnone
    obtain ⟨hunflagged, rfl⟩ := hnone
    have hclear : ∀ r ∈ results, r.needsHumanReview = false := fun r hr =>
      Bool.not_eq_true _ ▸ fun h => hunflagged r ⟨hr, h⟩
    -- every score reaches the threshold, so their average does
    have haverage : env.overallReviewThreshold ≤
        (overallScore env results []).overallConfidence := by
      rw [overallConfidence_of_no_flags hne hcleared]
      refine hthreshold.trans (le_average (List.map_eq_nil_iff.not.mpr hne) fun x hx => ?_)
      obtain ⟨r, hr, rfl⟩ := List.mem_map.mp hx
      exact (hcleared r hr).reaches (hclear r hr)
    have hfalse := (overallNeedsReview_eq_false_iff env results []).mpr ⟨haverage, hclear, rfl⟩
    rw [hneeds] at hfalse
    cases hfalse
  · rintro (⟨r, hr, hneeds⟩ | hflags)
    · exact overallNeedsReview_of_mem hr hneeds
    · exact overallNeedsReview_of_flags hflags

/-- **What decides the review flag.** With an overall threshold that is not above the threshold of
the references, a candidate is flagged exactly when one of the references is or the references
disagree: for any results of the pipelines and any cross-reference flags, and so in the final state
of every run of the graph and in every entry of the output of a batch. -/
theorem overallNeedsReview_iff (hthreshold : env.overallReviewThreshold ≤ env.reviewThreshold) :
    (∀ (results : List ReferenceResult) (flags : List CrossReferenceFlag), results ≠ [] →
      (∀ r ∈ results, Produced env r) → ∃ o, scoreOverall env results flags = .ok o ∧
        FlagDecided results flags o.overallNeedsReview) ∧
    (∀ (llm : CandidateLLM) (c : CandidateBatchInput) (s : CandidateState), c.references ≠ [] →
      ((candidateGraph env llm).invoke recursionLimit c.inputState).result = .ok s →
      ∃ flags needs, s.crossReferenceFlags = some flags ∧ s.overallNeedsReview = some needs ∧
        FlagDecided s.referenceResults flags needs) ∧
    ∀ (backend : Backend) (candidates : List CandidateBatchInput) (outputs : List CandidateOutput),
      runBatchPipeline env backend candidates = .ok outputs → ∀ out ∈ outputs,
        FlagDecided out.referenceResults out.crossReferenceFlags out.overallNeedsReview := by
  refine ⟨fun results flags hne hproduced => ?_, fun llm c s hne hinvoke => ?_,
    fun backend candidates outputs houtputs out hout => ?_⟩
  · exact ⟨_, scoreOverall_of_ne_nil hne flags,
      flagDecided_of_cleared hthreshold hne fun r hr => (hproduced r hr).cleared⟩
  · rw [candidateGraph_invoke hne] at hinvoke
    obtain ⟨-, -, hinvoke⟩ := Issue.bind_eq_ok.mp hinvoke
    obtain ⟨result, -, hfinal⟩ := Issue.bind_eq_ok.mp hinvoke
    cases hfinal
    refine ⟨_, _, rfl, rfl, ?_⟩
    refine flagDecided_of_cleared hthreshold (CandidateBatchInput.results_ne_nil hne) ?_
    intro r hr
    obtain ⟨i, hi, rfl⟩ := List.mem_mapIdx.mp hr
    exact cleared_resultOf _ _
  · obtain ⟨run, hrun, rfl⟩ := Except.map_eq_ok.mp houtputs
    have hrefines := batchRun_refines hrun
    have hcleared : ∀ r ∈ out.referenceResults, r.Cleared env := fun r hr =>
      (Produced.batch backend candidates run out r hrun hout hr).cleared
    rw [hrefines.output] at hout
    obtain ⟨i, hi, rfl⟩ := List.mem_mapIdx.mp hout
    refine flagDecided_of_cleared hthreshold ?_ hcleared
    have hne := hrefines.nonempty _ (List.getElem_mem hi)
    exact fun h => hne (List.mapIdx_eq_nil_iff.mp h)

end verdict

/-- A provider that fails every call. -/
def overloadedLLM : Provider where
  getModel _ := "model"
  answer _ := .error (.raised "APIError" "overloaded")

/-- The result of a form that is missing. -/
def missingForm : ReferenceResult := failedResult "Bob" "Manager" (.attributeError "confirmed_title")

theorem produced_missingForm : Produced sampleEnv missingForm :=
  .realTime overloadedLLM (sampleCandidate [⟨"Bob", "Manager", .REF2, none, none⟩])
    ⟨"Bob", "Manager", .REF2, none, none⟩ 0 _ (by rw [runReference_eq]; rfl)

/-- A failure of the graph beside two results of a batch in which nothing is found. -/
theorem overallNeedsReview_of_missing_form : ∃ out o, out.referenceResults.length = 2 ∧
    runBatchPipeline sampleEnv (replyBackend cleanReply)
        [sampleCandidate [sampleTranscript "Eve", sampleTranscript "Kim"]] = .ok [out] ∧
      FlagDecided out.referenceResults out.crossReferenceFlags out.overallNeedsReview ∧
      scoreOverall sampleEnv (missingForm :: out.referenceResults) [] = .ok o ∧
        FlagDecided (missingForm :: out.referenceResults) [] o.overallNeedsReview := by
  obtain ⟨run, hrun⟩ := exists_batchRun_replyBackend sampleEnv
    [sampleCandidate [sampleTranscript "Eve", sampleTranscript "Kim"]] cleanReply
    (by simp [sampleCandidate]) rfl
  obtain ⟨out, hout, hlength⟩ : ∃ out, run.output = [out] ∧ out.referenceResults.length = 2 := by
    rw [(batchRun_refines hrun).output]
    exact ⟨_, rfl, rfl⟩
  have hpipeline : runBatchPipeline sampleEnv (replyBackend cleanReply)
      [sampleCandidate [sampleTranscript "Eve", sampleTranscript "Kim"]] = .ok [out] :=
    Except.map_eq_ok.mpr ⟨run, hrun, hout⟩
  have hthreshold : sampleEnv.overallReviewThreshold ≤ sampleEnv.reviewThreshold := le_rfl
  have hproduced : ∀ r ∈ missingForm :: out.referenceResults, Produced sampleEnv r := by
    intro r hr
    rcases List.mem_cons.mp hr with rfl | hr
    · exact produced_missingForm
    · exact .batch _ _ run out r hrun (hout ▸ List.mem_singleton_self out) hr
  obtain ⟨hscored, -, hbatch⟩ := overallNeedsReview_iff hthreshold
  obtain ⟨o, ho, hflag⟩ := hscored _ [] (List.cons_ne_nil _ _) hproduced
  exact ⟨out, o, hlength, hpipeline, hbatch _ _ _ hpipeline out (List.mem_singleton_self out), ho, hflag⟩

end RefCheck
