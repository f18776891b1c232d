import RefCheck.Realtime.Clearance
import RefCheck.Realtime.Prose
import RefCheck.Verdict.Monotonicity

/-!
# Stricter settings, no better verdict

The settings of `config.py` are tuned through environment variables. Settings that are at least as strict
(narrower tolerances and bounds, higher penalties and thresholds) give no candidate a better verdict: of
two runs on the same candidate that got the same facts and sentiments, the one under the stricter settings
lifts no review flag and raises no score (`stricter_settings_clear_no_more`).
-/

namespace RefCheck

open Scores StateGraph Issue

/-- The second settings are at least as strict, and treat texts alike. -/
structure Env.AtLeastAsStrict (env env' : Env) : Prop where
  text : env'.toPyText = env.toPyText
  minorMonthTolerance : env'.minorMonthTolerance ≤ env.minorMonthTolerance
  moderateMonthTolerance : env'.moderateMonthTolerance ≤ env.moderateMonthTolerance
  severityPenalty : ∀ s, env.severityPenalty s ≤ env'.severityPenalty s
  penaltySentimentNegative : env.penaltySentimentNegative ≤ env'.penaltySentimentNegative
  penaltySentimentMixed : env.penaltySentimentMixed ≤ env'.penaltySentimentMixed
  redFlagPenalty : env.redFlagPenalty ≤ env'.redFlagPenalty
  reviewThreshold : env.reviewThreshold ≤ env'.reviewThreshold
  overallReviewThreshold : env.overallReviewThreshold ≤ env'.overallReviewThreshold
  maxRawInputChars : env'.maxRawInputChars ≤ env.maxRawInputChars
  minRawInputChars : env.minRawInputChars ≤ env'.minRawInputChars

section settings

variable {env env' : Env}

/-! ### The same evidence -/

theorem sentimentPenalty_le (h : env.AtLeastAsStrict env') (sentiment : String) :
    env.sentimentPenalty sentiment ≤ env'.sentimentPenalty sentiment := by
  unfold Env.sentimentPenalty
  split
  · exact h.penaltySentimentNegative
  · exact h.penaltySentimentMixed
  · exact le_rfl

theorem sum_severityPenalty_le_of_strict (h : env.AtLeastAsStrict env') {B : Type}
    (severity : B → Severity) (l : List B) :
    (l.map fun b => (env.severityPenalty (severity b) : ℚ)).sum ≤
      (l.map fun b => (env'.severityPenalty (severity b) : ℚ)).sum :=
  List.sum_le_sum fun _ _ => Int.cast_le.mpr (h.severityPenalty _)

theorem rawScore_le_of_strict (h : env.AtLeastAsStrict env') (ds : List Discrepancy)
    (rf : List String) (sentiment : String) :
    rawScore env' ds rf sentiment ≤ rawScore env ds rf sentiment := by
  rw [rawScore_eq, rawScore_eq]
  have hsum := sum_severityPenalty_le_of_strict h (fun d : Discrepancy => d.severity) ds
  have hred : (env.redFlagPenalty : ℚ) * rf.length ≤ env'.redFlagPenalty * rf.length :=
    mul_le_mul_of_nonneg_right (Int.cast_le.mpr h.redFlagPenalty) (Nat.cast_nonneg _)
  have hsentiment : (env.sentimentPenalty sentiment : ℚ) ≤ env'.sentimentPenalty sentiment :=
    Int.cast_le.mpr (sentimentPenalty_le h sentiment)
  linarith

/-- A score that is no better: no higher, and with the review flag if the other has it. -/
def ScoreResult.NoBetter (a b : ScoreResult) : Prop :=
  b.confidenceScore ≤ a.confidenceScore ∧ (a.needsHumanReview = true → b.needsHumanReview = true)

theorem ScoreResult.NoBetter.trans {a b c : ScoreResult} (h : a.NoBetter b) (h' : b.NoBetter c) :
    a.NoBetter c :=
  ⟨h'.1.trans h.1, fun hneeds => h'.2 (h.2 hneeds)⟩

theorem scoreConfidence_noBetter_of_strict (h : env.AtLeastAsStrict env') (ds : List Discrepancy)
    (rf : List String) (sentiment : String) :
    (scoreConfidence env ds rf sentiment).NoBetter (scoreConfidence env' ds rf sentiment) := by
  have hscore : (scoreConfidence env' ds rf sentiment).confidenceScore ≤
      (scoreConfidence env ds rf sentiment).confidenceScore :=
    clampScore_mono (rawScore_le_of_strict h ds rf sentiment)
  refine ⟨hscore, fun hneeds => ?_⟩
  by_contra hclear
  rw [Bool.not_eq_true, needsHumanReview_eq_false_iff] at hclear
  have hclear' : (scoreConfidence env ds rf sentiment).needsHumanReview = false := by
    rw [needsHumanReview_eq_false_iff]
    exact ⟨(h.reviewThreshold.trans hclear.1).trans hscore, hclear.2⟩
  rw [hneeds] at hclear'
  cases hclear'

theorem overallScore_of_strict (h : env.AtLeastAsStrict env') (results : List ReferenceResult)
    (flags : List CrossReferenceFlag) :
    (overallScore env' results flags).overallConfidence ≤
        (overallScore env results flags).overallConfidence ∧
      ((overallScore env results flags).overallNeedsReview = true →
        (overallScore env' results flags).overallNeedsReview = true) := by
  have hscore : (overallScore env' results flags).overallConfidence ≤
      (overallScore env results flags).overallConfidence := by
    refine clampScore_mono ?_
    rw [rawOverall_eq, rawOverall_eq]
    have hsum := sum_severityPenalty_le_of_strict h (fun f : CrossReferenceFlag => f.severity) flags
    linarith
  refine ⟨hscore, fun hneeds => ?_⟩
  by_contra hclear
  rw [Bool.not_eq_true, overallNeedsReview_eq_false_iff] at hclear
  have hclear' : (overallScore env results flags).overallNeedsReview = false := by
    rw [overallNeedsReview_eq_false_iff]
    exact ⟨(h.overallReviewThreshold.trans hclear.1).trans hscore, hclear.2⟩
  rw [hneeds] at hclear'
  cases hclear'

/-! ### The same facts -/

/-- Discrepancies that are there under the stricter settings too, at least as severe. -/
abbrev SeverityCovers : List Discrepancy → List Discrepancy → Prop :=
  Covers fun d d' => d.severity ≤ d'.severity

theorem severityCovers_refl (ds : List Discrepancy) : SeverityCovers ds ds :=
  Covers.of_subperm (fun _ => le_rfl) (List.Subperm.refl ds)

theorem dateSeverity_le_of_strict (h : env.AtLeastAsStrict env') (distance : ℕ) :
    dateSeverity env distance ≤ dateSeverity env' distance := by
  have hmoderate := h.moderateMonthTolerance
  unfold dateSeverity
  split_ifs
  · exact le_rfl
  · exact Severity.le_major _
  · omega
  · exact le_rfl

theorem dateDiscrepancies_covers (h : env.AtLeastAsStrict env') (field claimedDate statedDate : String) :
    SeverityCovers (dateDiscrepancies env field claimedDate statedDate)
      (dateDiscrepancies env' field claimedDate statedDate) := by
  have hminor := h.minorMonthTolerance
  unfold dateDiscrepancies
  cases monthDiff claimedDate statedDate with
  | none => exact severityCovers_refl []
  | some distance =>
    dsimp only
    by_cases happart : env.minorMonthTolerance < distance
    · have happart' : env'.minorMonthTolerance < distance := by omega
      rw [if_pos happart, if_pos happart']
      have hle := dateSeverity_le_of_strict h distance
      exact ⟨[⟨field, claimedDate, statedDate, dateSeverity env' distance, none⟩], .cons hle .nil,
        List.Subperm.refl _⟩
    · rw [if_neg happart]
      exact ⟨[], .nil, List.nil_subperm⟩

theorem diffFacts_covers (h : env.AtLeastAsStrict env') (claimed : ClaimedDetails)
    (facts : ExtractedFacts) :
    SeverityCovers (diffFacts env claimed facts) (diffFacts env' claimed facts) := by
  have hstart : SeverityCovers (startDateDiscrepancies env claimed facts)
      (startDateDiscrepancies env' claimed facts) := by
    unfold startDateDiscrepancies
    cases stated facts.startDate with
    | none => exact severityCovers_refl []
    | some date => exact dateDiscrepancies_covers h _ _ _
  have hend : SeverityCovers (endDateDiscrepancies env claimed facts)
      (endDateDiscrepancies env' claimed facts) := by
    unfold endDateDiscrepancies
    cases stated facts.endDate with
    | none => exact severityCovers_refl []
    | some date =>
      cases stated claimed.endDate with
      | none => exact severityCovers_refl _
      | some claimedDate => exact dateDiscrepancies_covers h _ _ _
  unfold diffFacts
  rw [h.text]
  exact ((severityCovers_refl _).append hstart).append hend

/-! ### One reference -/

section reference

variable {llm llm' : Provider} {subj : Subject} {ref : ReferenceInput}

theorem valid_of_strict (h : env.AtLeastAsStrict env') (hvalid : ref.Valid env') : ref.Valid env := by
  cases htype : ref.type with
  | REF1 =>
    obtain ⟨hne, hmin, hmax⟩ := (valid_iff_of_transcript htype).mp hvalid
    exact (valid_iff_of_transcript htype).mpr ⟨hne, h.minRawInputChars.trans hmin,
      hmax.trans h.maxRawInputChars⟩
  | REF2 => exact (valid_iff_of_form htype).mpr ((valid_iff_of_form htype).mp hvalid)

theorem scoreConfidence_diffFacts_noBetter (h : env.AtLeastAsStrict env') (hordered : env.PenaltiesOrdered)
    (claimed : ClaimedDetails) (facts : ExtractedFacts) (rf : List String) (sentiment : Sentiment) :
    (scoreConfidence env (diffFacts env claimed facts) rf sentiment.text).NoBetter
      (scoreConfidence env' (diffFacts env' claimed facts) rf sentiment.text) := by
  have hcovers := diffFacts_covers h claimed facts
  have hfound : (scoreConfidence env (diffFacts env claimed facts) rf sentiment.text).NoBetter
      (scoreConfidence env (diffFacts env' claimed facts) rf sentiment.text) :=
    ⟨confidenceScore_anti hordered hcovers (List.Subperm.refl rf) le_rfl,
      needsHumanReview_mono hordered hcovers (List.Subperm.refl rf) le_rfl⟩
  exact hfound.trans (scoreConfidence_noBetter_of_strict h _ rf _)

/-- The evidence of a run under stricter settings: the same facts, scored no better. -/
structure Evidence.NoBetter (env env' : Env) (ev ev' : Evidence) : Prop where
  facts : ev'.facts = ev.facts
  score : (ev.score env).NoBetter (ev'.score env')

theorem gatherOpenEnded_noBetter (h : env.AtLeastAsStrict env') (hordered : env.PenaltiesOrdered)
    (hsame : llm.SameExtraction llm') {rawInput : String} {ev ev' : Evidence}
    (hev : (gatherOpenEnded env llm subj rawInput).result = .ok ev)
    (hev' : (gatherOpenEnded env' llm' subj rawInput).result = .ok ev') :
    ev.NoBetter env env' ev' := by
  obtain ⟨facts, result, ds, hfacts, hresult, hds, rfl⟩ := gatherOpenEnded_eq_ok.mp hev
  obtain ⟨facts', result', ds', hfacts', hresult', hds', rfl⟩ := gatherOpenEnded_eq_ok.mp hev'
  rw [hsame _ _ (Or.inl rfl), ← h.text] at hfacts
  rw [hsame _ _ (Or.inr rfl)] at hresult
  cases hfacts.symm.trans hfacts'
  cases hresult.symm.trans hresult'
  refine ⟨rfl, ?_⟩
  -- the notes do not count, so what counts is what the comparison of the facts finds
  show (scoreConfidence env ds result.redFlags result.sentiment.text).NoBetter
    (scoreConfidence env' ds' result.redFlags result.sentiment.text)
  rw [score_of_explained hds, score_of_explained hds']
  exact scoreConfidence_diffFacts_noBetter h hordered _ _ _ _

theorem gather_noBetter (h : env.AtLeastAsStrict env') (hordered : env.PenaltiesOrdered)
    (hsame : llm.SameExtraction llm') {ev ev' : Evidence}
    (hev : (gather env llm subj ref).result = .ok ev)
    (hev' : (gather env' llm' subj ref).result = .ok ev') : ev.NoBetter env env' ev' := by
  have hvalid := (gathered_of_ok hev).valid
  have hvalid' := (gathered_of_ok hev').valid
  cases htype : ref.type with
  | REF1 =>
    rw [gather_of_transcript htype ((valid_iff_of_transcript htype).mp hvalid)] at hev
    rw [gather_of_transcript htype ((valid_iff_of_transcript htype).mp hvalid')] at hev'
    exact gatherOpenEnded_noBetter h hordered hsame hev hev'
  | REF2 =>
    obtain ⟨form, hform⟩ := (valid_iff_of_form htype).mp hvalid
    rw [gather_of_form htype hform] at hev hev'
    obtain rfl := gatherYesNo_same hsame hev hev'
    exact ⟨rfl, scoreConfidence_noBetter_of_strict h _ _ _⟩

theorem confidenceScore_resultOf_nonneg (x : Except PyException (Evidence × String)) :
    0 ≤ (ref.resultOf env x).confidenceScore := by
  cases x with
  | error e => exact le_rfl
  | ok y => exact clampScore_nonneg _

/-- The results of a review under either settings, if no call raised in the first. -/
theorem resultOf_noBetter (h : env.AtLeastAsStrict env') (hordered : env.PenaltiesOrdered)
    (hsame : llm.SameExtraction llm')
    (hcalls : ∀ rq ∈ (review env llm subj ref).log, ¬ llm.Raises rq) :
    (ref.resultOf env (review env llm subj ref).result).NoBetter
        (ref.resultOf env' (review env' llm' subj ref).result) ∧
      (¬ (ref.resultOf env' (review env' llm' subj ref).result).IsFailure →
        (ref.resultOf env' (review env' llm' subj ref).result).testimony =
          (ref.resultOf env (review env llm subj ref).result).testimony) := by
  cases hreview' : (review env' llm' subj ref).result with
  | error e =>
    have hfailure : (failedResult ref.referenceName ref.relationship e).IsFailure :=
      ⟨rfl, rfl, rfl, rfl, rfl, rfl⟩
    exact ⟨⟨confidenceScore_resultOf_nonneg _, fun _ => rfl⟩, fun hnot => absurd hfailure hnot⟩
  | ok y' =>
    have hev' := gather_of_review hreview'
    obtain ⟨ev, summary, hev, hreview⟩ :=
      exists_review (valid_of_strict h (gathered_of_ok hev').valid) hcalls
    have hnoBetter := gather_noBetter h hordered hsame hev hev'
    rw [hreview]
    exact ⟨hnoBetter.score, fun _ => congrArg (Prod.mk ref.referenceName) hnoBetter.facts⟩

end reference

/-! ### The candidate -/

section candidate

variable {llm llm' : CandidateLLM} {c : CandidateBatchInput} {s s' : CandidateState}

theorem results_noBetter (h : env.AtLeastAsStrict env') (hordered : env.PenaltiesOrdered)
    (hsame : ∀ i, (llm.forReference i).SameExtraction (llm'.forReference i))
    (hsucceeds : llm.Succeeds env c s) :
    List.Forall₂ ReferenceResult.NoBetter (c.results env llm) (c.results env' llm') := by
  rw [List.forall₂_iff_get]
  refine ⟨by rw [c.length_results, c.length_results], fun i hi hi' => ?_⟩
  have hlt : i < c.references.length := by rwa [c.length_results] at hi
  have href : c.references[i]? = some c.references[i] := List.getElem?_eq_getElem hlt
  simp only [CandidateBatchInput.results, List.get_eq_getElem, List.getElem_mapIdx]
  exact (resultOf_noBetter h hordered (hsame i) (no_call_raises hsucceeds href)).1

/-- Without a new failure the references say the same. -/
theorem testimonies_eq (h : env.AtLeastAsStrict env') (hordered : env.PenaltiesOrdered)
    (hsame : ∀ i, (llm.forReference i).SameExtraction (llm'.forReference i))
    (hsucceeds : llm.Succeeds env c s) (hprocessed : ∀ r ∈ c.results env' llm', ¬ r.IsFailure) :
    (c.results env' llm').map (·.testimony) = (c.results env llm).map (·.testimony) := by
  refine List.ext_getElem? fun i => ?_
  rw [List.getElem?_map, List.getElem?_map]
  cases href : c.references[i]? with
  | none =>
    rw [CandidateBatchInput.getElem?_results, CandidateBatchInput.getElem?_results, href]
    simp only [Option.map_none]
  | some ref =>
    have hresult' : (c.results env' llm')[i]? =
        some (ref.resultOf env' (review env' (llm'.forReference i) c.subject ref).result) := by
      rw [CandidateBatchInput.getElem?_results, href, Option.map_some]
    rw [hresult', CandidateBatchInput.getElem?_results, href, Option.map_some, Option.map_some,
      Option.map_some]
    exact congrArg some ((resultOf_noBetter h hordered (hsame i) (no_call_raises hsucceeds href)).2
      (hprocessed _ (List.mem_of_getElem? hresult')))

theorem verdict_noBetter (h : env.AtLeastAsStrict env') (hordered : env.PenaltiesOrdered)
    {results results' : List ReferenceResult}
    (hresults : List.Forall₂ ReferenceResult.NoBetter results results')
    (htestimonies : results'.map (·.testimony) = results.map (·.testimony)) :
    (verdict env' results').overallConfidence ≤ (verdict env results).overallConfidence ∧
      ((verdict env results).overallNeedsReview = true →
        (verdict env' results').overallNeedsReview = true) := by
  have hflags : crossCheckReferences env'.toPyText results' = crossCheckReferences env.toPyText results := by
    rw [h.text]
    exact crossCheckReferences_congr _ htestimonies
  have hcovers : Covers (fun f f' : CrossReferenceFlag => f.severity ≤ f'.severity)
      (crossCheckReferences env.toPyText results) (crossCheckReferences env.toPyText results) :=
    Covers.of_subperm (fun _ => le_rfl) (List.Subperm.refl _)
  obtain ⟨hscore, hreview⟩ :=
    overallScore_of_strict h results' (crossCheckReferences env.toPyText results)
  unfold verdict
  rw [hflags]
  exact ⟨hscore.trans (overallConfidence_anti hordered hresults hcovers),
    fun hneeds => hreview (overallNeedsReview_mono hordered hresults hcovers hneeds)⟩

/-- **Stricter settings clear no more.** Of two runs that got the same facts and sentiments, the first
without an exception, the one under the stricter settings has for each reference a score that is no higher
and every review flag of the first, and for the candidate the review flag if the first has it. If it could
process every reference, the confidence in the candidate is no higher either. -/
theorem stricter_settings_clear_no_more (h : env.AtLeastAsStrict env')
    (hordered : env.PenaltiesOrdered)
    (hsame : ∀ i, (llm.forReference i).SameExtraction (llm'.forReference i))
    (hsucceeds : llm.Succeeds env c s)
    (hends : ((candidateGraph env' llm').invoke recursionLimit c.inputState).result = .ok s') :
    List.Forall₂ ReferenceResult.NoBetter s.referenceResults s'.referenceResults ∧
    (s.overallNeedsReview = some true → s'.overallNeedsReview = some true) ∧
    ((∀ r ∈ s'.referenceResults, ¬ r.IsFailure) →
      ∀ a ∈ s.overallConfidence, ∀ b ∈ s'.overallConfidence, b ≤ a) := by
  by_cases hnil : c.references = []
  · rw [eq_inputState_of_nil hnil hsucceeds, eq_inputState_of_nil hnil (succeeds_of_nil hnil hends)]
    exact ⟨.nil, id, fun _ a ha => by cases ha⟩
  · obtain ⟨summary, rfl⟩ := exists_summary_of_succeeds hnil hsucceeds
    obtain ⟨summary', rfl⟩ := exists_summary_of_invoke hnil hends
    have hresults : List.Forall₂ ReferenceResult.NoBetter (c.results env llm) (c.results env' llm') :=
      results_noBetter h hordered hsame hsucceeds
    refine ⟨hresults, fun hneeds => congrArg some ?_, fun hprocessed a ha b hb => ?_⟩
    · have hneeds' : (verdict env (c.results env llm)).overallNeedsReview = true :=
        Option.some.inj hneeds
      by_cases hfailure : ∃ r ∈ c.results env' llm', r.IsFailure
      · -- a reference that fails under the stricter settings is left to a reviewer
        obtain ⟨r, hr, hfailed⟩ := hfailure
        exact overallNeedsReview_of_mem hr hfailed.needsHumanReview
      · have hprocessed : ∀ r ∈ c.results env' llm', ¬ r.IsFailure :=
          fun r hr hfailed => hfailure ⟨r, hr, hfailed⟩
        exact (verdict_noBetter h hordered hresults
          (testimonies_eq h hordered hsame hsucceeds hprocessed)).2 hneeds'
    · cases ha
      cases hb
      exact (verdict_noBetter h hordered hresults
        (testimonies_eq h hordered hsame hsucceeds hprocessed)).1

end candidate

end settings

/-! ### A month that counts -/

/-- The settings as shipped, but for a higher threshold and no tolerance of months. -/
def strictEnv : Env := { sampleEnv with reviewThreshold := 90, minorMonthTolerance := 0 }

theorem atLeastAsStrict_strictEnv : sampleEnv.AtLeastAsStrict strictEnv where
  text := rfl
  minorMonthTolerance := by decide
  moderateMonthTolerance := le_rfl
  severityPenalty _ := le_rfl
  penaltySentimentNegative := le_rfl
  penaltySentimentMixed := le_rfl
  redFlagPenalty := le_rfl
  reviewThreshold := by decide +kernel
  overallReviewThreshold := le_rfl
  maxRawInputChars := le_rfl
  minRawInputChars := le_rfl

/-- Finds a title, a start that is a month late and a negative tone, and writes `text` as prose. -/
def lateAnswer (text : String) : (m : OutputModel) → Except PyException m.Value
  | .extractedFacts => .ok { jobTitle := some "Clerk", startDate := some "2021-02" }
  | .sentimentAndRedFlags => .ok ⟨.negative, []⟩
  | m => proseAnswer "Clerk" text m

def lateLLM (text : String) : CandidateLLM :=
  { proseLLM "Clerk" text with reference := fun _ rq => lateAnswer text rq.outputModel }

def twoTranscripts : CandidateBatchInput :=
  sampleCandidate [sampleTranscript "Bob", sampleTranscript "Eve"]

theorem succeeds_lateLLM (env : Env) (text : String) :
    (lateLLM text).Succeeds env twoTranscripts (twoTranscripts.finalState env (lateLLM text) text) where
  overall := by
    rw [candidateGraph_invoke (List.cons_ne_nil _ _)]
    rfl
  reference i ref _ rq _ := by
    rintro ⟨e, he⟩
    have hanswer : lateAnswer text rq.outputModel = .error e := he
    cases hm : rq.outputModel <;> rw [hm] at hanswer <;> cases hanswer

/-- Both references are left to a reviewer either way, and the stricter settings count the month. -/
theorem stricter_settings_sample :
    List.Forall₂ ReferenceResult.NoBetter
      (twoTranscripts.finalState sampleEnv (lateLLM "Fine.") "Fine.").referenceResults
      (twoTranscripts.finalState strictEnv (lateLLM "Late.") "Late.").referenceResults ∧
    (twoTranscripts.finalState strictEnv (lateLLM "Late.") "Late.").overallNeedsReview = some true ∧
    ∃ a b, (twoTranscripts.finalState sampleEnv (lateLLM "Fine.") "Fine.").overallConfidence = some a ∧
      (twoTranscripts.finalState strictEnv (lateLLM "Late.") "Late.").overallConfidence = some b ∧
      b ≤ a := by
  have hsame : ∀ i, ((lateLLM "Fine.").forReference i).SameExtraction
      ((lateLLM "Late.").forReference i) := by
    rintro i prompts m (rfl | rfl) <;> rfl
  obtain ⟨hresults, hreview, hconfidence⟩ := stricter_settings_clear_no_more atLeastAsStrict_strictEnv
    (Env.penaltiesOrdered_shipped .plain) hsame (succeeds_lateLLM sampleEnv "Fine.")
    (succeeds_lateLLM strictEnv "Late.").overall
  have hflagged : (twoTranscripts.finalState sampleEnv (lateLLM "Fine.") "Fine.").overallNeedsReview =
      some true := by
    have hlow : ∃ r ∈ twoTranscripts.results sampleEnv (lateLLM "Fine."), r.needsHumanReview = true := by
      decide +kernel
    obtain ⟨r, hr, hneeds⟩ := hlow
    exact congrArg some (overallNeedsReview_of_mem hr hneeds)
  have hprocessed : ∀ r ∈ (twoTranscripts.finalState strictEnv (lateLLM "Late.") "Late.").referenceResults,
      ¬ r.IsFailure := by
    have hscored : ∀ r ∈ twoTranscripts.results strictEnv (lateLLM "Late."), r.confidenceScore ≠ 0 := by
      decide +kernel
    exact fun r hr hfailure => hscored r hr hfailure.confidenceScore
  exact ⟨hresults, hreview hflagged, _, _, rfl, rfl, hconfidence hprocessed _ rfl _ rfl⟩

end RefCheck
