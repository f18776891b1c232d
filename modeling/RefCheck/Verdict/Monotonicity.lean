import RefCheck.Lib.Scores
import RefCheck.Model.CandidateNodes

/-!
# Worse evidence, worse verdict

Evidence can only lower a score and raise a flag: more discrepancies or worse ones, more red flags, a
worse sentiment and more cross-reference flags give a confidence that is at most as high, for every
reference and for the candidate, and lift no review flag. What counts is what was found, not in
which order.
-/

namespace RefCheck

open Scores

/-! ### Evidence at least as bad -/

/-- No penalty is negative, and what is worse costs at least as much. -/
structure Env.PenaltiesOrdered (env : Env) : Prop where
  severity_nonneg : ∀ s, 0 ≤ env.severityPenalty s
  severity_mono : ∀ s s', s ≤ s' → env.severityPenalty s ≤ env.severityPenalty s'
  mixed_nonneg : 0 ≤ env.penaltySentimentMixed
  mixed_le_negative : env.penaltySentimentMixed ≤ env.penaltySentimentNegative
  redFlag_nonneg : 0 ≤ env.redFlagPenalty

theorem Env.penaltiesOrdered_shipped (py : PyText) : (Env.shipped py).PenaltiesOrdered where
  severity_nonneg s := by cases s <;> simp [shipped]
  severity_mono s s' h := by
    cases s <;> cases s' <;> first | exact absurd h (by decide) | simp [shipped]
  mixed_nonneg := by simp [shipped]
  mixed_le_negative := by simp [shipped]
  redFlag_nonneg := by simp [shipped]

/-- What was found about the second reference is at least what was found about the first, and at
least as bad. -/
structure ReferenceResult.AtLeastAsBad (r r' : ReferenceResult) : Prop where
  discrepancies : Covers (fun d d' => d.severity ≤ d'.severity) r.discrepancies r'.discrepancies
  redFlags : r.redFlags.Subperm r'.redFlags
  sentiment : ∃ s s' : Sentiment, r.sentiment = s.text ∧ r'.sentiment = s'.text ∧ s ≤ s'

/-- The result has the score of its evidence. -/
def ReferenceResult.Scored (env : Env) (r : ReferenceResult) : Prop :=
  scoreConfidence env r.discrepancies r.redFlags r.sentiment =
    ⟨r.confidenceScore, r.needsHumanReview⟩

/-! ### One reference -/

section reference

variable {env : Env}

theorem rawScore_eq (env : Env) (ds : List Discrepancy) (rf : List String) (s : String) :
    rawScore env ds rf s = 100 - (ds.map fun d => (env.severityPenalty d.severity : ℚ)).sum
      - env.redFlagPenalty * rf.length - env.sentimentPenalty s := by
  rw [rawScore]
  congr 2
  exact foldl_sub_weight (fun d : Discrepancy => (env.severityPenalty d.severity : ℚ)) ds 100

theorem sentimentPenalty_mono (henv : env.PenaltiesOrdered) {s s' : Sentiment} (h : s ≤ s') :
    env.sentimentPenalty s.text ≤ env.sentimentPenalty s'.text := by
  have hmixed := henv.mixed_nonneg
  have hnegative := henv.mixed_le_negative
  have hpositive' : env.sentimentPenalty Sentiment.positive.text = 0 := rfl
  have hneutral' : env.sentimentPenalty Sentiment.neutral.text = 0 := rfl
  have hmixed' : env.sentimentPenalty Sentiment.mixed.text = env.penaltySentimentMixed := rfl
  have hnegative' : env.sentimentPenalty Sentiment.negative.text =
      env.penaltySentimentNegative := rfl
  cases s <;> cases s' <;> first | exact absurd h (by decide) | omega

theorem sum_severityPenalty_le {B : Type} {severity : B → Severity} (henv : env.PenaltiesOrdered)
    {l l' : List B} (h : Covers (fun b b' => severity b ≤ severity b') l l') :
    (l.map fun b => (env.severityPenalty (severity b) : ℚ)).sum ≤
      (l'.map fun b => (env.severityPenalty (severity b) : ℚ)).sum := by
  refine h.sum_le (fun b b' hb => ?_) (fun b => ?_)
  · exact Int.cast_le.mpr (henv.severity_mono _ _ hb)
  · exact Int.cast_nonneg (henv.severity_nonneg _)

variable {ds ds' : List Discrepancy} {rf rf' : List String} {s s' : Sentiment}

theorem rawScore_anti (henv : env.PenaltiesOrdered)
    (hds : Covers (fun d d' => d.severity ≤ d'.severity) ds ds') (hrf : rf.Subperm rf')
    (hs : s ≤ s') : rawScore env ds' rf' s'.text ≤ rawScore env ds rf s.text := by
  rw [rawScore_eq, rawScore_eq]
  have hsum := sum_severityPenalty_le henv hds
  have hred : (env.redFlagPenalty : ℚ) * rf.length ≤ env.redFlagPenalty * rf'.length :=
    mul_le_mul_of_nonneg_left (Nat.cast_le.mpr hrf.length_le)
      (Int.cast_nonneg henv.redFlag_nonneg)
  have hsentiment : (env.sentimentPenalty s.text : ℚ) ≤ env.sentimentPenalty s'.text :=
    Int.cast_le.mpr (sentimentPenalty_mono henv hs)
  linarith

theorem confidenceScore_anti (henv : env.PenaltiesOrdered)
    (hds : Covers (fun d d' => d.severity ≤ d'.severity) ds ds') (hrf : rf.Subperm rf')
    (hs : s ≤ s') : (scoreConfidence env ds' rf' s'.text).confidenceScore ≤
      (scoreConfidence env ds rf s.text).confidenceScore :=
  clampScore_mono (rawScore_anti henv hds hrf hs)

theorem needsHumanReview_mono (henv : env.PenaltiesOrdered)
    (hds : Covers (fun d d' => d.severity ≤ d'.severity) ds ds') (hrf : rf.Subperm rf')
    (hs : s ≤ s') (h : (scoreConfidence env ds rf s.text).needsHumanReview = true) :
    (scoreConfidence env ds' rf' s'.text).needsHumanReview = true := by
  by_contra hclear
  rw [Bool.not_eq_true] at hclear
  obtain ⟨hscore, hmajor, hred⟩ := (needsHumanReview_eq_false_iff _ _ _ _).mp hclear
  -- what clears the worse evidence clears the better one
  have hclear' : (scoreConfidence env ds rf s.text).needsHumanReview = false := by
    rw [needsHumanReview_eq_false_iff]
    refine ⟨hscore.trans (confidenceScore_anti henv hds hrf hs), fun d hd hmaj => ?_, ?_⟩
    · obtain ⟨d', hd', hle⟩ := hds.exists_mem hd
      rw [hmaj] at hle
      exact hmajor d' hd' (Severity.eq_major_of_le hle)
    · rw [hred] at hrf
      exact List.subperm_nil.mp hrf
  rw [h] at hclear'
  cases hclear'

theorem scoreConfidence_perm (hds : ds.Perm ds') (hrf : rf.Perm rf') (sentiment : String) :
    scoreConfidence env ds rf sentiment = scoreConfidence env ds' rf' sentiment := by
  have hraw : rawScore env ds rf sentiment = rawScore env ds' rf' sentiment := by
    rw [rawScore_eq, rawScore_eq, (hds.map _).sum_eq, hrf.length_eq]
  have hany : (ds.any fun d => decide (d.severity = .major)) =
      ds'.any fun d => decide (d.severity = .major) := hds.any_eq
  have hnil : rf = [] ↔ rf' = [] := ⟨fun h => by rw [h] at hrf; exact hrf.nil_eq.symm,
    fun h => by rw [h] at hrf; exact hrf.eq_nil⟩
  simp only [scoreConfidence, hraw, hany, ne_eq, hnil]

end reference

section results

variable {env : Env} {r r' : ReferenceResult}

theorem confidenceScore_mem_of_scored (h : r.Scored env) :
    0 ≤ r.confidenceScore ∧ r.confidenceScore ≤ 100 := by
  have hscore : clampScore _ = r.confidenceScore := congrArg ScoreResult.confidenceScore h
  rw [← hscore]
  exact ⟨clampScore_nonneg _, clampScore_le _⟩

/-- What worse evidence does to the result of a reference. -/
def ReferenceResult.NoBetter (r r' : ReferenceResult) : Prop :=
  r'.confidenceScore ≤ r.confidenceScore ∧
    (r.needsHumanReview = true → r'.needsHumanReview = true)

theorem noBetter_of_atLeastAsBad (henv : env.PenaltiesOrdered) (hr : r.Scored env)
    (hr' : r'.Scored env) (h : r.AtLeastAsBad r') : r.NoBetter r' := by
  obtain ⟨s, s', hs, hs', hle⟩ := h.sentiment
  unfold ReferenceResult.Scored at hr hr'
  rw [hs] at hr
  rw [hs'] at hr'
  have hanti := confidenceScore_anti henv h.discrepancies h.redFlags hle
  have hmono := needsHumanReview_mono henv h.discrepancies h.redFlags hle
  rw [hr, hr'] at hanti hmono
  exact ⟨hanti, hmono⟩

end results

/-! ### The candidate -/

section candidate

variable {env : Env} {results results' : List ReferenceResult}
  {flags flags' : List CrossReferenceFlag}

theorem rawOverall_eq (env : Env) (results : List ReferenceResult)
    (flags : List CrossReferenceFlag) :
    rawOverall env results flags = average (results.map (·.confidenceScore)) -
      (flags.map fun f => (env.severityPenalty f.severity : ℚ)).sum := by
  rw [average, List.length_map]
  exact foldl_sub_weight (fun f : CrossReferenceFlag => (env.severityPenalty f.severity : ℚ)) _ _

theorem overallConfidence_anti (henv : env.PenaltiesOrdered)
    (hresults : List.Forall₂ ReferenceResult.NoBetter results results')
    (hflags : Covers (fun f f' => f.severity ≤ f'.severity) flags flags') :
    (overallScore env results' flags').overallConfidence ≤
      (overallScore env results flags).overallConfidence := by
  refine clampScore_mono ?_
  rw [rawOverall_eq, rawOverall_eq]
  have haverage : average (results'.map (·.confidenceScore)) ≤
      average (results.map (·.confidenceScore)) := by
    refine average_le_average ?_
    rw [List.forall₂_map_left_iff, List.forall₂_map_right_iff]
    exact (hresults.imp fun _ _ h => h.1).flip
  have hsum := sum_severityPenalty_le henv hflags
  linarith

theorem overallNeedsReview_mono (henv : env.PenaltiesOrdered)
    (hresults : List.Forall₂ ReferenceResult.NoBetter results results')
    (hflags : Covers (fun f f' => f.severity ≤ f'.severity) flags flags')
    (h : (overallScore env results flags).overallNeedsReview = true) :
    (overallScore env results' flags').overallNeedsReview = true := by
  by_contra hclear
  rw [Bool.not_eq_true] at hclear
  obtain ⟨hscore, hnone, hnil⟩ := (overallNeedsReview_eq_false_iff _ _ _).mp hclear
  have hclear' : (overallScore env results flags).overallNeedsReview = false := by
    rw [overallNeedsReview_eq_false_iff]
    refine ⟨hscore.trans (overallConfidence_anti henv hresults hflags), fun r hr => ?_, ?_⟩
    · obtain ⟨r', hr', hworse⟩ := Lists.exists_mem_of_forall₂ hresults hr
      by_contra hneeds
      rw [Bool.not_eq_false] at hneeds
      cases (hworse.2 hneeds).symm.trans (hnone r' hr')
    · by_contra hne
      exact hflags.ne_nil hne hnil
  rw [h] at hclear'
  cases hclear'

theorem overallScore_perm (hresults : results.Perm results') (hflags : flags.Perm flags') :
    overallScore env results flags = overallScore env results' flags' := by
  have hraw : rawOverall env results flags = rawOverall env results' flags' := by
    rw [rawOverall_eq, rawOverall_eq, average_perm (hresults.map _), (hflags.map _).sum_eq]
  have hany : results.any (·.needsHumanReview) = results'.any (·.needsHumanReview) :=
    hresults.any_eq
  have hnil : flags = [] ↔ flags' = [] := by
    rw [← List.length_eq_zero_iff, hflags.length_eq, List.length_eq_zero_iff]
  simp only [overallScore, hraw, hany, ne_eq, hnil]

/-- **Worse evidence gives no better verdict.** If the second list has, reference by reference, at
least the discrepancies, red flags and sentiment of the first, and at least its cross-reference
flags, then no score of it is higher and no review flag is lifted. All scores lie between 0 and 100
and do not depend on any order. -/
theorem verdict_monotone (henv : env.PenaltiesOrdered) (hne : results ≠ [])
    (hscored : ∀ r ∈ results, r.Scored env) (hscored' : ∀ r ∈ results', r.Scored env)
    (hworse : List.Forall₂ ReferenceResult.AtLeastAsBad results results')
    (hflags : Covers (fun f f' => f.severity ≤ f'.severity) flags flags') :
    List.Forall₂ ReferenceResult.NoBetter results results' ∧
    (∀ r ∈ results ++ results', 0 ≤ r.confidenceScore ∧ r.confidenceScore ≤ 100) ∧
    (∃ o o', scoreOverall env results flags = .ok o ∧ scoreOverall env results' flags' = .ok o' ∧
      o'.overallConfidence ≤ o.overallConfidence ∧
      (o.overallNeedsReview = true → o'.overallNeedsReview = true) ∧
      (0 ≤ o.overallConfidence ∧ o.overallConfidence ≤ 100) ∧
      0 ≤ o'.overallConfidence ∧ o'.overallConfidence ≤ 100) ∧
    (∀ (ds ds' : List Discrepancy) (rf rf' : List String) (sentiment : String), ds.Perm ds' →
      rf.Perm rf' → scoreConfidence env ds rf sentiment = scoreConfidence env ds' rf' sentiment) ∧
    ∀ results₂ flags₂, results.Perm results₂ → flags.Perm flags₂ →
      scoreOverall env results₂ flags₂ = scoreOverall env results flags := by
  have hpointwise : List.Forall₂ ReferenceResult.NoBetter results results' := by
    rw [List.forall₂_iff_get] at hworse ⊢
    refine ⟨hworse.1, fun i hi hi' => ?_⟩
    exact noBetter_of_atLeastAsBad henv (hscored _ (List.get_mem _ _))
      (hscored' _ (List.get_mem _ _)) (hworse.2 i hi hi')
  have hne' : results' ≠ [] := by
    rw [← List.length_pos_iff, ← hworse.length_eq, List.length_pos_iff]
    exact hne
  refine ⟨hpointwise, fun r hr => ?_, ⟨_, _, scoreOverall_of_ne_nil hne flags,
    scoreOverall_of_ne_nil hne' flags', overallConfidence_anti henv hpointwise hflags,
    overallNeedsReview_mono henv hpointwise hflags, ⟨clampScore_nonneg _, clampScore_le _⟩,
    clampScore_nonneg _, clampScore_le _⟩, fun ds ds' rf rf' sentiment hds hrf =>
    scoreConfidence_perm hds hrf sentiment, fun results₂ flags₂ hresults hperm => ?_⟩
  · rcases List.mem_append.mp hr with hr | hr
    · exact confidenceScore_mem_of_scored (hscored r hr)
    · exact confidenceScore_mem_of_scored (hscored' r hr)
  · have hne₂ : results₂ ≠ [] := fun h => hne (by rw [h] at hresults; exact hresults.eq_nil)
    rw [scoreOverall_of_ne_nil hne, scoreOverall_of_ne_nil hne₂, overallScore_perm hresults hperm]

def milderResults : List ReferenceResult :=
  [⟨"Bob", "Manager", {}, [⟨"start_date", "2020-01", "2020-03", .minor, none⟩], "positive", [], 95, false, ""⟩,
    ⟨"Eve", "Peer", {}, [], "neutral", [], 100, false, ""⟩]

/-- The start date differs by more, the title as well, and there is a red flag. -/
def harsherResults : List ReferenceResult :=
  [⟨"Bob", "Manager", {}, [⟨"job_title", "Lead", "Clerk", .major, none⟩,
      ⟨"start_date", "2020-01", "2020-08", .moderate, none⟩], "mixed", ["late"], 30, true, ""⟩,
    ⟨"Eve", "Peer", {}, [], "negative", [], 80, false, ""⟩]

def dateFlag (severity : Severity) : CrossReferenceFlag :=
  ⟨"start_date", "References disagree on start_date", severity, ["Bob", "Eve"]⟩

/-- Two references and a flag, once and once worse. -/
theorem verdict_monotone_sample :
    List.Forall₂ ReferenceResult.NoBetter milderResults harsherResults ∧
      ∃ o o', scoreOverall (.shipped .plain) milderResults [dateFlag .minor] = .ok o ∧
        scoreOverall (.shipped .plain) harsherResults [dateFlag .major] = .ok o' ∧
          o'.overallConfidence ≤ o.overallConfidence := by
  have hbob : Covers (fun d d' : Discrepancy => d.severity ≤ d'.severity)
      [⟨"start_date", "2020-01", "2020-03", .minor, none⟩]
      [⟨"job_title", "Lead", "Clerk", .major, none⟩,
        ⟨"start_date", "2020-01", "2020-08", .moderate, none⟩] :=
    ⟨[⟨"start_date", "2020-01", "2020-08", .moderate, none⟩], .cons (by decide) .nil,
      ((List.Sublist.refl _).cons _).subperm⟩
  have heve : Covers (fun d d' : Discrepancy => d.severity ≤ d'.severity) [] [] :=
    Covers.of_subperm (fun _ => le_rfl) (List.nil_subperm)
  have hflags : Covers (fun f f' : CrossReferenceFlag => f.severity ≤ f'.severity) [dateFlag .minor]
      [dateFlag .major] :=
    ⟨[dateFlag .major], .cons (by decide) .nil, (List.Perm.refl _).subperm⟩
  have hscored : ∀ r ∈ milderResults, r.Scored (.shipped .plain) := by
    intro r hr
    rcases List.mem_pair.mp hr with rfl | rfl
    · show scoreConfidence _ _ _ _ = _
      decide +kernel
    · show scoreConfidence _ _ _ _ = _
      decide +kernel
  have hscored' : ∀ r ∈ harsherResults, r.Scored (.shipped .plain) := by
    intro r hr
    rcases List.mem_pair.mp hr with rfl | rfl
    · show scoreConfidence _ _ _ _ = _
      decide +kernel
    · show scoreConfidence _ _ _ _ = _
      decide +kernel
  obtain ⟨hresults, -, ⟨o, o', ho, ho', hle, -⟩, -⟩ := verdict_monotone
    (Env.penaltiesOrdered_shipped .plain) (List.cons_ne_nil _ _) hscored hscored'
    (.cons ⟨hbob, List.nil_subperm, .positive, .mixed, rfl, rfl, by decide⟩
      (.cons ⟨heve, List.nil_subperm, .neutral, .negative, rfl, rfl, by decide⟩ .nil)) hflags
  exact ⟨hresults, o, o', ho, ho', hle⟩

end candidate

end RefCheck
