import RefCheck.Model.ReferenceNodes

/-!
# The deterministic nodes of a candidate

`cross_check_references`, `score_overall` and `route_overall_review` of `CandidateNodes`: where the
references disagree with each other, and the verdict over all of them.
-/

namespace RefCheck

/-! ### `cross_check_references` -/

/-- What the references state for a field, normalised, each with the name of the reference. -/
def statedPairs (py : PyText) (field : ExtractedFacts → Option String)
    (results : List ReferenceResult) : List (String × String) :=
  results.filterMap fun r =>
    (stated (field r.extractedFacts)).map fun value => (normalize py value, r.referenceName)

/-- The flag of one field: more than one value is stated for it. -/
def fieldFlags (py : PyText) (name : String) (field : ExtractedFacts → Option String)
    (results : List ReferenceResult) : List CrossReferenceFlag :=
  let statedValues := Dict.group (statedPairs py field results)
  if statedValues.entries.length > 1 then
    [{ field := name
       description := "References disagree on " ++ name ++ ": " ++
         "; ".intercalate (statedValues.entries.map fun e =>
           py.reprList e.2 ++ " said " ++ py.reprStr e.1)
       severity := if name = "company" then .major else .moderate
       involvedReferences := statedValues.values.flatten }]
  else []

/-- The ratings by name of the reference: of two references with one name the later rating stays. -/
def performanceByRef (results : List ReferenceResult) : Dict String PerformanceRating :=
  Dict.ofPairs (results.filterMap fun r =>
    r.extractedFacts.performanceRating.map fun rating => (r.referenceName, rating))

/-- The flag of the ratings: one is strong and one is weak. -/
def performanceFlags (results : List ReferenceResult) : List CrossReferenceFlag :=
  let ratings := (performanceByRef results).values
  if .strong ∈ ratings ∧ .weak ∈ ratings then
    [{ field := "performance_rating"
       description := "References give conflicting performance assessments: " ++
         ", ".intercalate ((performanceByRef results).entries.map fun e => e.1 ++ "=" ++ e.2.text)
       severity := .major
       involvedReferences := (performanceByRef results).keys }]
  else []

/-- `cross_check_references`. -/
def crossCheckReferences (py : PyText) (results : List ReferenceResult) : List CrossReferenceFlag :=
  fieldFlags py "job_title" (·.jobTitle) results ++ fieldFlags py "company" (·.company) results ++
    performanceFlags results

theorem field_of_mem_fieldFlags {py : PyText} {name : String}
    {field : ExtractedFacts → Option String} {f : CrossReferenceFlag}
    {results : List ReferenceResult} (h : f ∈ fieldFlags py name field results) : f.field = name := by
  unfold fieldFlags at h
  by_cases hlen : (Dict.group (statedPairs py field results)).entries.length > 1
  · rw [if_pos hlen] at h
    rw [List.mem_singleton.mp h]
  · rw [if_neg hlen] at h
    cases h

theorem field_of_mem_performanceFlags {results : List ReferenceResult} {f : CrossReferenceFlag}
    (h : f ∈ performanceFlags results) : f.field = "performance_rating" := by
  unfold performanceFlags at h
  dsimp only at h
  split_ifs at h
  · rw [List.mem_singleton.mp h]
  · cases h

/-- What the cross-check reads of a result: who says what. -/
def ReferenceResult.testimony (r : ReferenceResult) : String × ExtractedFacts :=
  (r.referenceName, r.extractedFacts)

theorem statedPairs_eq (py : PyText) (field : ExtractedFacts → Option String)
    (results : List ReferenceResult) :
    statedPairs py field results = (results.map (·.testimony)).filterMap fun t =>
      (stated (field t.2)).map fun value => (normalize py value, t.1) := by
  rw [List.filterMap_map]
  rfl

theorem performanceByRef_eq (results : List ReferenceResult) :
    performanceByRef results = Dict.ofPairs ((results.map (·.testimony)).filterMap fun t =>
      t.2.performanceRating.map fun rating => (t.1, rating)) := by
  rw [List.filterMap_map]
  rfl

theorem crossCheckReferences_congr (py : PyText) {results results' : List ReferenceResult}
    (h : results.map (·.testimony) = results'.map (·.testimony)) :
    crossCheckReferences py results = crossCheckReferences py results' := by
  simp only [crossCheckReferences, fieldFlags, performanceFlags, statedPairs_eq, performanceByRef_eq,
    h]

/-- A field is not flagged exactly when the values stated for it agree up to normalisation. -/
theorem fieldFlags_eq_nil_iff (py : PyText) (name : String) (field : ExtractedFacts → Option String)
    (results : List ReferenceResult) :
    fieldFlags py name field results = [] ↔
      ∀ r ∈ results, ∀ r' ∈ results, ∀ v v', stated (field r.extractedFacts) = some v →
        stated (field r'.extractedFacts) = some v' → normalize py v = normalize py v' := by
  have hmem : ∀ k, k ∈ (statedPairs py field results).map Prod.fst ↔
      ∃ r ∈ results, ∃ v, stated (field r.extractedFacts) = some v ∧ normalize py v = k := by
    intro k
    simp only [statedPairs, List.map_filterMap, List.mem_filterMap, Option.map_map,
      Option.map_eq_some_iff, Function.comp_def]
  have hnil : fieldFlags py name field results = [] ↔
      (Dict.group (statedPairs py field results)).entries.length ≤ 1 := by
    unfold fieldFlags
    dsimp only
    split_ifs with hlen
    · simp only [false_iff]
      omega
    · simp only [true_iff]
      omega
  rw [hnil, Dict.length_group_le_one_iff]
  simp only [hmem]
  constructor
  · intro h r hr r' hr' v v' hv hv'
    exact h _ ⟨r, hr, v, hv, rfl⟩ _ ⟨r', hr', v', hv', rfl⟩
  · rintro h _ ⟨r, hr, v, hv, rfl⟩ _ ⟨r', hr', v', hv', rfl⟩
    exact h r hr r' hr' v v' hv hv'

/-- Two references state different values for a field. -/
def StatesDiffer (py : PyText) (field : ExtractedFacts → Option String)
    (testimonies : List (String × ExtractedFacts)) : Prop :=
  ∃ t ∈ testimonies, ∃ t' ∈ testimonies, ∃ v v', stated (field t.2) = some v ∧
    stated (field t'.2) = some v' ∧ normalize py v ≠ normalize py v'

/-- The ratings that the references end up with, by name. -/
def lastRatings (testimonies : List (String × ExtractedFacts)) : List PerformanceRating :=
  (Dict.ofPairs (testimonies.filterMap fun t =>
    t.2.performanceRating.map fun rating => (t.1, rating))).values

/-- References disagree: on the title, on the company, or on the performance. -/
def Disagree (py : PyText) (testimonies : List (String × ExtractedFacts)) : Prop :=
  StatesDiffer py (·.jobTitle) testimonies ∨ StatesDiffer py (·.company) testimonies ∨
    .strong ∈ lastRatings testimonies ∧ .weak ∈ lastRatings testimonies

theorem fieldFlags_ne_nil_iff (py : PyText) (name : String) (field : ExtractedFacts → Option String)
    (results : List ReferenceResult) :
    fieldFlags py name field results ≠ [] ↔
      StatesDiffer py field (results.map (·.testimony)) := by
  rw [Ne, fieldFlags_eq_nil_iff]
  simp only [StatesDiffer, List.mem_map, ReferenceResult.testimony, not_forall, exists_prop,
    exists_exists_and_eq_and]

theorem performanceFlags_ne_nil_iff (results : List ReferenceResult) :
    performanceFlags results ≠ [] ↔
      .strong ∈ lastRatings (results.map (·.testimony)) ∧
        .weak ∈ lastRatings (results.map (·.testimony)) := by
  have hratings : (performanceByRef results).values = lastRatings (results.map (·.testimony)) := by
    rw [performanceByRef_eq]
    rfl
  unfold performanceFlags
  dsimp only
  rw [hratings]
  split_ifs with h
  · simp [h]
  · simp [h]

/-- The cross-check raises a flag exactly when the references disagree. -/
theorem crossCheckReferences_ne_nil_iff (py : PyText) (results : List ReferenceResult) :
    crossCheckReferences py results ≠ [] ↔ Disagree py (results.map (·.testimony)) := by
  unfold crossCheckReferences Disagree
  rw [← fieldFlags_ne_nil_iff py "job_title", ← fieldFlags_ne_nil_iff py "company",
    ← performanceFlags_ne_nil_iff, Ne, List.append_eq_nil_iff, List.append_eq_nil_iff]
  tauto

/-! ### `score_overall` and `route_overall_review` -/

structure OverallScore where
  overallConfidence : ℚ
  overallNeedsReview : Bool
  deriving DecidableEq

/-- The average of the scores, less the penalties of the flags, before it is clamped. -/
def rawOverall (env : Env) (results : List ReferenceResult) (flags : List CrossReferenceFlag) : ℚ :=
  flags.foldl (fun score f => penalize env score f.severity)
    ((results.map (·.confidenceScore)).sum / results.length)

/-- The verdict over at least one reference. -/
def overallScore (env : Env) (results : List ReferenceResult) (flags : List CrossReferenceFlag) :
    OverallScore :=
  let avgScore := clampScore (rawOverall env results flags)
  let anyRefNeedsReview := results.any (·.needsHumanReview)
  { overallConfidence := avgScore
    overallNeedsReview :=
      avgScore < env.overallReviewThreshold || anyRefNeedsReview || flags ≠ [] }

/-- `score_overall`; the average over no reference divides by zero. -/
def scoreOverall (env : Env) (results : List ReferenceResult) (flags : List CrossReferenceFlag) :
    Except PyException OverallScore :=
  if results = [] then .error .zeroDivisionError else .ok (overallScore env results flags)

inductive OverallRoute where
  | overallFlagForReview
  | overallClear
  deriving DecidableEq, Repr

/-- `route_overall_review`. -/
def routeOverallReview (overallNeedsReview : Bool) : OverallRoute :=
  if overallNeedsReview then .overallFlagForReview else .overallClear

theorem scoreOverall_of_ne_nil {env : Env} {results : List ReferenceResult}
    (h : results ≠ []) (flags : List CrossReferenceFlag) :
    scoreOverall env results flags = .ok (overallScore env results flags) := by
  rw [scoreOverall, if_neg h]

@[simp] theorem scoreOverall_nil (env : Env) (flags : List CrossReferenceFlag) :
    scoreOverall env [] flags = .error .zeroDivisionError := rfl

theorem scoreOverall_eq_ok_iff {env : Env} {results : List ReferenceResult}
    {flags : List CrossReferenceFlag} {o : OverallScore} :
    scoreOverall env results flags = .ok o ↔ results ≠ [] ∧ o = overallScore env results flags := by
  by_cases h : results = []
  · simp [h]
  · rw [scoreOverall_of_ne_nil h, Except.ok.injEq]
    simp [h, eq_comm]

theorem overallScore_congr (env : Env) {results results' : List ReferenceResult}
    (flags : List CrossReferenceFlag)
    (hscore : results.map (·.confidenceScore) = results'.map (·.confidenceScore))
    (hreview : results.map (·.needsHumanReview) = results'.map (·.needsHumanReview)) :
    overallScore env results flags = overallScore env results' flags := by
  have hlen : results.length = results'.length := by
    simpa using congrArg List.length hscore
  have hraw : rawOverall env results flags = rawOverall env results' flags := by
    simp only [rawOverall, hscore, hlen]
  have hany : results.any (·.needsHumanReview) = results'.any (·.needsHumanReview) := by
    have h := congrArg (List.any · id) hreview
    simpa only [List.any_map, Function.comp_def, id] using h
  simp only [overallScore, hraw, hany]

theorem overallNeedsReview_of_mem {env : Env} {results : List ReferenceResult}
    {flags : List CrossReferenceFlag} {r : ReferenceResult} (hr : r ∈ results)
    (h : r.needsHumanReview = true) : (overallScore env results flags).overallNeedsReview = true := by
  have hany : results.any (·.needsHumanReview) = true := List.any_eq_true.mpr ⟨r, hr, h⟩
  simp [overallScore, hany]

theorem overallNeedsReview_of_flags {env : Env} {results : List ReferenceResult}
    {flags : List CrossReferenceFlag} (h : flags ≠ []) :
    (overallScore env results flags).overallNeedsReview = true := by
  simp [overallScore, h]

theorem overallNeedsReview_eq_false_iff (env : Env) (results : List ReferenceResult)
    (flags : List CrossReferenceFlag) :
    (overallScore env results flags).overallNeedsReview = false ↔
      env.overallReviewThreshold ≤ (overallScore env results flags).overallConfidence ∧
        (∀ r ∈ results, r.needsHumanReview = false) ∧ flags = [] := by
  simp [overallScore, and_assoc]

end RefCheck
