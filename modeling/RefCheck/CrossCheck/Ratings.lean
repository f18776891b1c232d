import RefCheck.Model.CandidateNodes

/-!
# Conflicting performance ratings

`cross_check_references` keeps the ratings by the name of the reference, and of two references with
one name only the later rating stays. A conflict is caught exactly when both sides of it stay
(`ratingsCaught_iff`), as they do when no two rated references have the same name.
-/

namespace RefCheck

/-- The rating that a reference gave. -/
def ReferenceResult.rating (r : ReferenceResult) : Option PerformanceRating :=
  r.extractedFacts.performanceRating

variable {results : List ReferenceResult}

/-! ### The rating that stays -/

/-- A rating given under a name, and no other under that name after it. -/
def LastRating (results : List ReferenceResult) (name : String) (rating : PerformanceRating) :
    Prop :=
  ∃ pre r post, results = pre ++ r :: post ∧ r.referenceName = name ∧ r.rating = some rating ∧
    ∀ r' ∈ post, r'.referenceName = name → r'.rating = none

theorem lastRating_append_singleton {r : ReferenceResult} {name : String}
    {rating : PerformanceRating} :
    LastRating (results ++ [r]) name rating ↔
      (r.referenceName = name ∧ r.rating = some rating) ∨
        ((r.referenceName = name → r.rating = none) ∧ LastRating results name rating) := by
  constructor
  · rintro ⟨pre, x, post, heq, hname, hrating, hlater⟩
    rcases List.eq_nil_or_concat post with rfl | ⟨post, y, rfl⟩
    · obtain ⟨-, hx⟩ := List.append_inj' heq rfl
      cases hx
      exact Or.inl ⟨hname, hrating⟩
    · rw [List.concat_eq_append] at heq hlater
      rw [← List.cons_append, ← List.append_assoc] at heq
      obtain ⟨hresults, hy⟩ := List.append_inj' heq rfl
      cases hy
      refine Or.inr ⟨hlater r (by simp), pre, x, post, hresults, hname, hrating, ?_⟩
      exact fun r' hr' => hlater r' (List.mem_append_left _ hr')
  · rintro (⟨hname, hrating⟩ | ⟨hr, pre, x, post, rfl, hname, hrating, hlater⟩)
    · exact ⟨results, r, [], rfl, hname, hrating, by simp⟩
    · refine ⟨pre, x, post ++ [r], by simp, hname, hrating, fun r' hr' => ?_⟩
      rcases List.mem_append.mp hr' with hr' | hr'
      · exact hlater r' hr'
      · rw [List.mem_singleton] at hr'
        rw [hr']
        exact hr

theorem performanceByRef_append (results : List ReferenceResult) (r : ReferenceResult) :
    performanceByRef (results ++ [r]) = match r.rating with
      | none => performanceByRef results
      | some rating => (performanceByRef results).set r.referenceName rating := by
  unfold performanceByRef ReferenceResult.rating
  rw [List.filterMap_append]
  cases h : r.extractedFacts.performanceRating with
  | none => simp [h]
  | some rating => simp [h, Dict.ofPairs]

/-- What the dictionary holds under a name is the last rating given under it. -/
theorem get?_performanceByRef_iff {name : String} {rating : PerformanceRating} :
    (performanceByRef results).get? name = some rating ↔ LastRating results name rating := by
  induction results using List.reverseRecOn with
  | nil =>
    refine iff_of_false (fun h => by cases h) ?_
    rintro ⟨pre, r, post, h, -⟩
    simp at h
  | append_singleton results r ih =>
    rw [performanceByRef_append, lastRating_append_singleton, ← ih]
    cases hr : r.rating with
    | none => simp
    | some rating' =>
      dsimp only
      rw [Dict.get?_set]
      by_cases hname : name = r.referenceName
      · simp [hname]
      · simp [hname, Ne.symm hname]

theorem mem_values_performanceByRef {rating : PerformanceRating} :
    rating ∈ (performanceByRef results).values ↔ ∃ name, LastRating results name rating := by
  rw [Dict.mem_values_iff]
  simp only [get?_performanceByRef_iff]

theorem mem_keys_performanceByRef {name : String} :
    name ∈ (performanceByRef results).keys ↔
      ∃ r ∈ results, r.referenceName = name ∧ r.rating ≠ none := by
  unfold performanceByRef
  rw [Dict.mem_keys_ofPairs, List.map_filterMap, List.mem_filterMap]
  refine exists_congr fun r => and_congr_right fun _ => ?_
  unfold ReferenceResult.rating
  cases r.extractedFacts.performanceRating <;> simp

/-! ### The flag of the ratings -/

/-- Some reference rates the candidate strong and some weak. -/
def RatingsConflict (results : List ReferenceResult) : Prop :=
  (∃ r ∈ results, r.rating = some .strong) ∧ ∃ r ∈ results, r.rating = some .weak

/-- The flags on the ratings. -/
def ratingFlags (py : PyText) (results : List ReferenceResult) : List CrossReferenceFlag :=
  (crossCheckReferences py results).filter fun f => f.field = "performance_rating"

theorem ratingFlags_eq (py : PyText) (results : List ReferenceResult) :
    ratingFlags py results = performanceFlags results := by
  have hother : ∀ name (field : ExtractedFacts → Option String), name ≠ "performance_rating" →
      (fieldFlags py name field results).filter (fun f => f.field = "performance_rating") = [] := by
    intro name field hname
    refine List.filter_eq_nil_iff.mpr fun f hf => ?_
    rw [field_of_mem_fieldFlags hf]
    simpa using hname
  unfold ratingFlags crossCheckReferences
  rw [List.filter_append, List.filter_append, hother _ _ (by decide), hother _ _ (by decide),
    List.append_nil, List.nil_append, List.filter_eq_self]
  intro f hf
  exact decide_eq_true (field_of_mem_performanceFlags hf)

/-- A conflict of ratings makes one flag, a major one that names every reference with a rating, and
leaves the candidate to a reviewer; without a conflict there is no flag. -/
structure RatingsCaught (env : Env) (results : List ReferenceResult) : Prop where
  caught : RatingsConflict results → ∃ f, ratingFlags env.toPyText results = [f] ∧
    f.severity = .major ∧
    (∀ r ∈ results, r.rating ≠ none → r.referenceName ∈ f.involvedReferences) ∧
    ∃ score, scoreOverall env results (crossCheckReferences env.toPyText results) = .ok score ∧
      score.overallNeedsReview = true
  quiet : ¬ RatingsConflict results → ratingFlags env.toPyText results = []

/-- If some reference rates strong and some weak, both ratings are the last under some name. -/
def RatingsKept (results : List ReferenceResult) : Prop :=
  RatingsConflict results →
    (∃ name, LastRating results name .strong) ∧ ∃ name, LastRating results name .weak

theorem exists_of_lastRating {name : String} {rating : PerformanceRating}
    (h : LastRating results name rating) : ∃ r ∈ results, r.rating = some rating := by
  obtain ⟨pre, r, post, rfl, -, hrating, -⟩ := h
  exact ⟨r, by simp, hrating⟩

theorem performanceFlags_of_not_conflict (h : ¬ RatingsConflict results) :
    performanceFlags results = [] := by
  unfold performanceFlags
  dsimp only
  refine if_neg fun hboth => h ⟨?_, ?_⟩
  · obtain ⟨name, hlast⟩ := mem_values_performanceByRef.mp hboth.1
    exact exists_of_lastRating hlast
  · obtain ⟨name, hlast⟩ := mem_values_performanceByRef.mp hboth.2
    exact exists_of_lastRating hlast

theorem ratingsKept_of_nodup (h : (results.map (·.referenceName)).Nodup) : RatingsKept results := by
  have hlast : ∀ rating, (∃ r ∈ results, r.rating = some rating) →
      ∃ name, LastRating results name rating := by
    rintro rating ⟨r, hr, hrating⟩
    obtain ⟨pre, post, rfl⟩ := List.append_of_mem hr
    refine ⟨r.referenceName, pre, r, post, rfl, rfl, hrating, fun r' hr' hname => ?_⟩
    rw [List.map_append, List.map_cons] at h
    have hnot := (List.nodup_cons.mp (List.nodup_append.mp h).2.1).1
    exact absurd (List.mem_map.mpr ⟨r', hr', hname⟩) hnot
  rintro ⟨hstrong, hweak⟩
  exact ⟨hlast _ hstrong, hlast _ hweak⟩

/-- **When conflicting ratings are caught**: exactly when both sides of the conflict are kept. -/
theorem ratingsCaught_iff (env : Env) (results : List ReferenceResult) :
    RatingsCaught env results ↔ RatingsKept results := by
  constructor
  · intro hcaught hconflict
    obtain ⟨f, hf, -⟩ := hcaught.caught hconflict
    rw [ratingFlags_eq] at hf
    unfold performanceFlags at hf
    dsimp only at hf
    split_ifs at hf with hboth
    exact ⟨mem_values_performanceByRef.mp hboth.1, mem_values_performanceByRef.mp hboth.2⟩
  · intro hkept
    refine ⟨fun hconflict => ?_, fun hquiet => ?_⟩
    · obtain ⟨hstrong, hweak⟩ := hkept hconflict
      have hboth : PerformanceRating.strong ∈ (performanceByRef results).values ∧
          PerformanceRating.weak ∈ (performanceByRef results).values :=
        ⟨mem_values_performanceByRef.mpr hstrong, mem_values_performanceByRef.mpr hweak⟩
      have hflags : ratingFlags env.toPyText results = performanceFlags results :=
        ratingFlags_eq env.toPyText results
      unfold performanceFlags at hflags
      dsimp only at hflags
      rw [if_pos hboth] at hflags
      refine ⟨_, hflags, rfl, fun r hr hrating => ?_, ?_⟩
      · exact mem_keys_performanceByRef.mpr ⟨r, hr, rfl, hrating⟩
      · obtain ⟨⟨r, hr, -⟩, -⟩ := hconflict
        have hne : crossCheckReferences env.toPyText results ≠ [] := by
          intro hnil
          unfold ratingFlags at hflags
          rw [hnil] at hflags
          cases hflags
        exact ⟨_, scoreOverall_of_ne_nil (List.ne_nil_of_mem hr) _, overallNeedsReview_of_flags hne⟩
    · rw [ratingFlags_eq]
      exact performanceFlags_of_not_conflict hquiet

/-- A clean result that rates the candidate. -/
def ratedResult (name : String) (rating : PerformanceRating) : ReferenceResult where
  referenceName := name
  relationship := "Manager"
  extractedFacts := { performanceRating := some rating }
  discrepancies := []
  sentiment := "positive"
  redFlags := []
  confidenceScore := 100
  needsHumanReview := false
  referenceSummary := "Fine."

/-- Two references of one name, the first strong and the second weak: nothing is flagged, and the
candidate is cleared. -/
theorem ratings_of_one_name_lost :
    crossCheckReferences (Env.shipped .plain).toPyText
      [ratedResult "Sam" .strong, ratedResult "Sam" .weak] = [] ∧
    scoreOverall (.shipped .plain) [ratedResult "Sam" .strong, ratedResult "Sam" .weak] [] =
      .ok ⟨100, false⟩ ∧
    ¬ RatingsCaught (.shipped .plain) [ratedResult "Sam" .strong, ratedResult "Sam" .weak] := by
  have hnil : crossCheckReferences (Env.shipped .plain).toPyText
      [ratedResult "Sam" .strong, ratedResult "Sam" .weak] = [] := by decide +kernel
  refine ⟨hnil, by decide +kernel, fun hcaught => ?_⟩
  obtain ⟨f, hf, -⟩ := hcaught.caught
    ⟨⟨ratedResult "Sam" .strong, by simp, rfl⟩, ⟨ratedResult "Sam" .weak, by simp, rfl⟩⟩
  unfold ratingFlags at hf
  rw [hnil] at hf
  cases hf

end RefCheck
