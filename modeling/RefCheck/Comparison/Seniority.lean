import RefCheck.Comparison.DiffFacts
import RefCheck.Lib.Text

/-!
# Inflated seniority

A claimed title that has a seniority word against a stated one that has none. `diff_facts` looks for
the words anywhere in the titles, also inside of longer words: the stated title counts as senior as soon
as one of them occurs in it, so the discrepancy is major exactly if none does.
-/

namespace RefCheck

/-- A seniority word is a whole word of the title. -/
def NamesSeniority (chars : Text.WordChars) (py : PyText) (title : String) : Prop :=
  ∃ w ∈ seniorityWords, Text.OccursWhole chars.isWord w.toList (py.lower title).toList

instance (chars : Text.WordChars) (py : PyText) (title : String) :
    Decidable (NamesSeniority chars py title) :=
  inferInstanceAs (Decidable (∃ w ∈ seniorityWords, _))

/-- The claimed title differs from the stated one, and only the claimed one names a seniority. -/
structure InflatesSeniority (chars : Text.WordChars) (py : PyText) (claimed : ClaimedDetails)
    (facts : ExtractedFacts) (title : String) : Prop where
  stated : stated facts.jobTitle = some title
  differs : normalize py title ≠ normalize py claimed.jobTitle
  claimed : NamesSeniority chars py claimed.jobTitle
  not_stated : ¬ NamesSeniority chars py title

theorem isSenior_iff {py : PyText} {title : String} :
    isSenior py title = true ↔ ∃ w ∈ seniorityWords, w.toList <:+: (py.lower title).toList := by
  rw [isSenior, List.any_eq_true]
  simp only [Text.contains, decide_eq_true_eq]

theorem NamesSeniority.isSenior {chars : Text.WordChars} {py : PyText} {title : String}
    (h : NamesSeniority chars py title) : isSenior py title = true := by
  obtain ⟨w, hw, hoccurs⟩ := h
  exact isSenior_iff.mpr ⟨w, hw, hoccurs.isInfix⟩

section inflated

variable {chars : Text.WordChars} {env : Env} {claimed : ClaimedDetails} {facts : ExtractedFacts}
  {title : String}

/-- Of a claimed seniority that is inflated the stated title alone decides the severity. -/
theorem InflatesSeniority.titleSeverity_eq_major_iff
    (h : InflatesSeniority chars env.toPyText claimed facts title) :
    titleSeverity env.toPyText claimed.jobTitle title = .major ↔
      ∀ w ∈ seniorityWords, ¬ w.toList <:+: (env.lower title).toList := by
  have hsenior : isSenior env.toPyText title = true ↔ _ := isSenior_iff
  unfold titleSeverity
  rw [h.claimed.isSenior, Bool.true_and]
  cases hstated : isSenior env.toPyText title with
  | true =>
    obtain ⟨w, hw, hin⟩ := hsenior.mp hstated
    refine iff_of_false nofun fun hnone => hnone w hw hin
  | false =>
    refine iff_of_true rfl fun w hw hin => ?_
    rw [hsenior.mpr ⟨w, hw, hin⟩] at hstated
    cases hstated

theorem eq_of_mem_diffFacts_jobTitle (hstated : stated facts.jobTitle = some title) {d : Discrepancy}
    (hd : d ∈ diffFacts env claimed facts) (hfield : d.field = "job_title") :
    d = ⟨"job_title", claimed.jobTitle, title, titleSeverity env.toPyText claimed.jobTitle title,
      none⟩ := by
  cases (mem_diffFacts_iff env claimed facts d).mp hd with
  | company value hvalue hne => exact absurd hfield (by simp)
  | jobTitle value hvalue hne =>
    obtain rfl := Option.some.inj (hstated.symm.trans hvalue)
    rfl
  | startDate value distance hvalue hapart => exact absurd hfield (by simp)
  | endDate value claimedDate distance hvalue hclaimed hapart => exact absurd hfield (by simp)
  | stillEmployed value hvalue hclaimed => exact absurd hfield (by simp)

theorem needsHumanReview_of_major {ds : List Discrepancy} {d : Discrepancy} (hd : d ∈ ds)
    (hmajor : d.severity = .major) (redFlags : List String) (sentiment : String) :
    (scoreConfidence env ds redFlags sentiment).needsHumanReview = true := by
  rw [← Bool.not_eq_false, needsHumanReview_eq_false_iff]
  rintro ⟨-, hnone, -⟩
  exact hnone d hd hmajor

variable (env) in
/-- **An inflated seniority claim is a major discrepancy exactly if the stated title does not contain a
seniority word, not even inside of another word.** -/
theorem inflated_seniority_major_iff
    (h : InflatesSeniority chars env.toPyText claimed facts title) :
    ((∃ d ∈ diffFacts env claimed facts, d.field = "job_title" ∧ d.severity = .major) ∧
      ∀ redFlags sentiment, (scoreConfidence env (diffFacts env claimed facts) redFlags
        sentiment).needsHumanReview = true) ↔
    ∀ w ∈ seniorityWords, ¬ w.toList <:+: (env.lower title).toList := by
  rw [← h.titleSeverity_eq_major_iff]
  constructor
  · rintro ⟨⟨d, hd, hfield, hmajor⟩, -⟩
    rw [eq_of_mem_diffFacts_jobTitle h.stated hd hfield] at hmajor
    exact hmajor
  · intro hmajor
    have hd := (mem_diffFacts_iff env claimed facts _).mpr (.jobTitle title h.stated h.differs)
    exact ⟨⟨_, hd, rfl, hmajor⟩, needsHumanReview_of_major hd hmajor⟩

end inflated

/-! ### Leadership is no lead -/

/-- A claim of a title. -/
def claimedTitle (jobTitle : String) : ClaimedDetails where
  jobTitle := jobTitle
  company := "Acme Corp"
  startDate := "2021-01"
  endDate := some "2023-06"
  responsibilities := []

/-- The title that a reference states. -/
def statedTitle (jobTitle : String) : ExtractedFacts where
  jobTitle := some jobTitle

theorem inflates_seniorManager : InflatesSeniority .plain .plain (claimedTitle "Senior Manager")
    (statedTitle "Associate") "Associate" :=
  ⟨rfl, by decide, by decide +kernel, by decide +kernel⟩

/-- A stated title of other words is a major discrepancy. -/
theorem inflated_seniority_major :
    InflatesSeniority .plain (Env.shipped .plain).toPyText (claimedTitle "Senior Manager")
      (statedTitle "Associate") "Associate" ∧
    (∃ d ∈ diffFacts (.shipped .plain) (claimedTitle "Senior Manager") (statedTitle "Associate"),
      d.field = "job_title" ∧ d.severity = .major) := by
  refine ⟨inflates_seniorManager, ?_⟩
  have hiff := inflated_seniority_major_iff (.shipped .plain) inflates_seniorManager
  exact (hiff.mpr (by decide +kernel)).1

theorem inflates_leadershipCoach : InflatesSeniority .plain .plain (claimedTitle "Senior Manager")
    (statedTitle "Leadership Coach") "Leadership Coach" :=
  ⟨rfl, by decide, by decide +kernel, by decide +kernel⟩

/-- A stated title with "lead" inside of a word is not: the reference clears. -/
theorem leadership_clears_seniority :
    InflatesSeniority .plain (Env.shipped .plain).toPyText (claimedTitle "Senior Manager")
      (statedTitle "Leadership Coach") "Leadership Coach" ∧
    diffFacts (.shipped .plain) (claimedTitle "Senior Manager") (statedTitle "Leadership Coach") =
      [⟨"job_title", "Senior Manager", "Leadership Coach", .moderate, none⟩] ∧
    scoreConfidence (.shipped .plain) (diffFacts (.shipped .plain) (claimedTitle "Senior Manager")
      (statedTitle "Leadership Coach")) [] "positive" = ⟨85, false⟩ :=
  ⟨inflates_leadershipCoach, by decide +kernel, by decide +kernel⟩

end RefCheck
