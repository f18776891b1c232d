import RefCheck.Model.ReferenceNodes

/-!
# The specification of `diff_facts`

`Differs` says field by field what a discrepancy between the claimed details and the stated facts
is; `mem_diffFacts_iff` says that `diff_facts` lists exactly these. The dates are compared through
their distance in months.
-/

namespace RefCheck

theorem stated_eq_some_iff {value : Option String} {v : String} :
    stated value = some v ↔ value = some v ∧ v ≠ "" := by
  rw [stated, Option.filter_eq_some_iff, decide_eq_true_eq]

theorem stated_some_of_ne {v : String} (h : v ≠ "") : stated (some v) = some v :=
  stated_eq_some_iff.mpr ⟨rfl, h⟩

/-! ### The distance of two dates -/

/-- The distance in months of two dates, each a year and a month. -/
def monthDistance (a b : ℕ × ℕ) : ℕ :=
  (12 * ((a.1 : ℤ) - b.1) + ((a.2 : ℤ) - b.2)).natAbs

theorem monthDistance_self (a : ℕ × ℕ) : monthDistance a a = 0 := by
  simp [monthDistance]

theorem monthDistance_comm (a b : ℕ × ℕ) : monthDistance a b = monthDistance b a := by
  unfold monthDistance
  omega

theorem monthDistance_triangle (a b c : ℕ × ℕ) :
    monthDistance a c ≤ monthDistance a b + monthDistance b c := by
  unfold monthDistance
  omega

theorem monthDiff_eq_some_iff {a b : String} {n : ℕ} :
    monthDiff a b = some n ↔ ∃ x y, strptimeYearMonth a = some x ∧ strptimeYearMonth b = some y ∧
      n = monthDistance x y := by
  unfold monthDiff
  simp only [Option.bind_eq_bind, Option.bind_eq_some_iff, Option.some.injEq]
  constructor
  · rintro ⟨x, hx, y, hy, rfl⟩
    refine ⟨x, y, hx, hy, ?_⟩
    unfold monthDistance
    omega
  · rintro ⟨x, y, hx, hy, rfl⟩
    refine ⟨x, hx, y, hy, ?_⟩
    unfold monthDistance
    omega

theorem monthDiff_comm (a b : String) : monthDiff a b = monthDiff b a := by
  refine Option.ext fun n => ?_
  rw [monthDiff_eq_some_iff, monthDiff_eq_some_iff]
  constructor
  · rintro ⟨x, y, hx, hy, rfl⟩
    exact ⟨y, x, hy, hx, monthDistance_comm x y⟩
  · rintro ⟨x, y, hx, hy, rfl⟩
    exact ⟨y, x, hy, hx, monthDistance_comm x y⟩

/-! ### What a discrepancy is -/

/-- The severity of dates that lie apart. -/
def dateSeverity (env : Env) (distance : ℕ) : Severity :=
  if (distance : ℤ) ≤ env.moderateMonthTolerance then .moderate else .major

/-- The severity of a title that differs: a claimed seniority that is not stated is major. -/
def titleSeverity (py : PyText) (claimed title : String) : Severity :=
  if isSenior py claimed && !isSenior py title then .major else .moderate

theorem dateSeverity_mono (env : Env) : Monotone (dateSeverity env) := by
  intro m n hmn
  unfold dateSeverity
  split_ifs with hm hn
  · exact le_rfl
  · exact Severity.le_major _
  · omega
  · exact le_rfl

/-- The dates parse and lie further apart than the tolerance. -/
def ApartBy (env : Env) (claimedDate statedDate : String) (distance : ℕ) : Prop :=
  ∃ x y, strptimeYearMonth claimedDate = some x ∧ strptimeYearMonth statedDate = some y ∧
    distance = monthDistance x y ∧ env.minorMonthTolerance < distance

/-- The stated facts differ from the claimed details, and this is the discrepancy. -/
inductive Differs (env : Env) (claimed : ClaimedDetails) (facts : ExtractedFacts) :
    Discrepancy → Prop
  | company (value : String) (hvalue : stated facts.company = some value)
      (hne : normalize env.toPyText value ≠ normalize env.toPyText claimed.company) :
      Differs env claimed facts ⟨"company", claimed.company, value, .major, none⟩
  | jobTitle (value : String) (hvalue : stated facts.jobTitle = some value)
      (hne : normalize env.toPyText value ≠ normalize env.toPyText claimed.jobTitle) :
      Differs env claimed facts ⟨"job_title", claimed.jobTitle, value,
        titleSeverity env.toPyText claimed.jobTitle value, none⟩
  | startDate (value : String) (distance : ℕ) (hvalue : stated facts.startDate = some value)
      (hapart : ApartBy env claimed.startDate value distance) :
      Differs env claimed facts ⟨"start_date", claimed.startDate, value, dateSeverity env distance,
        none⟩
  | endDate (value claimedDate : String) (distance : ℕ) (hvalue : stated facts.endDate = some value)
      (hclaimed : stated claimed.endDate = some claimedDate)
      (hapart : ApartBy env claimedDate value distance) :
      Differs env claimed facts ⟨"end_date", claimedDate, value, dateSeverity env distance, none⟩
  | stillEmployed (value : String) (hvalue : stated facts.endDate = some value)
      (hclaimed : stated claimed.endDate = none) :
      Differs env claimed facts ⟨"end_date", "still employed", value, .major, none⟩

/-! ### The fields, one by one -/

section
variable (env : Env) (claimed : ClaimedDetails) (facts : ExtractedFacts) (d : Discrepancy)

theorem mem_companyDiscrepancies :
    d ∈ companyDiscrepancies env.toPyText claimed facts ↔
      ∃ value, stated facts.company = some value ∧
        normalize env.toPyText value ≠ normalize env.toPyText claimed.company ∧
        d = ⟨"company", claimed.company, value, .major, none⟩ := by
  unfold companyDiscrepancies
  cases stated facts.company with
  | none => simp
  | some value =>
    by_cases h : normalize env.toPyText value = normalize env.toPyText claimed.company <;> simp [h]

theorem mem_jobTitleDiscrepancies :
    d ∈ jobTitleDiscrepancies env.toPyText claimed facts ↔
      ∃ value, stated facts.jobTitle = some value ∧
        normalize env.toPyText value ≠ normalize env.toPyText claimed.jobTitle ∧
        d = ⟨"job_title", claimed.jobTitle, value,
          titleSeverity env.toPyText claimed.jobTitle value, none⟩ := by
  unfold jobTitleDiscrepancies titleSeverity
  cases stated facts.jobTitle with
  | none => simp
  | some value =>
    by_cases h : normalize env.toPyText value = normalize env.toPyText claimed.jobTitle <;> simp [h]

theorem mem_dateDiscrepancies (field claimedDate statedDate : String) :
    d ∈ dateDiscrepancies env field claimedDate statedDate ↔
      ∃ distance, ApartBy env claimedDate statedDate distance ∧
        d = ⟨field, claimedDate, statedDate, dateSeverity env distance, none⟩ := by
  have hapart : ∀ n, ApartBy env claimedDate statedDate n ↔
      monthDiff claimedDate statedDate = some n ∧ env.minorMonthTolerance < n := by
    intro n
    rw [monthDiff_eq_some_iff]
    constructor
    · rintro ⟨x, y, hx, hy, hn, hlt⟩
      exact ⟨⟨x, y, hx, hy, hn⟩, hlt⟩
    · rintro ⟨⟨x, y, hx, hy, hn⟩, hlt⟩
      exact ⟨x, y, hx, hy, hn, hlt⟩
  unfold dateDiscrepancies dateSeverity
  simp only [hapart]
  cases monthDiff claimedDate statedDate with
  | none => simp
  | some n => by_cases h : env.minorMonthTolerance < n <;> simp [h]

theorem mem_startDateDiscrepancies :
    d ∈ startDateDiscrepancies env claimed facts ↔
      ∃ value distance, stated facts.startDate = some value ∧
        ApartBy env claimed.startDate value distance ∧
        d = ⟨"start_date", claimed.startDate, value, dateSeverity env distance, none⟩ := by
  unfold startDateDiscrepancies
  cases stated facts.startDate with
  | none => simp
  | some value =>
    simp only [mem_dateDiscrepancies, Option.some.injEq, exists_and_left, exists_eq_left']

theorem mem_endDateDiscrepancies :
    d ∈ endDateDiscrepancies env claimed facts ↔
      (∃ value claimedDate distance, stated facts.endDate = some value ∧
        stated claimed.endDate = some claimedDate ∧ ApartBy env claimedDate value distance ∧
        d = ⟨"end_date", claimedDate, value, dateSeverity env distance, none⟩) ∨
      ∃ value, stated facts.endDate = some value ∧ stated claimed.endDate = none ∧
        d = ⟨"end_date", "still employed", value, .major, none⟩ := by
  unfold endDateDiscrepancies
  cases stated facts.endDate with
  | none => simp
  | some value =>
    cases stated claimed.endDate with
    | none => simp
    | some claimedDate => simp [mem_dateDiscrepancies]

/-- `diff_facts` lists exactly the discrepancies that there are. -/
theorem mem_diffFacts_iff : d ∈ diffFacts env claimed facts ↔ Differs env claimed facts d := by
  unfold diffFacts
  rw [List.mem_append, List.mem_append, List.mem_append, mem_companyDiscrepancies,
    mem_jobTitleDiscrepancies, mem_startDateDiscrepancies, mem_endDateDiscrepancies]
  constructor
  · rintro (((⟨v, hv, hne, rfl⟩ | ⟨v, hv, hne, rfl⟩) | ⟨v, n, hv, hapart, rfl⟩) |
      (⟨v, c, n, hv, hc, hapart, rfl⟩ | ⟨v, hv, hc, rfl⟩))
    · exact .company v hv hne
    · exact .jobTitle v hv hne
    · exact .startDate v n hv hapart
    · exact .endDate v c n hv hc hapart
    · exact .stillEmployed v hv hc
  · intro h
    cases h with
    | company v hv hne => exact .inl (.inl (.inl ⟨v, hv, hne, rfl⟩))
    | jobTitle v hv hne => exact .inl (.inl (.inr ⟨v, hv, hne, rfl⟩))
    | startDate v n hv hapart => exact .inl (.inr ⟨v, n, hv, hapart, rfl⟩)
    | endDate v c n hv hc hapart => exact .inr (.inl ⟨v, c, n, hv, hc, hapart, rfl⟩)
    | stillEmployed v hv hc => exact .inr (.inr ⟨v, hv, hc, rfl⟩)

end

/-! ### The fields in order -/

section
variable (env : Env) (claimed : ClaimedDetails) (facts : ExtractedFacts)

theorem map_field_ite_sublist {p : Prop} [Decidable p] (d : Discrepancy) :
    ((if p then [d] else []).map (·.field)).Sublist [d.field] := by
  by_cases hp : p
  · rw [if_pos hp]
    exact List.Sublist.refl _
  · rw [if_neg hp]
    exact List.nil_sublist _

theorem map_field_dateDiscrepancies_sublist (field claimedDate statedDate : String) :
    ((dateDiscrepancies env field claimedDate statedDate).map (·.field)).Sublist [field] := by
  unfold dateDiscrepancies
  cases monthDiff claimedDate statedDate with
  | none => exact List.nil_sublist _
  | some n => exact map_field_ite_sublist _

theorem map_field_diffFacts_sublist :
    ((diffFacts env claimed facts).map (·.field)).Sublist
      ["company", "job_title", "start_date", "end_date"] := by
  have hcompany : ((companyDiscrepancies env.toPyText claimed facts).map (·.field)).Sublist
      ["company"] := by
    unfold companyDiscrepancies
    cases stated facts.company with
    | none => exact List.nil_sublist _
    | some value => exact map_field_ite_sublist _
  have htitle : ((jobTitleDiscrepancies env.toPyText claimed facts).map (·.field)).Sublist
      ["job_title"] := by
    unfold jobTitleDiscrepancies
    cases stated facts.jobTitle with
    | none => exact List.nil_sublist _
    | some value => exact map_field_ite_sublist _
  have hstart : ((startDateDiscrepancies env claimed facts).map (·.field)).Sublist
      ["start_date"] := by
    unfold startDateDiscrepancies
    cases stated facts.startDate with
    | none => exact List.nil_sublist _
    | some value => exact map_field_dateDiscrepancies_sublist env _ _ _
  have hend : ((endDateDiscrepancies env claimed facts).map (·.field)).Sublist ["end_date"] := by
    unfold endDateDiscrepancies
    cases stated facts.endDate with
    | none => exact List.nil_sublist _
    | some value =>
      cases stated claimed.endDate with
      | none => exact List.Sublist.refl _
      | some claimedDate => exact map_field_dateDiscrepancies_sublist env _ _ _
  unfold diffFacts
  rw [List.map_append, List.map_append, List.map_append]
  exact ((hcompany.append htitle).append hstart).append hend

end

/-! ### Swapped dates -/

def ClaimedDetails.withDates (claimed : ClaimedDetails) (startDate endDate : String) :
    ClaimedDetails :=
  { claimed with startDate, endDate := some endDate }

def ExtractedFacts.withDates (facts : ExtractedFacts) (startDate endDate : String) :
    ExtractedFacts :=
  { facts with startDate := some startDate, endDate := some endDate }

/-- What a discrepancy is about and how bad it is. -/
def Discrepancy.finding (d : Discrepancy) : String × Severity := (d.field, d.severity)

theorem dateDiscrepancies_swap (env : Env) (field a b : String) :
    (dateDiscrepancies env field a b).map Discrepancy.finding =
      (dateDiscrepancies env field b a).map Discrepancy.finding := by
  unfold dateDiscrepancies
  rw [monthDiff_comm b a]
  cases monthDiff a b with
  | none => rfl
  | some n =>
    dsimp only
    split_ifs <;> rfl

theorem monthDiff_empty_left (b : String) : monthDiff "" b = none := rfl

theorem startDateDiscrepancies_withDates (env : Env) (claimed : ClaimedDetails)
    (facts : ExtractedFacts) (s e s' e' : String) :
    startDateDiscrepancies env (claimed.withDates s e) (facts.withDates s' e') =
      dateDiscrepancies env "start_date" s s' := by
  unfold startDateDiscrepancies ClaimedDetails.withDates ExtractedFacts.withDates
  dsimp only
  by_cases h : s' = ""
  · subst h
    unfold dateDiscrepancies
    rw [monthDiff_comm, monthDiff_empty_left]
    rfl
  · rw [stated_some_of_ne h]

theorem endDateDiscrepancies_withDates (env : Env) (claimed : ClaimedDetails)
    (facts : ExtractedFacts) {e e' : String} (s s' : String) (he : e ≠ "") (he' : e' ≠ "") :
    endDateDiscrepancies env (claimed.withDates s e) (facts.withDates s' e') =
      dateDiscrepancies env "end_date" e e' := by
  unfold endDateDiscrepancies ClaimedDetails.withDates ExtractedFacts.withDates
  dsimp only
  rw [stated_some_of_ne he, stated_some_of_ne he']

/-- Swapping the claimed dates with the stated ones changes no field and no severity. -/
theorem diffFacts_swap (env : Env) (claimed : ClaimedDetails) (facts : ExtractedFacts)
    {e e' : String} (s s' : String) (he : e ≠ "") (he' : e' ≠ "") :
    (diffFacts env (claimed.withDates s e) (facts.withDates s' e')).map Discrepancy.finding =
      (diffFacts env (claimed.withDates s' e') (facts.withDates s e)).map Discrepancy.finding := by
  unfold diffFacts
  simp only [List.map_append, startDateDiscrepancies_withDates,
    endDateDiscrepancies_withDates env claimed facts _ _ he he',
    endDateDiscrepancies_withDates env claimed facts _ _ he' he]
  rw [dateDiscrepancies_swap env "start_date" s s', dateDiscrepancies_swap env "end_date" e e']
  rfl

/-! ### Facts that confirm the claims -/

/-- The facts of a transcript confirm the claims, as far as they state anything. -/
structure TranscriptConsistent (env : Env) (claimed : ClaimedDetails) (facts : ExtractedFacts) :
    Prop where
  company : ∀ company, stated facts.company = some company →
    normalize env.toPyText company = normalize env.toPyText claimed.company
  jobTitle : ∀ title, stated facts.jobTitle = some title →
    normalize env.toPyText title = normalize env.toPyText claimed.jobTitle
  startDate : ∀ date n, stated facts.startDate = some date →
    monthDiff claimed.startDate date = some n → (n : ℤ) ≤ env.minorMonthTolerance
  endDate : ∀ date, stated facts.endDate = some date → ∃ claimedDate,
    stated claimed.endDate = some claimedDate ∧
      ∀ n, monthDiff claimedDate date = some n → (n : ℤ) ≤ env.minorMonthTolerance

theorem diffFacts_of_consistent {env : Env} {claimed : ClaimedDetails} {facts : ExtractedFacts}
    (h : TranscriptConsistent env claimed facts) : diffFacts env claimed facts = [] := by
  have hnear : ∀ {a b : String} {n : ℕ},
      (∀ n, monthDiff a b = some n → (n : ℤ) ≤ env.minorMonthTolerance) → ¬ ApartBy env a b n := by
    rintro a b n hle ⟨x, y, hx, hy, hn, hlt⟩
    have := hle n (monthDiff_eq_some_iff.mpr ⟨x, y, hx, hy, hn⟩)
    omega
  refine List.eq_nil_iff_forall_not_mem.mpr fun d hd => ?_
  cases (mem_diffFacts_iff env claimed facts d).mp hd with
  | company v hv hne => exact hne (h.company v hv)
  | jobTitle v hv hne => exact hne (h.jobTitle v hv)
  | startDate v n hv hapart => exact hnear (fun n hn => h.startDate v n hv hn) hapart
  | endDate v claimedDate n hv hc hapart =>
    obtain ⟨claimedDate', hc', hle⟩ := h.endDate v hv
    cases hc.symm.trans hc'
    exact hnear hle hapart
  | stillEmployed v hv hc =>
    obtain ⟨claimedDate', hc', -⟩ := h.endDate v hv
    cases hc.symm.trans hc'

/-- The stated facts repeat the claimed details, as far as they state anything. -/
structure Repeats (claimed : ClaimedDetails) (facts : ExtractedFacts) : Prop where
  company : ∀ value, stated facts.company = some value → value = claimed.company
  jobTitle : ∀ value, stated facts.jobTitle = some value → value = claimed.jobTitle
  startDate : ∀ value, stated facts.startDate = some value → value = claimed.startDate
  endDate : ∀ value, stated facts.endDate = some value → claimed.endDate = some value

theorem eq_zero_of_monthDiff_self {date : String} {n : ℕ} (h : monthDiff date date = some n) :
    n = 0 := by
  obtain ⟨x, y, hx, hy, rfl⟩ := monthDiff_eq_some_iff.mp h
  cases hx.symm.trans hy
  exact monthDistance_self x

theorem Repeats.consistent {env : Env} {claimed : ClaimedDetails} {facts : ExtractedFacts}
    (hminor : 0 ≤ env.minorMonthTolerance) (h : Repeats claimed facts) :
    TranscriptConsistent env claimed facts where
  company value hvalue := by rw [h.company value hvalue]
  jobTitle value hvalue := by rw [h.jobTitle value hvalue]
  startDate := by
    intro date n hdate hn
    rw [h.startDate date hdate] at hn
    rw [eq_zero_of_monthDiff_self hn]
    exact hminor
  endDate := by
    intro date hdate
    refine ⟨date, ?_, fun n hn => ?_⟩
    · rw [h.endDate date hdate, stated_some_of_ne (stated_eq_some_iff.mp hdate).2]
    · rw [eq_zero_of_monthDiff_self hn]
      exact hminor

theorem diffFacts_of_repeats {env : Env} {claimed : ClaimedDetails} {facts : ExtractedFacts}
    (hminor : 0 ≤ env.minorMonthTolerance) (h : Repeats claimed facts) :
    diffFacts env claimed facts = [] :=
  diffFacts_of_consistent (h.consistent hminor)

/-! ### Notes -/

/-- The last of the notes for a field. -/
def DiscrepancyNotes.lastFor (notes : DiscrepancyNotes) (field : String) : Option String :=
  (notes.notes.filter fun n => n.field = field).getLast?.map (·.note)

theorem get?_notesByField (notes : DiscrepancyNotes) (field : String) :
    (Dict.ofPairs (notes.notes.map fun n => (n.field, n.note))).get? field =
      notes.lastFor field := by
  rw [Dict.get?_ofPairs, List.filter_map, List.getLast?_map, Option.map_map]
  rfl

theorem note_eq_none_of_mem {env : Env} {claimed : ClaimedDetails} {facts : ExtractedFacts}
    {d : Discrepancy} (h : d ∈ diffFacts env claimed facts) : d.note = none := by
  cases (mem_diffFacts_iff env claimed facts d).mp h <;> rfl

/-- The notes for a field end up at the one discrepancy of the field, and change nothing else. -/
theorem applyNotes_diffFacts (env : Env) (claimed : ClaimedDetails) (facts : ExtractedFacts)
    (notes : DiscrepancyNotes) :
    applyNotes notes (diffFacts env claimed facts) =
      (diffFacts env claimed facts).map fun d => { d with note := notes.lastFor d.field } := by
  unfold applyNotes
  refine List.map_congr_left fun d hd => ?_
  rw [note_eq_none_of_mem hd, Option.or_none, get?_notesByField]

/-! ### The whole of it -/

/-- **The specification of `diff_facts`.** It lists what `Differs` says and nothing else, each field
at most once and in order. The severity of a date grows with its distance and does not change when
the dates are swapped; the distance is the number of months between the dates, a pseudometric on the
dates that parse. Facts that repeat the claims differ in nothing, unless the tolerance is negative,
and of the notes the last for each field is attached to the discrepancy of the field. -/
theorem diffFacts_spec (env : Env) (claimed : ClaimedDetails) (facts : ExtractedFacts) :
    (∀ d, d ∈ diffFacts env claimed facts ↔ Differs env claimed facts d) ∧
    ((diffFacts env claimed facts).map (·.field)).Sublist
      ["company", "job_title", "start_date", "end_date"] ∧
    Monotone (dateSeverity env) ∧
    (∀ s e s' e', e ≠ "" → e' ≠ "" →
      (diffFacts env (claimed.withDates s e) (facts.withDates s' e')).map Discrepancy.finding =
        (diffFacts env (claimed.withDates s' e') (facts.withDates s e)).map Discrepancy.finding) ∧
    (∀ a b n, monthDiff a b = some n ↔ ∃ x y, strptimeYearMonth a = some x ∧
      strptimeYearMonth b = some y ∧ n = monthDistance x y) ∧
    ((∀ x, monthDistance x x = 0) ∧ (∀ x y, monthDistance x y = monthDistance y x) ∧
      ∀ x y z, monthDistance x z ≤ monthDistance x y + monthDistance y z) ∧
    (0 ≤ env.minorMonthTolerance → Repeats claimed facts → diffFacts env claimed facts = []) ∧
    (∀ notes, applyNotes notes (diffFacts env claimed facts) =
      (diffFacts env claimed facts).map fun d => { d with note := notes.lastFor d.field }) := by
  refine ⟨mem_diffFacts_iff env claimed facts, map_field_diffFacts_sublist env claimed facts,
    dateSeverity_mono env, ?_, ?_, ?_, diffFacts_of_repeats, applyNotes_diffFacts env claimed facts⟩
  · intro s e s' e' he he'
    exact diffFacts_swap env claimed facts s s' he he'
  · intro a b n
    exact monthDiff_eq_some_iff
  · exact ⟨monthDistance_self, monthDistance_comm, monthDistance_triangle⟩

/-- Below zero the tolerance also reports dates that repeat the claim. -/
theorem diffFacts_repeated_dates :
    ¬ ∀ (env : Env) (claimed : ClaimedDetails) (facts : ExtractedFacts),
      env.minorMonthTolerance ≤ env.moderateMonthTolerance → Repeats claimed facts →
        diffFacts env claimed facts = [] := by
  intro h
  have hrepeats : Repeats ⟨"Engineer", "Acme", "2020-01", none, [], none⟩
      { startDate := some "2020-01" } := by
    refine ⟨?_, ?_, ?_, ?_⟩
    · intro v hv
      cases hv
    · intro v hv
      cases hv
    · intro v hv
      exact (Option.some.inj (stated_eq_some_iff.mp hv).1).symm
    · intro v hv
      cases hv
  have hnil := h { Env.shipped .plain with minorMonthTolerance := -1 } _ _ (by decide) hrepeats
  have hlen := congrArg List.length hnil
  revert hlen
  decide

end RefCheck
