import RefCheck.Model.CandidateNodes

/-!
# Titles and companies that differ

For the job title and for the company `cross_check_references` groups the names of the references by
the value they state, and makes a flag of more than one group. The flag is there exactly when two
references differ, and it names every reference that states a value, once for each
(`crossCheck_fields_exact`); references that state nothing leave no trace.
-/

namespace RefCheck

variable {py : PyText} {results results' : List ReferenceResult}

/-- The fields on which references are compared. -/
inductive CrossField where
  | jobTitle
  | company
  deriving DecidableEq, Repr

namespace CrossField

def name : CrossField → String
  | jobTitle => "job_title"
  | company => "company"

/-- What the facts say about the field. -/
def value : CrossField → ExtractedFacts → Option String
  | jobTitle => (·.jobTitle)
  | company => (·.company)

/-- The severity of a flag on the field. -/
def severity : CrossField → Severity
  | jobTitle => .moderate
  | company => .major

end CrossField

/-- The flags on a field. -/
def flagsOn (py : PyText) (field : CrossField) (results : List ReferenceResult) :
    List CrossReferenceFlag :=
  (crossCheckReferences py results).filter fun f => f.field = field.name

/-- Only the comparison of a field makes flags on it. -/
theorem flagsOn_eq (py : PyText) (field : CrossField) (results : List ReferenceResult) :
    flagsOn py field results = fieldFlags py field.name field.value results := by
  have hself : ∀ name value, (fieldFlags py name value results).filter (fun f => f.field = name) =
      fieldFlags py name value results := fun name value =>
    List.filter_eq_self.mpr fun f hf => decide_eq_true (field_of_mem_fieldFlags hf)
  have hother : ∀ name value (other : String), name ≠ other →
      (fieldFlags py name value results).filter (fun f => f.field = other) = [] := by
    intro name value other hne
    refine List.filter_eq_nil_iff.mpr fun f hf => ?_
    rw [field_of_mem_fieldFlags hf]
    simpa using hne
  have hrating : ∀ other : String, "performance_rating" ≠ other →
      (performanceFlags results).filter (fun f => f.field = other) = [] := by
    intro other hne
    refine List.filter_eq_nil_iff.mpr fun f hf => ?_
    rw [field_of_mem_performanceFlags hf]
    simpa using hne
  unfold flagsOn crossCheckReferences
  rw [List.filter_append, List.filter_append]
  cases field with
  | jobTitle =>
    show (fieldFlags py "job_title" (·.jobTitle) results).filter (fun f => f.field = "job_title") ++
      (fieldFlags py "company" (·.company) results).filter (fun f => f.field = "job_title") ++
      (performanceFlags results).filter (fun f => f.field = "job_title") =
        fieldFlags py "job_title" (·.jobTitle) results
    rw [hself, hother _ _ _ (by decide), hrating _ (by decide), List.append_nil, List.append_nil]
  | company =>
    show (fieldFlags py "job_title" (·.jobTitle) results).filter (fun f => f.field = "company") ++
      (fieldFlags py "company" (·.company) results).filter (fun f => f.field = "company") ++
      (performanceFlags results).filter (fun f => f.field = "company") =
        fieldFlags py "company" (·.company) results
    rw [hself, hother _ _ _ (by decide), hrating _ (by decide), List.append_nil, List.nil_append]

/-! ### Who is involved -/

/-- The names of the results that state a value for the field, one for each result. -/
def namesStating (field : CrossField) (results : List ReferenceResult) : List String :=
  (results.filter fun r => (stated (field.value r.extractedFacts)).isSome).map (·.referenceName)

theorem map_snd_statedPairs (py : PyText) (field : CrossField) (results : List ReferenceResult) :
    (statedPairs py field.value results).map Prod.snd = namesStating field results := by
  unfold statedPairs namesStating
  induction results with
  | nil => rfl
  | cons r results ih =>
    cases h : stated (field.value r.extractedFacts) with
    | none =>
      rw [List.filterMap_cons_none (by rw [h]; rfl), List.filter_cons_of_neg (by simp [h]), ih]
    | some v =>
      rw [List.filterMap_cons_some (b := (normalize py v, r.referenceName)) (by rw [h]; rfl),
        List.filter_cons_of_pos (by simp [h]), List.map_cons, List.map_cons, ih]

theorem flagsOn_of_statesDiffer {field : CrossField}
    (h : StatesDiffer py field.value (results.map (·.testimony))) :
    ∃ f, flagsOn py field results = [f] ∧ f.field = field.name ∧ f.severity = field.severity ∧
      f.involvedReferences.Perm (namesStating field results) := by
  have hlen : (Dict.group (statedPairs py field.value results)).entries.length > 1 := by
    by_contra hle
    refine (fieldFlags_ne_nil_iff py field.name field.value results).mpr h ?_
    unfold fieldFlags
    rw [if_neg hle]
  rw [flagsOn_eq, fieldFlags, if_pos hlen]
  refine ⟨_, rfl, rfl, ?_, ?_⟩
  · cases field <;> rfl
  · rw [← map_snd_statedPairs py]
    exact Dict.flatten_values_group_perm _

theorem flagsOn_of_not_statesDiffer {field : CrossField}
    (h : ¬ StatesDiffer py field.value (results.map (·.testimony))) :
    flagsOn py field results = [] := by
  rw [flagsOn_eq]
  by_contra hne
  exact h ((fieldFlags_ne_nil_iff py field.name field.value results).mp hne)

/-! ### Empty facts, and the order of the references -/

theorem filterMap_filter_facts {B : Type} {f : ReferenceResult → Option B}
    (h : ∀ r, r.extractedFacts = {} → f r = none) (results : List ReferenceResult) :
    (results.filter fun r => r.extractedFacts ≠ {}).filterMap f = results.filterMap f := by
  rw [List.filterMap_filter]
  refine congrArg (List.filterMap · results) (funext fun r => ?_)
  by_cases hr : r.extractedFacts = {}
  · simp [hr, h r hr]
  · simp [hr]

theorem crossCheckReferences_filter (py : PyText) (results : List ReferenceResult) :
    crossCheckReferences py (results.filter fun r => r.extractedFacts ≠ {}) =
      crossCheckReferences py results := by
  have hpairs : ∀ field : CrossField,
      statedPairs py field.value (results.filter fun r => r.extractedFacts ≠ {}) =
        statedPairs py field.value results := by
    intro field
    refine filterMap_filter_facts (fun r hr => ?_) results
    rw [hr]
    cases field <;> rfl
  have hratings : performanceByRef (results.filter fun r => r.extractedFacts ≠ {}) =
      performanceByRef results := by
    unfold performanceByRef
    rw [filterMap_filter_facts (fun r hr => by rw [hr]; rfl)]
  have htitle := hpairs .jobTitle
  have hcompany := hpairs .company
  simp only [CrossField.value] at htitle hcompany
  simp only [crossCheckReferences, fieldFlags, performanceFlags, htitle, hcompany, hratings]

/-- Flags that say the same, up to the order of the names and the wording. -/
structure CrossReferenceFlag.SameUpToOrder (f f' : CrossReferenceFlag) : Prop where
  field : f.field = f'.field
  severity : f.severity = f'.severity
  involvedReferences : f.involvedReferences.Perm f'.involvedReferences

theorem StatesDiffer.perm {value : ExtractedFacts → Option String} (hperm : results.Perm results')
    (h : StatesDiffer py value (results.map (·.testimony))) :
    StatesDiffer py value (results'.map (·.testimony)) := by
  obtain ⟨t, ht, t', ht', hvalues⟩ := h
  exact ⟨t, (hperm.map _).mem_iff.mp ht, t', (hperm.map _).mem_iff.mp ht', hvalues⟩

theorem flagsOn_perm {field : CrossField} (hperm : results.Perm results') :
    List.Forall₂ CrossReferenceFlag.SameUpToOrder (flagsOn py field results)
      (flagsOn py field results') := by
  by_cases h : StatesDiffer py field.value (results.map (·.testimony))
  · obtain ⟨f, hf, hfield, hseverity, hnames⟩ := flagsOn_of_statesDiffer h
    obtain ⟨f', hf', hfield', hseverity', hnames'⟩ := flagsOn_of_statesDiffer (h.perm hperm)
    have hstating : (namesStating field results).Perm (namesStating field results') :=
      (hperm.filter _).map _
    rw [hf, hf']
    refine List.Forall₂.cons ⟨?_, ?_, ?_⟩ List.Forall₂.nil
    · rw [hfield, hfield']
    · rw [hseverity, hseverity']
    · exact (hnames.trans hstating).trans hnames'.symm
  · rw [flagsOn_of_not_statesDiffer h,
      flagsOn_of_not_statesDiffer fun h' => h (h'.perm hperm.symm)]
    exact List.Forall₂.nil

/-- **The cross-check of titles and companies is exact.** There is one flag on a field if two results
state values that differ, of the severity of the field and with the names of all results that state a
value, each as often as it does; otherwise there is none. Results with empty facts change no flag,
wherever they stand, and the order of the results changes only the order of the names. -/
theorem crossCheck_fields_exact (py : PyText) (field : CrossField) (results : List ReferenceResult) :
    (StatesDiffer py field.value (results.map (·.testimony)) →
      ∃ f, flagsOn py field results = [f] ∧ f.field = field.name ∧ f.severity = field.severity ∧
        f.involvedReferences.Perm (namesStating field results)) ∧
    (¬ StatesDiffer py field.value (results.map (·.testimony)) → flagsOn py field results = []) ∧
    (∀ results', (results.filter fun r => r.extractedFacts ≠ {}) =
        (results'.filter fun r => r.extractedFacts ≠ {}) →
      crossCheckReferences py results' = crossCheckReferences py results) ∧
    (∀ results', results.Perm results' →
      List.Forall₂ CrossReferenceFlag.SameUpToOrder (flagsOn py field results)
        (flagsOn py field results')) := by
  refine ⟨flagsOn_of_statesDiffer, flagsOn_of_not_statesDiffer, fun results' h => ?_,
    fun results' => flagsOn_perm⟩
  rw [← crossCheckReferences_filter py results', ← h, crossCheckReferences_filter]

end RefCheck
