import Mathlib.Tactic.Linarith
import RefCheck.Lib.Dict
import RefCheck.Model.Validation

/-!
# The deterministic nodes of a single reference

The methods of `ReferenceCheckNodes` that make no LLM call: `diff_facts`, the note update of
`explain_discrepancies`, `evaluate_yes_no_form`, `has_comments`, `score_confidence` and
`route_review`. Both the graphs and the batch pipeline call them.
-/

namespace RefCheck

open Text (strip digitValue)

/-! ### Dates -/

/-- The month part of `%Y-%m`: `1[0-2]|0[1-9]|[1-9]`. -/
def parseMonth : List Char → Option ℕ
  | ['1', c] => if c = '0' ∨ c = '1' ∨ c = '2' then some (10 + (c.toNat - 48)) else none
  | ['0', c] => if '1' ≤ c ∧ c ≤ '9' then some (c.toNat - 48) else none
  | [c] => if '1' ≤ c ∧ c ≤ '9' then some (c.toNat - 48) else none
  | _ => none

/-- `datetime.strptime(s, "%Y-%m")`, as year and month; the year 0 is out of range. -/
def strptimeYearMonth (s : String) : Option (ℕ × ℕ) :=
  match s.toList with
  | y₁ :: y₂ :: y₃ :: y₄ :: '-' :: month => do
    let a ← digitValue y₁
    let b ← digitValue y₂
    let c ← digitValue y₃
    let d ← digitValue y₄
    let m ← parseMonth month
    let year := 1000 * a + 100 * b + 10 * c + d
    if year = 0 then none else some (year, m)
  | _ => none

/-- `_month_diff`. -/
def monthDiff (a b : String) : Option ℕ := do
  let da ← strptimeYearMonth a
  let db ← strptimeYearMonth b
  some (((da.1 : ℤ) - db.1) * 12 + ((da.2 : ℤ) - db.2)).natAbs

example : monthDiff "2021-01" "2023-06" = some 29 := by decide

/-! ### `diff_facts` -/

/-- A value that is there: neither absent nor empty. -/
def stated (value : Option String) : Option String := value.filter (· ≠ "")

/-- `value.strip().lower()`. -/
def normalize (py : PyText) (value : String) : String := py.lower (strip value)

def seniorityWords : List String := ["senior", "lead", "principal", "manager", "director", "head"]

/-- Whether a title contains a seniority word. -/
def isSenior (py : PyText) (title : String) : Bool :=
  seniorityWords.any fun w => Text.contains w (py.lower title)

def companyDiscrepancies (py : PyText) (claimed : ClaimedDetails) (facts : ExtractedFacts) :
    List Discrepancy :=
  match stated facts.company with
  | none => []
  | some company =>
    if normalize py company ≠ normalize py claimed.company then
      [{ field := "company", claimedValue := claimed.company, statedValue := company
         severity := .major }]
    else []

def jobTitleDiscrepancies (py : PyText) (claimed : ClaimedDetails) (facts : ExtractedFacts) :
    List Discrepancy :=
  match stated facts.jobTitle with
  | none => []
  | some title =>
    if normalize py title ≠ normalize py claimed.jobTitle then
      [{ field := "job_title", claimedValue := claimed.jobTitle, statedValue := title
         severity :=
           if isSenior py claimed.jobTitle && !isSenior py title then .major else .moderate }]
    else []

/-- A stated date against a claimed one; dates that do not parse are only logged. -/
def dateDiscrepancies (env : Env) (field claimedDate statedDate : String) : List Discrepancy :=
  match monthDiff claimedDate statedDate with
  | none => []
  | some diff =>
    if env.minorMonthTolerance < diff then
      [{ field, claimedValue := claimedDate, statedValue := statedDate
         severity := if (diff : ℤ) ≤ env.moderateMonthTolerance then .moderate else .major }]
    else []

def startDateDiscrepancies (env : Env) (claimed : ClaimedDetails) (facts : ExtractedFacts) :
    List Discrepancy :=
  match stated facts.startDate with
  | none => []
  | some date => dateDiscrepancies env "start_date" claimed.startDate date

def endDateDiscrepancies (env : Env) (claimed : ClaimedDetails) (facts : ExtractedFacts) :
    List Discrepancy :=
  match stated facts.endDate with
  | none => []
  | some date =>
    match stated claimed.endDate with
    | some claimedDate => dateDiscrepancies env "end_date" claimedDate date
    | none =>
      [{ field := "end_date", claimedValue := "still employed", statedValue := date
         severity := .major }]

/-- `diff_facts`: the stated facts against the claimed details. -/
def diffFacts (env : Env) (claimed : ClaimedDetails) (facts : ExtractedFacts) : List Discrepancy :=
  companyDiscrepancies env.toPyText claimed facts ++ jobTitleDiscrepancies env.toPyText claimed facts ++
    startDateDiscrepancies env claimed facts ++ endDateDiscrepancies env claimed facts

/-! ### `explain_discrepancies` -/

/-- The note update: each discrepancy takes the last note for its field, if there is one. -/
def applyNotes (notes : DiscrepancyNotes) (discrepancies : List Discrepancy) : List Discrepancy :=
  let notesByField := Dict.ofPairs (notes.notes.map fun n => (n.field, n.note))
  discrepancies.map fun d => { d with note := (notesByField.get? d.field).or d.note }

theorem map_severity_applyNotes (notes : DiscrepancyNotes) (ds : List Discrepancy) :
    (applyNotes notes ds).map (·.severity) = ds.map (·.severity) := by
  simp [applyNotes]

/-! ### The yes/no form -/

structure FormEvaluation where
  discrepancies : List Discrepancy
  redFlags : List String
  sentiment : String

/-- What an answer to a confirmation says against the claim. -/
def answerDiscrepancies (field claimedValue : String) : YesNoAnswer → List Discrepancy
  | .no => [{ field, claimedValue, statedValue := "reference did not confirm", severity := .major }]
  | .unsure => [{ field, claimedValue, statedValue := "reference was unsure", severity := .minor }]
  | .yes => []

def performanceRedFlags : YesNoAnswer → List String
  | .yes => ["Reference indicated performance concerns"]
  | .unsure => ["Reference was unsure about performance concerns"]
  | .no => []

def rehireRedFlags : YesNoAnswer → List String
  | .no => ["Reference would not rehire this candidate"]
  | .unsure => ["Reference was unsure about rehiring this candidate"]
  | .yes => []

/-- `evaluate_yes_no_form`: the answers are the facts. -/
def evaluateYesNoForm (claimed : ClaimedDetails) (form : YesNoReferenceForm) : FormEvaluation where
  discrepancies :=
    answerDiscrepancies "job_title" claimed.jobTitle form.confirmedTitle ++
    answerDiscrepancies "employment_dates"
      (claimed.startDate ++ " - " ++ (stated claimed.endDate).getD "present") form.confirmedDates ++
    answerDiscrepancies "company" claimed.company form.confirmedCompany
  redFlags := performanceRedFlags form.performanceConcerns ++ rehireRedFlags form.wouldRehire
  sentiment := "neutral"

/-- `(form.additional_comments or "").strip()`. -/
def YesNoReferenceForm.strippedComments (form : YesNoReferenceForm) : String :=
  strip (form.additionalComments.getD "")

/-- `has_comments`: whether the comments are read by a model. -/
def YesNoReferenceForm.hasComments (form : YesNoReferenceForm) : Bool :=
  form.strippedComments ≠ ""

/-! ### `score_confidence` and `route_review` -/

structure ScoreResult where
  confidenceScore : ℚ
  needsHumanReview : Bool
  deriving DecidableEq

def clampScore (score : ℚ) : ℚ := max 0 (min 100 score)

theorem clampScore_nonneg (score : ℚ) : 0 ≤ clampScore score := le_max_left _ _

theorem clampScore_le (score : ℚ) : clampScore score ≤ 100 :=
  max_le (by norm_num) (min_le_left _ _)

theorem clampScore_mono : Monotone clampScore := fun _ _ h =>
  max_le_max_left 0 (min_le_min_left 100 h)

theorem clampScore_of_mem {score : ℚ} (hnonneg : 0 ≤ score) (hle : score ≤ 100) :
    clampScore score = score := by
  rw [clampScore, min_eq_right hle, max_eq_right hnonneg]

/-- `score -= SEVERITY_PENALTY[severity]`. -/
def penalize (env : Env) (score : ℚ) (severity : Severity) : ℚ :=
  score - env.severityPenalty severity

/-- The score before it is clamped. -/
def rawScore (env : Env) (discrepancies : List Discrepancy) (redFlags : List String)
    (sentiment : String) : ℚ :=
  discrepancies.foldl (fun score d => penalize env score d.severity) 100
    - env.redFlagPenalty * redFlags.length - env.sentimentPenalty sentiment

/-- `score_confidence`. -/
def scoreConfidence (env : Env) (discrepancies : List Discrepancy) (redFlags : List String)
    (sentiment : String) : ScoreResult :=
  let score := clampScore (rawScore env discrepancies redFlags sentiment)
  let hasMajor := discrepancies.any fun d => d.severity = .major
  { confidenceScore := score
    needsHumanReview := score < env.reviewThreshold || hasMajor || redFlags ≠ [] }

inductive ReviewRoute where
  | flagForHumanReview
  | autoSummarize
  deriving DecidableEq, Repr

/-- `route_review`. -/
def routeReview (needsHumanReview : Bool) : ReviewRoute :=
  if needsHumanReview then .flagForHumanReview else .autoSummarize

/-- A reference is cleared exactly when its score reaches the threshold, no discrepancy is major and
there is no red flag. -/
theorem needsHumanReview_eq_false_iff (env : Env) (ds : List Discrepancy) (rf : List String)
    (s : String) :
    (scoreConfidence env ds rf s).needsHumanReview = false ↔
      env.reviewThreshold ≤ (scoreConfidence env ds rf s).confidenceScore ∧
        (∀ d ∈ ds, d.severity ≠ .major) ∧ rf = [] := by
  simp [scoreConfidence, and_assoc]

theorem foldl_penalize (env : Env) (ds : List Discrepancy) (score : ℚ) :
    ds.foldl (fun score d => penalize env score d.severity) score =
      (ds.map (·.severity)).foldl (penalize env) score := by
  rw [List.foldl_map]

theorem scoreConfidence_congr (env : Env) {ds ds' : List Discrepancy} (rf : List String) (s : String)
    (h : ds.map (·.severity) = ds'.map (·.severity)) :
    scoreConfidence env ds rf s = scoreConfidence env ds' rf s := by
  have hany : ∀ l : List Discrepancy, l.any (fun d => d.severity = .major) =
      (l.map (·.severity)).any (fun s => s = .major) := fun l => by simp [Function.comp_def]
  simp only [scoreConfidence, rawScore, foldl_penalize, hany, h]

@[simp] theorem scoreConfidence_applyNotes (env : Env) (notes : DiscrepancyNotes)
    (ds : List Discrepancy) (rf : List String) (s : String) :
    scoreConfidence env (applyNotes notes ds) rf s = scoreConfidence env ds rf s :=
  scoreConfidence_congr env rf s (map_severity_applyNotes notes ds)

/-- A form that clears has no confirmation answered no, a rehire, no concerns, and nothing was added
to its red flags. -/
theorem evaluateYesNoForm_clear {env : Env} {claimed : ClaimedDetails} {form : YesNoReferenceForm}
    {extra : List String} {s : String}
    (h : (scoreConfidence env (evaluateYesNoForm claimed form).discrepancies
      ((evaluateYesNoForm claimed form).redFlags ++ extra) s).needsHumanReview = false) :
    form.confirmedTitle ≠ .no ∧ form.confirmedDates ≠ .no ∧ form.confirmedCompany ≠ .no ∧
      form.wouldRehire = .yes ∧ form.performanceConcerns = .no ∧ extra = [] := by
  obtain ⟨-, hmajor, hred⟩ := (needsHumanReview_eq_false_iff _ _ _ _).mp h
  simp only [evaluateYesNoForm, List.append_eq_nil_iff] at hmajor hred
  obtain ⟨⟨hperf, hrehire⟩, hextra⟩ := hred
  refine ⟨?_, ?_, ?_, ?_, ?_, hextra⟩
  · intro hno
    exact hmajor _ (by simp [hno, answerDiscrepancies]; exact Or.inl rfl) rfl
  · intro hno
    exact hmajor _ (by simp [hno, answerDiscrepancies]; exact Or.inr (Or.inl rfl)) rfl
  · intro hno
    exact hmajor _ (by simp [hno, answerDiscrepancies]; exact Or.inr (Or.inr rfl)) rfl
  · cases hw : form.wouldRehire <;> simp [hw, rehireRedFlags] at hrehire ⊢
  · cases hp : form.performanceConcerns <;> simp [hp, performanceRedFlags] at hperf ⊢

end RefCheck
