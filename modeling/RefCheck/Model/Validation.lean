import RefCheck.Lib.Loop
import RefCheck.Lib.Text
import RefCheck.Model.Env

/-!
# Input validation

`validateShape` is `ReferenceInput.validate_shape`, `validateRawInput` is `validate_raw_input` of
`validation.py`; the injection patterns there only write a log line. `validateReference` is the body
of the `try` in phase 0 of the batch pipeline: the shape, then the length bounds of a transcript.
-/

namespace RefCheck

open Text (strip)

/-- `ref.validate_shape()`: each type has its own input. -/
def ReferenceInput.validateShape (py : PyText) (ref : ReferenceInput) : Except PyException Unit :=
  if ref.type = .REF1 ∧ ref.rawInput.getD "" = "" then
    .error (.valueError ("type='REF1' requires raw_input (reference: " ++ py.reprStr ref.referenceName
      ++ ")"))
  else if ref.type = .REF2 ∧ ref.yesNoForm = none then
    .error (.valueError ("type='REF2' requires yes_no_form (reference: "
      ++ py.reprStr ref.referenceName ++ ")"))
  else .ok ()

/-- What the messages of `validate_raw_input` say about the context. -/
def forContext (context : String) : String := if context = "" then "" else " for " ++ context

/-- `validate_raw_input(raw_input, context=…)`; an absent transcript is as bad as an empty one. -/
def validateRawInput (env : Env) (rawInput : Option String) (context : String) :
    Except PyException Unit :=
  let raw := rawInput.getD ""
  if raw = "" ∨ ((strip raw).length : ℤ) < env.minRawInputChars then
    .error (.validationError ("raw_input is too short (min " ++ toString env.minRawInputChars
      ++ " chars)" ++ forContext context ++ "."))
  else if env.maxRawInputChars < (raw.length : ℤ) then
    .error (.validationError ("raw_input exceeds max length (" ++ toString env.maxRawInputChars
      ++ " chars)" ++ forContext context ++ ". Truncate or split it upstream."))
  else .ok ()

/-- Phase 0 of the batch pipeline on one reference. -/
def validateReference (env : Env) (candidateName : String) (ref : ReferenceInput) :
    Except PyException Unit := do
  ref.validateShape env.toPyText
  if ref.type = .REF1 then
    validateRawInput env ref.rawInput (candidateName ++ "/" ++ ref.referenceName)

/-- An HTTP error response. -/
structure HTTPException where
  statusCode : ℕ
  detail : String
  deriving DecidableEq, Repr

/-- The checks of `submit_check` before a check is queued. -/
def submitCheck (py : PyText) (request : CandidateBatchInput) : Except HTTPException Unit :=
  if request.references = [] then .error ⟨400, "At least one reference is required."⟩
  else forM request.references fun ref => (ref.validateShape py).mapError fun e => ⟨400, e.str⟩

/-! ### What validation decides -/

/-- A transcript within the length bounds. -/
def RawInputOk (env : Env) (rawInput : Option String) : Prop :=
  rawInput.getD "" ≠ "" ∧ env.minRawInputChars ≤ ((strip (rawInput.getD "")).length : ℤ) ∧
    ((rawInput.getD "").length : ℤ) ≤ env.maxRawInputChars

instance (env : Env) (rawInput : Option String) : Decidable (RawInputOk env rawInput) :=
  inferInstanceAs (Decidable (_ ∧ _ ∧ _))

/-- A reference that both paths process: a transcript within the bounds, or a form. -/
def ReferenceInput.Valid (env : Env) (ref : ReferenceInput) : Prop :=
  match ref.type with
  | .REF1 => RawInputOk env ref.rawInput
  | .REF2 => ref.yesNoForm ≠ none

instance (env : Env) (ref : ReferenceInput) : Decidable (ref.Valid env) := by
  unfold ReferenceInput.Valid
  exact match ref.type with
  | .REF1 => inferInstanceAs (Decidable (RawInputOk env ref.rawInput))
  | .REF2 => inferInstanceAs (Decidable (ref.yesNoForm ≠ none))

theorem valid_iff_of_transcript {env : Env} {ref : ReferenceInput} (htype : ref.type = .REF1) :
    ref.Valid env ↔ RawInputOk env ref.rawInput := by
  unfold ReferenceInput.Valid
  rw [htype]

theorem valid_iff_of_form {env : Env} {ref : ReferenceInput} (htype : ref.type = .REF2) :
    ref.Valid env ↔ ∃ form, ref.yesNoForm = some form := by
  unfold ReferenceInput.Valid
  rw [htype]
  exact Option.ne_none_iff_exists'

theorem yesNoForm_of_not_valid {env : Env} {ref : ReferenceInput} (htype : ref.type = .REF2)
    (h : ¬ ref.Valid env) : ref.yesNoForm = none := by
  by_contra hform
  exact h ((valid_iff_of_form htype).mpr (Option.ne_none_iff_exists'.mp hform))

theorem validateRawInput_ok_iff (env : Env) (rawInput : Option String) (context : String) :
    validateRawInput env rawInput context = .ok () ↔ RawInputOk env rawInput := by
  unfold validateRawInput RawInputOk
  dsimp only
  split_ifs with hshort hlong
  · simp only [false_iff]
    rintro ⟨hne, hmin, -⟩
    rcases hshort with h | h
    · exact hne h
    · omega
  · simp only [false_iff]
    rintro ⟨-, -, hmax⟩
    omega
  · rw [not_or] at hshort
    simp only [true_iff]
    exact ⟨hshort.1, by omega, by omega⟩

theorem validateReference_ok_iff (env : Env) (candidateName : String) (ref : ReferenceInput) :
    validateReference env candidateName ref = .ok () ↔ ref.Valid env := by
  unfold validateReference ReferenceInput.validateShape ReferenceInput.Valid
  cases htype : ref.type with
  | REF1 =>
    by_cases hraw : ref.rawInput.getD "" = ""
    · simp [hraw, RawInputOk, bind, Except.bind]
    · simp only [hraw, and_false, ite_false, reduceCtorEq, false_and, ite_true]
      exact validateRawInput_ok_iff env _ _
  | REF2 =>
    by_cases hform : ref.yesNoForm = none
    · simp [hform, bind, Except.bind]
    · simp only [hform, reduceCtorEq, false_and, and_false, ite_false, ne_eq, not_false_eq_true,
        iff_true]
      rfl

theorem isValueError_of_validateShape {py : PyText} {ref : ReferenceInput} {e : PyException}
    (h : ref.validateShape py = .error e) : e.isValueError = true := by
  unfold ReferenceInput.validateShape at h
  split_ifs at h <;> cases h <;> rfl

theorem isValueError_of_validateRawInput {env : Env} {rawInput : Option String} {context : String}
    {e : PyException} (h : validateRawInput env rawInput context = .error e) :
    e.isValueError = true := by
  unfold validateRawInput at h
  dsimp only at h
  split_ifs at h <;> cases h <;> rfl

/-- Validation raises only what phase 0 catches. -/
theorem isValueError_of_validateReference {env : Env} {candidateName : String} {ref : ReferenceInput}
    {e : PyException} (h : validateReference env candidateName ref = .error e) :
    e.isValueError = true := by
  rcases Except.bind_eq_error.mp h with hshape | ⟨_, -, hraw⟩
  · exact isValueError_of_validateShape hshape
  · split_ifs at hraw
    · exact isValueError_of_validateRawInput hraw
    · cases hraw

theorem validateShape_ok_iff (py : PyText) (ref : ReferenceInput) :
    ref.validateShape py = .ok () ↔
      (ref.type = .REF1 → ref.rawInput.getD "" ≠ "") ∧ (ref.type = .REF2 → ref.yesNoForm ≠ none) := by
  unfold ReferenceInput.validateShape
  split_ifs with hraw hform
  · simp only [false_iff]
    exact fun h => h.1 hraw.1 hraw.2
  · simp only [false_iff]
    exact fun h => h.2 hform.1 hform.2
  · simp only [true_iff]
    exact ⟨fun ht hr => hraw ⟨ht, hr⟩, fun ht hf => hform ⟨ht, hf⟩⟩

/-- A request is accepted exactly when it has a reference and every reference has its input. -/
theorem submitCheck_ok_iff (py : PyText) (request : CandidateBatchInput) :
    submitCheck py request = .ok () ↔
      request.references ≠ [] ∧ ∀ ref ∈ request.references, ref.validateShape py = .ok () := by
  have hmap : ∀ ref : ReferenceInput,
      ((ref.validateShape py).mapError fun e => HTTPException.mk 400 e.str) = .ok () ↔
        ref.validateShape py = .ok () := by
    intro ref
    cases ref.validateShape py <;> simp [Except.mapError]
  unfold submitCheck
  split_ifs with h
  · simp [h]
  · simp only [Loop.forM_eq_ok_iff, hmap, ne_eq, h, not_false_eq_true, true_and]

end RefCheck
