import RefCheck.Lib.JsonCodec
import RefCheck.Service.Encoding
import RefCheck.Service.Runner

/-!
# The entries of the page

The two forms of `streamlit_app.py`, what the page makes of them, and the payload that it posts.
`CandidateCheckRequest.read?` reads a JSON object as the request model describes it: a field that the
object lacks has its default, and other members are ignored. A payload that is put together from complete
forms is read as the request that they describe (`read_payload`), which the API accepts
(`submitCheck_request`).
-/

namespace RefCheck

open JsonCodec
open Text (strip)

/-! ### Reading a request -/

namespace Json

def readStr? : Json → Option String
  | str value => some value
  | _ => none

/-- `Optional[str]`. -/
def readOptStr? : Json → Option (Option String)
  | null => some none
  | str value => some (some value)
  | _ => none

/-- `list[A]`. -/
def readList? {A : Type} (read : Json → Option A) : Json → Option (List A)
  | arr items => items.mapM read
  | _ => none

/-- A field of an object, with the default that it has if it is not required. -/
def field? {A : Type} (json : Json) (key : String) (read : Json → Option A)
    (default : Option A := none) : Option A :=
  match json.get? key with
  | some value => read value
  | none => default

end Json

open Json (readStr? readOptStr? readList?)

def ClaimedDetails.read? (json : Json) : Option ClaimedDetails := do
  let jobTitle ← json.field? "job_title" readStr?
  let company ← json.field? "company" readStr?
  let startDate ← json.field? "start_date" readStr?
  let endDate ← json.field? "end_date" readOptStr? (some none)
  let responsibilities ← json.field? "responsibilities" (readList? readStr?) (some [])
  let reasonForLeaving ← json.field? "reason_for_leaving" readOptStr? (some none)
  return { jobTitle, company, startDate, endDate, responsibilities, reasonForLeaving }

def YesNoAnswer.read? : Json → Option YesNoAnswer
  | .str "yes" => some yes
  | .str "no" => some no
  | .str "unsure" => some unsure
  | _ => none

def YesNoReferenceForm.read? (json : Json) : Option YesNoReferenceForm := do
  let confirmedTitle ← json.field? "confirmed_title" YesNoAnswer.read?
  let confirmedDates ← json.field? "confirmed_dates" YesNoAnswer.read?
  let confirmedCompany ← json.field? "confirmed_company" YesNoAnswer.read?
  let wouldRehire ← json.field? "would_rehire" YesNoAnswer.read?
  let performanceConcerns ← json.field? "performance_concerns" YesNoAnswer.read?
  let additionalComments ← json.field? "additional_comments" readOptStr? (some none)
  return {
    confirmedTitle, confirmedDates, confirmedCompany, wouldRehire, performanceConcerns,
    additionalComments }

def ReferenceType.read? : Json → Option ReferenceType
  | .str "REF1" => some REF1
  | .str "REF2" => some REF2
  | _ => none

/-- `Optional[YesNoReferenceForm]`. -/
def readOptForm? : Json → Option (Option YesNoReferenceForm)
  | .null => some none
  | json => (YesNoReferenceForm.read? json).map some

def ReferenceInput.read? (json : Json) : Option ReferenceInput := do
  let referenceName ← json.field? "reference_name" readStr?
  let relationship ← json.field? "relationship" readStr?
  let type ← json.field? "type" ReferenceType.read? (some .REF1)
  let rawInput ← json.field? "raw_input" readOptStr? (some none)
  let yesNoForm ← json.field? "yes_no_form" readOptForm? (some none)
  return { referenceName, relationship, type, rawInput, yesNoForm }

def CandidateCheckRequest.read? (json : Json) : Option CandidateCheckRequest := do
  let candidateName ← json.field? "candidate_name" readStr?
  let roleAppliedFor ← json.field? "role_applied_for" readStr?
  let claimedDetails ← json.field? "claimed_details" ClaimedDetails.read?
  let references ← json.field? "references" (readList? ReferenceInput.read?)
  let callbackUrl ← json.field? "callback_url" readOptStr? (some none)
  return { candidateName, roleAppliedFor, claimedDetails, references, callbackUrl }

/-! ### The forms -/

/-- What is in the fields of the candidate form. -/
structure CandidateForm where
  candidateName : String := ""
  roleAppliedFor : String := ""
  jobTitle : String := ""
  company : String := ""
  startDate : String := ""
  endDate : String := ""
  reasonForLeaving : String := ""
  responsibilitiesRaw : String := ""

/-- `text or None`. -/
def orNull (text : String) : Json := if text = "" then .null else .str text

/-- `[r.strip() for r in raw.split(",") if r.strip()]`. -/
def responsibilityList (raw : String) : List String :=
  ((raw.toList.splitOn ',').map fun r => strip (String.ofList r)).filter (· ≠ "")

/-- What saving the form requires. -/
def CandidateForm.Complete (form : CandidateForm) : Prop :=
  form.candidateName ≠ "" ∧ form.roleAppliedFor ≠ "" ∧ form.jobTitle ≠ "" ∧ form.company ≠ "" ∧
    form.startDate ≠ ""

instance (form : CandidateForm) : Decidable form.Complete := inferInstanceAs (Decidable (_ ∧ _))

/-- The dictionary that is saved, by its items. -/
def CandidateForm.entry (form : CandidateForm) : List (String × Json) :=
  [("candidate_name", .str form.candidateName), ("role_applied_for", .str form.roleAppliedFor),
    ("claimed_details", .obj [("job_title", .str form.jobTitle), ("company", .str form.company),
      ("start_date", .str form.startDate), ("end_date", orNull form.endDate),
      ("reason_for_leaving", orNull form.reasonForLeaving),
      ("responsibilities", .arr ((responsibilityList form.responsibilitiesRaw).map .str))])]

/-- What is in the fields of the reference form. -/
structure ReferenceForm where
  type : ReferenceType
  referenceName : String := ""
  relationship : String := ""
  rawInput : String := ""
  confirmedTitle : YesNoAnswer := .yes
  confirmedDates : YesNoAnswer := .yes
  confirmedCompany : YesNoAnswer := .yes
  wouldRehire : YesNoAnswer := .yes
  performanceConcerns : YesNoAnswer := .yes
  additionalComments : String := ""

namespace ReferenceForm

variable (form : ReferenceForm)

/-- What the page asks of a transcript. -/
def TranscriptOk : Prop := form.rawInput ≠ "" ∧ 10 ≤ (strip form.rawInput).length

instance : Decidable form.TranscriptOk := inferInstanceAs (Decidable (_ ∧ _))

/-- What adding the reference requires. -/
def Complete : Prop :=
  (form.referenceName ≠ "" ∧ form.relationship ≠ "") ∧ (form.type = .REF1 → form.TranscriptOk)

instance : Decidable form.Complete := inferInstanceAs (Decidable (_ ∧ _))

def yesNoFields : Json :=
  .obj [("confirmed_title", .str form.confirmedTitle.text),
    ("confirmed_dates", .str form.confirmedDates.text),
    ("confirmed_company", .str form.confirmedCompany.text),
    ("would_rehire", .str form.wouldRehire.text),
    ("performance_concerns", .str form.performanceConcerns.text),
    ("additional_comments", orNull form.additionalComments)]

/-- The dictionary that is added. -/
def entry : Json :=
  .obj ([("reference_name", .str form.referenceName), ("relationship", .str form.relationship),
    ("type", .str form.type.text)] ++
    match form.type with
    | .REF1 => [("raw_input", .str form.rawInput)]
    | .REF2 => [("yes_no_form", form.yesNoFields)])

end ReferenceForm

/-- `{**candidate, "references": references}`, with the callback URL if there is one. -/
def checkPayload (candidate : List (String × Json)) (references : List Json) (callbackUrl : String) :
    Json :=
  .obj (candidate ++ [("references", .arr references)] ++
    if callbackUrl = "" then [] else [("callback_url", .str callbackUrl)])

/-! ### What the entries say -/

/-- `None` for an empty text. -/
def textOrNone (text : String) : Option String := if text = "" then none else some text

def CandidateForm.claimed (form : CandidateForm) : ClaimedDetails where
  jobTitle := form.jobTitle
  company := form.company
  startDate := form.startDate
  endDate := textOrNone form.endDate
  responsibilities := responsibilityList form.responsibilitiesRaw
  reasonForLeaving := textOrNone form.reasonForLeaving

namespace ReferenceForm

variable (form : ReferenceForm)

def answers : YesNoReferenceForm where
  confirmedTitle := form.confirmedTitle
  confirmedDates := form.confirmedDates
  confirmedCompany := form.confirmedCompany
  wouldRehire := form.wouldRehire
  performanceConcerns := form.performanceConcerns
  additionalComments := textOrNone form.additionalComments

/-- The reference that the form describes: it has the input of its type and no other. -/
def reference : ReferenceInput where
  referenceName := form.referenceName
  relationship := form.relationship
  type := form.type
  rawInput := match form.type with
    | .REF1 => some form.rawInput
    | .REF2 => none
  yesNoForm := match form.type with
    | .REF1 => none
    | .REF2 => some form.answers

end ReferenceForm

/-- The request that forms describe. -/
def checkRequest (candidate : CandidateForm) (references : List ReferenceForm) (callbackUrl : String) :
    CandidateCheckRequest where
  candidateName := candidate.candidateName
  roleAppliedFor := candidate.roleAppliedFor
  claimedDetails := candidate.claimed
  references := references.map (·.reference)
  callbackUrl := textOrNone callbackUrl

/-! ### Reading them back -/

theorem mapM_map_eq_some {A B C : Type} {encode : A → B} {read : B → Option C} {value : A → C}
    (h : ∀ a, read (encode a) = some (value a)) (l : List A) :
    (l.map encode).mapM read = some (l.map value) := by
  induction l with
  | nil => rfl
  | cons a l ih => simp [List.mapM_cons, h, ih]

@[simp] theorem readStr?_str (text : String) : readStr? (.str text) = some text := rfl

@[simp] theorem readOptStr?_str (text : String) : readOptStr? (.str text) = some (some text) := rfl

@[simp] theorem readOptStr?_orNull (text : String) :
    readOptStr? (orNull text) = some (textOrNone text) := by
  unfold orNull textOrNone
  split_ifs <;> rfl

@[simp] theorem readList?_strs (values : List String) :
    readList? readStr? (.arr (values.map .str)) = some values := by
  have hstr : ∀ text : String, readStr? (.str text) = some (id text) := fun _ => rfl
  have hread := mapM_map_eq_some hstr values
  rwa [List.map_id] at hread

@[simp] theorem read?_text (a : YesNoAnswer) : YesNoAnswer.read? (.str a.text) = some a := by
  cases a <;> rfl

@[simp] theorem read?_typeText (t : ReferenceType) : ReferenceType.read? (.str t.text) = some t := by
  cases t <;> rfl

@[simp] theorem readOptForm?_yesNoFields (form : ReferenceForm) :
    readOptForm? form.yesNoFields = some (some form.answers) := by
  simp [readOptForm?, ReferenceForm.yesNoFields, YesNoReferenceForm.read?, Json.field?, Json.get?,
    Dict.lookup_cons_eq_ite, ReferenceForm.answers]

theorem read?_entry (form : ReferenceForm) : ReferenceInput.read? form.entry = some form.reference := by
  cases htype : form.type <;>
    simp [ReferenceInput.read?, ReferenceForm.entry, htype, Json.field?, Json.get?, Dict.lookup_cons_eq_ite,
      ReferenceForm.reference]

/-- A payload is read as the request that the forms describe. -/
theorem read_payload (candidate : CandidateForm) (references : List ReferenceForm)
    (callbackUrl : String) :
    CandidateCheckRequest.read?
        (checkPayload candidate.entry (references.map (·.entry)) callbackUrl) =
      some (checkRequest candidate references callbackUrl) := by
  have hreferences : readList? ReferenceInput.read? (.arr (references.map (·.entry))) =
      some (references.map (·.reference)) := mapM_map_eq_some read?_entry references
  by_cases hurl : callbackUrl = "" <;>
    simp [CandidateCheckRequest.read?, checkPayload, CandidateForm.entry, ClaimedDetails.read?,
      Json.field?, Json.get?, Dict.lookup_cons_eq_ite, hurl, hreferences, checkRequest, CandidateForm.claimed,
      textOrNone]

/-! ### What arrives -/

theorem wellFormed_orNull (text : String) : WellFormed (orNull text) := by
  unfold orNull
  split_ifs <;> trivial

theorem wellFormed_strs (values : List String) : WellFormedItems (values.map .str) := by
  rw [wellFormedItems_iff]
  intro item hitem
  obtain ⟨value, -, rfl⟩ := List.mem_map.mp hitem
  trivial

theorem wellFormed_entry (form : ReferenceForm) : WellFormed form.entry := by
  have hform : WellFormed form.yesNoFields := by
    simp [ReferenceForm.yesNoFields, WellFormed, WellFormedMembers, wellFormed_orNull]
  cases htype : form.type <;>
    simp [ReferenceForm.entry, htype, WellFormed, WellFormedMembers, hform]

theorem wellFormed_checkPayload (candidate : CandidateForm) (references : List ReferenceForm)
    (callbackUrl : String) :
    WellFormed (checkPayload candidate.entry (references.map (·.entry)) callbackUrl) := by
  have hreferences : WellFormedItems (references.map (·.entry)) := by
    rw [wellFormedItems_iff]
    intro item hitem
    obtain ⟨form, -, rfl⟩ := List.mem_map.mp hitem
    exact wellFormed_entry form
  have hstrs := wellFormed_strs (responsibilityList candidate.responsibilitiesRaw)
  by_cases hurl : callbackUrl = "" <;>
    simp [checkPayload, CandidateForm.entry, hurl, WellFormed, WellFormedMembers, wellFormed_orNull,
      hreferences, hstrs]

/-- The request that FastAPI makes of the text of a body, if it makes one: `parse` is the reading of the
request model. -/
def readBody (parse : Json → Except String CandidateCheckRequest) (body : List Char) :
    Option CandidateCheckRequest := do
  let json ← loads body
  (parse json).toOption

/-- The request model is read as it is described. -/
def ReadsRequests (parse : Json → Except String CandidateCheckRequest) : Prop :=
  ∀ json request, CandidateCheckRequest.read? json = some request → parse json = .ok request

theorem readBody_dumps {parse : Json → Except String CandidateCheckRequest} (hparse : ReadsRequests parse)
    (candidate : CandidateForm) (references : List ReferenceForm) (callbackUrl : String) :
    readBody parse (dumps (checkPayload candidate.entry (references.map (·.entry)) callbackUrl)) =
      some (checkRequest candidate references callbackUrl) := by
  unfold readBody
  rw [loads_dumps (wellFormed_checkPayload candidate references callbackUrl)]
  show (parse _).toOption = _
  rw [hparse _ _ (read_payload candidate references callbackUrl)]
  rfl

theorem ReferenceForm.rawInput_reference (form : ReferenceForm) (htype : form.type = .REF1) :
    form.reference.rawInput = some form.rawInput := by
  unfold ReferenceForm.reference
  rw [htype]

section complete

variable {env : Env} {form : ReferenceForm}

theorem ReferenceForm.Complete.validateShape (h : form.Complete) (py : PyText) :
    form.reference.validateShape py = .ok () := by
  rw [validateShape_ok_iff]
  constructor
  · intro htype
    rw [form.rawInput_reference htype]
    exact (h.2 htype).1
  · intro htype
    have hform : form.reference.yesNoForm = some form.answers := by
      unfold ReferenceForm.reference
      rw [show form.type = .REF2 from htype]
    rw [hform]
    exact nofun

/-- The pipeline takes it unless its transcript is too long. -/
theorem ReferenceForm.Complete.valid_iff (h : form.Complete) (hmin : env.minRawInputChars ≤ 10) :
    form.reference.Valid env ↔
      (form.type = .REF1 → (form.rawInput.length : ℤ) ≤ env.maxRawInputChars) := by
  cases htype : form.type with
  | REF1 =>
    obtain ⟨hne, hlength⟩ := h.2 htype
    have hlong : env.minRawInputChars ≤ ((strip form.rawInput).length : ℤ) := by omega
    rw [valid_iff_of_transcript (show form.reference.type = .REF1 from htype),
      form.rawInput_reference htype]
    exact ⟨fun hok _ => hok.2.2, fun hmax => ⟨hne, hlong, hmax rfl⟩⟩
  | REF2 =>
    have hform : form.reference.yesNoForm = some form.answers := by
      unfold ReferenceForm.reference
      rw [htype]
    rw [valid_iff_of_form (show form.reference.type = .REF2 from htype), hform]
    exact ⟨fun _ => nofun, fun _ => ⟨form.answers, rfl⟩⟩

theorem submitCheck_checkRequest {candidate : CandidateForm} {references : List ReferenceForm}
    (hne : references ≠ []) (hcomplete : ∀ form ∈ references, form.Complete) (callbackUrl : String)
    (py : PyText) :
    submitCheck py (checkRequest candidate references callbackUrl).toCandidateBatchInput = .ok () := by
  refine (submitCheck_ok_iff _ _).mpr ⟨?_, ?_⟩
  · simpa [checkRequest] using hne
  · intro ref href
    obtain ⟨form, hform, rfl⟩ := List.mem_map.mp href
    exact (hcomplete form hform).validateShape py

end complete

end RefCheck
