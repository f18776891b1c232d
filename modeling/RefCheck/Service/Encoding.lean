import RefCheck.Graphs.CandidateGraph
import RefCheck.Lib.Json
import RefCheck.Service.Store

/-!
# The result of a check as JSON

`_to_json` of `runner.py` on the state that the graph ends in: a value of Python that holds instances of
the models of `schemas.py` becomes one that holds none. Those are the values of `Json`, a number by what
Python writes for it.
-/

namespace RefCheck

/-- A value as a state holds it; an instance of a model by its fields. -/
inductive PyValue where
  | none
  | bool (value : Bool)
  | float (value : ℚ)
  | str (value : String)
  | list (items : List PyValue)
  | dict (entries : List (String × PyValue))
  | model (fields : List (String × PyValue))

namespace PyValue

mutual

/-- `_to_json`, where `model_dump` of an instance is a dictionary of its fields, each dumped as well. -/
def toJson (py : PyText) : PyValue → Json
  | none => .null
  | bool value => .bool value
  | float value => .num (py.floatStr value)
  | str value => .str value
  | list items => .arr (toJsonItems py items)
  | dict entries => .obj (toJsonEntries py entries)
  | model fields => .obj (toJsonEntries py fields)

def toJsonItems (py : PyText) : List PyValue → List Json
  | [] => []
  | item :: items => item.toJson py :: toJsonItems py items

def toJsonEntries (py : PyText) : List (String × PyValue) → List (String × Json)
  | [] => []
  | (key, value) :: entries => (key, value.toJson py) :: toJsonEntries py entries

end

theorem toJsonItems_eq_map (py : PyText) (items : List PyValue) :
    toJsonItems py items = items.map (toJson py) := by
  induction items with
  | nil => rfl
  | cons item items ih => rw [toJsonItems, ih, List.map_cons]

/-- `Optional[str]`. -/
def optStr : Option String → PyValue
  | .none => none
  | some value => str value

def strs (values : List String) : PyValue := list (values.map str)

/-- An entry whose channel was written. -/
def entry {A : Type} (key : String) (encode : A → PyValue) : Option A → List (String × PyValue)
  | .none => []
  | some value => [(key, encode value)]

end PyValue

open PyValue (optStr strs entry)

/-! ### The models -/

def ClaimedDetails.py (c : ClaimedDetails) : PyValue :=
  .model [("job_title", .str c.jobTitle), ("company", .str c.company), ("start_date", .str c.startDate),
    ("end_date", optStr c.endDate), ("responsibilities", strs c.responsibilities),
    ("reason_for_leaving", optStr c.reasonForLeaving)]

def YesNoAnswer.text : YesNoAnswer → String
  | yes => "yes"
  | no => "no"
  | unsure => "unsure"

def YesNoReferenceForm.py (form : YesNoReferenceForm) : PyValue :=
  .model [("confirmed_title", .str form.confirmedTitle.text),
    ("confirmed_dates", .str form.confirmedDates.text),
    ("confirmed_company", .str form.confirmedCompany.text), ("would_rehire", .str form.wouldRehire.text),
    ("performance_concerns", .str form.performanceConcerns.text),
    ("additional_comments", optStr form.additionalComments)]

def ReferenceType.text : ReferenceType → String
  | REF1 => "REF1"
  | REF2 => "REF2"

def ReferenceInput.py (ref : ReferenceInput) : PyValue :=
  .model [("reference_name", .str ref.referenceName), ("relationship", .str ref.relationship),
    ("type", .str ref.type.text), ("raw_input", optStr ref.rawInput),
    ("yes_no_form", match ref.yesNoForm with
      | none => .none
      | some form => form.py)]

def ExtractedFacts.py (facts : ExtractedFacts) : PyValue :=
  .model [("job_title", optStr facts.jobTitle), ("company", optStr facts.company),
    ("start_date", optStr facts.startDate), ("end_date", optStr facts.endDate),
    ("would_rehire", match facts.wouldRehire with
      | none => .none
      | some value => .bool value),
    ("performance_rating", optStr (facts.performanceRating.map PerformanceRating.text)),
    ("responsibilities_mentioned", strs facts.responsibilitiesMentioned),
    ("reason_for_leaving_mentioned", optStr facts.reasonForLeavingMentioned),
    ("notable_quotes", strs facts.notableQuotes)]

def Discrepancy.py (d : Discrepancy) : PyValue :=
  .model [("field", .str d.field), ("claimed_value", .str d.claimedValue),
    ("stated_value", .str d.statedValue), ("severity", .str d.severity.text), ("note", optStr d.note)]

def ReferenceResult.py (r : ReferenceResult) : PyValue :=
  .model [("reference_name", .str r.referenceName), ("relationship", .str r.relationship),
    ("extracted_facts", r.extractedFacts.py), ("discrepancies", .list (r.discrepancies.map (·.py))),
    ("sentiment", .str r.sentiment), ("red_flags", strs r.redFlags),
    ("confidence_score", .float r.confidenceScore), ("needs_human_review", .bool r.needsHumanReview),
    ("reference_summary", .str r.referenceSummary)]

def CrossReferenceFlag.py (f : CrossReferenceFlag) : PyValue :=
  .model [("field", .str f.field), ("description", .str f.description),
    ("severity", .str f.severity.text), ("involved_references", strs f.involvedReferences)]

/-- The dictionary that a run of the graph returns: the channels that were written. -/
def CandidateState.py (s : CandidateState) : PyValue :=
  .dict ([("candidate_name", .str s.candidateName), ("role_applied_for", .str s.roleAppliedFor),
      ("claimed_details", s.claimedDetails.py), ("references", .list (s.references.map (·.py))),
      ("reference_results", .list (s.referenceResults.map (·.py)))] ++
    entry "cross_reference_flags" (fun flags => .list (flags.map (·.py))) s.crossReferenceFlags ++
    entry "overall_confidence" .float s.overallConfidence ++
    entry "overall_needs_review" .bool s.overallNeedsReview ++
    entry "overall_summary" .str s.overallSummary)

/-- What `run_check` stores of the state that the graph ends in. -/
def storedResult (py : PyText) (s : CandidateState) : Except PyException Json :=
  .ok (s.py.toJson py)

/-! ### The bodies of the responses -/

def optJson : Option String → Json
  | none => .null
  | some value => .str value

/-- The body of a `CheckSubmittedResponse`; a record that was just created is queued. -/
def submittedBody (checkId : String) : Json :=
  .obj [("check_id", .str checkId), ("status", .str CheckStatus.queued.value)]

/-- The body of a `CheckStatusResponse`. -/
def CheckStatusResponse.body (response : CheckStatusResponse Json) : Json :=
  .obj [("check_id", .str response.checkId), ("status", .str response.status),
    ("result", response.result.getD .null), ("error", optJson response.error)]

end RefCheck
