import Mathlib.Data.Rat.Defs
import Mathlib.Order.Basic

/-!
# The data model

The records of `schemas.py` and the exceptions the program raises or catches. A field restricted to
a few texts by a `Literal` is an enumeration here; `text` is the value it has in the source. Where
the source says `str`, as for the sentiment of a `ReferenceResult`, the field is a text.
-/

namespace RefCheck

/-! ### Exceptions -/

/-- The exceptions of the program, by class. `raised` stands for one that comes from outside: an LLM
call or a batch backend. -/
inductive PyException where
  | valueError (msg : String)
  | validationError (msg : String)
  | keyError (keyRepr : String)
  | indexError
  | attributeError (name : String)
  | zeroDivisionError
  | pydanticValidationError (model : String)
  | graphRecursionError
  | raised (className msg : String)
  deriving DecidableEq, Repr

namespace PyException

/-- `e.__class__.__name__`. -/
def className : PyException → String
  | valueError _ => "ValueError"
  | validationError _ => "ValidationError"
  | keyError _ => "KeyError"
  | indexError => "IndexError"
  | attributeError _ => "AttributeError"
  | zeroDivisionError => "ZeroDivisionError"
  | pydanticValidationError _ => "ValidationError"
  | graphRecursionError => "GraphRecursionError"
  | raised c _ => c

/-- `str(e)`; of a pydantic error the first line. -/
def str : PyException → String
  | valueError msg => msg
  | validationError msg => msg
  | keyError keyRepr => keyRepr
  | indexError => "list index out of range"
  | attributeError name => "'NoneType' object has no attribute '" ++ name ++ "'"
  | zeroDivisionError => "division by zero"
  | pydanticValidationError model => "1 validation error for " ++ model
  | graphRecursionError => "Recursion limit reached without hitting a stop condition."
  | raised _ msg => msg

/-- Whether `except (ValidationError, ValueError)` catches the exception; the pydantic error is a
`ValueError` as well. -/
def isValueError : PyException → Bool
  | valueError _ => true
  | validationError _ => true
  | pydanticValidationError _ => true
  | _ => false

end PyException

/-! ### Input -/

/-- What the candidate claimed. No end date means that they are still employed there. -/
structure ClaimedDetails where
  jobTitle : String
  company : String
  startDate : String
  endDate : Option String := none
  responsibilities : List String := []
  reasonForLeaving : Option String := none
  deriving DecidableEq, Repr

inductive YesNoAnswer where
  | yes
  | no
  | unsure
  deriving DecidableEq, Repr

/-- The structured verification form of a `REF2` reference. -/
structure YesNoReferenceForm where
  confirmedTitle : YesNoAnswer
  confirmedDates : YesNoAnswer
  confirmedCompany : YesNoAnswer
  wouldRehire : YesNoAnswer
  performanceConcerns : YesNoAnswer
  additionalComments : Option String := none
  deriving DecidableEq, Repr

/-- `REF1` is an open-ended transcript or e-mail, `REF2` a yes/no form. -/
inductive ReferenceType where
  | REF1
  | REF2
  deriving DecidableEq, Repr

structure ReferenceInput where
  referenceName : String
  relationship : String
  type : ReferenceType := .REF1
  rawInput : Option String := none
  yesNoForm : Option YesNoReferenceForm := none
  deriving DecidableEq, Repr

/-- One candidate with the references to check. -/
structure CandidateBatchInput where
  candidateName : String
  roleAppliedFor : String
  claimedDetails : ClaimedDetails
  references : List ReferenceInput
  deriving DecidableEq, Repr

/-! ### Facts, discrepancies, sentiment -/

inductive PerformanceRating where
  | strong
  | average
  | weak
  | unclear
  deriving DecidableEq, Repr

def PerformanceRating.text : PerformanceRating → String
  | strong => "strong"
  | average => "average"
  | weak => "weak"
  | unclear => "unclear"

structure ExtractedFacts where
  jobTitle : Option String := none
  company : Option String := none
  startDate : Option String := none
  endDate : Option String := none
  wouldRehire : Option Bool := none
  performanceRating : Option PerformanceRating := none
  responsibilitiesMentioned : List String := []
  reasonForLeavingMentioned : Option String := none
  notableQuotes : List String := []
  deriving DecidableEq, Repr

inductive Severity where
  | minor
  | moderate
  | major
  deriving DecidableEq, Repr

namespace Severity

def text : Severity → String
  | minor => "minor"
  | moderate => "moderate"
  | major => "major"

/-- Minor before moderate before major. -/
def rank : Severity → ℕ
  | minor => 0
  | moderate => 1
  | major => 2

instance : Preorder Severity := Preorder.lift rank

theorem le_major (s : Severity) : s ≤ major := by
  cases s <;> decide

theorem eq_major_of_le {s : Severity} (h : major ≤ s) : s = major := by
  cases s
  · exact absurd h (by decide)
  · exact absurd h (by decide)
  · rfl

end Severity

structure Discrepancy where
  field : String
  claimedValue : String
  statedValue : String
  severity : Severity
  note : Option String := none
  deriving DecidableEq, Repr

structure DiscrepancyNote where
  field : String
  note : String
  deriving DecidableEq, Repr

structure DiscrepancyNotes where
  notes : List DiscrepancyNote
  deriving DecidableEq, Repr

inductive Sentiment where
  | positive
  | neutral
  | negative
  | mixed
  deriving DecidableEq, Repr

namespace Sentiment

def text : Sentiment → String
  | positive => "positive"
  | neutral => "neutral"
  | negative => "negative"
  | mixed => "mixed"

/-- Positive and neutral before mixed before negative. -/
def rank : Sentiment → ℕ
  | positive => 0
  | neutral => 0
  | mixed => 1
  | negative => 2

instance : Preorder Sentiment := Preorder.lift rank

/-- The check of the `Literal` on a text. -/
def ofText? : String → Option Sentiment
  | "positive" => some positive
  | "neutral" => some neutral
  | "negative" => some negative
  | "mixed" => some mixed
  | _ => none

theorem text_ne_unclear (s : Sentiment) : s.text ≠ "unclear" := by
  cases s <;> decide

end Sentiment

structure SentimentAndRedFlags where
  sentiment : Sentiment
  redFlags : List String := []
  deriving DecidableEq, Repr

/-- `SentimentAndRedFlags(sentiment=…, red_flags=…)`: pydantic checks the sentiment. -/
def SentimentAndRedFlags.construct (sentiment : String) (redFlags : List String) :
    Except PyException SentimentAndRedFlags :=
  match Sentiment.ofText? sentiment with
  | some s => .ok ⟨s, redFlags⟩
  | none => .error (.pydanticValidationError "SentimentAndRedFlags")

structure FinalSummary where
  summary : String
  deriving DecidableEq, Repr

structure OverallSummary where
  summary : String
  deriving DecidableEq, Repr

/-! ### Results -/

/-- The outcome of one reference. -/
structure ReferenceResult where
  referenceName : String
  relationship : String
  extractedFacts : ExtractedFacts
  discrepancies : List Discrepancy
  sentiment : String
  redFlags : List String
  confidenceScore : ℚ
  needsHumanReview : Bool
  referenceSummary : String
  deriving DecidableEq

structure CrossReferenceFlag where
  field : String
  description : String
  severity : Severity
  involvedReferences : List String
  deriving DecidableEq, Repr

/-! ### Requests to a model -/

/-- The pydantic models that an LLM call can be asked to fill. -/
inductive OutputModel where
  | extractedFacts
  | sentimentAndRedFlags
  | discrepancyNotes
  | finalSummary
  | overallSummary
  deriving DecidableEq, Repr

/-- The values of an output model. -/
abbrev OutputModel.Value : OutputModel → Type
  | extractedFacts => ExtractedFacts
  | sentimentAndRedFlags => SentimentAndRedFlags
  | discrepancyNotes => DiscrepancyNotes
  | finalSummary => FinalSummary
  | overallSummary => OverallSummary

inductive ModelTier where
  | extraction
  | reasoning
  deriving DecidableEq, Repr

/-- What a model is asked: the prompts, the model to fill and the model ID that answers. -/
@[ext] structure LLMRequest where
  system : String
  userMessage : String
  outputModel : OutputModel
  model : String
  deriving DecidableEq, Repr

end RefCheck
