import RefCheck.Graphs.Review
import RefCheck.Model.CandidateNodes

/-!
# The graph of a candidate

`candidateGraph` is the graph of `candidate_graph.py`: one task is sent for each reference, their
results are cross-checked, scored and summarised. `runReference` runs the graph of a reference and
turns every exception into a failure result.
-/

namespace RefCheck

open StateGraph Target

/-! ### The state -/

/-- `CandidateState`: the request, and what the nodes write. -/
structure CandidateState where
  candidateName : String
  roleAppliedFor : String
  claimedDetails : ClaimedDetails
  references : List ReferenceInput
  referenceResults : List ReferenceResult := []
  crossReferenceFlags : Option (List CrossReferenceFlag) := none
  overallConfidence : Option ℚ := none
  overallNeedsReview : Option Bool := none
  overallSummary : Option String := none

/-- The input state that `run_check` makes of a request. -/
def CandidateBatchInput.inputState (c : CandidateBatchInput) : CandidateState where
  candidateName := c.candidateName
  roleAppliedFor := c.roleAppliedFor
  claimedDetails := c.claimedDetails
  references := c.references

/-- What is sent for one reference, with its position among the sends. -/
structure ReferencePayload where
  index : ℕ
  candidateName : String
  roleAppliedFor : String
  claimedDetails : ClaimedDetails
  referenceName : String
  relationship : String
  type : ReferenceType
  rawInput : Option String := none
  yesNoForm : Option YesNoReferenceForm := none

/-- The payload of a reference: only the input that its type needs. -/
def CandidateState.payload (s : CandidateState) (ref : ReferenceInput) (index : ℕ) :
    ReferencePayload where
  index := index
  candidateName := s.candidateName
  roleAppliedFor := s.roleAppliedFor
  claimedDetails := s.claimedDetails
  referenceName := ref.referenceName
  relationship := ref.relationship
  type := ref.type
  rawInput := match ref.type with
    | .REF1 => ref.rawInput
    | .REF2 => none
  yesNoForm := match ref.type with
    | .REF1 => none
    | .REF2 => ref.yesNoForm

/-- The state that a payload is invoked with, once names and type are popped. -/
def ReferencePayload.state (p : ReferencePayload) : ReferenceCheckState where
  candidateName := p.candidateName
  roleAppliedFor := p.roleAppliedFor
  claimedDetails := p.claimedDetails
  rawInput := p.rawInput
  yesNoForm := p.yesNoForm

/-- The answers to a whole run. The tasks of the references run in parallel, so each has its own. -/
structure CandidateLLM where
  getModel : ModelTier → String
  reference : ℕ → (rq : LLMRequest) → Except PyException rq.outputModel.Value
  overall : (rq : LLMRequest) → Except PyException rq.outputModel.Value
  /-- For which references the call about the sentiment ends before the one about the facts. -/
  sentimentFirst : ℕ → Bool := fun _ => false

/-- What answers the calls for the reference at a position. -/
def CandidateLLM.forReference (llm : CandidateLLM) (index : ℕ) : Provider :=
  ⟨llm.getModel, llm.reference index, llm.sentimentFirst index⟩

/-- What answers the call for the candidate. -/
def CandidateLLM.forOverall (llm : CandidateLLM) : Provider where
  getModel := llm.getModel
  answer := llm.overall

/-! ### `run_reference` -/

/-- The result of a reference that raised. -/
def failedResult (referenceName relationship : String) (e : PyException) : ReferenceResult where
  referenceName := referenceName
  relationship := relationship
  extractedFacts := {}
  discrepancies := []
  sentiment := "unclear"
  redFlags := ["Automated processing failed for this reference: " ++ e.str]
  confidenceScore := 0
  needsHumanReview := true
  referenceSummary := "This reference could not be processed automatically due to an error ("
    ++ e.className ++ "). Manual review required."

/-- The body of the `try`. -/
def processReference (env : Env) (llm : Provider) (p : ReferencePayload) :
    Issue LLMRequest PyException ReferenceCheckState :=
  match p.type with
  | .REF1 => do
    Issue.lift (validateRawInput env p.rawInput (p.candidateName ++ "/" ++ p.referenceName))
    (openEndedGraph env llm).invoke recursionLimit p.state
  | .REF2 => (yesNoGraph env llm).invoke recursionLimit p.state

/-- The result of a reference from the state its graph ended in. -/
def resultOfState (referenceName relationship : String) (s : ReferenceCheckState) :
    Except PyException ReferenceResult := do
  let confidenceScore ← getItem "confidence_score" s.confidenceScore
  let needsHumanReview ← getItem "needs_human_review" s.needsHumanReview
  return {
    referenceName
    relationship
    extractedFacts := s.extractedFacts.getD {}
    discrepancies := s.discrepancies.getD []
    sentiment := s.sentiment.getD "neutral"
    redFlags := s.redFlags.getD []
    confidenceScore
    needsHumanReview
    referenceSummary := s.finalSummary.getD "" }

/-- `run_reference`: whatever raises becomes a failure result. -/
def runReference (env : Env) (llm : Provider) (p : ReferencePayload) :
    Issue LLMRequest PyException ReferenceResult := do
  match ← (processReference env llm p).attempt with
  | .error e => return failedResult p.referenceName p.relationship e
  | .ok s => Issue.lift (resultOfState p.referenceName p.relationship s)

/-! ### The nodes and the graph -/

inductive CandidateNode where
  | runReference
  | crossCheckReferences
  | scoreOverall
  | overallFlagForReview
  | overallClear
  deriving DecidableEq, Repr

/-- What a node of the graph is: it returns its writes. -/
abbrev CandidateWrites := Issue LLMRequest PyException (CandidateState → CandidateState)

section nodes

variable (env : Env) (llm : CandidateLLM)

def runReferenceNode (p : ReferencePayload) : CandidateWrites := do
  let result ← runReference env (llm.forReference p.index) p
  return fun s => { s with referenceResults := s.referenceResults ++ [result] }

def crossCheckReferencesNode (s : CandidateState) : CandidateWrites :=
  let flags := crossCheckReferences env.toPyText s.referenceResults
  return fun s => { s with crossReferenceFlags := some flags }

def scoreOverallNode (s : CandidateState) : CandidateWrites := do
  let score ← Issue.lift (scoreOverall env s.referenceResults (s.crossReferenceFlags.getD []))
  return fun s => { s with
    overallConfidence := some score.overallConfidence
    overallNeedsReview := some score.overallNeedsReview }

def overallFlagForReviewNode (s : CandidateState) : CandidateWrites := do
  let confidence ← Issue.lift (getItem "overall_confidence" s.overallConfidence)
  let result ← llm.forOverall.structuredCall (overallFlagForReviewRequest env.toPyText s.candidateName
    s.roleAppliedFor confidence s.referenceResults (s.crossReferenceFlags.getD []))
    .overallSummary .reasoning
  return fun s => { s with overallSummary := some result.summary }

def overallClearNode (s : CandidateState) : CandidateWrites := do
  let confidence ← Issue.lift (getItem "overall_confidence" s.overallConfidence)
  let result ← llm.forOverall.structuredCall (overallClearRequest env.toPyText s.candidateName
    s.roleAppliedFor confidence s.referenceResults) .overallSummary .reasoning
  return fun s => { s with overallSummary := some result.summary }

end nodes

/-- One send per reference. -/
def fanOutReferences (s : CandidateState) : List (Target CandidateNode ReferencePayload) :=
  (s.references.mapIdx fun i ref => s.payload ref i).map (send .runReference)

/-- `build_candidate_graph`. A node that gets the other kind of input misses its first key. -/
def candidateGraph (env : Env) (llm : CandidateLLM) :
    StateGraph CandidateNode ReferencePayload CandidateState LLMRequest PyException where
  start s := .ok (fanOutReferences s)
  body
    | .runReference => fun _ => Issue.lift (.error (.keyError "'reference_name'"))
    | .crossCheckReferences => crossCheckReferencesNode env
    | .scoreOverall => scoreOverallNode env
    | .overallFlagForReview => overallFlagForReviewNode env llm
    | .overallClear => overallClearNode env llm
  sendBody
    | .runReference => runReferenceNode env llm
    | .crossCheckReferences => fun _ => Issue.lift (.error (.keyError "'reference_results'"))
    | .scoreOverall => fun _ => Issue.lift (.error (.keyError "'reference_results'"))
    | .overallFlagForReview => fun _ => Issue.lift (.error (.keyError "'overall_confidence'"))
    | .overallClear => fun _ => Issue.lift (.error (.keyError "'overall_confidence'"))
  edges node s :=
    match node with
    | .runReference => .ok [.node .crossCheckReferences]
    | .crossCheckReferences => .ok [.node .scoreOverall]
    | .scoreOverall => do
      let needsReview ← getItem "overall_needs_review" s.overallNeedsReview
      return match routeOverallReview needsReview with
        | .overallFlagForReview => [.node .overallFlagForReview]
        | .overallClear => [.node .overallClear]
    | .overallFlagForReview => .ok []
    | .overallClear => .ok []
  limitError := .graphRecursionError
  -- no task that is sent raises, so it does not matter which ends first
  ending ts := ts
  ending_perm := .refl

end RefCheck
