import RefCheck.Lib.StateGraph
import RefCheck.Model.ReferenceNodes
import RefCheck.Model.Requests

/-!
# The graphs of a single reference

`openEndedGraph` (`REF1`) and `yesNoGraph` (`REF2`) are the two graphs of `reference_graph.py`, their
nodes the methods of `ReferenceCheckNodes`. A `Provider` answers LLM calls; every call is an issued
request. The two calls about a transcript are made side by side.
-/

namespace RefCheck

/-! ### LLM calls -/

/-- A provider: the model ID of a tier, and an answer or an exception for every request. -/
structure Provider where
  getModel : ModelTier → String
  answer : (rq : LLMRequest) → Except PyException rq.outputModel.Value
  /-- Of the two calls about a transcript, the one about its sentiment ends first. -/
  sentimentFirst : Bool := false

/-- The request that `structured_call` makes. -/
def Provider.request (llm : Provider) (prompts : String × String) (outputModel : OutputModel)
    (tier : ModelTier) : LLMRequest where
  system := prompts.1
  userMessage := prompts.2
  outputModel := outputModel
  model := llm.getModel tier

def Provider.structuredCall (llm : Provider) (prompts : String × String) (outputModel : OutputModel)
    (tier : ModelTier) : Issue LLMRequest PyException outputModel.Value :=
  Issue.issue (llm.request prompts outputModel tier) (llm.answer (llm.request prompts outputModel tier))

/-! ### The state -/

/-- `ReferenceCheckState`: the input of one reference, and what the nodes write. A field that no node
has written yet is `none`. -/
structure ReferenceCheckState where
  candidateName : String
  roleAppliedFor : String
  claimedDetails : ClaimedDetails
  rawInput : Option String := none
  yesNoForm : Option YesNoReferenceForm := none
  extractedFacts : Option ExtractedFacts := none
  discrepancies : Option (List Discrepancy) := none
  sentiment : Option String := none
  redFlags : Option (List String) := none
  confidenceScore : Option ℚ := none
  needsHumanReview : Option Bool := none
  finalSummary : Option String := none

/-- `state[key]`. -/
def getItem {α : Type} (key : String) : Option α → Except PyException α
  | some a => .ok a
  | none => .error (.keyError ("'" ++ key ++ "'"))

/-- Reading an attribute of an object that may be `None`. -/
def getAttr {α : Type} (name : String) : Option α → Except PyException α
  | some a => .ok a
  | none => .error (.attributeError name)

@[simp] theorem getItem_some {α : Type} (key : String) (a : α) : getItem key (some a) = .ok a := rfl
@[simp] theorem getAttr_some {α : Type} (name : String) (a : α) : getAttr name (some a) = .ok a := rfl

/-- What a node is: it reads the state and returns its writes. -/
abbrev NodeBody := ReferenceCheckState →
  Issue LLMRequest PyException (ReferenceCheckState → ReferenceCheckState)

/-! ### The nodes -/

section nodes

variable (env : Env) (llm : Provider)

def extractFactsNode : NodeBody := fun s => do
  Issue.lift (validateRawInput env s.rawInput ("extract_facts/" ++ s.candidateName))
  let facts ← llm.structuredCall (extractFactsRequest env.toPyText s.candidateName s.roleAppliedFor
    s.claimedDetails (pyStr s.rawInput)) .extractedFacts .extraction
  return fun s => { s with extractedFacts := some facts }

def sentimentAndRedFlagsNode : NodeBody := fun s => do
  Issue.lift (validateRawInput env s.rawInput ("sentiment_and_redflags/" ++ s.candidateName))
  let result ← llm.structuredCall (sentimentAndRedFlagsRequest (pyStr s.rawInput))
    .sentimentAndRedFlags .extraction
  return fun s => { s with sentiment := some result.sentiment.text, redFlags := some result.redFlags }

def diffFactsNode : NodeBody := fun s => do
  let facts ← Issue.lift (getItem "extracted_facts" s.extractedFacts)
  return fun s => { s with discrepancies := some (diffFacts env s.claimedDetails facts) }

def explainDiscrepanciesNode : NodeBody := fun s => do
  let discrepancies ← Issue.lift (getItem "discrepancies" s.discrepancies)
  let result ← llm.structuredCall (explainDiscrepanciesRequest env.toPyText discrepancies)
    .discrepancyNotes .reasoning
  return fun s => { s with discrepancies := some (applyNotes result discrepancies) }

def evaluateYesNoFormNode : NodeBody := fun s => do
  let form ← Issue.lift (getAttr "confirmed_title" s.yesNoForm)
  let evaluation := evaluateYesNoForm s.claimedDetails form
  return fun s => { s with
    discrepancies := some evaluation.discrepancies
    redFlags := some evaluation.redFlags
    sentiment := some evaluation.sentiment }

def sentimentFromCommentsNode : NodeBody := fun s => do
  let form ← Issue.lift (getAttr "additional_comments" s.yesNoForm)
  let result ← llm.structuredCall (sentimentAndRedFlagsRequest (pyStr form.additionalComments))
    .sentimentAndRedFlags .extraction
  let mergedRedFlags := s.redFlags.getD [] ++ result.redFlags
  return fun s => { s with sentiment := some result.sentiment.text, redFlags := some mergedRedFlags }

def scoreConfidenceNode : NodeBody := fun s =>
  let score := scoreConfidence env (s.discrepancies.getD []) (s.redFlags.getD [])
    (s.sentiment.getD "neutral")
  return fun s => { s with
    confidenceScore := some score.confidenceScore
    needsHumanReview := some score.needsHumanReview }

def flagForHumanReviewNode : NodeBody := fun s => do
  let score ← Issue.lift (getItem "confidence_score" s.confidenceScore)
  let result ← llm.structuredCall (flagForHumanReviewRequest env.toPyText s.candidateName
    s.roleAppliedFor score (pyStr s.sentiment) (s.discrepancies.getD []) (s.redFlags.getD []))
    .finalSummary .reasoning
  return fun s => { s with finalSummary := some result.summary }

def autoSummarizeNode : NodeBody := fun s => do
  let score ← Issue.lift (getItem "confidence_score" s.confidenceScore)
  let result ← llm.structuredCall (autoSummarizeRequest env.toPyText s.candidateName s.roleAppliedFor
    score (pyStr s.sentiment) s.claimedDetails) .finalSummary .reasoning
  return fun s => { s with finalSummary := some result.summary }

end nodes

/-! ### The graphs -/

inductive OpenEndedNode where
  | extractFacts
  | sentimentAndRedFlags
  | diffFacts
  | explainDiscrepancies
  | scoreConfidence
  | flagForHumanReview
  | autoSummarize
  deriving DecidableEq, Repr

inductive YesNoNode where
  | evaluateYesNoForm
  | sentimentFromComments
  | scoreConfidence
  | flagForHumanReview
  | autoSummarize
  deriving DecidableEq, Repr

/-- The supersteps that LangGraph allows a run by default. -/
def recursionLimit : ℕ := 25

/-- `build_open_ended_graph`. -/
def openEndedGraph (env : Env) (llm : Provider) :
    StateGraph OpenEndedNode Empty ReferenceCheckState LLMRequest PyException where
  start _ := .ok [.node .extractFacts, .node .sentimentAndRedFlags]
  body
    | .extractFacts => extractFactsNode env llm
    | .sentimentAndRedFlags => sentimentAndRedFlagsNode env llm
    | .diffFacts => diffFactsNode env
    | .explainDiscrepancies => explainDiscrepanciesNode env llm
    | .scoreConfidence => scoreConfidenceNode env
    | .flagForHumanReview => flagForHumanReviewNode env llm
    | .autoSummarize => autoSummarizeNode env llm
  sendBody _ payload := payload.elim
  edges node s :=
    match node with
    | .extractFacts => .ok [.node .diffFacts]
    | .sentimentAndRedFlags => .ok [.node .diffFacts]
    | .diffFacts => do
      -- has_discrepancies
      let discrepancies ← getItem "discrepancies" s.discrepancies
      return if discrepancies ≠ [] then [.node .explainDiscrepancies] else [.node .scoreConfidence]
    | .explainDiscrepancies => .ok [.node .scoreConfidence]
    | .scoreConfidence => do
      let needsReview ← getItem "needs_human_review" s.needsHumanReview
      return match routeReview needsReview with
        | .flagForHumanReview => [.node .flagForHumanReview]
        | .autoSummarize => [.node .autoSummarize]
    | .flagForHumanReview => .ok []
    | .autoSummarize => .ok []
  limitError := .graphRecursionError
  -- the only tasks side by side are the two that read the transcript
  ending ts := if llm.sentimentFirst then ts.reverse else ts
  ending_perm ts := by
    split_ifs
    · exact ts.reverse_perm
    · exact .refl ts

/-- `build_yes_no_graph`. -/
def yesNoGraph (env : Env) (llm : Provider) :
    StateGraph YesNoNode Empty ReferenceCheckState LLMRequest PyException where
  start _ := .ok [.node .evaluateYesNoForm]
  body
    | .evaluateYesNoForm => evaluateYesNoFormNode
    | .sentimentFromComments => sentimentFromCommentsNode llm
    | .scoreConfidence => scoreConfidenceNode env
    | .flagForHumanReview => flagForHumanReviewNode env llm
    | .autoSummarize => autoSummarizeNode env llm
  sendBody _ payload := payload.elim
  edges node s :=
    match node with
    | .evaluateYesNoForm => do
      -- has_comments
      let form ← getAttr "additional_comments" s.yesNoForm
      return if form.hasComments then [.node .sentimentFromComments] else [.node .scoreConfidence]
    | .sentimentFromComments => .ok [.node .scoreConfidence]
    | .scoreConfidence => do
      let needsReview ← getItem "needs_human_review" s.needsHumanReview
      return match routeReview needsReview with
        | .flagForHumanReview => [.node .flagForHumanReview]
        | .autoSummarize => [.node .autoSummarize]
    | .flagForHumanReview => .ok []
    | .autoSummarize => .ok []
  limitError := .graphRecursionError
  ending ts := ts
  ending_perm := .refl

end RefCheck
