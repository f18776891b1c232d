import RefCheck.Batch.Items
import RefCheck.Model.CandidateNodes
import RefCheck.Model.Requests

/-!
# The batch pipeline

`runBatchPipeline` of `pipelines/batch_runner.py`, phase by phase: every phase is a loop over all
references of all candidates, or over the items of a batch, and keeps what it finds in dictionaries
keyed by `(candidate_idx, ref_idx)`. A lookup that fails raises. `BatchRun` records the items and the
results of every batch beside the output.
-/

namespace RefCheck

/-! ### The references of a batch -/

/-- One step of the loops over `enumerate(candidates)` and `enumerate(candidate.references)`. -/
structure RefEntry where
  candidateIdx : ℕ
  refIdx : ℕ
  candidate : CandidateBatchInput
  ref : ReferenceInput

def RefEntry.key (e : RefEntry) : RefKey := (e.candidateIdx, e.refIdx)

/-- The ID of a request for the reference. -/
def RefEntry.cid (e : RefEntry) (tag : String) : String := RefCheck.cid e.candidateIdx e.refIdx tag

/-- The references of one candidate. -/
def CandidateBatchInput.entries (c : CandidateBatchInput) (candidateIdx : ℕ) : List RefEntry :=
  c.references.mapIdx fun r ref => ⟨candidateIdx, r, c, ref⟩

/-- All references, in the order of the loops. -/
def refEntries (candidates : List CandidateBatchInput) : List RefEntry :=
  (candidates.mapIdx fun c candidate => candidate.entries c).flatten

/-- `d[key]` on the dictionaries of the references. -/
def getRef {V : Type} (d : Dict RefKey V) (key : RefKey) : Except PyException V :=
  match d.get? key with
  | some v => .ok v
  | none => .error (.keyError ("(" ++ toString key.1 ++ ", " ++ toString key.2 ++ ")"))

/-- `d[c_idx]` on the dictionaries of the candidates. -/
def getCandidate {V : Type} (d : Dict ℕ V) (candidateIdx : ℕ) : Except PyException V :=
  match d.get? candidateIdx with
  | some v => .ok v
  | none => .error (.keyError (toString candidateIdx))

section pipeline

variable (env : Env) (backend : Backend)

/-- One batch; without items nothing is submitted. -/
def runPhase (items : List BatchItem) : Except PyException BatchResults :=
  if items = [] then .ok .empty else backend.runBatchSync items

/-- An item, for the model of a tier. -/
def Backend.item (customId : String) (prompts : String × String) (outputModel : OutputModel)
    (tier : ModelTier) : BatchItem where
  customId := customId
  system := prompts.1
  userMessage := prompts.2
  outputModel := outputModel
  model := backend.getModel tier

/-! ### Phase 0: validation -/

/-- A reference that fails validation is excluded, with the message of the exception. -/
def phase0Step (invalidRefs : Dict RefKey String) (e : RefEntry) :
    Except PyException (Dict RefKey String) :=
  match validateReference env e.candidate.candidateName e.ref with
  | .ok () => .ok invalidRefs
  | .error err =>
    if err.isValueError then .ok (invalidRefs.set e.key err.str) else .error err

/-! ### Phase 1: facts and sentiment of the transcripts -/

def phase1ItemsOf (invalidRefs : Dict RefKey String) (e : RefEntry) : List BatchItem :=
  if invalidRefs.contains e.key ∨ e.ref.type ≠ .REF1 then [] else
    [backend.item (e.cid "extract") (extractFactsRequest env.toPyText e.candidate.candidateName
        e.candidate.roleAppliedFor e.candidate.claimedDetails (pyStr e.ref.rawInput))
        .extractedFacts .extraction,
      backend.item (e.cid "sentiment") (sentimentAndRedFlagsRequest (pyStr e.ref.rawInput))
        .sentimentAndRedFlags .extraction]

/-! ### Phase 2: discrepancies, and the evaluation of the forms -/

/-- The dictionaries of the evidence. -/
structure EvidenceTables where
  discrepanciesByRef : Dict RefKey (List Discrepancy) := .empty
  extractedByRef : Dict RefKey ExtractedFacts := .empty
  sentimentByRef : Dict RefKey String := .empty
  redFlagsByRef : Dict RefKey (List String) := .empty

/-- What stands for the sentiment of a result: of a failed one, a record built in its place. -/
def sentimentObj : BatchItemResult .sentimentAndRedFlags → Except PyException SentimentAndRedFlags
  | .succeeded value => .ok value
  | .failed _ => SentimentAndRedFlags.construct "unclear" []

def phase2Step (invalidRefs : Dict RefKey String) (phase1Results : BatchResults)
    (t : EvidenceTables) (e : RefEntry) : Except PyException EvidenceTables :=
  if invalidRefs.contains e.key then .ok t else
    match e.ref.type with
    | .REF1 => do
      let extractResult ← phase1Results.getItem .extractedFacts (e.cid "extract")
      let sentimentResult ← phase1Results.getItem .sentimentAndRedFlags (e.cid "sentiment")
      let facts := extractResult.value?.getD {}
      let sentiment ← sentimentObj sentimentResult
      return {
        extractedByRef := t.extractedByRef.set e.key facts
        sentimentByRef := t.sentimentByRef.set e.key sentiment.sentiment.text
        redFlagsByRef := t.redFlagsByRef.set e.key sentiment.redFlags
        discrepanciesByRef :=
          t.discrepanciesByRef.set e.key (diffFacts env e.candidate.claimedDetails facts) }
    | .REF2 =>
      match e.ref.yesNoForm with
      | none => .error (.attributeError "confirmed_title")
      | some form =>
        let evaluation := evaluateYesNoForm e.candidate.claimedDetails form
        .ok {
          extractedByRef := t.extractedByRef.set e.key {}
          sentimentByRef := t.sentimentByRef.set e.key evaluation.sentiment
          redFlagsByRef := t.redFlagsByRef.set e.key evaluation.redFlags
          discrepanciesByRef := t.discrepanciesByRef.set e.key evaluation.discrepancies }

/-! ### Phase 3: sentiment of the comments -/

def phase3ItemsOf (invalidRefs : Dict RefKey String) (e : RefEntry) :
    Except PyException (List BatchItem) :=
  if invalidRefs.contains e.key ∨ e.ref.type ≠ .REF2 then .ok [] else
    match e.ref.yesNoForm with
    | none => .error (.attributeError "additional_comments")
    | some form =>
      if form.strippedComments = "" then .ok [] else
        .ok [backend.item (e.cid "comment_sentiment")
          (sentimentAndRedFlagsRequest form.strippedComments) .sentimentAndRedFlags .extraction]

def phase3Step (phase3Results : BatchResults) (t : EvidenceTables) (item : BatchItem) :
    Except PyException EvidenceTables := do
  let key ← parseCid item.customId
  match phase3Results.value? .sentimentAndRedFlags item.customId with
  | some value =>
    let redFlags ← getRef t.redFlagsByRef key
    return { t with
      sentimentByRef := t.sentimentByRef.set key value.sentiment.text
      redFlagsByRef := t.redFlagsByRef.set key (redFlags ++ value.redFlags) }
  | none => return t

/-! ### Phase 4: notes on the discrepancies -/

def phase4ItemsOf (invalidRefs : Dict RefKey String) (t : EvidenceTables) (e : RefEntry) :
    Except PyException (List BatchItem) :=
  if invalidRefs.contains e.key ∨ e.ref.type ≠ .REF1 then .ok [] else do
    let discrepancies ← getRef t.discrepanciesByRef e.key
    if discrepancies = [] then return [] else
      return [backend.item (e.cid "explain") (explainDiscrepanciesRequest env.toPyText discrepancies)
        .discrepancyNotes .reasoning]

def phase4Step (phase4Results : BatchResults) (t : EvidenceTables) (item : BatchItem) :
    Except PyException EvidenceTables := do
  let key ← parseCid item.customId
  match phase4Results.value? .discrepancyNotes item.customId with
  | some notes =>
    let discrepancies ← getRef t.discrepanciesByRef key
    return { t with discrepanciesByRef := t.discrepanciesByRef.set key (applyNotes notes discrepancies) }
  | none => return t

/-! ### Phase 5: scores -/

/-- The dictionaries of the scores. -/
structure ScoreTables where
  confidenceByRef : Dict RefKey ℚ := .empty
  needsReviewByRef : Dict RefKey Bool := .empty
  routeByRef : Dict RefKey ReviewRoute := .empty

def phase5Step (invalidRefs : Dict RefKey String) (t : EvidenceTables) (scores : ScoreTables)
    (e : RefEntry) : Except PyException ScoreTables :=
  if invalidRefs.contains e.key then .ok scores else do
    let discrepancies ← getRef t.discrepanciesByRef e.key
    let redFlags ← getRef t.redFlagsByRef e.key
    let sentiment ← getRef t.sentimentByRef e.key
    let score := scoreConfidence env discrepancies redFlags sentiment
    return {
      confidenceByRef := scores.confidenceByRef.set e.key score.confidenceScore
      needsReviewByRef := scores.needsReviewByRef.set e.key score.needsHumanReview
      routeByRef := scores.routeByRef.set e.key (routeReview score.needsHumanReview) }

/-! ### Phase 6: summaries of the references -/

def phase6ItemsOf (invalidRefs : Dict RefKey String) (t : EvidenceTables) (scores : ScoreTables)
    (e : RefEntry) : Except PyException (List BatchItem) :=
  if invalidRefs.contains e.key then .ok [] else do
    let prompts ← match ← getRef scores.routeByRef e.key with
      | .flagForHumanReview => do
        let confidence ← getRef scores.confidenceByRef e.key
        let sentiment ← getRef t.sentimentByRef e.key
        let discrepancies ← getRef t.discrepanciesByRef e.key
        let redFlags ← getRef t.redFlagsByRef e.key
        pure (flagForHumanReviewRequest env.toPyText e.candidate.candidateName
          e.candidate.roleAppliedFor confidence sentiment discrepancies redFlags)
      | .autoSummarize => do
        let confidence ← getRef scores.confidenceByRef e.key
        let sentiment ← getRef t.sentimentByRef e.key
        pure (autoSummarizeRequest env.toPyText e.candidate.candidateName
          e.candidate.roleAppliedFor confidence sentiment e.candidate.claimedDetails)
    return [backend.item (e.cid "summary") prompts .finalSummary .reasoning]

/-! ### The results of the references -/

/-- The result of a reference that failed validation. -/
def excludedResult (ref : ReferenceInput) (message : String) : ReferenceResult where
  referenceName := ref.referenceName
  relationship := ref.relationship
  extractedFacts := {}
  discrepancies := []
  sentiment := "unclear"
  redFlags := ["Excluded from batch: " ++ message]
  confidenceScore := 0
  needsHumanReview := true
  referenceSummary :=
    "This reference failed input validation and was not processed. Manual review required."

/-- What stands in place of a summary that did not come back. -/
def missingSummary : String :=
  "Summary generation failed for this reference. Manual review required."

/-- The result of one reference. -/
def assembleResult (invalidRefs : Dict RefKey String) (t : EvidenceTables) (scores : ScoreTables)
    (phase6Results : BatchResults) (e : RefEntry) : Except PyException ReferenceResult :=
  match invalidRefs.get? e.key with
  | some message => .ok (excludedResult e.ref message)
  | none => do
    let summary := phase6Results.value? .finalSummary (e.cid "summary")
    let extracted ← getRef t.extractedByRef e.key
    let discrepancies ← getRef t.discrepanciesByRef e.key
    let sentiment ← getRef t.sentimentByRef e.key
    let redFlags ← getRef t.redFlagsByRef e.key
    let confidence ← getRef scores.confidenceByRef e.key
    let needsReview ← getRef scores.needsReviewByRef e.key
    return {
      referenceName := e.ref.referenceName
      relationship := e.ref.relationship
      extractedFacts := extracted
      discrepancies
      sentiment
      redFlags
      confidenceScore := confidence
      needsHumanReview := needsReview || summary.isNone
      referenceSummary := (summary.map (·.summary)).getD missingSummary }

/-- Appends the result of one reference to the list of its candidate. -/
def assemblyStep (invalidRefs : Dict RefKey String) (t : EvidenceTables) (scores : ScoreTables)
    (phase6Results : BatchResults) (byCandidate : Dict ℕ (List ReferenceResult)) (e : RefEntry) :
    Except PyException (Dict ℕ (List ReferenceResult)) := do
  let results ← getCandidate byCandidate e.candidateIdx
  let result ← assembleResult invalidRefs t scores phase6Results e
  return byCandidate.set e.candidateIdx (results ++ [result])

/-! ### Phase 7: the verdicts on the candidates -/

/-- The dictionaries of the candidates. -/
structure CandidateTables where
  crossFlagsByCandidate : Dict ℕ (List CrossReferenceFlag) := .empty
  overallConfidenceByCandidate : Dict ℕ ℚ := .empty
  overallNeedsReviewByCandidate : Dict ℕ Bool := .empty
  overallRouteByCandidate : Dict ℕ OverallRoute := .empty

def phase7Step (byCandidate : Dict ℕ (List ReferenceResult)) (t : CandidateTables)
    (candidateIdx : ℕ) : Except PyException CandidateTables := do
  let results ← getCandidate byCandidate candidateIdx
  let flags := crossCheckReferences env.toPyText results
  let score ← scoreOverall env results flags
  return {
    crossFlagsByCandidate := t.crossFlagsByCandidate.set candidateIdx flags
    overallConfidenceByCandidate :=
      t.overallConfidenceByCandidate.set candidateIdx score.overallConfidence
    overallNeedsReviewByCandidate :=
      t.overallNeedsReviewByCandidate.set candidateIdx score.overallNeedsReview
    overallRouteByCandidate :=
      t.overallRouteByCandidate.set candidateIdx (routeOverallReview score.overallNeedsReview) }

/-! ### Phase 8: overall summaries -/

def phase8Item (byCandidate : Dict ℕ (List ReferenceResult)) (t : CandidateTables)
    (p : CandidateBatchInput × ℕ) : Except PyException BatchItem := do
  let (candidate, candidateIdx) := p
  let prompts ← match ← getCandidate t.overallRouteByCandidate candidateIdx with
    | .overallFlagForReview => do
      let confidence ← getCandidate t.overallConfidenceByCandidate candidateIdx
      let results ← getCandidate byCandidate candidateIdx
      let flags ← getCandidate t.crossFlagsByCandidate candidateIdx
      pure (overallFlagForReviewRequest env.toPyText candidate.candidateName
        candidate.roleAppliedFor confidence results flags)
    | .overallClear => do
      let confidence ← getCandidate t.overallConfidenceByCandidate candidateIdx
      let results ← getCandidate byCandidate candidateIdx
      pure (overallClearRequest env.toPyText candidate.candidateName candidate.roleAppliedFor
        confidence results)
  return backend.item (overallCid candidateIdx) prompts .overallSummary .reasoning

/-- One entry of the output, in the shape of a `CandidateState`. -/
structure CandidateOutput where
  candidateName : String
  roleAppliedFor : String
  claimedDetails : ClaimedDetails
  referenceResults : List ReferenceResult
  crossReferenceFlags : List CrossReferenceFlag
  overallConfidence : ℚ
  overallNeedsReview : Bool
  overallSummary : String
  deriving DecidableEq

/-- What stands in place of an overall summary that did not come back. -/
def missingOverallSummary : String := "Overall summary generation failed. Manual review required."

def candidateOutput (byCandidate : Dict ℕ (List ReferenceResult)) (t : CandidateTables)
    (phase8Results : BatchResults) (p : CandidateBatchInput × ℕ) :
    Except PyException CandidateOutput := do
  let (candidate, candidateIdx) := p
  let summary := phase8Results.value? .overallSummary (overallCid candidateIdx)
  let results ← getCandidate byCandidate candidateIdx
  let flags ← getCandidate t.crossFlagsByCandidate candidateIdx
  let confidence ← getCandidate t.overallConfidenceByCandidate candidateIdx
  let needsReview ← getCandidate t.overallNeedsReviewByCandidate candidateIdx
  return {
    candidateName := candidate.candidateName
    roleAppliedFor := candidate.roleAppliedFor
    claimedDetails := candidate.claimedDetails
    referenceResults := results
    crossReferenceFlags := flags
    overallConfidence := confidence
    overallNeedsReview := needsReview
    overallSummary := (summary.map (·.summary)).getD missingOverallSummary }

/-! ### The whole run -/

/-- A batch that was run: what was submitted, and what came back. -/
structure Batch where
  items : List BatchItem
  results : BatchResults

/-- A run that returned. -/
structure BatchRun where
  phase1 : Batch
  phase3 : Batch
  phase4 : Batch
  phase6 : Batch
  phase8 : Batch
  output : List CandidateOutput

/-- The dictionary of the results before any is appended. -/
def emptyResults (n : ℕ) : Dict ℕ (List ReferenceResult) :=
  .ofPairs ((List.range n).map fun c => (c, []))

/-- `run_batch_pipeline`, with its batches. -/
def batchRun (candidates : List CandidateBatchInput) : Except PyException BatchRun := do
  let entries := refEntries candidates
  let invalidRefs ← entries.foldlM (phase0Step env) .empty
  let phase1Items := entries.flatMap (phase1ItemsOf env backend invalidRefs)
  let phase1Results ← runPhase backend phase1Items
  let t ← entries.foldlM (phase2Step env invalidRefs phase1Results) {}
  let phase3Items ← Loop.collect (phase3ItemsOf backend invalidRefs) entries
  let phase3Results ← runPhase backend phase3Items
  let t ← phase3Items.foldlM (phase3Step phase3Results) t
  let phase4Items ← Loop.collect (phase4ItemsOf env backend invalidRefs t) entries
  let phase4Results ← runPhase backend phase4Items
  let t ← phase4Items.foldlM (phase4Step phase4Results) t
  let scores ← entries.foldlM (phase5Step env invalidRefs t) {}
  let phase6Items ← Loop.collect (phase6ItemsOf env backend invalidRefs t scores) entries
  let phase6Results ← runPhase backend phase6Items
  let byCandidate ← entries.foldlM (assemblyStep invalidRefs t scores phase6Results)
    (emptyResults candidates.length)
  let verdicts ← (List.range candidates.length).foldlM (phase7Step env byCandidate) {}
  let phase8Items ← candidates.zipIdx.mapM (phase8Item env backend byCandidate verdicts)
  let phase8Results ← runPhase backend phase8Items
  let output ← candidates.zipIdx.mapM (candidateOutput byCandidate verdicts phase8Results)
  return {
    phase1 := ⟨phase1Items, phase1Results⟩
    phase3 := ⟨phase3Items, phase3Results⟩
    phase4 := ⟨phase4Items, phase4Results⟩
    phase6 := ⟨phase6Items, phase6Results⟩
    phase8 := ⟨phase8Items, phase8Results⟩
    output }

/-- `run_batch_pipeline`. -/
def runBatchPipeline (candidates : List CandidateBatchInput) :
    Except PyException (List CandidateOutput) :=
  BatchRun.output <$> batchRun env backend candidates

end pipeline

end RefCheck
