import RefCheck.Model.CandidateNodes
import RefCheck.Model.Requests

/-!
# Evidence and verdicts

What a review is about, whichever path runs it. The evidence about a reference is scored, the score
decides which summary is asked for, and both make the result of the reference; the results of a
candidate have a verdict, which decides the overall summary.
-/

namespace RefCheck

/-! ### One reference -/

/-- Whom a review is about. -/
structure Subject where
  candidateName : String
  roleAppliedFor : String
  claimedDetails : ClaimedDetails

def CandidateBatchInput.subject (c : CandidateBatchInput) : Subject :=
  ⟨c.candidateName, c.roleAppliedFor, c.claimedDetails⟩

/-- What is known about a reference when it is scored. -/
structure Evidence where
  facts : ExtractedFacts
  discrepancies : List Discrepancy
  sentiment : String
  redFlags : List String

def Evidence.score (env : Env) (ev : Evidence) : ScoreResult :=
  scoreConfidence env ev.discrepancies ev.redFlags ev.sentiment

/-- The prompts of the summary that the score routes to. -/
def Evidence.summaryPrompts (env : Env) (subj : Subject) (ev : Evidence) : String × String :=
  match routeReview (ev.score env).needsHumanReview with
  | .flagForHumanReview =>
    flagForHumanReviewRequest env.toPyText subj.candidateName subj.roleAppliedFor
      (ev.score env).confidenceScore ev.sentiment ev.discrepancies ev.redFlags
  | .autoSummarize =>
    autoSummarizeRequest env.toPyText subj.candidateName subj.roleAppliedFor
      (ev.score env).confidenceScore ev.sentiment subj.claimedDetails

/-- The evidence of a form before its comments are read. -/
def formEvidence (claimed : ClaimedDetails) (form : YesNoReferenceForm) : Evidence :=
  let evaluation := evaluateYesNoForm claimed form
  ⟨{}, evaluation.discrepancies, evaluation.sentiment, evaluation.redFlags⟩

/-- The evidence after the comments were read. -/
def Evidence.withComments (ev : Evidence) (result : SentimentAndRedFlags) : Evidence :=
  { ev with sentiment := result.sentiment.text, redFlags := ev.redFlags ++ result.redFlags }

/-- The result of a reviewed reference. -/
def ReferenceInput.reviewed (ref : ReferenceInput) (env : Env) (ev : Evidence) (summary : String) :
    ReferenceResult where
  referenceName := ref.referenceName
  relationship := ref.relationship
  extractedFacts := ev.facts
  discrepancies := ev.discrepancies
  sentiment := ev.sentiment
  redFlags := ev.redFlags
  confidenceScore := (ev.score env).confidenceScore
  needsHumanReview := (ev.score env).needsHumanReview
  referenceSummary := summary

/-! ### The candidate -/

/-- The verdict over the results and the flags that they raise. -/
def verdict (env : Env) (results : List ReferenceResult) : OverallScore :=
  overallScore env results (crossCheckReferences env.toPyText results)

/-- The prompts of the overall summary that the verdict routes to. -/
def overallPrompts (env : Env) (subj : Subject) (results : List ReferenceResult) : String × String :=
  match routeOverallReview (verdict env results).overallNeedsReview with
  | .overallFlagForReview =>
    overallFlagForReviewRequest env.toPyText subj.candidateName subj.roleAppliedFor
      (verdict env results).overallConfidence results (crossCheckReferences env.toPyText results)
  | .overallClear =>
    overallClearRequest env.toPyText subj.candidateName subj.roleAppliedFor
      (verdict env results).overallConfidence results

end RefCheck
