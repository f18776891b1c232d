import RefCheck.Batch.Replies
import RefCheck.Lib.Lists

/-!
# Lost items and the review flags

A batch is fail-safe when a reference with a lost item, and its candidate, are left to a reviewer.
The pipeline is not: a lost extraction counts as empty facts, a lost explanation as no notes, lost
comments as the answers of the form alone, and each may score as clean. `failSafe_iff` says for
which replies it is fail-safe. A lost summary does flag its reference, but a lost overall summary
does not flag the candidate; `summaryForcesReview_iff` says when the flag is there all the same.
-/

namespace RefCheck

variable {env : Env} {backend : Backend} {candidates : List CandidateBatchInput} {run : BatchRun}

/-! ### A small batch -/

def sampleEnv : Env := .shipped .plain

def sampleClaim : ClaimedDetails where
  jobTitle := "Analyst"
  company := "Acme"
  startDate := "2021-01"
  endDate := some "2023-01"

/-- A reference by transcript. -/
def sampleTranscript (name : String) : ReferenceInput where
  referenceName := name
  relationship := "Manager"
  rawInput := some "She was a reliable analyst."

def sampleCandidate (references : List ReferenceInput) : CandidateBatchInput where
  candidateName := "Ann"
  roleAppliedFor := "Analyst"
  claimedDetails := sampleClaim
  references := references

/-- Replies that find nothing. -/
def cleanReply : (m : OutputModel) → BatchItemResult m
  | .extractedFacts => .succeeded {}
  | .sentimentAndRedFlags => .succeeded ⟨.positive, []⟩
  | .discrepancyNotes => .succeeded ⟨[]⟩
  | .finalSummary => .succeeded ⟨"Fine."⟩
  | .overallSummary => .succeeded ⟨"Fine."⟩

def sampleModel : ModelTier → String
  | .extraction => "small"
  | .reasoning => "large"

/-- A backend that answers every item by the model it asks for. -/
def replyBackend (reply : (m : OutputModel) → BatchItemResult m) : Backend :=
  .fixed sampleModel ⟨fun m _ => some (reply m)⟩

theorem valid_sampleTranscript (name : String) : (sampleTranscript name).Valid sampleEnv := by
  show RawInputOk sampleEnv (some "She was a reliable analyst.")
  decide

theorem exists_batchRun_replyBackend (env : Env) (candidates : List CandidateBatchInput)
    (reply : (m : OutputModel) → BatchItemResult m) (hne : ∀ c ∈ candidates, c.references ≠ [])
    (hsentiment : ((reply .sentimentAndRedFlags).value?).isSome) :
    ∃ run, batchRun env (replyBackend reply) candidates = .ok run := by
  refine (exists_batchRun_iff (gives_fixed _ _)).mpr ⟨hne, ?_⟩
  rintro e - - -
  exact ⟨rfl, hsentiment⟩

theorem replies_replyBackend {reply : (m : OutputModel) → BatchItemResult m}
    (h : run.Refines env (replyBackend reply) candidates) {i j : ℕ} {c : CandidateBatchInput}
    {ref : ReferenceInput} (hc : candidates[i]? = some c) (hr : c.references[j]? = some ref)
    (hvalid : ref.Valid env) (htype : ref.type = .REF1) :
    run.replies i j .extract = (reply .extractedFacts).value? ∧
    run.replies i j .sentiment = (reply .sentimentAndRedFlags).value? ∧
    run.replies i j .summary = (reply .finalSummary).value? :=
  ⟨h.replies_eq_repliesAt (gives_fixed _ _) hc hr (asks_iff.mpr ⟨hvalid, htype⟩),
    h.replies_eq_repliesAt (gives_fixed _ _) hc hr (asks_iff.mpr ⟨hvalid, htype⟩),
    h.replies_eq_repliesAt (gives_fixed _ _) hc hr (asks_iff.mpr ⟨hvalid, trivial⟩)⟩

/-! ### Lost items -/

/-- A reference with a lost item is left to a reviewer, and so is its candidate. -/
def BatchRun.FailSafe (run : BatchRun) : Prop :=
  ∀ i j out r, run.output[i]? = some out → out.referenceResults[j]? = some r → run.LostFor i j →
    r.needsHumanReview = true ∧ out.overallNeedsReview = true

/-- What did come back for a reference asks for a review by itself, whenever something was lost:
the sentiment without the facts, the diff without its explanation, the form without its comments. -/
structure LossFlagged (env : Env) (claimed : ClaimedDetails) (ref : ReferenceInput)
    (a : RefReplies) : Prop where
  extract : ref.type = .REF1 → a .extract = none → ∀ s, a .sentiment = some s →
    (scoreConfidence env [] s.redFlags s.sentiment.text).needsHumanReview = true
  explain : ref.type = .REF1 → ∀ facts, a .extract = some facts → ∀ s, a .sentiment = some s →
    diffFacts env claimed facts ≠ [] → a .explain = none →
    (scoreConfidence env (diffFacts env claimed facts) s.redFlags
      s.sentiment.text).needsHumanReview = true
  comments : ref.type = .REF2 → ∀ form, ref.yesNoForm = some form → form.hasComments = true →
    a .commentSentiment = none →
    (scoreConfidence env (evaluateYesNoForm claimed form).discrepancies
      (evaluateYesNoForm claimed form).redFlags
      (evaluateYesNoForm claimed form).sentiment).needsHumanReview = true

theorem score_commentedEvidence_of_transcript {ref : ReferenceInput} {claimed : ClaimedDetails}
    {a : RefReplies} (htype : ref.type = .REF1) {s : SentimentAndRedFlags}
    (hs : a .sentiment = some s) :
    (ref.commentedEvidence env claimed a).score env =
      scoreConfidence env (diffFacts env claimed ((a .extract).getD {})) s.redFlags
        s.sentiment.text := by
  rw [commentedEvidence_of_transcript htype, firstEvidence_of_transcript htype, hs]
  rfl

theorem score_commentedEvidence_of_form {ref : ReferenceInput} {claimed : ClaimedDetails}
    {a : RefReplies} {form : YesNoReferenceForm} (htype : ref.type = .REF2)
    (hform : ref.yesNoForm = some form) (hlost : a .commentSentiment = none) :
    (ref.commentedEvidence env claimed a).score env =
      scoreConfidence env (evaluateYesNoForm claimed form).discrepancies
        (evaluateYesNoForm claimed form).redFlags (evaluateYesNoForm claimed form).sentiment := by
  unfold ReferenceInput.commentedEvidence
  rw [hlost, ite_self, firstEvidence_of_form htype hform]
  rfl

theorem BatchRun.Refines.exists_sentiment (h : run.Refines env backend candidates) {i j : ℕ}
    {c : CandidateBatchInput} {ref : ReferenceInput} (hc : candidates[i]? = some c)
    (hr : c.references[j]? = some ref) (hvalid : ref.Valid env) (htype : ref.type = .REF1) :
    ∃ s, run.replies i j .sentiment = some s :=
  Option.isSome_iff_exists.mp
    (h.hasPhase1 _ (mem_refEntries_of_getElem? hc hr) hvalid htype).2

/-- A reference without its summary flags itself; with its summary, what was lost flags it exactly
when the replies that did come back do. -/
theorem flagged_of_lost_iff {claimed : ClaimedDetails} {ref : ReferenceInput} {a : RefReplies}
    (hvalid : ref.Valid env) (hsentiment : ref.type = .REF1 → ∃ s, a .sentiment = some s)
    (hsummary : a .summary ≠ none) :
    ((∃ s, ref.asks env claimed a s = true ∧ a s = none) →
        ((ref.commentedEvidence env claimed a).score env).needsHumanReview = true) ↔
      LossFlagged env claimed ref a := by
  constructor
  · intro h
    refine ⟨fun htype hlost s hs => ?_, fun htype facts hfacts s hs hne hlost => ?_,
      fun htype form hform hcomments hlost => ?_⟩
    · have hflag := h ⟨.extract, asks_iff.mpr ⟨hvalid, htype⟩, hlost⟩
      rw [score_commentedEvidence_of_transcript htype hs, hlost] at hflag
      exact hflag
    · have hfirst : (ref.firstEvidence env claimed a).discrepancies ≠ [] := by
        rw [firstEvidence_of_transcript htype, hfacts]
        exact hne
      have hflag := h ⟨.explain, asks_iff.mpr ⟨hvalid, htype, hfirst⟩, hlost⟩
      rw [score_commentedEvidence_of_transcript htype hs, hfacts] at hflag
      exact hflag
    · have hasks : ref.asks env claimed a .commentSentiment = true :=
        asks_iff.mpr ⟨hvalid, (hasComments_of_form htype hform).trans hcomments⟩
      have hflag := h ⟨.commentSentiment, hasks, hlost⟩
      rw [score_commentedEvidence_of_form htype hform hlost] at hflag
      exact hflag
  · rintro hloss ⟨s, hasks, hlost⟩
    obtain ⟨-, hstep⟩ := asks_iff.mp hasks
    cases s with
    | extract =>
      obtain ⟨s, hs⟩ := hsentiment hstep
      rw [score_commentedEvidence_of_transcript hstep hs, hlost]
      exact hloss.extract hstep hlost s hs
    | sentiment =>
      obtain ⟨s, hs⟩ := hsentiment hstep
      rw [hs] at hlost
      cases hlost
    | commentSentiment =>
      obtain ⟨form, comments, htype, hform, -, -⟩ := hasComments_iff.mp hstep
      rw [score_commentedEvidence_of_form htype hform hlost]
      exact hloss.comments htype form hform ((hasComments_of_form htype hform).symm.trans hstep) hlost
    | explain =>
      obtain ⟨htype, hne⟩ := hstep
      obtain ⟨s, hs⟩ := hsentiment htype
      rw [firstEvidence_of_transcript htype] at hne
      dsimp only at hne
      rw [score_commentedEvidence_of_transcript htype hs]
      cases hfacts : a .extract with
      | none =>
        rw [hfacts] at hne
        exact absurd rfl hne
      | some facts =>
        rw [hfacts] at hne
        exact hloss.explain htype facts hfacts s hs hne hlost
    | summary => exact absurd hlost hsummary

theorem overallNeedsReview_of_batchResult {c : CandidateBatchInput} {a : ℕ → RefReplies}
    {overall : Option OverallSummary} {j : ℕ} {ref : ReferenceInput}
    (hr : c.references[j]? = some ref)
    (h : (ref.batchResult env c.subject (a j)).needsHumanReview = true) :
    (c.batchOutput env a overall).overallNeedsReview = true := by
  have hmem : ref.batchResult env c.subject (a j) ∈ c.batchResults env a := by
    refine List.mem_of_getElem? (i := j) ?_
    rw [getElem?_batchResults, hr]
    rfl
  exact overallNeedsReview_of_mem hmem h

/-- **When a batch is fail-safe.** A run that returned is fail-safe exactly when every valid
reference whose summary came back is flagged by its other replies once one of its items is lost. -/
theorem failSafe_iff (h : batchRun env backend candidates = .ok run) :
    run.FailSafe ↔ ∀ i c j ref, candidates[i]? = some c → c.references[j]? = some ref →
      ref.Valid env → run.replies i j .summary ≠ none →
      LossFlagged env c.claimedDetails ref (run.replies i j) := by
  have hrun := batchRun_refines h
  constructor
  · intro hsafe i c j ref hc hr hvalid hsummary
    refine (flagged_of_lost_iff hvalid (hrun.exists_sentiment hc hr hvalid) hsummary).mp ?_
    intro hlost
    obtain ⟨hflag, -⟩ := hsafe i j _ _ (hrun.output_eq_some_iff.mpr ⟨c, hc, rfl⟩)
      (by rw [CandidateBatchInput.batchOutput, getElem?_batchResults, hr]; rfl)
      ((hrun.lostFor_iff hc hr).mpr hlost)
    rcases needsHumanReview_batchResult_iff.mp hflag with hinvalid | hnone | hflag
    · exact absurd hvalid hinvalid
    · exact absurd hnone hsummary
    · exact hflag
  · intro hflagged i j out r hout hr hlost
    obtain ⟨c, hc, rfl⟩ := hrun.output_eq_some_iff.mp hout
    rw [CandidateBatchInput.batchOutput, getElem?_batchResults, Option.map_eq_some_iff] at hr
    obtain ⟨ref, href, rfl⟩ := hr
    have hlost' := (hrun.lostFor_iff hc href).mp hlost
    have hvalid : ref.Valid env := by
      obtain ⟨s, hasks, -⟩ := hlost'
      exact (asks_iff.mp hasks).1
    have hneeds : (ref.batchResult env c.subject (run.replies i j)).needsHumanReview = true := by
      refine needsHumanReview_batchResult_iff.mpr (Or.inr ?_)
      by_cases hsummary : run.replies i j .summary = none
      · exact Or.inl hsummary
      · exact Or.inr ((flagged_of_lost_iff hvalid (hrun.exists_sentiment hc href hvalid) hsummary).mpr
          (hflagged i c j ref hc href hvalid hsummary) hlost')
    exact ⟨hneeds, overallNeedsReview_of_batchResult href hneeds⟩

/-- Replies of which the extraction failed. -/
def withoutFacts (sentiment : SentimentAndRedFlags) : (m : OutputModel) → BatchItemResult m
  | .extractedFacts => .failed "expired"
  | .sentimentAndRedFlags => .succeeded sentiment
  | .discrepancyNotes => .succeeded ⟨[]⟩
  | .finalSummary => .succeeded ⟨"Fine."⟩
  | .overallSummary => .succeeded ⟨"Fine."⟩

/-- With a red flag in the sentiment reply, the lost extraction is harmless. -/
theorem failSafe_of_red_flag : ∃ run,
    batchRun sampleEnv (replyBackend (withoutFacts ⟨.negative, ["Often late"]⟩))
      [sampleCandidate [sampleTranscript "Bob"]] = .ok run ∧ run.FailSafe := by
  obtain ⟨run, h⟩ := exists_batchRun_replyBackend sampleEnv
    [sampleCandidate [sampleTranscript "Bob"]] (withoutFacts ⟨.negative, ["Often late"]⟩)
    (by simp [sampleCandidate]) rfl
  refine ⟨run, h, (failSafe_iff h).mpr ?_⟩
  intro i c j ref hc hr hvalid hsummary
  obtain ⟨rfl, rfl⟩ := Lists.eq_of_getElem?_singleton hc
  obtain ⟨rfl, rfl⟩ := Lists.eq_of_getElem?_singleton hr
  obtain ⟨hextract, hsentiment, -⟩ := replies_replyBackend (batchRun_refines h) hc hr hvalid rfl
  refine ⟨fun _ _ s hs => ?_, fun _ facts hfacts => ?_, fun htype => absurd htype (by decide)⟩
  · cases hsentiment.symm.trans hs
    decide +kernel
  · cases hextract.symm.trans hfacts

/-- A transcript whose extraction is lost and whose tone is good is reported clean. -/
theorem lost_extraction_reported_clean : ∃ run,
    batchRun sampleEnv (replyBackend (withoutFacts ⟨.positive, []⟩))
      [sampleCandidate [sampleTranscript "Bob"]] = .ok run ∧ ¬ run.FailSafe := by
  obtain ⟨run, h⟩ := exists_batchRun_replyBackend sampleEnv
    [sampleCandidate [sampleTranscript "Bob"]] (withoutFacts ⟨.positive, []⟩)
    (by simp [sampleCandidate]) rfl
  refine ⟨run, h, fun hsafe => ?_⟩
  have hrun := batchRun_refines h
  have hvalid := valid_sampleTranscript "Bob"
  have hc : [sampleCandidate [sampleTranscript "Bob"]][0]? =
      some (sampleCandidate [sampleTranscript "Bob"]) := rfl
  have hr : (sampleCandidate [sampleTranscript "Bob"]).references[0]? =
      some (sampleTranscript "Bob") := rfl
  obtain ⟨hextract, hsentiment, hsummary⟩ := replies_replyBackend hrun hc hr hvalid rfl
  have hlost : run.LostFor 0 0 :=
    (hrun.lostFor_iff hc hr).mpr ⟨.extract, asks_iff.mpr ⟨hvalid, rfl⟩, hextract⟩
  obtain ⟨hflag, -⟩ := hsafe 0 0 _ _ (hrun.output_eq_some_iff.mpr ⟨_, hc, rfl⟩)
    (by rw [CandidateBatchInput.batchOutput, getElem?_batchResults, hr]; rfl) hlost
  rcases needsHumanReview_batchResult_iff.mp hflag with hinvalid | hnone | hscore
  · exact hinvalid hvalid
  · rw [hsummary] at hnone
    cases hnone
  · rw [score_commentedEvidence_of_transcript rfl hsentiment, hextract] at hscore
    exact absurd hscore (by decide +kernel)

/-! ### Lost summaries -/

/-- A lost summary flags its reference and the candidate, a lost overall summary the candidate. -/
def BatchRun.SummaryForcesReview (run : BatchRun) : Prop :=
  (∀ i j out r, run.output[i]? = some out → out.referenceResults[j]? = some r →
      (∃ item, item.customId = cid i j "summary" ∧ run.phase6.Lost item) →
      r.needsHumanReview = true ∧ out.overallNeedsReview = true) ∧
  ∀ i out, run.output[i]? = some out →
    (∃ item, item.customId = overallCid i ∧ run.phase8.Lost item) → out.overallNeedsReview = true

namespace CandidateBatchInput

variable (c : CandidateBatchInput)

/-- Who says what: the facts that came back for the transcripts. -/
def testimonies (env : Env) (a : ℕ → RefReplies) : List (String × ExtractedFacts) :=
  c.references.mapIdx fun j ref => (ref.referenceName,
    if ref.Valid env then (ref.firstEvidence env c.claimedDetails (a j)).facts else {})

/-- The scores of the evidence that came back for each reference. -/
def confidences (env : Env) (a : ℕ → RefReplies) : List ℚ :=
  c.references.mapIdx fun j ref =>
    ((ref.commentedEvidence env c.claimedDetails (a j)).score env).confidenceScore

/-- The candidate is due for a review whatever comes of the overall summary: a reference is invalid,
has lost its summary or is flagged by its evidence, or the references disagree, or their average is
below the threshold. -/
def ReviewDue (env : Env) (a : ℕ → RefReplies) : Prop :=
  (∃ j ref, c.references[j]? = some ref ∧ (¬ ref.Valid env ∨ a j .summary = none ∨
    ((ref.commentedEvidence env c.claimedDetails (a j)).score env).needsHumanReview = true)) ∨
  Disagree env.toPyText (c.testimonies env a) ∨
  clampScore ((c.confidences env a).sum / (c.confidences env a).length) < env.overallReviewThreshold

end CandidateBatchInput

theorem testimony_batchResult {ref : ReferenceInput} {subj : Subject} {a : RefReplies} :
    (ref.batchResult env subj a).testimony = (ref.referenceName,
      if ref.Valid env then (ref.firstEvidence env subj.claimedDetails a).facts else {}) := by
  by_cases hvalid : ref.Valid env
  · rw [batchResult_of_valid hvalid, if_pos hvalid, ← facts_evidence]
    rfl
  · obtain ⟨e, -, hresult⟩ := batchResult_of_not_valid subj a hvalid
    rw [hresult, if_neg hvalid]
    rfl

theorem map_testimony_batchResults (c : CandidateBatchInput) (a : ℕ → RefReplies) :
    (c.batchResults env a).map (·.testimony) = c.testimonies env a := by
  refine (List.mapIdx_eq_iff.mpr fun j => ?_).symm
  rw [List.getElem?_map, getElem?_batchResults, Option.map_map]
  congr 1
  funext ref
  exact testimony_batchResult

theorem map_confidenceScore_batchResults {c : CandidateBatchInput} {a : ℕ → RefReplies}
    (h : ∀ ref ∈ c.references, ref.Valid env) :
    (c.batchResults env a).map (·.confidenceScore) = c.confidences env a := by
  refine (List.mapIdx_eq_iff.mpr fun j => ?_).symm
  rw [List.getElem?_map, getElem?_batchResults]
  cases hr : c.references[j]? with
  | none => rfl
  | some ref =>
    rw [Option.map_some, Option.map_some, Option.map_some,
      batchResult_of_valid (h ref (List.mem_of_getElem? hr))]
    show some ((ref.evidence env c.claimedDetails (a j)).score env).confidenceScore = _
    rw [score_evidence]

/-- When a candidate is left to a reviewer, by what came back for the references. -/
theorem overallNeedsReview_batchOutput_iff {c : CandidateBatchInput} {a : ℕ → RefReplies}
    {overall : Option OverallSummary} :
    (c.batchOutput env a overall).overallNeedsReview = true ↔ c.ReviewDue env a := by
  by_cases hflagged : ∃ j ref, c.references[j]? = some ref ∧ (¬ ref.Valid env ∨
      a j .summary = none ∨
        ((ref.commentedEvidence env c.claimedDetails (a j)).score env).needsHumanReview = true)
  · obtain ⟨j, ref, hr, hflag⟩ := hflagged
    have hneeds : (ref.batchResult env c.subject (a j)).needsHumanReview = true :=
      needsHumanReview_batchResult_iff.mpr hflag
    exact iff_of_true (overallNeedsReview_of_batchResult hr hneeds)
      (Or.inl ⟨j, ref, hr, hflag⟩)
  · have hclear : ∀ r ∈ c.batchResults env a, r.needsHumanReview = false := by
      intro r hr
      obtain ⟨j, hj⟩ := List.mem_iff_getElem?.mp hr
      rw [getElem?_batchResults, Option.map_eq_some_iff] at hj
      obtain ⟨ref, href, rfl⟩ := hj
      rw [Bool.eq_false_iff]
      intro hneeds
      have hflag := needsHumanReview_batchResult_iff.mp hneeds
      exact hflagged ⟨j, ref, href, hflag⟩
    have hvalid : ∀ ref ∈ c.references, ref.Valid env := by
      intro ref href
      obtain ⟨j, hj⟩ := List.mem_iff_getElem?.mp href
      by_contra hinvalid
      exact hflagged ⟨j, ref, hj, Or.inl hinvalid⟩
    unfold CandidateBatchInput.ReviewDue
    rw [or_iff_right hflagged, ← map_testimony_batchResults, ← crossCheckReferences_ne_nil_iff,
      ← map_confidenceScore_batchResults hvalid, List.length_map]
    show (overallScore env (c.batchResults env a) _).overallNeedsReview = true ↔ _
    by_cases hflags : crossCheckReferences env.toPyText (c.batchResults env a) = []
    · have hany : (c.batchResults env a).any (·.needsHumanReview) = false := by
        rw [List.any_eq_false]
        intro r hr
        rw [hclear r hr]
        exact Bool.false_ne_true
      simp [overallScore, rawOverall, hflags, hany]
    · exact iff_of_true (overallNeedsReview_of_flags hflags) (Or.inl hflags)

/-- **When a missing summary forces a review.** In a run that returned it does at both levels exactly
when every candidate whose overall summary was lost is due for a review anyway. -/
theorem summaryForcesReview_iff (h : batchRun env backend candidates = .ok run) :
    run.SummaryForcesReview ↔ ∀ i c, candidates[i]? = some c → run.overallReply i = none →
      c.ReviewDue env (run.replies i) := by
  have hrun := batchRun_refines h
  constructor
  · rintro ⟨-, hoverall⟩ i c hc hlost
    refine overallNeedsReview_batchOutput_iff.mp
      (hoverall i _ (hrun.output_eq_some_iff.mpr ⟨c, hc, rfl⟩) ?_)
    refine ⟨c.overallItem env backend i (run.replies i), rfl, ?_, hlost⟩
    rw [hrun.phase8Items]
    refine List.mem_of_getElem? (i := i) ?_
    rw [List.getElem?_mapIdx, hc]
    rfl
  · intro hdue
    constructor
    · rintro i j out r hout hr ⟨item, hid, hitem, hlost⟩
      obtain ⟨c, hc, rfl⟩ := hrun.output_eq_some_iff.mp hout
      rw [CandidateBatchInput.batchOutput, getElem?_batchResults, Option.map_eq_some_iff] at hr
      obtain ⟨ref, href, rfl⟩ := hr
      obtain ⟨e, -, s, -, -, rfl⟩ :=
        hrun.of_mem_items (run.batchOf_mem_refBatches .summary) hitem
      obtain ⟨rfl, rfl, htag⟩ := cid_inj hid
      have hs : s = .summary := RefStep.tag_inj htag
      subst hs
      have hneeds : (ref.batchResult env c.subject
          (run.replies e.candidateIdx e.refIdx)).needsHumanReview = true :=
        needsHumanReview_batchResult_iff.mpr (Or.inr (Or.inl hlost))
      exact ⟨hneeds, overallNeedsReview_of_batchResult href hneeds⟩
    · rintro i out hout ⟨item, hid, hitem, hlost⟩
      obtain ⟨c, hc, rfl⟩ := hrun.output_eq_some_iff.mp hout
      refine overallNeedsReview_batchOutput_iff.mpr (hdue i c hc ?_)
      rw [hrun.phase8Items] at hitem
      obtain ⟨k, hk, rfl⟩ := List.mem_mapIdx.mp hitem
      obtain rfl := overallCid_inj hid
      exact hlost

/-- Replies of which neither summary came back. -/
def withoutSummaries : (m : OutputModel) → BatchItemResult m
  | .extractedFacts => .succeeded {}
  | .sentimentAndRedFlags => .succeeded ⟨.positive, []⟩
  | .discrepancyNotes => .succeeded ⟨[]⟩
  | .finalSummary => .failed "expired"
  | .overallSummary => .failed "expired"

/-- The overall summary is lost, and the candidate is flagged for a reference whose own is lost. -/
theorem summaryForcesReview_withoutSummaries : ∃ run,
    batchRun sampleEnv (replyBackend withoutSummaries)
        [sampleCandidate [sampleTranscript "Bob", sampleTranscript "Eve"]] = .ok run ∧
      run.overallReply 0 = none ∧ run.SummaryForcesReview := by
  obtain ⟨run, h⟩ := exists_batchRun_replyBackend sampleEnv
    [sampleCandidate [sampleTranscript "Bob", sampleTranscript "Eve"]] withoutSummaries
    (by simp [sampleCandidate]) rfl
  have hrun := batchRun_refines h
  refine ⟨run, h, hrun.overallReply_eq (gives_fixed _ _) rfl, (summaryForcesReview_iff h).mpr ?_⟩
  intro i c hc _
  obtain ⟨hi, -⟩ := List.getElem?_eq_some_iff.mp hc
  obtain rfl : i = 0 := by simpa using hi
  cases hc
  have hann : [sampleCandidate [sampleTranscript "Bob", sampleTranscript "Eve"]][0]? =
      some (sampleCandidate [sampleTranscript "Bob", sampleTranscript "Eve"]) := rfl
  have hbob : (sampleCandidate [sampleTranscript "Bob", sampleTranscript "Eve"]).references[0]? =
      some (sampleTranscript "Bob") := rfl
  obtain ⟨-, -, hsummary⟩ := replies_replyBackend hrun hann hbob (valid_sampleTranscript "Bob") rfl
  exact Or.inl ⟨0, _, hbob, Or.inr (Or.inl hsummary)⟩

/-- Replies that find nothing, of which the overall summary failed. -/
def withoutOverall : (m : OutputModel) → BatchItemResult m
  | .extractedFacts => .succeeded {}
  | .sentimentAndRedFlags => .succeeded ⟨.positive, []⟩
  | .discrepancyNotes => .succeeded ⟨[]⟩
  | .finalSummary => .succeeded ⟨"Fine."⟩
  | .overallSummary => .failed "expired"

/-- A clean candidate whose overall summary is lost is told to need a manual review, and is not
flagged for one. -/
theorem lost_overall_not_flagged : ∃ run,
    batchRun sampleEnv (replyBackend withoutOverall) [sampleCandidate [sampleTranscript "Bob"]] =
      .ok run ∧ run.output.map (·.overallSummary) = [missingOverallSummary] ∧
        ¬ run.SummaryForcesReview := by
  obtain ⟨run, h⟩ := exists_batchRun_replyBackend sampleEnv
    [sampleCandidate [sampleTranscript "Bob"]] withoutOverall (by simp [sampleCandidate]) rfl
  have hrun := batchRun_refines h
  have hout := hrun.getElem?_output_eq (gives_fixed _ _) 0
  have hlen : run.output.length = 1 := by
    rw [hrun.output]
    rfl
  obtain ⟨out, houtput⟩ := List.length_eq_one_iff.mp hlen
  rw [houtput, List.getElem?_cons_zero, List.getElem?_cons_zero, Option.map_some,
    Option.some.injEq] at hout
  have hc : [sampleCandidate [sampleTranscript "Bob"]][0]? =
      some (sampleCandidate [sampleTranscript "Bob"]) := rfl
  refine ⟨run, h, by rw [houtput, hout]; rfl, fun hforces => ?_⟩
  have hitem : (sampleCandidate [sampleTranscript "Bob"]).overallItem sampleEnv
      (replyBackend withoutOverall) 0 (run.replies 0) ∈ run.phase8.items := by
    rw [hrun.phase8Items]
    exact List.mem_singleton_self _
  have hflag := hforces.2 0 out (by rw [houtput]; rfl)
    ⟨_, rfl, hitem, hrun.overallReply_eq (gives_fixed _ _) hc⟩
  rw [hout] at hflag
  exact absurd hflag (by decide +kernel)

end RefCheck
