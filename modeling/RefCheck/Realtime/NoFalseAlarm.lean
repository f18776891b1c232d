import RefCheck.Comparison.DiffFacts
import RefCheck.CrossCheck.Ratings
import RefCheck.Realtime.Prose
import RefCheck.Verdict.ReviewFlag

/-!
# No false alarm

A candidate whose references confirm the claims is cleared. The facts of a transcript may leave a
field out, differ in case and surrounding white space, and be off by the tolerance; the answers of a
form confirm everything. Then nothing is found, and since what agrees with the claim agrees with each
other, the references do not contradict each other either (`no_false_alarm`).
-/

namespace RefCheck

open StateGraph Target Issue Scores

/-! ### Replies that confirm the claims -/

/-- The answers of a form confirm everything. -/
structure FormConsistent (form : YesNoReferenceForm) : Prop where
  confirmedTitle : form.confirmedTitle = .yes
  confirmedDates : form.confirmedDates = .yes
  confirmedCompany : form.confirmedCompany = .yes
  wouldRehire : form.wouldRehire = .yes
  performanceConcerns : form.performanceConcerns = .no

/-- A sentiment that costs nothing, and no red flag. -/
structure SentimentAndRedFlags.Reassuring (result : SentimentAndRedFlags) : Prop where
  sentiment : result.sentiment = .positive ∨ result.sentiment = .neutral
  redFlags : result.redFlags = []

/-- The call for the facts of a transcript. -/
def extractCall (env : Env) (llm : Provider) (subj : Subject) (ref : ReferenceInput) :
    Except PyException ExtractedFacts :=
  (llm.structuredCall (extractFactsRequest env.toPyText subj.candidateName subj.roleAppliedFor
    subj.claimedDetails (pyStr ref.rawInput)) .extractedFacts .extraction).result

/-- A call for the sentiment of a text. -/
def sentimentCall (llm : Provider) (text : Option String) :
    Except PyException SentimentAndRedFlags :=
  (llm.structuredCall (sentimentAndRedFlagsRequest (pyStr text)) .sentimentAndRedFlags
    .extraction).result

/-- What is known of a reference confirms the claims. -/
structure ConsistentReplies (env : Env) (llm : Provider) (subj : Subject) (ref : ReferenceInput) :
    Prop where
  facts : ref.type = .REF1 → ∀ facts, extractCall env llm subj ref = .ok facts →
    TranscriptConsistent env subj.claimedDetails facts
  sentiment : ref.type = .REF1 → ∀ result, sentimentCall llm ref.rawInput = .ok result →
    result.Reassuring
  form : ref.type = .REF2 → ∀ form, ref.yesNoForm = some form → FormConsistent form
  comments : ref.type = .REF2 → ∀ form, ref.yesNoForm = some form → ∀ result,
    sentimentCall llm form.additionalComments = .ok result → result.Reassuring

/-- A transcript of the candidate gives the rating. -/
def GivesRating (env : Env) (llm : CandidateLLM) (c : CandidateBatchInput)
    (rating : PerformanceRating) : Prop :=
  ∃ i ref facts, c.references[i]? = some ref ∧ ref.type = .REF1 ∧
    extractCall env (llm.forReference i) c.subject ref = .ok facts ∧
    facts.performanceRating = some rating

/-! ### One reference -/

section reference

variable {env : Env} {llm : Provider} {subj : Subject} {ref : ReferenceInput}

/-- Evidence in which nothing was found. -/
structure Evidence.Clean (env : Env) (claimed : ClaimedDetails) (ev : Evidence) : Prop where
  discrepancies : ev.discrepancies = []
  redFlags : ev.redFlags = []
  sentiment : ev.sentiment = "positive" ∨ ev.sentiment = "neutral"
  facts : TranscriptConsistent env claimed ev.facts

theorem Reassuring.text {result : SentimentAndRedFlags} (h : result.Reassuring) :
    result.sentiment.text = "positive" ∨ result.sentiment.text = "neutral" := by
  rcases h.sentiment with h | h
  · exact Or.inl (by rw [h]; rfl)
  · exact Or.inr (by rw [h]; rfl)

theorem transcriptConsistent_empty (env : Env) (claimed : ClaimedDetails) :
    TranscriptConsistent env claimed {} where
  company _ h := by cases h
  jobTitle _ h := by cases h
  startDate _ _ h := by cases h
  endDate _ h := by cases h

theorem formEvidence_of_consistent (claimed : ClaimedDetails) {form : YesNoReferenceForm}
    (h : FormConsistent form) : formEvidence claimed form = ⟨{}, [], "neutral", []⟩ := by
  simp only [formEvidence, evaluateYesNoForm, h.confirmedTitle, h.confirmedDates,
    h.confirmedCompany, h.wouldRehire, h.performanceConcerns, answerDiscrepancies,
    performanceRedFlags, rehireRedFlags, List.append_nil]

theorem gather_of_consistent (hreplies : ConsistentReplies env llm subj ref) {ev : Evidence}
    (h : (gather env llm subj ref).result = .ok ev) : ev.Clean env subj.claimedDetails := by
  cases gathered_of_ok h with
  | transcript facts result discrepancies htype hraw hfacts hresult hexplained =>
    have hconsistent := hreplies.facts htype facts hfacts
    have hsentiment := hreplies.sentiment htype result hresult
    rw [diffFacts_of_consistent hconsistent] at hexplained
    cases hexplained
    exact ⟨rfl, hsentiment.redFlags, Reassuring.text hsentiment, hconsistent⟩
  | form form htype hform hcomments =>
    rw [formEvidence_of_consistent subj.claimedDetails (hreplies.form htype form hform)]
    exact ⟨rfl, rfl, Or.inr rfl, transcriptConsistent_empty _ _⟩
  | comments form result htype hform hcomments hresult =>
    rw [formEvidence_of_consistent subj.claimedDetails (hreplies.form htype form hform)]
    have hsentiment := hreplies.comments htype form hform result hresult
    exact ⟨rfl, hsentiment.redFlags, Reassuring.text hsentiment, transcriptConsistent_empty _ _⟩

theorem score_of_clean (hthreshold : env.reviewThreshold ≤ 100) {claimed : ClaimedDetails}
    {ev : Evidence} (h : ev.Clean env claimed) : ev.score env = ⟨100, false⟩ := by
  have hpenalty : env.sentimentPenalty ev.sentiment = 0 := by
    rcases h.sentiment with h | h <;> rw [h] <;> rfl
  have hraw : rawScore env ev.discrepancies ev.redFlags ev.sentiment = 100 := by
    rw [rawScore_eq, h.discrepancies, h.redFlags, hpenalty]
    simp
  unfold Evidence.score scoreConfidence
  rw [hraw, clampScore_of_mem (by norm_num) le_rfl, h.discrepancies, h.redFlags]
  simp [hthreshold]

end reference

/-! ### The candidate -/

section candidate

variable {env : Env} {llm : CandidateLLM} {c : CandidateBatchInput} {s : CandidateState}

/-- A result in which nothing was found. -/
structure ReferenceResult.Clean (env : Env) (claimed : ClaimedDetails) (r : ReferenceResult) :
    Prop where
  discrepancies : r.discrepancies = []
  confidenceScore : r.confidenceScore = 100
  needsHumanReview : r.needsHumanReview = false
  facts : TranscriptConsistent env claimed r.extractedFacts

/-- A valid reference whose replies confirm the claims, if no call raised. -/
theorem clean_resultOf (hthreshold : env.reviewThreshold ≤ 100) {llm : Provider} {subj : Subject}
    {ref : ReferenceInput} (hvalid : ref.Valid env)
    (hcalls : ∀ rq ∈ (review env llm subj ref).log, ¬ llm.Raises rq)
    (hreplies : ConsistentReplies env llm subj ref) :
    (ref.resultOf env (review env llm subj ref).result).Clean env subj.claimedDetails := by
  obtain ⟨ev, summary, hev, hreview⟩ := exists_review hvalid hcalls
  have hclean := gather_of_consistent hreplies hev
  have hscore := score_of_clean hthreshold hclean
  rw [hreview]
  exact ⟨hclean.discrepancies, congrArg ScoreResult.confidenceScore hscore,
    congrArg ScoreResult.needsHumanReview hscore, hclean.facts⟩

theorem fieldFlags_of_clean {name claim : String} {field : ExtractedFacts → Option String}
    {results : List ReferenceResult}
    (h : ∀ r ∈ results, ∀ v, stated (field r.extractedFacts) = some v →
      normalize env.toPyText v = normalize env.toPyText claim) :
    fieldFlags env.toPyText name field results = [] := by
  rw [fieldFlags_eq_nil_iff]
  intro r hr r' hr' v v' hv hv'
  rw [h r hr v hv, h r' hr' v' hv']

theorem crossCheckReferences_of_clean {claimed : ClaimedDetails} {results : List ReferenceResult}
    (h : ∀ r ∈ results, r.Clean env claimed) (hratings : ¬ RatingsConflict results) :
    crossCheckReferences env.toPyText results = [] := by
  have htitle : fieldFlags env.toPyText "job_title" (·.jobTitle) results = [] :=
    fieldFlags_of_clean fun r hr => (h r hr).facts.jobTitle
  have hcompany : fieldFlags env.toPyText "company" (·.company) results = [] :=
    fieldFlags_of_clean fun r hr => (h r hr).facts.company
  rw [crossCheckReferences, htitle, hcompany, performanceFlags_of_not_conflict hratings]
  rfl

theorem overallConfidence_of_clean (hthreshold : env.reviewThreshold ≤ 100)
    {claimed : ClaimedDetails} {results : List ReferenceResult} (hne : results ≠ [])
    (h : ∀ r ∈ results, r.Clean env claimed) :
    (overallScore env results []).overallConfidence = 100 := by
  have hcleared : ∀ r ∈ results, r.Cleared env := by
    intro r hr
    refine ⟨fun _ => ?_, ?_, (h r hr).confidenceScore.le⟩
    · exact hthreshold.trans_eq (h r hr).confidenceScore.symm
    · rw [(h r hr).confidenceScore]
      norm_num
  rw [overallConfidence_of_no_flags hne hcleared]
  refine average_of_forall_eq (List.map_eq_nil_iff.not.mpr hne) fun x hx => ?_
  obtain ⟨r, hr, rfl⟩ := List.mem_map.mp hx
  exact (h r hr).confidenceScore

theorem givesRating_of_result {r : ReferenceResult} {rating : PerformanceRating}
    (hr : r ∈ c.results env llm) (hrating : r.rating = some rating) : GivesRating env llm c rating := by
  obtain ⟨i, ref, href, rfl⟩ := CandidateBatchInput.exists_of_mem_results hr
  cases hreview : (review env (llm.forReference i) c.subject ref).result with
  | error e =>
    rw [hreview] at hrating
    cases hrating
  | ok y =>
    rw [hreview] at hrating
    obtain ⟨ev, summary⟩ := y
    have hgather : (gather env (llm.forReference i) c.subject ref).result = .ok ev :=
      gather_of_review hreview
    have hfacts : ev.facts.performanceRating = some rating := hrating
    cases gathered_of_ok hgather with
    | transcript facts result discrepancies htype hraw hcall hresult hexplained =>
      exact ⟨i, ref, facts, href, htype, hcall, hfacts⟩
    | form form htype hform hcomments => cases hfacts
    | comments form result htype hform hcomments hresult => cases hfacts

/-- **No false alarm.** If every reference is valid, no call raises, all replies and answers confirm
the claims, and the ratings are not both strong and weak, then nothing is found: every reference has
the full score and is not flagged, the references do not disagree, and the candidate is cleared with
the full confidence. -/
theorem no_false_alarm (hreview : env.reviewThreshold ≤ 100)
    (hoverall : env.overallReviewThreshold ≤ 100) (hne : c.references ≠ [])
    (hvalid : ∀ ref ∈ c.references, ref.Valid env) (h : llm.Succeeds env c s)
    (hreplies : ∀ i ref, c.references[i]? = some ref →
      ConsistentReplies env (llm.forReference i) c.subject ref)
    (hratings : ¬ (GivesRating env llm c .strong ∧ GivesRating env llm c .weak)) :
    s.referenceResults.length = c.references.length ∧
    (∀ r ∈ s.referenceResults, r.discrepancies = [] ∧ r.confidenceScore = 100 ∧
      r.needsHumanReview = false) ∧
    s.crossReferenceFlags = some [] ∧ s.overallConfidence = some 100 ∧
    s.overallNeedsReview = some false ∧
    ∃ st, (candidateGraph env llm).Reaches c.inputState ([.node .overallClear], st) := by
  obtain ⟨summary, rfl⟩ := exists_summary_of_succeeds hne h
  have hclean : ∀ r ∈ c.results env llm, r.Clean env c.claimedDetails := by
    intro r hr
    obtain ⟨i, ref, href, rfl⟩ := CandidateBatchInput.exists_of_mem_results hr
    exact clean_resultOf hreview (hvalid ref (List.mem_of_getElem? href)) (no_call_raises h href)
      (hreplies i ref href)
  have hflags : crossCheckReferences env.toPyText (c.results env llm) = [] := by
    refine crossCheckReferences_of_clean hclean ?_
    rintro ⟨⟨r, hr, hstrong⟩, r', hr', hweak⟩
    exact hratings ⟨givesRating_of_result hr hstrong, givesRating_of_result hr' hweak⟩
  have hconfidence : (verdict env (c.results env llm)).overallConfidence = 100 := by
    unfold verdict
    rw [hflags]
    exact overallConfidence_of_clean hreview (CandidateBatchInput.results_ne_nil hne) hclean
  have hneeds : (verdict env (c.results env llm)).overallNeedsReview = false := by
    refine (overallNeedsReview_eq_false_iff env _ _).mpr ⟨?_, fun r hr => ?_, hflags⟩
    · exact hoverall.trans_eq hconfidence.symm
    · exact (hclean r hr).needsHumanReview
  have hnode : overallNode env (c.results env llm) = .overallClear := by
    unfold overallNode
    rw [hneeds]
    rfl
  refine ⟨c.length_results env llm, fun r hr => ?_, congrArg some hflags, congrArg some hconfidence,
    congrArg some hneeds, _, (reaches_overall_iff hne (Or.inr rfl) _).mpr ⟨hnode, rfl⟩⟩
  have hr' := hclean r hr
  exact ⟨hr'.discrepancies, hr'.confidenceScore, hr'.needsHumanReview⟩

end candidate

/-- A transcript with the title in another case, and a form with comments. -/
theorem clear_of_confirming_replies : ∃ st : CandidateState,
    (candidateGraph sampleEnv (proseLLM " analyst " "Fine.")).Reaches (sampleCandidate
      [sampleTranscript "Bob", sampleForm "Eve" (some "Great.")]).inputState
        ([.node .overallClear], st) := by
  have hne : (sampleCandidate [sampleTranscript "Bob",
      sampleForm "Eve" (some "Great.")]).references ≠ [] := by
    simp [sampleCandidate]
  have hthreshold : sampleEnv.reviewThreshold ≤ 100 := by decide +kernel
  refine (no_false_alarm hthreshold (by decide +kernel) hne ?_
    (succeeds_proseLLM sampleEnv hne " analyst " "Fine.") ?_ ?_).2.2.2.2.2
  · intro ref href
    rcases List.mem_pair.mp href with rfl | rfl
    · exact valid_sampleTranscript "Bob"
    · show some _ ≠ none
      simp
  · intro i ref href
    refine ⟨fun htype facts hfacts => ?_, fun htype result hresult => ?_,
      fun htype form hform => ?_, fun htype form hform result hresult => ?_⟩
    · cases hfacts
      exact {
        company := fun _ hv => by cases hv
        jobTitle := fun _ hv => by
          cases hv
          decide
        startDate := fun _ _ hv => by cases hv
        endDate := fun _ hv => by cases hv }
    · cases hresult
      exact ⟨Or.inr rfl, rfl⟩
    · rcases List.mem_pair.mp (List.mem_of_getElem? href) with rfl | rfl
      · cases htype
      · cases hform
        exact ⟨rfl, rfl, rfl, rfl, rfl⟩
    · cases hresult
      exact ⟨Or.inr rfl, rfl⟩
  · rintro ⟨⟨i, ref, facts, -, -, hfacts, hrating⟩, -⟩
    cases hfacts
    cases hrating

end RefCheck
