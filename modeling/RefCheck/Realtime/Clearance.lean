import RefCheck.Comparison.DiffFacts
import RefCheck.Realtime.Isolation

/-!
# What an automatic clear says

A run that is routed to `overall_clear` has found nothing, at any of its stages: from the verdict
back over the cross-check, the scores, the notes and the comparison to the replies and the answers of
the forms, `clear_is_sound` says what the evidence was.
-/

namespace RefCheck

open StateGraph Target Issue

variable {env : Env} {llm : Provider} {subj : Subject} {ref : ReferenceInput}

/-! ### Evidence that clears -/

/-- A difference of months that does not count as major: at most the moderate tolerance, or the
minor one where that is set above it. -/
def WithinTolerance (env : Env) (n : ℕ) : Prop :=
  (n : ℤ) ≤ env.moderateMonthTolerance ∨
    env.moderateMonthTolerance < env.minorMonthTolerance ∧ (n : ℤ) ≤ env.minorMonthTolerance

/-- What the replies for a transcript say when it clears. -/
structure TranscriptClear (env : Env) (claimed : ClaimedDetails) (facts : ExtractedFacts)
    (result : SentimentAndRedFlags) : Prop where
  company : ∀ company, stated facts.company = some company →
    normalize env.toPyText company = normalize env.toPyText claimed.company
  startDate : ∀ date n, stated facts.startDate = some date →
    monthDiff claimed.startDate date = some n → WithinTolerance env n
  endDate : ∀ date claimedDate n, stated facts.endDate = some date →
    stated claimed.endDate = some claimedDate → monthDiff claimedDate date = some n →
    WithinTolerance env n
  stillEmployed : stated claimed.endDate = none → stated facts.endDate = none
  redFlags : result.redFlags = []

/-- What the answers of a form say when it clears. -/
structure FormClear (form : YesNoReferenceForm) : Prop where
  confirmedTitle : form.confirmedTitle ≠ .no
  confirmedDates : form.confirmedDates ≠ .no
  confirmedCompany : form.confirmedCompany ≠ .no
  wouldRehire : form.wouldRehire = .yes
  performanceConcerns : form.performanceConcerns = .no

theorem withinTolerance_of_apart {claimedDate date : String} {n : ℕ}
    (hn : monthDiff claimedDate date = some n)
    (h : ApartBy env claimedDate date n → dateSeverity env n ≠ .major) : WithinTolerance env n := by
  obtain ⟨x, y, hx, hy, heq⟩ := monthDiff_eq_some_iff.mp hn
  by_cases hminor : env.minorMonthTolerance < n
  · have hsev := h ⟨x, y, hx, hy, heq, hminor⟩
    unfold dateSeverity at hsev
    split_ifs at hsev with hmoderate
    · exact Or.inl hmoderate
    · exact absurd rfl hsev
  · unfold WithinTolerance
    omega

theorem transcriptClear_of_not_major {claimed : ClaimedDetails} {facts : ExtractedFacts}
    {result : SentimentAndRedFlags} (hred : result.redFlags = [])
    (h : ∀ d ∈ diffFacts env claimed facts, d.severity ≠ .major) :
    TranscriptClear env claimed facts result := by
  have hdiffers : ∀ d, Differs env claimed facts d → d.severity ≠ .major := fun d hd =>
    h d ((mem_diffFacts_iff env claimed facts d).mpr hd)
  refine ⟨?_, ?_, ?_, ?_, hred⟩
  · intro company hcompany
    by_contra hne
    exact hdiffers _ (.company company hcompany hne) rfl
  · intro date n hdate hn
    exact withinTolerance_of_apart hn fun hapart => hdiffers _ (.startDate date n hdate hapart)
  · intro date claimedDate n hdate hclaimed hn
    exact withinTolerance_of_apart hn fun hapart =>
      hdiffers _ (.endDate date claimedDate n hdate hclaimed hapart)
  · intro hclaimed
    by_contra hne
    obtain ⟨date, hdate⟩ := Option.ne_none_iff_exists'.mp hne
    exact hdiffers _ (.stillEmployed date hdate hclaimed) rfl

/-! ### One reference -/

/-- Notes do not hide a discrepancy. -/
theorem score_of_explained {ds ds' : List Discrepancy}
    (h : (explained env llm ds).result = .ok ds') (redFlags : List String) (sentiment : String) :
    scoreConfidence env ds' redFlags sentiment = scoreConfidence env ds redFlags sentiment := by
  unfold explained at h
  split_ifs at h with hne
  · obtain ⟨notes, -, h⟩ := bind_eq_ok.mp h
    cases h
    exact scoreConfidence_applyNotes env notes ds redFlags sentiment
  · cases h
    rfl

theorem transcript_of_clear {rawInput : String} {ev : Evidence}
    (h : (gatherOpenEnded env llm subj rawInput).result = .ok ev)
    (hclear : (ev.score env).needsHumanReview = false) :
    ∃ facts result,
      (llm.structuredCall (extractFactsRequest env.toPyText subj.candidateName subj.roleAppliedFor
        subj.claimedDetails rawInput) .extractedFacts .extraction).result = .ok facts ∧
      (llm.structuredCall (sentimentAndRedFlagsRequest rawInput) .sentimentAndRedFlags
        .extraction).result = .ok result ∧
      ev.facts = facts ∧ TranscriptClear env subj.claimedDetails facts result := by
  obtain ⟨facts, result, ds, hfacts, hresult, hds, rfl⟩ := gatherOpenEnded_eq_ok.mp h
  have hscore : (scoreConfidence env (diffFacts env subj.claimedDetails facts) result.redFlags
      result.sentiment.text).needsHumanReview = false := by
    rw [← score_of_explained hds]
    exact hclear
  obtain ⟨-, hmajor, hred⟩ := (needsHumanReview_eq_false_iff _ _ _ _).mp hscore
  exact ⟨facts, result, hfacts, hresult, rfl, transcriptClear_of_not_major hred hmajor⟩

theorem form_of_clear {form : YesNoReferenceForm} {ev : Evidence}
    (h : (gatherYesNo llm subj.claimedDetails form).result = .ok ev)
    (hclear : (ev.score env).needsHumanReview = false) :
    FormClear form ∧ (form.hasComments = true → ∃ result,
      (llm.structuredCall (sentimentAndRedFlagsRequest (pyStr form.additionalComments))
        .sentimentAndRedFlags .extraction).result = .ok result ∧ result.redFlags = []) := by
  have hform : ∀ extra sentiment, (scoreConfidence env
      (evaluateYesNoForm subj.claimedDetails form).discrepancies
      ((evaluateYesNoForm subj.claimedDetails form).redFlags ++ extra)
      sentiment).needsHumanReview = false → FormClear form ∧ extra = [] := by
    intro extra sentiment hscore
    obtain ⟨htitle, hdates, hcompany, hrehire, hconcerns, hextra⟩ := evaluateYesNoForm_clear hscore
    exact ⟨⟨htitle, hdates, hcompany, hrehire, hconcerns⟩, hextra⟩
  unfold gatherYesNo at h
  split_ifs at h with hcomments
  · obtain ⟨result, hresult, h⟩ := bind_eq_ok.mp h
    cases h
    obtain ⟨hclearForm, hred⟩ := hform result.redFlags _ hclear
    exact ⟨hclearForm, fun _ => ⟨result, hresult, hred⟩⟩
  · cases h
    refine ⟨(hform [] "neutral" ?_).1, fun hcomments' => absurd hcomments' hcomments⟩
    rw [List.append_nil]
    exact hclear

/-! ### The candidate -/

/-- What is known of a reference of a cleared candidate. -/
structure ReferenceClear (env : Env) (llm : Provider) (subj : Subject) (ref : ReferenceInput)
    (r : ReferenceResult) : Prop where
  processed : ¬ r.IsFailure
  confidence : env.reviewThreshold ≤ r.confidenceScore
  transcript : ref.type = .REF1 → ∃ facts result,
    (llm.structuredCall (extractFactsRequest env.toPyText subj.candidateName subj.roleAppliedFor
      subj.claimedDetails (pyStr ref.rawInput)) .extractedFacts .extraction).result = .ok facts ∧
    (llm.structuredCall (sentimentAndRedFlagsRequest (pyStr ref.rawInput)) .sentimentAndRedFlags
      .extraction).result = .ok result ∧
    r.extractedFacts = facts ∧ TranscriptClear env subj.claimedDetails facts result
  form : ref.type = .REF2 → ∃ form, ref.yesNoForm = some form ∧ FormClear form ∧
    (form.hasComments = true → ∃ result,
      (llm.structuredCall (sentimentAndRedFlagsRequest (pyStr form.additionalComments))
        .sentimentAndRedFlags .extraction).result = .ok result ∧ result.redFlags = [])

theorem referenceClear_of_result
    (h : (ref.resultOf env (review env llm subj ref).result).needsHumanReview = false) :
    ReferenceClear env llm subj ref (ref.resultOf env (review env llm subj ref).result) := by
  cases hreview : (review env llm subj ref).result with
  | error e =>
    rw [hreview] at h
    cases h
  | ok y =>
    rw [hreview] at h
    have hev := gather_of_review hreview
    have hclear : (y.1.score env).needsHumanReview = false := h
    have hvalid := (gathered_of_ok hev).valid
    refine ⟨fun hfailure => ?_, ?_, fun htype => ?_, fun htype => ?_⟩
    · cases h.symm.trans hfailure.needsHumanReview
    · exact ((needsHumanReview_eq_false_iff _ _ _ _).mp hclear).1
    · rw [gather_of_transcript htype ((valid_iff_of_transcript htype).mp hvalid)] at hev
      exact transcript_of_clear hev hclear
    · obtain ⟨form, hform⟩ := (valid_iff_of_form htype).mp hvalid
      rw [gather_of_form htype hform] at hev
      exact ⟨form, hform, form_of_clear hev hclear⟩

/-- A field on which all references that state it agree. -/
def StatedAlike (py : PyText) (field : ExtractedFacts → Option String)
    (results : List ReferenceResult) : Prop :=
  ∀ r ∈ results, ∀ r' ∈ results, ∀ v v', stated (field r.extractedFacts) = some v →
    stated (field r'.extractedFacts) = some v' → normalize py v = normalize py v'

/-- **A clear is sound.** When a run is routed to `overall_clear`, every reference was processed, its
confidence reaches the threshold and what it said is clear, and the references agree on the company
and on the job title. -/
theorem clear_is_sound {c : CandidateBatchInput} {llm : CandidateLLM} {st : CandidateState}
    (hne : c.references ≠ [])
    (hclear : (candidateGraph env llm).Reaches c.inputState ([.node .overallClear], st)) :
    st.referenceResults.length = c.references.length ∧
    (∀ (i : ℕ) (ref : ReferenceInput) (r : ReferenceResult), c.references[i]? = some ref →
      st.referenceResults[i]? = some r →
      ReferenceClear env (llm.forReference i) c.subject ref r) ∧
    StatedAlike env.toPyText (·.company) st.referenceResults ∧
    StatedAlike env.toPyText (·.jobTitle) st.referenceResults := by
  obtain ⟨hnode, rfl⟩ := (reaches_overall_iff hne (Or.inr rfl) st).mp hclear
  have hneeds : (verdict env (c.results env llm)).overallNeedsReview = false := by
    by_contra hneeds
    unfold overallNode at hnode
    rw [Bool.not_eq_false] at hneeds
    rw [hneeds] at hnode
    cases hnode
  obtain ⟨-, hresults, hflags⟩ := (overallNeedsReview_eq_false_iff _ _ _).mp hneeds
  obtain ⟨hfields, -⟩ := List.append_eq_nil_iff.mp hflags
  obtain ⟨htitle, hcompany⟩ := List.append_eq_nil_iff.mp hfields
  refine ⟨c.length_results env llm, fun i ref r hr hresult => ?_, ?_, ?_⟩
  · have hget : (c.results env llm)[i]? = some r := hresult
    have hclear := hresults r (List.mem_of_getElem? hget)
    rw [CandidateBatchInput.getElem?_results, hr, Option.map_some, Option.some.injEq] at hget
    subst hget
    exact referenceClear_of_result hclear
  · exact (fieldFlags_eq_nil_iff env.toPyText "company" (·.company) _).mp hcompany
  · exact (fieldFlags_eq_nil_iff env.toPyText "job_title" (·.jobTitle) _).mp htitle

/-- A transcript and a form with comments, on clean replies. -/
theorem clear_of_clean_replies : ∃ st : CandidateState,
    (candidateGraph sampleEnv (cleanReplies.llm sampleModel (sampleCandidate [sampleTranscript "Bob",
      sampleForm "Eve" (some "Great.")]))).Reaches (sampleCandidate [sampleTranscript "Bob",
        sampleForm "Eve" (some "Great.")]).inputState ([.node .overallClear], st) ∧
    st.referenceResults.length = 2 ∧
    ∀ r, st.referenceResults[0]? = some r → sampleEnv.reviewThreshold ≤ r.confidenceScore := by
  have hne : (sampleCandidate [sampleTranscript "Bob", sampleForm "Eve" (some "Great.")]).references ≠
      [] := by
    simp [sampleCandidate]
  have hnode : overallNode sampleEnv ((sampleCandidate [sampleTranscript "Bob",
      sampleForm "Eve" (some "Great.")]).results sampleEnv (cleanReplies.llm sampleModel
        (sampleCandidate [sampleTranscript "Bob", sampleForm "Eve" (some "Great.")]))) =
      .overallClear := by decide +kernel
  have hreach := (reaches_overall_iff hne (Or.inr rfl) _).mpr ⟨hnode, rfl⟩
  obtain ⟨hlength, hrefs, -⟩ := clear_is_sound hne hreach
  exact ⟨_, hreach, hlength, fun r hr => (hrefs 0 _ r rfl hr).confidence⟩

end RefCheck
