import RefCheck.Agreement.Answers

/-!
# Both paths come to the same results

Given the same replies, the entry of a candidate in the output of a batch and the state in which the
candidate graph ends are the same (`paths_agree`). A reference that fails validation has a result of
its own in each path, which differ in their wording only.
-/

namespace RefCheck

variable {env : Env} {backend : Backend} {candidates : List CandidateBatchInput}
  {replies : BatchResults} {getModel : ModelTier → String} {c : CandidateBatchInput}

/-! ### One reference -/

/-- Two results that differ in the wording of the summary and of the red flags only. -/
structure ReferenceResult.SameUpToWording (r r' : ReferenceResult) : Prop where
  eq : r' = { r with redFlags := r'.redFlags, referenceSummary := r'.referenceSummary }
  redFlags : r'.redFlags.length = r.redFlags.length

theorem ReferenceResult.SameUpToWording.refl (r : ReferenceResult) : r.SameUpToWording r :=
  ⟨rfl, rfl⟩

/-- What the two paths make of one reference. -/
structure ResultsAgree (env : Env) (c : CandidateBatchInput) (ref : ReferenceInput)
    (r r' : ReferenceResult) : Prop where
  valid : validateReference env c.candidateName ref = .ok () → r = r'
  invalid : ∀ e, validateReference env c.candidateName ref = .error e →
    r = excludedResult ref e.str ∧ r.SameUpToWording r'
  failed : (∃ e, validateReference env c.candidateName ref = .error e) ↔
    ∃ e, r' = failedResult ref.referenceName ref.relationship e

theorem sameUpToWording_failedResult (ref : ReferenceInput) (message : String) (e : PyException) :
    (excludedResult ref message).SameUpToWording
      (failedResult ref.referenceName ref.relationship e) :=
  ⟨rfl, rfl⟩

theorem resultsAgree_sameUpToWording {ref : ReferenceInput} {r r' : ReferenceResult}
    (h : ResultsAgree env c ref r r') : r.SameUpToWording r' := by
  cases hvalid : validateReference env c.candidateName ref with
  | ok u =>
    rw [h.valid hvalid]
    exact .refl r'
  | error e => exact (h.invalid e hvalid).2

/-- What becomes of one reference, given the same replies. -/
theorem resultsAgree (getModel : ModelTier → String) (ref : ReferenceInput)
    (a : (s : RefStep) → s.model.Value) (first : Bool) :
    ResultsAgree env c ref (ref.batchResult env c.subject (fun s => some (a s)))
      (ref.resultOf env (review env (stepProvider getModel ref.type a first) c.subject ref).result) := by
  by_cases hvalid : ref.Valid env
  · have hok := (validateReference_ok_iff env c.candidateName ref).mpr hvalid
    have hresult : ref.resultOf env
        (review env (stepProvider getModel ref.type a first) c.subject ref).result =
        ref.reviewed env (ref.evidence env c.subject.claimedDetails (fun s => some (a s)))
          (a .summary).summary := by
      rw [review_eq hvalid]
      rfl
    rw [hresult]
    refine ⟨fun _ => ?_, fun e he => ?_, ?_⟩
    · rw [batchResult_of_valid hvalid, Option.isNone_some, Bool.or_false]
      rfl
    · cases hok.symm.trans he
    · refine iff_of_false (fun ⟨e, he⟩ => ?_) (fun ⟨e, he⟩ => ?_)
      · cases hok.symm.trans he
      · have hreview : (review env (stepProvider getModel ref.type a first) c.subject ref).result =
            .ok (ref.evidence env c.subject.claimedDetails (fun s => some (a s)),
              (a .summary).summary) := by
          rw [review_eq hvalid]
        exact (gathered_of_ok (gather_of_review hreview)).sentiment_ne_unclear
          (congrArg ReferenceResult.sentiment he)
  · obtain ⟨e, he, hresult⟩ := batchResult_of_not_valid c.subject (fun s => some (a s)) hvalid
    have hfailed : ref.resultOf env
        (review env (stepProvider getModel ref.type a first) c.subject ref).result =
        failedResult ref.referenceName ref.relationship (ref.missingInput env c.subject) := by
      unfold review
      rw [gather_of_not_valid hvalid]
      rfl
    have he : validateReference env c.candidateName ref = .error e := he
    rw [hresult, hfailed]
    refine ⟨fun hok => ?_, fun e' he' => ?_, ?_⟩
    · cases he.symm.trans hok
    · cases he.symm.trans he'
      exact ⟨rfl, sameUpToWording_failedResult ref _ _⟩
    · exact iff_of_true ⟨e, he⟩ ⟨_, rfl⟩

/-! ### The candidate -/

theorem resultsAgree_getElem? (getModel : ModelTier → String) (R : CandidateReplies) {j : ℕ}
    {ref : ReferenceInput}
    (hr : c.references[j]? = some ref) : ∃ r r',
      (c.batchResults env R.given)[j]? = some r ∧
      (c.results env (R.llm getModel c))[j]? = some r' ∧ ResultsAgree env c ref r r' := by
  refine ⟨_, _, ?_, ?_, resultsAgree getModel ref (R.reference j) (R.sentimentFirst j)⟩
  · rw [getElem?_batchResults, hr]
    rfl
  · rw [CandidateBatchInput.getElem?_results, hr, Option.map_some, forReference_llm hr]

theorem map_results_eq (getModel : ModelTier → String) (R : CandidateReplies) {A : Type}
    (f : ReferenceResult → A)
    (hf : ∀ r r' : ReferenceResult, r.SameUpToWording r' → f r = f r') :
    (c.batchResults env R.given).map f = (c.results env (R.llm getModel c)).map f := by
  refine List.ext_getElem? fun j => ?_
  rw [List.getElem?_map, List.getElem?_map]
  cases hr : c.references[j]? with
  | none =>
    rw [getElem?_batchResults, CandidateBatchInput.getElem?_results, hr]
    rfl
  | some ref =>
    obtain ⟨r, r', hbatch, hgraph, hagree⟩ := resultsAgree_getElem? getModel R hr
    rw [hbatch, hgraph, Option.map_some, Option.map_some,
      hf r r' (resultsAgree_sameUpToWording hagree)]

theorem crossCheckReferences_results (getModel : ModelTier → String) (R : CandidateReplies) :
    crossCheckReferences env.toPyText (c.batchResults env R.given) =
      crossCheckReferences env.toPyText (c.results env (R.llm getModel c)) := by
  refine crossCheckReferences_congr _ (map_results_eq getModel R _ fun r r' h => ?_)
  rw [h.eq]
  rfl

theorem verdict_results (getModel : ModelTier → String) (R : CandidateReplies) :
    verdict env (c.batchResults env R.given) = verdict env (c.results env (R.llm getModel c)) := by
  unfold verdict
  rw [crossCheckReferences_results getModel]
  refine overallScore_congr env _ (map_results_eq getModel R _ fun r r' h => ?_)
    (map_results_eq getModel R _ fun r r' h => ?_)
  · rw [h.eq]
  · rw [h.eq]

/-- What the two paths make of a candidate. -/
structure PathsAgree (env : Env) (c : CandidateBatchInput) (out : CandidateOutput)
    (s : CandidateState) : Prop where
  length_batch : out.referenceResults.length = c.references.length
  length_graph : s.referenceResults.length = c.references.length
  results : ∀ (j : ℕ) (ref : ReferenceInput) (r r' : ReferenceResult),
    c.references[j]? = some ref → out.referenceResults[j]? = some r →
      s.referenceResults[j]? = some r' → ResultsAgree env c ref r r'
  crossReferenceFlags : s.crossReferenceFlags = some out.crossReferenceFlags
  overallConfidence : s.overallConfidence = some out.overallConfidence
  overallNeedsReview : s.overallNeedsReview = some out.overallNeedsReview
  overallSummary : s.overallSummary = some out.overallSummary

theorem candidateGraph_invoke_llm (h : c.references ≠ []) (R : CandidateReplies) :
    ((candidateGraph env (R.llm getModel c)).invoke recursionLimit c.inputState).result =
      .ok (c.finalState env (R.llm getModel c) R.overall.summary) := by
  rw [candidateGraph_invoke h]
  rfl

theorem pathsAgree_finalState (R : CandidateReplies) :
    PathsAgree env c (c.batchOutput env R.given (some R.overall))
      (c.finalState env (R.llm getModel c) R.overall.summary) where
  length_batch := List.length_mapIdx
  length_graph := c.length_results env _
  results := by
    intro j ref r r' hr hbatch hgraph
    obtain ⟨r₁, r₂, h₁, h₂, hagree⟩ := resultsAgree_getElem? getModel R hr
    cases h₁.symm.trans hbatch
    cases h₂.symm.trans hgraph
    exact hagree
  crossReferenceFlags := congrArg some (crossCheckReferences_results getModel R).symm
  overallConfidence := by
    show some (verdict env _).overallConfidence = some (verdict env _).overallConfidence
    rw [verdict_results getModel R]
  overallNeedsReview := by
    show some (verdict env _).overallNeedsReview = some (verdict env _).overallNeedsReview
    rw [verdict_results getModel R]
  overallSummary := rfl

theorem exists_batchRun_of_holds (hne : ∀ c ∈ candidates, c.references ≠ [])
    (hgives : backend.Gives replies) {R : ℕ → CandidateReplies}
    (hholds : ∀ i < candidates.length, replies.Holds i (R i)) :
    ∃ run, batchRun env backend candidates = .ok run := by
  refine (exists_batchRun_iff hgives).mpr ⟨hne, fun e he => ?_⟩
  obtain ⟨hc, -⟩ := mem_refEntries_iff.mp he
  obtain ⟨hlt, -⟩ := List.getElem?_eq_some_iff.mp hc
  exact (hholds e.candidateIdx hlt).hasPhase1 _ _ _

/-- **The two paths agree.** Given the same replies, the batch returns, the graph of every candidate
ends, and the entry of a candidate is the state in which its graph ends. -/
theorem paths_agree (hne : ∀ c ∈ candidates, c.references ≠ []) (hgives : backend.Gives replies)
    {R : ℕ → CandidateReplies} (hholds : ∀ i < candidates.length, replies.Holds i (R i))
    (getModel : ModelTier → String) :
    ∃ outputs, runBatchPipeline env backend candidates = .ok outputs ∧
      outputs.length = candidates.length ∧
      ∀ (i : ℕ) (c : CandidateBatchInput) (out : CandidateOutput), candidates[i]? = some c →
        outputs[i]? = some out → ∃ s, ((candidateGraph env ((R i).llm getModel c)).invoke recursionLimit
            c.inputState).result = .ok s ∧ PathsAgree env c out s := by
  obtain ⟨run, hrun⟩ := exists_batchRun_of_holds hne hgives hholds
  have hpipeline := runBatchPipeline_eq_ok_iff.mpr ⟨run, hrun, rfl⟩
  obtain ⟨-, hlength, -⟩ := completes_of_runBatchPipeline hpipeline
  refine ⟨run.output, hpipeline, hlength, fun i c out hc hout => ?_⟩
  obtain ⟨hlt, -⟩ := List.getElem?_eq_some_iff.mp hc
  have h := hholds i hlt
  rw [(batchRun_refines hrun).getElem?_output_eq hgives, hc, Option.map_some, Option.some.injEq,
    h.repliesAt_eq, h.overall_eq] at hout
  subst hout
  exact ⟨_, candidateGraph_invoke_llm (hne c (List.mem_of_getElem? hc)) (R i),
    pathsAgree_finalState (R i)⟩

/-- A reference by form. -/
def sampleForm (name : String) (comments : Option String) : ReferenceInput where
  referenceName := name
  relationship := "Colleague"
  type := .REF2
  yesNoForm := some {
    confirmedTitle := .yes
    confirmedDates := .yes
    confirmedCompany := .yes
    wouldRehire := .yes
    performanceConcerns := .no
    additionalComments := comments }

/-- The clean replies, step by step. -/
def cleanReplies : CandidateReplies where
  reference _
    | .extract => {}
    | .sentiment => ⟨.positive, []⟩
    | .commentSentiment => ⟨.positive, []⟩
    | .explain => ⟨[]⟩
    | .summary => ⟨"Fine."⟩
  overall := ⟨"Fine."⟩

theorem holds_cleanReplies (i : ℕ) :
    BatchResults.Holds ⟨fun m _ => some (cleanReply m)⟩ i cleanReplies where
  reference := by
    intro j s
    cases s <;> rfl
  overall := rfl

/-- A transcript, a form with comments and a transcript that is too short. -/
def mixedCandidate : CandidateBatchInput :=
  sampleCandidate [sampleTranscript "Bob", sampleForm "Eve" (some "Great."),
    ⟨"Dan", "Peer", .REF1, some "Ok.", none⟩]

/-- The two paths on the mixed candidate. -/
theorem paths_agree_of_clean : ∃ outputs out s,
    runBatchPipeline sampleEnv (replyBackend cleanReply) [mixedCandidate] = .ok outputs ∧
    outputs[0]? = some out ∧
    ((candidateGraph sampleEnv (cleanReplies.llm sampleModel mixedCandidate)).invoke recursionLimit
      mixedCandidate.inputState).result = .ok s ∧
    PathsAgree sampleEnv mixedCandidate out s := by
  have hne : ∀ c ∈ [mixedCandidate], c.references ≠ [] := by
    simp [mixedCandidate, sampleCandidate]
  have hgives : (replyBackend cleanReply).Gives ⟨fun m _ => some (cleanReply m)⟩ :=
    gives_fixed sampleModel _
  obtain ⟨outputs, houtputs, hlength, hagree⟩ := @paths_agree sampleEnv (replyBackend cleanReply)
    [mixedCandidate] _ hne hgives _ (fun i _ => holds_cleanReplies i) sampleModel
  obtain ⟨out, hout⟩ : ∃ out, outputs[0]? = some out := by
    obtain ⟨out, rfl⟩ := List.length_eq_one_iff.mp hlength
    exact ⟨out, rfl⟩
  obtain ⟨s, hs, hpaths⟩ := hagree 0 _ out rfl hout
  exact ⟨outputs, out, s, houtputs, hout, hs, hpaths⟩

end RefCheck
