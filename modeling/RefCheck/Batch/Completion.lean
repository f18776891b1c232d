import RefCheck.Batch.FailSafe

/-!
# Which batches come to an end

What can end a batch early: a failed sentiment result, for which the pipeline builds a record that
its own schema rejects, and a candidate without references, whose scores are averaged. Nothing else
can: `completes_iff` is exact for failing items, `returns_iff` for the shape of the candidates.
-/

namespace RefCheck

variable {env : Env} {backend : Backend} {candidates : List CandidateBatchInput}

/-! ### Failing items -/

/-- The backend returns, with a result for exactly the submitted items. -/
def Backend.Complete (backend : Backend) : Prop :=
  ∀ items, ∃ results, backend.runBatchSync items = .ok results ∧
    ∀ m customId, (results.get m customId).isSome ↔
      ∃ item ∈ items, item.customId = customId ∧ item.outputModel = m

/-- The pipeline returns one entry for each candidate, with one result for each reference, in order
and under its names. -/
def Completes (env : Env) (backend : Backend) (candidates : List CandidateBatchInput) : Prop :=
  ∃ outputs, runBatchPipeline env backend candidates = .ok outputs ∧
    outputs.length = candidates.length ∧
    ∀ (i : ℕ) (c : CandidateBatchInput) (out : CandidateOutput), candidates[i]? = some c →
      outputs[i]? = some out →
      (out.candidateName = c.candidateName ∧ out.roleAppliedFor = c.roleAppliedFor ∧
        out.claimedDetails = c.claimedDetails) ∧
      out.referenceResults.map (fun r => (r.referenceName, r.relationship)) =
        c.references.map fun ref => (ref.referenceName, ref.relationship)

theorem runBatchPipeline_eq_ok_iff {outputs : List CandidateOutput} :
    runBatchPipeline env backend candidates = .ok outputs ↔
      ∃ run, batchRun env backend candidates = .ok run ∧ run.output = outputs :=
  Except.map_eq_ok

theorem completes_of_runBatchPipeline {outputs : List CandidateOutput}
    (h : runBatchPipeline env backend candidates = .ok outputs) :
    runBatchPipeline env backend candidates = .ok outputs ∧
    outputs.length = candidates.length ∧
    ∀ (i : ℕ) (c : CandidateBatchInput) (out : CandidateOutput), candidates[i]? = some c →
      outputs[i]? = some out →
      (out.candidateName = c.candidateName ∧ out.roleAppliedFor = c.roleAppliedFor ∧
        out.claimedDetails = c.claimedDetails) ∧
      out.referenceResults.map (fun r => (r.referenceName, r.relationship)) =
        c.references.map fun ref => (ref.referenceName, ref.relationship) := by
  obtain ⟨run, hbatch, rfl⟩ := runBatchPipeline_eq_ok_iff.mp h
  have hrun := batchRun_refines hbatch
  refine ⟨h, ?_, ?_⟩
  · rw [hrun.output, List.length_mapIdx]
  · intro i c out hc hout
    rw [hrun.getElem?_output, hc, Option.map_some, Option.some.injEq] at hout
    subst hout
    refine ⟨⟨rfl, rfl, rfl⟩, List.ext_getElem? fun j => ?_⟩
    rw [List.getElem?_map, List.getElem?_map]
    show ((c.batchResults env (run.replies i))[j]?).map _ = _
    rw [getElem?_batchResults, Option.map_map]
    congr 1
    funext ref
    simp

theorem isSome_value?_iff {results : BatchResults} {m : OutputModel} {customId : String} :
    (results.value? m customId).isSome ↔ ∃ v, results.get m customId = some (.succeeded v) := by
  unfold BatchResults.value?
  cases results.get m customId with
  | none => simp
  | some result => cases result <;> simp [BatchItemResult.value?]

/-- **Which failures end a batch.** On a backend that answers exactly what was submitted, the
pipeline completes exactly when every sentiment item of a valid transcript succeeded. -/
theorem completes_iff (hne : ∀ c ∈ candidates, c.references ≠ []) (hcomplete : backend.Complete) :
    Completes env backend candidates ↔
      ∀ results, backend.runBatchSync (phase1Items env backend candidates) = .ok results →
        ∀ e ∈ refEntries candidates, e.ref.Valid env → e.ref.type = .REF1 →
          ∃ s, results.get .sentimentAndRedFlags (e.cid "sentiment") = some (.succeeded s) := by
  constructor
  · rintro ⟨outputs, houtputs, -⟩ results hresults e he hvalid htype
    obtain ⟨run, h, -⟩ := runBatchPipeline_eq_ok_iff.mp houtputs
    have hrun := batchRun_refines h
    have hphase1 := hrun.phase1Results
    have hitems := hrun.phase1_items_eq
    rw [hitems, runPhase_of_mem (mem_phase1Items he hvalid htype (Or.inl rfl)), hresults,
      Except.ok.injEq] at hphase1
    rw [← isSome_value?_iff, hphase1]
    exact (hrun.hasPhase1 e he hvalid htype).2
  · intro hsentiment
    have hphase1 : ∀ results,
        backend.runBatchSync (phase1Items env backend candidates) = .ok results →
        ∀ e ∈ refEntries candidates, HasPhase1 env results e := by
      intro results hresults e he hvalid htype
      obtain ⟨results', hresults', hget⟩ := hcomplete (phase1Items env backend candidates)
      rw [hresults, Except.ok.injEq] at hresults'
      subst hresults'
      exact ⟨(hget _ _).mpr ⟨_, mem_phase1Items he hvalid htype (Or.inl rfl), rfl, rfl⟩,
        isSome_value?_iff.mpr (hsentiment results hresults e he hvalid htype)⟩
    obtain ⟨run, h⟩ := exists_batchRun_of_total hne
      (fun items => (hcomplete items).imp fun _ hr => hr.1) hphase1
    exact ⟨run.output, completes_of_runBatchPipeline (runBatchPipeline_eq_ok_iff.mpr ⟨run, h, rfl⟩)⟩

/-- A backend with a result for exactly the submitted items, by the model they ask for. -/
def submittedBackend (reply : (m : OutputModel) → BatchItemResult m) : Backend where
  getModel := sampleModel
  runBatchSync items := .ok ⟨fun m customId =>
    if ∃ item ∈ items, item.customId = customId ∧ item.outputModel = m then some (reply m)
    else none⟩

theorem complete_submittedBackend (reply : (m : OutputModel) → BatchItemResult m) :
    (submittedBackend reply).Complete := by
  intro items
  refine ⟨_, rfl, fun m customId => ?_⟩
  dsimp only
  split_ifs with h
  · exact iff_of_true rfl h
  · exact iff_of_false Bool.false_ne_true h

/-- Replies of which only the sentiment came back. -/
def onlySentiment : (m : OutputModel) → BatchItemResult m
  | .extractedFacts => .failed "overloaded"
  | .sentimentAndRedFlags => .succeeded ⟨.positive, []⟩
  | .discrepancyNotes => .failed "overloaded"
  | .finalSummary => .failed "expired"
  | .overallSummary => .failed "expired"

/-- A batch whose sentiment items succeed completes, though all the others failed. -/
theorem completes_of_onlySentiment :
    Completes sampleEnv (submittedBackend onlySentiment)
      [sampleCandidate [sampleTranscript "Bob", sampleTranscript "Eve"],
        sampleCandidate [sampleTranscript "Kim"]] := by
  refine (completes_iff (by simp [sampleCandidate]) (complete_submittedBackend onlySentiment)).mpr ?_
  rintro results hresults e he hvalid htype
  cases hresults
  refine ⟨⟨.positive, []⟩, if_pos ⟨_, mem_phase1Items he hvalid htype (Or.inr rfl), rfl, rfl⟩⟩

/-- Replies of which the sentiment failed. -/
def withoutSentiment : (m : OutputModel) → BatchItemResult m
  | .extractedFacts => .succeeded {}
  | .sentimentAndRedFlags => .failed "expired"
  | .discrepancyNotes => .succeeded ⟨[]⟩
  | .finalSummary => .succeeded ⟨"Fine."⟩
  | .overallSummary => .succeeded ⟨"Fine."⟩

/-- One failed sentiment item ends the batch: the record built in its place is rejected. -/
theorem failed_sentiment_aborts :
    (submittedBackend withoutSentiment).Complete ∧
      runBatchPipeline sampleEnv (submittedBackend withoutSentiment)
        [sampleCandidate [sampleTranscript "Bob"], sampleCandidate [sampleTranscript "Eve"]] =
          .error (.pydanticValidationError "SentimentAndRedFlags") ∧
      ¬ Completes sampleEnv (submittedBackend withoutSentiment)
        [sampleCandidate [sampleTranscript "Bob"], sampleCandidate [sampleTranscript "Eve"]] := by
  have herror : runBatchPipeline sampleEnv (submittedBackend withoutSentiment)
      [sampleCandidate [sampleTranscript "Bob"], sampleCandidate [sampleTranscript "Eve"]] =
        .error (.pydanticValidationError "SentimentAndRedFlags") := by decide +kernel
  refine ⟨complete_submittedBackend withoutSentiment, herror, ?_⟩
  rintro ⟨outputs, houtputs, -⟩
  cases herror.symm.trans houtputs

/-! ### Candidates without references -/

/-- The backend returns, and every submitted item succeeds. -/
def Backend.Succeeds (backend : Backend) : Prop :=
  ∀ items, ∃ results, backend.runBatchSync items = .ok results ∧
    ∀ item ∈ items, ∃ v, results.get item.outputModel item.customId = some (.succeeded v)

/-- The pipeline returns one entry for each candidate. -/
def Returns (env : Env) (backend : Backend) (candidates : List CandidateBatchInput) : Prop :=
  ∃ outputs, runBatchPipeline env backend candidates = .ok outputs ∧
    outputs.length = candidates.length

theorem nonempty_of_runBatchPipeline {outputs : List CandidateOutput}
    (h : runBatchPipeline env backend candidates = .ok outputs) :
    ∀ c ∈ candidates, c.references ≠ [] := by
  obtain ⟨run, hrun, -⟩ := runBatchPipeline_eq_ok_iff.mp h
  exact (batchRun_refines hrun).nonempty

/-- **Which shapes end a batch.** When every item succeeds the pipeline returns exactly when every
candidate has a reference. A candidate without references cannot be added anywhere: the batch with
it has no outputs, for that candidate or any other. -/
theorem returns_iff (hsucceeds : backend.Succeeds) :
    (Returns env backend candidates ↔ ∀ c ∈ candidates, c.references ≠ []) ∧
    ∀ pre e post, candidates = pre ++ e :: post → e.references = [] →
      ∀ outputs, runBatchPipeline env backend candidates ≠ .ok outputs := by
  refine ⟨⟨?_, ?_⟩, ?_⟩
  · rintro ⟨outputs, houtputs, -⟩
    exact nonempty_of_runBatchPipeline houtputs
  · intro hne
    have hphase1 : ∀ results,
        backend.runBatchSync (phase1Items env backend candidates) = .ok results →
        ∀ e ∈ refEntries candidates, HasPhase1 env results e := by
      intro results hresults e he hvalid htype
      obtain ⟨results', hresults', hget⟩ := hsucceeds (phase1Items env backend candidates)
      rw [hresults, Except.ok.injEq] at hresults'
      subst hresults'
      obtain ⟨facts, hfacts⟩ := hget _ (mem_phase1Items he hvalid htype (Or.inl rfl))
      obtain ⟨s, hs⟩ := hget _ (mem_phase1Items he hvalid htype (Or.inr rfl))
      exact ⟨Option.isSome_iff_exists.mpr ⟨_, hfacts⟩, isSome_value?_iff.mpr ⟨s, hs⟩⟩
    obtain ⟨run, h⟩ := exists_batchRun_of_total hne
      (fun items => (hsucceeds items).imp fun _ hr => hr.1) hphase1
    obtain ⟨houtputs, hlength, -⟩ :=
      completes_of_runBatchPipeline (runBatchPipeline_eq_ok_iff.mpr ⟨run, h, rfl⟩)
    exact ⟨run.output, houtputs, hlength⟩
  · rintro pre e post rfl hempty outputs houtputs
    exact nonempty_of_runBatchPipeline houtputs e
      (List.mem_append_right pre List.mem_cons_self) hempty

theorem succeeds_submittedBackend :
    (submittedBackend cleanReply).Succeeds := by
  intro items
  refine ⟨_, rfl, fun item hitem => ?_⟩
  dsimp only
  rw [if_pos ⟨item, hitem, rfl, rfl⟩]
  cases item.outputModel with
  | extractedFacts => exact ⟨_, rfl⟩
  | sentimentAndRedFlags => exact ⟨_, rfl⟩
  | discrepancyNotes => exact ⟨_, rfl⟩
  | finalSummary => exact ⟨_, rfl⟩
  | overallSummary => exact ⟨_, rfl⟩

/-- Candidates with references are assessed, one of them with a reference that lacks its transcript. -/
theorem returns_of_references :
    Returns sampleEnv (submittedBackend cleanReply)
      [sampleCandidate [sampleTranscript "Bob", sampleTranscript "Eve"],
        sampleCandidate [{ sampleTranscript "Kim" with rawInput := none }]] :=
  (returns_iff succeeds_submittedBackend).1.mpr (by simp [sampleCandidate])

/-- A candidate without references ends the batch of another candidate in a division by zero. -/
theorem empty_candidate_aborts :
    (submittedBackend cleanReply).Succeeds ∧
      runBatchPipeline sampleEnv (submittedBackend cleanReply)
        [sampleCandidate [sampleTranscript "Bob"], sampleCandidate []] =
          .error .zeroDivisionError ∧
      ¬ Returns sampleEnv (submittedBackend cleanReply)
        [sampleCandidate [sampleTranscript "Bob"], sampleCandidate []] := by
  have herror : runBatchPipeline sampleEnv (submittedBackend cleanReply)
      [sampleCandidate [sampleTranscript "Bob"], sampleCandidate []] =
        .error .zeroDivisionError := by decide +kernel
  refine ⟨succeeds_submittedBackend, herror, ?_⟩
  rintro ⟨outputs, houtputs, -⟩
  cases herror.symm.trans houtputs

end RefCheck
