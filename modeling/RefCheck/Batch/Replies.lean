import RefCheck.Batch.Refinement

/-!
# What a run of the batch pipeline depends on

A result depends only on the replies to the requests that were made for its reference
(`batchResult_congr`), and it asks for a review exactly when the reference is invalid, its evidence
asks for one or its summary is lost (`needsHumanReview_batchResult_iff`). `Refines` is read here
reference by reference: its results are found in the output, its items in the batches.
-/

namespace RefCheck

variable {env : Env} {backend : Backend} {candidates : List CandidateBatchInput}

/-! ### Evidence and results -/

section evidence

variable {ref : ReferenceInput} {claimed : ClaimedDetails} {a a' : RefReplies}

theorem score_evidence :
    (ref.evidence env claimed a).score env = (ref.commentedEvidence env claimed a).score env := by
  unfold ReferenceInput.evidence
  cases (if ref.type = .REF1 then a .explain else none) with
  | none => rfl
  | some notes => exact scoreConfidence_applyNotes env notes _ _ _

theorem facts_evidence :
    (ref.evidence env claimed a).facts = (ref.firstEvidence env claimed a).facts := by
  have hcommented : (ref.commentedEvidence env claimed a).facts =
      (ref.firstEvidence env claimed a).facts := by
    unfold ReferenceInput.commentedEvidence
    cases (if ref.hasComments then a .commentSentiment else none) <;> rfl
  rw [← hcommented]
  unfold ReferenceInput.evidence
  cases (if ref.type = .REF1 then a .explain else none) <;> rfl

theorem asks_iff {s : RefStep} :
    ref.asks env claimed a s = true ↔ ref.Valid env ∧ match s with
      | .extract => ref.type = .REF1
      | .sentiment => ref.type = .REF1
      | .commentSentiment => ref.hasComments = true
      | .explain => ref.type = .REF1 ∧ (ref.firstEvidence env claimed a).discrepancies ≠ []
      | .summary => True := by
  cases s <;> simp [ReferenceInput.asks]

theorem firstEvidence_congr (hvalid : ref.Valid env)
    (h : ∀ s, ref.asks env claimed a s = true → a' s = a s) :
    ref.firstEvidence env claimed a' = ref.firstEvidence env claimed a := by
  cases htype : ref.type with
  | REF1 =>
    rw [firstEvidence_of_transcript htype, firstEvidence_of_transcript htype,
      h .extract (asks_iff.mpr ⟨hvalid, htype⟩), h .sentiment (asks_iff.mpr ⟨hvalid, htype⟩)]
  | REF2 =>
    rw [ReferenceInput.firstEvidence, ReferenceInput.firstEvidence, htype]

theorem asks_congr (h : ∀ s, ref.asks env claimed a s = true → a' s = a s) (s : RefStep) :
    ref.asks env claimed a' s = ref.asks env claimed a s := by
  by_cases hvalid : ref.Valid env
  · unfold ReferenceInput.asks
    rw [firstEvidence_congr hvalid h]
  · simp [ReferenceInput.asks, hvalid]

theorem evidence_congr (hvalid : ref.Valid env)
    (h : ∀ s, ref.asks env claimed a s = true → a' s = a s) :
    ref.evidence env claimed a' = ref.evidence env claimed a := by
  have hfirst := firstEvidence_congr hvalid h
  cases htype : ref.type with
  | REF1 =>
    by_cases hnil : (ref.firstEvidence env claimed a).discrepancies = []
    · rw [evidence_of_nil htype hnil, evidence_of_nil htype (hfirst ▸ hnil), hfirst]
    · rw [evidence_of_transcript htype, evidence_of_transcript htype, hfirst,
        h .explain (asks_iff.mpr ⟨hvalid, htype, hnil⟩)]
  | REF2 =>
    rw [evidence_of_form htype, evidence_of_form htype]
    unfold ReferenceInput.commentedEvidence
    rw [hfirst]
    by_cases hcomments : ref.hasComments = true
    · rw [if_pos hcomments, if_pos hcomments,
        h .commentSentiment (asks_iff.mpr ⟨hvalid, hcomments⟩)]
    · rw [if_neg hcomments, if_neg hcomments]

end evidence

/-! ### Results -/

section results

variable {ref : ReferenceInput} {subj : Subject} {a a' : RefReplies}

theorem batchResult_of_valid (hvalid : ref.Valid env) :
    ref.batchResult env subj a =
      { ref.reviewed env (ref.evidence env subj.claimedDetails a)
          (((a .summary).map (·.summary)).getD missingSummary) with
        needsHumanReview := ((ref.evidence env subj.claimedDetails a).score env).needsHumanReview ||
          (a .summary).isNone } := by
  rw [ReferenceInput.batchResult, (validateReference_ok_iff env subj.candidateName ref).mpr hvalid]

theorem batchResult_of_not_valid (subj : Subject) (a : RefReplies) (hvalid : ¬ ref.Valid env) :
    ∃ e, validateReference env subj.candidateName ref = .error e ∧
      ref.batchResult env subj a = excludedResult ref e.str := by
  cases h : validateReference env subj.candidateName ref with
  | ok u => exact absurd ((validateReference_ok_iff env _ ref).mp h) hvalid
  | error e => exact ⟨e, rfl, by rw [ReferenceInput.batchResult, h]⟩

@[simp] theorem referenceName_batchResult :
    (ref.batchResult env subj a).referenceName = ref.referenceName := by
  unfold ReferenceInput.batchResult
  cases validateReference env subj.candidateName ref <;> rfl

@[simp] theorem relationship_batchResult :
    (ref.batchResult env subj a).relationship = ref.relationship := by
  unfold ReferenceInput.batchResult
  cases validateReference env subj.candidateName ref <;> rfl

theorem needsHumanReview_batchResult_iff :
    (ref.batchResult env subj a).needsHumanReview = true ↔
      ¬ ref.Valid env ∨ a .summary = none ∨
        ((ref.commentedEvidence env subj.claimedDetails a).score env).needsHumanReview = true := by
  by_cases hvalid : ref.Valid env
  · rw [batchResult_of_valid hvalid, score_evidence]
    simp [hvalid, or_comm]
  · obtain ⟨e, -, hresult⟩ := batchResult_of_not_valid subj a hvalid
    simp [hresult, hvalid, excludedResult]

theorem prompts_congr (hvalid : ref.Valid env)
    (h : ∀ s, ref.asks env subj.claimedDetails a s = true → a' s = a s) (s : RefStep) :
    ref.prompts env subj a' s = ref.prompts env subj a s := by
  cases s with
  | extract => rfl
  | sentiment => rfl
  | commentSentiment => rfl
  | explain =>
    unfold ReferenceInput.prompts
    dsimp only
    rw [firstEvidence_congr hvalid h]
  | summary =>
    unfold ReferenceInput.prompts
    dsimp only
    rw [evidence_congr hvalid h]

/-- Replies that agree on the requests made give the same result. -/
theorem batchResult_congr (h : ∀ s, ref.asks env subj.claimedDetails a s = true → a' s = a s) :
    ref.batchResult env subj a' = ref.batchResult env subj a := by
  by_cases hvalid : ref.Valid env
  · rw [batchResult_of_valid hvalid, batchResult_of_valid hvalid, evidence_congr hvalid h,
      h .summary (asks_iff.mpr ⟨hvalid, trivial⟩)]
  · unfold ReferenceInput.batchResult
    cases h : validateReference env subj.candidateName ref with
    | ok u => exact absurd ((validateReference_ok_iff env _ ref).mp h) hvalid
    | error e => rfl

end results

/-! ### A run, reference by reference -/

namespace BatchRun

variable {run : BatchRun}

/-- The batch that a kind of request goes into. -/
def batchOf (run : BatchRun) : RefStep → Batch
  | .extract => run.phase1
  | .sentiment => run.phase1
  | .commentSentiment => run.phase3
  | .explain => run.phase4
  | .summary => run.phase6

/-- The batches of the references. -/
def refBatches (run : BatchRun) : List Batch := [run.phase1, run.phase3, run.phase4, run.phase6]

theorem batchOf_mem_refBatches (s : RefStep) : run.batchOf s ∈ run.refBatches := by
  cases s <;> simp [batchOf, refBatches]

theorem replies_eq (i j : ℕ) (s : RefStep) :
    run.replies i j s = (run.batchOf s).results.value? s.model (cid i j s.tag) := by
  cases s <;> rfl

theorem Refines.item_mem (h : run.Refines env backend candidates) {e : RefEntry}
    (he : e ∈ refEntries candidates) {s : RefStep}
    (hs : e.ref.asks env e.candidate.claimedDetails (run.replies e.candidateIdx e.refIdx) s = true) :
    e.item env backend (run.replies e.candidateIdx e.refIdx) s ∈ (run.batchOf s).items := by
  have hmem : ∀ steps : List RefStep, s ∈ steps →
      e.item env backend (run.replies e.candidateIdx e.refIdx) s ∈
        (refEntries candidates).flatMap fun e =>
          e.items env backend (run.replies e.candidateIdx e.refIdx) steps := by
    intro steps hsteps
    exact List.mem_flatMap.mpr ⟨e, he, List.mem_map.mpr ⟨s, List.mem_filter.mpr ⟨hsteps, hs⟩, rfl⟩⟩
  cases s with
  | extract =>
    rw [batchOf, h.phase1Items]
    exact hmem _ (by simp)
  | sentiment =>
    rw [batchOf, h.phase1Items]
    exact hmem _ (by simp)
  | commentSentiment =>
    rw [batchOf, h.phase3Items]
    exact hmem _ (by simp)
  | explain =>
    rw [batchOf, h.phase4Items]
    exact hmem _ (by simp)
  | summary =>
    rw [batchOf, h.phase6Items]
    exact hmem _ (by simp)

/-- What is submitted in the batches of the references is a request that is made. -/
theorem Refines.of_mem_items (h : run.Refines env backend candidates) {b : Batch}
    (hb : b ∈ run.refBatches) {item : BatchItem} (hitem : item ∈ b.items) :
    ∃ e ∈ refEntries candidates, ∃ s, b = run.batchOf s ∧
      e.ref.asks env e.candidate.claimedDetails (run.replies e.candidateIdx e.refIdx) s = true ∧
      item = e.item env backend (run.replies e.candidateIdx e.refIdx) s := by
  have hmem : ∀ steps : List RefStep, (∀ s ∈ steps, b = run.batchOf s) →
      item ∈ (refEntries candidates).flatMap (fun e =>
        e.items env backend (run.replies e.candidateIdx e.refIdx) steps) →
      ∃ e ∈ refEntries candidates, ∃ s, b = run.batchOf s ∧
        e.ref.asks env e.candidate.claimedDetails (run.replies e.candidateIdx e.refIdx) s = true ∧
        item = e.item env backend (run.replies e.candidateIdx e.refIdx) s := by
    intro steps hsteps hin
    obtain ⟨e, he, hin⟩ := List.mem_flatMap.mp hin
    obtain ⟨s, hs, rfl⟩ := List.mem_map.mp hin
    obtain ⟨hs, hasks⟩ := List.mem_filter.mp hs
    exact ⟨e, he, s, hsteps s hs, hasks, rfl⟩
  simp only [refBatches, List.mem_cons, List.not_mem_nil, or_false] at hb
  rcases hb with rfl | rfl | rfl | rfl
  · rw [h.phase1Items] at hitem
    exact hmem _ (by simp [batchOf]) hitem
  · rw [h.phase3Items] at hitem
    exact hmem _ (by simp [batchOf]) hitem
  · rw [h.phase4Items] at hitem
    exact hmem _ (by simp [batchOf]) hitem
  · rw [h.phase6Items] at hitem
    exact hmem _ (by simp [batchOf]) hitem

theorem Refines.phase1_items_eq (h : run.Refines env backend candidates) :
    run.phase1.items = RefCheck.phase1Items env backend candidates := by
  rw [h.phase1Items, RefCheck.phase1Items]
  congr 1
  funext e
  unfold RefEntry.items
  rw [List.filter_congr (q := e.ref.asks env e.candidate.claimedDetails (fun _ => none))]
  · refine List.map_congr_left fun s hs => ?_
    have hs := List.mem_of_mem_filter hs
    simp only [List.mem_cons, List.not_mem_nil, or_false] at hs
    rcases hs with rfl | rfl <;> rfl
  · intro s hs
    simp only [List.mem_cons, List.not_mem_nil, or_false] at hs
    rcases hs with rfl | rfl <;> rfl

theorem Refines.getElem?_output (h : run.Refines env backend candidates) (i : ℕ) :
    run.output[i]? = candidates[i]?.map fun c =>
      c.batchOutput env (run.replies i) (run.overallReply i) := by
  rw [h.output, List.getElem?_mapIdx]

theorem Refines.output_eq_some_iff (h : run.Refines env backend candidates) {i : ℕ}
    {out : CandidateOutput} :
    run.output[i]? = some out ↔ ∃ c, candidates[i]? = some c ∧
      out = c.batchOutput env (run.replies i) (run.overallReply i) := by
  rw [h.getElem?_output, Option.map_eq_some_iff]
  simp only [eq_comm]

end BatchRun

theorem getElem?_batchResults (c : CandidateBatchInput) (a : ℕ → RefReplies) (j : ℕ) :
    (c.batchResults env a)[j]? =
      c.references[j]?.map fun ref => ref.batchResult env c.subject (a j) := by
  rw [CandidateBatchInput.batchResults, List.getElem?_mapIdx]

theorem mem_refEntries_of_getElem? {i j : ℕ} {c : CandidateBatchInput} {ref : ReferenceInput}
    (hc : candidates[i]? = some c) (hr : c.references[j]? = some ref) :
    (⟨i, j, c, ref⟩ : RefEntry) ∈ refEntries candidates :=
  mem_refEntries_iff.mpr ⟨hc, hr⟩

/-! ### Lost items -/

/-- An item of a batch whose result failed or is missing. -/
def Batch.Lost (b : Batch) (item : BatchItem) : Prop :=
  item ∈ b.items ∧ b.results.value? item.outputModel item.customId = none

/-- One of the items submitted for a reference is lost. -/
def BatchRun.LostFor (run : BatchRun) (i j : ℕ) : Prop :=
  ∃ b ∈ run.refBatches, ∃ item tag, item.customId = cid i j tag ∧ b.Lost item

theorem BatchRun.Refines.lostFor_iff {run : BatchRun} (h : run.Refines env backend candidates)
    {i j : ℕ} {c : CandidateBatchInput} {ref : ReferenceInput} (hc : candidates[i]? = some c)
    (hr : c.references[j]? = some ref) :
    run.LostFor i j ↔ ∃ s, ref.asks env c.claimedDetails (run.replies i j) s = true ∧
      run.replies i j s = none := by
  constructor
  · rintro ⟨b, hb, item, tag, hid, hitem, hlost⟩
    obtain ⟨e, he, s, rfl, hasks, rfl⟩ := h.of_mem_items hb hitem
    obtain ⟨rfl, rfl, -⟩ := cid_inj hid
    obtain ⟨hc', hr'⟩ := mem_refEntries_iff.mp he
    rw [hc', Option.some.injEq] at hc
    subst hc
    rw [hr', Option.some.injEq] at hr
    subst hr
    refine ⟨s, hasks, ?_⟩
    rw [run.replies_eq]
    exact hlost
  · rintro ⟨s, hasks, hnone⟩
    have he := mem_refEntries_of_getElem? hc hr
    refine ⟨run.batchOf s, run.batchOf_mem_refBatches s, _, s.tag, rfl, h.item_mem he hasks, ?_⟩
    rw [run.replies_eq] at hnone
    exact hnone

/-! ### Backends with a map of replies -/

/-- What the backend returns for a submitted item is what the map has under its ID. -/
def Backend.Gives (backend : Backend) (replies : BatchResults) : Prop :=
  ∀ items, ∃ results, backend.runBatchSync items = .ok results ∧ ∀ item ∈ items,
    results.get item.outputModel item.customId = replies.get item.outputModel item.customId

/-- The backend that returns the same results for every batch. -/
def Backend.fixed (getModel : ModelTier → String) (results : BatchResults) : Backend where
  getModel := getModel
  runBatchSync _ := .ok results

theorem gives_fixed (getModel : ModelTier → String) (results : BatchResults) :
    (Backend.fixed getModel results).Gives results :=
  fun _ => ⟨results, rfl, fun _ _ => rfl⟩

theorem hasPhase1_iff_of_gives {results replies : BatchResults} (hgives : backend.Gives replies)
    (hresults : backend.runBatchSync (phase1Items env backend candidates) = .ok results)
    {e : RefEntry} (he : e ∈ refEntries candidates) :
    HasPhase1 env results e ↔ HasPhase1 env replies e := by
  obtain ⟨results', hresults', hget⟩ := hgives (phase1Items env backend candidates)
  rw [hresults, Except.ok.injEq] at hresults'
  subst hresults'
  unfold HasPhase1
  refine forall_congr' fun hvalid => forall_congr' fun htype => ?_
  have hextract := hget _ (mem_phase1Items he hvalid htype (Or.inl rfl))
  have hsentiment := hget _ (mem_phase1Items he hvalid htype (Or.inr rfl))
  change results.get .extractedFacts (e.cid "extract") =
    replies.get .extractedFacts (e.cid "extract") at hextract
  change results.get .sentimentAndRedFlags (e.cid "sentiment") =
    replies.get .sentimentAndRedFlags (e.cid "sentiment") at hsentiment
  rw [BatchResults.value?, BatchResults.value?, hextract, hsentiment]

/-- When the pipeline returns on a backend with a map of replies. -/
theorem exists_batchRun_iff {replies : BatchResults} (hgives : backend.Gives replies) :
    (∃ run, batchRun env backend candidates = .ok run) ↔
      (∀ c ∈ candidates, c.references ≠ []) ∧
        ∀ e ∈ refEntries candidates, HasPhase1 env replies e := by
  constructor
  · rintro ⟨run, h⟩
    have hrun := batchRun_refines h
    refine ⟨hrun.nonempty, fun e he hvalid htype => ?_⟩
    have hphase1 := hrun.phase1Results
    rw [hrun.phase1_items_eq, runPhase_of_mem (mem_phase1Items he hvalid htype (Or.inl rfl))]
      at hphase1
    exact (hasPhase1_iff_of_gives hgives hphase1 he).mp (hrun.hasPhase1 e he) hvalid htype
  · rintro ⟨hne, hphase1⟩
    refine exists_batchRun_of_total hne (fun items => ?_) fun results hresults e he => ?_
    · obtain ⟨results, hresults, -⟩ := hgives items
      exact ⟨results, hresults⟩
    · exact (hasPhase1_iff_of_gives hgives hresults he).mpr (hphase1 e he)

/-- The replies that a candidate finds under its IDs. -/
def BatchResults.repliesAt (results : BatchResults) (i j : ℕ) : RefReplies :=
  fun s => results.value? s.model (cid i j s.tag)

namespace BatchRun.Refines

variable {run : BatchRun} {replies : BatchResults}

theorem results_of_asks (h : run.Refines env backend candidates) {i j : ℕ}
    {c : CandidateBatchInput} {ref : ReferenceInput} (hc : candidates[i]? = some c)
    (hr : c.references[j]? = some ref) {s : RefStep}
    (hs : ref.asks env c.claimedDetails (run.replies i j) s = true) :
    backend.runBatchSync (run.batchOf s).items = .ok (run.batchOf s).results := by
  have hmem := h.item_mem (mem_refEntries_of_getElem? hc hr) hs
  rw [← runPhase_of_mem hmem]
  cases s with
  | extract => exact h.phase1Results
  | sentiment => exact h.phase1Results
  | commentSentiment => exact h.phase3Results
  | explain => exact h.phase4Results
  | summary => exact h.phase6Results

theorem replies_eq_repliesAt (h : run.Refines env backend candidates) (hgives : backend.Gives replies)
    {i j : ℕ} {c : CandidateBatchInput} {ref : ReferenceInput} (hc : candidates[i]? = some c)
    (hr : c.references[j]? = some ref) {s : RefStep}
    (hs : ref.asks env c.claimedDetails (run.replies i j) s = true) :
    run.replies i j s = replies.repliesAt i j s := by
  have hmem := h.item_mem (mem_refEntries_of_getElem? hc hr) hs
  obtain ⟨results, hresults, hget⟩ := hgives (run.batchOf s).items
  rw [h.results_of_asks hc hr hs, Except.ok.injEq] at hresults
  subst hresults
  have hget := hget _ hmem
  change (run.batchOf s).results.get s.model (cid i j s.tag) = replies.get s.model (cid i j s.tag)
    at hget
  rw [run.replies_eq, BatchResults.repliesAt, BatchResults.value?, BatchResults.value?, hget]

theorem overallReply_eq (h : run.Refines env backend candidates) (hgives : backend.Gives replies)
    {i : ℕ} {c : CandidateBatchInput} (hc : candidates[i]? = some c) :
    run.overallReply i = replies.value? .overallSummary (overallCid i) := by
  have hmem : c.overallItem env backend i (run.replies i) ∈ run.phase8.items := by
    rw [h.phase8Items]
    refine List.mem_of_getElem? (i := i) ?_
    rw [List.getElem?_mapIdx, hc]
    rfl
  have hphase8 := h.phase8Results
  rw [runPhase_of_mem hmem] at hphase8
  obtain ⟨results, hresults, hget⟩ := hgives run.phase8.items
  rw [hphase8, Except.ok.injEq] at hresults
  subst hresults
  have hget := hget _ hmem
  change run.phase8.results.get .overallSummary (overallCid i) =
    replies.get .overallSummary (overallCid i) at hget
  rw [BatchRun.overallReply, BatchResults.value?, BatchResults.value?, hget]

theorem batchResults_eq (h : run.Refines env backend candidates) (hgives : backend.Gives replies)
    {i : ℕ} {c : CandidateBatchInput} (hc : candidates[i]? = some c) :
    c.batchResults env (run.replies i) = c.batchResults env (replies.repliesAt i) := by
  refine List.mapIdx_eq_mapIdx_iff.mpr (fun j hj => ?_)
  have hagree : ∀ s, c.references[j].asks env c.subject.claimedDetails (run.replies i j) s = true →
      replies.repliesAt i j s = run.replies i j s := by
    intro s hs
    exact (h.replies_eq_repliesAt hgives hc (List.getElem?_eq_getElem hj) hs).symm
  exact (batchResult_congr hagree).symm

/-- The entry of a candidate is made of the replies found under its IDs. -/
theorem getElem?_output_eq (h : run.Refines env backend candidates) (hgives : backend.Gives replies)
    (i : ℕ) :
    run.output[i]? = candidates[i]?.map fun c => c.batchOutput env (replies.repliesAt i)
      (replies.value? .overallSummary (overallCid i)) := by
  rw [h.getElem?_output]
  cases hc : candidates[i]? with
  | none => rfl
  | some c =>
    rw [Option.map_some, Option.map_some]
    unfold CandidateBatchInput.batchOutput
    rw [h.batchResults_eq hgives hc, h.overallReply_eq hgives hc]

end BatchRun.Refines

end RefCheck
