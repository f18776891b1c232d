import RefCheck.Batch.CustomIds
import RefCheck.Batch.Completion

/-!
# The pipeline over a backend that answers

What the pipeline submits is never empty, and has distinct IDs of the pipeline
(`BatchRun.Refines.submittable`), so a backend need only be right on such batches (`batchRun_congr`). If
it replies to each of their items as `reply` says, then the replies of a reference are found one after
another (`RefEntry.answered`), and they determine the output (`runBatchPipeline_eq_ok_iff_answered`).
-/

namespace RefCheck

variable {env : Env} {backend : Backend} {candidates : List CandidateBatchInput}

/-! ### What is submitted -/

/-- A batch as the pipeline submits it. -/
structure Submittable (items : List BatchItem) : Prop where
  ne_nil : items ≠ []
  nodup : (items.map (·.customId)).Nodup
  named : ∀ item ∈ items, ∃ id : PipelineId, item.customId = id.customId

theorem Submittable.nodup_recordId {items : List BatchItem} (h : Submittable items) :
    (items.map fun item => Bedrock.sanitizeRecordId item.customId).Nodup := by
  refine List.pairwise_map.mpr ((List.pairwise_map.mp h.nodup).imp_of_mem ?_)
  intro item item' hitem hitem' hne heq
  obtain ⟨id, hid⟩ := h.named item hitem
  obtain ⟨id', hid'⟩ := h.named item' hitem'
  rw [hid, hid'] at heq hne
  exact hne (congrArg PipelineId.customId (sanitizeRecordId_inj heq))

theorem submittable_collect {f : RefEntry → Except PyException (List BatchItem)}
    {steps : List RefStep} (hf : ItemsOf f steps) (hsteps : steps.Nodup) {items : List BatchItem}
    (h : Loop.collect f (refEntries candidates) = .ok items) (hne : items ≠ []) :
    Submittable items where
  ne_nil := hne
  nodup := (distinctIds_collect hf hsteps h).1
  named := by
    intro item hitem
    have hmem := (collect_sublist hf h).subset (List.mem_map.mpr ⟨item, hitem, rfl⟩)
    obtain ⟨e, -, hmem⟩ := List.mem_flatMap.mp hmem
    obtain ⟨s, -, hid⟩ := List.mem_map.mp hmem
    exact ⟨.request e.candidateIdx e.refIdx s, hid.symm⟩

theorem submittable_phase8 {byCandidate : Dict ℕ (List ReferenceResult)} {t : CandidateTables}
    {items : List BatchItem}
    (h : candidates.zipIdx.mapM (phase8Item env backend byCandidate t) = .ok items)
    (hne : items ≠ []) : Submittable items where
  ne_nil := hne
  nodup := (distinctIds_phase8 h).1
  named := by
    intro item hitem
    obtain ⟨p, -, hp⟩ := Loop.exists_of_mem_mapM h hitem
    exact ⟨.overall p.2, phase8Item_customId hp⟩

/-! ### Backends that agree -/

theorem runPhase_bind_congr {getModel : ModelTier → String}
    {run run' : List BatchItem → Except PyException BatchResults}
    (h : ∀ items, Submittable items → run items = run' items) {items : List BatchItem}
    (hitems : items ≠ [] → Submittable items) {B : Type} {f g : BatchResults → Except PyException B}
    (hfg : ∀ results, f results = g results) :
    (runPhase ⟨getModel, run⟩ items >>= f) = (runPhase ⟨getModel, run'⟩ items >>= g) := by
  have hphase : runPhase ⟨getModel, run⟩ items = runPhase ⟨getModel, run'⟩ items := by
    unfold runPhase
    split_ifs with hnil
    · rfl
    · exact h items (hitems hnil)
  rw [hphase]
  exact Except.bind_congr fun results _ => hfg results

theorem batchRun_congr {getModel : ModelTier → String}
    {run run' : List BatchItem → Except PyException BatchResults}
    (h : ∀ items, Submittable items → run items = run' items) :
    batchRun env ⟨getModel, run⟩ candidates = batchRun env ⟨getModel, run'⟩ candidates := by
  refine Except.bind_congr fun invalidRefs _ => runPhase_bind_congr h ?_ fun r₁ =>
    Except.bind_congr fun t₂ _ => Except.bind_congr fun items₃ hitems₃ =>
    runPhase_bind_congr h ?_ fun r₃ => Except.bind_congr fun t₃ _ =>
    Except.bind_congr fun items₄ hitems₄ => runPhase_bind_congr h ?_ fun r₄ =>
    Except.bind_congr fun t₄ _ => Except.bind_congr fun scores _ =>
    Except.bind_congr fun items₆ hitems₆ => runPhase_bind_congr h ?_ fun r₆ =>
    Except.bind_congr fun d _ => Except.bind_congr fun verdicts _ =>
    Except.bind_congr fun items₈ hitems₈ => runPhase_bind_congr h ?_ fun r₈ => rfl
  · exact submittable_collect phase1ItemsOf_itemsOf (by decide) (Loop.collect_eq_ok fun _ _ => rfl)
  · exact submittable_collect phase3ItemsOf_itemsOf (List.nodup_singleton _) hitems₃
  · exact submittable_collect phase4ItemsOf_itemsOf (List.nodup_singleton _) hitems₄
  · exact submittable_collect phase6ItemsOf_itemsOf (List.nodup_singleton _) hitems₆
  · exact submittable_phase8 hitems₈

open Classical in
/-- The backend, returning nothing for what is never submitted. -/
noncomputable def Backend.onSubmittable (backend : Backend) : Backend where
  getModel := backend.getModel
  runBatchSync items := if Submittable items then backend.runBatchSync items else .ok .empty

theorem batchRun_onSubmittable :
    batchRun env backend.onSubmittable candidates = batchRun env backend candidates :=
  batchRun_congr fun _ hitems => if_pos hitems

/-! ### The batches of a run -/

namespace BatchRun

variable {run : BatchRun}

theorem submittable_flatMap_items {backend : Backend} {a : ℕ → ℕ → RefReplies} {steps : List RefStep}
    (hsteps : steps.Nodup)
    (hne : ((refEntries candidates).flatMap fun e =>
      e.items env backend (a e.candidateIdx e.refIdx) steps) ≠ []) :
    Submittable ((refEntries candidates).flatMap fun e =>
      e.items env backend (a e.candidateIdx e.refIdx) steps) := by
  have hitems : ItemsOf (fun e : RefEntry =>
      .ok (e.items env backend (a e.candidateIdx e.refIdx) steps)) steps := by
    intro e items h
    obtain rfl := Except.ok.inj h
    rw [RefEntry.items, List.map_map]
    exact List.filter_sublist.map _
  exact submittable_collect hitems hsteps (Loop.collect_eq_ok fun _ _ => rfl) hne

theorem Refines.submittable_batchOf (h : run.Refines env backend candidates) (s : RefStep)
    (hne : (run.batchOf s).items ≠ []) : Submittable (run.batchOf s).items := by
  cases s with
  | extract =>
    rw [batchOf, h.phase1Items] at hne ⊢
    exact submittable_flatMap_items (by decide) hne
  | sentiment =>
    rw [batchOf, h.phase1Items] at hne ⊢
    exact submittable_flatMap_items (by decide) hne
  | commentSentiment =>
    rw [batchOf, h.phase3Items] at hne ⊢
    exact submittable_flatMap_items (List.nodup_singleton _) hne
  | explain =>
    rw [batchOf, h.phase4Items] at hne ⊢
    exact submittable_flatMap_items (List.nodup_singleton _) hne
  | summary =>
    rw [batchOf, h.phase6Items] at hne ⊢
    exact submittable_flatMap_items (List.nodup_singleton _) hne

theorem Refines.submittable_phase8 (h : run.Refines env backend candidates)
    (hne : run.phase8.items ≠ []) : Submittable run.phase8.items where
  ne_nil := hne
  nodup := by
    have hids : run.phase8.items.map (·.customId) = (List.range candidates.length).map overallCid := by
      have hzip : candidates.zipIdx.map Prod.snd = List.range candidates.length := by
        rw [List.range_eq_range']
        simp
      rw [h.phase8Items, List.mapIdx_eq_zipIdx_map, ← hzip, List.map_map, List.map_map]
      rfl
    rw [hids]
    exact List.nodup_range.map fun _ _ => overallCid_inj
  named := by
    intro item hitem
    rw [h.phase8Items] at hitem
    obtain ⟨i, hi, rfl⟩ := List.mem_mapIdx.mp hitem
    exact ⟨.overall i, rfl⟩

end BatchRun

/-! ### Replies, one after another -/

/-- Requests of a higher rank depend on the replies to those of a lower one. -/
def RefStep.rank : RefStep → ℕ
  | extract => 0
  | sentiment => 0
  | commentSentiment => 0
  | explain => 1
  | summary => 2

/-- What a request says depends on the replies of lower rank to what is asked. -/
theorem prompts_congr_of_rank {ref : ReferenceInput} {subj : Subject} {a a' : RefReplies}
    (hvalid : ref.Valid env) {s : RefStep}
    (h : ∀ s', s'.rank < s.rank → ref.asks env subj.claimedDetails a s' = true → a' s' = a s') :
    ref.prompts env subj a' s = ref.prompts env subj a s := by
  let b : RefReplies := fun s' => if s'.rank < s.rank then a' s' else a s'
  have hb : ref.prompts env subj a' s = ref.prompts env subj b s := by
    cases s <;> rfl
  rw [hb]
  refine prompts_congr hvalid (fun s' hs' => ?_) s
  by_cases hlt : s'.rank < s.rank
  · exact (if_pos hlt).trans (h s' hlt hs')
  · exact if_neg hlt

/-- What items come back with: a value, or none, by their IDs and what they say. -/
abbrev ItemReplies := (customId : String) → (prompts : String × String) → (m : OutputModel) →
  Option m.Value

/-- The backend has a result for every item that is submitted, with the value of its reply. -/
def Backend.RepliesAs (backend : Backend) (reply : ItemReplies) : Prop :=
  ∀ items, Submittable items → ∃ results, backend.runBatchSync items = .ok results ∧
    ∀ item ∈ items, ∃ result, results.get item.outputModel item.customId = some result ∧
      result.value? = reply item.customId (item.system, item.userMessage) item.outputModel

namespace RefEntry

variable (e : RefEntry) (env : Env) (reply : ItemReplies)

/-- The reply to a request, given those before it. -/
def replyTo (a : RefReplies) (s : RefStep) : Option s.model.Value :=
  reply (e.cid s.tag) (e.ref.prompts env e.candidate.subject a s) s.model

/-- The replies to the requests that depend on no other one. -/
def firstReplies : RefReplies
  | .extract => e.replyTo env reply (fun _ => none) .extract
  | .sentiment => e.replyTo env reply (fun _ => none) .sentiment
  | .commentSentiment => e.replyTo env reply (fun _ => none) .commentSentiment
  | .explain => none
  | .summary => none

/-- The replies that the summary depends on. -/
def evidenceReplies : RefReplies
  | .explain => e.replyTo env reply (e.firstReplies env reply) .explain
  | s => e.firstReplies env reply s

/-- The replies for a reference. -/
def answered : RefReplies
  | .summary => e.replyTo env reply (e.evidenceReplies env reply) .summary
  | s => e.evidenceReplies env reply s

variable {e env reply}

/-- Every one of them replies to the request that the others lead to. -/
theorem answered_eq (s : RefStep) :
    e.answered env reply s = e.replyTo env reply (e.answered env reply) s := by
  cases s <;> rfl

/-- Replies that reply to the requests that they lead to are these, for what is asked. -/
theorem eq_answered {a : RefReplies} (hvalid : e.ref.Valid env)
    (h : ∀ s, e.ref.asks env e.candidate.claimedDetails a s = true → a s = e.replyTo env reply a s)
    (s : RefStep) (hs : e.ref.asks env e.candidate.claimedDetails a s = true) :
    e.answered env reply s = a s := by
  induction hrank : s.rank using Nat.strong_induction_on generalizing s with
  | _ n ih =>
    have hprompts : e.ref.prompts env e.candidate.subject (e.answered env reply) s =
        e.ref.prompts env e.candidate.subject a s :=
      prompts_congr_of_rank hvalid fun s' hlt hs' => ih _ (hrank ▸ hlt) s' hs' rfl
    rw [answered_eq, h s hs, replyTo, replyTo, hprompts]

end RefEntry

namespace CandidateBatchInput

variable (c : CandidateBatchInput) (env : Env) (reply : ItemReplies) (candidateIdx : ℕ)

/-- The replies for the references of a candidate. -/
def answered (refIdx : ℕ) : RefReplies :=
  match c.references[refIdx]? with
  | some ref => RefEntry.answered ⟨candidateIdx, refIdx, c, ref⟩ env reply
  | none => fun _ => none

/-- The entry of a candidate, from the replies. -/
def answeredOutput : CandidateOutput :=
  let a := c.answered env reply candidateIdx
  c.batchOutput env a (reply (overallCid candidateIdx)
    (overallPrompts env c.subject (c.batchResults env a)) .overallSummary)

end CandidateBatchInput

/-! ### What the replies determine -/

section replies

variable {reply : ItemReplies}

theorem Backend.RepliesAs.value?_eq (hreply : backend.RepliesAs reply) {items : List BatchItem}
    {results : BatchResults} (hphase : runPhase backend items = .ok results)
    (hsub : items ≠ [] → Submittable items) {item : BatchItem} (hitem : item ∈ items) :
    results.value? item.outputModel item.customId =
      reply item.customId (item.system, item.userMessage) item.outputModel := by
  obtain ⟨results', hresults, hvalues⟩ := hreply _ (hsub (List.ne_nil_of_mem hitem))
  obtain rfl := Except.ok.inj (hphase.symm.trans ((runPhase_of_mem hitem).trans hresults))
  obtain ⟨result, hget, hvalue⟩ := hvalues item hitem
  rw [BatchResults.value?, hget]
  exact hvalue

namespace BatchRun.Refines

variable {run : BatchRun}

theorem runPhase_batchOf (h : run.Refines env backend candidates) (s : RefStep) :
    runPhase backend (run.batchOf s).items = .ok (run.batchOf s).results := by
  cases s with
  | extract => exact h.phase1Results
  | sentiment => exact h.phase1Results
  | commentSentiment => exact h.phase3Results
  | explain => exact h.phase4Results
  | summary => exact h.phase6Results

theorem replies_eq_answered (h : run.Refines env backend candidates) (hreply : backend.RepliesAs reply)
    {e : RefEntry} (he : e ∈ refEntries candidates) {s : RefStep}
    (hs : e.ref.asks env e.candidate.claimedDetails (run.replies e.candidateIdx e.refIdx) s = true) :
    e.answered env reply s = run.replies e.candidateIdx e.refIdx s := by
  refine RefEntry.eq_answered (valid_of_asks hs) (fun s hs => ?_) s hs
  have hvalue := hreply.value?_eq (h.runPhase_batchOf s) (h.submittable_batchOf s)
    (h.item_mem he hs)
  rw [run.replies_eq]
  exact hvalue

theorem batchResults_eq_answered (h : run.Refines env backend candidates)
    (hreply : backend.RepliesAs reply) {i : ℕ} {c : CandidateBatchInput} (hc : candidates[i]? = some c) :
    c.batchResults env (run.replies i) = c.batchResults env (c.answered env reply i) := by
  refine List.mapIdx_eq_mapIdx_iff.mpr fun j hj => ?_
  have hr : c.references[j]? = some c.references[j] := List.getElem?_eq_getElem hj
  refine (batchResult_congr fun s hs => ?_).symm
  rw [CandidateBatchInput.answered, hr]
  exact h.replies_eq_answered hreply (mem_refEntries_of_getElem? hc hr) hs

theorem overallReply_eq_answered (h : run.Refines env backend candidates)
    (hreply : backend.RepliesAs reply) {i : ℕ} {c : CandidateBatchInput} (hc : candidates[i]? = some c) :
    run.overallReply i = reply (overallCid i)
      (overallPrompts env c.subject (c.batchResults env (c.answered env reply i))) .overallSummary := by
  have hmem : c.overallItem env backend i (run.replies i) ∈ run.phase8.items := by
    rw [h.phase8Items]
    refine List.mem_of_getElem? (i := i) ?_
    rw [List.getElem?_mapIdx, hc]
    rfl
  rw [← h.batchResults_eq_answered hreply hc]
  exact hreply.value?_eq h.phase8Results h.submittable_phase8 hmem

theorem output_eq_answered (h : run.Refines env backend candidates)
    (hreply : backend.RepliesAs reply) :
    run.output = candidates.mapIdx fun i c => c.answeredOutput env reply i := by
  rw [h.output]
  refine List.mapIdx_eq_mapIdx_iff.mpr fun i hi => ?_
  have hc : candidates[i]? = some candidates[i] := List.getElem?_eq_getElem hi
  unfold CandidateBatchInput.answeredOutput CandidateBatchInput.batchOutput
  rw [h.batchResults_eq_answered hreply hc, h.overallReply_eq_answered hreply hc]

end BatchRun.Refines

variable (env reply candidates) in
/-- The sentiment of every transcript comes back. -/
def SentimentsReplied : Prop :=
  ∀ e ∈ refEntries candidates, e.ref.Valid env → e.ref.type = .REF1 →
    (e.replyTo env reply (fun _ => none) .sentiment).isSome

theorem hasPhase1_iff_of_repliesAs (hreply : backend.RepliesAs reply) {results : BatchResults}
    (hresults : runPhase backend (phase1Items env backend candidates) = .ok results)
    {e : RefEntry} (he : e ∈ refEntries candidates) :
    HasPhase1 env results e ↔ (e.ref.Valid env → e.ref.type = .REF1 →
      (e.replyTo env reply (fun _ => none) .sentiment).isSome) := by
  unfold HasPhase1
  refine forall_congr' fun hvalid => forall_congr' fun htype => ?_
  have hextract : e.item env backend (fun _ => none) .extract ∈ phase1Items env backend candidates :=
    mem_phase1Items he hvalid htype (Or.inl rfl)
  have hsentiment : e.item env backend (fun _ => none) .sentiment ∈ phase1Items env backend candidates :=
    mem_phase1Items he hvalid htype (Or.inr rfl)
  have hsub : Submittable (phase1Items env backend candidates) :=
    BatchRun.submittable_flatMap_items (a := fun _ _ _ => none) (by decide)
      (List.ne_nil_of_mem hextract)
  have hvalue : results.value? .sentimentAndRedFlags (e.cid "sentiment") =
      e.replyTo env reply (fun _ => none) .sentiment :=
    hreply.value?_eq hresults (fun _ => hsub) hsentiment
  obtain ⟨results', hresults', hvalues⟩ := hreply _ hsub
  obtain rfl := Except.ok.inj (hresults.symm.trans ((runPhase_of_mem hextract).trans hresults'))
  obtain ⟨result, hget, -⟩ := hvalues _ hextract
  rw [hvalue]
  exact and_iff_right (Option.isSome_iff_exists.mpr ⟨result, hget⟩)

/-- A backend that replies lets the pipeline return. -/
theorem exists_batchRun_of_repliesAs (hreply : backend.RepliesAs reply)
    (hne : ∀ c ∈ candidates, c.references ≠ [])
    (hsentiments : SentimentsReplied env candidates reply) :
    ∃ run, batchRun env backend candidates = .ok run := by
  have hreply' : backend.onSubmittable.RepliesAs reply := by
    intro items hitems
    have hrun : backend.onSubmittable.runBatchSync items = backend.runBatchSync items := if_pos hitems
    rw [hrun]
    exact hreply items hitems
  rw [← batchRun_onSubmittable]
  refine exists_batchRun hne (fun items => ?_) fun results hresults e he =>
    (hasPhase1_iff_of_repliesAs hreply' hresults he).mpr (hsentiments e he)
  unfold runPhase
  split_ifs with hnil
  · exact ⟨_, rfl⟩
  · by_cases hitems : Submittable items
    · obtain ⟨results, hresults, -⟩ := hreply' items hitems
      exact ⟨results, hresults⟩
    · exact ⟨_, if_neg hitems⟩

/-- **The replies determine what the pipeline returns.** -/
theorem runBatchPipeline_eq_ok_iff_answered (hreply : backend.RepliesAs reply)
    {outputs : List CandidateOutput} :
    runBatchPipeline env backend candidates = .ok outputs ↔
      (∀ c ∈ candidates, c.references ≠ []) ∧ SentimentsReplied env candidates reply ∧
        outputs = candidates.mapIdx fun i c => c.answeredOutput env reply i := by
  rw [runBatchPipeline_eq_ok_iff]
  constructor
  · rintro ⟨run, h, rfl⟩
    have hrun := batchRun_refines h
    have hphase1 := hrun.phase1Results
    rw [hrun.phase1_items_eq] at hphase1
    exact ⟨hrun.nonempty, fun e he => (hasPhase1_iff_of_repliesAs hreply hphase1 he).mp
      (hrun.hasPhase1 e he), hrun.output_eq_answered hreply⟩
  · rintro ⟨hne, hsentiments, rfl⟩
    obtain ⟨run, h⟩ := exists_batchRun_of_repliesAs hreply hne hsentiments
    exact ⟨run, h, (batchRun_refines h).output_eq_answered hreply⟩

end replies

end RefCheck
