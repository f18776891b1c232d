import RefCheck.Agreement.Results

/-!
# Both paths ask the same questions

The requests that a batch submits for a candidate, told by their IDs, are up to their order the
requests of the candidate graph, if every comment on a form reads the same stripped. Otherwise they
are not: the batch sends the stripped comments, the graph sends them as they are
(`requests_agree_iff`).
-/

namespace RefCheck

variable {env : Env} {backend : Backend} {candidates : List CandidateBatchInput}
  {replies : BatchResults} {c : CandidateBatchInput} {run : BatchRun} {i : ℕ}

/-! ### What a batch asks for a candidate -/

/-- Whether an item is for candidate `i`, by its ID. -/
def BatchItem.isFor (i : ℕ) (item : BatchItem) : Bool :=
  (candidatePrefix i).toList <+: item.customId.toList

/-- Everything that was submitted. -/
def BatchRun.items (run : BatchRun) : List BatchItem :=
  run.phase1.items ++ run.phase3.items ++ run.phase4.items ++ run.phase6.items ++ run.phase8.items

/-- What was submitted for candidate `i`. -/
def BatchRun.requestsFor (run : BatchRun) (i : ℕ) : List LLMRequest :=
  (run.items.filter (BatchItem.isFor i)).map (·.toLLMRequest)

theorem isFor_item (e : RefEntry) (a : RefReplies) (s : RefStep) :
    BatchItem.isFor i (e.item env backend a s) = decide (e.candidateIdx = i) :=
  decide_eq_decide.mpr (candidatePrefix_isPrefix_iff (toList_cid e.candidateIdx e.refIdx s.tag))

theorem isFor_overallItem (k : ℕ) (a : ℕ → RefReplies) :
    BatchItem.isFor i (c.overallItem env backend k a) = decide (k = i) :=
  decide_eq_decide.mpr (candidatePrefix_isPrefix_iff (toList_overallCid k))

theorem filter_items (a : ℕ → ℕ → RefReplies) (steps : List RefStep)
    (hc : candidates[i]? = some c) :
    ((refEntries candidates).flatMap fun e =>
        e.items env backend (a e.candidateIdx e.refIdx) steps).filter (BatchItem.isFor i) =
      (c.entries i).flatMap fun e => e.items env backend (a e.candidateIdx e.refIdx) steps := by
  have hfilter : ∀ e : RefEntry,
      (e.items env backend (a e.candidateIdx e.refIdx) steps).filter (BatchItem.isFor i) =
        if e.candidateIdx = i then e.items env backend (a e.candidateIdx e.refIdx) steps else [] := by
    intro e
    have hfor : ∀ item ∈ e.items env backend (a e.candidateIdx e.refIdx) steps,
        BatchItem.isFor i item = decide (e.candidateIdx = i) := by
      intro item hitem
      obtain ⟨s, -, rfl⟩ := List.mem_map.mp hitem
      exact isFor_item e _ s
    split_ifs with hi
    · refine List.filter_eq_self.mpr fun item hitem => ?_
      rw [hfor item hitem, decide_eq_true hi]
    · refine List.filter_eq_nil_iff.mpr fun item hitem => ?_
      rw [hfor item hitem, decide_eq_false hi]
      exact Bool.false_ne_true
  rw [List.filter_flatMap]
  simp only [hfilter]
  rw [Lists.flatMap_ite, filter_candidateIdx, hc]
  rfl

theorem filter_overallItems (a : ℕ → ℕ → RefReplies) (hc : candidates[i]? = some c) :
    (candidates.mapIdx fun k c => c.overallItem env backend k (a k)).filter (BatchItem.isFor i) =
      [c.overallItem env backend i (a i)] :=
  Lists.filter_mapIdx hc fun k _ => isFor_overallItem k (a k)

theorem items_append (e : RefEntry) (a : RefReplies) (steps steps' : List RefStep) :
    e.items env backend a steps ++ e.items env backend a steps' =
      e.items env backend a (steps ++ steps') := by
  simp only [RefEntry.items, List.filter_append, List.map_append]

/-- The steps that are reached for a candidate, each with its reference. -/
def CandidateBatchInput.askedSteps (c : CandidateBatchInput) (env : Env) (a : ℕ → RefReplies) :
    List (ReferenceInput × ℕ × RefStep) :=
  (c.references.mapIdx fun j ref =>
    (ref.askedSteps env c.subject.claimedDetails (a j)).map fun s => (ref, j, s)).flatten

/-- The request of one step, with the prompts that a path sends. -/
def stepRequest (getModel : ModelTier → String) (prompts : String × String) (s : RefStep) :
    LLMRequest where
  system := prompts.1
  userMessage := prompts.2
  outputModel := s.model
  model := getModel s.tier

/-- What the batch asks for the step of a reference. -/
def batchRequest (env : Env) (getModel : ModelTier → String) (c : CandidateBatchInput)
    (a : ℕ → RefReplies) (p : ReferenceInput × ℕ × RefStep) : LLMRequest :=
  stepRequest getModel (p.1.prompts env c.subject (a p.2.1) p.2.2) p.2.2

/-- What the graph asks for the step of a reference. -/
def graphRequest (env : Env) (getModel : ModelTier → String) (c : CandidateBatchInput)
    (a : ℕ → RefReplies) (p : ReferenceInput × ℕ × RefStep) : LLMRequest :=
  stepRequest getModel (p.1.askedPrompts env c.subject (a p.2.1) p.2.2) p.2.2

theorem entries_flatMap_items (a : ℕ → RefReplies) :
    ((c.entries i).flatMap fun e => e.items env backend (a e.refIdx)
        [.extract, .sentiment, .commentSentiment, .explain, .summary]).map (·.toLLMRequest) =
      (c.askedSteps env a).map (batchRequest env backend.getModel c a) := by
  unfold CandidateBatchInput.entries CandidateBatchInput.askedSteps
  rw [List.flatMap_def, List.map_flatten, List.map_flatten, List.map_map]
  congr 1
  refine List.ext_getElem? fun j => ?_
  simp only [List.getElem?_map, List.getElem?_mapIdx, Option.map_map]
  congr 1
  funext ref
  simp only [Function.comp_apply, RefEntry.items, List.map_map]
  rfl

theorem BatchRun.Refines.requestsFor_perm (h : run.Refines env backend candidates)
    (hc : candidates[i]? = some c) :
    (run.requestsFor i).Perm ((c.askedSteps env (run.replies i)).map
        (batchRequest env backend.getModel c (run.replies i)) ++
      [(c.overallItem env backend i (run.replies i)).toLLMRequest]) := by
  have hentries : ∀ e ∈ c.entries i, e.candidateIdx = i := by
    intro e he
    obtain ⟨j, hj, rfl⟩ := List.mem_mapIdx.mp he
    rfl
  have hflat : ∀ steps, (c.entries i).flatMap (fun e =>
      e.items env backend (run.replies e.candidateIdx e.refIdx) steps) =
      (c.entries i).flatMap fun e => e.items env backend (run.replies i e.refIdx) steps := by
    intro steps
    refine List.flatMap_congr fun e he => ?_
    rw [hentries e he]
  unfold BatchRun.requestsFor BatchRun.items
  rw [h.phase1Items, h.phase3Items, h.phase4Items, h.phase6Items, h.phase8Items]
  simp only [List.filter_append, filter_items run.replies _ hc, filter_overallItems run.replies hc,
    hflat]
  rw [List.map_append, ← entries_flatMap_items]
  refine List.Perm.append_right _ (List.Perm.map _ ((Lists.flatMap_split _ _ _ _ _).trans ?_))
  simp only [items_append]
  exact List.Perm.refl _

/-- The request for the overall summary of a candidate. -/
def overallRequest (env : Env) (getModel : ModelTier → String) (c : CandidateBatchInput)
    (results : List ReferenceResult) : LLMRequest where
  system := (overallPrompts env c.subject results).1
  userMessage := (overallPrompts env c.subject results).2
  outputModel := .overallSummary
  model := getModel .reasoning

/-- Given all replies, the requests for a candidate are those that the replies lead to. -/
theorem requestsFor_perm_given (h : run.Refines env backend candidates)
    (hgives : backend.Gives replies) {R : CandidateReplies} (hholds : replies.Holds i R)
    (hc : candidates[i]? = some c) (hvalid : ∀ ref ∈ c.references, ref.Valid env) :
    (run.requestsFor i).Perm
      ((c.askedSteps env R.given).map (batchRequest env backend.getModel c R.given) ++
        [overallRequest env backend.getModel c (c.batchResults env R.given)]) := by
  have hagree : ∀ j (hj : j < c.references.length), ∀ s,
      c.references[j].asks env c.subject.claimedDetails (run.replies i j) s = true →
        R.given j s = run.replies i j s := by
    intro j hj s hs
    rw [← hholds.repliesAt_eq]
    exact (h.replies_eq_repliesAt hgives hc (List.getElem?_eq_getElem hj) hs).symm
  have hsteps : c.askedSteps env R.given = c.askedSteps env (run.replies i) := by
    unfold CandidateBatchInput.askedSteps
    congr 1
    refine List.mapIdx_eq_mapIdx_iff.mpr fun j hj => ?_
    unfold ReferenceInput.askedSteps
    rw [List.filter_congr fun s _ => asks_congr (hagree j hj) s]
  have hrequests : ∀ p ∈ c.askedSteps env (run.replies i),
      batchRequest env backend.getModel c R.given p =
        batchRequest env backend.getModel c (run.replies i) p := by
    intro p hp
    obtain ⟨l, hl, hp⟩ := List.mem_flatten.mp hp
    obtain ⟨j, hj, rfl⟩ := List.mem_mapIdx.mp hl
    obtain ⟨s, -, rfl⟩ := List.mem_map.mp hp
    unfold batchRequest
    dsimp only
    rw [prompts_congr (hvalid _ (List.getElem_mem hj)) (hagree j hj)]
  have hresults := h.batchResults_eq hgives hc
  rw [hholds.repliesAt_eq] at hresults
  rw [hsteps, List.map_congr_left hrequests, ← hresults]
  exact h.requestsFor_perm hc

/-! ### What the graph asks -/

theorem reviewLog_eq (R : CandidateReplies) (getModel : ModelTier → String)
    (hvalid : ∀ ref ∈ c.references, ref.Valid env) :
    c.reviewLog env (R.llm getModel c) =
      (c.askedSteps env R.given).map (graphRequest env getModel c R.given) := by
  unfold CandidateBatchInput.reviewLog CandidateBatchInput.askedSteps
  rw [List.map_flatten]
  congr 1
  refine List.ext_getElem? fun j => ?_
  simp only [List.getElem?_map, List.getElem?_mapIdx, Option.map_map]
  cases hr : c.references[j]? with
  | none => rfl
  | some ref =>
    rw [Option.map_some, Option.map_some, forReference_llm hr,
      review_eq (hvalid ref (List.mem_of_getElem? hr)), Function.comp_apply, List.map_map]
    rfl

theorem results_eq_of_valid (R : CandidateReplies) (getModel : ModelTier → String)
    (hvalid : ∀ ref ∈ c.references, ref.Valid env) :
    c.results env (R.llm getModel c) = c.batchResults env R.given := by
  refine List.ext_getElem? fun j => ?_
  cases hr : c.references[j]? with
  | none =>
    rw [getElem?_batchResults, CandidateBatchInput.getElem?_results, hr]
    rfl
  | some ref =>
    obtain ⟨r, r', hbatch, hgraph, hagree⟩ := resultsAgree_getElem? getModel R hr
    have hok := (validateReference_ok_iff env c.candidateName ref).mpr
      (hvalid ref (List.mem_of_getElem? hr))
    rw [hbatch, hgraph, hagree.valid hok]

theorem candidateGraph_log (h : c.references ≠ []) (R : CandidateReplies)
    (getModel : ModelTier → String) (hvalid : ∀ ref ∈ c.references, ref.Valid env) :
    ((candidateGraph env (R.llm getModel c)).invoke recursionLimit c.inputState).log =
      (c.askedSteps env R.given).map (graphRequest env getModel c R.given) ++
        [overallRequest env getModel c (c.batchResults env R.given)] := by
  rw [candidateGraph_invoke h, ← reviewLog_eq R getModel hvalid, ← results_eq_of_valid R getModel
    hvalid]
  rfl

/-! ### The comparison -/

/-- The requests of a step differ in the comments of a form only. -/
theorem graphRequest_eq {getModel : ModelTier → String} {a : ℕ → RefReplies}
    {p : ReferenceInput × ℕ × RefStep} (h : p.2.2 ≠ .commentSentiment) :
    graphRequest env getModel c a p = batchRequest env getModel c a p := by
  obtain ⟨ref, j, s⟩ := p
  cases s with
  | commentSentiment => exact absurd rfl h
  | extract => rfl
  | sentiment => rfl
  | explain => rfl
  | summary => rfl

/-- The comments of a form, unless they are blank, have no white space around them. -/
def ReferenceInput.CommentsStripped (ref : ReferenceInput) : Prop :=
  ∀ form comments, ref.type = .REF2 → ref.yesNoForm = some form →
    form.additionalComments = some comments → Text.strip comments ≠ "" →
    Text.strip comments = comments

section comments

variable {ref : ReferenceInput} {form : YesNoReferenceForm} {comments : String}
  {getModel : ModelTier → String} {a : ℕ → RefReplies}

theorem userMessage_commentSentiment (hform : ref.yesNoForm = some form)
    (hcomments : form.additionalComments = some comments) (j : ℕ) :
    (batchRequest env getModel c a (ref, j, .commentSentiment)).userMessage =
        (sentimentAndRedFlagsRequest (Text.strip comments)).2 ∧
      (graphRequest env getModel c a (ref, j, .commentSentiment)).userMessage =
        (sentimentAndRedFlagsRequest comments).2 := by
  have hbatch : ref.strippedComments = Text.strip comments := by
    rw [ReferenceInput.strippedComments, hform]
    show Text.strip (form.additionalComments.getD "") = _
    rw [hcomments]
    rfl
  have hgraph : pyStr (ref.yesNoForm.bind (·.additionalComments)) = comments := by
    rw [hform, Option.bind_some, hcomments]
    rfl
  refine ⟨?_, ?_⟩
  · show (sentimentAndRedFlagsRequest ref.strippedComments).2 = _
    rw [hbatch]
  · show (sentimentAndRedFlagsRequest (pyStr (ref.yesNoForm.bind (·.additionalComments)))).2 = _
    rw [hgraph]

theorem length_sentimentAndRedFlagsRequest (text : String) :
    (sentimentAndRedFlagsRequest text).2.length =
      (sentimentAndRedFlagsRequest "").2.length + text.length := by
  simp only [sentimentAndRedFlagsRequest, String.length_append, String.length_empty]
  omega

end comments

theorem mem_askedSteps_commentSentiment {a : ℕ → RefReplies}
    (hvalid : ∀ ref ∈ c.references, ref.Valid env) {ref : ReferenceInput} {j : ℕ} :
    (ref, j, RefStep.commentSentiment) ∈ c.askedSteps env a ↔
      c.references[j]? = some ref ∧ ref.hasComments = true := by
  unfold CandidateBatchInput.askedSteps
  rw [List.mem_flatten]
  constructor
  · rintro ⟨l, hl, hp⟩
    obtain ⟨k, hk, rfl⟩ := List.mem_mapIdx.mp hl
    obtain ⟨s, hs, heq⟩ := List.mem_map.mp hp
    cases heq
    exact ⟨List.getElem?_eq_getElem hk, (asks_iff.mp (List.mem_filter.mp hs).2).2⟩
  · rintro ⟨hr, hcomments⟩
    obtain ⟨hj, rfl⟩ := List.getElem?_eq_some_iff.mp hr
    refine ⟨_, List.mem_mapIdx.mpr ⟨j, hj, rfl⟩, List.mem_map.mpr ⟨_, ?_, rfl⟩⟩
    exact List.mem_filter.mpr ⟨by simp, asks_iff.mpr ⟨hvalid _ (List.getElem_mem hj), hcomments⟩⟩

/-- The requests of the two paths are the same up to their order exactly when all comments are
stripped: otherwise the batch sends less text in all. -/
theorem requests_perm_iff (getModel : ModelTier → String) (a : ℕ → RefReplies)
    (hvalid : ∀ ref ∈ c.references, ref.Valid env) :
    ((c.askedSteps env a).map (batchRequest env getModel c a)).Perm
        ((c.askedSteps env a).map (graphRequest env getModel c a)) ↔
      ∀ ref ∈ c.references, ref.CommentsStripped := by
  constructor
  · intro hperm ref href form comments htype hform hcomments hne
    obtain ⟨j, hr⟩ := List.mem_iff_getElem?.mp href
    have hmem : (ref, j, RefStep.commentSentiment) ∈ c.askedSteps env a :=
      (mem_askedSteps_commentSentiment hvalid).mpr
        ⟨hr, hasComments_iff.mpr ⟨form, comments, htype, hform, hcomments, hne⟩⟩
    have hle : ∀ p ∈ c.askedSteps env a, (batchRequest env getModel c a p).userMessage.length ≤
        (graphRequest env getModel c a p).userMessage.length := by
      rintro ⟨ref', j', s⟩ hp
      by_cases hs : s = .commentSentiment
      · subst hs
        obtain ⟨-, hhas⟩ := (mem_askedSteps_commentSentiment hvalid).mp hp
        obtain ⟨form', comments', -, hform', hcomments', -⟩ := hasComments_iff.mp hhas
        obtain ⟨hbatch, hgraph⟩ := userMessage_commentSentiment (c := c) hform' hcomments' j'
        rw [hbatch, hgraph, length_sentimentAndRedFlagsRequest,
          length_sentimentAndRedFlagsRequest comments']
        exact Nat.add_le_add_left (Text.length_strip_le comments') _
      · rw [graphRequest_eq hs]
    have hlength := Lists.eq_of_perm_map hle (by
      have hmap := hperm.map (fun rq : LLMRequest => rq.userMessage.length)
      rw [List.map_map, List.map_map] at hmap
      exact hmap) _ hmem
    obtain ⟨hbatch, hgraph⟩ := userMessage_commentSentiment (c := c) hform hcomments j
    rw [hbatch, hgraph, length_sentimentAndRedFlagsRequest,
      length_sentimentAndRedFlagsRequest comments, Nat.add_left_cancel_iff] at hlength
    exact (Text.length_strip_eq_iff comments).mp hlength
  · intro hstripped
    refine List.Perm.of_eq (List.map_congr_left ?_)
    rintro ⟨ref, j, s⟩ hp
    by_cases hs : s = .commentSentiment
    · subst hs
      obtain ⟨hr, hhas⟩ := (mem_askedSteps_commentSentiment hvalid).mp hp
      obtain ⟨form, comments, htype, hform, hcomments, hne⟩ := hasComments_iff.mp hhas
      have hstrip := hstripped ref (List.mem_of_getElem? hr) form comments htype hform hcomments hne
      obtain ⟨hbatch, hgraph⟩ := userMessage_commentSentiment (c := c) (a := a) hform hcomments j
      rw [hstrip] at hbatch
      exact LLMRequest.ext rfl (hbatch.trans hgraph.symm) rfl rfl
    · exact (graphRequest_eq hs).symm

theorem requestsFor_perm_log_iff (h : batchRun env backend candidates = .ok run)
    (hgives : backend.Gives replies) {R : CandidateReplies} (hholds : replies.Holds i R)
    (hc : candidates[i]? = some c) (hvalid : ∀ ref ∈ c.references, ref.Valid env) :
    (run.requestsFor i).Perm ((candidateGraph env (R.llm backend.getModel c)).invoke recursionLimit
        c.inputState).log ↔
      ∀ ref ∈ c.references, ref.CommentsStripped := by
  have hrun := batchRun_refines h
  have hperm := requestsFor_perm_given hrun hgives hholds hc hvalid
  have hsteps := requests_perm_iff backend.getModel R.given hvalid
  rw [candidateGraph_log (hrun.nonempty c (List.mem_of_getElem? hc)) R _ hvalid, ← hsteps]
  constructor
  · exact fun hlog => (List.perm_append_right_iff _).mp (hperm.symm.trans hlog)
  · exact fun hsteps => hperm.trans (hsteps.append_right _)

/-- **When both paths ask the same questions.** Given the same replies, the requests that a batch
submits for a candidate with valid references are those of its graph, up to their order, exactly when
no comment on a form has white space around it. -/
theorem requests_agree_iff (hne : ∀ c ∈ candidates, c.references ≠ [])
    (hgives : backend.Gives replies) {R : ℕ → CandidateReplies}
    (hholds : ∀ i < candidates.length, replies.Holds i (R i)) :
    ∃ run, batchRun env backend candidates = .ok run ∧
      ∀ (i : ℕ) (c : CandidateBatchInput), candidates[i]? = some c →
        (∀ ref ∈ c.references, ref.Valid env) →
        ((run.requestsFor i).Perm ((candidateGraph env ((R i).llm backend.getModel c)).invoke
            recursionLimit c.inputState).log ↔
          ∀ ref ∈ c.references, ref.CommentsStripped) := by
  obtain ⟨run, h⟩ := exists_batchRun_of_holds hne hgives hholds
  refine ⟨run, h, fun i c hc hvalid => ?_⟩
  obtain ⟨hlt, -⟩ := List.getElem?_eq_some_iff.mp hc
  exact requestsFor_perm_log_iff h hgives (hholds i hlt) hc hvalid

/-- A form with the given comments, on a backend with clean replies. -/
def commentedCandidate (comments : String) : CandidateBatchInput :=
  sampleCandidate [sampleForm "Eve" (some comments)]

theorem valid_commentedCandidate (comments : String) :
    ∀ ref ∈ (commentedCandidate comments).references, ref.Valid sampleEnv := by
  intro ref href
  obtain rfl := List.mem_singleton.mp href
  exact Option.some_ne_none _

/-- Comments without white space around them are sent alike. -/
theorem requests_agree_of_stripped : ∃ run,
    batchRun sampleEnv (replyBackend cleanReply) [commentedCandidate "Great."] = .ok run ∧
    (run.requestsFor 0).Perm ((candidateGraph sampleEnv (cleanReplies.llm sampleModel
      (commentedCandidate "Great."))).invoke recursionLimit
        (commentedCandidate "Great.").inputState).log := by
  obtain ⟨run, h, hagree⟩ := @requests_agree_iff sampleEnv (replyBackend cleanReply)
    [commentedCandidate "Great."] _ (by simp [commentedCandidate, sampleCandidate])
    (gives_fixed sampleModel _) _ (fun i _ => holds_cleanReplies i)
  refine ⟨run, h, (hagree 0 _ rfl (valid_commentedCandidate _)).mpr ?_⟩
  intro ref href form comments htype hform hcomments hne
  obtain rfl := List.mem_singleton.mp href
  cases hform
  cases hcomments
  decide

/-- Comments with a blank before them are sent without it by the batch, with it by the graph. -/
theorem padded_comments_differ : ∃ run,
    batchRun sampleEnv (replyBackend cleanReply) [commentedCandidate " Great."] = .ok run ∧
    ¬ (run.requestsFor 0).Perm ((candidateGraph sampleEnv (cleanReplies.llm sampleModel
      (commentedCandidate " Great."))).invoke recursionLimit
        (commentedCandidate " Great.").inputState).log := by
  obtain ⟨run, h⟩ := exists_batchRun_replyBackend sampleEnv [commentedCandidate " Great."] cleanReply
    (by simp [commentedCandidate, sampleCandidate]) rfl
  refine ⟨run, h, fun hperm => ?_⟩
  have hstripped := (requestsFor_perm_log_iff h (gives_fixed sampleModel _) (holds_cleanReplies 0)
    rfl (valid_commentedCandidate _)).mp hperm _ (List.mem_singleton_self _) _ " Great." rfl rfl rfl
  exact absurd (hstripped (by decide)) (by decide)

end RefCheck
