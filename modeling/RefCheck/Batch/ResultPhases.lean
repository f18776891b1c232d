import RefCheck.Batch.EvidencePhases

/-!
# The result phases of the batch pipeline

From the evidence on: the scores (`phase5_spec`), the summaries, the results of the references
(`assembly_spec`), the verdicts (`phase7_run`) and the overall summaries. Only phase 7 may raise: it
averages over the references of a candidate, so it returns exactly when every candidate has one.
-/

namespace RefCheck

variable {env : Env} {candidates : List CandidateBatchInput}
  {invalidRefs : Dict RefKey String} {t : EvidenceTables} {ev : RefEntry → Evidence}

theorem Holds.getRef (h : Holds env candidates t ev) {e : RefEntry} (he : e ∈ refEntries candidates)
    (hv : e.ref.Valid env) :
    RefCheck.getRef t.discrepanciesByRef e.key = .ok (ev e).discrepancies ∧
    RefCheck.getRef t.extractedByRef e.key = .ok (ev e).facts ∧
    RefCheck.getRef t.sentimentByRef e.key = .ok (ev e).sentiment ∧
    RefCheck.getRef t.redFlagsByRef e.key = .ok (ev e).redFlags := by
  have hrow := h e he hv
  simp only [getRef_eq_getRow]
  exact ⟨congrArg (getRow e.key) (congrArg EvidenceRow.discrepancies hrow),
    congrArg (getRow e.key) (congrArg EvidenceRow.facts hrow),
    congrArg (getRow e.key) (congrArg EvidenceRow.sentiment hrow),
    congrArg (getRow e.key) (congrArg EvidenceRow.redFlags hrow)⟩

/-! ### Phase 5 -/

/-- What the dictionaries of the scores say about one reference. -/
structure ScoreRow where
  confidence : Option ℚ
  needsReview : Option Bool
  route : Option ReviewRoute

def ScoreTables.row (t : ScoreTables) (k : RefKey) : ScoreRow :=
  ⟨t.confidenceByRef.get? k, t.needsReviewByRef.get? k, t.routeByRef.get? k⟩

/-- The row of a score. -/
def ScoreResult.row (s : ScoreResult) : ScoreRow :=
  ⟨some s.confidenceScore, some s.needsHumanReview, some (routeReview s.needsHumanReview)⟩

def ScoreTables.write (t : ScoreTables) (k : RefKey) (s : ScoreResult) : ScoreTables where
  confidenceByRef := t.confidenceByRef.set k s.confidenceScore
  needsReviewByRef := t.needsReviewByRef.set k s.needsHumanReview
  routeByRef := t.routeByRef.set k (routeReview s.needsHumanReview)

theorem rowWrites_scores : Loop.RowWrites ScoreTables.row ScoreTables.write (fun _ s => s.row) where
  own t k s := by simp [ScoreTables.row, ScoreTables.write, ScoreResult.row]
  frame t k s k' hk := by simp [ScoreTables.row, ScoreTables.write, Dict.get?_set_of_ne _ _ hk]

/-- What phase 5 writes for a reference: its score. -/
def phase5Effect (env : Env) (invalidRefs : Dict RefKey String) (t : EvidenceTables) (_ : ScoreRow)
    (e : RefEntry) : Except PyException (Option ScoreResult) :=
  if invalidRefs.contains e.key then .ok none else do
    let discrepancies ← RefCheck.getRef t.discrepanciesByRef e.key
    let redFlags ← RefCheck.getRef t.redFlagsByRef e.key
    let sentiment ← RefCheck.getRef t.sentimentByRef e.key
    return some (scoreConfidence env discrepancies redFlags sentiment)

theorem phase5Step_eq (invalidRefs : Dict RefKey String) (t : EvidenceTables) :
    phase5Step env invalidRefs t = Loop.rowStep ScoreTables.row ScoreTables.write RefEntry.key
      (phase5Effect env invalidRefs t) := by
  funext scores e
  unfold phase5Step Loop.rowStep phase5Effect
  by_cases hinvalid : invalidRefs.contains e.key = true
  · rw [if_pos hinvalid, if_pos hinvalid]
    rfl
  · rw [if_neg hinvalid, if_neg hinvalid]
    simp only [bind_assoc, pure_bind]
    rfl

/-- The rows of the valid references hold the scores of their evidence. -/
def HoldsScores (env : Env) (candidates : List CandidateBatchInput) (scores : ScoreTables)
    (ev : RefEntry → Evidence) : Prop :=
  ∀ e ∈ refEntries candidates, e.ref.Valid env → scores.row e.key = ((ev e).score env).row

theorem phase5_spec (hinv : Excludes env candidates invalidRefs) (h : Holds env candidates t ev) :
    ∃ scores, (refEntries candidates).foldlM (phase5Step env invalidRefs t) {} = .ok scores ∧
      HoldsScores env candidates scores ev := by
  rw [phase5Step_eq]
  have heffect : ∀ e ∈ refEntries candidates, phase5Effect env invalidRefs t
      (ScoreTables.row {} e.key) e =
        .ok (if e.ref.Valid env then some ((ev e).score env) else none) := by
    intro e he
    unfold phase5Effect
    by_cases hv : e.ref.Valid env
    · obtain ⟨hd, -, hs, hr⟩ := h.getRef he hv
      rw [if_neg (fun hc => (hinv.contains_iff he).mp hc hv), if_pos hv, hd, hs, hr]
      rfl
    · rw [if_pos ((hinv.contains_iff he).mpr hv), if_neg hv]
  obtain ⟨scores, hrun, hown, -⟩ :=
    rowWrites_scores.exists_run (nodup_key_refEntries candidates) heffect
  refine ⟨scores, hrun, fun e he hv => ?_⟩
  rw [hown e he, if_pos hv]
  rfl

theorem HoldsScores.getRef {scores : ScoreTables} (h : HoldsScores env candidates scores ev)
    {e : RefEntry} (he : e ∈ refEntries candidates) (hv : e.ref.Valid env) :
    RefCheck.getRef scores.confidenceByRef e.key = .ok ((ev e).score env).confidenceScore ∧
    RefCheck.getRef scores.needsReviewByRef e.key = .ok ((ev e).score env).needsHumanReview ∧
    RefCheck.getRef scores.routeByRef e.key =
      .ok (routeReview ((ev e).score env).needsHumanReview) := by
  have hrow := h e he hv
  simp only [getRef_eq_getRow]
  exact ⟨congrArg (getRow e.key) (congrArg ScoreRow.confidence hrow),
    congrArg (getRow e.key) (congrArg ScoreRow.needsReview hrow),
    congrArg (getRow e.key) (congrArg ScoreRow.route hrow)⟩

/-! ### Phase 6 -/

section phase6

variable {scores : ScoreTables} {a : ℕ → ℕ → RefReplies}

theorem phase6_items (backend : Backend) (hinv : Excludes env candidates invalidRefs)
    (h : Holds env candidates t (RefEntry.evidenceBy ReferenceInput.evidence env a))
    (hscores : HoldsScores env candidates scores
      (RefEntry.evidenceBy ReferenceInput.evidence env a)) :
    Loop.collect (phase6ItemsOf env backend invalidRefs t scores) (refEntries candidates) =
      .ok ((refEntries candidates).flatMap fun e =>
        e.items env backend (a e.candidateIdx e.refIdx) [.summary]) := by
  refine Loop.collect_eq_ok (fun e he => ?_)
  unfold phase6ItemsOf RefEntry.items ReferenceInput.asks
  by_cases hv : e.ref.Valid env
  · obtain ⟨hd, -, hs, hr⟩ := h.getRef he hv
    obtain ⟨hc, -, hroute⟩ := hscores.getRef he hv
    rw [if_neg (fun hc => (hinv.contains_iff he).mp hc hv), hroute]
    simp only [hv, decide_true, Bool.and_self, List.filter_cons_of_pos, List.filter_nil,
      List.map_cons, List.map_nil]
    set evd := RefEntry.evidenceBy ReferenceInput.evidence env a e with hevd
    have hitem : e.item env backend (a e.candidateIdx e.refIdx) .summary =
        backend.item (e.cid "summary") (evd.summaryPrompts env e.candidate.subject)
          .finalSummary .reasoning := rfl
    rw [hitem]
    unfold Evidence.summaryPrompts
    cases routeReview (evd.score env).needsHumanReview with
    | flagForHumanReview =>
      dsimp only
      rw [hc, hs, hd, hr]
      rfl
    | autoSummarize =>
      dsimp only
      rw [hc, hs]
      rfl
  · rw [if_pos ((hinv.contains_iff he).mpr hv)]
    simp [hv]

theorem assembleResult_eq {phase1Results phase3Results phase4Results phase6Results : BatchResults}
    (hinv : Excludes env candidates invalidRefs)
    (h : Holds env candidates t (RefEntry.evidenceBy ReferenceInput.evidence env
      (repliesOf phase1Results phase3Results phase4Results phase6Results)))
    (hscores : HoldsScores env candidates scores (RefEntry.evidenceBy ReferenceInput.evidence env
      (repliesOf phase1Results phase3Results phase4Results phase6Results)))
    {e : RefEntry} (he : e ∈ refEntries candidates) :
    assembleResult invalidRefs t scores phase6Results e =
      .ok (e.ref.batchResult env e.candidate.subject
        (repliesOf phase1Results phase3Results phase4Results phase6Results
          e.candidateIdx e.refIdx)) := by
  cases hvalid : validateReference env e.candidate.candidateName e.ref with
  | error err =>
    have hfailure : invalidRefs.get? e.key = some err.str := by
      rw [hinv e he, RefEntry.failure, hvalid]
    have hvalid' : validateReference env e.candidate.subject.candidateName e.ref = .error err :=
      hvalid
    rw [assembleResult, hfailure, ReferenceInput.batchResult, hvalid']
  | ok u =>
    have hfailure : invalidRefs.get? e.key = none := by
      rw [hinv e he, RefEntry.failure, hvalid]
    have hvalid' : validateReference env e.candidate.subject.candidateName e.ref = .ok u := hvalid
    rw [assembleResult, hfailure, ReferenceInput.batchResult, hvalid']
    have hv : e.ref.Valid env := (validateReference_ok_iff env _ e.ref).mp hvalid
    obtain ⟨hd, hf, hs, hr⟩ := h.getRef he hv
    obtain ⟨hc, hn, -⟩ := hscores.getRef he hv
    dsimp only
    rw [hd, hf, hs, hr, hc, hn]
    rfl

end phase6

/-! ### The results of the references -/

/-- What the assembly writes for a candidate: its results, with one more. -/
def assemblyEffect (result : RefEntry → Except PyException ReferenceResult)
    (r : Option (List ReferenceResult)) (e : RefEntry) :
    Except PyException (Option (List ReferenceResult)) :=
  match r with
  | some results => do
    let result ← result e
    return some (results ++ [result])
  | none => .error (.keyError (toString e.candidateIdx))

theorem assemblyStep_eq {scores : ScoreTables} {phase6Results : BatchResults} :
    assemblyStep invalidRefs t scores phase6Results =
      Loop.rowStep Dict.get? Dict.set RefEntry.candidateIdx
        (assemblyEffect (assembleResult invalidRefs t scores phase6Results)) := by
  funext d e
  unfold assemblyStep Loop.rowStep assemblyEffect getCandidate
  cases d.get? e.candidateIdx with
  | none => rfl
  | some results =>
    dsimp only
    simp only [bind_assoc, pure_bind]
    rfl

theorem get?_emptyResults {n i : ℕ} (h : i < n) : (emptyResults n).get? i = some [] := by
  have hkeys : (((List.range n).map fun c => (c, ([] : List ReferenceResult))).map
      Prod.fst).Nodup := by
    rw [List.map_map]
    simpa [Function.comp_def] using List.nodup_range
  have hmem : (i, ([] : List ReferenceResult)) ∈ (List.range n).map fun c => (c, []) := by
    simpa using h
  exact Dict.get?_ofPairs_of_mem hkeys hmem

theorem foldlM_assembly {result : RefEntry → Except PyException ReferenceResult}
    {res : RefEntry → ReferenceResult} {es : List RefEntry} (h : ∀ e ∈ es, result e = .ok (res e))
    (acc : List ReferenceResult) :
    es.foldlM (fun r e => Loop.putRow (fun _ w => some w) r <$> assemblyEffect result r e)
      (some acc) = .ok (some (acc ++ es.map res)) := by
  induction es generalizing acc with
  | nil =>
    rw [List.map_nil, List.append_nil]
    rfl
  | cons e es ih =>
    have hrest := ih (fun e' he' => h e' (by simp [he'])) (acc ++ [res e])
    rw [List.append_assoc] at hrest
    rw [List.foldlM_cons, assemblyEffect, h e (by simp)]
    exact hrest

/-- The results of every candidate are those of its references, in their order. -/
theorem assembly_spec {scores : ScoreTables} {phase6Results : BatchResults}
    {a : ℕ → ℕ → RefReplies}
    (h : ∀ e ∈ refEntries candidates, assembleResult invalidRefs t scores phase6Results e =
      .ok (e.ref.batchResult env e.candidate.subject (a e.candidateIdx e.refIdx))) :
    ∃ d, (refEntries candidates).foldlM (assemblyStep invalidRefs t scores phase6Results)
        (emptyResults candidates.length) = .ok d ∧
      ∀ i c, candidates[i]? = some c → d.get? i = some (c.batchResults env (a i)) := by
  have hlocal : Loop.RowLocal Dict.get? RefEntry.candidateIdx
      (fun r e => Loop.putRow (fun _ w => some w) r <$>
        assemblyEffect (assembleResult invalidRefs t scores phase6Results) r e)
      (assemblyStep invalidRefs t scores phase6Results) := by
    rw [assemblyStep_eq]
    exact rowWrites_dict.rowLocal
  have hrow : ∀ i c, candidates[i]? = some c →
      ((refEntries candidates).filter (fun e => e.candidateIdx = i)).foldlM
        (fun r e => Loop.putRow (fun _ w => some w) r <$>
          assemblyEffect (assembleResult invalidRefs t scores phase6Results) r e)
        ((emptyResults candidates.length).get? i) = .ok (some (c.batchResults env (a i))) := by
    intro i c hc
    obtain ⟨hi, hci⟩ := List.getElem?_eq_some_iff.mp hc
    have hentries : ∀ e ∈ c.entries i, assembleResult invalidRefs t scores phase6Results e =
        .ok (e.ref.batchResult env e.candidate.subject (a e.candidateIdx e.refIdx)) := by
      intro e he
      refine h e (mem_refEntries_iff.mpr ?_)
      obtain ⟨r, hr, rfl⟩ := List.mem_mapIdx.mp he
      exact ⟨hc, List.getElem?_eq_getElem hr⟩
    have hresults : (c.entries i).map (fun e =>
        e.ref.batchResult env e.candidate.subject (a e.candidateIdx e.refIdx)) =
          c.batchResults env (a i) := by
      refine (List.mapIdx_eq_iff.mpr fun r => ?_).symm
      rw [List.getElem?_map, CandidateBatchInput.entries, List.getElem?_mapIdx, Option.map_map]
      rfl
    rw [filter_candidateIdx, hc, get?_emptyResults hi]
    refine (foldlM_assembly hentries []).trans ?_
    rw [List.nil_append, hresults]
  have hreturns : ∀ i, ∃ r, ((refEntries candidates).filter (fun e => e.candidateIdx = i)).foldlM
      (fun r e => Loop.putRow (fun _ w => some w) r <$>
        assemblyEffect (assembleResult invalidRefs t scores phase6Results) r e)
      ((emptyResults candidates.length).get? i) = .ok r := by
    intro i
    cases hc : candidates[i]? with
    | some c => exact ⟨_, hrow i c hc⟩
    | none => exact ⟨_, by rw [filter_candidateIdx, hc]; rfl⟩
  obtain ⟨d, hd⟩ := hlocal.exists_run hreturns
  refine ⟨d, hd, fun i c hc => ?_⟩
  have hrun := hlocal.run hd i
  rw [hrow i c hc, Except.ok.injEq] at hrun
  exact hrun.symm

/-! ### Phase 7 -/

/-- What the dictionaries of the candidates say about one of them. -/
structure CandidateRow where
  crossFlags : Option (List CrossReferenceFlag)
  overallConfidence : Option ℚ
  overallNeedsReview : Option Bool
  overallRoute : Option OverallRoute

def CandidateTables.row (t : CandidateTables) (i : ℕ) : CandidateRow :=
  ⟨t.crossFlagsByCandidate.get? i, t.overallConfidenceByCandidate.get? i,
    t.overallNeedsReviewByCandidate.get? i, t.overallRouteByCandidate.get? i⟩

/-- The row of a verdict. -/
def OverallScore.row (o : OverallScore) (flags : List CrossReferenceFlag) : CandidateRow :=
  ⟨some flags, some o.overallConfidence, some o.overallNeedsReview,
    some (routeOverallReview o.overallNeedsReview)⟩

def CandidateTables.write (t : CandidateTables) (i : ℕ)
    (w : List CrossReferenceFlag × OverallScore) : CandidateTables where
  crossFlagsByCandidate := t.crossFlagsByCandidate.set i w.1
  overallConfidenceByCandidate := t.overallConfidenceByCandidate.set i w.2.overallConfidence
  overallNeedsReviewByCandidate := t.overallNeedsReviewByCandidate.set i w.2.overallNeedsReview
  overallRouteByCandidate :=
    t.overallRouteByCandidate.set i (routeOverallReview w.2.overallNeedsReview)

theorem rowWrites_candidates :
    Loop.RowWrites CandidateTables.row CandidateTables.write (fun _ w => w.2.row w.1) where
  own t i w := by simp [CandidateTables.row, CandidateTables.write, OverallScore.row]
  frame t i w i' hi := by
    simp [CandidateTables.row, CandidateTables.write, Dict.get?_set_of_ne _ _ hi]

/-- What phase 7 writes for a candidate: its flags and its verdict. -/
def phase7Effect (env : Env) (byCandidate : Dict ℕ (List ReferenceResult)) (_ : CandidateRow)
    (i : ℕ) : Except PyException (Option (List CrossReferenceFlag × OverallScore)) := do
  let results ← getCandidate byCandidate i
  let flags := crossCheckReferences env.toPyText results
  let score ← scoreOverall env results flags
  return some (flags, score)

theorem phase7Step_eq (byCandidate : Dict ℕ (List ReferenceResult)) :
    phase7Step env byCandidate = Loop.rowStep CandidateTables.row CandidateTables.write id
      (phase7Effect env byCandidate) := by
  funext t i
  unfold phase7Step Loop.rowStep phase7Effect
  simp only [bind_assoc, pure_bind, id]
  rfl

/-- The dictionary holds the results of every candidate. -/
def HoldsResults (env : Env) (candidates : List CandidateBatchInput) (a : ℕ → ℕ → RefReplies)
    (d : Dict ℕ (List ReferenceResult)) : Prop :=
  ∀ i c, candidates[i]? = some c → d.get? i = some (c.batchResults env (a i))

theorem HoldsResults.getCandidate {a : ℕ → ℕ → RefReplies} {d : Dict ℕ (List ReferenceResult)}
    (h : HoldsResults env candidates a d) {i : ℕ} {c : CandidateBatchInput}
    (hc : candidates[i]? = some c) :
    RefCheck.getCandidate d i = .ok (c.batchResults env (a i)) := by
  unfold RefCheck.getCandidate
  rw [h i c hc]

theorem batchResults_eq_nil_iff {c : CandidateBatchInput} {a : ℕ → RefReplies} :
    c.batchResults env a = [] ↔ c.references = [] := by
  rw [CandidateBatchInput.batchResults, List.mapIdx_eq_nil_iff]

/-- The rows of the candidates hold their verdicts. -/
def HoldsVerdicts (env : Env) (candidates : List CandidateBatchInput) (a : ℕ → ℕ → RefReplies)
    (t : CandidateTables) : Prop :=
  ∀ i c, candidates[i]? = some c → t.row i = (verdict env (c.batchResults env (a i))).row
    (crossCheckReferences env.toPyText (c.batchResults env (a i)))

/-- When phase 7 returns, every candidate has a reference, and its verdict is that over its
results. -/
theorem phase7_run {a : ℕ → ℕ → RefReplies} {d : Dict ℕ (List ReferenceResult)}
    (h : HoldsResults env candidates a d) {t : CandidateTables}
    (hrun : (List.range candidates.length).foldlM (phase7Step env d) {} = .ok t) :
    (∀ c ∈ candidates, c.references ≠ []) ∧ HoldsVerdicts env candidates a t := by
  rw [phase7Step_eq] at hrun
  obtain ⟨hown, -⟩ := rowWrites_candidates.run (by simpa using List.nodup_range) hrun
  have hrow : ∀ i c, candidates[i]? = some c → c.references ≠ [] ∧
      t.row i = (verdict env (c.batchResults env (a i))).row
        (crossCheckReferences env.toPyText (c.batchResults env (a i))) := by
    intro i c hc
    have hi : i < candidates.length := (List.getElem?_eq_some_iff.mp hc).1
    obtain ⟨o, ho, hrow⟩ := hown i (List.mem_range.mpr hi)
    unfold phase7Effect at ho
    rw [h.getCandidate hc] at ho
    change (scoreOverall env _ _ >>= _) = _ at ho
    obtain ⟨score, hscore, ho⟩ := Except.bind_eq_ok.mp ho
    obtain ⟨hne, rfl⟩ := scoreOverall_eq_ok_iff.mp hscore
    cases ho
    exact ⟨fun hnil => hne (batchResults_eq_nil_iff.mpr hnil), hrow⟩
  constructor
  · intro c hc
    obtain ⟨i, hi⟩ := List.mem_iff_getElem?.mp hc
    exact (hrow i c hi).1
  · intro i c hc
    exact (hrow i c hc).2

theorem exists_phase7 {a : ℕ → ℕ → RefReplies} {d : Dict ℕ (List ReferenceResult)}
    (h : HoldsResults env candidates a d) (hne : ∀ c ∈ candidates, c.references ≠ []) :
    ∃ t, (List.range candidates.length).foldlM (phase7Step env d) {} = .ok t := by
  rw [phase7Step_eq]
  have heffect : ∀ i ∈ List.range candidates.length, phase7Effect env d
      (CandidateTables.row {} (id i)) i = .ok ((candidates[i]?).map fun c =>
        (crossCheckReferences env.toPyText (c.batchResults env (a i)),
          verdict env (c.batchResults env (a i)))) := by
    intro i hi
    have hlt : i < candidates.length := List.mem_range.mp hi
    have hc := List.getElem?_eq_getElem hlt
    have hresults : candidates[i].batchResults env (a i) ≠ [] := fun hnil =>
      hne _ (List.getElem_mem _) (batchResults_eq_nil_iff.mp hnil)
    unfold phase7Effect
    rw [h.getCandidate hc, hc]
    show (scoreOverall env _ _ >>= _) = _
    rw [scoreOverall_of_ne_nil hresults]
    rfl
  obtain ⟨t, ht, -⟩ := rowWrites_candidates.exists_run (by simpa using List.nodup_range) heffect
  exact ⟨t, ht⟩

theorem HoldsVerdicts.getCandidate {a : ℕ → ℕ → RefReplies} {t : CandidateTables}
    (h : HoldsVerdicts env candidates a t) {i : ℕ} {c : CandidateBatchInput}
    (hc : candidates[i]? = some c) :
    RefCheck.getCandidate t.crossFlagsByCandidate i =
      .ok (crossCheckReferences env.toPyText (c.batchResults env (a i))) ∧
    RefCheck.getCandidate t.overallConfidenceByCandidate i =
      .ok (verdict env (c.batchResults env (a i))).overallConfidence ∧
    RefCheck.getCandidate t.overallNeedsReviewByCandidate i =
      .ok (verdict env (c.batchResults env (a i))).overallNeedsReview ∧
    RefCheck.getCandidate t.overallRouteByCandidate i =
      .ok (routeOverallReview (verdict env (c.batchResults env (a i))).overallNeedsReview) := by
  have hrow := h i c hc
  unfold RefCheck.getCandidate
  refine ⟨?_, ?_, ?_, ?_⟩
  · rw [show t.crossFlagsByCandidate.get? i = _ from congrArg CandidateRow.crossFlags hrow]
    rfl
  · rw [show t.overallConfidenceByCandidate.get? i = _ from
      congrArg CandidateRow.overallConfidence hrow]
    rfl
  · rw [show t.overallNeedsReviewByCandidate.get? i = _ from
      congrArg CandidateRow.overallNeedsReview hrow]
    rfl
  · rw [show t.overallRouteByCandidate.get? i = _ from congrArg CandidateRow.overallRoute hrow]
    rfl

/-! ### Phase 8 -/

section phase8

variable {a : ℕ → ℕ → RefReplies} {d : Dict ℕ (List ReferenceResult)} {verdicts : CandidateTables}

theorem getElem?_of_mem_zipIdx {p : CandidateBatchInput × ℕ} (hp : p ∈ candidates.zipIdx) :
    candidates[p.2]? = some p.1 :=
  List.mem_zipIdx_iff_getElem?.mp hp

theorem phase8_items (backend : Backend) (hd : HoldsResults env candidates a d)
    (hv : HoldsVerdicts env candidates a verdicts) :
    candidates.zipIdx.mapM (phase8Item env backend d verdicts) =
      .ok (candidates.mapIdx fun i c => c.overallItem env backend i (a i)) := by
  rw [List.mapIdx_eq_zipIdx_map]
  refine Loop.mapM_eq_ok (fun p hp => ?_)
  obtain ⟨c, i⟩ := p
  have hc := getElem?_of_mem_zipIdx hp
  obtain ⟨hflags, hconf, -, hroute⟩ := hv.getCandidate hc
  unfold phase8Item CandidateBatchInput.overallItem overallPrompts
  dsimp only at hflags hconf hroute ⊢
  rw [hroute]
  cases routeOverallReview (verdict env (c.batchResults env (a i))).overallNeedsReview with
  | overallFlagForReview =>
    dsimp only
    rw [hconf, hd.getCandidate hc, hflags]
    rfl
  | overallClear =>
    dsimp only
    rw [hconf, hd.getCandidate hc]
    rfl

theorem output_eq (hd : HoldsResults env candidates a d)
    (hv : HoldsVerdicts env candidates a verdicts) (phase8Results : BatchResults) :
    candidates.zipIdx.mapM (candidateOutput d verdicts phase8Results) =
      .ok (candidates.mapIdx fun i c => c.batchOutput env (a i)
        (phase8Results.value? .overallSummary (overallCid i))) := by
  rw [List.mapIdx_eq_zipIdx_map]
  refine Loop.mapM_eq_ok (fun p hp => ?_)
  obtain ⟨c, i⟩ := p
  have hc := getElem?_of_mem_zipIdx hp
  obtain ⟨hflags, hconf, hneeds, -⟩ := hv.getCandidate hc
  unfold candidateOutput
  dsimp only at hflags hconf hneeds ⊢
  rw [hd.getCandidate hc, hflags, hconf, hneeds]
  rfl

end phase8

end RefCheck
