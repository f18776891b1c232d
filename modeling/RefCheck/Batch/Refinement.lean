import RefCheck.Batch.ResultPhases

/-!
# The batch pipeline refines its purpose

A run of the pipeline that returns is exactly what the purpose of a batch says (`batchRun_refines`):
the batches hold the requests that the references need, and every entry of the output is made of the
replies for its own candidate. And the pipeline returns when every candidate has a reference, the
backend returns, and every transcript has its sentiment (`exists_batchRun`).
-/

namespace RefCheck

variable {env : Env} {backend : Backend} {candidates : List CandidateBatchInput}

/-- What a run of the pipeline is, in terms of the references and their replies. -/
structure BatchRun.Refines (run : BatchRun) (env : Env) (backend : Backend)
    (candidates : List CandidateBatchInput) : Prop where
  nonempty : ∀ c ∈ candidates, c.references ≠ []
  hasPhase1 : ∀ e ∈ refEntries candidates, HasPhase1 env run.phase1.results e
  phase1Items : run.phase1.items = (refEntries candidates).flatMap fun e =>
    e.items env backend (run.replies e.candidateIdx e.refIdx) [.extract, .sentiment]
  phase1Results : runPhase backend run.phase1.items = .ok run.phase1.results
  phase3Items : run.phase3.items = (refEntries candidates).flatMap fun e =>
    e.items env backend (run.replies e.candidateIdx e.refIdx) [.commentSentiment]
  phase3Results : runPhase backend run.phase3.items = .ok run.phase3.results
  phase4Items : run.phase4.items = (refEntries candidates).flatMap fun e =>
    e.items env backend (run.replies e.candidateIdx e.refIdx) [.explain]
  phase4Results : runPhase backend run.phase4.items = .ok run.phase4.results
  phase6Items : run.phase6.items = (refEntries candidates).flatMap fun e =>
    e.items env backend (run.replies e.candidateIdx e.refIdx) [.summary]
  phase6Results : runPhase backend run.phase6.items = .ok run.phase6.results
  phase8Items : run.phase8.items =
    candidates.mapIdx fun i c => c.overallItem env backend i (run.replies i)
  phase8Results : runPhase backend run.phase8.items = .ok run.phase8.results
  output : run.output =
    candidates.mapIdx fun i c => c.batchOutput env (run.replies i) (run.overallReply i)

/-- **The pipeline refines its purpose.** -/
theorem batchRun_refines {run : BatchRun} (h : batchRun env backend candidates = .ok run) :
    run.Refines env backend candidates := by
  obtain ⟨invalidRefs, hphase0, h⟩ := Except.bind_eq_ok.mp h
  obtain ⟨r₁, hr₁, h⟩ := Except.bind_eq_ok.mp h
  obtain ⟨t₂, ht₂, h⟩ := Except.bind_eq_ok.mp h
  obtain ⟨items₃, hitems₃, h⟩ := Except.bind_eq_ok.mp h
  obtain ⟨r₃, hr₃, h⟩ := Except.bind_eq_ok.mp h
  obtain ⟨t₃, ht₃, h⟩ := Except.bind_eq_ok.mp h
  obtain ⟨items₄, hitems₄, h⟩ := Except.bind_eq_ok.mp h
  obtain ⟨r₄, hr₄, h⟩ := Except.bind_eq_ok.mp h
  obtain ⟨t₄, ht₄, h⟩ := Except.bind_eq_ok.mp h
  obtain ⟨scores, hscores, h⟩ := Except.bind_eq_ok.mp h
  obtain ⟨items₆, hitems₆, h⟩ := Except.bind_eq_ok.mp h
  obtain ⟨r₆, hr₆, h⟩ := Except.bind_eq_ok.mp h
  obtain ⟨d, hd, h⟩ := Except.bind_eq_ok.mp h
  obtain ⟨verdicts, hverdicts, h⟩ := Except.bind_eq_ok.mp h
  obtain ⟨items₈, hitems₈, h⟩ := Except.bind_eq_ok.mp h
  obtain ⟨r₈, hr₈, h⟩ := Except.bind_eq_ok.mp h
  obtain ⟨output, houtput, h⟩ := Except.bind_eq_ok.mp h
  cases h
  -- each loop is determined, so what it returned is what its specification says
  set a := repliesOf r₁ r₃ r₄ r₆ with ha
  obtain ⟨invalidRefs', hinvalid, hinv⟩ := phase0_spec env candidates
  cases hphase0.symm.trans hinvalid
  obtain ⟨hhas, hfirst⟩ := phase2_run hinv r₃ r₄ r₆ ht₂
  cases hitems₃.symm.trans (phase3_items backend hinv a)
  obtain ⟨t₃', hrun₃, hcommented⟩ := phase3_spec backend hfirst
  cases ht₃.symm.trans hrun₃
  cases hitems₄.symm.trans (phase4_items backend hinv hcommented)
  obtain ⟨t₄', hrun₄, hevidence⟩ := phase4_spec backend hcommented
  cases ht₄.symm.trans hrun₄
  obtain ⟨scores', hrun₅, hscored⟩ := phase5_spec hinv hevidence
  cases hscores.symm.trans hrun₅
  cases hitems₆.symm.trans (phase6_items backend hinv hevidence hscored)
  obtain ⟨d', hassembled, hresults⟩ := assembly_spec
    (fun e he => assembleResult_eq hinv hevidence hscored he)
  cases hd.symm.trans hassembled
  obtain ⟨hne, hverdicts'⟩ := phase7_run hresults hverdicts
  cases hitems₈.symm.trans (phase8_items backend hresults hverdicts')
  cases houtput.symm.trans (output_eq hresults hverdicts' r₈)
  exact {
    nonempty := hne
    hasPhase1 := hhas
    phase1Items := phase1_items backend hinv a
    phase1Results := hr₁
    phase3Items := rfl
    phase3Results := hr₃
    phase4Items := rfl
    phase4Results := hr₄
    phase6Items := rfl
    phase6Results := hr₆
    phase8Items := rfl
    phase8Results := hr₈
    output := rfl }

/-- The requests of phase 1. -/
def phase1Items (env : Env) (backend : Backend) (candidates : List CandidateBatchInput) :
    List BatchItem :=
  (refEntries candidates).flatMap fun e =>
    e.items env backend (fun _ => none) [.extract, .sentiment]

/-- **When the pipeline returns**: every candidate has a reference, the backend returns, and every
transcript has its results and its sentiment. -/
theorem exists_batchRun (hne : ∀ c ∈ candidates, c.references ≠ [])
    (hbackend : ∀ items, ∃ results, runPhase backend items = .ok results)
    (hphase1 : ∀ results, runPhase backend (phase1Items env backend candidates) = .ok results →
      ∀ e ∈ refEntries candidates, HasPhase1 env results e) :
    ∃ run, batchRun env backend candidates = .ok run := by
  obtain ⟨invalidRefs, hphase0, hinv⟩ := phase0_spec env candidates
  have hitems₁ := phase1_items backend hinv (fun _ _ _ => none)
  obtain ⟨r₁, hr₁⟩ := hbackend (phase1Items env backend candidates)
  obtain ⟨t₂, ht₂⟩ := exists_phase2 hinv (hphase1 r₁ hr₁)
  obtain ⟨r₃, hr₃⟩ := hbackend ((refEntries candidates).flatMap fun e =>
    e.items env backend (fun _ => none) [.commentSentiment])
  have hitems₃ := phase3_items backend hinv (repliesOf r₁ r₃ .empty .empty)
  rw [Except.ok.inj ((phase3_items backend hinv (fun _ _ _ => none)).symm.trans hitems₃)] at hr₃
  obtain ⟨t₃, ht₃, hcommented⟩ :=
    phase3_spec backend (phase2_run hinv r₃ .empty .empty ht₂).2
  obtain ⟨r₄, hr₄⟩ := hbackend ((refEntries candidates).flatMap fun e =>
    e.items env backend (repliesOf r₁ r₃ .empty .empty e.candidateIdx e.refIdx) [.explain])
  -- the evidence so far does not depend on the replies that come later
  have hcommented' : Holds env candidates t₃ (RefEntry.evidenceBy ReferenceInput.commentedEvidence
    env (repliesOf r₁ r₃ r₄ .empty)) := hcommented
  have hitems₄ := phase4_items backend hinv hcommented'
  rw [Except.ok.inj ((phase4_items backend hinv hcommented).symm.trans hitems₄)] at hr₄
  obtain ⟨t₄, ht₄, hevidence⟩ := phase4_spec backend hcommented'
  obtain ⟨scores, hscores, hscored⟩ := phase5_spec hinv hevidence
  have hitems₆ := phase6_items backend hinv hevidence hscored
  obtain ⟨r₆, hr₆⟩ := hbackend ((refEntries candidates).flatMap fun e =>
    e.items env backend (repliesOf r₁ r₃ r₄ .empty e.candidateIdx e.refIdx) [.summary])
  have hevidence' : Holds env candidates t₄ (RefEntry.evidenceBy ReferenceInput.evidence
    env (repliesOf r₁ r₃ r₄ r₆)) := hevidence
  have hscored' : HoldsScores env candidates scores (RefEntry.evidenceBy ReferenceInput.evidence
    env (repliesOf r₁ r₃ r₄ r₆)) := hscored
  obtain ⟨d, hd, hresults⟩ := assembly_spec
    (fun e he => assembleResult_eq hinv hevidence' hscored' he)
  obtain ⟨verdicts, hverdicts⟩ := exists_phase7 hresults hne
  have hverdicts' := (phase7_run hresults hverdicts).2
  obtain ⟨r₈, hr₈⟩ := hbackend
    (candidates.mapIdx fun i c => c.overallItem env backend i (repliesOf r₁ r₃ r₄ r₆ i))
  have hitems₈ := phase8_items backend hresults hverdicts'
  have houtput := output_eq hresults hverdicts' r₈
  exact ⟨_, Except.bind_eq_ok.mpr ⟨_, hphase0, Except.bind_eq_ok.mpr ⟨r₁, by rw [hitems₁]; exact hr₁,
    Except.bind_eq_ok.mpr ⟨_, ht₂, Except.bind_eq_ok.mpr ⟨_, hitems₃, Except.bind_eq_ok.mpr ⟨r₃, hr₃,
    Except.bind_eq_ok.mpr ⟨_, ht₃, Except.bind_eq_ok.mpr ⟨_, hitems₄, Except.bind_eq_ok.mpr ⟨r₄, hr₄,
    Except.bind_eq_ok.mpr ⟨_, ht₄, Except.bind_eq_ok.mpr ⟨_, hscores, Except.bind_eq_ok.mpr
    ⟨_, hitems₆, Except.bind_eq_ok.mpr ⟨r₆, hr₆, Except.bind_eq_ok.mpr ⟨_, hd, Except.bind_eq_ok.mpr
    ⟨_, hverdicts, Except.bind_eq_ok.mpr ⟨_, hitems₈, Except.bind_eq_ok.mpr ⟨r₈, hr₈,
    Except.bind_eq_ok.mpr ⟨_, houtput, rfl⟩⟩⟩⟩⟩⟩⟩⟩⟩⟩⟩⟩⟩⟩⟩⟩⟩⟩

theorem runPhase_of_mem {items : List BatchItem} {item : BatchItem} (h : item ∈ items) :
    runPhase backend items = backend.runBatchSync items := by
  rw [runPhase, if_neg (List.ne_nil_of_mem h)]

theorem mem_phase1Items {e : RefEntry} (he : e ∈ refEntries candidates) (hvalid : e.ref.Valid env)
    (htype : e.ref.type = .REF1) {s : RefStep} (hs : s = .extract ∨ s = .sentiment) :
    e.item env backend (fun _ => none) s ∈ phase1Items env backend candidates := by
  refine List.mem_flatMap.mpr ⟨e, he, List.mem_map.mpr ⟨s, List.mem_filter.mpr ⟨?_, ?_⟩, rfl⟩⟩
  · rcases hs with rfl | rfl <;> simp
  · rcases hs with rfl | rfl <;> simp [ReferenceInput.asks, hvalid, htype]

/-- The pipeline returns on a backend that always does, if every transcript has its results and its
sentiment among the results of phase 1. -/
theorem exists_batchRun_of_total (hne : ∀ c ∈ candidates, c.references ≠ [])
    (htotal : ∀ items, ∃ results, backend.runBatchSync items = .ok results)
    (hphase1 : ∀ results, backend.runBatchSync (phase1Items env backend candidates) = .ok results →
      ∀ e ∈ refEntries candidates, HasPhase1 env results e) :
    ∃ run, batchRun env backend candidates = .ok run := by
  refine exists_batchRun hne (fun items => ?_) (fun results hresults e he hvalid htype => ?_)
  · unfold runPhase
    split_ifs
    · exact ⟨_, rfl⟩
    · exact htotal items
  · rw [runPhase_of_mem (mem_phase1Items he hvalid htype (Or.inl rfl))] at hresults
    exact hphase1 results hresults e he hvalid htype

end RefCheck
