import RefCheck.Batch.Entries

/-!
# The evidence phases of the batch pipeline

Phases 2, 3 and 4 fill the dictionaries of the evidence. Each loop is described by what it does to the
row of one reference: after phase 2 it holds the first evidence (`phase2_run`), after phase 3 the
evidence with the comments (`phase3_spec`), after phase 4 the complete evidence (`phase4_spec`).
Phase 2 is the only one that a missing or failed result can end.
-/

namespace RefCheck

variable {env : Env} {candidates : List CandidateBatchInput}

/-! ### Phase 2 -/

/-- What the dictionaries of the evidence say about one reference. -/
structure EvidenceRow where
  discrepancies : Option (List Discrepancy)
  facts : Option ExtractedFacts
  sentiment : Option String
  redFlags : Option (List String)

def EvidenceTables.row (t : EvidenceTables) (k : RefKey) : EvidenceRow :=
  ⟨t.discrepanciesByRef.get? k, t.extractedByRef.get? k, t.sentimentByRef.get? k,
    t.redFlagsByRef.get? k⟩

/-- The row of complete evidence. -/
def Evidence.row (ev : Evidence) : EvidenceRow :=
  ⟨some ev.discrepancies, some ev.facts, some ev.sentiment, some ev.redFlags⟩

/-- What phase 2 writes for a reference. -/
def EvidenceTables.write (t : EvidenceTables) (k : RefKey) (ev : Evidence) : EvidenceTables where
  discrepanciesByRef := t.discrepanciesByRef.set k ev.discrepancies
  extractedByRef := t.extractedByRef.set k ev.facts
  sentimentByRef := t.sentimentByRef.set k ev.sentiment
  redFlagsByRef := t.redFlagsByRef.set k ev.redFlags

theorem rowWrites_evidence :
    Loop.RowWrites EvidenceTables.row EvidenceTables.write (fun _ ev => ev.row) where
  own t k ev := by simp [EvidenceTables.row, EvidenceTables.write, Evidence.row]
  frame t k ev k' hk := by
    simp [EvidenceTables.row, EvidenceTables.write, Dict.get?_set_of_ne _ _ hk]

/-- The evidence that phase 2 makes of the results of a reference. -/
def phase2Evidence (env : Env) (phase1Results : BatchResults) (e : RefEntry) :
    Except PyException Evidence :=
  match e.ref.type with
  | .REF1 => do
    let extractResult ← phase1Results.getItem .extractedFacts (e.cid "extract")
    let sentimentResult ← phase1Results.getItem .sentimentAndRedFlags (e.cid "sentiment")
    let facts := extractResult.value?.getD {}
    let sentiment ← sentimentObj sentimentResult
    return ⟨facts, diffFacts env e.candidate.claimedDetails facts, sentiment.sentiment.text,
      sentiment.redFlags⟩
  | .REF2 =>
    match e.ref.yesNoForm with
    | none => .error (.attributeError "confirmed_title")
    | some form => .ok (formEvidence e.candidate.claimedDetails form)

/-- What phase 2 writes for a reference, if it is not excluded. -/
def phase2Effect (env : Env) (invalidRefs : Dict RefKey String) (phase1Results : BatchResults)
    (_ : EvidenceRow) (e : RefEntry) : Except PyException (Option Evidence) :=
  if invalidRefs.contains e.key then .ok none else some <$> phase2Evidence env phase1Results e

theorem phase2Step_eq (invalidRefs : Dict RefKey String) (phase1Results : BatchResults) :
    phase2Step env invalidRefs phase1Results =
      Loop.rowStep EvidenceTables.row EvidenceTables.write RefEntry.key
        (phase2Effect env invalidRefs phase1Results) := by
  funext t e
  unfold phase2Step Loop.rowStep phase2Effect phase2Evidence
  dsimp only
  by_cases hinvalid : invalidRefs.contains e.key = true
  · rw [if_pos hinvalid, if_pos hinvalid]
    rfl
  · rw [if_neg hinvalid, if_neg hinvalid]
    cases e.ref.type with
    | REF1 =>
      dsimp only
      simp only [map_bind, bind_assoc, map_pure, pure_bind]
      rfl
    | REF2 =>
      dsimp only
      cases e.ref.yesNoForm <;> rfl

/-- A valid reference has what phase 2 needs: a transcript both its results, and its sentiment. -/
def HasPhase1 (env : Env) (phase1Results : BatchResults) (e : RefEntry) : Prop :=
  e.ref.Valid env → e.ref.type = .REF1 →
    (phase1Results.get .extractedFacts (e.cid "extract")).isSome ∧
      (phase1Results.value? .sentimentAndRedFlags (e.cid "sentiment")).isSome

theorem phase2Evidence_eq_ok_iff {phase1Results : BatchResults}
    (phase3Results phase4Results phase6Results : BatchResults) {e : RefEntry}
    (hvalid : e.ref.Valid env) {ev : Evidence} :
    phase2Evidence env phase1Results e = .ok ev ↔
      HasPhase1 env phase1Results e ∧
        ev = e.ref.firstEvidence env e.candidate.claimedDetails
          (repliesOf phase1Results phase3Results phase4Results phase6Results e.candidateIdx
            e.refIdx) := by
  unfold phase2Evidence ReferenceInput.firstEvidence HasPhase1
  cases htype : e.ref.type with
  | REF1 =>
    dsimp only
    have hx : (repliesOf phase1Results phase3Results phase4Results phase6Results e.candidateIdx
        e.refIdx .extract) = (phase1Results.get .extractedFacts (e.cid "extract")).bind
          BatchItemResult.value? := rfl
    have hs : (repliesOf phase1Results phase3Results phase4Results phase6Results e.candidateIdx
        e.refIdx .sentiment) = (phase1Results.get .sentimentAndRedFlags (e.cid "sentiment")).bind
          BatchItemResult.value? := rfl
    rw [hx, hs]
    unfold BatchResults.getItem BatchResults.value?
    cases phase1Results.get .extractedFacts (e.cid "extract") with
    | none =>
      simp [hvalid, bind, Except.bind]
    | some x =>
      cases phase1Results.get .sentimentAndRedFlags (e.cid "sentiment") with
      | none => simp [hvalid, bind, Except.bind]
      | some s =>
        cases s with
        | succeeded v =>
          simp [hvalid, sentimentObj, BatchItemResult.value?, bind, Except.bind, pure, Except.pure,
            eq_comm]
        | failed err =>
          simp [hvalid, sentimentObj, BatchItemResult.value?, bind, Except.bind,
            SentimentAndRedFlags.construct, Sentiment.ofText?]
  | REF2 =>
    obtain ⟨form, hform⟩ := (valid_iff_of_form htype).mp hvalid
    dsimp only
    rw [hform]
    simp only [Except.ok.injEq, reduceCtorEq, false_implies, implies_true, true_and]
    exact eq_comm

section phases

variable {invalidRefs : Dict RefKey String} {phase1Results phase3Results phase4Results
  phase6Results : BatchResults}

/-- The rows of the valid references hold the evidence `ev`. -/
def Holds (env : Env) (candidates : List CandidateBatchInput) (t : EvidenceTables)
    (ev : RefEntry → Evidence) : Prop :=
  ∀ e ∈ refEntries candidates, e.ref.Valid env → t.row e.key = (ev e).row

/-- The evidence of a reference after phase 2, 3 and 4. -/
def RefEntry.evidenceBy (f : ReferenceInput → Env → ClaimedDetails → RefReplies → Evidence)
    (env : Env) (a : ℕ → ℕ → RefReplies) (e : RefEntry) : Evidence :=
  f e.ref env e.candidate.claimedDetails (a e.candidateIdx e.refIdx)

/-- When phase 2 returns, every transcript had its results and its sentiment, and every valid
reference has its first evidence. -/
theorem phase2_run (hinv : Excludes env candidates invalidRefs)
    (phase3Results phase4Results phase6Results : BatchResults) {t : EvidenceTables}
    (h : (refEntries candidates).foldlM (phase2Step env invalidRefs phase1Results) {} = .ok t) :
    (∀ e ∈ refEntries candidates, HasPhase1 env phase1Results e) ∧
      Holds env candidates t (RefEntry.evidenceBy ReferenceInput.firstEvidence env
        (repliesOf phase1Results phase3Results phase4Results phase6Results)) := by
  rw [phase2Step_eq] at h
  obtain ⟨hown, -⟩ := rowWrites_evidence.run (nodup_key_refEntries candidates) h
  have hvalid : ∀ e ∈ refEntries candidates, e.ref.Valid env →
      ∃ ev, phase2Evidence env phase1Results e = .ok ev ∧ t.row e.key = ev.row := by
    intro e he hv
    obtain ⟨o, ho, hrow⟩ := hown e he
    rw [phase2Effect, if_neg (fun hc => (hinv.contains_iff he).mp hc hv)] at ho
    obtain ⟨ev, hev, rfl⟩ := Except.map_eq_ok.mp ho
    exact ⟨ev, hev, hrow⟩
  constructor
  · intro e he hv
    obtain ⟨ev, hev, -⟩ := hvalid e he hv
    exact ((phase2Evidence_eq_ok_iff phase3Results phase4Results phase6Results hv).mp hev).1 hv
  · intro e he hv
    obtain ⟨ev, hev, hrow⟩ := hvalid e he hv
    rw [hrow, ((phase2Evidence_eq_ok_iff phase3Results phase4Results phase6Results hv).mp hev).2]
    rfl

/-- Phase 2 returns when every transcript has its results and its sentiment. -/
theorem exists_phase2 (hinv : Excludes env candidates invalidRefs)
    (h : ∀ e ∈ refEntries candidates, HasPhase1 env phase1Results e) :
    ∃ t, (refEntries candidates).foldlM (phase2Step env invalidRefs phase1Results) {} = .ok t := by
  rw [phase2Step_eq]
  let ev := RefEntry.evidenceBy ReferenceInput.firstEvidence env
    (repliesOf phase1Results .empty .empty .empty)
  have heffect : ∀ e ∈ refEntries candidates, phase2Effect env invalidRefs phase1Results
      (EvidenceTables.row {} e.key) e = .ok (if e.ref.Valid env then some (ev e) else none) := by
    intro e he
    unfold phase2Effect
    by_cases hv : e.ref.Valid env
    · rw [if_neg (fun hc => (hinv.contains_iff he).mp hc hv), if_pos hv,
        (phase2Evidence_eq_ok_iff .empty .empty .empty hv).mpr ⟨h e he, rfl⟩]
      rfl
    · rw [if_pos ((hinv.contains_iff he).mpr hv), if_neg hv]
  obtain ⟨t, ht, -⟩ := rowWrites_evidence.exists_run (nodup_key_refEntries candidates) heffect
  exact ⟨t, ht⟩

/-! ### Phase 3 -/

theorem phase3_items (backend : Backend) (hinv : Excludes env candidates invalidRefs)
    (a : ℕ → ℕ → RefReplies) :
    Loop.collect (phase3ItemsOf backend invalidRefs) (refEntries candidates) =
      .ok ((refEntries candidates).flatMap fun e =>
        e.items env backend (a e.candidateIdx e.refIdx) [.commentSentiment]) := by
  refine Loop.collect_eq_ok (fun e he => ?_)
  have hcontains := hinv.contains_iff he
  unfold phase3ItemsOf RefEntry.items ReferenceInput.asks ReferenceInput.hasComments
  by_cases hv : e.ref.Valid env
  · simp only [hv, not_true_eq_false, iff_false] at hcontains
    cases htype : e.ref.type with
    | REF1 => simp [hcontains]
    | REF2 =>
      obtain ⟨form, hform⟩ := (valid_iff_of_form htype).mp hv
      by_cases hcomments : form.strippedComments = ""
      · simp [hcontains, hform, hcomments, YesNoReferenceForm.hasComments]
      · simp [hcontains, hv, hform, hcomments, YesNoReferenceForm.hasComments, RefEntry.item,
          ReferenceInput.prompts, ReferenceInput.strippedComments, RefStep.tag, RefStep.tier]
  · simp only [hv, not_false_eq_true, iff_true] at hcontains
    simp [hcontains, hv]

/-- The references for which a kind of request is made. -/
def asked (env : Env) (candidates : List CandidateBatchInput) (a : ℕ → ℕ → RefReplies)
    (s : RefStep) : List RefEntry :=
  (refEntries candidates).filter fun e =>
    e.ref.asks env e.candidate.claimedDetails (a e.candidateIdx e.refIdx) s

theorem mem_asked_iff {a : ℕ → ℕ → RefReplies} {s : RefStep} {e : RefEntry} :
    e ∈ asked env candidates a s ↔ e ∈ refEntries candidates ∧
      e.ref.asks env e.candidate.claimedDetails (a e.candidateIdx e.refIdx) s = true :=
  List.mem_filter

theorem valid_of_asks {ref : ReferenceInput} {claimed : ClaimedDetails} {a : RefReplies}
    {s : RefStep} (h : ref.asks env claimed a s = true) : ref.Valid env :=
  of_decide_eq_true (Bool.and_eq_true_iff.mp h).1

theorem flatMap_items_singleton (env : Env) (backend : Backend)
    (candidates : List CandidateBatchInput) (a : ℕ → ℕ → RefReplies) (s : RefStep) :
    ((refEntries candidates).flatMap fun e =>
        e.items env backend (a e.candidateIdx e.refIdx) [s]) =
      (asked env candidates a s).map fun e => e.item env backend (a e.candidateIdx e.refIdx) s := by
  unfold asked
  induction refEntries candidates with
  | nil => rfl
  | cons e es ih =>
    rw [List.flatMap_cons, ih, List.filter_cons, RefEntry.items]
    by_cases h : e.ref.asks env e.candidate.claimedDetails (a e.candidateIdx e.refIdx) s = true
    · rw [if_pos h, List.filter_cons_of_pos h]
      rfl
    · rw [if_neg h, List.filter_cons_of_neg h]
      rfl

/-- A loop over the items of one kind of request takes the evidence from `ev` to `ev'`, if it does
so for every reference for which the request is made, and `ev'` is `ev` for the others. -/
theorem items_loop {backend : Backend} {W : Type}
    {write : EvidenceTables → RefKey → W → EvidenceTables}
    {put : EvidenceRow → W → EvidenceRow} (hw : Loop.RowWrites EvidenceTables.row write put)
    {step : EvidenceTables → BatchItem → Except PyException EvidenceTables}
    {effect : EvidenceRow → RefEntry → Except PyException (Option W)} {a : ℕ → ℕ → RefReplies}
    {s : RefStep} (hstep : ∀ t e, step t (e.item env backend (a e.candidateIdx e.refIdx) s) =
      Loop.rowStep EvidenceTables.row write RefEntry.key effect t e)
    {ev ev' : RefEntry → Evidence} {o : RefEntry → Option W} {t : EvidenceTables}
    (h : Holds env candidates t ev) (heffect : ∀ e, effect (ev e).row e = .ok (o e))
    (hasked : ∀ e ∈ asked env candidates a s, Loop.putRow put (ev e).row (o e) = (ev' e).row)
    (hother : ∀ e ∈ refEntries candidates, e.ref.Valid env → e ∉ asked env candidates a s →
      ev' e = ev e) :
    ∃ t', ((refEntries candidates).flatMap fun e =>
        e.items env backend (a e.candidateIdx e.refIdx) [s]).foldlM step t = .ok t' ∧
      Holds env candidates t' ev' := by
  have hkeys : ((asked env candidates a s).map RefEntry.key).Nodup :=
    (nodup_key_refEntries candidates).sublist (List.filter_sublist.map _)
  have hrow : ∀ e ∈ asked env candidates a s, t.row e.key = (ev e).row := by
    intro e he
    obtain ⟨hmem, hasks⟩ := mem_asked_iff.mp he
    exact h e hmem (valid_of_asks hasks)
  obtain ⟨t', ht', hown, hframe⟩ := hw.exists_run (s := t) (o := o) hkeys (by
    intro e he
    rw [hrow e he]
    exact heffect e)
  refine ⟨t', ?_, fun e he hvalid => ?_⟩
  · rw [flatMap_items_singleton, List.foldlM_map]
    simp only [hstep]
    exact ht'
  · by_cases hmem : e ∈ asked env candidates a s
    · rw [hown e hmem, hrow e hmem, hasked e hmem]
    · rw [hframe e.key, h e he hvalid, hother e he hvalid hmem]
      intro hkey
      obtain ⟨e', he', hkey⟩ := List.mem_map.mp hkey
      rw [eq_of_key_eq (mem_asked_iff.mp he').1 he hkey] at he'
      exact hmem he'

/-- `getRef`, on a row. -/
def getRow {V : Type} (key : RefKey) : Option V → Except PyException V
  | some v => .ok v
  | none => .error (.keyError ("(" ++ toString key.1 ++ ", " ++ toString key.2 ++ ")"))

theorem getRef_eq_getRow {V : Type} (d : Dict RefKey V) (key : RefKey) :
    getRef d key = getRow key (d.get? key) := by
  unfold getRef getRow
  cases d.get? key <;> rfl

/-- What phase 3 writes for a reference: its sentiment and all its red flags. -/
def phase3Effect (phase3Results : BatchResults) (r : EvidenceRow) (e : RefEntry) :
    Except PyException (Option (String × List String)) :=
  match phase3Results.value? .sentimentAndRedFlags (e.cid "comment_sentiment") with
  | some value => do
    let redFlags ← getRow e.key r.redFlags
    return some (value.sentiment.text, redFlags ++ value.redFlags)
  | none => .ok none

def EvidenceTables.writeSentiment (t : EvidenceTables) (k : RefKey) (w : String × List String) :
    EvidenceTables :=
  { t with
    sentimentByRef := t.sentimentByRef.set k w.1
    redFlagsByRef := t.redFlagsByRef.set k w.2 }

theorem rowWrites_sentiment : Loop.RowWrites EvidenceTables.row EvidenceTables.writeSentiment
    (fun r w => { r with sentiment := some w.1, redFlags := some w.2 }) where
  own t k w := by simp [EvidenceTables.row, EvidenceTables.writeSentiment]
  frame t k w k' hk := by
    simp [EvidenceTables.row, EvidenceTables.writeSentiment, Dict.get?_set_of_ne _ _ hk]

theorem phase3Step_item {backend : Backend} (phase3Results : BatchResults) (a : RefReplies)
    (t : EvidenceTables)
    (e : RefEntry) :
    phase3Step phase3Results t (e.item env backend a .commentSentiment) =
      Loop.rowStep EvidenceTables.row EvidenceTables.writeSentiment RefEntry.key
        (phase3Effect phase3Results) t e := by
  have hkey : parseCid (e.item env backend a .commentSentiment).customId = .ok e.key :=
    parseCid_cid e.candidateIdx e.refIdx (RefStep.colon_not_mem_tag .commentSentiment)
  unfold phase3Step Loop.rowStep phase3Effect
  rw [hkey]
  show (match phase3Results.value? .sentimentAndRedFlags (e.cid "comment_sentiment") with
    | some value => _
    | none => _) = _
  cases phase3Results.value? .sentimentAndRedFlags (e.cid "comment_sentiment") with
  | none => rfl
  | some value =>
    dsimp only
    rw [getRef_eq_getRow, show (t.row e.key).redFlags = t.redFlagsByRef.get? e.key from rfl]
    cases t.redFlagsByRef.get? e.key <;> rfl

theorem phase3_spec (backend : Backend) {t : EvidenceTables}
    (h : Holds env candidates t (RefEntry.evidenceBy ReferenceInput.firstEvidence env
      (repliesOf phase1Results phase3Results phase4Results phase6Results))) :
    ∃ t', ((refEntries candidates).flatMap fun e => e.items env backend
        (repliesOf phase1Results phase3Results phase4Results phase6Results e.candidateIdx e.refIdx)
          [.commentSentiment]).foldlM (phase3Step phase3Results) t = .ok t' ∧
      Holds env candidates t' (RefEntry.evidenceBy ReferenceInput.commentedEvidence env
        (repliesOf phase1Results phase3Results phase4Results phase6Results)) := by
  refine items_loop rowWrites_sentiment (fun t e => phase3Step_item phase3Results _ t e) h
    (o := fun e => (phase3Results.value? .sentimentAndRedFlags (e.cid "comment_sentiment")).map
      fun value => (value.sentiment.text, (RefEntry.evidenceBy ReferenceInput.firstEvidence env
        (repliesOf phase1Results phase3Results phase4Results phase6Results) e).redFlags ++
          value.redFlags)) ?_ ?_ ?_
  · intro e
    unfold phase3Effect
    cases phase3Results.value? .sentimentAndRedFlags (e.cid "comment_sentiment") <;> rfl
  · intro e he
    have hcomments : e.ref.hasComments = true :=
      (Bool.and_eq_true_iff.mp (mem_asked_iff.mp he).2).2
    unfold RefEntry.evidenceBy ReferenceInput.commentedEvidence
    rw [if_pos hcomments]
    show Loop.putRow _ _ (Option.map _ _) = Evidence.row (match
      phase3Results.value? .sentimentAndRedFlags (e.cid "comment_sentiment") with
      | some result => _
      | none => _)
    cases phase3Results.value? .sentimentAndRedFlags (e.cid "comment_sentiment") <;> rfl
  · intro e he hvalid hnot
    have hcomments : ¬ e.ref.hasComments = true := by
      intro hc
      exact hnot (mem_asked_iff.mpr ⟨he, by simp [ReferenceInput.asks, hvalid, hc]⟩)
    unfold RefEntry.evidenceBy ReferenceInput.commentedEvidence
    rw [if_neg hcomments]

/-! ### Phase 4 -/

theorem phase4_items (backend : Backend) (hinv : Excludes env candidates invalidRefs)
    {a : ℕ → ℕ → RefReplies}
    {t : EvidenceTables}
    (h : Holds env candidates t (RefEntry.evidenceBy ReferenceInput.commentedEvidence env a)) :
    Loop.collect (phase4ItemsOf env backend invalidRefs t) (refEntries candidates) =
      .ok ((refEntries candidates).flatMap fun e =>
        e.items env backend (a e.candidateIdx e.refIdx) [.explain]) := by
  refine Loop.collect_eq_ok (fun e he => ?_)
  have hcontains := hinv.contains_iff he
  unfold phase4ItemsOf RefEntry.items ReferenceInput.asks
  by_cases hv : e.ref.Valid env
  · simp only [hv, not_true_eq_false, iff_false] at hcontains
    cases htype : e.ref.type with
    | REF1 =>
      have hrow := congrArg EvidenceRow.discrepancies (h e he hv)
      have hfirst : RefEntry.evidenceBy ReferenceInput.commentedEvidence env a e =
          e.ref.firstEvidence env e.candidate.claimedDetails (a e.candidateIdx e.refIdx) := by
        simp [RefEntry.evidenceBy, ReferenceInput.commentedEvidence, ReferenceInput.hasComments, htype]
      rw [hfirst] at hrow
      have hget : getRef t.discrepanciesByRef e.key = .ok (e.ref.firstEvidence env
          e.candidate.claimedDetails (a e.candidateIdx e.refIdx)).discrepancies := by
        rw [getRef_eq_getRow]
        exact congrArg (getRow e.key) hrow
      rw [hget]
      by_cases hnil : (e.ref.firstEvidence env e.candidate.claimedDetails
          (a e.candidateIdx e.refIdx)).discrepancies = []
      · simp [hcontains, hnil, bind, Except.bind, pure, Except.pure]
      · simp [hcontains, hnil, hv, bind, Except.bind, pure, Except.pure, RefEntry.item,
          ReferenceInput.prompts, CandidateBatchInput.subject, RefStep.tag, RefStep.tier]
    | REF2 => simp
  · simp only [hv, not_false_eq_true, iff_true] at hcontains
    simp [hcontains, hv]

/-- What phase 4 writes for a reference: its discrepancies with their notes. -/
def phase4Effect (phase4Results : BatchResults) (r : EvidenceRow) (e : RefEntry) :
    Except PyException (Option (List Discrepancy)) :=
  match phase4Results.value? .discrepancyNotes (e.cid "explain") with
  | some notes => do
    let discrepancies ← getRow e.key r.discrepancies
    return some (applyNotes notes discrepancies)
  | none => .ok none

def EvidenceTables.writeDiscrepancies (t : EvidenceTables) (k : RefKey) (w : List Discrepancy) :
    EvidenceTables :=
  { t with discrepanciesByRef := t.discrepanciesByRef.set k w }

theorem rowWrites_discrepancies :
    Loop.RowWrites EvidenceTables.row EvidenceTables.writeDiscrepancies
      (fun r w => { r with discrepancies := some w }) where
  own t k w := by simp [EvidenceTables.row, EvidenceTables.writeDiscrepancies]
  frame t k w k' hk := by
    simp [EvidenceTables.row, EvidenceTables.writeDiscrepancies, Dict.get?_set_of_ne _ _ hk]

theorem phase4Step_item {backend : Backend} (phase4Results : BatchResults) (a : RefReplies)
    (t : EvidenceTables)
    (e : RefEntry) :
    phase4Step phase4Results t (e.item env backend a .explain) =
      Loop.rowStep EvidenceTables.row EvidenceTables.writeDiscrepancies RefEntry.key
        (phase4Effect phase4Results) t e := by
  have hkey : parseCid (e.item env backend a .explain).customId = .ok e.key :=
    parseCid_cid e.candidateIdx e.refIdx (RefStep.colon_not_mem_tag .explain)
  unfold phase4Step Loop.rowStep phase4Effect
  rw [hkey]
  show (match phase4Results.value? .discrepancyNotes (e.cid "explain") with
    | some notes => _
    | none => _) = _
  cases phase4Results.value? .discrepancyNotes (e.cid "explain") with
  | none => rfl
  | some notes =>
    dsimp only
    rw [getRef_eq_getRow, show (t.row e.key).discrepancies = t.discrepanciesByRef.get? e.key from rfl]
    cases t.discrepanciesByRef.get? e.key <;> rfl

theorem phase4_spec (backend : Backend) {t : EvidenceTables}
    (h : Holds env candidates t (RefEntry.evidenceBy ReferenceInput.commentedEvidence env
      (repliesOf phase1Results phase3Results phase4Results phase6Results))) :
    ∃ t', ((refEntries candidates).flatMap fun e => e.items env backend
        (repliesOf phase1Results phase3Results phase4Results phase6Results e.candidateIdx e.refIdx)
          [.explain]).foldlM (phase4Step phase4Results) t = .ok t' ∧
      Holds env candidates t' (RefEntry.evidenceBy ReferenceInput.evidence env
        (repliesOf phase1Results phase3Results phase4Results phase6Results)) := by
  set a := repliesOf phase1Results phase3Results phase4Results phase6Results with ha
  refine items_loop rowWrites_discrepancies (fun t e => phase4Step_item phase4Results _ t e) h
    (o := fun e => (phase4Results.value? .discrepancyNotes (e.cid "explain")).map fun notes =>
      applyNotes notes (RefEntry.evidenceBy ReferenceInput.commentedEvidence env a e).discrepancies)
    ?_ ?_ ?_
  · intro e
    unfold phase4Effect
    cases phase4Results.value? .discrepancyNotes (e.cid "explain") <;> rfl
  · intro e he
    have hasks := (Bool.and_eq_true_iff.mp (mem_asked_iff.mp he).2).2
    have htype : e.ref.type = .REF1 := of_decide_eq_true (Bool.and_eq_true_iff.mp hasks).1
    unfold RefEntry.evidenceBy ReferenceInput.evidence
    rw [if_pos htype]
    show Loop.putRow _ _ (Option.map _ _) = Evidence.row (match
      phase4Results.value? .discrepancyNotes (e.cid "explain") with
      | some notes => _
      | none => _)
    cases phase4Results.value? .discrepancyNotes (e.cid "explain") <;> rfl
  · intro e he hvalid hnot
    unfold RefEntry.evidenceBy
    cases htype : e.ref.type with
    | REF2 => rw [evidence_of_form htype]
    | REF1 =>
      -- a transcript that is not explained has no discrepancies to take notes
      have hnil : (e.ref.firstEvidence env e.candidate.claimedDetails
          (a e.candidateIdx e.refIdx)).discrepancies = [] := by
        by_contra hne
        exact hnot (mem_asked_iff.mpr ⟨he, by simp [ReferenceInput.asks, hvalid, htype, hne]⟩)
      rw [evidence_of_nil htype hnil, commentedEvidence_of_transcript htype]

end phases

end RefCheck
