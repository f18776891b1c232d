import RefCheck.Backends.Anthropic
import RefCheck.Backends.Bedrock
import RefCheck.Batch.EvidencePhases

/-!
# The custom IDs of the pipeline

An ID of the pipeline is parsed back, determines its request, and does so even after Bedrock has
replaced its colons (`sanitizeRecordId_inj`), although a tag may contain the character they are
replaced by. So the items of every phase have distinct IDs, and what the phases write back by
`_parse_cid` is at the key of the reference whose request it answers (`WritesBack`).
-/

namespace RefCheck

open Bedrock (sanitizeRecordId)

/-! ### Record IDs -/

/-- What a custom ID of the pipeline names. -/
inductive PipelineId where
  | request (candidateIdx refIdx : ℕ) (step : RefStep)
  | overall (candidateIdx : ℕ)

def PipelineId.customId : PipelineId → String
  | request candidateIdx refIdx step => cid candidateIdx refIdx step.tag
  | overall candidateIdx => overallCid candidateIdx

/-- The characters of a record ID. -/
def sanitizeChars (cs : List Char) : List Char := cs.map fun c => if c = ':' then '_' else c

theorem toList_sanitizeRecordId (customId : String) :
    (sanitizeRecordId customId).toList = sanitizeChars customId.toList :=
  String.toList_ofList

theorem sanitizeChars_eq_self {cs : List Char} (h : ':' ∉ cs) : sanitizeChars cs = cs := by
  unfold sanitizeChars
  conv_rhs => rw [← List.map_id cs]
  refine List.map_congr_left fun c hc => if_neg ?_
  rintro rfl
  exact h hc

theorem sanitizeChars_append_colon {cs : List Char} (h : ':' ∉ cs) (rest : List Char) :
    sanitizeChars (cs ++ ':' :: rest) = cs ++ '_' :: sanitizeChars rest := by
  unfold sanitizeChars
  rw [List.map_append, List.map_cons, if_pos rfl]
  congr 1
  exact sanitizeChars_eq_self h

theorem toList_sanitizeRecordId_cid (c r : ℕ) (s : RefStep) :
    (sanitizeRecordId (cid c r s.tag)).toList = ('c' :: Nat.toDigits 10 c) ++ '_' ::
      (('r' :: Nat.toDigits 10 r) ++ '_' :: s.tag.toList) := by
  rw [toList_sanitizeRecordId, toList_cid,
    sanitizeChars_append_colon (colon_not_mem_letter_digits 'c' (by decide) c),
    sanitizeChars_append_colon (colon_not_mem_letter_digits 'r' (by decide) r),
    sanitizeChars_eq_self s.colon_not_mem_tag]

theorem toList_sanitizeRecordId_overallCid (c : ℕ) :
    (sanitizeRecordId (overallCid c)).toList =
      ('c' :: Nat.toDigits 10 c) ++ '_' :: "overall".toList := by
  rw [toList_sanitizeRecordId, toList_overallCid,
    sanitizeChars_append_colon (colon_not_mem_letter_digits 'c' (by decide) c),
    sanitizeChars_eq_self (by decide)]

theorem underscore_not_mem_letter_digits (letter : Char) (h : letter ≠ '_') (n : ℕ) :
    '_' ∉ letter :: Nat.toDigits 10 n := by
  rw [List.mem_cons, not_or]
  exact ⟨h.symm, Text.not_mem_toDigits (by decide) n⟩

theorem sanitizeRecordId_inj {id id' : PipelineId}
    (h : sanitizeRecordId id.customId = sanitizeRecordId id'.customId) : id = id' := by
  have hlist := congrArg String.toList h
  have hc := underscore_not_mem_letter_digits 'c' (by decide)
  have hr := underscore_not_mem_letter_digits 'r' (by decide)
  cases id with
  | request c r s =>
    rw [PipelineId.customId, toList_sanitizeRecordId_cid] at hlist
    cases id' with
    | request c' r' s' =>
      rw [PipelineId.customId, toList_sanitizeRecordId_cid] at hlist
      obtain ⟨hcand, hrest⟩ := Text.append_sep_inj (hc c) (hc c') hlist
      obtain ⟨href, htag⟩ := Text.append_sep_inj (hr r) (hr r') hrest
      rw [Text.toDigits_inj (List.cons.inj hcand).2, Text.toDigits_inj (List.cons.inj href).2,
        RefStep.tag_inj (String.toList_inj.mp htag)]
    | overall c' =>
      rw [PipelineId.customId, toList_sanitizeRecordId_overallCid] at hlist
      obtain ⟨-, hrest⟩ := Text.append_sep_inj (hc c) (hc c') hlist
      have hhead := congrArg List.head? hrest
      simp at hhead
  | overall c =>
    rw [PipelineId.customId, toList_sanitizeRecordId_overallCid] at hlist
    cases id' with
    | request c' r' s' =>
      rw [PipelineId.customId, toList_sanitizeRecordId_cid] at hlist
      obtain ⟨-, hrest⟩ := Text.append_sep_inj (hc c) (hc c') hlist
      have hhead := congrArg List.head? hrest
      simp at hhead
    | overall c' =>
      rw [PipelineId.customId, toList_sanitizeRecordId_overallCid] at hlist
      obtain ⟨hcand, -⟩ := Text.append_sep_inj (hc c) (hc c') hlist
      rw [Text.toDigits_inj (List.cons.inj hcand).2]

/-! ### The items of a phase -/

section phases

variable {env : Env} {backend : Backend} {candidates : List CandidateBatchInput}
  {invalidRefs : Dict RefKey String}

/-- The items have distinct IDs, and the Anthropic backend takes them for that. -/
def DistinctIds (items : List BatchItem) : Prop :=
  (items.map (·.customId)).Nodup ∧ Anthropic.requireUnique (items.map (·.customId)) = .ok ()

theorem distinctIds_of_nodup {items : List BatchItem} (h : (items.map (·.customId)).Nodup) :
    DistinctIds items :=
  ⟨h, Anthropic.requireUnique_eq_ok_iff.mpr h⟩

/-- For each reference, no items but those of the given kinds, in their order. -/
def ItemsOf (f : RefEntry → Except PyException (List BatchItem)) (steps : List RefStep) : Prop :=
  ∀ e items, f e = .ok items →
    (items.map (·.customId)).Sublist (steps.map fun s => e.cid s.tag)

theorem collect_sublist {f : RefEntry → Except PyException (List BatchItem)} {steps : List RefStep}
    (hf : ItemsOf f steps) {es : List RefEntry} {items : List BatchItem}
    (h : Loop.collect f es = .ok items) :
    (items.map (·.customId)).Sublist (es.flatMap fun e => steps.map fun s => e.cid s.tag) := by
  induction es generalizing items with
  | nil =>
    cases h
    exact .slnil
  | cons e es ih =>
    obtain ⟨own, hown, h⟩ := Except.bind_eq_ok.mp h
    obtain ⟨rest, hrest, h⟩ := Except.bind_eq_ok.mp h
    obtain rfl := Except.pure_eq_ok.mp h
    rw [List.map_append, List.flatMap_cons]
    exact (hf e own hown).append (ih hrest)

theorem nodup_flatMap_cid {steps : List RefStep} (hsteps : steps.Nodup) :
    ((refEntries candidates).flatMap fun e => steps.map fun s => e.cid s.tag).Nodup := by
  rw [List.nodup_flatMap]
  refine ⟨fun e _ => hsteps.map fun s s' h => RefStep.tag_inj (cid_inj h).2.2, ?_⟩
  refine (List.pairwise_map.mp (nodup_key_refEntries candidates)).imp fun {e e'} hne => ?_
  intro customId hmem hmem'
  obtain ⟨s, -, rfl⟩ := List.mem_map.mp hmem
  obtain ⟨s', -, heq⟩ := List.mem_map.mp hmem'
  obtain ⟨hc, hr, -⟩ := cid_inj heq
  exact hne (by rw [RefEntry.key, RefEntry.key, hc, hr])

theorem distinctIds_collect {f : RefEntry → Except PyException (List BatchItem)}
    {steps : List RefStep} (hf : ItemsOf f steps) (hsteps : steps.Nodup) {items : List BatchItem}
    (h : Loop.collect f (refEntries candidates) = .ok items) : DistinctIds items :=
  distinctIds_of_nodup ((nodup_flatMap_cid hsteps).sublist (collect_sublist hf h))

theorem phase1ItemsOf_itemsOf :
    ItemsOf (fun e => .ok (phase1ItemsOf env backend invalidRefs e)) [.extract, .sentiment] := by
  intro e items h
  obtain rfl := Except.ok.inj h
  unfold phase1ItemsOf
  split_ifs
  · exact List.nil_sublist _
  · exact List.Sublist.refl _

theorem phase3ItemsOf_itemsOf : ItemsOf (phase3ItemsOf backend invalidRefs) [.commentSentiment] := by
  intro e items h
  unfold phase3ItemsOf at h
  split_ifs at h
  · obtain rfl := Except.ok.inj h
    exact List.nil_sublist _
  · cases hform : e.ref.yesNoForm with
    | none =>
      rw [hform] at h
      cases h
    | some form =>
      rw [hform] at h
      dsimp only at h
      split_ifs at h
      · obtain rfl := Except.ok.inj h
        exact List.nil_sublist _
      · obtain rfl := Except.ok.inj h
        exact List.Sublist.refl _

theorem phase4ItemsOf_itemsOf {t : EvidenceTables} :
    ItemsOf (phase4ItemsOf env backend invalidRefs t) [.explain] := by
  intro e items h
  unfold phase4ItemsOf at h
  split_ifs at h
  · obtain rfl := Except.ok.inj h
    exact List.nil_sublist _
  · obtain ⟨discrepancies, -, h⟩ := Except.bind_eq_ok.mp h
    split_ifs at h
    · obtain rfl := Except.pure_eq_ok.mp h
      exact List.nil_sublist _
    · obtain rfl := Except.pure_eq_ok.mp h
      exact List.Sublist.refl _

theorem phase6ItemsOf_itemsOf {t : EvidenceTables} {scores : ScoreTables} :
    ItemsOf (phase6ItemsOf env backend invalidRefs t scores) [.summary] := by
  intro e items h
  unfold phase6ItemsOf at h
  split_ifs at h
  · obtain rfl := Except.ok.inj h
    exact List.nil_sublist _
  · obtain ⟨route, -, h⟩ := Except.bind_eq_ok.mp h
    cases route with
    | flagForHumanReview =>
      simp only [Except.bind_eq_ok] at h
      obtain ⟨_, -, _, -, _, -, _, -, _, -, h⟩ := h
      obtain rfl := Except.pure_eq_ok.mp h
      exact List.Sublist.refl _
    | autoSummarize =>
      simp only [Except.bind_eq_ok] at h
      obtain ⟨_, -, _, -, _, -, h⟩ := h
      obtain rfl := Except.pure_eq_ok.mp h
      exact List.Sublist.refl _

theorem phase8Item_customId {byCandidate : Dict ℕ (List ReferenceResult)} {t : CandidateTables}
    {p : CandidateBatchInput × ℕ} {item : BatchItem}
    (h : phase8Item env backend byCandidate t p = .ok item) : item.customId = overallCid p.2 := by
  obtain ⟨candidate, candidateIdx⟩ := p
  obtain ⟨route, -, h⟩ := Except.bind_eq_ok.mp h
  cases route with
  | overallFlagForReview =>
    simp only [Except.bind_eq_ok] at h
    obtain ⟨_, -, _, -, _, -, _, -, h⟩ := h
    rw [← Except.pure_eq_ok.mp h]
    rfl
  | overallClear =>
    simp only [Except.bind_eq_ok] at h
    obtain ⟨_, -, _, -, _, -, h⟩ := h
    rw [← Except.pure_eq_ok.mp h]
    rfl

theorem distinctIds_phase8 {byCandidate : Dict ℕ (List ReferenceResult)} {t : CandidateTables}
    {items : List BatchItem}
    (h : candidates.zipIdx.mapM (phase8Item env backend byCandidate t) = .ok items) :
    DistinctIds items := by
  have hids : items.map (·.customId) = (List.range candidates.length).map overallCid := by
    have hzip : candidates.zipIdx.map Prod.snd = List.range candidates.length := by
      rw [List.range_eq_range']
      simp
    rw [← hzip, List.map_map]
    have hforall := Loop.mapM_eq_ok_iff.mp h
    generalize candidates.zipIdx = ps at hforall
    clear h hzip
    induction hforall with
    | nil => rfl
    | cons hp _ ih =>
      rw [List.map_cons, List.map_cons, ih, phase8Item_customId hp]
      rfl
  refine distinctIds_of_nodup ?_
  rw [hids]
  exact List.nodup_range.map fun _ _ => overallCid_inj

/-! ### Writing back -/

/-- The row of a reference with what its comments added. -/
def EvidenceRow.withSentiment (r : EvidenceRow) : Option SentimentAndRedFlags → EvidenceRow
  | none => r
  | some value => { r with
      sentiment := some value.sentiment.text
      redFlags := r.redFlags.map (· ++ value.redFlags) }

/-- The row of a reference with the notes on its discrepancies. -/
def EvidenceRow.withNotes (r : EvidenceRow) : Option DiscrepancyNotes → EvidenceRow
  | none => r
  | some notes => { r with discrepancies := r.discrepancies.map (applyNotes notes) }

/-- The step for an item updates the row at the key that its ID is parsed to, and no other. -/
def WritesAt (step : EvidenceTables → BatchItem → Except PyException EvidenceTables)
    (update : EvidenceRow → BatchItem → EvidenceRow) : Prop :=
  ∀ t item t', step t item = .ok t' → ∃ key, parseCid item.customId = .ok key ∧
    t'.row key = update (t.row key) item ∧ ∀ k, k ≠ key → t'.row k = t.row k

/-- The loop over the items that the references contribute updates the row of every reference by the
item that it contributed, and no other row. -/
def WritesBack (candidates : List CandidateBatchInput)
    (f : RefEntry → Except PyException (List BatchItem))
    (step : EvidenceTables → BatchItem → Except PyException EvidenceTables)
    (update : EvidenceRow → BatchItem → EvidenceRow) : Prop :=
  ∀ items t t', Loop.collect f (refEntries candidates) = .ok items →
    items.foldlM step t = .ok t' →
    (∀ e ∈ refEntries candidates, ∀ own, f e = .ok own → ∀ item ∈ own,
      parseCid item.customId = .ok e.key ∧ t'.row e.key = update (t.row e.key) item) ∧
    ∀ k, (∀ e ∈ refEntries candidates, ∀ own, f e = .ok own → own ≠ [] → e.key ≠ k) →
      t'.row k = t.row k

theorem get?_of_getRef {V : Type} {d : Dict RefKey V} {key : RefKey} {v : V}
    (h : getRef d key = .ok v) : d.get? key = some v := by
  unfold getRef at h
  cases hget : d.get? key with
  | none =>
    rw [hget] at h
    cases h
  | some w =>
    rw [hget] at h
    rw [Except.ok.inj h]

theorem writesAt_phase3 (results : BatchResults) : WritesAt (phase3Step results) fun r item =>
    r.withSentiment (results.value? .sentimentAndRedFlags item.customId) := by
  intro t item t' h
  obtain ⟨key, hkey, h⟩ := Except.bind_eq_ok.mp h
  refine ⟨key, hkey, ?_⟩
  dsimp only
  cases hvalue : results.value? .sentimentAndRedFlags item.customId with
  | none =>
    rw [hvalue] at h
    obtain rfl := Except.pure_eq_ok.mp h
    exact ⟨rfl, fun _ _ => rfl⟩
  | some value =>
    rw [hvalue] at h
    obtain ⟨redFlags, hflags, h⟩ := Except.bind_eq_ok.mp h
    have hwrite : t.writeSentiment key (value.sentiment.text, redFlags ++ value.redFlags) = t' :=
      Except.pure_eq_ok.mp h
    subst hwrite
    refine ⟨?_, rowWrites_sentiment.frame t key _⟩
    rw [rowWrites_sentiment.own]
    simp [EvidenceRow.withSentiment, EvidenceTables.row, get?_of_getRef hflags]

theorem writesAt_phase4 (results : BatchResults) : WritesAt (phase4Step results) fun r item =>
    r.withNotes (results.value? .discrepancyNotes item.customId) := by
  intro t item t' h
  obtain ⟨key, hkey, h⟩ := Except.bind_eq_ok.mp h
  refine ⟨key, hkey, ?_⟩
  dsimp only
  cases hvalue : results.value? .discrepancyNotes item.customId with
  | none =>
    rw [hvalue] at h
    obtain rfl := Except.pure_eq_ok.mp h
    exact ⟨rfl, fun _ _ => rfl⟩
  | some notes =>
    rw [hvalue] at h
    obtain ⟨discrepancies, hdiscrepancies, h⟩ := Except.bind_eq_ok.mp h
    have hwrite : t.writeDiscrepancies key (applyNotes notes discrepancies) = t' :=
      Except.pure_eq_ok.mp h
    subst hwrite
    refine ⟨?_, rowWrites_discrepancies.frame t key _⟩
    rw [rowWrites_discrepancies.own]
    simp [EvidenceRow.withNotes, EvidenceTables.row, get?_of_getRef hdiscrepancies]

theorem writesAt_run {step : EvidenceTables → BatchItem → Except PyException EvidenceTables}
    {update : EvidenceRow → BatchItem → EvidenceRow} (hstep : WritesAt step update)
    {items : List BatchItem} {t t' : EvidenceTables}
    (hdistinct : items.Pairwise fun a b => parseCid a.customId ≠ parseCid b.customId)
    (h : items.foldlM step t = .ok t') :
    (∀ item ∈ items, ∀ key, parseCid item.customId = .ok key →
      t'.row key = update (t.row key) item) ∧
    ∀ k, (∀ item ∈ items, parseCid item.customId ≠ .ok k) → t'.row k = t.row k := by
  induction items generalizing t with
  | nil =>
    obtain rfl := Except.pure_eq_ok.mp h
    exact ⟨fun _ hitem => absurd hitem List.not_mem_nil, fun _ _ => rfl⟩
  | cons first items ih =>
    rw [List.foldlM_cons] at h
    obtain ⟨mid, hmid, h⟩ := Except.bind_eq_ok.mp h
    obtain ⟨hfirst, hrest⟩ := List.pairwise_cons.mp hdistinct
    obtain ⟨key₀, hkey₀, hown, hframe⟩ := hstep t first mid hmid
    obtain ⟨ihown, ihframe⟩ := ih hrest h
    constructor
    · intro item hitem key hkey
      rcases List.mem_cons.mp hitem with rfl | hitem
      · obtain rfl : key = key₀ := Except.ok.inj (hkey.symm.trans hkey₀)
        rw [ihframe key fun other hother heq => hfirst other hother (hkey.trans heq.symm), hown]
      · have hne : key ≠ key₀ := by
          rintro rfl
          exact hfirst item hitem (hkey₀.trans hkey.symm)
        rw [ihown item hitem key hkey, hframe key hne]
    · intro k hk
      have hne : k ≠ key₀ := by
        rintro rfl
        exact hk first List.mem_cons_self hkey₀
      rw [ihframe k fun item hitem => hk item (List.mem_cons_of_mem _ hitem), hframe k hne]

theorem ItemsOf.parseCid_eq {f : RefEntry → Except PyException (List BatchItem)} {s : RefStep}
    (hf : ItemsOf f [s]) {e : RefEntry} {own : List BatchItem} (hown : f e = .ok own)
    {item : BatchItem} (hitem : item ∈ own) :
    item.customId = e.cid s.tag ∧ parseCid item.customId = .ok e.key := by
  have hmem := (hf e own hown).subset (List.mem_map.mpr ⟨item, hitem, rfl⟩)
  rw [List.map_singleton, List.mem_singleton] at hmem
  refine ⟨hmem, ?_⟩
  rw [hmem]
  exact parseCid_cid e.candidateIdx e.refIdx s.colon_not_mem_tag

/-- What is written back by `_parse_cid` lands on the reference that asked. -/
theorem writesBack {f : RefEntry → Except PyException (List BatchItem)} {s : RefStep}
    (hf : ItemsOf f [s]) {step : EvidenceTables → BatchItem → Except PyException EvidenceTables}
    {update : EvidenceRow → BatchItem → EvidenceRow} (hstep : WritesAt step update) :
    WritesBack candidates f step update := by
  intro items t t' hitems h
  have hfind : ∀ item ∈ items, ∃ e ∈ refEntries candidates, ∃ own, f e = .ok own ∧ item ∈ own :=
    fun item hitem => (Loop.mem_collect hitems).mp hitem
  have hdistinct : items.Pairwise fun a b => parseCid a.customId ≠ parseCid b.customId := by
    have hnodup := (distinctIds_collect hf (List.nodup_singleton s) hitems).1
    refine (List.pairwise_map.mp hnodup).imp_of_mem fun {a b} ha hb hne heq => hne ?_
    obtain ⟨e, he, own, hown, hae⟩ := hfind a ha
    obtain ⟨e', he', own', hown', hbe⟩ := hfind b hb
    obtain ⟨hcid, hkey⟩ := hf.parseCid_eq hown hae
    obtain ⟨hcid', hkey'⟩ := hf.parseCid_eq hown' hbe
    have hkeys : e.key = e'.key := Except.ok.inj (hkey.symm.trans (heq.trans hkey'))
    rw [hcid, hcid', eq_of_key_eq he he' hkeys]
  obtain ⟨hrow, hframe⟩ := writesAt_run hstep hdistinct h
  constructor
  · intro e he own hown item hitem
    have hkey := (hf.parseCid_eq hown hitem).2
    exact ⟨hkey, hrow item ((Loop.mem_collect hitems).mpr ⟨e, he, own, hown, hitem⟩) e.key hkey⟩
  · intro k hk
    refine hframe k fun item hitem heq => ?_
    obtain ⟨e, he, own, hown, hmem⟩ := hfind item hitem
    refine hk e he own hown (List.ne_nil_of_mem hmem) ?_
    exact Except.ok.inj ((hf.parseCid_eq hown hmem).2.symm.trans heq)

end phases

/-- **The custom IDs lose nothing.** They are parsed back and determine their requests, also as record
IDs; so in every phase the IDs are distinct, and what phases 3 and 4 write back lands on the reference
whose request it answers. -/
theorem custom_ids_lossless :
    (∀ c r (s : RefStep), parseCid (cid c r s.tag) = .ok ((c : ℤ), (r : ℤ))) ∧
    (∀ c r c' r' (s s' : RefStep), cid c r s.tag = cid c' r' s'.tag →
      c = c' ∧ r = r' ∧ s.tag = s'.tag) ∧
    (∀ id id' : PipelineId, id ≠ id' →
      sanitizeRecordId id.customId ≠ sanitizeRecordId id'.customId) ∧
    ∀ (env : Env) (backend : Backend) (candidates : List CandidateBatchInput)
      (invalidRefs : Dict RefKey String),
      DistinctIds ((refEntries candidates).flatMap (phase1ItemsOf env backend invalidRefs)) ∧
      (∀ items, Loop.collect (phase3ItemsOf backend invalidRefs) (refEntries candidates) = .ok items →
        DistinctIds items) ∧
      (∀ t items, Loop.collect (phase4ItemsOf env backend invalidRefs t) (refEntries candidates) =
        .ok items → DistinctIds items) ∧
      (∀ t scores items, Loop.collect (phase6ItemsOf env backend invalidRefs t scores)
        (refEntries candidates) = .ok items → DistinctIds items) ∧
      (∀ byCandidate verdicts items,
        candidates.zipIdx.mapM (phase8Item env backend byCandidate verdicts) = .ok items →
          DistinctIds items) ∧
      (∀ results, WritesBack candidates (phase3ItemsOf backend invalidRefs) (phase3Step results)
        fun r item => r.withSentiment (results.value? .sentimentAndRedFlags item.customId)) ∧
      ∀ t results, WritesBack candidates (phase4ItemsOf env backend invalidRefs t)
        (phase4Step results) fun r item =>
          r.withNotes (results.value? .discrepancyNotes item.customId) := by
  refine ⟨fun c r s => parseCid_cid c r s.colon_not_mem_tag, fun c r c' r' s s' => cid_inj,
    fun id id' hne h => hne (sanitizeRecordId_inj h), ?_⟩
  intro env backend candidates invalidRefs
  refine ⟨?_, ?_, ?_, ?_, ?_, ?_, ?_⟩
  · exact distinctIds_collect phase1ItemsOf_itemsOf (by decide)
      (Loop.collect_eq_ok fun _ _ => rfl)
  · exact fun items h => distinctIds_collect phase3ItemsOf_itemsOf (List.nodup_singleton _) h
  · exact fun t items h => distinctIds_collect phase4ItemsOf_itemsOf (List.nodup_singleton _) h
  · exact fun t scores items h => distinctIds_collect phase6ItemsOf_itemsOf (List.nodup_singleton _) h
  · exact fun byCandidate verdicts items h => distinctIds_phase8 h
  · exact fun results => writesBack phase3ItemsOf_itemsOf (writesAt_phase3 results)
  · exact fun t results => writesBack phase4ItemsOf_itemsOf (writesAt_phase4 results)

end RefCheck
