import Mathlib.Data.List.Forall2

/-!
# Loops that may raise, over keyed entries

The loops here run in `Except ε`. `collect` appends the lists that the entries of a loop
contribute. `RowLocal` describes a loop body that reads and writes a shared state only at the key
of the entry it is given: then the state at a key `k` after the loop is what the entries of key `k`
alone make of the state at `k` before it (`RowLocal.run`), and the loop returns as soon as the
entries of every key, taken alone, do (`RowLocal.exists_run`). The usual case is that of entries
with distinct keys (`RowLocal.run_of_nodup`, `RowLocal.exists_run_of_nodup`), and the usual body
computes from its row what to write there (`RowWrites.run`, `RowWrites.exists_run`).
-/

namespace RefCheck

variable {ε α β : Type}

theorem Except.ok_bind (a : α) (f : α → Except ε β) : (.ok a >>= f) = f a := rfl

@[simp] theorem Except.error_bind (e : ε) (f : α → Except ε β) : (.error e >>= f) = .error e := rfl

theorem Except.bind_eq_ok {x : Except ε α} {f : α → Except ε β} {b : β} :
    (x >>= f) = .ok b ↔ ∃ a, x = .ok a ∧ f a = .ok b := by
  cases x with
  | error e => simp [bind, Except.bind]
  | ok a => simp [bind, Except.bind]

theorem Except.bind_eq_error {x : Except ε α} {f : α → Except ε β} {e : ε} :
    (x >>= f) = .error e ↔ x = .error e ∨ ∃ a, x = .ok a ∧ f a = .error e := by
  cases x with
  | error e' => simp [bind, Except.bind]
  | ok a => simp [bind, Except.bind]

theorem Except.bind_congr {x : Except ε α} {f g : α → Except ε β} (h : ∀ a, x = .ok a → f a = g a) :
    (x >>= f) = (x >>= g) := by
  cases x with
  | error e => rfl
  | ok a => exact h a rfl

theorem Except.map_eq_ok {x : Except ε α} {f : α → β} {b : β} :
    f <$> x = .ok b ↔ ∃ a, x = .ok a ∧ f a = b := by
  cases x with
  | error e => simp [Functor.map, Except.map]
  | ok a => simp [Functor.map, Except.map]

theorem Except.pure_eq_ok {a b : α} : (pure a : Except ε α) = .ok b ↔ a = b := by
  simp [pure, Except.pure]

namespace Loop

variable {E I : Type}

/-- The lists that the entries contribute, in order; the first entry that raises ends the loop. -/
def collect (f : E → Except ε (List I)) : List E → Except ε (List I)
  | [] => .ok []
  | e :: es => do
    let items ← f e
    let rest ← collect f es
    return items ++ rest

theorem collect_eq_ok {f : E → Except ε (List I)} {g : E → List I} {es : List E}
    (h : ∀ e ∈ es, f e = .ok (g e)) : collect f es = .ok (es.flatMap g) := by
  induction es with
  | nil => rfl
  | cons e es ih =>
    rw [collect, h e (by simp), ih (fun e' he' => h e' (by simp [he']))]
    rfl

theorem mem_collect {f : E → Except ε (List I)} {es : List E} {items : List I}
    (h : collect f es = .ok items) {i : I} :
    i ∈ items ↔ ∃ e ∈ es, ∃ own, f e = .ok own ∧ i ∈ own := by
  induction es generalizing items with
  | nil =>
    cases h
    simp
  | cons e es ih =>
    obtain ⟨own, hown, h⟩ := Except.bind_eq_ok.mp h
    obtain ⟨rest, hrest, h⟩ := Except.bind_eq_ok.mp h
    obtain rfl := Except.pure_eq_ok.mp h
    rw [List.mem_append, ih hrest]
    simp only [List.mem_cons, or_and_right, exists_or, exists_eq_left, hown, Except.ok.injEq,
      exists_eq_left']

theorem mapM_eq_ok_iff {f : E → Except ε I} {es : List E} {items : List I} :
    es.mapM f = .ok items ↔ List.Forall₂ (fun e i => f e = .ok i) es items := by
  induction es generalizing items with
  | nil =>
    rw [List.mapM_nil, Except.pure_eq_ok, List.forall₂_nil_left_iff, eq_comm]
  | cons e es ih =>
    rw [List.mapM_cons, Except.bind_eq_ok, List.forall₂_cons_left_iff]
    constructor
    · rintro ⟨i, hi, h⟩
      obtain ⟨rest, hrest, h⟩ := Except.bind_eq_ok.mp h
      exact ⟨i, rest, hi, ih.mp hrest, (Except.pure_eq_ok.mp h).symm⟩
    · rintro ⟨i, rest, hi, hrest, rfl⟩
      refine ⟨i, hi, ?_⟩
      rw [ih.mpr hrest]
      rfl

theorem exists_of_mem_mapM {f : E → Except ε I} {es : List E} {items : List I}
    (h : es.mapM f = .ok items) {i : I} (hi : i ∈ items) : ∃ e ∈ es, f e = .ok i := by
  induction mapM_eq_ok_iff.mp h with
  | nil => cases hi
  | cons he _ ih =>
    rcases List.mem_cons.mp hi with rfl | hi
    · exact ⟨_, List.mem_cons_self, he⟩
    · obtain ⟨e, hmem, he⟩ := ih (mapM_eq_ok_iff.mpr ‹_›) hi
      exact ⟨e, List.mem_cons_of_mem _ hmem, he⟩

theorem mapM_eq_ok {f : E → Except ε I} {g : E → I} {es : List E} (h : ∀ e ∈ es, f e = .ok (g e)) :
    es.mapM f = .ok (es.map g) := by
  rw [mapM_eq_ok_iff, List.forall₂_map_right_iff, List.forall₂_same]
  exact h

theorem exists_mapM_eq_ok_iff {f : E → Except ε I} {es : List E} :
    (∃ items, es.mapM f = .ok items) ↔ ∀ e ∈ es, ∃ i, f e = .ok i := by
  simp only [mapM_eq_ok_iff]
  induction es with
  | nil => simp
  | cons e es ih =>
    rw [List.forall_mem_cons, ← ih]
    constructor
    · rintro ⟨items, h⟩
      obtain ⟨i, rest, hi, hrest, -⟩ := List.forall₂_cons_left_iff.mp h
      exact ⟨⟨i, hi⟩, rest, hrest⟩
    · rintro ⟨⟨i, hi⟩, rest, hrest⟩
      exact ⟨i :: rest, .cons hi hrest⟩

theorem foldlM_eq_ok {S : Type} {step : S → E → Except ε S} {f : S → E → S} {es : List E}
    (h : ∀ e ∈ es, ∀ s, step s e = .ok (f s e)) (s : S) : es.foldlM step s = .ok (es.foldl f s) := by
  induction es generalizing s with
  | nil => rfl
  | cons e es ih =>
    rw [List.foldlM_cons, h e List.mem_cons_self, List.foldl_cons]
    exact ih (fun e' he' => h e' (List.mem_cons_of_mem _ he')) _

/-- A loop that computes something of each entry alone, and puts it into the state, may compute first. -/
theorem foldlM_eq_map_mapM {S : Type} {step : S → E → Except ε S} {f : E → Except ε I}
    {put : S → I → S} (h : ∀ s e, step s e = put s <$> f e) (es : List E) (s : S) :
    es.foldlM step s = (fun items => items.foldl put s) <$> es.mapM f := by
  induction es generalizing s with
  | nil => rfl
  | cons e es ih =>
    rw [List.foldlM_cons, h, List.mapM_cons]
    cases f e with
    | error error => rfl
    | ok item =>
      change es.foldlM step (put s item) = _
      rw [ih]
      cases es.mapM f <;> rfl

theorem forM_eq_ok_iff {f : E → Except ε Unit} {es : List E} :
    forM es f = .ok () ↔ ∀ e ∈ es, f e = .ok () := by
  induction es with
  | nil => simp [pure, Except.pure]
  | cons e es ih =>
    rw [List.forM_cons, Except.bind_eq_ok, List.forall_mem_cons, ← ih]
    constructor
    · rintro ⟨u, hu, hrest⟩
      exact ⟨hu, hrest⟩
    · rintro ⟨he, hrest⟩
      exact ⟨(), he, hrest⟩

theorem exists_of_forM_eq_error {f : E → Except ε Unit} {es : List E} {e : ε}
    (h : forM es f = .error e) : ∃ entry ∈ es, f entry = .error e := by
  induction es with
  | nil => cases h
  | cons entry es ih =>
    rw [List.forM_cons] at h
    rcases Except.bind_eq_error.mp h with hentry | ⟨-, -, hrest⟩
    · exact ⟨entry, List.mem_cons_self, hentry⟩
    · obtain ⟨other, hother, herror⟩ := ih hrest
      exact ⟨other, List.mem_cons_of_mem _ hother, herror⟩

/-! ### Row-local loops -/

section RowLocal

variable {S K R : Type} [DecidableEq K]

/-- `view s k` is the part of the state `s` that belongs to the key `k`. A body is local when on an
entry `e` it does to the row of `key e` what `row e` says, raises only if `row e` does, and leaves
every other row as it is. -/
structure RowLocal (view : S → K → R) (key : E → K) (row : R → E → Except ε R)
    (step : S → E → Except ε S) : Prop where
  own : ∀ {s e s'}, step s e = .ok s' → row (view s (key e)) e = .ok (view s' (key e))
  frame : ∀ {s e s'}, step s e = .ok s' → ∀ k, k ≠ key e → view s' k = view s k
  returns : ∀ {s e r}, row (view s (key e)) e = .ok r → ∃ s', step s e = .ok s'

variable {view : S → K → R} {key : E → K} {row : R → E → Except ε R} {step : S → E → Except ε S}

theorem RowLocal.view_step (hl : RowLocal view key row step) {s s' : S} {e : E}
    (h : step s e = .ok s') (k : K) :
    ([e].filter (fun e => key e = k)).foldlM row (view s k) = .ok (view s' k) := by
  by_cases hk : key e = k
  · subst hk
    simp only [decide_true, List.filter_cons_of_pos, List.filter_nil, List.foldlM_cons,
      List.foldlM_nil, hl.own h]
    rfl
  · simp only [hk, decide_false, Bool.false_eq_true, not_false_eq_true, List.filter_cons_of_neg,
      List.filter_nil, List.foldlM_nil, hl.frame h k (Ne.symm hk)]
    rfl

/-- A run of a local loop moves the row of `k` by the entries of key `k` alone. -/
theorem RowLocal.run (hl : RowLocal view key row step) {es : List E} {s s' : S}
    (h : es.foldlM step s = .ok s') (k : K) :
    (es.filter (fun e => key e = k)).foldlM row (view s k) = .ok (view s' k) := by
  induction es generalizing s with
  | nil =>
    rw [List.foldlM_nil, Except.pure_eq_ok] at h
    subst h
    rfl
  | cons e es ih =>
    rw [List.foldlM_cons, Except.bind_eq_ok] at h
    obtain ⟨mid, hmid, h⟩ := h
    have hsplit : (e :: es).filter (fun e => key e = k) =
        [e].filter (fun e => key e = k) ++ es.filter (fun e => key e = k) := by
      rw [← List.filter_append]
      rfl
    rw [hsplit, List.foldlM_append, hl.view_step hmid k]
    exact ih h

theorem RowLocal.exists_run (hl : RowLocal view key row step) {es : List E} {s : S}
    (h : ∀ k, ∃ r, (es.filter (fun e => key e = k)).foldlM row (view s k) = .ok r) :
    ∃ s', es.foldlM step s = .ok s' := by
  induction es generalizing s with
  | nil => exact ⟨s, rfl⟩
  | cons e es ih =>
    obtain ⟨r, hr⟩ := h (key e)
    rw [List.filter_cons_of_pos (by simp), List.foldlM_cons, Except.bind_eq_ok] at hr
    obtain ⟨mid, hmid, -⟩ := hr
    obtain ⟨s₁, hs₁⟩ := hl.returns hmid
    obtain ⟨s', hs'⟩ := ih (s := s₁) (fun k => by
      obtain ⟨r, hr⟩ := h k
      by_cases hk : key e = k
      · subst hk
        rw [List.filter_cons_of_pos (by simp), List.foldlM_cons, Except.bind_eq_ok] at hr
        obtain ⟨mid', hmid', hr⟩ := hr
        rw [hl.own hs₁, Except.ok.injEq] at hmid'
        subst hmid'
        exact ⟨r, hr⟩
      · rw [List.filter_cons_of_neg (by simp [hk])] at hr
        rw [hl.frame hs₁ k (Ne.symm hk)]
        exact ⟨r, hr⟩)
    refine ⟨s', ?_⟩
    rw [List.foldlM_cons, hs₁]
    exact hs'

theorem filter_key_eq_singleton {es : List E} (hkeys : (es.map key).Nodup) {e : E} (he : e ∈ es) :
    es.filter (fun e' => key e' = key e) = [e] := by
  induction es with
  | nil => cases he
  | cons e' es ih =>
    rw [List.map_cons, List.nodup_cons] at hkeys
    rcases List.mem_cons.mp he with rfl | hmem
    · have hnone : es.filter (fun e' => key e' = key e) = [] := by
        rw [List.filter_eq_nil_iff]
        intro e' he' heq
        exact hkeys.1 (List.mem_map.mpr ⟨e', he', of_decide_eq_true heq⟩)
      rw [List.filter_cons_of_pos (by simp), hnone]
    · have hne : key e' ≠ key e := fun heq => hkeys.1 (List.mem_map.mpr ⟨e, hmem, heq.symm⟩)
      rw [List.filter_cons_of_neg (by simp [hne]), ih hkeys.2 hmem]

/-- When the keys are distinct, a run does to the row of each entry what that entry says, and
leaves the rows of all other keys. -/
theorem RowLocal.run_of_nodup (hl : RowLocal view key row step) {es : List E} {s s' : S}
    (hkeys : (es.map key).Nodup) (h : es.foldlM step s = .ok s') :
    (∀ e ∈ es, row (view s (key e)) e = .ok (view s' (key e))) ∧
      ∀ k, k ∉ es.map key → view s' k = view s k := by
  constructor
  · intro e he
    have hrun := hl.run h (key e)
    rw [filter_key_eq_singleton hkeys he, List.foldlM_cons, Except.bind_eq_ok] at hrun
    obtain ⟨r, hr, hnil⟩ := hrun
    rw [List.foldlM_nil, Except.pure_eq_ok] at hnil
    rw [hr, hnil]
  · intro k hk
    have hrun := hl.run h k
    have hnone : es.filter (fun e => key e = k) = [] := by
      rw [List.filter_eq_nil_iff]
      intro e he heq
      exact hk (List.mem_map.mpr ⟨e, he, of_decide_eq_true heq⟩)
    rw [hnone, List.foldlM_nil, Except.pure_eq_ok] at hrun
    exact hrun.symm

theorem RowLocal.exists_run_of_nodup (hl : RowLocal view key row step) {es : List E} {s : S}
    (hkeys : (es.map key).Nodup) (h : ∀ e ∈ es, ∃ r, row (view s (key e)) e = .ok r) :
    ∃ s', es.foldlM step s = .ok s' := by
  refine hl.exists_run (fun k => ?_)
  by_cases hk : ∃ e ∈ es, key e = k
  · obtain ⟨e, he, rfl⟩ := hk
    obtain ⟨r, hr⟩ := h e he
    refine ⟨r, ?_⟩
    rw [filter_key_eq_singleton hkeys he, List.foldlM_cons, hr]
    rfl
  · have hnone : es.filter (fun e => key e = k) = [] := by
      rw [List.filter_eq_nil_iff]
      intro e he heq
      exact hk ⟨e, he, of_decide_eq_true heq⟩
    exact ⟨view s k, by rw [hnone]; rfl⟩

end RowLocal

/-! ### Loops that write one row -/

section RowWrites

variable {S K R W : Type} [DecidableEq K]

/-- Writing `w` at a key changes the row of that key to what `put` says, and no other. -/
structure RowWrites (view : S → K → R) (write : S → K → W → S) (put : R → W → R) : Prop where
  own : ∀ s k w, view (write s k w) k = put (view s k) w
  frame : ∀ s k w k', k' ≠ k → view (write s k w) k' = view s k'

/-- The row after a write, if there is one. -/
def putRow (put : R → W → R) (r : R) : Option W → R
  | some w => put r w
  | none => r

/-- A loop body that reads the row of its entry and writes there, or nowhere. -/
def rowStep (view : S → K → R) (write : S → K → W → S) (key : E → K)
    (effect : R → E → Except ε (Option W)) (s : S) (e : E) : Except ε S := do
  match ← effect (view s (key e)) e with
  | some w => return write s (key e) w
  | none => return s

variable {view : S → K → R} {write : S → K → W → S} {put : R → W → R} {key : E → K}
  {effect : R → E → Except ε (Option W)}

omit [DecidableEq K] in
theorem rowStep_eq_ok {s s' : S} {e : E} (h : rowStep view write key effect s e = .ok s') :
    ∃ o, effect (view s (key e)) e = .ok o ∧ s' = (match o with
      | some w => write s (key e) w
      | none => s) := by
  obtain ⟨o, ho, h⟩ := Except.bind_eq_ok.mp h
  refine ⟨o, ho, ?_⟩
  cases o with
  | none => exact (Except.pure_eq_ok.mp h).symm
  | some w => exact (Except.pure_eq_ok.mp h).symm

omit [DecidableEq K] in
theorem RowWrites.rowLocal (hw : RowWrites view write put) :
    RowLocal view key (fun r e => putRow put r <$> effect r e) (rowStep view write key effect) where
  own := by
    intro s e s' h
    obtain ⟨o, ho, rfl⟩ := rowStep_eq_ok h
    rw [ho]
    cases o with
    | none => rfl
    | some w =>
      dsimp only
      rw [hw.own]
      rfl
  frame := by
    intro s e s' h k hk
    obtain ⟨o, -, rfl⟩ := rowStep_eq_ok h
    cases o with
    | none => rfl
    | some w => exact hw.frame s (key e) w k hk
  returns := by
    intro s e r h
    obtain ⟨o, ho, -⟩ := Except.map_eq_ok.mp h
    unfold rowStep
    rw [ho]
    cases o with
    | none => exact ⟨s, rfl⟩
    | some w => exact ⟨write s (key e) w, rfl⟩

theorem RowWrites.run (hw : RowWrites view write put) {es : List E} {s s' : S}
    (hkeys : (es.map key).Nodup) (h : es.foldlM (rowStep view write key effect) s = .ok s') :
    (∀ e ∈ es, ∃ o, effect (view s (key e)) e = .ok o ∧
        view s' (key e) = putRow put (view s (key e)) o) ∧
      ∀ k, k ∉ es.map key → view s' k = view s k := by
  obtain ⟨hown, hframe⟩ := hw.rowLocal.run_of_nodup hkeys h
  refine ⟨fun e he => ?_, hframe⟩
  obtain ⟨o, ho, hrow⟩ := Except.map_eq_ok.mp (hown e he)
  exact ⟨o, ho, hrow.symm⟩

theorem RowWrites.exists_run (hw : RowWrites view write put) {es : List E} {s : S} {o : E → Option W}
    (hkeys : (es.map key).Nodup) (h : ∀ e ∈ es, effect (view s (key e)) e = .ok (o e)) :
    ∃ s', es.foldlM (rowStep view write key effect) s = .ok s' ∧
      (∀ e ∈ es, view s' (key e) = putRow put (view s (key e)) (o e)) ∧
      ∀ k, k ∉ es.map key → view s' k = view s k := by
  have hl : RowLocal view key (fun r e => putRow put r <$> effect r e)
    (rowStep view write key effect) := hw.rowLocal
  obtain ⟨s', hs'⟩ := hl.exists_run_of_nodup hkeys
    (fun e he => ⟨putRow put (view s (key e)) (o e), Except.map_eq_ok.mpr ⟨o e, h e he, rfl⟩⟩)
  obtain ⟨hown, hframe⟩ := hw.run hkeys hs'
  refine ⟨s', hs', fun e he => ?_, hframe⟩
  obtain ⟨o', ho', hrow⟩ := hown e he
  rw [h e he, Except.ok.injEq] at ho'
  rw [hrow, ho']

end RowWrites

end Loop

end RefCheck
