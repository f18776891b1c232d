import Mathlib.Data.List.Basic
import Mathlib.Data.List.Nodup
import RefCheck.Lib.Loop

/-!
# Insertion-ordered dictionaries

`Dict K V` is a list of entries with pairwise distinct keys, in the order in which the keys were
first inserted. `set` overwrites the value of a key in place and appends a new key at the end,
`ofPairs` inserts a list of pairs from left to right, so that the last pair of a key decides its
value (`get?_ofPairs`) while the first one decides its position.
-/

namespace RefCheck

/-- A dictionary: entries with distinct keys, in insertion order. -/
structure Dict (K V : Type) where
  entries : List (K × V)
  nodup : (entries.map Prod.fst).Nodup

namespace Dict

variable {K V : Type}

/-- The dictionary without entries. -/
def empty : Dict K V := ⟨[], List.nodup_nil⟩

instance : Inhabited (Dict K V) := ⟨empty⟩

def keys (d : Dict K V) : List K := d.entries.map Prod.fst

def values (d : Dict K V) : List V := d.entries.map Prod.snd

variable [DecidableEq K]

/-- The entries after storing `v` under `k`. -/
def setEntries (k : K) (v : V) : List (K × V) → List (K × V)
  | [] => [(k, v)]
  | e :: es => if e.1 = k then (k, v) :: es else e :: setEntries k v es

theorem map_fst_setEntries (k : K) (v : V) (es : List (K × V)) :
    (setEntries k v es).map Prod.fst =
      if k ∈ es.map Prod.fst then es.map Prod.fst else es.map Prod.fst ++ [k] := by
  induction es with
  | nil => simp [setEntries]
  | cons e es ih =>
    rw [setEntries]
    by_cases he : e.1 = k
    · simp [he]
    · rw [if_neg he, List.map_cons, ih]
      have hmem : k ∈ (e :: es).map Prod.fst ↔ k ∈ es.map Prod.fst := by
        simp [Ne.symm he]
      by_cases hk : k ∈ es.map Prod.fst
      · rw [if_pos hk, if_pos (hmem.mpr hk), List.map_cons]
      · rw [if_neg hk, if_neg (fun h => hk (hmem.mp h)), List.map_cons, List.cons_append]

/-- Stores `v` under `k`: in place when `k` is present, at the end otherwise. -/
def set (d : Dict K V) (k : K) (v : V) : Dict K V where
  entries := setEntries k v d.entries
  nodup := by
    rw [map_fst_setEntries]
    split
    · exact d.nodup
    · rename_i hk
      refine List.Nodup.append d.nodup (List.nodup_singleton k) ?_
      intro x hx hx'
      rw [List.mem_singleton] at hx'
      exact hk (hx' ▸ hx)

/-- The value of a key, if it is present. -/
def get? (d : Dict K V) (k : K) : Option V := d.entries.lookup k

def getD (d : Dict K V) (k : K) (default : V) : V := (d.get? k).getD default

/-- Whether a key is present. -/
def contains (d : Dict K V) (k : K) : Bool := (d.get? k).isSome

/-- Inserts the pairs from left to right. -/
def ofPairs (pairs : List (K × V)) : Dict K V := pairs.foldl (fun d p => d.set p.1 p.2) empty

@[simp] theorem get?_empty (k : K) : (empty : Dict K V).get? k = none := rfl

theorem lookup_cons_eq_ite (k k₀ : K) (v₀ : V) (es : List (K × V)) :
    List.lookup k ((k₀, v₀) :: es) = if k = k₀ then some v₀ else es.lookup k := by
  rw [List.lookup_cons]
  split
  · rename_i h
    rw [if_pos (beq_iff_eq.mp h)]
  · rename_i h
    rw [if_neg (fun he => by simp [he] at h)]

theorem lookup_setEntries (k k' : K) (v : V) (es : List (K × V)) :
    (setEntries k v es).lookup k' = if k' = k then some v else es.lookup k' := by
  induction es with
  | nil => rw [setEntries, lookup_cons_eq_ite]
  | cons e es ih =>
    obtain ⟨k₀, v₀⟩ := e
    rw [setEntries]
    by_cases h₀ : k₀ = k
    · subst h₀
      rw [if_pos rfl, lookup_cons_eq_ite, lookup_cons_eq_ite]
      split <;> rfl
    · rw [if_neg h₀, lookup_cons_eq_ite, lookup_cons_eq_ite, ih]
      by_cases h : k' = k₀
      · rw [if_pos h, if_pos h, if_neg (fun hk => h₀ (h.symm.trans hk))]
      · rw [if_neg h, if_neg h]

theorem get?_set (d : Dict K V) (k k' : K) (v : V) :
    (d.set k v).get? k' = if k' = k then some v else d.get? k' :=
  lookup_setEntries k k' v d.entries

@[simp] theorem get?_set_self (d : Dict K V) (k : K) (v : V) : (d.set k v).get? k = some v := by
  rw [get?_set, if_pos rfl]

theorem get?_set_of_ne (d : Dict K V) {k k' : K} (v : V) (h : k' ≠ k) :
    (d.set k v).get? k' = d.get? k' := by
  rw [get?_set, if_neg h]

theorem keys_set (d : Dict K V) (k : K) (v : V) :
    (d.set k v).keys = if k ∈ d.keys then d.keys else d.keys ++ [k] :=
  map_fst_setEntries k v d.entries

theorem mem_keys_set (d : Dict K V) (k k' : K) (v : V) :
    k' ∈ (d.set k v).keys ↔ k' = k ∨ k' ∈ d.keys := by
  rw [keys_set]
  split
  · rename_i hk
    constructor
    · exact Or.inr
    · rintro (rfl | h)
      · exact hk
      · exact h
  · rw [List.mem_append, List.mem_singleton, or_comm]

theorem mem_iff_lookup {es : List (K × V)} (hnodup : (es.map Prod.fst).Nodup) (k : K) (v : V) :
    (k, v) ∈ es ↔ es.lookup k = some v := by
  induction es with
  | nil => simp
  | cons e es ih =>
    obtain ⟨k₀, v₀⟩ := e
    rw [List.map_cons, List.nodup_cons] at hnodup
    rw [List.mem_cons, ih hnodup.2, lookup_cons_eq_ite]
    by_cases h : k = k₀
    · subst h
      have hnone : es.lookup k ≠ some v := by
        intro hv
        exact hnodup.1 (List.mem_map.mpr ⟨(k, v), (ih hnodup.2).mpr hv, rfl⟩)
      simp [hnone, eq_comm]
    · simp [h]

theorem mem_entries_iff (d : Dict K V) (k : K) (v : V) :
    (k, v) ∈ d.entries ↔ d.get? k = some v :=
  mem_iff_lookup d.nodup k v

theorem mem_values_iff (d : Dict K V) (v : V) : v ∈ d.values ↔ ∃ k, d.get? k = some v := by
  rw [values, List.mem_map]
  constructor
  · rintro ⟨⟨k, w⟩, hmem, rfl⟩
    exact ⟨k, (d.mem_entries_iff k w).mp hmem⟩
  · rintro ⟨k, hk⟩
    exact ⟨(k, v), (d.mem_entries_iff k v).mpr hk, rfl⟩

theorem mem_keys_iff (d : Dict K V) (k : K) : k ∈ d.keys ↔ ∃ v, d.get? k = some v := by
  rw [keys, List.mem_map]
  constructor
  · rintro ⟨⟨k', w⟩, hmem, rfl⟩
    exact ⟨w, (d.mem_entries_iff k' w).mp hmem⟩
  · rintro ⟨v, hv⟩
    exact ⟨(k, v), (d.mem_entries_iff k v).mpr hv, rfl⟩

theorem foldl_set_get? (pairs : List (K × V)) (d : Dict K V) (k : K) :
    (pairs.foldl (fun d p => d.set p.1 p.2) d).get? k =
      ((pairs.filter (fun p => p.1 = k)).getLast?.map Prod.snd).or (d.get? k) := by
  induction pairs generalizing d with
  | nil => simp
  | cons p pairs ih =>
    rw [List.foldl_cons, ih, get?_set, List.filter_cons]
    by_cases h : p.1 = k
    · rw [if_pos h.symm, if_pos (by simp [h]), List.getLast?_cons]
      cases (pairs.filter (fun p => p.1 = k)).getLast? <;> simp
    · rw [if_neg (Ne.symm h), if_neg (by simp [h])]

/-- The last pair of a key decides its value. -/
theorem get?_ofPairs (pairs : List (K × V)) (k : K) :
    (ofPairs pairs).get? k = (pairs.filter (fun p => p.1 = k)).getLast?.map Prod.snd := by
  rw [ofPairs, foldl_set_get?, get?_empty, Option.or_none]

theorem mem_keys_ofPairs (pairs : List (K × V)) (k : K) :
    k ∈ (ofPairs pairs).keys ↔ k ∈ pairs.map Prod.fst := by
  rw [mem_keys_iff, get?_ofPairs, List.mem_map]
  constructor
  · rintro ⟨v, hv⟩
    obtain ⟨p, hp, -⟩ := Option.map_eq_some_iff.mp hv
    have hmem := List.mem_filter.mp (List.mem_of_getLast? hp)
    exact ⟨p, hmem.1, of_decide_eq_true hmem.2⟩
  · rintro ⟨p, hp, rfl⟩
    have hne : pairs.filter (fun q => q.1 = p.1) ≠ [] := by
      intro h
      have := List.filter_eq_nil_iff.mp h p hp
      simp at this
    exact ⟨_, by rw [List.getLast?_eq_some_getLast hne, Option.map_some]⟩

theorem setEntries_of_not_mem {k : K} {es : List (K × V)} (v : V) (h : k ∉ es.map Prod.fst) :
    setEntries k v es = es ++ [(k, v)] := by
  induction es with
  | nil => rfl
  | cons e es ih =>
    rw [List.map_cons, List.mem_cons, not_or] at h
    rw [setEntries, if_neg (Ne.symm h.1), ih h.2, List.cons_append]

theorem entries_ofPairs {pairs : List (K × V)} (hnodup : (pairs.map Prod.fst).Nodup) :
    (ofPairs pairs).entries = pairs := by
  have hfold : ∀ d : Dict K V, (d.entries.map Prod.fst ++ pairs.map Prod.fst).Nodup →
      (pairs.foldl (fun d p => d.set p.1 p.2) d).entries = d.entries ++ pairs := by
    clear hnodup
    induction pairs with
    | nil => simp
    | cons p pairs ih =>
      intro d hd
      have hp : p.1 ∉ d.entries.map Prod.fst := by
        intro hmem
        exact List.disjoint_of_nodup_append hd hmem List.mem_cons_self
      have hset : (d.set p.1 p.2).entries = d.entries ++ [p] := setEntries_of_not_mem p.2 hp
      rw [List.foldl_cons, ih (d.set p.1 p.2), hset, List.append_assoc, List.singleton_append]
      rw [hset, List.map_append, List.append_assoc]
      exact hd
  exact hfold empty hnodup

/-! ### Collecting and merging -/

/-- Of a loop that stores a pair for some of the records: the last record that is for a key decides its
value. -/
theorem get?_ofPairs_filterMap {R : Type} {pair? : R → Option (K × V)} {k : K} (mine : R → Prop)
    [DecidablePred mine] (make : R → V) (hmine : ∀ r, mine r → pair? r = some (k, make r))
    (hother : ∀ r p, ¬ mine r → pair? r = some p → p.1 ≠ k) (records : List R) :
    (ofPairs (records.filterMap pair?)).get? k = ((records.filter mine).map make).getLast? := by
  have hfilter : (records.filterMap pair?).filter (fun p => p.1 = k) =
      (records.filter mine).map fun r => (k, make r) := by
    induction records with
    | nil => rfl
    | cons r records ih =>
      by_cases hr : mine r
      · rw [List.filterMap_cons_some (hmine r hr), List.filter_cons_of_pos (by simp),
          List.filter_cons_of_pos (by simpa using hr), List.map_cons, ih]
      · rw [List.filter_cons_of_neg (by simpa using hr), ← ih]
        cases hpair : pair? r with
        | none => rw [List.filterMap_cons_none hpair]
        | some p =>
          rw [List.filterMap_cons_some hpair,
            List.filter_cons_of_neg (by simpa using hother r p hr hpair)]
  rw [get?_ofPairs, hfilter, List.getLast?_map, List.getLast?_map, Option.map_map]
  rfl

/-- `{k: v for k, v in d.items() if p(v)}`. -/
def filterValues (p : V → Bool) (d : Dict K V) : Dict K V where
  entries := d.entries.filter fun e => p e.2
  nodup := d.nodup.sublist (List.filter_sublist.map _)

theorem get?_filterValues (p : V → Bool) (d : Dict K V) (k : K) :
    (d.filterValues p).get? k = (d.get? k).filter p := by
  refine Option.ext fun v => ?_
  rw [← mem_entries_iff, Option.filter_eq_some_iff, ← mem_entries_iff]
  exact List.mem_filter

/-- `{k: v for k, v in d.items() if p(k)}`. -/
def filterKeys (p : K → Bool) (d : Dict K V) : Dict K V where
  entries := d.entries.filter fun e => p e.1
  nodup := d.nodup.sublist (List.filter_sublist.map _)

theorem get?_filterKeys (p : K → Bool) (d : Dict K V) (k : K) :
    (d.filterKeys p).get? k = if p k then d.get? k else none := by
  refine Option.ext fun v => ?_
  rw [← mem_entries_iff]
  refine List.mem_filter.trans ?_
  rw [mem_entries_iff]
  cases p k <;> simp

theorem filter_setEntries (p : K → Bool) (k : K) (v : V) (es : List (K × V)) :
    (setEntries k v es).filter (fun e => p e.1) =
      if p k then setEntries k v (es.filter fun e => p e.1) else es.filter fun e => p e.1 := by
  induction es with
  | nil => cases hk : p k <;> simp [setEntries, hk]
  | cons e es ih =>
    rw [setEntries]
    by_cases he : e.1 = k
    · subst he
      rw [if_pos rfl]
      cases hk : p e.1 <;> simp [setEntries, hk]
    · rw [if_neg he, List.filter_cons, List.filter_cons, ih]
      cases hk : p k <;> cases hkey : p e.1 <;> simp [setEntries, he]

theorem filterKeys_set (p : K → Bool) (d : Dict K V) (k : K) (v : V) :
    (d.set k v).filterKeys p = if p k then (d.filterKeys p).set k v else d.filterKeys p := by
  have hentries := filter_setEntries p k v d.entries
  cases hk : p k with
  | true =>
    rw [hk, if_pos rfl] at hentries
    rw [if_pos rfl]
    unfold filterKeys set
    simp only [hentries]
  | false =>
    rw [hk, if_neg Bool.false_ne_true] at hentries
    rw [if_neg Bool.false_ne_true]
    unfold filterKeys set
    simp only [hentries]

theorem get?_ofPairs_of_mem {pairs : List (K × V)} (hnodup : (pairs.map Prod.fst).Nodup) {k : K}
    {v : V} (h : (k, v) ∈ pairs) : (ofPairs pairs).get? k = some v := by
  rw [get?_ofPairs, Loop.filter_key_eq_singleton hnodup h]
  rfl

theorem mem_of_get?_ofPairs {pairs : List (K × V)} {k : K} {v : V}
    (h : (ofPairs pairs).get? k = some v) : (k, v) ∈ pairs := by
  rw [get?_ofPairs] at h
  obtain ⟨p, hp, rfl⟩ := Option.map_eq_some_iff.mp h
  obtain ⟨hmem, hkey⟩ := List.mem_filter.mp (List.mem_of_getLast? hp)
  rw [← of_decide_eq_true hkey]
  exact hmem

/-- `d.update(d')`. -/
def update (d d' : Dict K V) : Dict K V := d'.entries.foldl (fun d p => d.set p.1 p.2) d

theorem getLast?_filter_eq_lookup {es : List (K × V)} (hnodup : (es.map Prod.fst).Nodup) (k : K) :
    (es.filter (fun p => p.1 = k)).getLast?.map Prod.snd = es.lookup k := by
  induction es with
  | nil => rfl
  | cons e es ih =>
    obtain ⟨k₀, v₀⟩ := e
    rw [List.map_cons, List.nodup_cons] at hnodup
    rw [List.filter_cons, lookup_cons_eq_ite]
    by_cases h : k₀ = k
    · subst h
      have hnone : es.filter (fun p => p.1 = k₀) = [] := by
        rw [List.filter_eq_nil_iff]
        intro p hp heq
        exact hnodup.1 (List.mem_map.mpr ⟨p, hp, of_decide_eq_true heq⟩)
      rw [if_pos (by simp), hnone, if_pos rfl]
      rfl
    · rw [if_neg (by simp [h]), if_neg (Ne.symm h), ih hnodup.2]

theorem get?_update (d d' : Dict K V) (k : K) :
    (d.update d').get? k = (d'.get? k).or (d.get? k) := by
  rw [update, foldl_set_get?, getLast?_filter_eq_lookup d'.nodup]
  rfl

theorem get?_foldl_update {E : Type} (f : E → Dict K V) (es : List E) (d : Dict K V) (k : K) :
    (es.foldl (fun d e => d.update (f e)) d).get? k =
      (es.filterMap fun e => (f e).get? k).getLast?.or (d.get? k) := by
  induction es generalizing d with
  | nil => rfl
  | cons e es ih =>
    rw [List.foldl_cons, ih, get?_update, List.filterMap_cons]
    cases (f e).get? k with
    | none => rfl
    | some v =>
      dsimp only
      rw [List.getLast?_cons]
      cases (es.filterMap fun e => (f e).get? k).getLast? <;> simp

theorem get?_eq_none_iff (d : Dict K V) (k : K) : d.get? k = none ↔ k ∉ d.keys := by
  rw [mem_keys_iff, Option.eq_none_iff_forall_ne_some, not_exists]

/-! ### Grouping -/

/-- `d.setdefault(k, []).append(v)`. -/
def push (d : Dict K (List V)) (k : K) (v : V) : Dict K (List V) := d.set k (d.getD k [] ++ [v])

/-- Groups the values of the pairs by key. -/
def group (pairs : List (K × V)) : Dict K (List V) := pairs.foldl (fun d p => d.push p.1 p.2) empty

theorem mem_keys_foldl_push (pairs : List (K × V)) (d : Dict K (List V)) (k : K) :
    k ∈ (pairs.foldl (fun d p => d.push p.1 p.2) d).keys ↔ k ∈ d.keys ∨ k ∈ pairs.map Prod.fst := by
  induction pairs generalizing d with
  | nil => simp
  | cons p pairs ih =>
    rw [List.foldl_cons, ih, push, mem_keys_set, List.map_cons, List.mem_cons, or_assoc, or_left_comm]

theorem mem_keys_group (pairs : List (K × V)) (k : K) :
    k ∈ (group pairs).keys ↔ k ∈ pairs.map Prod.fst := by
  rw [group, mem_keys_foldl_push]
  simp [keys, empty]

theorem getD_foldl_push (pairs : List (K × V)) (d : Dict K (List V)) (k : K) :
    (pairs.foldl (fun d p => d.push p.1 p.2) d).getD k [] =
      d.getD k [] ++ (pairs.filter (fun p => p.1 = k)).map Prod.snd := by
  induction pairs generalizing d with
  | nil => simp
  | cons p pairs ih =>
    rw [List.foldl_cons, ih, List.filter_cons, getD, push, get?_set]
    by_cases h : p.1 = k
    · subst h
      rw [if_pos rfl, if_pos (by simp), List.map_cons, Option.getD_some, List.append_assoc]
      rfl
    · rw [if_neg (Ne.symm h), if_neg (by simp [h])]
      rfl

theorem getD_group (pairs : List (K × V)) (k : K) :
    (group pairs).getD k [] = (pairs.filter (fun p => p.1 = k)).map Prod.snd := by
  rw [group, getD_foldl_push]
  rfl

theorem mem_entries_group {pairs : List (K × V)} {k : K} {vs : List V}
    (h : (k, vs) ∈ (group pairs).entries) :
    vs = (pairs.filter (fun p => p.1 = k)).map Prod.snd := by
  rw [← getD_group, getD, (mem_entries_iff _ _ _).mp h, Option.getD_some]

theorem flatten_setEntries_perm (k : K) (v : V) (es : List (K × List V)) :
    ((setEntries k ((es.lookup k).getD [] ++ [v]) es).map Prod.snd).flatten.Perm
      ((es.map Prod.snd).flatten ++ [v]) := by
  induction es with
  | nil => simp [setEntries]
  | cons e es ih =>
    obtain ⟨k₀, vs⟩ := e
    rw [setEntries, lookup_cons_eq_ite]
    by_cases h : k₀ = k
    · subst h
      rw [if_pos rfl, if_pos rfl, Option.getD_some, List.map_cons, List.map_cons, List.flatten_cons,
        List.flatten_cons, List.append_assoc, List.append_assoc]
      exact List.Perm.append_left vs List.perm_append_comm
    · rw [if_neg h, if_neg (Ne.symm h), List.map_cons, List.map_cons, List.flatten_cons,
        List.flatten_cons, List.append_assoc]
      exact List.Perm.append_left vs ih

theorem flatten_values_push_perm (d : Dict K (List V)) (k : K) (v : V) :
    (d.push k v).values.flatten.Perm (d.values.flatten ++ [v]) :=
  flatten_setEntries_perm k v d.entries

/-- Grouping loses no value and doubles none. -/
theorem flatten_values_group_perm (pairs : List (K × V)) :
    (group pairs).values.flatten.Perm (pairs.map Prod.snd) := by
  have hfold : ∀ d : Dict K (List V), (pairs.foldl (fun d p => d.push p.1 p.2) d).values.flatten.Perm
      (d.values.flatten ++ pairs.map Prod.snd) := by
    induction pairs with
    | nil => simp
    | cons p pairs ih =>
      intro d
      rw [List.foldl_cons, List.map_cons]
      refine (ih (d.push p.1 p.2)).trans ?_
      rw [← List.singleton_append, ← List.append_assoc]
      exact (flatten_values_push_perm d p.1 p.2).append_right _
  exact hfold empty

theorem length_group_le_one_iff (pairs : List (K × V)) :
    (group pairs).entries.length ≤ 1 ↔
      ∀ k ∈ pairs.map Prod.fst, ∀ k' ∈ pairs.map Prod.fst, k = k' := by
  have hkeys : (group pairs).entries.length = (group pairs).keys.length := by simp [keys]
  simp only [← mem_keys_group, hkeys]
  have hnodup : (group pairs).keys.Nodup := (group pairs).nodup
  rcases h : (group pairs).keys with _ | ⟨k, _ | ⟨k', ks⟩⟩
  · simp
  · simp
  · rw [h] at hnodup
    have hne : k ≠ k' := fun he => by simp [he] at hnodup
    constructor
    · intro hle
      simp at hle
    · intro hall
      exact absurd (hall k (by simp) k' (by simp)) hne

end Dict

theorem rowWrites_dict {K V : Type} [DecidableEq K] :
    Loop.RowWrites (Dict.get? (K := K) (V := V)) Dict.set (fun _ w => some w) where
  own := Dict.get?_set_self
  frame d _ w _ hk := Dict.get?_set_of_ne d w hk

end RefCheck
