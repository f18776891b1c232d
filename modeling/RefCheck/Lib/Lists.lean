import Mathlib.Algebra.GroupWithZero.Nat
import Mathlib.Algebra.Order.BigOperators.Group.List
import Mathlib.Algebra.Order.Group.Nat
import Mathlib.Data.List.Forall2
import Mathlib.Data.List.Perm.Basic

/-!
# Lists: selections, and permutations that cannot grow

`flatMap_ite` and `flatMap_split` reorganise what a loop collects: by the entries that contribute, or
by the kind of what they contribute. `eq_of_perm_map` says that a measure which can only grow does
not grow anywhere if its values are the same up to their order.
-/

namespace RefCheck.Lists

variable {A B : Type}

theorem exists_mem_of_forall₂ {R : A → B → Prop} {l : List A} {l' : List B} (h : List.Forall₂ R l l')
    {a : A} (ha : a ∈ l) : ∃ b ∈ l', R a b := by
  obtain ⟨i, hi, rfl⟩ := List.getElem_of_mem ha
  exact ⟨l'.get ⟨i, h.length_eq ▸ hi⟩, List.get_mem _ _, h.get hi (h.length_eq ▸ hi)⟩

theorem flatMap_ite (p : A → Prop) [DecidablePred p] (f : A → List B) (l : List A) :
    (l.flatMap fun x => if p x then f x else []) = (l.filter p).flatMap f := by
  induction l with
  | nil => rfl
  | cons x l ih =>
    rw [List.flatMap_cons, ih]
    by_cases h : p x
    · rw [if_pos h, List.filter_cons_of_pos (by simpa using h), List.flatMap_cons]
    · rw [if_neg h, List.filter_cons_of_neg (by simpa using h), List.nil_append]

theorem filter_mapIdx {l : List A} {f : ℕ → A → B} {p : B → Bool} {i : ℕ} {a : A}
    (ha : l[i]? = some a) (hp : ∀ k x, p (f k x) = decide (k = i)) :
    (l.mapIdx f).filter p = [f i a] := by
  induction l generalizing f i with
  | nil => cases ha
  | cons x l ih =>
    rw [List.mapIdx_cons]
    cases i with
    | zero =>
      cases ha
      rw [List.filter_cons_of_pos (by simp [hp]), List.filter_eq_nil_iff.mpr]
      intro b hb
      obtain ⟨k, hk, rfl⟩ := List.mem_mapIdx.mp hb
      simp [hp]
    | succ i =>
      rw [List.filter_cons_of_neg (by simp [hp])]
      exact ih ha (fun k y => by simp [hp])

/-- Collecting four kinds of things one after another, or entry by entry. -/
theorem flatMap_split (l : List A) (f₁ f₂ f₃ f₄ : A → List B) :
    (l.flatMap f₁ ++ l.flatMap f₂ ++ l.flatMap f₃ ++ l.flatMap f₄).Perm
      (l.flatMap fun x => f₁ x ++ f₂ x ++ f₃ x ++ f₄ x) := by
  have h₂ := List.flatMap_append_perm l f₁ f₂
  have h₃ := (h₂.append_right _).trans (List.flatMap_append_perm l (fun x => f₁ x ++ f₂ x) f₃)
  exact (h₃.append_right _).trans
    (List.flatMap_append_perm l (fun x => f₁ x ++ f₂ x ++ f₃ x) f₄)

theorem eq_of_sum_eq {l : List A} {f g : A → ℕ} (hle : ∀ x ∈ l, f x ≤ g x)
    (h : (l.map f).sum = (l.map g).sum) : ∀ x ∈ l, f x = g x := by
  induction l with
  | nil => simp
  | cons x l ih =>
    have hle' : ∀ y ∈ l, f y ≤ g y := fun y hy => hle y (List.mem_cons_of_mem x hy)
    have hsum : (l.map f).sum ≤ (l.map g).sum := List.sum_le_sum hle'
    have hx := hle x List.mem_cons_self
    rw [List.map_cons, List.map_cons, List.sum_cons, List.sum_cons] at h
    have hrest : (l.map f).sum = (l.map g).sum := by omega
    intro y hy
    rcases List.mem_cons.mp hy with rfl | hy
    · omega
    · exact ih hle' hrest y hy

/-- A measure that can only grow does not grow if its values are the same up to their order. -/
theorem eq_of_perm_map {l : List A} {f g : A → ℕ} (hle : ∀ x ∈ l, f x ≤ g x)
    (h : (l.map f).Perm (l.map g)) : ∀ x ∈ l, f x = g x :=
  eq_of_sum_eq hle h.sum_nat

theorem map_getElem?_range (l : List A) : (List.range l.length).map (l[·]?) = l.map some := by
  refine List.ext_getElem (by simp) fun k hk hk' => ?_
  simp only [List.getElem_map, List.getElem_range]
  exact List.getElem?_eq_getElem _

theorem eq_of_getElem?_singleton {a b : A} {i : ℕ} (h : [a][i]? = some b) : i = 0 ∧ b = a := by
  rw [List.getElem?_singleton] at h
  split_ifs at h with hi
  cases h
  exact ⟨hi, rfl⟩

theorem eq_of_nodup_filterMap {f : A → Option B} {l : List A} (h : (l.filterMap f).Nodup) {a b : A}
    (ha : a ∈ l) (hb : b ∈ l) {v : B} (hfa : f a = some v) (hfb : f b = some v) : a = b := by
  induction l with
  | nil => cases ha
  | cons x l ih =>
    have hnew : f x = some v → v ∉ l.filterMap f := by
      intro hx
      rw [List.filterMap_cons_some hx] at h
      exact (List.nodup_cons.mp h).1
    have hrest : (l.filterMap f).Nodup := h.sublist ((List.sublist_cons_self x l).filterMap f)
    rcases List.mem_cons.mp ha with rfl | ha'
    · rcases List.mem_cons.mp hb with rfl | hb'
      · rfl
      · exact absurd (List.mem_filterMap.mpr ⟨b, hb', hfb⟩) (hnew hfa)
    · rcases List.mem_cons.mp hb with rfl | hb'
      · exact absurd (List.mem_filterMap.mpr ⟨a, ha', hfa⟩) (hnew hfb)
      · exact ih hrest ha' hb'

end RefCheck.Lists
