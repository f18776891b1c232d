import Mathlib.Algebra.Order.BigOperators.Group.List
import Mathlib.Algebra.Order.Field.Basic
import Mathlib.Data.List.Forall2
import Mathlib.Data.List.Perm.Subperm
import RefCheck.Lib.Lists

/-!
# Evidence in lists, and the scores made of it

`Covers R l l'` says that `l'` holds at least what `l` holds, whatever the order: every element of
`l` has an element of `l'` of its own, related to it by `R`. What a list weighs can only grow with
it (`Covers.sum_le`). A score that loses the weight of each element is a difference
(`foldl_sub_weight`); scores are averaged and clamped, and both operations are monotone.
-/

namespace RefCheck.Scores

variable {A : Type}

/-! ### At least the same elements -/

/-- `l'` has, for every element of `l`, an element of its own that is related to it. -/
def Covers (R : A → A → Prop) (l l' : List A) : Prop :=
  ∃ m, List.Forall₂ R l m ∧ m.Subperm l'

section covers

variable {R : A → A → Prop} {l l' : List A}

theorem Covers.of_subperm (hR : ∀ a, R a a) (h : l.Subperm l') : Covers R l l' :=
  ⟨l, List.forall₂_same.mpr fun a _ => hR a, h⟩

theorem Covers.append {k k' : List A} (h : Covers R l l') (h' : Covers R k k') :
    Covers R (l ++ k) (l' ++ k') := by
  obtain ⟨m, hrel, hsub⟩ := h
  obtain ⟨m', hrel', hsub'⟩ := h'
  exact ⟨m ++ m', List.rel_append hrel hrel', hsub.append hsub'⟩

theorem Covers.exists_mem (h : Covers R l l') {a : A} (ha : a ∈ l) : ∃ b ∈ l', R a b := by
  obtain ⟨m, hrel, hsub⟩ := h
  obtain ⟨b, hb, hab⟩ := Lists.exists_mem_of_forall₂ hrel ha
  exact ⟨b, hsub.subset hb, hab⟩

theorem Covers.ne_nil (h : Covers R l l') (hne : l ≠ []) : l' ≠ [] := by
  obtain ⟨a, ha⟩ := List.exists_mem_of_ne_nil l hne
  obtain ⟨b, hb, -⟩ := h.exists_mem ha
  exact List.ne_nil_of_mem hb

theorem Covers.sum_le {M : Type} [AddCommMonoid M] [PartialOrder M] [IsOrderedAddMonoid M]
    {w : A → M} (h : Covers R l l') (hrel : ∀ a b, R a b → w a ≤ w b) (hnonneg : ∀ a, 0 ≤ w a) :
    (l.map w).sum ≤ (l'.map w).sum := by
  obtain ⟨m, hm, k, hperm, hsub⟩ := h
  calc (l.map w).sum
      ≤ (m.map w).sum := List.Forall₂.sum_le_sum <| by
        rw [List.forall₂_map_left_iff, List.forall₂_map_right_iff]
        exact hm.imp hrel
    _ = (k.map w).sum := ((hperm.map w).sum_eq).symm
    _ ≤ (l'.map w).sum := (hsub.map w).sum_le_sum fun x hx => by
        obtain ⟨a, -, rfl⟩ := List.mem_map.mp hx
        exact hnonneg a

end covers

/-! ### Scores that lose weight -/

theorem foldl_sub_weight {G : Type} [AddCommGroup G] (w : A → G) (l : List A) (score : G) :
    l.foldl (fun score a => score - w a) score = score - (l.map w).sum := by
  induction l generalizing score with
  | nil => simp
  | cons a l ih => rw [List.foldl_cons, ih, List.map_cons, List.sum_cons, sub_sub]

/-! ### Averages -/

section average

variable {K : Type} [Field K]

def average (l : List K) : K := l.sum / l.length

theorem average_perm {l l' : List K} (h : l.Perm l') : average l = average l' := by
  rw [average, average, h.sum_eq, h.length_eq]

variable [LinearOrder K] [IsStrictOrderedRing K]

theorem average_le_average {l l' : List K} (h : List.Forall₂ (· ≤ ·) l l') :
    average l ≤ average l' := by
  rw [average, average, h.length_eq]
  exact div_le_div_of_nonneg_right h.sum_le_sum (Nat.cast_nonneg _)

theorem le_average {l : List K} {a : K} (hne : l ≠ []) (h : ∀ x ∈ l, a ≤ x) : a ≤ average l := by
  have hpos : (0 : K) < l.length := Nat.cast_pos.mpr (List.length_pos_iff.mpr hne)
  have hsum := List.card_nsmul_le_sum l a h
  rw [nsmul_eq_mul] at hsum
  rw [average, le_div_iff₀ hpos, mul_comm]
  exact hsum

theorem average_le {l : List K} {a : K} (hne : l ≠ []) (h : ∀ x ∈ l, x ≤ a) : average l ≤ a := by
  have hpos : (0 : K) < l.length := Nat.cast_pos.mpr (List.length_pos_iff.mpr hne)
  have hsum := List.sum_le_card_nsmul l a h
  rw [nsmul_eq_mul] at hsum
  rw [average, div_le_iff₀ hpos, mul_comm]
  exact hsum

theorem average_of_forall_eq {l : List K} {a : K} (hne : l ≠ []) (h : ∀ x ∈ l, x = a) :
    average l = a :=
  le_antisymm (average_le hne fun x hx => (h x hx).le) (le_average hne fun x hx => (h x hx).ge)

end average

end RefCheck.Scores
