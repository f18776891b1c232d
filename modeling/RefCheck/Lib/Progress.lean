import Mathlib.Order.Lattice.Nat
import RefCheck.Lib.Transitions

/-!
# Runs that go on for ever

An `Execution` is an infinite run; its prefixes are runs. It is weakly fair to an action that is taken
again and again as long as it stays possible. An action that can be taken only so often then comes to
an end (`WeaklyFair.exists_over`).
-/

namespace RefCheck.Transitions

variable {S L : Type}

/-- An infinite run from `s₀`. -/
structure Execution (step : S → L → S → Prop) (s₀ : S) where
  state : ℕ → S
  label : ℕ → L
  start : state 0 = s₀
  steps : ∀ n, step (state n) (label n) (state (n + 1))

namespace Execution

variable {step : S → L → S → Prop} {s₀ : S} (x : Execution step s₀)

/-- The first labels. -/
def labels (n : ℕ) : List L := (List.range n).map x.label

/-- The first steps, with the states after them. -/
def trace (n : ℕ) : List (L × S) := (List.range n).map fun i => (x.label i, x.state (i + 1))

theorem labels_succ (n : ℕ) : x.labels (n + 1) = x.labels n ++ [x.label n] := by
  rw [labels, List.range_succ, List.map_append]
  rfl

theorem labels_subset {n k : ℕ} (hk : n ≤ k) : x.labels n ⊆ x.labels k :=
  List.map_subset _ (List.range_subset.mpr hk)

theorem map_fst_trace (n : ℕ) : (x.trace n).map Prod.fst = x.labels n := by
  rw [trace, List.map_map]
  rfl

theorem run (n : ℕ) : Run step s₀ (x.trace n) (x.state n) := by
  induction n with
  | zero =>
    rw [x.start]
    exact .nil
  | succ n ih =>
    have hsnoc : x.trace (n + 1) = x.trace n ++ [(x.label n, x.state (n + 1))] := by
      rw [trace, List.range_succ, List.map_append]
      rfl
    rw [hsnoc]
    exact ih.snoc (x.steps n)

theorem holds_from {P : S → Prop} (hstep : ∀ k, P (x.state k) → P (x.state (k + 1))) {n : ℕ}
    (h : P (x.state n)) {k : ℕ} (hk : n ≤ k) : P (x.state k) := by
  induction k, hk using Nat.le_induction with
  | base => exact h
  | succ k _ ih => exact hstep k ih

/-- An action that stays possible is taken. -/
def WeaklyFair (action : S → L → S → Prop) : Prop :=
  ∀ n, (∀ k, n ≤ k → ∃ l s, action (x.state k) l s) →
    ∃ k, n ≤ k ∧ action (x.state k) (x.label k) (x.state (k + 1))

end Execution

theorem exists_still {count : ℕ → ℕ} {bound : ℕ} (hmono : Monotone count)
    (hbound : ∀ n, count n ≤ bound) : ∃ n, ∀ k, n ≤ k → count k = count n := by
  have hbdd : BddAbove (Set.range count) := ⟨bound, Set.forall_mem_range.mpr hbound⟩
  obtain ⟨n, hn⟩ : sSup (Set.range count) ∈ Set.range count :=
    Nat.sSup_mem (Set.range_nonempty count) hbdd
  refine ⟨n, fun k hk => le_antisymm ?_ (hmono hk)⟩
  rw [hn]
  exact le_csSup hbdd (Set.mem_range_self k)

/-- An action that a bounded count rises with comes to an end: it is not possible any more, and the count
stands still. -/
theorem Execution.WeaklyFair.exists_over {step : S → L → S → Prop} {s₀ : S} {x : Execution step s₀}
    {action : S → L → S → Prop} (hfair : x.WeaklyFair action) {count : ℕ → ℕ} {bound : ℕ}
    (hmono : Monotone count) (hbound : ∀ n, count n ≤ bound)
    (hrises : ∀ k, action (x.state k) (x.label k) (x.state (k + 1)) → count k < count (k + 1)) (n : ℕ) :
    ∃ m, n ≤ m ∧ (∀ k, m ≤ k → count k = count m) ∧ ∀ l s, ¬ action (x.state m) l s := by
  obtain ⟨still, hstill⟩ := exists_still hmono hbound
  -- from here on the action is not taken, so it cannot stay possible
  have hnever : ∀ k, max n still ≤ k → ¬ action (x.state k) (x.label k) (x.state (k + 1)) := by
    intro k hk haction
    have hlt := hrises k haction
    rw [hstill k (by omega), hstill (k + 1) (by omega)] at hlt
    exact lt_irrefl _ hlt
  by_contra hnone
  obtain ⟨k, hk, haction⟩ := hfair (max n still) fun k hk => by
    by_contra hdisabled
    push Not at hdisabled
    refine hnone ⟨k, by omega, fun j hj => ?_, hdisabled⟩
    rw [hstill j (by omega), hstill k (by omega)]
  exact hnever k hk haction

end RefCheck.Transitions
