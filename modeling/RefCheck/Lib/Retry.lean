import Mathlib.Data.ENat.Lattice

/-!
# Retrying

`Retrying` of `tenacity` with `retry_if_exception`, `stop_after_attempt` and `reraise`: a function is
called again as long as it raises what asks for it and attempts remain; then what the last attempt came
to is the result. The attempts may come to anything (`outcome`).
-/

namespace RefCheck.Retry

variable {E R : Type} (retryable : E → Bool)

/-- Whether an attempt asks for another one. -/
def asksAgain : Except E R → Bool
  | .error e => retryable e
  | .ok _ => false

/-- The attempts from the `n`-th on, when `left` more may follow it: how many there are, and what the
last one comes to. -/
def retrying (outcome : ℕ → Except E R) : ℕ → ℕ → ℕ × Except E R
  | 0, n => (n + 1, outcome n)
  | left + 1, n =>
    if asksAgain retryable (outcome n) then retrying outcome left (n + 1) else (n + 1, outcome n)

/-- The number of attempts that ask for another one before the first that does not. -/
noncomputable def leading (outcome : ℕ → Except E R) : ℕ∞ :=
  ⨅ n ∈ {n | asksAgain retryable (outcome n) = false}, (n : ℕ∞)

variable {retryable} {outcome : ℕ → Except E R}

theorem asksAgain_eq_true_iff {x : Except E R} :
    asksAgain retryable x = true ↔ ∃ e, x = .error e ∧ retryable e = true := by
  cases x with
  | error e => simp [asksAgain]
  | ok r => simp [asksAgain]

variable (retryable outcome) in
theorem retrying_eq (left n : ℕ) :
    ∃ last, retrying retryable outcome left n = (last + 1, outcome last) ∧ n ≤ last ∧
      last ≤ n + left ∧ (last = n + left ∨ asksAgain retryable (outcome last) = false) ∧
      ∀ m, n ≤ m → m < last → asksAgain retryable (outcome m) = true := by
  induction left generalizing n with
  | zero => exact ⟨n, rfl, le_rfl, le_rfl, .inl rfl, fun m hm hlt => absurd hlt (by omega)⟩
  | succ left ih =>
    rw [retrying]
    cases hasks : asksAgain retryable (outcome n) with
    | false => exact ⟨n, rfl, le_rfl, by omega, .inr hasks, fun m hm hlt => absurd hlt (by omega)⟩
    | true =>
      obtain ⟨last, heq, hle, hlast, hends, hbefore⟩ := ih (n + 1)
      refine ⟨last, heq, by omega, by omega, ?_, fun m hm hlt => ?_⟩
      · rcases hends with hall | hstops
        · exact .inl (by omega)
        · exact .inr hstops
      · rcases Nat.eq_or_lt_of_le hm with rfl | hm'
        · exact hasks
        · exact hbefore m hm' hlt

/-- What comes back is what the first attempt came to that did not ask for another one. -/
theorem retrying_eq_ok_iff {left n : ℕ} {r : R} :
    (retrying retryable outcome left n).2 = .ok r ↔ ∃ last, n ≤ last ∧ last ≤ n + left ∧
      (∀ m, n ≤ m → m < last → asksAgain retryable (outcome m) = true) ∧ outcome last = .ok r := by
  obtain ⟨last, heq, hle, hlast, hends, hbefore⟩ := retrying_eq retryable outcome left n
  rw [heq]
  constructor
  · intro hok
    exact ⟨last, hle, hlast, hbefore, hok⟩
  · rintro ⟨last', hle', hlast', hbefore', hok⟩
    have hstops : asksAgain retryable (outcome last') = false := by rw [hok, asksAgain]
    rcases Nat.lt_trichotomy last last' with hlt | rfl | hgt
    · rcases hends with hall | hstops'
      · omega
      · rw [hbefore' last hle hlt] at hstops'
        cases hstops'
    · exact hok
    · rw [hbefore last' hle' hgt] at hstops
      cases hstops

theorem retrying_eq_of_first {left k : ℕ} (hk : k ≤ left)
    (hbefore : ∀ n < k, asksAgain retryable (outcome n) = true)
    (hstops : asksAgain retryable (outcome k) = false) :
    retrying retryable outcome left 0 = (k + 1, outcome k) := by
  obtain ⟨last, heq, -, hle, hends, hall⟩ := retrying_eq retryable outcome left 0
  have hlast : last = k := by
    rcases Nat.lt_trichotomy last k with hlt | rfl | hgt
    · rcases hends with hleft | hstopped
      · omega
      · rw [hbefore last hlt] at hstopped
        cases hstopped
    · rfl
    · rw [hall k (Nat.zero_le k) hgt] at hstops
      cases hstops
  rw [heq, hlast]

/-- Attempts that correspond one by one, as far as they are allowed, and ask for another one alike, are as
many, and the last ones correspond. -/
theorem retrying_agree {E' R' : Type} {retryable' : E' → Bool} {outcome' : ℕ → Except E' R'}
    {rel : Except E R → Except E' R' → Prop}
    (hasks : ∀ x y, rel x y → asksAgain retryable x = asksAgain retryable' y) (left n : ℕ)
    (hrel : ∀ m, n ≤ m → m ≤ n + left → rel (outcome m) (outcome' m)) :
    (retrying retryable outcome left n).1 = (retrying retryable' outcome' left n).1 ∧
      rel (retrying retryable outcome left n).2 (retrying retryable' outcome' left n).2 := by
  induction left generalizing n with
  | zero => exact ⟨rfl, hrel n le_rfl le_rfl⟩
  | succ left ih =>
    have hfirst := hrel n le_rfl (by omega)
    rw [retrying, retrying, hasks _ _ hfirst]
    split_ifs
    · exact ih (n + 1) fun m hm hle => hrel m (by omega) (by omega)
    · exact ⟨rfl, hfirst⟩

theorem asksAgain_last_iff {maxAttempts last : ℕ} (hlast : last ≤ maxAttempts - 1)
    (hmax : 0 < maxAttempts)
    (hends : last = maxAttempts - 1 ∨ asksAgain retryable (outcome last) = false)
    (hbefore : ∀ m < last, asksAgain retryable (outcome m) = true) :
    asksAgain retryable (outcome last) = true ↔
      ∀ n < maxAttempts, asksAgain retryable (outcome n) = true := by
  refine ⟨fun hasks n hn => ?_, fun hall => hall last (by omega)⟩
  have hall : last = maxAttempts - 1 := by
    rcases hends with hall | hstops
    · exact hall
    · rw [hasks] at hstops
      cases hstops
  rcases Nat.lt_or_ge n last with hlt | hge
  · exact hbefore n hlt
  · obtain rfl : n = last := by omega
    exact hasks

theorem attempts_eq {maxAttempts last : ℕ} (hlast : last ≤ maxAttempts - 1) (hmax : 0 < maxAttempts)
    (hends : last = maxAttempts - 1 ∨ asksAgain retryable (outcome last) = false)
    (hbefore : ∀ m < last, asksAgain retryable (outcome m) = true) :
    ((last + 1 : ℕ) : ℕ∞) = min (maxAttempts : ℕ∞) (1 + leading retryable outcome) := by
  have hge : ∀ k : ℕ, (∀ m < k, asksAgain retryable (outcome m) = true) →
      (k : ℕ∞) ≤ leading retryable outcome := by
    intro k hk
    refine le_iInf₂ fun n hn => ?_
    by_contra hlt
    have hn' : asksAgain retryable (outcome n) = false := hn
    rw [hk n (by exact_mod_cast not_le.mp hlt)] at hn'
    cases hn'
  cases hasks : asksAgain retryable (outcome last) with
  | false =>
    have hleading : leading retryable outcome = last :=
      le_antisymm (iInf₂_le last hasks) (hge last hbefore)
    rw [hleading, min_eq_right]
    · push_cast
      exact add_comm _ _
    · exact_mod_cast (by omega : 1 + last ≤ maxAttempts)
  | true =>
    have hlast' : last + 1 = maxAttempts := by
      rcases hends with hall | hstops
      · omega
      · rw [hasks] at hstops
        cases hstops
    have hall : ((last + 1 : ℕ) : ℕ∞) ≤ leading retryable outcome := by
      refine hge (last + 1) fun m hm => ?_
      rcases Nat.eq_or_lt_of_le (Nat.le_of_lt_succ hm) with rfl | hlt
      · exact hasks
      · exact hbefore m hlt
    rw [hlast'] at hall ⊢
    exact (min_eq_left (hall.trans le_add_self)).symm

end RefCheck.Retry
