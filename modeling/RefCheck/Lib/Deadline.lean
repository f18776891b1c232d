import Mathlib.Algebra.Order.Floor.Semiring
import Mathlib.Algebra.Order.Field.Basic
import Mathlib.Tactic.Linarith

/-!
# Polling with a deadline

A loop that looks at a status, returns or raises if the status says so, raises if more time has gone by
than it may, and otherwise sleeps. The statuses are arbitrary, and of the clock it is only known that it
never goes back and that a sleep takes at least the interval. Such a loop ends: after at most
`⌊maxWait / interval⌋₊ + 2` looks (`exists_pollLoop`), and the last one decides how (`pollLoop_eq_some`).
-/

namespace RefCheck.Deadline

/-- What a status says about waiting on. -/
inductive Verdict (ε : Type) where
  | finished
  | failed (error : ε)
  | unfinished

/-- A way of waiting: what the statuses say, and what is raised after too long a time. -/
structure Policy (S ε K : Type) where
  judge : S → Verdict ε
  timeout : S → ε
  maxWait : K

/-- The readings of a clock: before the first look, and after each one. Between two looks there is a
sleep of at least the interval. -/
structure Clock {K : Type} [Field K] [LinearOrder K] (interval : K) where
  start : K
  reading : ℕ → K
  start_le : start ≤ reading 0
  sleep_le : ∀ n, reading n + interval ≤ reading (n + 1)

section loop

variable {S ε K : Type} [LinearOrder K] (policy : Policy S ε K) (status : ℕ → S)

/-- The loop from the look `n` on: the number of looks in all, and how it ends. -/
def pollLoop (elapsed : ℕ → K) : ℕ → ℕ → Option (ℕ × Except ε Unit)
  | 0, _ => none
  | fuel + 1, n =>
    match policy.judge (status n) with
    | .finished => some (n + 1, .ok ())
    | .failed error => some (n + 1, .error error)
    | .unfinished =>
      if policy.maxWait < elapsed n then some (n + 1, .error (policy.timeout (status n)))
      else pollLoop elapsed fuel (n + 1)

/-- The loop goes on after the look. -/
def GoesOn (elapsed : ℕ → K) (n : ℕ) : Prop :=
  policy.judge (status n) = .unfinished ∧ elapsed n ≤ policy.maxWait

/-- The loop ends so at the look. -/
inductive EndsAt (elapsed : ℕ → K) (n : ℕ) : Except ε Unit → Prop
  | finished (h : policy.judge (status n) = .finished) : EndsAt elapsed n (.ok ())
  | failed (error : ε) (h : policy.judge (status n) = .failed error) :
      EndsAt elapsed n (.error error)
  | timeout (h : policy.judge (status n) = .unfinished) (hlate : policy.maxWait < elapsed n) :
      EndsAt elapsed n (.error (policy.timeout (status n)))

variable {policy status} {elapsed : ℕ → K}

variable (policy status elapsed) in
theorem goesOn_or_endsAt (n : ℕ) :
    GoesOn policy status elapsed n ∨ ∃ result, EndsAt policy status elapsed n result := by
  cases h : policy.judge (status n) with
  | finished => exact .inr ⟨_, .finished h⟩
  | failed error => exact .inr ⟨_, .failed error h⟩
  | unfinished =>
    rcases le_or_gt (elapsed n) policy.maxWait with hle | hlt
    · exact .inl ⟨h, hle⟩
    · exact .inr ⟨_, .timeout h hlt⟩

theorem pollLoop_of_goesOn {n : ℕ} (h : GoesOn policy status elapsed n) (fuel : ℕ) :
    pollLoop policy status elapsed (fuel + 1) n = pollLoop policy status elapsed fuel (n + 1) := by
  rw [pollLoop, h.1]
  dsimp only
  rw [if_neg h.2.not_gt]

theorem pollLoop_of_endsAt {n : ℕ} {result : Except ε Unit}
    (h : EndsAt policy status elapsed n result) (fuel : ℕ) :
    pollLoop policy status elapsed (fuel + 1) n = some (n + 1, result) := by
  rw [pollLoop]
  cases h with
  | finished h => rw [h]
  | failed error h => rw [h]
  | timeout h hlate =>
    rw [h]
    dsimp only
    rw [if_pos hlate]

theorem pollLoop_mono {fuel fuel' n : ℕ} (hle : fuel ≤ fuel') {out : ℕ × Except ε Unit}
    (h : pollLoop policy status elapsed fuel n = some out) :
    pollLoop policy status elapsed fuel' n = some out := by
  induction fuel generalizing fuel' n with
  | zero => cases h
  | succ fuel ih =>
    obtain ⟨fuel', rfl⟩ : ∃ m, fuel' = m + 1 := ⟨fuel' - 1, by omega⟩
    rcases goesOn_or_endsAt policy status elapsed n with hgoes | ⟨result, hends⟩
    · rw [pollLoop_of_goesOn hgoes] at h ⊢
      exact ih (by omega) h
    · rw [pollLoop_of_endsAt hends] at h ⊢
      exact h

/-- The last look decides how the loop ends; after each one before it the loop goes on. -/
theorem pollLoop_eq_some {fuel n polls : ℕ} {result : Except ε Unit}
    (h : pollLoop policy status elapsed fuel n = some (polls, result)) :
    ∃ last, polls = last + 1 ∧ n ≤ last ∧ EndsAt policy status elapsed last result ∧
      ∀ m, n ≤ m → m < last → GoesOn policy status elapsed m := by
  induction fuel generalizing n with
  | zero => cases h
  | succ fuel ih =>
    rcases goesOn_or_endsAt policy status elapsed n with hgoes | ⟨result', hends⟩
    · rw [pollLoop_of_goesOn hgoes] at h
      obtain ⟨last, rfl, hle, hends, hbefore⟩ := ih h
      refine ⟨last, rfl, by omega, hends, fun m hm hlt => ?_⟩
      rcases Nat.eq_or_lt_of_le hm with rfl | hm'
      · exact hgoes
      · exact hbefore m hm' hlt
    · rw [pollLoop_of_endsAt hends] at h
      cases h
      exact ⟨n, rfl, le_rfl, hends, fun m hm hlt => absurd hm (by omega)⟩

end loop

section clock

variable {S ε K : Type} [Field K] [LinearOrder K] [IsStrictOrderedRing K] [FloorSemiring K]
  {policy : Policy S ε K} {status : ℕ → S} {interval : K}

/-- The time that has gone by after a look. -/
def Clock.elapsed (clock : Clock interval) (n : ℕ) : K := clock.reading n - clock.start

omit [FloorSemiring K] in
theorem Clock.mul_le_elapsed (clock : Clock interval) (n : ℕ) : n * interval ≤ clock.elapsed n := by
  unfold Clock.elapsed
  induction n with
  | zero =>
    rw [Nat.cast_zero, zero_mul]
    exact sub_nonneg.mpr clock.start_le
  | succ n ih =>
    have hsleep := clock.sleep_le n
    push_cast
    linarith

/-- The most looks that there may be. -/
def maxPolls (maxWait interval : K) : ℕ := ⌊maxWait / interval⌋₊ + 2

theorem Clock.not_goesOn (clock : Clock interval) (hinterval : 0 < interval) {n : ℕ}
    (hn : ⌊policy.maxWait / interval⌋₊ < n) : ¬ GoesOn policy status clock.elapsed n := by
  rintro ⟨-, hle⟩
  have hlate : policy.maxWait / interval < n := (Nat.floor_lt' (by omega)).mp hn
  rw [div_lt_iff₀ hinterval] at hlate
  exact absurd (clock.mul_le_elapsed n) (by linarith)

/-- With the fuel for so many looks the loop ends, and with no more of them. -/
theorem exists_pollLoop (policy : Policy S ε K) (status : ℕ → S) (clock : Clock interval)
    (hinterval : 0 < interval) {fuel : ℕ} (hfuel : maxPolls policy.maxWait interval ≤ fuel) :
    ∃ polls result, pollLoop policy status clock.elapsed fuel 0 = some (polls, result) ∧
      polls ≤ maxPolls policy.maxWait interval := by
  have hloop : ∀ fuel n, n < maxPolls policy.maxWait interval →
      maxPolls policy.maxWait interval ≤ n + fuel →
      ∃ polls result, pollLoop policy status clock.elapsed fuel n = some (polls, result) ∧
        polls ≤ maxPolls policy.maxWait interval := by
    intro fuel
    induction fuel with
    | zero => intro n hlt hle; omega
    | succ fuel ih =>
      intro n hlt hle
      rcases goesOn_or_endsAt policy status clock.elapsed n with hgoes | ⟨result, hends⟩
      · have hn : n ≤ ⌊policy.maxWait / interval⌋₊ :=
          not_lt.mp fun hn => clock.not_goesOn hinterval hn hgoes
        rw [pollLoop_of_goesOn hgoes]
        exact ih (n + 1) (by unfold maxPolls; omega) (by omega)
      · exact ⟨n + 1, result, pollLoop_of_endsAt hends fuel, by omega⟩
  exact hloop fuel 0 (by unfold maxPolls; omega) (by omega)

end clock

end RefCheck.Deadline
