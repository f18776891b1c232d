import Mathlib.Logic.Relation
import RefCheck.Lib.Loop

/-!
# Programs that issue requests and may raise

`Issue R ε α` is a program seen from outside: the requests `R` it issued, in order, and what it
ended in, an exception `ε` or a value `α`. An exception ends the program but keeps the requests
issued before it. `attempt` is the body of a `try`. `both` and `parallel` run programs side by side: each
issues its requests whatever becomes of the others, and what is raised is raised by the first to end.

`RaisesWith bad x` says that `x` raises exactly when one of the requests it issued is `bad`; it is
closed under sequencing, so a program all of whose exceptions come from its requests has it.
-/

namespace RefCheck

/-- The requests a program issues, and what it ends in. -/
@[ext] structure Issue (R ε α : Type) where
  log : List R
  result : Except ε α

namespace Issue

variable {R ε α β : Type}

instance : Monad (Issue R ε) where
  pure a := ⟨[], .ok a⟩
  bind x f :=
    match x.result with
    | .error e => ⟨x.log, .error e⟩
    | .ok a => ⟨x.log ++ (f a).log, (f a).result⟩

/-- A program that issues the request `r` and ends in its answer. -/
def issue (r : R) (answer : Except ε α) : Issue R ε α := ⟨[r], answer⟩

/-- A program that issues nothing. -/
def lift (x : Except ε α) : Issue R ε α := ⟨[], x⟩

/-- A program that only issues requests. -/
def emit (log : List R) : Issue R ε Unit := ⟨log, .ok ()⟩

/-- Runs `x`, catching what it raises. -/
def attempt (x : Issue R ε α) : Issue R ε (Except ε α) := ⟨x.log, .ok x.result⟩

@[simp] theorem log_pure (a : α) : (pure a : Issue R ε α).log = [] := rfl
@[simp] theorem result_pure (a : α) : (pure a : Issue R ε α).result = .ok a := rfl
@[simp] theorem log_issue (r : R) (answer : Except ε α) : (issue r answer).log = [r] := rfl
@[simp] theorem result_issue (r : R) (answer : Except ε α) : (issue r answer).result = answer := rfl
@[simp] theorem log_lift (x : Except ε α) : (lift x : Issue R ε α).log = [] := rfl
@[simp] theorem result_lift (x : Except ε α) : (lift x : Issue R ε α).result = x := rfl
@[simp] theorem log_attempt (x : Issue R ε α) : x.attempt.log = x.log := rfl
@[simp] theorem result_attempt (x : Issue R ε α) : x.attempt.result = .ok x.result := rfl

@[simp] theorem lift_eq_pure (a : α) : (lift (.ok a) : Issue R ε α) = pure a := rfl

theorem bind_of_ok {x : Issue R ε α} {a : α} (h : x.result = .ok a) (f : α → Issue R ε β) :
    x >>= f = ⟨x.log ++ (f a).log, (f a).result⟩ := by
  show (match x.result with
    | .error e => ⟨x.log, .error e⟩
    | .ok a => ⟨x.log ++ (f a).log, (f a).result⟩ : Issue R ε β) = _
  rw [h]

theorem bind_of_error {x : Issue R ε α} {e : ε} (h : x.result = .error e) (f : α → Issue R ε β) :
    x >>= f = ⟨x.log, .error e⟩ := by
  show (match x.result with
    | .error e => ⟨x.log, .error e⟩
    | .ok a => ⟨x.log ++ (f a).log, (f a).result⟩ : Issue R ε β) = _
  rw [h]

theorem result_bind (x : Issue R ε α) (f : α → Issue R ε β) :
    (x >>= f).result = x.result >>= fun a => (f a).result := by
  cases h : x.result with
  | error e => rw [bind_of_error h]; rfl
  | ok a => rw [bind_of_ok h]; rfl

theorem log_bind_pure (x : Issue R ε α) (f : α → β) : (x >>= fun a => pure (f a)).log = x.log := by
  cases h : x.result with
  | error e => rw [bind_of_error h]
  | ok a => rw [bind_of_ok h, log_pure, List.append_nil]

theorem bind_pure_id (x : Issue R ε α) : (x >>= fun a => pure (id a)) = x := by
  cases h : x.result with
  | error e => rw [bind_of_error h, ← h]
  | ok a => rw [bind_of_ok h, log_pure, result_pure, List.append_nil, id, ← h]

theorem bind_bind {γ : Type} (x : Issue R ε α) (f : α → Issue R ε β) (g : β → Issue R ε γ) :
    x >>= f >>= g = x >>= fun a => f a >>= g := by
  cases h : x.result with
  | error e => rw [bind_of_error h, bind_of_error h, bind_of_error rfl]
  | ok a =>
    rw [bind_of_ok h, bind_of_ok h]
    cases h' : (f a).result with
    | error e => rw [bind_of_error rfl, bind_of_error h']
    | ok b => rw [bind_of_ok rfl, bind_of_ok h', List.append_assoc]

instance : LawfulMonad (Issue R ε) :=
  LawfulMonad.mk' _ bind_pure_id
    (fun a f => by rw [bind_of_ok (result_pure a), log_pure, List.nil_append]) bind_bind

theorem eq_emit_bind (log : List R) (a : α) :
    (⟨log, .ok a⟩ : Issue R ε α) = emit log >>= fun _ => pure a := by
  rw [bind_of_ok rfl, log_pure, List.append_nil]
  rfl

theorem bind_eq_ok {x : Issue R ε α} {f : α → Issue R ε β} {b : β} :
    (x >>= f).result = .ok b ↔ ∃ a, x.result = .ok a ∧ (f a).result = .ok b := by
  rw [result_bind, Except.bind_eq_ok]

/-! ### Programs that raise only through their requests -/

/-- `x` raises exactly when one of its requests is bad. -/
def RaisesWith (bad : R → Prop) (x : Issue R ε α) : Prop :=
  (∃ e, x.result = .error e) ↔ ∃ r ∈ x.log, bad r

namespace RaisesWith

variable {bad : R → Prop}

theorem pure (a : α) : RaisesWith bad (Pure.pure a : Issue R ε α) := by
  simp [RaisesWith]

theorem issue {r : R} {answer : Except ε α} (h : (∃ e, answer = .error e) ↔ bad r) :
    RaisesWith bad (Issue.issue r answer) := by
  simpa [RaisesWith] using h

theorem bind {x : Issue R ε α} {f : α → Issue R ε β} (hx : RaisesWith bad x)
    (hf : ∀ a, x.result = .ok a → RaisesWith bad (f a)) : RaisesWith bad (x >>= f) := by
  unfold RaisesWith
  cases h : x.result with
  | error e =>
    rw [bind_of_error h]
    have := hx.mp ⟨e, h⟩
    simpa using this
  | ok a =>
    rw [bind_of_ok h]
    -- nothing bad was issued before the continuation, as `x` returned
    have hno : ¬ ∃ r ∈ x.log, bad r := fun hbad => by
      obtain ⟨e, he⟩ := hx.mpr hbad
      rw [h] at he
      cases he
    rw [show (∃ r ∈ x.log ++ (f a).log, bad r) ↔ ∃ r ∈ (f a).log, bad r from ?_]
    · exact hf a h
    · constructor
      · rintro ⟨r, hr, hbad⟩
        rcases List.mem_append.mp hr with hr | hr
        · exact absurd ⟨r, hr, hbad⟩ hno
        · exact ⟨r, hr, hbad⟩
      · rintro ⟨r, hr, hbad⟩
        exact ⟨r, List.mem_append_right _ hr, hbad⟩

end RaisesWith

/-! ### Programs side by side -/

/-- Two programs side by side. The second ends first if `second`. -/
def both (second : Bool) (x : Issue R ε α) (y : Issue R ε β) : Issue R ε (α × β) where
  log := x.log ++ y.log
  result :=
    if second then y.result >>= fun b => x.result >>= fun a => .ok (a, b)
    else x.result >>= fun a => y.result >>= fun b => .ok (a, b)

section both

variable {second : Bool} {x : Issue R ε α} {y : Issue R ε β}

@[simp] theorem log_both : (both second x y).log = x.log ++ y.log := rfl

theorem both_of_ok {a : α} {b : β} (hx : x.result = .ok a) (hy : y.result = .ok b) :
    both second x y = ⟨x.log ++ y.log, .ok (a, b)⟩ := by
  unfold both
  rw [hx, hy]
  cases second <;> rfl

theorem both_eq_ok {p : α × β} :
    (both second x y).result = .ok p ↔ x.result = .ok p.1 ∧ y.result = .ok p.2 := by
  unfold both
  cases second with
  | false =>
    rw [if_neg Bool.false_ne_true, Except.bind_eq_ok]
    simp only [Except.bind_eq_ok, Except.ok.injEq]
    exact ⟨fun ⟨a, ha, b, hb, hp⟩ => hp ▸ ⟨ha, hb⟩, fun ⟨ha, hb⟩ => ⟨p.1, ha, p.2, hb, rfl⟩⟩
  | true =>
    rw [if_pos rfl, Except.bind_eq_ok]
    simp only [Except.bind_eq_ok, Except.ok.injEq]
    exact ⟨fun ⟨b, hb, a, ha, hp⟩ => hp ▸ ⟨ha, hb⟩, fun ⟨ha, hb⟩ => ⟨p.2, hb, p.1, ha, rfl⟩⟩

/-- Unless both raise, and different exceptions, it does not matter which ends first. -/
theorem result_both_congr {first : Bool}
    (h : ∀ e e', x.result = .error e → y.result = .error e' → e = e') :
    (both first x y).result = (both second x y).result := by
  unfold both
  cases hx : x.result with
  | error e =>
    cases hy : y.result with
    | error e' =>
      obtain rfl := h e e' hx hy
      cases first <;> cases second <;> rfl
    | ok b => cases first <;> cases second <;> rfl
  | ok a => cases y.result <;> cases first <;> cases second <;> rfl

theorem both_map {γ δ : Type} (f : α → γ) (g : β → δ) :
    both second (x >>= fun a => pure (f a)) (y >>= fun b => pure (g b)) =
      both second x y >>= fun p => pure (f p.1, g p.2) := by
  refine Issue.ext ?_ ?_
  · rw [log_bind_pure, log_both, log_both, log_bind_pure, log_bind_pure]
  · rw [result_bind]
    unfold both
    simp only [result_bind, result_pure]
    cases x.result <;> cases y.result <;> cases second <;> rfl

theorem RaisesWith.both {bad : R → Prop} (hx : RaisesWith bad x) (hy : RaisesWith bad y) :
    RaisesWith bad (both second x y) := by
  have hraises : (∃ e, (Issue.both second x y).result = .error e) ↔
      (∃ e, x.result = .error e) ∨ ∃ e, y.result = .error e := by
    unfold Issue.both
    cases x.result <;> cases y.result <;> cases second <;> simp [Except.ok_bind]
  unfold RaisesWith at hx hy ⊢
  rw [hraises, hx, hy, log_both]
  constructor
  · rintro (⟨r, hr, hbad⟩ | ⟨r, hr, hbad⟩)
    · exact ⟨r, List.mem_append_left _ hr, hbad⟩
    · exact ⟨r, List.mem_append_right _ hr, hbad⟩
  · rintro ⟨r, hr, hbad⟩
    exact (List.mem_append.mp hr).imp (⟨r, ·, hbad⟩) (⟨r, ·, hbad⟩)

end both

section parallel

variable {T : Type} {f : T → Issue R ε α} {ending ts : List T}

/-- A program for each task, side by side. The tasks end in the order `ending`. -/
def parallel (f : T → Issue R ε α) (ending ts : List T) : Issue R ε (List α) where
  log := ts.flatMap fun t => (f t).log
  result := do
    let _ ← ending.mapM fun t => (f t).result
    ts.mapM fun t => (f t).result

theorem parallel_of_ok {values : List α} (hending : ending.Perm ts)
    (h : ts.mapM (fun t => (f t).result) = .ok values) :
    parallel f ending ts = ⟨ts.flatMap fun t => (f t).log, .ok values⟩ := by
  have hall := Loop.exists_mapM_eq_ok_iff.mp ⟨values, h⟩
  obtain ⟨ended, hended⟩ := Loop.exists_mapM_eq_ok_iff.mpr fun t ht => hall t (hending.mem_iff.mp ht)
  unfold parallel
  rw [hended, h]
  rfl

theorem parallel_singleton (t : T) : parallel f [t] [t] = f t >>= fun a => pure [a] := by
  refine Issue.ext ?_ ?_
  · rw [log_bind_pure]
    exact List.append_nil _
  · rw [result_bind]
    unfold parallel
    simp only [List.mapM_cons, List.mapM_nil]
    cases (f t).result <;> rfl

theorem parallel_pair (second : Bool) (t u : T) :
    parallel f (if second then [u, t] else [t, u]) [t, u] =
      both second (f t) (f u) >>= fun p => pure [p.1, p.2] := by
  refine Issue.ext ?_ ?_
  · rw [log_bind_pure, log_both]
    exact congrArg _ (List.append_nil _)
  · rw [result_bind]
    unfold parallel both
    cases second
    · rw [if_neg Bool.false_ne_true, if_neg Bool.false_ne_true]
      simp only [List.mapM_cons, List.mapM_nil]
      cases (f t).result <;> cases (f u).result <;> rfl
    · rw [if_pos rfl, if_pos rfl]
      simp only [List.mapM_cons, List.mapM_nil]
      cases (f t).result <;> cases (f u).result <;> rfl

end parallel

end Issue

end RefCheck
