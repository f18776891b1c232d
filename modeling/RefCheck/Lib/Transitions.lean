import Mathlib.Data.List.Basic
import Mathlib.Data.List.Infix

/-!
# Runs of a transition system

A step relation says what a system may do in a state, under a label. A `Run` is a sequence of steps
from a state, recorded as the labels with the states they lead to. An invariant is proved once for a
step (`Run.invariant`, and `Run.invariant_labels` where it speaks of the labels so far), and so is how
an observation moves (`Run.history_eq`): `history` are the values that an observation takes along a
run, each time it changes. `Precedes` is the order of labels in a run.
-/

namespace RefCheck.Transitions

variable {S L V : Type}

/-- The runs from `s₀`: the steps taken, in order, and the state after them. -/
inductive Run (step : S → L → S → Prop) (s₀ : S) : List (L × S) → S → Prop
  | nil : Run step s₀ [] s₀
  | snoc {trace : List (L × S)} {s s' : S} {l : L} (h : Run step s₀ trace s) (hstep : step s l s') :
      Run step s₀ (trace ++ [(l, s')]) s'

section run

variable {step : S → L → S → Prop} {s₀ s : S} {trace : List (L × S)}

theorem Run.invariant_labels {P : List L → S → Prop} (h₀ : P [] s₀)
    (hstep : ∀ labels s l s', P labels s → step s l s' → P (labels ++ [l]) s')
    (h : Run step s₀ trace s) : P (trace.map Prod.fst) s := by
  induction h with
  | nil => exact h₀
  | snoc _ hs ih =>
    rw [List.map_append, List.map_singleton]
    exact hstep _ _ _ _ ih hs

/-- What holds at the start and is kept by every step holds after every run. -/
theorem Run.invariant {P : S → Prop} (h₀ : P s₀) (hstep : ∀ s l s', P s → step s l s' → P s')
    (h : Run step s₀ trace s) : P s :=
  Run.invariant_labels (P := fun _ s => P s) h₀ (fun _ => hstep) h

theorem Run.append {s' : S} {trace' : List (L × S)} (h : Run step s₀ trace s)
    (h' : Run step s trace' s') : Run step s₀ (trace ++ trace') s' := by
  induction h' with
  | nil => rwa [List.append_nil]
  | snoc _ hstep ih =>
    rw [← List.append_assoc]
    exact ih.snoc hstep

theorem Run.forall_states {P : S → Prop} (h₀ : P s₀) (hstep : ∀ s l s', P s → step s l s' → P s')
    (h : Run step s₀ trace s) : ∀ p ∈ trace, P p.2 := by
  induction h with
  | nil => simp
  | snoc h hs ih =>
    rw [List.forall_mem_append, List.forall_mem_singleton]
    exact ⟨ih, hstep _ _ _ (h.invariant h₀ hstep) hs⟩

end run

/-! ### Parts -/

section parts

variable {S' L' : Type} {step : S → L → S → Prop} {step' : S' → L' → S' → Prop} {s₀ s : S}
  {trace : List (L × S)} {part : S → S'} {P : S → Prop}

/-- If the steps that `label` keeps are steps of the part, and the others leave it alone, then the part
runs as if there were nothing else. -/
theorem Run.project {label : L → Option L'} (hP : P s₀) (hinv : ∀ s l s', P s → step s l s' → P s')
    (hkept : ∀ s l s' l', P s → step s l s' → label l = some l' → step' (part s) l' (part s'))
    (hother : ∀ s l s', P s → step s l s' → label l = none → part s' = part s)
    (h : Run step s₀ trace s) :
    Run step' (part s₀) (trace.filterMap fun e => (label e.1).map fun l => (l, part e.2)) (part s) := by
  induction h with
  | nil => exact .nil
  | @snoc trace s s' l h hs ih =>
    have hPs := h.invariant hP hinv
    rw [List.filterMap_append]
    cases hl : label l with
    | some l' =>
      have hkeep : [(l, s')].filterMap (fun e => (label e.1).map fun l => (l, part e.2)) =
          [(l', part s')] := by simp [hl]
      rw [hkeep]
      exact ih.snoc (hkept s l s' l' hPs hs hl)
    | none =>
      have hdrop : [(l, s')].filterMap (fun e => (label e.1).map fun l => (l, part e.2)) = [] := by
        simp [hl]
      rw [hdrop, List.append_nil, hother s l s' hPs hs hl]
      exact ih

theorem Run.project_about {step' : S' → L → S' → Prop} {about : L → Bool} (hP : P s₀)
    (hinv : ∀ s l s', P s → step s l s' → P s')
    (habout : ∀ s l s', P s → step s l s' → about l = true → step' (part s) l (part s'))
    (hother : ∀ s l s', P s → step s l s' → about l = false → part s' = part s)
    (h : Run step s₀ trace s) :
    Run step' (part s₀) ((trace.filter fun e => about e.1).map fun e => (e.1, part e.2))
      (part s) := by
  have htrace : ((trace.filter fun e => about e.1).map fun e => (e.1, part e.2)) =
      trace.filterMap fun e => (Option.guard about e.1).map fun l => (l, part e.2) := by
    rw [← List.filterMap_eq_map, ← List.filterMap_eq_filter, List.filterMap_filterMap]
    congr 1
    funext e
    cases hl : about e.1 <;> simp [hl, Option.guard]
  rw [htrace]
  refine h.project hP hinv ?_ ?_
  · intro s l s' l' hPs hs hl
    obtain ⟨rfl, ha⟩ := Option.guard_eq_some_iff.mp hl
    exact habout s l s' hPs hs ha
  · intro s l s' hPs hs hl
    exact hother s l s' hPs hs (by simpa [Option.guard] using hl)

end parts

/-! ### Histories -/

section history

variable [DecidableEq V]

/-- A history after one more observation: a value is added when it is not the last one. -/
def observe (past : List V) : Option V → List V
  | none => past
  | some v => if past.getLast? = some v then past else past ++ [v]

/-- The values that the states of a run show, without repetition. -/
def history (show? : S → Option V) (s₀ : S) (trace : List (L × S)) : List V :=
  ((s₀ :: trace.map Prod.snd).map show?).foldl observe []

/-- If every step moves the observation along a path, the history is the path to what is shown. -/
theorem Run.history_eq {step : S → L → S → Prop} {s₀ s : S} {trace : List (L × S)}
    {show? : S → Option V} {path : Option V → List V} {P : S → Prop} (hP : P s₀)
    (hinv : ∀ s l s', P s → step s l s' → P s') (h₀ : observe [] (show? s₀) = path (show? s₀))
    (hpath : ∀ s l s', P s → step s l s' →
      observe (path (show? s)) (show? s') = path (show? s'))
    (h : Run step s₀ trace s) : history show? s₀ trace = path (show? s) := by
  induction h with
  | nil => exact h₀
  | @snoc trace s s' l h hs ih =>
    have happend : history show? s₀ (trace ++ [(l, s')]) =
        observe (history show? s₀ trace) (show? s') := by
      unfold history
      rw [List.map_append, List.map_singleton, ← List.cons_append, List.map_append, List.foldl_append]
      rfl
    rw [happend, ih, hpath s l s' (h.invariant hP hinv) hs]

end history

/-! ### The order of labels -/

/-- The label `a` comes before an occurrence of the label `b`. -/
def Precedes (labels : List L) (a b : L) : Prop :=
  ∃ pre post, labels = pre ++ b :: post ∧ a ∈ pre

section precedes

variable {labels : List L} {a b l : L}

theorem Precedes.mem (h : Precedes labels a b) : b ∈ labels := by
  obtain ⟨pre, post, rfl, -⟩ := h
  simp

theorem Precedes.mem_left (h : Precedes labels a b) : a ∈ labels := by
  obtain ⟨pre, post, rfl, ha⟩ := h
  exact List.mem_append_left _ ha

theorem precedes_append_singleton :
    Precedes (labels ++ [l]) a b ↔ Precedes labels a b ∨ (l = b ∧ a ∈ labels) := by
  constructor
  · rintro ⟨pre, post, heq, ha⟩
    rcases List.eq_nil_or_concat post with rfl | ⟨post, c, rfl⟩
    · obtain ⟨rfl, hl⟩ := List.append_inj' heq rfl
      exact Or.inr ⟨List.head_eq_of_cons_eq hl, ha⟩
    · rw [List.concat_eq_append, ← List.cons_append, ← List.append_assoc] at heq
      obtain ⟨rfl, -⟩ := List.append_inj' heq rfl
      exact Or.inl ⟨pre, post, rfl, ha⟩
  · rintro (⟨pre, post, rfl, ha⟩ | ⟨rfl, ha⟩)
    · exact ⟨pre, post ++ [l], by simp, ha⟩
    · exact ⟨labels, [], rfl, ha⟩

end precedes

end RefCheck.Transitions
