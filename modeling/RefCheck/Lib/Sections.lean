import Mathlib.Data.List.Infix

/-!
# Critical sections

A thread works off a list of sections, each of which takes a lock at its start and gives it back at its
end; `hold` says what an action makes of the lock. Whoever finds the lock free finds the thread between
two sections, never within one (`exists_take_of_free`).
-/

namespace RefCheck.Sections

variable {A : Type} {hold : Bool → A → Bool} {s : List A} {sections : List (List A)}

/-- The lock is free after the actions, and held from the first of them to the last. -/
structure IsSection (hold : Bool → A → Bool) (s : List A) : Prop where
  released : s.foldl hold false = false
  held : ∀ t, t <+: s → t ≠ [] → t ≠ s → t.foldl hold false = true

/-- A thread that has not got beyond a section, and holds no lock, has yet to begin it or has ended it. -/
theorem IsSection.eq_of_free (h : IsSection hold s) {t : List A} (ht : t <+: s)
    (hfree : t.foldl hold false = false) : t = [] ∨ t = s := by
  by_contra hboth
  rw [not_or] at hboth
  rw [h.held t ht hboth.1 hboth.2] at hfree
  cases hfree

/-- What a thread has done while the lock is free are whole sections. -/
theorem exists_take_of_free (h : ∀ s ∈ sections, IsSection hold s) {done : List A}
    (hdone : done <+: sections.flatten) (hfree : done.foldl hold false = false) :
    ∃ n ≤ sections.length, done = (sections.take n).flatten := by
  induction sections generalizing done with
  | nil => exact ⟨0, Nat.le_refl 0, List.prefix_nil.mp hdone⟩
  | cons s rest ih =>
    have hs : IsSection hold s := h s List.mem_cons_self
    rw [List.flatten_cons] at hdone
    rcases List.prefix_or_prefix_of_prefix hdone (List.prefix_append s rest.flatten) with
      hwithin | hbeyond
    · rcases hs.eq_of_free hwithin hfree with rfl | rfl
      · exact ⟨0, Nat.zero_le _, rfl⟩
      · exact ⟨1, Nat.le_add_left 1 _, by simp⟩
    · obtain ⟨more, rfl⟩ := hbeyond
      rw [List.foldl_append, hs.released] at hfree
      obtain ⟨n, hn, rfl⟩ := ih (fun t ht => h t (List.mem_cons_of_mem s ht))
        ((List.prefix_append_right_inj s).mp hdone) hfree
      exact ⟨n + 1, Nat.succ_le_succ hn, rfl⟩

/-- Actions between taking the lock and giving it back, none of which touches it, are a section. -/
theorem isSection_of_bracket {acquire release : A} {inner : List A}
    (hacquire : ∀ b, hold b acquire = true) (hinner : ∀ a ∈ inner, ∀ b, hold b a = b)
    (hrelease : ∀ b, hold b release = false) : IsSection hold (acquire :: inner ++ [release]) := by
  have hkept : ∀ t : List A, t <+: inner → t.foldl hold true = true := by
    intro t ht
    have hsub : ∀ a ∈ t, ∀ b, hold b a = b := fun a ha => hinner a (ht.subset ha)
    clear ht
    induction t with
    | nil => rfl
    | cons a t ih =>
      rw [List.foldl_cons, hsub a List.mem_cons_self]
      exact ih fun a' ha' => hsub a' (List.mem_cons_of_mem a ha')
  constructor
  · rw [List.foldl_append, List.foldl_cons, List.foldl_nil, hrelease]
  · intro t ht hne hnot
    rw [List.cons_append] at ht
    rcases List.prefix_cons_iff.mp ht with rfl | ⟨t', rfl, ht'⟩
    · exact absurd rfl hne
    · rw [List.foldl_cons, hacquire]
      rcases List.prefix_concat_iff.mp ht' with rfl | hinside
      · exact absurd rfl hnot
      · exact hkept t' hinside

end RefCheck.Sections
