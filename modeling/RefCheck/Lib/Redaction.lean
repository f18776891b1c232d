import RefCheck.Lib.Regex

/-!
# Redaction by regular expressions

Rules that replace what a regular expression matches by a marker. The patterns begin and end at word
boundaries and accept neither of the two delimiters around a marker, which are no word characters; so a
marker does not open or hide a match of a rule, whatever stands next to it. `Redacts` relates a text to
what the rules may make of it, one after another or at once.
-/

namespace RefCheck.Redaction

open Regex

variable {α : Type}

/-- What stands around the markers: no word characters. -/
structure Delimiters (isWord : α → Bool) where
  opening : α
  closing : α
  ne : opening ≠ closing
  opening_word : isWord opening = false
  closing_word : isWord closing = false

/-- A rule: repeats between two word boundaries, which do not accept the delimiters, and what the marker
says. -/
structure Rule {isWord : α → Bool} (d : Delimiters isWord) where
  core : Pattern α
  body : List α
  isRepeat : ∀ atom ∈ core, atom.isRepeat = true
  minLength_pos : 0 < Pattern.minLength core
  rejects_opening : ∀ atom ∈ core, atom.accepts d.opening = false
  rejects_closing : ∀ atom ∈ core, atom.accepts d.closing = false
  opening_not_mem_body : d.opening ∉ body
  closing_not_mem_body : d.closing ∉ body

variable {isWord : α → Bool} {d : Delimiters isWord}

namespace Rule

variable (r : Rule d)

def pattern : Pattern α := .boundary :: r.core ++ [.boundary]

def marker : List α := d.opening :: r.body ++ [d.closing]

/-- The text with every match replaced by the marker. -/
def apply (text : List α) : List α := sub isWord r.pattern r.marker false 0 text

/-- No match starts here. -/
def NoMatchAt (prev : Bool) (text : List α) : Prop :=
  ∀ mid rest, text = mid ++ rest → ¬ Matches isWord r.pattern prev mid (startsWord isWord rest false)

/-- The rule matches no part of the marker of the other one. -/
def Spares (q r : Rule d) : Prop :=
  ∀ mid, mid <:+: r.marker → ¬ Matches isWord q.core false mid false

variable {r}

theorem matches_iff {prev next : Bool} {mid : List α} :
    Matches isWord r.pattern prev mid next ↔ Matches isWord r.core false mid false ∧
      prev ≠ startsWord isWord mid next ∧ endsWord isWord prev mid ≠ next := by
  rw [pattern, matches_bounded_iff]
  exact and_congr_left fun _ => ⟨fun h => h.congr r.isRepeat _ _, fun h => h.congr r.isRepeat _ _⟩

section matched

variable {prev next : Bool} {mid : List α}

theorem ne_nil_of_matches (h : Matches isWord r.pattern prev mid next) : mid ≠ [] := by
  rintro rfl
  exact absurd (matches_iff.mp h).1.minLength_le (Nat.not_le.mpr r.minLength_pos)

theorem opening_not_mem (h : Matches isWord r.pattern prev mid next) : d.opening ∉ mid :=
  (matches_iff.mp h).1.not_mem r.rejects_opening

theorem closing_not_mem (h : Matches isWord r.pattern prev mid next) : d.closing ∉ mid :=
  (matches_iff.mp h).1.not_mem r.rejects_closing

end matched

theorem pattern_minLength_pos (r : Rule d) : 0 < Pattern.minLength r.pattern := by
  rw [pattern, List.cons_append, Pattern.minLength, Atom.minLength, Nat.zero_add, minLength_append]
  exact Nat.add_pos_left r.minLength_pos _

@[simp] theorem endsWord_marker (prev : Bool) (r : Rule d) : endsWord isWord prev r.marker = false := by
  rw [marker, endsWord_append]
  exact d.closing_word

@[simp] theorem startsWord_marker_append (r : Rule d) (text : List α) :
    startsWord isWord (r.marker ++ text) false = false := d.opening_word

theorem closing_mem_of_suffix {text : List α} (h : text <:+ r.marker) (hne : text ≠ []) :
    d.closing ∈ text := by
  obtain ⟨before, hbefore⟩ := h
  have hlast := congrArg List.getLast? hbefore
  rw [marker, List.getLast?_append_of_ne_nil _ hne, List.getLast?_concat] at hlast
  exact List.mem_of_getLast? hlast

theorem Spares.exists_before {q : Rule d} (hspares : q.Spares r) {out before mid after : List α}
    {prev next : Bool} (hmatch : Matches isWord q.pattern prev mid next)
    (h : r.marker ++ out = before ++ mid ++ after) :
    ∃ before', before = r.marker ++ before' ∧ out = before' ++ mid ++ after := by
  rw [List.append_assoc] at h
  rcases List.append_eq_append_iff.mp h with ⟨before', hbefore, hout⟩ | ⟨tail, hmarker, htail⟩
  · exact ⟨before', hbefore, by rw [hout, List.append_assoc]⟩
  · by_cases hnil : tail = []
    · subst hnil
      exact ⟨[], by rw [hmarker, List.append_nil, List.append_nil], htail.symm⟩
    · exfalso
      rcases List.append_eq_append_iff.mp htail with ⟨rest, hrest, -⟩ | ⟨rest, hrest, -⟩
      · exact hspares mid ⟨before, rest, by rw [hmarker, hrest, List.append_assoc]⟩ (matches_iff.mp hmatch).1
      · refine closing_not_mem hmatch ?_
        rw [hrest]
        exact List.mem_append_left _ (closing_mem_of_suffix ⟨before, hmarker.symm⟩ hnil)

end Rule

/-! ### Redacted texts -/

/-- The text may become `out`: what the rules match is replaced, every other character is kept, and where
one is kept `Keep` holds of what follows. -/
inductive Redacts (rules : List (Rule d)) (Keep : Bool → List α → Prop) :
    Bool → List α → List α → Prop
  | nil (prev : Bool) : Redacts rules Keep prev [] []
  | kept {prev : Bool} {c : α} {text out : List α} (hkeep : Keep prev (c :: text))
      (h : Redacts rules Keep (isWord c) text out) : Redacts rules Keep prev (c :: text) (c :: out)
  | redacted {prev : Bool} {r : Rule d} {mid text out : List α} (hr : r ∈ rules)
      (hmatch : Matches isWord r.pattern prev mid (startsWord isWord text false))
      (h : Redacts rules Keep (endsWord isWord prev mid) text out) :
      Redacts rules Keep prev (mid ++ text) (r.marker ++ out)

/-- Any character may be kept. -/
def Anywhere (_ : Bool) (_ : List α) : Prop := True

namespace Redacts

variable {rules : List (Rule d)} {Keep : Bool → List α → Prop} {prev : Bool} {text out : List α}

theorem refl (rules : List (Rule d)) (prev : Bool) (text : List α) :
    Redacts rules Anywhere prev text text := by
  induction text generalizing prev with
  | nil => exact .nil prev
  | cons c text ih => exact .kept trivial (ih (isWord c))

theorem mono {rules' : List (Rule d)} {Keep' : Bool → List α → Prop} (h : Redacts rules Keep prev text out)
    (hrules : ∀ r ∈ rules, r ∈ rules') (hkeep : ∀ prev text, Keep prev text → Keep' prev text) :
    Redacts rules' Keep' prev text out := by
  induction h with
  | nil prev => exact .nil prev
  | kept hk _ ih => exact .kept (hkeep _ _ hk) ih
  | redacted hr hmatch _ ih => exact .redacted (hrules _ hr) hmatch ih

theorem exists_rest {mid : List α} (h : Redacts rules Keep prev text (mid ++ out))
    (hopening : d.opening ∉ mid) :
    ∃ rest, text = mid ++ rest ∧ Redacts rules Keep (endsWord isWord prev mid) rest out := by
  induction mid generalizing prev text with
  | nil => exact ⟨text, rfl, h⟩
  | cons c mid ih =>
    rw [List.cons_append] at h
    generalize hout : c :: (mid ++ out) = out' at h
    cases h with
    | nil => cases hout
    | kept _ h =>
      cases hout
      obtain ⟨rest, rfl, hrest⟩ := ih h fun hmem => hopening (List.mem_cons_of_mem _ hmem)
      exact ⟨rest, rfl, hrest⟩
    | redacted =>
      have hhead : c = d.opening := (List.cons.inj hout).1
      rw [hhead] at hopening
      exact absurd List.mem_cons_self hopening

theorem edge (h : Redacts rules Keep prev text out) :
    startsWord isWord text false = startsWord isWord out false ∨
      startsWord isWord out false = false ∧ prev ≠ startsWord isWord text false := by
  cases h with
  | nil => exact .inl rfl
  | kept => exact .inl rfl
  | redacted hr hmatch _ =>
    rw [startsWord_append]
    exact .inr ⟨Rule.startsWord_marker_append _ _, (Rule.matches_iff.mp hmatch).2.1⟩

/-- What stands before both texts is alike, or the original one is at a word boundary. -/
def Near (isWord : α → Bool) (prev' prev : Bool) (text : List α) : Prop :=
  prev' = prev ∨ prev' = false ∧ prev ≠ startsWord isWord text false

/-- What matches in the redacted text matches in the original one. -/
theorem matches_original {q : Rule d} {mid rest : List α} {prev' : Bool}
    (hrest : Redacts rules Keep (endsWord isWord prev mid) rest out)
    (hmatch : Matches isWord q.pattern prev' mid (startsWord isWord out false))
    (hnear : Near isWord prev' prev (mid ++ rest)) :
    Matches isWord q.pattern prev mid (startsWord isWord rest false) := by
  have hne := Rule.ne_nil_of_matches hmatch
  obtain ⟨hcore, hprev, hnext⟩ := Rule.matches_iff.mp hmatch
  refine Rule.matches_iff.mpr ⟨hcore, ?_, ?_⟩
  · rcases hnear with rfl | ⟨-, hprev'⟩
    · rwa [startsWord_of_ne_nil hne]
    · rwa [startsWord_append] at hprev'
  · rcases hrest.edge with heq | ⟨-, hnext'⟩
    · rwa [heq, endsWord_of_ne_nil hne]
    · exact hnext'

/-- A match in the redacted text is a match in the original one, where a character was kept. -/
theorem exists_original {q : Rule d} (h : Redacts rules Keep prev text out)
    (hspares : ∀ r ∈ rules, q.Spares r) {prev' : Bool} (hnear : Near isWord prev' prev text)
    {before mid after : List α} (hout : out = before ++ mid ++ after)
    (hmatch : Matches isWord q.pattern (endsWord isWord prev' before) mid
      (startsWord isWord after false)) :
    ∃ before' after', text = before' ++ mid ++ after' ∧
      Matches isWord q.pattern (endsWord isWord prev before') mid (startsWord isWord after' false) ∧
      Keep (endsWord isWord prev before') (mid ++ after') := by
  have hne := Rule.ne_nil_of_matches hmatch
  induction h generalizing prev' before with
  | nil =>
    rw [eq_comm, List.append_eq_nil_iff, List.append_eq_nil_iff] at hout
    exact absurd hout.1.2 hne
  | @kept prev c text out hkeep h ih =>
    cases before with
    | nil =>
      -- the match begins with the character kept, and all of it was kept
      cases mid with
      | nil => exact absurd rfl hne
      | cons c' mid =>
        obtain ⟨rfl, rfl⟩ := List.cons.inj hout
        have hopening := Rule.opening_not_mem hmatch
        obtain ⟨rest, rfl, hrest⟩ := h.exists_rest fun hmem => hopening (List.mem_cons_of_mem _ hmem)
        have hrest' : Redacts rules Keep (endsWord isWord prev (c :: mid)) rest after := hrest
        exact ⟨[], rest, rfl, hrest'.matches_original hmatch hnear, hkeep⟩
    | cons b before =>
      obtain ⟨rfl, hout'⟩ := List.cons.inj hout
      obtain ⟨before', after', rfl, horiginal, hkeep'⟩ := ih (.inl rfl) hout' hmatch
      exact ⟨c :: before', after', rfl, horiginal, hkeep'⟩
  | @redacted prev r mid' text out hr hredacted _ ih =>
    obtain ⟨before', rfl, hout'⟩ := (hspares r hr).exists_before hmatch hout
    rw [endsWord_append, Rule.endsWord_marker] at hmatch
    have hedge := (Rule.matches_iff.mp hredacted).2.2
    obtain ⟨before'', after', rfl, horiginal, hkeep⟩ := ih (.inr ⟨rfl, hedge⟩) hout' hmatch
    refine ⟨mid' ++ before'', after', by simp only [List.append_assoc], ?_⟩
    rw [endsWord_append]
    exact ⟨horiginal, hkeep⟩

theorem eq_nil (h : Redacts rules Keep prev [] out) : out = [] := by
  generalize htext : ([] : List α) = text at h
  cases h with
  | nil => rfl
  | kept => cases htext
  | redacted _ hmatch =>
    rw [eq_comm, List.append_eq_nil_iff] at htext
    exact absurd htext.1 (Rule.ne_nil_of_matches hmatch)

theorem exists_out {q r : Rule d} (hspares : q.Spares r) {tail : List α} (htail : tail <:+ r.marker)
    (h : Redacts [q] Keep prev (tail ++ text) out) :
    ∃ out', out = tail ++ out' ∧ Redacts [q] Keep (endsWord isWord prev tail) text out' := by
  induction tail generalizing prev out with
  | nil => exact ⟨out, rfl, h⟩
  | cons c tail ih =>
    rw [List.cons_append] at h
    generalize htext : c :: (tail ++ text) = text' at h
    cases h with
    | nil => cases htext
    | kept _ h =>
      cases htext
      obtain ⟨out', rfl, hout'⟩ := ih ((List.suffix_cons c tail).trans htail) h
      exact ⟨out', rfl, hout'⟩
    | @redacted _ _ mid rest _ hr hmatch h =>
      obtain rfl := List.mem_singleton.mp hr
      obtain ⟨before, hbefore⟩ := htail
      have hsplit : r.marker ++ text = before ++ mid ++ rest := by
        rw [← hbefore, List.append_assoc, List.append_assoc, List.cons_append, htext]
      obtain ⟨before', rfl, -⟩ := hspares.exists_before hmatch hsplit
      have hlength := congrArg List.length hbefore
      simp only [List.length_append, List.length_cons] at hlength
      omega

theorem trans {q : Rule d} {Keep' : Bool → List α → Prop} {out' : List α} {prev' : Bool}
    (h : Redacts rules Anywhere prev text out) (h' : Redacts [q] Keep' prev' out out')
    (hspares : ∀ r ∈ rules, q.Spares r) (hnear : Near isWord prev' prev text) :
    Redacts (q :: rules) Anywhere prev text out' := by
  induction hlength : out.length using Nat.strong_induction_on generalizing prev prev' text out out' with
  | _ n ih =>
    subst hlength
    cases h with
    | nil =>
      rw [h'.eq_nil]
      exact .nil prev
    | @kept _ c text out _ h =>
      generalize hout : c :: out = out₁ at h'
      cases h' with
      | nil => cases hout
      | kept _ h' =>
        cases hout
        exact .kept trivial (ih out.length (Nat.lt_succ_self _) h h' (.inl rfl) rfl)
      | @redacted _ _ mid rest _ hr hmatch h' =>
        obtain rfl := List.mem_singleton.mp hr
        cases mid with
        | nil => exact absurd rfl (Rule.ne_nil_of_matches hmatch)
        | cons c' mid =>
          obtain ⟨rfl, rfl⟩ := List.cons.inj hout
          have hopening := Rule.opening_not_mem hmatch
          obtain ⟨text', rfl, hrest⟩ :=
            h.exists_rest fun hmem => hopening (List.mem_cons_of_mem _ hmem)
          have hrest' : Redacts rules Anywhere (endsWord isWord prev (c :: mid)) text' rest := hrest
          have horiginal := hrest'.matches_original hmatch hnear
          have hlt : rest.length < (c :: (mid ++ rest)).length := by
            rw [List.length_cons, List.length_append]
            omega
          exact .redacted List.mem_cons_self horiginal (ih rest.length hlt hrest' h' (.inl rfl) rfl)
    | @redacted _ r mid text out hr hmatch h =>
      obtain ⟨out'', rfl, hout⟩ := exists_out (hspares r hr) (List.suffix_refl _) h'
      rw [Rule.endsWord_marker] at hout
      have hedge := (Rule.matches_iff.mp hmatch).2.2
      have hlt : out.length < (r.marker ++ out).length := by
        rw [List.length_append, Rule.marker, List.cons_append, List.length_cons]
        omega
      exact .redacted (List.mem_cons_of_mem _ hr) hmatch
        (ih out.length hlt h hout (.inr ⟨rfl, hedge⟩) rfl)

theorem eq_of_not_mem (h : Redacts rules Keep prev text out) (hopening : d.opening ∉ out) :
    text = out := by
  rw [← List.append_nil out] at h
  obtain ⟨rest, rfl, hrest⟩ := h.exists_rest hopening
  generalize hnil : ([] : List α) = out' at hrest
  cases hrest with
  | nil => exact List.append_nil out
  | kept => cases hnil
  | redacted => cases hnil

theorem eq_marker {s : Rule d} (h : Redacts rules Keep prev text s.marker) :
    text = s.marker ∨ ∃ q ∈ rules, Matches isWord q.pattern prev text false := by
  generalize hout : s.marker = out at h
  cases h with
  | nil => cases hout
  | @kept _ _ text out _ h =>
    obtain ⟨rfl, rfl⟩ := List.cons.inj hout
    have hopening : d.opening ∉ s.body ++ [d.closing] := by
      rw [List.mem_append, List.mem_singleton, not_or]
      exact ⟨s.opening_not_mem_body, d.ne⟩
    rw [h.eq_of_not_mem hopening]
    exact .inl rfl
  | @redacted _ q mid text out hq hmatch h =>
    rcases List.eq_nil_or_concat out with rfl | ⟨out', last, rfl⟩
    · obtain rfl := h.eq_of_not_mem List.not_mem_nil
      rw [List.append_nil]
      exact .inr ⟨q, hq, hmatch⟩
    · -- the closing delimiter of the other marker stands within this one
      exfalso
      rw [List.concat_eq_append, ← List.append_assoc, Rule.marker] at hout
      have hfront := List.append_inj_left' hout rfl
      have hclosing : d.closing ∈ d.opening :: s.body := by
        rw [hfront]
        exact List.mem_append_left _
          (Rule.closing_mem_of_suffix (List.suffix_refl _) (List.cons_ne_nil _ _))
      rcases List.mem_cons.mp hclosing with heq | hbody
      · exact d.ne heq.symm
      · exact s.closing_not_mem_body hbody

end Redacts

/-! ### One rule -/

namespace Rule

variable {q r s : Rule d} {text : List α}

theorem noMatchAt_of_ends_eq_nil {prev : Bool} (h : ends isWord r.pattern prev text = []) :
    r.NoMatchAt prev text := by
  rintro mid rest rfl hmatch
  have hmem := mem_ends_iff.mpr ⟨mid, rest, rfl, rfl, hmatch⟩
  rw [h] at hmem
  exact absurd hmem List.not_mem_nil

theorem redacts_sub (r : Rule d) (prev : Bool) (text : List α) :
    Redacts [r] r.NoMatchAt prev text (sub isWord r.pattern r.marker prev 0 text) := by
  induction hlength : text.length using Nat.strong_induction_on generalizing prev text with
  | _ n ih =>
    subst hlength
    cases text with
    | nil => exact .nil prev
    | cons c cs =>
      cases hends : ends isWord r.pattern prev (c :: cs) with
      | nil =>
        rw [sub_of_ends_eq_nil hends]
        exact .kept (noMatchAt_of_ends_eq_nil hends) (ih cs.length (Nat.lt_succ_self _) _ _ rfl)
      | cons k ks =>
        have hmem : k ∈ ends isWord r.pattern prev (c :: cs) := by
          rw [hends]
          exact List.mem_cons_self
        obtain ⟨hpos, hle⟩ := pos_of_mem_ends r.pattern_minLength_pos hmem
        obtain ⟨mid, rest, htext, rfl, hmatch⟩ := mem_ends_iff.mp hmem
        rw [sub_of_head?_ends (congrArg List.head? hends) hpos hle, htext, List.take_left,
          List.drop_left]
        refine .redacted List.mem_cons_self hmatch (ih rest.length ?_ _ _ rfl)
        rw [htext, List.length_append]
        omega

theorem redacts_apply (r : Rule d) (text : List α) :
    Redacts [r] r.NoMatchAt false text (r.apply text) := r.redacts_sub false text

theorem apply_eq_self (h : ¬ Occurs isWord r.pattern false text) : r.apply text = text := by
  have hkept : ∀ {prev : Bool} {text out : List α}, Redacts [r] r.NoMatchAt prev text out →
      ¬ Occurs isWord r.pattern prev text → out = text := by
    intro prev text out hredacts hoccurs
    induction hredacts with
    | nil => rfl
    | @kept _ c text out _ _ ih =>
      rw [ih]
      rintro ⟨before, mid, after, rfl, hmatch⟩
      exact hoccurs ⟨c :: before, mid, after, rfl, hmatch⟩
    | @redacted _ _ mid text out hr hmatch =>
      obtain rfl := List.mem_singleton.mp hr
      exact absurd ⟨[], mid, text, rfl, hmatch⟩ hoccurs
  exact hkept (r.redacts_apply text) h

theorem not_occurs_apply (hspares : r.Spares r) (text : List α) : ¬ Occurs isWord r.pattern false (r.apply text) := by
  rintro ⟨before, mid, after, hout, hmatch⟩
  have hself : ∀ s ∈ [r], r.Spares s := by
    intro s hs
    obtain rfl := List.mem_singleton.mp hs
    exact hspares
  obtain ⟨before', after', -, horiginal, hkeep⟩ :=
    (r.redacts_apply text).exists_original hself (.inl rfl) hout hmatch
  exact hkeep mid after' rfl horiginal

theorem spares_of_rejects (atom : Atom α) (hatom : atom ∈ q.core) (hpos : 0 < atom.minLength)
    (hrejects : ∀ c ∈ r.marker, atom.accepts c = false) : q.Spares r := by
  intro mid hpart hmatch
  obtain ⟨c, hc, haccepts⟩ := hmatch.exists_accepts hatom hpos
  rw [hrejects c (hpart.subset hc)] at haccepts
  cases haccepts

theorem Spares.not_occurs (hspares : q.Spares r) : ¬ Occurs isWord q.pattern false r.marker := by
  rintro ⟨before, mid, after, hmarker, hmatch⟩
  exact hspares mid ⟨before, after, hmarker.symm⟩ (matches_iff.mp hmatch).1

theorem apply_of_fullMatch (h : FullMatch isWord r.pattern text) (hdetermined : Determined r.pattern) :
    r.apply text = r.marker := by
  have hpos : 0 < text.length := List.length_pos_of_ne_nil (ne_nil_of_matches h)
  rw [Rule.apply, sub_of_head?_ends (h.head?_ends hdetermined) hpos le_rfl, List.drop_length, sub,
    List.append_nil]

theorem apply_append_separator (r : Rule d) {c : α} (hword : isWord c = false)
    (hc : ∀ atom ∈ r.core, atom.accepts c = false) (t u : List α) :
    r.apply (t ++ c :: u) = r.apply t ++ c :: r.apply u := by
  refine sub_append_separator r.pattern_minLength_pos hword ?_ false (Nat.zero_le _) u
  intro atom hatom
  rcases List.mem_append.mp hatom with hcons | hlast
  · rcases List.mem_cons.mp hcons with rfl | hcore
    · rfl
    · exact hc atom hcore
  · obtain rfl := List.mem_singleton.mp hlast
    rfl

end Rule

/-! ### Several rules -/

/-- The rules one after another, each on what the one before left. -/
def applyAll (rules : List (Rule d)) (text : List α) : List α :=
  rules.foldl (fun text r => r.apply text) text

section rules

variable {rules : List (Rule d)} {q s : Rule d} {text : List α}

theorem applyAll_eq_self (h : ∀ r ∈ rules, ¬ Occurs isWord r.pattern false text) : applyAll rules text = text := by
  induction rules with
  | nil => rfl
  | cons r rules ih =>
    rw [List.forall_mem_cons] at h
    rw [applyAll, List.foldl_cons, Rule.apply_eq_self h.1]
    exact ih h.2

theorem applyAll_append_separator {c : α} (hword : isWord c = false)
    (hc : ∀ r ∈ rules, ∀ atom ∈ r.core, atom.accepts c = false) (t u : List α) :
    applyAll rules (t ++ c :: u) = applyAll rules t ++ c :: applyAll rules u := by
  induction rules generalizing t u with
  | nil => rfl
  | cons r rules ih =>
    rw [List.forall_mem_cons] at hc
    rw [applyAll, List.foldl_cons, r.apply_append_separator hword hc.1]
    exact ih hc.2 _ _

theorem Redacts.applyAll {all : List (Rule d)} {out : List α} (h : Redacts all Anywhere false text out)
    (hall : ∀ r ∈ rules, r ∈ all) (hspares : ∀ q ∈ rules, ∀ r ∈ all, q.Spares r) :
    Redacts all Anywhere false text (applyAll rules out) := by
  induction rules generalizing out with
  | nil => exact h
  | cons q rules ih =>
    rw [List.forall_mem_cons] at hall hspares
    refine ih ?_ hall.2 hspares.2
    refine (h.trans (q.redacts_apply out) hspares.1 (.inl rfl)).mono ?_ fun _ _ => id
    rw [List.forall_mem_cons]
    exact ⟨hall.1, fun r hr => hr⟩

theorem not_occurs_applyAll_of_not_occurs (hspares : ∀ q ∈ rules, ∀ r ∈ rules, q.Spares r)
    (hq : ∀ r ∈ rules, q.Spares r) (h : ¬ Occurs isWord q.pattern false text) :
    ¬ Occurs isWord q.pattern false (applyAll rules text) := by
  rintro ⟨before, mid, after, hout, hmatch⟩
  obtain ⟨before', after', htext, horiginal, -⟩ :=
    ((Redacts.refl rules false text).applyAll (fun r hr => hr) hspares).exists_original hq (.inl rfl)
      hout hmatch
  exact h ⟨before', mid, after', htext, horiginal⟩

/-- **The rules leave no match of any of them.** -/
theorem not_occurs_applyAll (hspares : ∀ q ∈ rules, ∀ r ∈ rules, q.Spares r) (text : List α) :
    ∀ q ∈ rules, ¬ Occurs isWord q.pattern false (applyAll rules text) := by
  induction rules generalizing text with
  | nil => exact fun q hq => absurd hq List.not_mem_nil
  | cons r rules ih =>
    have htail : ∀ q ∈ rules, ∀ s ∈ rules, q.Spares s := fun q hq s hs =>
      hspares q (List.mem_cons_of_mem _ hq) s (List.mem_cons_of_mem _ hs)
    rw [List.forall_mem_cons]
    have hfirst : ¬ Occurs isWord r.pattern false (r.apply text) :=
      Rule.not_occurs_apply (hspares r List.mem_cons_self r List.mem_cons_self) text
    have hrest : ¬ Occurs isWord r.pattern false (applyAll rules (r.apply text)) :=
      not_occurs_applyAll_of_not_occurs htail
        (fun s hs => hspares r List.mem_cons_self s (List.mem_cons_of_mem _ hs)) hfirst
    exact ⟨hrest, ih htail (r.apply text)⟩

/-- If a text without the opening delimiter becomes one marker, all of it is a match of a rule, and nothing
in it is a match of a rule before that one. -/
theorem exists_of_applyAll_eq_marker (hspares : ∀ q ∈ rules, ∀ r ∈ rules, q.Spares r)
    (hopening : d.opening ∉ text) (hs : applyAll rules text = s.marker) :
    ∃ before q after, rules = before ++ q :: after ∧
      (∀ r ∈ before, ¬ Occurs isWord r.pattern false text) ∧ FullMatch isWord q.pattern text := by
  induction rules with
  | nil =>
    have htext : text = s.marker := hs
    exact absurd (htext ▸ List.mem_cons_self) hopening
  | cons r rules ih =>
    have htail : ∀ q ∈ rules, ∀ s ∈ rules, q.Spares s := fun q hq s hs =>
      hspares q (List.mem_cons_of_mem _ hq) s (List.mem_cons_of_mem _ hs)
    by_cases hoccurs : Occurs isWord r.pattern false text
    · refine ⟨[], r, rules, rfl, fun q hq => absurd hq List.not_mem_nil, ?_⟩
      have hrest : Redacts rules Anywhere false (r.apply text) s.marker := by
        rw [← hs]
        exact (Redacts.refl rules false (r.apply text)).applyAll (fun q hq => hq) htail
      rcases hrest.eq_marker with hmarker | ⟨q, -, hmatch⟩
      · have hfirst := r.redacts_apply text
        rw [hmarker] at hfirst
        rcases hfirst.eq_marker with htext | ⟨q, hq, hmatch⟩
        · exact absurd (htext ▸ List.mem_cons_self) hopening
        · obtain rfl := List.mem_singleton.mp hq
          exact hmatch
      · -- nothing was replaced, although there is a match
        have hsame := (r.redacts_apply text).eq_of_not_mem (Rule.opening_not_mem hmatch)
        rw [hsame] at hoccurs
        have hself := hspares r List.mem_cons_self r List.mem_cons_self
        exact absurd hoccurs (Rule.not_occurs_apply hself text)
    · have happly : applyAll rules text = s.marker := by
        rw [applyAll, List.foldl_cons, Rule.apply_eq_self hoccurs] at hs
        exact hs
      obtain ⟨before, q, after, rfl, hbefore, hfull⟩ := ih htail happly
      refine ⟨r :: before, q, after, rfl, ?_, hfull⟩
      rw [List.forall_mem_cons]
      exact ⟨hoccurs, hbefore⟩

theorem applyAll_of_fullMatch {before after : List (Rule d)}
    (hbefore : ∀ r ∈ before, ¬ Occurs isWord r.pattern false text)
    (hfull : FullMatch isWord q.pattern text) (hdetermined : Determined q.pattern)
    (hafter : ∀ r ∈ after, r.Spares q) : applyAll (before ++ q :: after) text = q.marker := by
  rw [applyAll, List.foldl_append, List.foldl_cons]
  have hself : before.foldl (fun text r => r.apply text) text = text := applyAll_eq_self hbefore
  rw [hself, Rule.apply_of_fullMatch hfull hdetermined]
  exact applyAll_eq_self fun r hr => (hafter r hr).not_occurs

end rules

end RefCheck.Redaction
