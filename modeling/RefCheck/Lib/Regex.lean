import Mathlib.Data.List.Basic
import Mathlib.Data.List.TakeWhile

/-!
# Regular expressions of repeats and word boundaries

The part of Python's `re` without alternatives: greedy repeats of sets of characters, and `\b`. `ends` is
the backtracking search from one position, in the order in which `re` tries; `Matches` says what matches
whatever the order (`mem_ends_iff`). `sub` replaces the leftmost matches that do not overlap. Of what
stands before and after a text only matters whether it is a word character.
-/

namespace RefCheck.Regex

variable {α : Type}

/-- A part of a regular expression: `\b`, or a greedy repeat of characters of a set, between `lo` and `hi`
times. -/
inductive Atom (α : Type) where
  | boundary
  | repeated (chars : α → Bool) (lo : ℕ) (hi : Option ℕ)

namespace Atom

def exactly (chars : α → Bool) (n : ℕ) : Atom α := repeated chars n (some n)

def atLeast (chars : α → Bool) (n : ℕ) : Atom α := repeated chars n none

/-- The characters that a part may match. -/
def accepts : Atom α → α → Bool
  | boundary, _ => false
  | repeated chars _ _, c => chars c

/-- How many characters a part matches at least. -/
def minLength : Atom α → ℕ
  | boundary => 0
  | repeated _ lo _ => lo

def isRepeat : Atom α → Bool
  | boundary => false
  | repeated _ _ _ => true

@[simp] theorem accepts_boundary (c : α) : (boundary : Atom α).accepts c = false := rfl

section repeats

variable (chars : α → Bool) (n : ℕ)

@[simp] theorem accepts_exactly (c : α) : (exactly chars n).accepts c = chars c := rfl

@[simp] theorem accepts_atLeast (c : α) : (atLeast chars n).accepts c = chars c := rfl

@[simp] theorem minLength_exactly : (exactly chars n).minLength = n := rfl

@[simp] theorem minLength_atLeast : (atLeast chars n).minLength = n := rfl

@[simp] theorem isRepeat_exactly : (exactly chars n).isRepeat = true := rfl

@[simp] theorem isRepeat_atLeast : (atLeast chars n).isRepeat = true := rfl

end repeats

end Atom

/-- A regular expression: its parts one after another. -/
abbrev Pattern (α : Type) := List (Atom α)

def Pattern.minLength : Pattern α → ℕ
  | [] => 0
  | atom :: atoms => atom.minLength + minLength atoms

variable (isWord : α → Bool)

/-- Whether the text starts with a word character, when `next` says it of what follows the text. -/
def startsWord : List α → Bool → Bool
  | [], next => next
  | c :: _, _ => isWord c

/-- Whether the text ends with a word character, when `prev` says it of what stands before the text. -/
def endsWord : Bool → List α → Bool
  | prev, [] => prev
  | _, c :: cs => endsWord (isWord c) cs

/-! ### Searching and replacing -/

/-- How many characters a greedy repeat takes at most. -/
def most (chars : α → Bool) (hi : Option ℕ) (text : List α) : ℕ :=
  match hi with
  | none => (text.takeWhile chars).length
  | some n => min (text.takeWhile chars).length n

/-- How many characters a greedy repeat may take, the most first. -/
def repeats (chars : α → Bool) (lo : ℕ) (hi : Option ℕ) (text : List α) : List ℕ :=
  ((List.range (most chars hi text + 1)).filter (lo ≤ ·)).reverse

/-- The lengths of the matches at the start of a text, in the order of the search. -/
def ends : Pattern α → Bool → List α → List ℕ
  | [], _, _ => [0]
  | .boundary :: atoms, prev, text =>
    if prev = startsWord isWord text false then [] else ends atoms prev text
  | .repeated chars lo hi :: atoms, prev, text =>
    (repeats chars lo hi text).flatMap fun k =>
      (ends atoms (endsWord isWord prev (text.take k)) (text.drop k)).map (k + ·)

/-- `re.sub` after `skip` more characters, of a pattern that matches no empty text. -/
def sub (pattern : Pattern α) (repl : List α) : Bool → ℕ → List α → List α
  | _, _, [] => []
  | _, skip + 1, c :: cs => sub pattern repl (isWord c) skip cs
  | prev, 0, c :: cs =>
    match (ends isWord pattern prev (c :: cs)).head? with
    | some (n + 1) => repl ++ sub pattern repl (isWord c) n cs
    | _ => c :: sub pattern repl (isWord c) 0 cs

/-! ### Matching -/

/-- The text matches the pattern, when `prev` and `next` say whether word characters stand around it. -/
inductive Matches : Pattern α → Bool → List α → Bool → Prop
  | nil (prev next : Bool) : Matches [] prev [] next
  | boundary {atoms : Pattern α} {prev next : Bool} {text : List α}
      (hedge : prev ≠ startsWord isWord text next) (h : Matches atoms prev text next) :
      Matches (.boundary :: atoms) prev text next
  | repeated {chars : α → Bool} {lo : ℕ} {hi : Option ℕ} {atoms : Pattern α} {prev next : Bool}
      {taken text : List α} (hchars : ∀ c ∈ taken, chars c = true) (hlo : lo ≤ taken.length)
      (hhi : ∀ n ∈ hi, taken.length ≤ n)
      (h : Matches atoms (endsWord isWord prev taken) text next) :
      Matches (.repeated chars lo hi :: atoms) prev (taken ++ text) next

/-- The whole text is a match. -/
def FullMatch (pattern : Pattern α) (text : List α) : Prop := Matches isWord pattern false text false

/-- There is a match in the text. -/
def Occurs (pattern : Pattern α) (prev : Bool) (text : List α) : Prop :=
  ∃ before mid after, text = before ++ mid ++ after ∧
    Matches isWord pattern (endsWord isWord prev before) mid (startsWord isWord after false)

variable {isWord}

@[simp] theorem startsWord_cons (c : α) (cs : List α) (next : Bool) :
    startsWord isWord (c :: cs) next = isWord c := rfl

theorem startsWord_append (s t : List α) (next : Bool) :
    startsWord isWord (s ++ t) next = startsWord isWord s (startsWord isWord t next) := by
  cases s with
  | nil => rfl
  | cons c s => rfl

theorem endsWord_append (prev : Bool) (s t : List α) :
    endsWord isWord prev (s ++ t) = endsWord isWord (endsWord isWord prev s) t := by
  induction s generalizing prev with
  | nil => rfl
  | cons c s ih => exact ih (isWord c)

theorem endsWord_of_ne_nil {text : List α} (hne : text ≠ []) (prev prev' : Bool) :
    endsWord isWord prev text = endsWord isWord prev' text := by
  cases text with
  | nil => exact absurd rfl hne
  | cons c cs => rfl

theorem startsWord_of_ne_nil {text : List α} (hne : text ≠ []) (next next' : Bool) :
    startsWord isWord text next = startsWord isWord text next' := by
  cases text with
  | nil => exact absurd rfl hne
  | cons c cs => rfl

theorem le_most_iff {chars : α → Bool} {hi : Option ℕ} {k : ℕ} {text : List α} :
    k ≤ most chars hi text ↔
      (∀ n ∈ hi, k ≤ n) ∧ k ≤ text.length ∧ ∀ c ∈ text.take k, chars c = true := by
  have hrun : k ≤ (text.takeWhile chars).length ↔
      k ≤ text.length ∧ ∀ c ∈ text.take k, chars c = true := by
    have hprefix : text.takeWhile chars <+: text := List.takeWhile_prefix chars
    constructor
    · intro hk
      refine ⟨hk.trans hprefix.length_le, fun c hc => ?_⟩
      obtain ⟨rest, hrest⟩ := hprefix
      rw [← hrest, List.take_append_of_le_length hk] at hc
      exact List.mem_takeWhile_imp (List.mem_of_mem_take hc)
    · rintro ⟨hk, hall⟩
      have happend : (text.take k ++ text.drop k).takeWhile chars =
          text.take k ++ (text.drop k).takeWhile chars := List.takeWhile_append_of_pos hall
      rw [List.take_append_drop] at happend
      rw [happend, List.length_append, List.length_take, min_eq_left hk]
      exact Nat.le_add_right _ _
  cases hi with
  | none => simp [most, hrun]
  | some n =>
    have hn : (∀ m ∈ some n, k ≤ m) ↔ k ≤ n := by simp
    rw [most, Nat.le_min, hrun, hn, and_comm]

theorem mem_repeats_iff {chars : α → Bool} {lo k : ℕ} {hi : Option ℕ} {text : List α} :
    k ∈ repeats chars lo hi text ↔ lo ≤ k ∧ k ≤ most chars hi text := by
  rw [repeats, List.mem_reverse, List.mem_filter, List.mem_range, decide_eq_true_eq, and_comm,
    Nat.lt_succ_iff]

/-- The search finds exactly what matches. -/
def Exact (isWord : α → Bool) (pattern : Pattern α) : Prop :=
  ∀ prev text k, k ∈ ends isWord pattern prev text ↔ ∃ mid rest, text = mid ++ rest ∧
    mid.length = k ∧ Matches isWord pattern prev mid (startsWord isWord rest false)

theorem exact_nil : Exact isWord [] := by
  intro prev text k
  rw [ends, List.mem_singleton]
  constructor
  · rintro rfl
    exact ⟨[], text, rfl, rfl, .nil _ _⟩
  · rintro ⟨mid, rest, -, rfl, h⟩
    cases h
    rfl

theorem Exact.boundary {atoms : Pattern α} (hatoms : Exact isWord atoms) :
    Exact isWord (.boundary :: atoms) := by
  intro prev text k
  rw [ends]
  split_ifs with hedge
  · refine iff_of_false List.not_mem_nil ?_
    rintro ⟨mid, rest, rfl, -, h⟩
    cases h with
    | boundary hne => exact hne (hedge.trans (startsWord_append _ _ _))
  · rw [hatoms]
    constructor
    · rintro ⟨mid, rest, rfl, hk, h⟩
      rw [startsWord_append] at hedge
      exact ⟨mid, rest, rfl, hk, .boundary hedge h⟩
    · rintro ⟨mid, rest, rfl, hk, h⟩
      cases h with
      | boundary _ h => exact ⟨mid, rest, rfl, hk, h⟩

theorem Exact.repeated {atoms : Pattern α} (hatoms : Exact isWord atoms) (chars : α → Bool) (lo : ℕ)
    (hi : Option ℕ) : Exact isWord (.repeated chars lo hi :: atoms) := by
  intro prev text k
  rw [ends, List.mem_flatMap]
  constructor
  · rintro ⟨j, hj, hk⟩
    obtain ⟨hlo, hmost⟩ := mem_repeats_iff.mp hj
    obtain ⟨hhi, hlength, hall⟩ := le_most_iff.mp hmost
    obtain ⟨m, hm, rfl⟩ := List.mem_map.mp hk
    obtain ⟨mid, rest, hdrop, rfl, h⟩ := (hatoms _ _ _).mp hm
    have htake : (text.take j).length = j := List.length_take_of_le hlength
    refine ⟨text.take j ++ mid, rest, ?_, ?_, .repeated hall ?_ ?_ h⟩
    · rw [List.append_assoc, ← hdrop, List.take_append_drop]
    · rw [List.length_append, htake]
    · rwa [htake]
    · rwa [htake]
  · rintro ⟨mid, rest, rfl, rfl, h⟩
    cases h with
    | @repeated _ _ _ _ _ _ taken text hchars hlo hhi h =>
      rw [List.append_assoc, List.length_append]
      refine ⟨taken.length, mem_repeats_iff.mpr ⟨hlo, le_most_iff.mpr ⟨hhi, ?_, ?_⟩⟩, ?_⟩
      · rw [List.length_append]
        exact Nat.le_add_right _ _
      · rwa [List.take_left]
      · rw [List.take_left, List.drop_left]
        exact List.mem_map_of_mem ((hatoms _ _ _).mpr ⟨text, rest, rfl, rfl, h⟩)

theorem mem_ends_iff {pattern : Pattern α} {prev : Bool} {text : List α} {k : ℕ} :
    k ∈ ends isWord pattern prev text ↔ ∃ mid rest, text = mid ++ rest ∧ mid.length = k ∧
      Matches isWord pattern prev mid (startsWord isWord rest false) := by
  have hexact : Exact isWord pattern := by
    induction pattern with
    | nil => exact exact_nil
    | cons atom atoms ih =>
      cases atom with
      | boundary => exact ih.boundary
      | repeated chars lo hi => exact ih.repeated chars lo hi
  exact hexact prev text k

theorem fullMatch_iff {pattern : Pattern α} {text : List α} :
    FullMatch isWord pattern text ↔ text.length ∈ ends isWord pattern false text := by
  rw [mem_ends_iff]
  constructor
  · intro h
    exact ⟨text, [], (List.append_nil text).symm, rfl, h⟩
  · rintro ⟨mid, rest, htext, hlength, h⟩
    have hrest := congrArg List.length htext
    rw [List.length_append, hlength, Nat.left_eq_add, List.length_eq_zero_iff] at hrest
    subst hrest
    rw [htext, List.append_nil]
    exact h

theorem occurs_iff {pattern : Pattern α} {prev : Bool} {text : List α} :
    Occurs isWord pattern prev text ↔ ∃ n < text.length + 1,
      ends isWord pattern (endsWord isWord prev (text.take n)) (text.drop n) ≠ [] := by
  constructor
  · rintro ⟨before, mid, after, rfl, h⟩
    have hlt : before.length < (before ++ mid ++ after).length + 1 := by
      rw [List.append_assoc, List.length_append]
      omega
    refine ⟨before.length, hlt, List.ne_nil_of_mem (mem_ends_iff.mpr ⟨mid, after, ?_, rfl, ?_⟩)⟩
    · rw [List.append_assoc, List.drop_left]
    · rwa [List.append_assoc, List.take_left]
  · rintro ⟨n, -, hne⟩
    obtain ⟨k, hk⟩ := List.exists_mem_of_ne_nil _ hne
    obtain ⟨mid, rest, hdrop, -, h⟩ := mem_ends_iff.mp hk
    refine ⟨text.take n, mid, rest, ?_, h⟩
    rw [List.append_assoc, ← hdrop, List.take_append_drop]

instance (pattern : Pattern α) (text : List α) : Decidable (FullMatch isWord pattern text) :=
  decidable_of_iff _ fullMatch_iff.symm

instance (pattern : Pattern α) (prev : Bool) (text : List α) :
    Decidable (Occurs isWord pattern prev text) :=
  decidable_of_iff _ occurs_iff.symm

/-! ### What a match is made of -/

theorem minLength_append (atoms atoms' : Pattern α) :
    Pattern.minLength (atoms ++ atoms') = Pattern.minLength atoms + Pattern.minLength atoms' := by
  induction atoms with
  | nil => exact (Nat.zero_add _).symm
  | cons atom atoms ih => rw [List.cons_append, Pattern.minLength, Pattern.minLength, ih, Nat.add_assoc]

theorem Matches.minLength_le {pattern : Pattern α} {prev next : Bool} {mid : List α}
    (h : Matches isWord pattern prev mid next) : Pattern.minLength pattern ≤ mid.length := by
  induction h with
  | nil => exact le_rfl
  | boundary _ _ ih => rwa [Pattern.minLength, Atom.minLength, Nat.zero_add]
  | repeated _ hlo _ _ ih =>
    rw [Pattern.minLength, List.length_append]
    exact Nat.add_le_add hlo ih

theorem Matches.not_mem {pattern : Pattern α} {prev next : Bool} {mid : List α} {c : α}
    (h : Matches isWord pattern prev mid next) (hc : ∀ atom ∈ pattern, atom.accepts c = false) :
    c ∉ mid := by
  induction h with
  | nil => exact List.not_mem_nil
  | boundary _ _ ih => exact ih (List.forall_mem_cons.mp hc).2
  | repeated hchars _ _ _ ih =>
    rw [List.forall_mem_cons] at hc
    intro hmem
    rcases List.mem_append.mp hmem with htaken | htext
    · exact Bool.false_ne_true (hc.1.symm.trans (hchars c htaken))
    · exact ih hc.2 htext

theorem Matches.exists_accepts {pattern : Pattern α} {prev next : Bool} {mid : List α} {atom : Atom α}
    (h : Matches isWord pattern prev mid next) (hatom : atom ∈ pattern) (hpos : 0 < atom.minLength) :
    ∃ c ∈ mid, atom.accepts c = true := by
  induction h with
  | nil => exact absurd hatom List.not_mem_nil
  | boundary _ _ ih =>
    rcases List.mem_cons.mp hatom with rfl | hmem
    · exact absurd hpos (lt_irrefl 0)
    · exact ih hmem
  | @repeated _ _ _ _ _ _ taken text hchars hlo _ _ ih =>
    rcases List.mem_cons.mp hatom with rfl | hmem
    · obtain ⟨c, hc⟩ := List.exists_mem_of_length_pos (hpos.trans_le hlo)
      exact ⟨c, List.mem_append_left _ hc, hchars c hc⟩
    · obtain ⟨c, hc, haccepts⟩ := ih hmem
      exact ⟨c, List.mem_append_right _ hc, haccepts⟩

theorem Occurs.exists_accepts {pattern : Pattern α} {prev : Bool} {text : List α} {atom : Atom α}
    (h : Occurs isWord pattern prev text) (hatom : atom ∈ pattern) (hpos : 0 < atom.minLength) :
    ∃ c ∈ text, atom.accepts c = true := by
  obtain ⟨before, mid, after, rfl, hmatch⟩ := h
  obtain ⟨c, hc, haccepts⟩ := hmatch.exists_accepts hatom hpos
  exact ⟨c, List.mem_append_left _ (List.mem_append_right _ hc), haccepts⟩

theorem Matches.congr {pattern : Pattern α} {prev next : Bool} {mid : List α}
    (h : Matches isWord pattern prev mid next) (hrepeats : ∀ atom ∈ pattern, atom.isRepeat = true)
    (prev' next' : Bool) : Matches isWord pattern prev' mid next' := by
  induction h generalizing prev' with
  | nil => exact .nil _ _
  | boundary => exact absurd (hrepeats _ List.mem_cons_self) Bool.false_ne_true
  | repeated hchars hlo hhi _ ih =>
    exact .repeated hchars hlo hhi (ih (List.forall_mem_cons.mp hrepeats).2 _)

theorem matches_concat_boundary_iff {pattern : Pattern α} {prev next : Bool} {mid : List α} :
    Matches isWord (pattern ++ [.boundary]) prev mid next ↔
      Matches isWord pattern prev mid next ∧ endsWord isWord prev mid ≠ next := by
  induction pattern generalizing prev mid with
  | nil =>
    constructor
    · intro h
      cases h with
      | boundary hedge h =>
        cases h
        exact ⟨.nil _ _, hedge⟩
    · rintro ⟨h, hedge⟩
      cases h
      exact .boundary hedge (.nil _ _)
  | cons atom atoms ih =>
    constructor
    · intro h
      cases h with
      | boundary hedge h => exact ⟨.boundary hedge (ih.mp h).1, (ih.mp h).2⟩
      | repeated hchars hlo hhi h =>
        rw [endsWord_append]
        exact ⟨.repeated hchars hlo hhi (ih.mp h).1, (ih.mp h).2⟩
    · rintro ⟨h, hnext⟩
      cases h with
      | boundary hedge h => exact .boundary hedge (ih.mpr ⟨h, hnext⟩)
      | repeated hchars hlo hhi h =>
        rw [endsWord_append] at hnext
        exact .repeated hchars hlo hhi (ih.mpr ⟨h, hnext⟩)

theorem matches_bounded_iff {core : Pattern α} {prev next : Bool} {mid : List α} :
    Matches isWord (.boundary :: core ++ [.boundary]) prev mid next ↔
      Matches isWord core prev mid next ∧ prev ≠ startsWord isWord mid next ∧
        endsWord isWord prev mid ≠ next := by
  rw [List.cons_append]
  constructor
  · intro h
    cases h with
    | boundary hedge h =>
      obtain ⟨hcore, hnext⟩ := matches_concat_boundary_iff.mp h
      exact ⟨hcore, hedge, hnext⟩
  · rintro ⟨hcore, hedge, hnext⟩
    exact .boundary hedge (matches_concat_boundary_iff.mpr ⟨hcore, hnext⟩)

/-! ### The first match -/

/-- What matches starts with no character of the set. -/
def StopsAt (chars : α → Bool) : Pattern α → Prop
  | [] => True
  | .boundary :: atoms => StopsAt chars atoms
  | .repeated chars' lo _ :: _ => 0 < lo ∧ ∀ c, chars c = true → chars' c = false

/-- Every repeat has a fixed length or ends where what follows it begins. -/
def Determined : Pattern α → Prop
  | [] => True
  | .boundary :: atoms => Determined atoms
  | .repeated chars lo hi :: atoms => (hi = some lo ∨ StopsAt chars atoms) ∧ Determined atoms

section determined

variable {chars : α → Bool} {n : ℕ} {atoms : Pattern α}

@[simp] theorem determined_nil : Determined ([] : Pattern α) := trivial

@[simp] theorem determined_boundary : Determined (.boundary :: atoms) ↔ Determined atoms := Iff.rfl

@[simp] theorem determined_exactly : Determined (.exactly chars n :: atoms) ↔ Determined atoms :=
  and_iff_right (.inl rfl)

@[simp] theorem determined_atLeast :
    Determined (.atLeast chars n :: atoms) ↔ StopsAt chars atoms ∧ Determined atoms :=
  and_congr_left fun _ => or_iff_right nofun

@[simp] theorem stopsAt_end : StopsAt chars [.boundary] := trivial

@[simp] theorem stopsAt_exactly {chars' : α → Bool} : StopsAt chars (.exactly chars' n :: atoms) ↔
    0 < n ∧ ∀ c, chars c = true → chars' c = false := Iff.rfl

end determined

theorem StopsAt.takeWhile_eq_nil {chars : α → Bool} {pattern : Pattern α} {prev next : Bool}
    {mid : List α} (hstops : StopsAt chars pattern) (h : Matches isWord pattern prev mid next) :
    mid.takeWhile chars = [] := by
  induction h with
  | nil => rfl
  | boundary _ _ ih => exact ih hstops
  | @repeated _ _ _ _ _ _ taken text hchars hlo =>
    cases taken with
    | nil => exact absurd (hstops.1.trans_le hlo) (lt_irrefl 0)
    | cons c cs =>
      refine List.takeWhile_cons_of_neg fun hc => ?_
      exact Bool.false_ne_true ((hstops.2 c hc).symm.trans (hchars c List.mem_cons_self))

theorem head?_repeats {chars : α → Bool} {lo : ℕ} {hi : Option ℕ} {text : List α}
    (hle : lo ≤ most chars hi text) :
    (repeats chars lo hi text).head? = some (most chars hi text) := by
  rw [repeats, List.head?_reverse, List.range_succ, List.filter_append,
    List.filter_cons_of_pos (by simpa using hle), List.filter_nil, List.getLast?_concat]

/-- The most that a repeat takes of a match is what it has in it. -/
theorem most_of_determined {chars : α → Bool} {lo : ℕ} {hi : Option ℕ} {atoms : Pattern α}
    {prev next : Bool} {taken text : List α} (hchars : ∀ c ∈ taken, chars c = true)
    (hlo : lo ≤ taken.length) (hhi : ∀ n ∈ hi, taken.length ≤ n)
    (h : Matches isWord atoms prev text next) (hdetermined : hi = some lo ∨ StopsAt chars atoms) :
    most chars hi (taken ++ text) = taken.length := by
  refine le_antisymm ?_ (le_most_iff.mpr ⟨hhi, ?_, ?_⟩)
  · rcases hdetermined with rfl | hstops
    · exact ((le_most_iff.mp le_rfl).1 lo rfl).trans hlo
    · have hrun : (taken ++ text).takeWhile chars = taken := by
        rw [List.takeWhile_append_of_pos hchars, hstops.takeWhile_eq_nil h, List.append_nil]
      cases hi with
      | none => rw [most, hrun]
      | some n =>
        rw [most, hrun]
        exact min_le_left _ _
  · rw [List.length_append]
    exact Nat.le_add_right _ _
  · rwa [List.take_left]

/-- Where the whole text matches a determined pattern, it is what the search finds first. -/
theorem Matches.head?_ends {pattern : Pattern α} {prev : Bool} {text : List α}
    (h : Matches isWord pattern prev text false) (hdetermined : Determined pattern) :
    (ends isWord pattern prev text).head? = some text.length := by
  generalize hnext : false = next at h
  induction h with
  | nil => rfl
  | boundary hedge _ ih =>
    subst hnext
    rw [ends, if_neg hedge]
    exact ih hdetermined rfl
  | @repeated chars lo hi atoms _ _ taken text hchars hlo hhi h ih =>
    have hmost := most_of_determined hchars hlo hhi h hdetermined.1
    have hhead := head?_repeats (hlo.trans_eq hmost.symm)
    rw [hmost] at hhead
    obtain ⟨rest, hrepeats⟩ := List.head?_eq_some_iff.mp hhead
    rw [ends, hrepeats, List.head?_flatMap, List.findSome?_cons, List.take_left, List.drop_left,
      List.head?_map, ih hdetermined.2 hnext, Option.map_some, List.length_append]

/-! ### Replacing -/

section sub

variable {pattern : Pattern α} {repl : List α}

theorem sub_skip (prev : Bool) (n : ℕ) (text : List α) :
    sub isWord pattern repl prev n text =
      sub isWord pattern repl (endsWord isWord prev (text.take n)) 0 (text.drop n) := by
  induction n generalizing prev text with
  | zero => rfl
  | succ n ih =>
    cases text with
    | nil => rfl
    | cons c cs => exact ih (isWord c) cs

theorem sub_of_head?_ends {prev : Bool} {text : List α} {n : ℕ}
    (h : (ends isWord pattern prev text).head? = some n) (hpos : 0 < n) (hle : n ≤ text.length) :
    sub isWord pattern repl prev 0 text =
      repl ++ sub isWord pattern repl (endsWord isWord prev (text.take n)) 0 (text.drop n) := by
  cases n with
  | zero => exact absurd hpos (lt_irrefl 0)
  | succ n =>
    cases text with
    | nil => exact absurd hle (Nat.not_succ_le_zero n)
    | cons c cs =>
      rw [sub, h]
      exact congrArg (repl ++ ·) (sub_skip (isWord c) n cs)

theorem sub_of_ends_eq_nil {prev : Bool} {c : α} {cs : List α}
    (h : ends isWord pattern prev (c :: cs) = []) :
    sub isWord pattern repl prev 0 (c :: cs) = c :: sub isWord pattern repl (isWord c) 0 cs := by
  rw [sub, h]
  rfl

theorem pos_of_mem_ends (hpos : 0 < Pattern.minLength pattern) {prev : Bool} {text : List α}
    {k : ℕ} (h : k ∈ ends isWord pattern prev text) : 0 < k ∧ k ≤ text.length := by
  obtain ⟨mid, rest, rfl, rfl, hmatch⟩ := mem_ends_iff.mp h
  exact ⟨hpos.trans_le hmatch.minLength_le, by simp⟩

/-! ### Separators -/

variable {c : α}

theorem ends_append_separator (hword : isWord c = false)
    (hc : ∀ atom ∈ pattern, atom.accepts c = false) (prev : Bool) (t u : List α) :
    ends isWord pattern prev (t ++ c :: u) = ends isWord pattern prev t := by
  induction pattern generalizing prev t with
  | nil => rfl
  | cons atom atoms ih =>
    have hatoms := (List.forall_mem_cons.mp hc).2
    cases atom with
    | boundary => rw [ends, ends, startsWord_append, startsWord_cons, hword, ih hatoms]
    | repeated chars lo hi =>
      have hrejects : chars c = false := hc _ List.mem_cons_self
      have hrun : (t ++ c :: u).takeWhile chars = t.takeWhile chars := by
        rw [List.takeWhile_append, List.takeWhile_cons_of_neg (Bool.eq_false_iff.mp hrejects),
          List.append_nil]
        split_ifs with hall
        · exact ((List.takeWhile_prefix chars).eq_of_length hall).symm
        · rfl
      have hrepeats : repeats chars lo hi (t ++ c :: u) = repeats chars lo hi t := by
        unfold repeats most
        rw [hrun]
      rw [ends, ends, hrepeats]
      refine List.flatMap_congr fun k hk => ?_
      obtain ⟨-, hle, -⟩ := le_most_iff.mp (mem_repeats_iff.mp hk).2
      rw [List.take_append_of_le_length hle, List.drop_append_of_le_length hle, ih hatoms]

theorem sub_append_separator (hpos : 0 < Pattern.minLength pattern) (hword : isWord c = false)
    (hc : ∀ atom ∈ pattern, atom.accepts c = false) (prev : Bool) {skip : ℕ} {t : List α}
    (hskip : skip ≤ t.length) (u : List α) :
    sub isWord pattern repl prev skip (t ++ c :: u) =
      sub isWord pattern repl prev skip t ++ c :: sub isWord pattern repl false 0 u := by
  induction t generalizing prev skip with
  | nil =>
    obtain rfl := Nat.le_zero.mp hskip
    have hends : ends isWord pattern prev (c :: u) = [] := by
      rw [← List.nil_append (c :: u), ends_append_separator hword hc, List.eq_nil_iff_forall_not_mem]
      intro k hk
      obtain ⟨hk, hle⟩ := pos_of_mem_ends hpos hk
      exact absurd hle (Nat.not_le.mpr hk)
    rw [List.nil_append, sub_of_ends_eq_nil hends, hword]
    rfl
  | cons d t ih =>
    cases skip with
    | succ skip =>
      rw [List.cons_append, sub, sub]
      exact ih (isWord d) (Nat.le_of_succ_le_succ hskip)
    | zero =>
      rw [List.cons_append, sub, sub, ← List.cons_append, ends_append_separator hword hc]
      cases hfirst : (ends isWord pattern prev (d :: t)).head? with
      | none =>
        dsimp only
        rw [ih (isWord d) (Nat.zero_le _), List.cons_append]
      | some n =>
        obtain ⟨hn, hle⟩ := pos_of_mem_ends hpos (List.mem_of_head? hfirst)
        cases n with
        | zero => exact absurd hn (lt_irrefl 0)
        | succ n =>
          dsimp only
          rw [ih (isWord d) (Nat.le_of_succ_le_succ hle), List.append_assoc]

end sub

end RefCheck.Regex
