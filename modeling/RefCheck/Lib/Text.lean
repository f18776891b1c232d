import Mathlib.Data.List.DropRight
import Mathlib.Data.List.Infix

/-!
# Text operations of Python

`str.strip`, the decimal digits that `int` and the `\d` of a regular expression accept, `int` itself,
`str.split` at one character and words, on lists of characters. White space and decimal digits are
those of Unicode 14, the version of Python 3.11; of the word characters only what is needed is fixed.
`pyInt_toDigits` and `splitOn_three` read back what decimal rendering and concatenation with a
separator wrote.
-/

namespace RefCheck.Text

/-- `str.isspace` on one character. -/
def isSpace (c : Char) : Bool :=
  let n := c.toNat
  (0x9 ≤ n && n ≤ 0xd) || (0x1c ≤ n && n ≤ 0x20) || n = 0x85 || n = 0xa0 || n = 0x1680 ||
    (0x2000 ≤ n && n ≤ 0x200a) || n = 0x2028 || n = 0x2029 || n = 0x202f || n = 0x205f || n = 0x3000

def stripChars (cs : List Char) : List Char := (cs.dropWhile isSpace).rdropWhile isSpace

/-- `str.strip()`. -/
def strip (s : String) : String := String.ofList (stripChars s.toList)

/-- `word in text`. -/
def contains (word text : String) : Bool := decide (word.toList <:+: text.toList)

/-- `text.endswith(suffix)`. -/
def endsWith (suffix text : String) : Bool := decide (suffix.toList <:+ text.toList)

/-- `text.replace(old, new)`, of one character. -/
def replace (old new : Char) (text : String) : String :=
  String.ofList (text.toList.map fun c => if c = old then new else c)

/-- The characters at which `str.splitlines` ends a line. -/
def isLineBreak (c : Char) : Bool :=
  let n := c.toNat
  (0xa ≤ n && n ≤ 0xd) || (0x1c ≤ n && n ≤ 0x1e) || n = 0x85 || n = 0x2028 || n = 0x2029

/-- The lines of a text, after the characters `line` of the first one. -/
def linesAfter (line : List Char) : List Char → List (List Char)
  | [] => if line = [] then [] else [line]
  | '\r' :: '\n' :: cs => line :: linesAfter [] cs
  | c :: cs => if isLineBreak c then line :: linesAfter [] cs else linesAfter (line ++ [c]) cs

/-- `str.splitlines()`. -/
def splitlines (text : String) : List String := (linesAfter [] text.toList).map String.ofList

example : splitlines "a\r\nb\n\nc\n" = ["a", "b", "", "c"] := by decide

/-! ### Stripping -/

theorem stripChars_eq_self_iff_length (cs : List Char) :
    (stripChars cs).length = cs.length ↔ stripChars cs = cs := by
  constructor
  · intro h
    have hpre : stripChars cs <+: cs.dropWhile isSpace := List.rdropWhile_prefix isSpace _
    have hsuf : cs.dropWhile isSpace <:+ cs := List.dropWhile_suffix isSpace
    have hle := hpre.length_le
    have hle' := hsuf.length_le
    have hpre' := hpre.eq_of_length (by omega)
    rw [hpre']
    exact hsuf.eq_of_length (by omega)
  · intro h
    rw [h]

theorem length_stripChars_le (cs : List Char) : (stripChars cs).length ≤ cs.length := by
  have hpre : stripChars cs <+: cs.dropWhile isSpace := List.rdropWhile_prefix isSpace _
  have hsuf : cs.dropWhile isSpace <:+ cs := List.dropWhile_suffix isSpace
  exact le_trans hpre.length_le hsuf.length_le

theorem toList_strip (s : String) : (strip s).toList = stripChars s.toList := String.toList_ofList

theorem length_strip_le (s : String) : (strip s).length ≤ s.length := by
  rw [← String.length_toList, ← String.length_toList, toList_strip]
  exact length_stripChars_le s.toList

theorem length_strip_eq_iff (s : String) : (strip s).length = s.length ↔ strip s = s := by
  rw [← String.length_toList, ← String.length_toList, toList_strip, stripChars_eq_self_iff_length,
    ← toList_strip, String.toList_inj]

theorem stripChars_eq_self {cs : List Char} (h : ∀ c ∈ cs, isSpace c = false) :
    stripChars cs = cs := by
  have hdrop : cs.dropWhile isSpace = cs := by
    rw [List.dropWhile_eq_self_iff]
    intro hl
    simp [h _ (List.getElem_mem hl)]
  rw [stripChars, hdrop, List.rdropWhile_eq_self_iff]
  intro hl
  simp [h _ (List.getLast_mem hl)]

theorem stripChars_eq_nil_iff {cs : List Char} :
    stripChars cs = [] ↔ ∀ c ∈ cs, isSpace c = true := by
  rw [stripChars, List.rdropWhile_eq_nil_iff]
  constructor
  · intro h
    rw [← List.dropWhile_eq_nil_iff]
    by_contra hne
    have hhead := List.head_dropWhile_not isSpace hne
    rw [h _ (List.head_mem hne)] at hhead
    cases hhead
  · intro h c hc
    exact h c ((List.dropWhile_suffix isSpace).subset hc)

theorem strip_ne_empty {text : String} {c : Char} (hc : c ∈ text.toList)
    (hspace : isSpace c = false) : strip text ≠ "" := by
  intro h
  have hnil : stripChars text.toList = [] := by
    rw [← toList_strip, h]
    rfl
  rw [stripChars_eq_nil_iff.mp hnil c hc] at hspace
  cases hspace

/-! ### Lines -/

theorem linesAfter_append {cs : List Char} (h : ∀ c ∈ cs, isLineBreak c = false)
    (line rest : List Char) : linesAfter line (cs ++ rest) = linesAfter (line ++ cs) rest := by
  induction cs generalizing line with
  | nil => rw [List.nil_append, List.append_nil]
  | cons c cs ih =>
    have hc : isLineBreak c = false := h c List.mem_cons_self
    have hreturn : c ≠ '\r' := by
      rintro rfl
      cases hc
    rw [List.cons_append, linesAfter.eq_3 _ _ _ (fun _ he => absurd he hreturn), hc,
      if_neg Bool.false_ne_true, ih fun c' hc' => h c' (List.mem_cons_of_mem _ hc'),
      List.append_assoc, List.singleton_append]

theorem linesAfter_newline (line rest : List Char) :
    linesAfter line ('\n' :: rest) = line :: linesAfter [] rest := by
  simp [linesAfter, isLineBreak]

theorem isLineBreak_of_mem_linesAfter {line cs : List Char} (hline : ∀ c ∈ line, isLineBreak c = false) :
    ∀ l ∈ linesAfter line cs, ∀ c ∈ l, isLineBreak c = false := by
  induction line, cs using linesAfter.induct with
  | case1 => simp [linesAfter]
  | case2 line hne =>
    rw [linesAfter, if_neg hne]
    simpa using hline
  | case3 line cs ih =>
    rw [linesAfter, List.forall_mem_cons]
    exact ⟨hline, ih (by simp)⟩
  | case4 line c cs hreturn hbreak ih =>
    rw [linesAfter.eq_3 _ _ _ hreturn, if_pos hbreak, List.forall_mem_cons]
    exact ⟨hline, ih (by simp)⟩
  | case5 line c cs hreturn hbreak ih =>
    rw [linesAfter.eq_3 _ _ _ hreturn, if_neg hbreak]
    refine ih fun c' hc' => ?_
    rcases List.mem_append.mp hc' with hmem | hlast
    · exact hline c' hmem
    · rw [List.mem_singleton.mp hlast]
      exact Bool.eq_false_iff.mpr hbreak

theorem isLineBreak_of_mem_splitlines {text line : String} (h : line ∈ splitlines text) :
    ∀ c ∈ line.toList, isLineBreak c = false := by
  obtain ⟨l, hl, rfl⟩ := List.mem_map.mp h
  rw [String.toList_ofList]
  exact isLineBreak_of_mem_linesAfter (by simp) l hl

/-- Where only line feeds end lines, the lines that are not empty are those between line feeds. -/
theorem filter_linesAfter {cs : List Char} (h : ∀ c ∈ cs, isLineBreak c = true → c = '\n')
    (line : List Char) : (linesAfter line cs).filter (· ≠ []) =
      ((cs.splitOn '\n').modifyHead (line ++ ·)).filter (· ≠ []) := by
  induction cs generalizing line with
  | nil =>
    rw [List.splitOn_nil, linesAfter, List.modifyHead_cons, List.append_nil]
    split_ifs with hline <;> simp [hline]
  | cons c cs ih =>
    rw [List.forall_mem_cons] at h
    have hreturn : ∀ cs', c = '\r' → cs = '\n' :: cs' → False := fun _ hc _ => by
      subst hc
      exact absurd (h.1 (by decide)) (by decide)
    rw [linesAfter.eq_3 _ _ _ hreturn, List.splitOn, List.splitOnP_cons_eq_if_modifyHead]
    by_cases hc : c = '\n'
    · have hsame : ∀ lines : List (List Char), lines.modifyHead ([] ++ ·) = lines := by
        intro lines
        cases lines <;> rfl
      rw [hc, if_pos (by decide), if_pos (by simp), List.modifyHead_cons, List.append_nil,
        List.filter_cons, List.filter_cons, ih h.2, hsame]
      rfl
    · rw [if_neg (fun hbreak => hc (h.1 hbreak)), if_neg (by simpa using hc), ih h.2,
        List.modifyHead_modifyHead]
      congr 2
      funext l
      simp

theorem exists_mem_splitOn {cs : List Char} {c : Char} (hc : c ∈ cs) (hne : c ≠ '\n') :
    ∃ line ∈ cs.splitOn '\n', c ∈ line := by
  have hjoin : ['\n'].intercalate (cs.splitOn '\n') = cs := List.intercalate_splitOn '\n'
  rw [← hjoin] at hc
  generalize cs.splitOn '\n' = lines at hc ⊢
  induction lines with
  | nil => cases hc
  | cons line lines ih =>
    cases lines with
    | nil =>
      rw [List.intercalate_singleton] at hc
      exact ⟨line, List.mem_cons_self, hc⟩
    | cons next lines =>
      rw [List.intercalate_cons_cons, List.mem_append, List.mem_append, List.mem_singleton] at hc
      rcases hc with (hc | hc) | hc
      · exact ⟨line, List.mem_cons_self, hc⟩
      · exact absurd hc hne
      · obtain ⟨line', hline', hmem⟩ := ih hc
        exact ⟨line', List.mem_cons_of_mem _ hline', hmem⟩

theorem splitlines_intercalate {texts : List String} (hne : ∀ t ∈ texts, t ≠ "")
    (h : ∀ t ∈ texts, ∀ c ∈ t.toList, isLineBreak c = false) :
    splitlines ("\n".intercalate texts) = texts := by
  have hlast : ∀ t ∈ texts, splitlines t = [t] := by
    intro t ht
    have hlines := linesAfter_append (h t ht) [] []
    rw [List.append_nil, List.nil_append] at hlines
    have hchars : t.toList ≠ [] := fun hnil => hne t ht (String.toList_eq_nil_iff.mp hnil)
    rw [splitlines, hlines, linesAfter, if_neg hchars, List.map_singleton, String.ofList_toList]
  induction texts with
  | nil => rfl
  | cons t texts ih =>
    cases texts with
    | nil =>
      rw [String.intercalate_singleton]
      exact hlast t List.mem_cons_self
    | cons u texts =>
      have hrest := ih (fun t' ht' => hne t' (List.mem_cons_of_mem _ ht'))
        (fun t' ht' => h t' (List.mem_cons_of_mem _ ht'))
        (fun t' ht' => hlast t' (List.mem_cons_of_mem _ ht'))
      rw [splitlines] at hrest
      rw [String.intercalate_cons_cons, splitlines, String.toList_append, String.toList_append,
        List.append_assoc, linesAfter_append (h t List.mem_cons_self), List.nil_append,
        show "\n".toList = ['\n'] from rfl, List.singleton_append, linesAfter_newline, List.map_cons,
        String.ofList_toList, hrest]

/-! ### Decimal digits and `int` -/

/-- The zeros of the decimal digits of Unicode; the other nine digits follow each. -/
def decimalZeros : List ℕ :=
  [0x30, 0x660, 0x6f0, 0x7c0, 0x966, 0x9e6, 0xa66, 0xae6, 0xb66, 0xbe6, 0xc66, 0xce6, 0xd66, 0xde6,
    0xe50, 0xed0, 0xf20, 0x1040, 0x1090, 0x17e0, 0x1810, 0x1946, 0x19d0, 0x1a80, 0x1a90, 0x1b50,
    0x1bb0, 0x1c40, 0x1c50, 0xa620, 0xa8d0, 0xa900, 0xa9d0, 0xa9f0, 0xaa50, 0xabf0, 0xff10, 0x104a0,
    0x10d30, 0x11066, 0x110f0, 0x11136, 0x111d0, 0x112f0, 0x11450, 0x114d0, 0x11650, 0x116c0,
    0x11730, 0x118e0, 0x11950, 0x11c50, 0x11d50, 0x11da0, 0x16a60, 0x16ac0, 0x16b50, 0x1d7ce,
    0x1d7d8, 0x1d7e2, 0x1d7ec, 0x1d7f6, 0x1e140, 0x1e2f0, 0x1e950, 0x1fbf0]

/-- The value of a decimal digit. -/
def digitValue (c : Char) : Option ℕ :=
  (decimalZeros.find? (fun z => z ≤ c.toNat && c.toNat ≤ z + 9)).map (c.toNat - ·)

/-- The digits of a number after the value `acc`, single underscores between them. -/
def digitsAfter (acc : ℕ) : List Char → Option ℕ
  | [] => some acc
  | '_' :: c :: cs => (digitValue c).bind fun d => digitsAfter (10 * acc + d) cs
  | c :: cs => (digitValue c).bind fun d => digitsAfter (10 * acc + d) cs

def unsignedInt : List Char → Option ℕ
  | [] => none
  | c :: cs => (digitValue c).bind fun d => digitsAfter d cs

/-- `int` on a text: white space around it, a sign, decimal digits. -/
def pyInt (cs : List Char) : Option ℤ :=
  match stripChars cs with
  | '-' :: ds => (unsignedInt ds).map fun n => -(n : ℤ)
  | '+' :: ds => (unsignedInt ds).map Int.ofNat
  | ds => (unsignedInt ds).map Int.ofNat

theorem isDigit_bounds {c : Char} (h : c.isDigit = true) : 48 ≤ c.toNat ∧ c.toNat ≤ 57 := by
  simpa [Char.isDigit, UInt32.le_iff_toNat_le] using h

theorem digitValue_of_isDigit {c : Char} (h : c.isDigit = true) :
    digitValue c = some (c.toNat - 48) := by
  obtain ⟨h₁, h₂⟩ := isDigit_bounds h
  rw [digitValue, decimalZeros, List.find?_cons_of_pos (by simp; omega)]
  rfl

theorem isSpace_of_isDigit {c : Char} (h : c.isDigit = true) : isSpace c = false := by
  obtain ⟨h₁, h₂⟩ := isDigit_bounds h
  simp only [isSpace, Bool.or_eq_false_iff, Bool.and_eq_false_iff, decide_eq_false_iff_not]
  omega

theorem digitsAfter_eq_ofDigitChars (acc : ℕ) (cs : List Char) (h : ∀ c ∈ cs, c.isDigit = true) :
    digitsAfter acc cs = some (Nat.ofDigitChars 10 cs acc) := by
  induction cs generalizing acc with
  | nil => simp [digitsAfter]
  | cons c cs ih =>
    have hc := h c (by simp)
    have hne : c ≠ '_' := by
      rintro rfl
      simp at hc
    rw [digitsAfter.eq_3 _ _ _ (fun c' cs' he => absurd he hne), digitValue_of_isDigit hc,
      Option.bind_some, ih _ (fun c' hc' => h c' (by simp [hc'])), Nat.ofDigitChars_cons]
    rfl

/-- `int` reads back a rendered natural number. -/
theorem pyInt_toDigits (n : ℕ) : pyInt (Nat.toDigits 10 n) = some (n : ℤ) := by
  have hdigit : ∀ c ∈ Nat.toDigits 10 n, c.isDigit = true := fun c hc =>
    Nat.isDigit_of_mem_toDigits (by omega) (by omega) hc
  have hvalue := Nat.ofDigitChars_ten_toDigits (n := n)
  rw [pyInt, stripChars_eq_self (fun c hc => isSpace_of_isDigit (hdigit c hc))]
  cases hcs : Nat.toDigits 10 n with
  | nil => exact absurd hcs Nat.toDigits_ne_nil
  | cons c cs =>
    rw [hcs] at hdigit hvalue
    have hc := hdigit c (by simp)
    have hneg : c ≠ '-' := by
      rintro rfl
      simp at hc
    have hpos : c ≠ '+' := by
      rintro rfl
      simp at hc
    have hun : unsignedInt (c :: cs) = some n := by
      rw [unsignedInt, digitValue_of_isDigit hc, Option.bind_some,
        digitsAfter_eq_ofDigitChars _ _ (fun c' hc' => hdigit c' (by simp [hc']))]
      rw [Nat.ofDigitChars_cons] at hvalue
      simpa using hvalue
    split
    · rename_i heq
      exact absurd (List.cons.inj heq).1 hneg
    · rename_i heq
      exact absurd (List.cons.inj heq).1 hpos
    · rw [hun]
      rfl

/-! ### Separators -/

theorem splitOn_three {sep : Char} {a b c : List Char} (ha : sep ∉ a) (hb : sep ∉ b)
    (hc : sep ∉ c) : (a ++ sep :: (b ++ sep :: c)).splitOn sep = [a, b, c] := by
  have h : ([sep].intercalate [a, b, c]).splitOn sep = [a, b, c] :=
    List.splitOn_intercalate sep (by simp [ha, hb, hc]) (by simp)
  simpa [List.intercalate, List.intersperse] using h

/-- The text before the first separator, and the text after it, are determined. -/
theorem append_sep_inj {sep : Char} {a a' b b' : List Char} (ha : sep ∉ a) (ha' : sep ∉ a')
    (h : a ++ sep :: b = a' ++ sep :: b') : a = a' ∧ b = b' := by
  induction a generalizing a' with
  | nil =>
    cases a' with
    | nil => simpa using h
    | cons c' a' =>
      rw [List.nil_append, List.cons_append, List.cons.injEq] at h
      exact absurd h.1 (fun he => ha' (by simp [he]))
  | cons c a ih =>
    cases a' with
    | nil =>
      rw [List.nil_append, List.cons_append, List.cons.injEq] at h
      exact absurd h.1 (fun he => ha (by simp [he]))
    | cons c' a' =>
      rw [List.cons_append, List.cons_append, List.cons.injEq] at h
      obtain ⟨rfl, h⟩ := h
      obtain ⟨rfl, rfl⟩ := ih (fun hm => ha (by simp [hm])) (fun hm => ha' (by simp [hm])) h
      exact ⟨rfl, rfl⟩

theorem not_mem_toDigits {c : Char} (hc : c.isDigit = false) (n : ℕ) : c ∉ Nat.toDigits 10 n := by
  intro h
  rw [Nat.isDigit_of_mem_toDigits (by omega) (by omega) h] at hc
  cases hc

theorem toDigits_inj {n m : ℕ} (h : Nat.toDigits 10 n = Nat.toDigits 10 m) : n = m := by
  rw [← Nat.ofDigitChars_ten_toDigits (n := n), h, Nat.ofDigitChars_ten_toDigits]

/-! ### Words -/

/-- The characters that the `\w` of a regular expression accepts: which ones beyond ASCII depends on
the version of Unicode, but every decimal digit is among them. -/
structure WordChars where
  isWord : Char → Bool
  isWord_ascii : ∀ c, c.toNat < 128 → isWord c = (c.isAlphanum || c = '_')
  isWord_digit : ∀ c, (digitValue c).isSome → isWord c = true

theorem isAlphanum_of_digitValue {c : Char} (hc : c.toNat < 128) (h : (digitValue c).isSome) :
    c.isAlphanum = true := by
  have hzero : ∀ z ∈ decimalZeros, z < 128 → z = 48 := by decide
  rw [digitValue, Option.isSome_map, List.find?_isSome] at h
  obtain ⟨z, hz, hbounds⟩ := h
  rw [Bool.and_eq_true, decide_eq_true_eq, decide_eq_true_eq] at hbounds
  obtain rfl := hzero z hz (by omega)
  simp only [Char.isAlphanum, Bool.or_eq_true]
  right
  simp only [Char.isDigit, Bool.and_eq_true, decide_eq_true_eq, UInt32.le_iff_toNat_le]
  exact hbounds

/-- The word characters of ASCII and the decimal digits. -/
def WordChars.plain : WordChars where
  isWord c := c.isAlphanum || c = '_' || (digitValue c).isSome
  isWord_ascii c hc := by
    cases hdigit : (digitValue c).isSome with
    | false => rw [Bool.or_false]
    | true => rw [isAlphanum_of_digitValue hc hdigit, Bool.true_or, Bool.true_or]
  isWord_digit c h := by rw [h, Bool.or_true]

/-- The word occurs in the text as a whole: no word character stands right before it or after it. -/
def OccursWhole (isWord : Char → Bool) (word text : List Char) : Prop :=
  ∃ before after, text = before ++ word ++ after ∧
    before.getLast?.all (fun c => !isWord c) ∧ after.head?.all fun c => !isWord c

theorem OccursWhole.isInfix {isWord : Char → Bool} {word text : List Char}
    (h : OccursWhole isWord word text) : word <:+: text := by
  obtain ⟨before, after, rfl, -, -⟩ := h
  exact ⟨before, after, rfl⟩

theorem occursWhole_iff_exists_take {isWord : Char → Bool} {word text : List Char} :
    OccursWhole isWord word text ↔ ∃ n < text.length + 1,
      text = text.take n ++ word ++ text.drop (n + word.length) ∧
        (text.take n).getLast?.all (fun c => !isWord c) ∧
        (text.drop (n + word.length)).head?.all fun c => !isWord c := by
  constructor
  · rintro ⟨before, after, rfl, hbefore, hafter⟩
    have htake : (before ++ word ++ after).take before.length = before := by
      rw [List.append_assoc, List.take_left]
    have hdrop : (before ++ word ++ after).drop (before.length + word.length) = after := by
      rw [← List.length_append, List.drop_left]
    have hlt : before.length < (before ++ word ++ after).length + 1 := by
      rw [List.append_assoc, List.length_append]
      omega
    refine ⟨before.length, hlt, ?_⟩
    rw [htake, hdrop]
    exact ⟨rfl, hbefore, hafter⟩
  · rintro ⟨n, -, htext, hbefore, hafter⟩
    exact ⟨_, _, htext, hbefore, hafter⟩

instance (isWord : Char → Bool) (word text : List Char) : Decidable (OccursWhole isWord word text) :=
  decidable_of_iff _ occursWhole_iff_exists_take.symm

end RefCheck.Text
