import RefCheck.Lib.Text

/-!
# The grammar of JSON texts

Which texts are JSON, on lists of characters. A raw character below the space is white space between
tokens (`IsJsonText.char`), so a JSON text ends a line, where it has neither a line feed nor a carriage
return, only at one of the three line separators beyond ASCII that a string may hold
(`IsJsonText.isLineBreak_iff`).
-/

namespace RefCheck.JsonText

/-- White space between tokens. -/
def Ws (cs : List Char) : Prop := ∀ c ∈ cs, c ∈ [' ', '\t', '\n', '\r']

def isHex (c : Char) : Bool := c.isDigit || ('a' ≤ c && c ≤ 'f') || ('A' ≤ c && c ≤ 'F')

/-- What stands between the quotes of a string. -/
inductive Chars : List Char → Prop
  | nil : Chars []
  | unescaped {c : Char} {cs : List Char} (hlow : 0x20 ≤ c.toNat) (hquote : c ≠ '"')
      (hbackslash : c ≠ '\\') (hcs : Chars cs) : Chars (c :: cs)
  | escape {c : Char} {cs : List Char} (hc : c ∈ ['"', '\\', '/', 'b', 'f', 'n', 'r', 't'])
      (hcs : Chars cs) : Chars ('\\' :: c :: cs)
  | unicode {a b c d : Char} {cs : List Char} (hhex : [a, b, c, d].all isHex) (hcs : Chars cs) :
      Chars ('\\' :: 'u' :: a :: b :: c :: d :: cs)

def Digits (cs : List Char) : Prop := cs ≠ [] ∧ ∀ c ∈ cs, c.isDigit = true

/-- An integer without leading zeros, a fraction and an exponent. -/
inductive Number : List Char → Prop
  | mk {sign int frac exp : List Char} (hsign : sign ∈ [[], ['-']]) (hint : Digits int)
      (hzero : int.head? = some '0' → int = ['0'])
      (hfrac : frac = [] ∨ ∃ ds, Digits ds ∧ frac = '.' :: ds)
      (hexp : exp = [] ∨ ∃ e s ds, e ∈ ['e', 'E'] ∧ s ∈ [[], ['+'], ['-']] ∧ Digits ds ∧
        exp = e :: (s ++ ds)) :
      Number (sign ++ int ++ frac ++ exp)

/-- What a production derives. -/
inductive Kind where
  | value
  | padded
  | elements
  | members

/-- The productions: values, values with white space around them, the elements of an array, and the
members of an object. -/
inductive Derives : Kind → List Char → Prop
  | literal {cs : List Char} (hcs : cs ∈ ["false".toList, "null".toList, "true".toList]) :
      Derives .value cs
  | number {cs : List Char} (hcs : Number cs) : Derives .value cs
  | string {cs : List Char} (hcs : Chars cs) : Derives .value ('"' :: (cs ++ ['"']))
  | emptyArray {ws : List Char} (hws : Ws ws) : Derives .value ('[' :: (ws ++ [']']))
  | array {cs : List Char} (hcs : Derives .elements cs) : Derives .value ('[' :: (cs ++ [']']))
  | emptyObject {ws : List Char} (hws : Ws ws) : Derives .value ('\x7b' :: (ws ++ ['\x7d']))
  | object {cs : List Char} (hcs : Derives .members cs) : Derives .value ('\x7b' :: (cs ++ ['\x7d']))
  | padded {l v r : List Char} (hl : Ws l) (hv : Derives .value v) (hr : Ws r) :
      Derives .padded (l ++ v ++ r)
  | element {v : List Char} (hv : Derives .padded v) : Derives .elements v
  | elements {v cs : List Char} (hv : Derives .padded v) (hcs : Derives .elements cs) :
      Derives .elements (v ++ ',' :: cs)
  | member {l k m v : List Char} (hl : Ws l) (hk : Chars k) (hm : Ws m) (hv : Derives .padded v) :
      Derives .members (l ++ '"' :: (k ++ '"' :: (m ++ ':' :: v)))
  | members {l k m v cs : List Char} (hl : Ws l) (hk : Chars k) (hm : Ws m) (hv : Derives .padded v)
      (hcs : Derives .members cs) :
      Derives .members (l ++ '"' :: (k ++ '"' :: (m ++ ':' :: (v ++ ',' :: cs))))

/-- A JSON text: a value, with white space around it. -/
def IsJsonText (cs : List Char) : Prop := Derives .padded cs

theorem chars_of_all {cs : List Char}
    (h : cs.all fun c => 0x20 ≤ c.toNat && c ≠ '"' && c ≠ '\\') : Chars cs := by
  induction cs with
  | nil => exact .nil
  | cons c cs ih =>
    simp only [List.all_cons, Bool.and_eq_true, decide_eq_true_eq] at h
    obtain ⟨⟨⟨hlow, hquote⟩, hbackslash⟩, hcs⟩ := h
    exact .unescaped hlow hquote hbackslash (ih (by simpa using hcs))

theorem Derives.unpadded {v : List Char} (h : Derives .value v) : Derives .padded v := by
  have hws : Ws [] := by simp [Ws]
  simpa using Derives.padded hws h hws

/-! ### The characters of a text -/

/-- What any character of a JSON text is. -/
def IsTextChar (c : Char) : Prop := 0x20 ≤ c.toNat ∨ c ∈ ['\t', '\n', '\r']

instance (c : Char) : Decidable (IsTextChar c) := inferInstanceAs (Decidable (_ ∨ _))

theorem isTextChar_of_all {cs : List Char} (h : cs.all fun c => decide (IsTextChar c)) :
    ∀ c ∈ cs, IsTextChar c :=
  fun c hc => of_decide_eq_true (List.all_eq_true.mp h c hc)

theorem Ws.isTextChar {cs : List Char} (h : Ws cs) : ∀ c ∈ cs, IsTextChar c := by
  intro c hc
  rcases List.mem_cons.mp (h c hc) with rfl | hbreak
  · decide
  · exact .inr hbreak

theorem isTextChar_of_isHex {c : Char} (h : isHex c = true) : IsTextChar c := by
  left
  simp only [isHex, Char.isDigit, Bool.or_eq_true, Bool.and_eq_true, decide_eq_true_eq,
    UInt32.le_iff_toNat_le, Char.le_def] at h
  change ((48 ≤ c.toNat ∧ c.toNat ≤ 57) ∨ (97 ≤ c.toNat ∧ c.toNat ≤ 102)) ∨
    (65 ≤ c.toNat ∧ c.toNat ≤ 70) at h
  omega

theorem Chars.isTextChar {cs : List Char} (h : Chars cs) : ∀ c ∈ cs, IsTextChar c := by
  induction h with
  | nil => simp
  | unescaped hlow hquote hbackslash hcs ih =>
    rw [List.forall_mem_cons]
    exact ⟨.inl hlow, ih⟩
  | @escape c cs hc hcs ih =>
    have hall : ['"', '\\', '/', 'b', 'f', 'n', 'r', 't'].all (fun c => decide (IsTextChar c)) := by
      decide
    rw [List.forall_mem_cons, List.forall_mem_cons]
    exact ⟨by decide, of_decide_eq_true (List.all_eq_true.mp hall c hc), ih⟩
  | unicode hhex hcs ih =>
    simp only [List.all_cons, List.all_nil, Bool.and_true, Bool.and_eq_true] at hhex
    obtain ⟨ha, hb, hc, hd⟩ := hhex
    simp only [List.forall_mem_cons]
    exact ⟨by decide, by decide, isTextChar_of_isHex ha, isTextChar_of_isHex hb,
      isTextChar_of_isHex hc, isTextChar_of_isHex hd, ih⟩

theorem Digits.isTextChar {cs : List Char} (h : Digits cs) : ∀ c ∈ cs, IsTextChar c := by
  intro c hc
  have hbounds := Text.isDigit_bounds (h.2 c hc)
  exact .inl (by omega)

theorem Number.isTextChar {cs : List Char} (h : Number cs) : ∀ c ∈ cs, IsTextChar c := by
  obtain ⟨hsign, hint, -, hfrac, hexp⟩ := h
  simp only [List.mem_append, or_imp, forall_and]
  refine ⟨⟨⟨?_, hint.isTextChar⟩, ?_⟩, ?_⟩
  · rcases List.mem_pair.mp hsign with rfl | rfl
    · simp
    · simp [IsTextChar]
  · rcases hfrac with rfl | ⟨ds, hds, rfl⟩
    · simp
    · rw [List.forall_mem_cons]
      exact ⟨by decide, hds.isTextChar⟩
  · rcases hexp with rfl | ⟨e, s, ds, he, hs, hds, rfl⟩
    · simp
    · rw [List.forall_mem_cons, List.forall_mem_append]
      refine ⟨?_, ?_, hds.isTextChar⟩
      · rcases List.mem_pair.mp he with rfl | rfl <;> decide
      · simp only [List.mem_cons, List.not_mem_nil, or_false] at hs
        rcases hs with rfl | rfl | rfl <;> simp [IsTextChar]

theorem Derives.isTextChar {kind : Kind} {cs : List Char} (h : Derives kind cs) :
    ∀ c ∈ cs, IsTextChar c := by
  induction h with
  | @literal cs hcs =>
    have hall : ["false".toList, "null".toList, "true".toList].all fun cs =>
        cs.all fun c => decide (IsTextChar c) := by decide
    intro c hc
    exact of_decide_eq_true (List.all_eq_true.mp (List.all_eq_true.mp hall cs hcs) c hc)
  | number hcs => exact hcs.isTextChar
  | string hcs =>
    simp only [List.forall_mem_cons, List.forall_mem_append]
    exact ⟨by decide, hcs.isTextChar, by decide, by simp⟩
  | emptyArray hws =>
    simp only [List.forall_mem_cons, List.forall_mem_append]
    exact ⟨by decide, hws.isTextChar, by decide, by simp⟩
  | array hcs ih =>
    simp only [List.forall_mem_cons, List.forall_mem_append]
    exact ⟨by decide, ih, by decide, by simp⟩
  | emptyObject hws =>
    simp only [List.forall_mem_cons, List.forall_mem_append]
    exact ⟨by decide, hws.isTextChar, by decide, by simp⟩
  | object hcs ih =>
    simp only [List.forall_mem_cons, List.forall_mem_append]
    exact ⟨by decide, ih, by decide, by simp⟩
  | padded hl hv hr ih =>
    simp only [List.forall_mem_append]
    exact ⟨⟨hl.isTextChar, ih⟩, hr.isTextChar⟩
  | element hv ih => exact ih
  | elements hv hcs ihv ihcs =>
    simp only [List.forall_mem_cons, List.forall_mem_append]
    exact ⟨ihv, by decide, ihcs⟩
  | member hl hk hm hv ih =>
    simp only [List.forall_mem_cons, List.forall_mem_append]
    exact ⟨hl.isTextChar, by decide, hk.isTextChar, by decide, hm.isTextChar, by decide, ih⟩
  | members hl hk hm hv hcs ihv ihcs =>
    simp only [List.forall_mem_cons, List.forall_mem_append]
    exact ⟨hl.isTextChar, by decide, hk.isTextChar, by decide, hm.isTextChar, by decide, ihv,
      by decide, ihcs⟩

/-! ### Lines of a text -/

theorem IsTextChar.isLineBreak_iff {c : Char} (h : IsTextChar c) :
    Text.isLineBreak c = true ↔ c ∈ ['\n', '\r', '\u0085', '\u2028', '\u2029'] := by
  simp only [IsTextChar, List.mem_cons, List.not_mem_nil, or_false, ← Char.toNat_inj,
    Char.reduceToNat] at h ⊢
  simp only [Text.isLineBreak, Bool.or_eq_true, Bool.and_eq_true, decide_eq_true_eq]
  omega

theorem Number.exists_visible {cs : List Char} (h : Number cs) :
    ∃ c ∈ cs, Text.isSpace c = false := by
  obtain ⟨-, hint, -, -, -⟩ := h
  obtain ⟨c, hc⟩ := List.exists_mem_of_ne_nil _ hint.1
  refine ⟨c, ?_, Text.isSpace_of_isDigit (hint.2 c hc)⟩
  exact List.mem_append_left _ (List.mem_append_left _ (List.mem_append_right _ hc))

theorem Derives.exists_visible {kind : Kind} {cs : List Char} (h : Derives kind cs) :
    ∃ c ∈ cs, Text.isSpace c = false := by
  induction h with
  | @literal cs hcs =>
    simp only [List.mem_cons, List.not_mem_nil, or_false] at hcs
    rcases hcs with rfl | rfl | rfl
    · exact ⟨'f', by decide, by decide⟩
    · exact ⟨'n', by decide, by decide⟩
    · exact ⟨'t', by decide, by decide⟩
  | number hcs => exact hcs.exists_visible
  | string hcs => exact ⟨'"', List.mem_cons_self, by decide⟩
  | emptyArray hws => exact ⟨'[', List.mem_cons_self, by decide⟩
  | array hcs ih => exact ⟨'[', List.mem_cons_self, by decide⟩
  | emptyObject hws => exact ⟨'\x7b', List.mem_cons_self, by decide⟩
  | object hcs ih => exact ⟨'\x7b', List.mem_cons_self, by decide⟩
  | padded hl hv hr ih =>
    obtain ⟨c, hc, hspace⟩ := ih
    exact ⟨c, List.mem_append_left _ (List.mem_append_right _ hc), hspace⟩
  | element hv ih => exact ih
  | elements hv hcs ihv ihcs =>
    obtain ⟨c, hc, hspace⟩ := ihv
    exact ⟨c, List.mem_append_left _ hc, hspace⟩
  | member hl hk hm hv ih =>
    exact ⟨'"', List.mem_append_right _ List.mem_cons_self, by decide⟩
  | members hl hk hm hv hcs ihv ihcs =>
    exact ⟨'"', List.mem_append_right _ List.mem_cons_self, by decide⟩

/-- A JSON text without line feeds and carriage returns is one line, exactly if it has none of the three
separators. -/
theorem IsJsonText.isLineBreak_iff {cs : List Char} (h : IsJsonText cs) (hfeed : '\n' ∉ cs)
    (hreturn : '\r' ∉ cs) :
    (∀ c ∈ cs, Text.isLineBreak c = false) ↔
      '\u0085' ∉ cs ∧ '\u2028' ∉ cs ∧ '\u2029' ∉ cs := by
  constructor
  · intro hline
    refine ⟨fun hc => ?_, fun hc => ?_, fun hc => ?_⟩ <;> cases hline _ hc
  · rintro ⟨hnel, hls, hps⟩ c hc
    rw [Bool.eq_false_iff]
    intro hbreak
    have hmem := (Derives.isTextChar h c hc).isLineBreak_iff.mp hbreak
    simp only [List.mem_cons, List.not_mem_nil, or_false] at hmem
    rcases hmem with rfl | rfl | rfl | rfl | rfl
    · exact hfeed hc
    · exact hreturn hc
    · exact hnel hc
    · exact hls hc
    · exact hps hc

end RefCheck.JsonText
