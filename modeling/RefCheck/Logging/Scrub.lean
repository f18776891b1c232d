import RefCheck.Lib.Redaction
import RefCheck.Lib.Text

/-!
# The PII filter of the log

`PIIScrubFilter` of `logging_config.py`: three patterns, replaced one after another. After that no
pattern matches any more (`scrub_leaves_nothing`); a string that a pattern matches in full is replaced
whole exactly if it is not an e-mail address with an SSN or a long number in it (`redacted_whole_iff`).
-/

namespace RefCheck.Logging

open Regex Redaction Text

/-! ### The filter -/

/-- `\d`. -/
def isDigit (c : Char) : Bool := (digitValue c).isSome

/-- `_SSN_PATTERN`: `\b\d{3}-\d{2}-\d{4}\b`. -/
def ssnPattern : Pattern Char :=
  [.boundary, .exactly isDigit 3, .exactly (· = '-') 1, .exactly isDigit 2, .exactly (· = '-') 1,
    .exactly isDigit 4, .boundary]

/-- `_LONG_DIGIT_PATTERN`: `\b\d{9,}\b`. -/
def longDigitPattern : Pattern Char := [.boundary, .atLeast isDigit 9, .boundary]

section filter

variable (chars : WordChars)

/-- A set with `\w` and more characters. -/
def wordOr (more : List Char) (c : Char) : Bool := chars.isWord c || more.contains c

/-- `_EMAIL_PATTERN`: `\b[\w.+-]+@[\w-]+\.[\w.-]+\b`. -/
def emailPattern : Pattern Char :=
  [.boundary, .atLeast (wordOr chars ['.', '+', '-']) 1, .exactly (· = '@') 1,
    .atLeast (wordOr chars ['-']) 1, .exactly (· = '.') 1, .atLeast (wordOr chars ['.', '-']) 1,
    .boundary]

/-- `pattern.sub(repl, text)`. -/
def reSub (pattern : Pattern Char) (repl text : String) : String :=
  String.ofList (sub chars.isWord pattern repl.toList false 0 text.toList)

/-- The three substitutions. -/
def scrub (msg : String) : String :=
  let scrubbed := reSub chars ssnPattern "[REDACTED-SSN]" msg
  let scrubbed := reSub chars longDigitPattern "[REDACTED-NUM]" scrubbed
  reSub chars (emailPattern chars) "[REDACTED-EMAIL]" scrubbed

/-- A record, with the message and its arguments, if there are any. -/
structure LogRecord (A : Type) where
  msg : String
  args : Option A

variable {A : Type} (percent : String → A → String)

/-- `getMessage()`: `msg % args` if there are arguments. -/
def LogRecord.getMessage (record : LogRecord A) : String :=
  match record.args with
  | none => record.msg
  | some args => percent record.msg args

/-- `PIIScrubFilter.filter`: the record after it, and whether it is logged. -/
def filter (record : LogRecord A) : LogRecord A × Bool :=
  let msg := record.getMessage percent
  let scrubbed := scrub chars msg
  if scrubbed ≠ msg then ({ msg := scrubbed, args := none }, true) else (record, true)

/-! ### The rules -/

def ssnCore : Pattern Char :=
  [.exactly isDigit 3, .exactly (· = '-') 1, .exactly isDigit 2, .exactly (· = '-') 1,
    .exactly isDigit 4]

def longDigitCore : Pattern Char := [.atLeast isDigit 9]

def emailCore : Pattern Char :=
  [.atLeast (wordOr chars ['.', '+', '-']) 1, .exactly (· = '@') 1,
    .atLeast (wordOr chars ['-']) 1, .exactly (· = '.') 1, .atLeast (wordOr chars ['.', '-']) 1]

/-- What the patterns have between their word boundaries. -/
def cores : List (Pattern Char) := [ssnCore, longDigitCore, emailCore chars]

theorem forall_mem_cores (P : Pattern Char → Prop) (hssn : P ssnCore) (hlongDigit : P longDigitCore)
    (hemail : P (emailCore chars)) {core : Pattern Char} (hcore : core ∈ cores chars) : P core := by
  simp only [cores, List.mem_cons, List.not_mem_nil, or_false] at hcore
  rcases hcore with rfl | rfl | rfl
  · exact hssn
  · exact hlongDigit
  · exact hemail

theorem isWord_eq_false {c : Char} (hascii : c.toNat < 128)
    (hc : (c.isAlphanum || c = '_') = false) : chars.isWord c = false :=
  (chars.isWord_ascii c hascii).trans hc

theorem isDigit_eq_false {c : Char} (hword : chars.isWord c = false) : isDigit c = false := by
  rw [Bool.eq_false_iff]
  intro hdigit
  rw [chars.isWord_digit c hdigit] at hword
  cases hword

theorem wordOr_eq_false {more : List Char} {c : Char} (hword : chars.isWord c = false)
    (hmore : c ∉ more) : wordOr chars more c = false := by
  rw [wordOr, hword, Bool.false_or, List.contains_eq_mem, decide_eq_false hmore]

theorem rejects_of_mem_cores {c : Char} (hword : chars.isWord c = false)
    (hc : c ∉ ['@', '.', '+', '-']) {core : Pattern Char} (hcore : core ∈ cores chars) :
    ∀ atom ∈ core, atom.accepts c = false := by
  have hdigit := isDigit_eq_false chars hword
  simp only [List.mem_cons, List.not_mem_nil, or_false, not_or] at hc
  obtain ⟨hat, hdot, hplus, hdash⟩ := hc
  have hlocal : wordOr chars ['.', '+', '-'] c = false :=
    wordOr_eq_false chars hword (by simp [hdot, hplus, hdash])
  have hdomain : wordOr chars ['-'] c = false := wordOr_eq_false chars hword (by simp [hdash])
  have htail : wordOr chars ['.', '-'] c = false := wordOr_eq_false chars hword (by simp [hdot, hdash])
  refine forall_mem_cores chars (fun core => ∀ atom ∈ core, atom.accepts c = false) ?_ ?_ ?_ hcore
  · simp [ssnCore, hdigit, hdash]
  · simp [longDigitCore, hdigit]
  · simp [emailCore, hlocal, hat, hdomain, hdot, htail]

/-- What stands around the markers. -/
def brackets : Delimiters chars.isWord where
  opening := '['
  closing := ']'
  ne := by decide
  opening_word := isWord_eq_false chars (by decide) (by decide)
  closing_word := isWord_eq_false chars (by decide) (by decide)

/-- The rule of a pattern. -/
def piiRule (core : Pattern Char) (body : String) (hcore : core ∈ cores chars)
    (hopening : '[' ∉ body.toList) (hclosing : ']' ∉ body.toList) : Rule (brackets chars) where
  core := core
  body := body.toList
  isRepeat := forall_mem_cores chars (fun core => ∀ atom ∈ core, atom.isRepeat = true)
    (by simp [ssnCore]) (by simp [longDigitCore]) (by simp [emailCore]) hcore
  minLength_pos := forall_mem_cores chars (fun core => 0 < Pattern.minLength core)
    (by simp [ssnCore, Pattern.minLength]) (by simp [longDigitCore, Pattern.minLength])
    (by simp [emailCore, Pattern.minLength]) hcore
  rejects_opening := rejects_of_mem_cores chars (brackets chars).opening_word (by simp [brackets]) hcore
  rejects_closing := rejects_of_mem_cores chars (brackets chars).closing_word (by simp [brackets]) hcore
  opening_not_mem_body := hopening
  closing_not_mem_body := hclosing

def ssnRule : Rule (brackets chars) :=
  piiRule chars ssnCore "REDACTED-SSN" (by simp [cores]) (by decide) (by decide)

def longDigitRule : Rule (brackets chars) :=
  piiRule chars longDigitCore "REDACTED-NUM" (by simp [cores]) (by decide) (by decide)

def emailRule : Rule (brackets chars) :=
  piiRule chars (emailCore chars) "REDACTED-EMAIL" (by simp [cores]) (by decide) (by decide)

def rules : List (Rule (brackets chars)) := [ssnRule chars, longDigitRule chars, emailRule chars]

theorem forall_mem_rules {P : Rule (brackets chars) → Prop} (hssn : P (ssnRule chars))
    (hlongDigit : P (longDigitRule chars)) (hemail : P (emailRule chars)) : ∀ q ∈ rules chars, P q := by
  intro q hq
  simp only [rules, List.mem_cons, List.not_mem_nil, or_false] at hq
  rcases hq with rfl | rfl | rfl
  · exact hssn
  · exact hlongDigit
  · exact hemail

theorem pattern_ssnRule : (ssnRule chars).pattern = ssnPattern := rfl

theorem pattern_longDigitRule : (longDigitRule chars).pattern = longDigitPattern := rfl

theorem pattern_emailRule : (emailRule chars).pattern = emailPattern chars := rfl

theorem toList_reSub (pattern : Pattern Char) (repl text : String) :
    (reSub chars pattern repl text).toList =
      sub chars.isWord pattern repl.toList false 0 text.toList := String.toList_ofList

theorem toList_scrub (msg : String) :
    (scrub chars msg).toList = applyAll (rules chars) msg.toList := by
  rw [scrub, toList_reSub, toList_reSub, toList_reSub]
  rfl

/-- The markers. -/
def markers : List String := ["[REDACTED-SSN]", "[REDACTED-NUM]", "[REDACTED-EMAIL]"]

theorem map_marker_rules : (rules chars).map Rule.marker = markers.map String.toList := rfl

theorem spares_rules : ∀ q ∈ rules chars, ∀ r ∈ rules chars, q.Spares r := by
  have hplain : ∀ r ∈ rules chars, ∀ c ∈ r.marker, isDigit c = false ∧ c ≠ '@' := by
    have hmarkers : markers.all (fun marker =>
        marker.toList.all fun c => !isDigit c && c ≠ '@') = true := by decide +kernel
    intro r hr c hc
    have hmarker : r.marker ∈ markers.map String.toList := by
      rw [← map_marker_rules chars]
      exact List.mem_map_of_mem hr
    obtain ⟨marker, hmem, hmarker⟩ := List.mem_map.mp hmarker
    rw [← hmarker] at hc
    simpa using List.all_eq_true.mp (List.all_eq_true.mp hmarkers marker hmem) c hc
  refine forall_mem_rules chars ?_ ?_ ?_
  · intro r hr
    exact Rule.spares_of_rejects (.exactly isDigit 3) List.mem_cons_self (by decide)
      fun c hc => (hplain r hr c hc).1
  · intro r hr
    exact Rule.spares_of_rejects (.atLeast isDigit 9) List.mem_cons_self (by decide)
      fun c hc => (hplain r hr c hc).1
  · intro r hr
    exact Rule.spares_of_rejects (.exactly (· = '@') 1)
      (List.mem_cons_of_mem _ List.mem_cons_self) (by decide)
      fun c hc => decide_eq_false (hplain r hr c hc).2

/-! ### Nothing is left -/

theorem not_occurs_scrub (msg : String) :
    ∀ q ∈ rules chars, ¬ Occurs chars.isWord q.pattern false (scrub chars msg).toList := by
  rw [toList_scrub]
  exact not_occurs_applyAll (spares_rules chars) msg.toList

theorem scrub_scrub (msg : String) : scrub chars (scrub chars msg) = scrub chars msg := by
  rw [← String.toList_inj, toList_scrub]
  exact applyAll_eq_self (not_occurs_scrub chars msg)

section record

variable {chars percent} {record : LogRecord A}

theorem filter_of_eq (h : scrub chars (record.getMessage percent) = record.getMessage percent) :
    filter chars percent record = (record, true) := by
  unfold filter
  simp only [h, ne_eq, not_true_eq_false, if_false]

theorem filter_of_ne (h : scrub chars (record.getMessage percent) ≠ record.getMessage percent) :
    filter chars percent record =
      ({ msg := scrub chars (record.getMessage percent), args := none }, true) := by
  unfold filter
  simp only [h, ne_eq, not_false_eq_true, if_true]

end record

theorem getMessage_filter (record : LogRecord A) :
    (filter chars percent record).1.getMessage percent = scrub chars (record.getMessage percent) := by
  by_cases h : scrub chars (record.getMessage percent) = record.getMessage percent
  · rw [filter_of_eq h, h]
  · rw [filter_of_ne h]
    rfl

theorem filter_snd (record : LogRecord A) : (filter chars percent record).2 = true := by
  by_cases h : scrub chars (record.getMessage percent) = record.getMessage percent
  · rw [filter_of_eq h]
  · rw [filter_of_ne h]

theorem filter_filter (record : LogRecord A) :
    filter chars percent (filter chars percent record).1 = filter chars percent record := by
  have hsame : scrub chars ((filter chars percent record).1.getMessage percent) =
      (filter chars percent record).1.getMessage percent := by
    rw [getMessage_filter, scrub_scrub]
  rw [filter_of_eq hsame, ← filter_snd chars percent record]

/-- **Scrubbing leaves nothing to scrub, and changes nothing but what matched.** -/
theorem scrub_leaves_nothing (record : LogRecord A) :
    (∀ pattern ∈ [ssnPattern, longDigitPattern, emailPattern chars],
      ¬ Occurs chars.isWord pattern false (scrub chars (record.getMessage percent)).toList) ∧
    (filter chars percent record).1.getMessage percent = scrub chars (record.getMessage percent) ∧
    scrub chars (scrub chars (record.getMessage percent)) = scrub chars (record.getMessage percent) ∧
    filter chars percent (filter chars percent record).1 = filter chars percent record ∧
    Redacts (rules chars) Anywhere false (record.getMessage percent).toList
      (scrub chars (record.getMessage percent)).toList := by
  refine ⟨?_, getMessage_filter chars percent record, scrub_scrub chars _,
    filter_filter chars percent record, ?_⟩
  · intro pattern hpattern
    obtain ⟨q, hq, rfl⟩ : ∃ q ∈ rules chars, q.pattern = pattern := List.mem_map.mp hpattern
    exact not_occurs_scrub chars _ q hq
  · rw [toList_scrub]
    exact (Redacts.refl (rules chars) false _).applyAll (fun r hr => hr) (spares_rules chars)

example : scrub .plain "ssn 123-45-6789, call 5551234567 or jane.doe@example.com." =
    "ssn [REDACTED-SSN], call [REDACTED-NUM] or [REDACTED-EMAIL]." := by decide +kernel

/-! ### What is replaced whole -/

theorem scrub_append_space (t u : String) :
    scrub chars (t ++ " " ++ u) = scrub chars t ++ " " ++ scrub chars u := by
  have hword : chars.isWord ' ' = false := isWord_eq_false chars (by decide) (by decide)
  have hcores : ∀ r ∈ rules chars, r.core ∈ cores chars := by
    intro r hr
    exact List.mem_map_of_mem (f := Rule.core) hr
  rw [← String.toList_inj, toList_scrub]
  simp only [String.toList_append, toList_scrub, List.append_assoc]
  exact applyAll_append_separator hword
    (fun r hr => rejects_of_mem_cores chars hword (by decide) (hcores r hr)) _ _

theorem ne_of_wordOr {more : List Char} {c d : Char} (hc : wordOr chars more c = true)
    (hword : chars.isWord d = false) (hmore : d ∉ more) : c ≠ d := by
  rintro rfl
  rw [wordOr_eq_false chars hword hmore] at hc
  cases hc

theorem determined_rules : ∀ q ∈ rules chars, Determined q.pattern := by
  have hat : ∀ c, wordOr chars ['.', '+', '-'] c = true → c ≠ '@' := fun c hc =>
    ne_of_wordOr chars hc (isWord_eq_false chars (by decide) (by decide)) (by decide)
  have hdot : ∀ c, wordOr chars ['-'] c = true → c ≠ '.' := fun c hc =>
    ne_of_wordOr chars hc (isWord_eq_false chars (by decide) (by decide)) (by decide)
  refine forall_mem_rules chars ?_ ?_ ?_
  · rw [pattern_ssnRule]
    simp [ssnPattern]
  · rw [pattern_longDigitRule]
    simp [longDigitPattern]
  · rw [pattern_emailRule, emailPattern]
    simpa using ⟨hat, hdot⟩

section whole

variable {chars} {e : List Char}

theorem not_occurs_ssnPattern (h : FullMatch chars.isWord longDigitPattern e) :
    ¬ Occurs chars.isWord ssnPattern false e := by
  intro hoccurs
  have hnone : '-' ∉ e := h.not_mem (by simp [longDigitPattern]; decide)
  have hatom : .exactly (· = '-') 1 ∈ ssnPattern := by simp [ssnPattern]
  obtain ⟨c, hc, hdash⟩ := hoccurs.exists_accepts hatom (by decide)
  rw [Atom.accepts_exactly, decide_eq_true_eq] at hdash
  exact hnone (hdash ▸ hc)

theorem at_mem_of_fullMatch (h : FullMatch chars.isWord (emailPattern chars) e) : '@' ∈ e := by
  have hatom : .exactly (· = '@') 1 ∈ emailPattern chars := by simp [emailPattern]
  obtain ⟨c, hc, hat⟩ := h.exists_accepts hatom (by decide)
  rw [Atom.accepts_exactly, decide_eq_true_eq] at hat
  exact hat ▸ hc

theorem eq_emailRule_of_fullMatch (hemail : FullMatch chars.isWord (emailPattern chars) e) :
    ∀ q ∈ rules chars, FullMatch chars.isWord q.pattern e → q = emailRule chars := by
  have hat := at_mem_of_fullMatch hemail
  refine forall_mem_rules chars ?_ ?_ fun _ => rfl
  · intro h
    exact absurd hat (h.not_mem (by simp [pattern_ssnRule, ssnPattern]; decide))
  · intro h
    exact absurd hat (h.not_mem (by simp [pattern_longDigitRule, longDigitPattern]; decide))

theorem exists_marker_iff {text : List Char} :
    (∃ marker ∈ markers, marker.toList = text) ↔ ∃ r ∈ rules chars, r.marker = text := by
  rw [← List.mem_map, ← List.mem_map, map_marker_rules]

/-- What a rule matches in full becomes its marker, unless a rule before it finds a match there. -/
theorem exists_marker_of_fullMatch (before : List (Rule (brackets chars)))
    {after : List (Rule (brackets chars))} {q : Rule (brackets chars)}
    (hrules : rules chars = before ++ q :: after)
    (hfull : FullMatch chars.isWord q.pattern e)
    (hbefore : ∀ r ∈ before, ¬ Occurs chars.isWord r.pattern false e) :
    ∃ marker ∈ markers, marker.toList = applyAll (rules chars) e := by
  have hq : q ∈ rules chars := by
    rw [hrules]
    exact List.mem_append_right _ List.mem_cons_self
  refine exists_marker_iff.mpr ⟨q, hq, ?_⟩
  rw [hrules, applyAll_of_fullMatch hbefore hfull (determined_rules chars q hq)]
  intro r hr
  refine spares_rules chars r ?_ q hq
  rw [hrules]
  exact List.mem_append_right _ (List.mem_cons_of_mem _ hr)

/-- What one of the patterns matches in full becomes one marker exactly if it is no e-mail address with an
SSN or a long number in it. -/
theorem exists_marker_applyAll_iff {q : Rule (brackets chars)} (hq : q ∈ rules chars)
    (hfull : FullMatch chars.isWord q.pattern e) :
    (∃ marker ∈ markers, marker.toList = applyAll (rules chars) e) ↔
      (FullMatch chars.isWord (emailPattern chars) e →
        ¬ Occurs chars.isWord ssnPattern false e ∧
        ¬ Occurs chars.isWord longDigitPattern false e) := by
  constructor
  · intro hmarker hemail
    obtain ⟨s, -, hs⟩ := exists_marker_iff.mp hmarker
    obtain ⟨before, q', after, hrules, hbefore, hfull'⟩ := exists_of_applyAll_eq_marker
      (spares_rules chars) (Rule.opening_not_mem hfull) hs.symm
    obtain rfl : q' = emailRule chars := by
      refine eq_emailRule_of_fullMatch hemail q' ?_ hfull'
      rw [hrules]
      exact List.mem_append_right _ List.mem_cons_self
    have hssn : "REDACTED-SSN".toList ≠ "REDACTED-EMAIL".toList := by decide
    have hlongDigit : "REDACTED-NUM".toList ≠ "REDACTED-EMAIL".toList := by decide
    cases before with
    | nil => exact absurd (congrArg Rule.body (List.cons.inj hrules).1) hssn
    | cons r before =>
      obtain ⟨rfl, htail⟩ := List.cons.inj hrules
      cases before with
      | nil => exact absurd (congrArg Rule.body (List.cons.inj htail).1) hlongDigit
      | cons r before =>
        obtain ⟨rfl, -⟩ := List.cons.inj htail
        exact ⟨hbefore _ List.mem_cons_self, hbefore _ (List.mem_cons_of_mem _ List.mem_cons_self)⟩
  · intro hemail
    have hwhole : ∀ q ∈ rules chars, FullMatch chars.isWord q.pattern e →
        ∃ marker ∈ markers, marker.toList = applyAll (rules chars) e := by
      refine forall_mem_rules chars ?_ ?_ ?_
      · intro hfull
        exact exists_marker_of_fullMatch [] rfl hfull fun r hr => absurd hr List.not_mem_nil
      · intro hfull
        refine exists_marker_of_fullMatch [ssnRule chars] rfl hfull ?_
        rw [List.forall_mem_singleton]
        exact not_occurs_ssnPattern hfull
      · intro hfull
        refine exists_marker_of_fullMatch [ssnRule chars, longDigitRule chars] rfl hfull ?_
        rw [List.forall_mem_cons, List.forall_mem_singleton]
        exact hemail hfull
    exact hwhole q hq hfull

end whole

/-- **What a pattern matches in full is redacted whole exactly if it is no e-mail address with an SSN or a
long number in it.** -/
theorem redacted_whole_iff {e : String} {pattern : Pattern Char}
    (hpattern : pattern ∈ [ssnPattern, longDigitPattern, emailPattern chars])
    (hfull : FullMatch chars.isWord pattern e.toList) (record : LogRecord A) {p s : String}
    (hmessage : record.getMessage percent = p ++ " " ++ e ++ " " ++ s) :
    (∃ marker ∈ markers, (filter chars percent record).1.getMessage percent =
      scrub chars p ++ " " ++ marker ++ " " ++ scrub chars s) ↔
      (FullMatch chars.isWord (emailPattern chars) e.toList →
        ¬ Occurs chars.isWord ssnPattern false e.toList ∧
        ¬ Occurs chars.isWord longDigitPattern false e.toList) := by
  obtain ⟨q, hq, rfl⟩ : ∃ q ∈ rules chars, q.pattern = pattern := List.mem_map.mp hpattern
  rw [← exists_marker_applyAll_iff hq hfull, getMessage_filter, hmessage, scrub_append_space,
    scrub_append_space]
  refine exists_congr fun marker => and_congr_right fun _ => ?_
  rw [String.append_left_inj, String.append_left_inj, String.append_right_inj, ← toList_scrub,
    String.toList_inj]
  exact eq_comm

end filter

/-! ### An SSN as the name of an e-mail address -/

/-- The arguments of a record that has none. -/
def noArguments (msg : String) (_ : Empty) : String := msg

theorem fullMatch_email :
    FullMatch Text.WordChars.plain.isWord (emailPattern .plain) "jane.doe@example.com".toList := by
  decide +kernel

/-- An e-mail address is redacted whole. -/
theorem redacted_whole_email : ∃ marker ∈ markers,
    (filter .plain noArguments ⟨"mail to jane.doe@example.com today", none⟩).1.getMessage noArguments =
      scrub .plain "mail to" ++ " " ++ marker ++ " " ++ scrub .plain "today" := by
  have hiff := redacted_whole_iff .plain noArguments
    (List.mem_cons_of_mem _ (List.mem_cons_of_mem _ List.mem_cons_self)) fullMatch_email
    ⟨"mail to jane.doe@example.com today", none⟩ (p := "mail to") (s := "today") rfl
  exact hiff.mpr fun _ => by decide +kernel

/-- The domain of an e-mail address whose name is an SSN stays. -/
theorem domain_survives :
    FullMatch Text.WordChars.plain.isWord (emailPattern .plain)
      "123-45-6789@example.com".toList ∧
    (filter .plain noArguments ⟨"mail to 123-45-6789@example.com today", none⟩).1.getMessage
        noArguments = "mail to [REDACTED-SSN]@example.com today" ∧
    ∀ marker ∈ markers, scrub .plain "mail to" ++ " " ++ marker ++ " " ++ scrub .plain "today" ≠
      "mail to [REDACTED-SSN]@example.com today" := by
  refine ⟨by decide +kernel, ?_, by decide +kernel⟩
  rw [getMessage_filter]
  decide +kernel

end RefCheck.Logging
