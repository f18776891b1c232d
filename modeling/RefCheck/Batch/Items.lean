import RefCheck.Lib.Text
import RefCheck.Model.Schemas

/-!
# Batch items and custom IDs

The types of `llm/batch/base.py`, and `_cid` and `_parse_cid` of the batch pipeline: a custom ID
names a candidate, a reference and a kind of request. A rendered ID is parsed back
(`parseCid_cid`), and different requests have different IDs (`cid_inj`).
-/

namespace RefCheck

/-! ### Items and results -/

/-- `BatchItem`: one request of a batch, under the ID its result comes back with. -/
structure BatchItem extends LLMRequest where
  customId : String
  deriving DecidableEq, Repr

/-- `BatchItemResult`: a value of the output model that the item asked for, or an error. -/
inductive BatchItemResult (m : OutputModel) where
  | succeeded (value : m.Value)
  | failed (error : String)

/-- The value of a result that succeeded. -/
def BatchItemResult.value? {m : OutputModel} : BatchItemResult m → Option m.Value
  | succeeded value => some value
  | failed _ => none

/-- The results of a batch by custom ID. A result is typed by the model its item asked for. -/
structure BatchResults where
  get : (m : OutputModel) → String → Option (BatchItemResult m)

namespace BatchResults

/-- `{}`. -/
def empty : BatchResults := ⟨fun _ _ => none⟩

/-- `results[custom_id]`. -/
def getItem (results : BatchResults) (m : OutputModel) (customId : String) :
    Except PyException (BatchItemResult m) :=
  match results.get m customId with
  | some result => .ok result
  | none => .error (.keyError ("'" ++ customId ++ "'"))

/-- The value that came back under an ID, if its item succeeded. -/
def value? (results : BatchResults) (m : OutputModel) (customId : String) : Option m.Value :=
  (results.get m customId).bind BatchItemResult.value?

end BatchResults

/-- A batch backend: the model ID of a tier, and what a submitted batch comes back with. -/
structure Backend where
  getModel : ModelTier → String
  runBatchSync : List BatchItem → Except PyException BatchResults

/-! ### Custom IDs -/

/-- `_cid`. -/
def cid (candidateIdx refIdx : ℕ) (tag : String) : String :=
  "c" ++ toString candidateIdx ++ ":r" ++ toString refIdx ++ ":" ++ tag

/-- The ID of the overall summary of a candidate. -/
def overallCid (candidateIdx : ℕ) : String := "c" ++ toString candidateIdx ++ ":overall"

/-- `(candidate_idx, ref_idx)`; the integers that `_parse_cid` reads. -/
abbrev RefKey := ℤ × ℤ

/-- `int(part[1:])`. -/
def parsePart (part : List Char) : Except PyException ℤ :=
  match Text.pyInt (part.drop 1) with
  | some n => .ok n
  | none => .error (.valueError ("invalid literal for int() with base 10: '" ++
      String.ofList (part.drop 1) ++ "'"))

/-- `_parse_cid`. -/
def parseCid (customId : String) : Except PyException RefKey := do
  match customId.toList.splitOn ':' with
  | c :: r :: _ =>
    let candidateIdx ← parsePart c
    let refIdx ← parsePart r
    return (candidateIdx, refIdx)
  | c :: [] =>
    let _ ← parsePart c
    throw .indexError
  | [] => throw .indexError

/-- What the IDs of a candidate begin with. -/
def candidatePrefix (candidateIdx : ℕ) : String := "c" ++ toString candidateIdx ++ ":"

theorem cid_eq_append (c r : ℕ) (tag : String) :
    cid c r tag = candidatePrefix c ++ ("r" ++ toString r ++ ":" ++ tag) := by
  have hcolon : ":r" = ":" ++ "r" := rfl
  rw [cid, candidatePrefix, hcolon]
  simp only [String.append_assoc]

theorem overallCid_eq_append (c : ℕ) : overallCid c = candidatePrefix c ++ "overall" := by
  simp [overallCid, candidatePrefix, String.append_assoc]

theorem toList_cid (c r : ℕ) (tag : String) :
    (cid c r tag).toList =
      ('c' :: Nat.toDigits 10 c) ++ ':' :: (('r' :: Nat.toDigits 10 r) ++ ':' :: tag.toList) := by
  simp [cid, toString, Nat.repr]

theorem toList_overallCid (c : ℕ) :
    (overallCid c).toList = ('c' :: Nat.toDigits 10 c) ++ ':' :: "overall".toList := by
  simp [overallCid, toString, Nat.repr]

theorem colon_not_mem_letter_digits (letter : Char) (h : letter ≠ ':') (n : ℕ) :
    ':' ∉ letter :: Nat.toDigits 10 n := by
  rw [List.mem_cons, not_or]
  exact ⟨h.symm, Text.not_mem_toDigits (by decide) n⟩

theorem parsePart_letter_digits (letter : Char) (n : ℕ) :
    parsePart (letter :: Nat.toDigits 10 n) = .ok (n : ℤ) := by
  rw [parsePart, List.drop_one, List.tail_cons, Text.pyInt_toDigits]

theorem parseCid_cid (c r : ℕ) {tag : String} (htag : ':' ∉ tag.toList) :
    parseCid (cid c r tag) = .ok ((c : ℤ), (r : ℤ)) := by
  have hsplit : (cid c r tag).toList.splitOn ':' =
      ['c' :: Nat.toDigits 10 c, 'r' :: Nat.toDigits 10 r, tag.toList] := by
    rw [toList_cid]
    exact Text.splitOn_three (colon_not_mem_letter_digits 'c' (by decide) c)
      (colon_not_mem_letter_digits 'r' (by decide) r) htag
  rw [parseCid, hsplit]
  dsimp only
  rw [parsePart_letter_digits, parsePart_letter_digits]
  rfl

/-- An ID determines the candidate, the reference and the kind of request. -/
theorem cid_inj {c c' r r' : ℕ} {tag tag' : String} (h : cid c r tag = cid c' r' tag') :
    c = c' ∧ r = r' ∧ tag = tag' := by
  have hlist := congrArg String.toList h
  rw [toList_cid, toList_cid] at hlist
  obtain ⟨hc, hrest⟩ := Text.append_sep_inj (colon_not_mem_letter_digits 'c' (by decide) c)
    (colon_not_mem_letter_digits 'c' (by decide) c') hlist
  obtain ⟨hr, htag⟩ := Text.append_sep_inj (colon_not_mem_letter_digits 'r' (by decide) r)
    (colon_not_mem_letter_digits 'r' (by decide) r') hrest
  exact ⟨Text.toDigits_inj (List.cons.inj hc).2, Text.toDigits_inj (List.cons.inj hr).2,
    String.toList_inj.mp htag⟩

theorem overallCid_inj {c c' : ℕ} (h : overallCid c = overallCid c') : c = c' := by
  have hlist := congrArg String.toList h
  rw [toList_overallCid, toList_overallCid] at hlist
  obtain ⟨hc, -⟩ := Text.append_sep_inj (colon_not_mem_letter_digits 'c' (by decide) c)
    (colon_not_mem_letter_digits 'c' (by decide) c') hlist
  exact Text.toDigits_inj (List.cons.inj hc).2

theorem toList_candidatePrefix (c : ℕ) :
    (candidatePrefix c).toList = ('c' :: Nat.toDigits 10 c) ++ [':'] := by
  simp [candidatePrefix, toString, Nat.repr]

theorem candidatePrefix_isPrefix_iff {c c' : ℕ} {id : String} {rest : List Char}
    (hid : id.toList = ('c' :: Nat.toDigits 10 c') ++ ':' :: rest) :
    (candidatePrefix c).toList <+: id.toList ↔ c' = c := by
  rw [toList_candidatePrefix, hid]
  constructor
  · rintro ⟨t, ht⟩
    rw [List.append_assoc, List.singleton_append] at ht
    obtain ⟨hc, -⟩ := Text.append_sep_inj (colon_not_mem_letter_digits 'c' (by decide) c)
      (colon_not_mem_letter_digits 'c' (by decide) c') ht
    exact (Text.toDigits_inj (List.cons.inj hc).2).symm
  · rintro rfl
    exact ⟨rest, by rw [List.append_assoc, List.singleton_append]⟩

end RefCheck
