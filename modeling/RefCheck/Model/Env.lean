import RefCheck.Model.Schemas

/-!
# The environment of a run

`PyText` are the text functions that the program takes from Python and pydantic without relying on
how they work: `str.lower`, `repr` of a text, the text of a float, and `model_dump_json` of the
claimed details. `Env` adds the settings of `config.py`, which environment variables may override.
The development holds for every environment; `Env.shipped` has the settings as shipped. Scores are
exact: a `float` is a rational number here.
-/

namespace RefCheck

structure PyText where
  lower : String → String
  reprStr : String → String
  floatStr : ℚ → String
  modelDumpJson : ClaimedDetails → String
  modelDumpJsonIndent2 : ClaimedDetails → String

structure Env extends PyText where
  minorMonthTolerance : ℤ
  moderateMonthTolerance : ℤ
  severityPenalty : Severity → ℤ
  penaltySentimentNegative : ℤ
  penaltySentimentMixed : ℤ
  redFlagPenalty : ℤ
  reviewThreshold : ℚ
  overallReviewThreshold : ℚ
  maxRawInputChars : ℤ
  minRawInputChars : ℤ

namespace Env

/-- `SENTIMENT_PENALTY.get(sentiment, 0)`. -/
def sentimentPenalty (env : Env) : String → ℤ
  | "negative" => env.penaltySentimentNegative
  | "mixed" => env.penaltySentimentMixed
  | _ => 0

/-- The settings of `config.py` when no environment variable overrides them. -/
def shipped (text : PyText) : Env where
  toPyText := text
  minorMonthTolerance := 1
  moderateMonthTolerance := 6
  severityPenalty
    | .minor => 5
    | .moderate => 15
    | .major => 35
  penaltySentimentNegative := 20
  penaltySentimentMixed := 10
  redFlagPenalty := 10
  reviewThreshold := 70
  overallReviewThreshold := 70
  maxRawInputChars := 20000
  minRawInputChars := 10

end Env

namespace PyText

/-- `repr` of a list of texts. -/
def reprList (py : PyText) (names : List String) : String :=
  "[" ++ ", ".intercalate (names.map py.reprStr) ++ "]"

/-! ### Plain texts

The text functions on ASCII letters, digits and spaces, and on whole numbers. -/

def plainStr (s : String) : String := "\"" ++ s ++ "\""

def plainOpt : Option String → String
  | none => "null"
  | some s => plainStr s

/-- The fields of the claimed details, with what pydantic writes for them. -/
def plainFields (c : ClaimedDetails) (list : List String → String) : List (String × String) :=
  [("job_title", plainStr c.jobTitle), ("company", plainStr c.company),
    ("start_date", plainStr c.startDate), ("end_date", plainOpt c.endDate),
    ("responsibilities", list c.responsibilities),
    ("reason_for_leaving", plainOpt c.reasonForLeaving)]

def plainJson (c : ClaimedDetails) : String :=
  "\x7b" ++ ",".intercalate ((plainFields c fun l => "[" ++ ",".intercalate (l.map plainStr) ++ "]").map
    fun p => plainStr p.1 ++ ":" ++ p.2) ++ "\x7d"

def plainJsonIndent2 (c : ClaimedDetails) : String :=
  "\x7b\n" ++ ",\n".intercalate ((plainFields c fun l =>
      if l = [] then "[]"
      else "[\n" ++ ",\n".intercalate (l.map fun s => "    " ++ plainStr s) ++ "\n  ]").map
    fun p => "  " ++ plainStr p.1 ++ ": " ++ p.2) ++ "\n\x7d"

/-- What Python and pydantic do with plain texts and whole numbers. -/
def plain : PyText where
  lower s := String.ofList (s.toList.map Char.toLower)
  reprStr s := "'" ++ s ++ "'"
  floatStr q := toString q.num ++ ".0"
  modelDumpJson := plainJson
  modelDumpJsonIndent2 := plainJsonIndent2

end PyText

end RefCheck
