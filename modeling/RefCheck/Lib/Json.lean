import Mathlib.Data.List.Basic

/-!
# JSON values

The values that `json.loads` gives: a number by its literal, an object by its members.
-/

namespace RefCheck

inductive Json where
  | null
  | bool (value : Bool)
  | num (literal : String)
  | str (value : String)
  | arr (items : List Json)
  | obj (members : List (String × Json))

namespace Json

/-- The member of an object. -/
def get? (key : String) : Json → Option Json
  | obj members => members.lookup key
  | _ => none

/-- A member that is a string. -/
def getStr? (key : String) (json : Json) : Option String :=
  match json.get? key with
  | some (str value) => some value
  | _ => none

end Json

end RefCheck
