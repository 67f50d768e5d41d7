import GuestTypes.Text.Quoted

/-!
# Structured text

One-line descriptions of records, lists and sets.
-/

namespace GuestTypes.Text

/-- Items separated by commas. -/
def separated (items : List String) : String := String.intercalate ", " items

/-- A list. -/
def listed (items : List String) : String := "[" ++ separated items ++ "]"

/-- A set. -/
def braced (items : List String) : String := "\x7b" ++ separated items ++ "\x7d"

/-- A record with named fields. -/
def structured (name : String) (fields : List (String × String)) : String :=
  name ++ " \x7b " ++ separated (fields.map fun (field, text) => field ++ ": " ++ text) ++ " \x7d"

end GuestTypes.Text
