import GuestTypes.Text.Printable

/-!
# Quoted text

The form in which texts appear inside a one-line description: between double quotes, with
the quote, the backslash and four controls written as two characters and every other
character that cannot be shown written as its code point.
-/

namespace GuestTypes.Text

/-- A code point in lower-case hexadecimal without leading zeros. -/
def hexadecimal (value : Nat) : String :=
  String.ofList (Nat.toDigits 16 value)

/-- One character of a quoted text. -/
def escaped (c : Char) : String :=
  if c = '"' then "\\\""
  else if c = '\\' then "\\\\"
  else if c = '\n' then "\\n"
  else if c = '\t' then "\\t"
  else if c = '\r' then "\\r"
  else if c.toNat = 0 then "\\0"
  else if isPrintable c then c.toString
  else "\\u\x7b" ++ hexadecimal c.toNat ++ "\x7d"

/-- A text between double quotes. -/
def quoted (text : String) : String :=
  "\"" ++ String.join (text.toList.map escaped) ++ "\""

end GuestTypes.Text
