/-!
# Dotted names

A qualified name is a package, a dot and a simple name; the last dot separates them. A name
without a dot is its own simple name, in the empty package.
-/

namespace GuestTypes.Text

/-- The part after the last dot, or the whole name. -/
def simpleName (name : String) : String :=
  String.ofList (name.toList.reverse.takeWhile (· ≠ '.')).reverse

/-- The part before the last dot, or the empty text. -/
def packageName (name : String) : String :=
  String.ofList ((name.toList.reverse.dropWhile (· ≠ '.')).drop 1).reverse

/-- A simple name inside a package; the empty package adds nothing. -/
def qualified (package simple : String) : String :=
  if package.isEmpty then simple else package ++ "." ++ simple

end GuestTypes.Text
