/-!
# Places in a document

A cursor is the rest of a document with the place it starts at. Lines and columns count from
zero; a carriage return with a line feed is one break.
-/

namespace GuestTypes.Yaml

/-- The rest of a document and where it starts. -/
structure Cursor where
  rest : List Char
  index : Nat := 0
  line : Nat := 0
  column : Nat := 0

/-- Whether a character ends a line. -/
def isBreak (c : Char) : Bool :=
  c == '\n' || c == '\r' || c == '\u0085' || c == '\u2028' || c == '\u2029'

/-- Whether a character is a space or a tab. -/
def isBlank (c : Char) : Bool := c == ' ' || c == '\t'

/-- Whether a character may stand in the names of anchors, handles and directives. -/
def isWord (c : Char) : Bool := c.isAlphanum || c == '_' || c == '-'

/-- Whether the next character separates words: a blank, a break or the end. -/
def endsWord : Option Char -> Bool
  | none => true
  | some c => isBlank c || isBreak c

namespace Cursor

def peek (cursor : Cursor) (distance : Nat := 0) : Option Char := cursor.rest[distance]?

/-- Whether the next character is the given one. -/
def isAt (cursor : Cursor) (c : Char) (distance : Nat := 0) : Bool :=
  cursor.peek distance == some c

/-- Whether the next character separates words. -/
def atWordEnd (cursor : Cursor) (distance : Nat := 0) : Bool := endsWord (cursor.peek distance)

/-- Whether a line ends here. -/
def atLineEnd (cursor : Cursor) : Bool := (cursor.peek).all isBreak

/-- Pass over characters that are no breaks. -/
def skip (cursor : Cursor) (count : Nat := 1) : Cursor :=
  { cursor with
    rest := cursor.rest.drop count
    index := cursor.index + count
    column := cursor.column + count }

/-- Pass over one break. -/
def skipBreak (cursor : Cursor) : Cursor :=
  let width := if cursor.isAt '\r' && cursor.isAt '\n' 1 then 2 else 1
  { rest := cursor.rest.drop width
    index := cursor.index + width
    line := cursor.line + 1
    column := 0 }

/-- The break here as a text keeps it: every form but the two separators is a line feed. -/
def breakText (cursor : Cursor) : List Char :=
  match cursor.peek with
  | some c => if c == '\u2028' || c == '\u2029' then [c] else ['\n']
  | none => []

/-- The longest stretch of characters with a property, none of which is a break. -/
def takeWhile (cursor : Cursor) (property : Char -> Bool) : List Char × Cursor :=
  let taken := cursor.rest.takeWhile (fun c => property c && !isBreak c)
  (taken, cursor.skip taken.length)

def skipWhile (cursor : Cursor) (property : Char -> Bool) : Cursor :=
  (cursor.takeWhile property).2

/-- Whether a line starts here with three of the mark and the end of a word. -/
def atMarker (cursor : Cursor) (mark : Char) : Bool :=
  cursor.column == 0 && cursor.isAt mark && cursor.isAt mark 1 && cursor.isAt mark 2
    && cursor.atWordEnd 3

/-- Whether a document starts or ends here. -/
def atDocumentMarker (cursor : Cursor) : Bool := cursor.atMarker '-' || cursor.atMarker '.'

end Cursor

/-- Whether a document may hold a character at all. -/
def isAllowed (c : Char) : Bool :=
  let n := c.toNat
  n == 0x9 || n == 0xa || n == 0xd || (0x20 ≤ n && n ≤ 0x7e) || n == 0x85
    || (0xa0 ≤ n && n ≤ 0xd7ff) || (0xe000 ≤ n && n ≤ 0xfffd) || 0x10000 ≤ n

end GuestTypes.Yaml
