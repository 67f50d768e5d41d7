import GuestTypes.Text.Quoted
import GuestTypes.Yaml.Cursor

/-!
# Scalars

The three ways a document writes a text: plain, between quotes, and as a block of indented
lines. A break inside a plain or quoted text reads as a space, and further breaks as
themselves; `Folding` keeps the white space that is not yet decided on.
-/

namespace GuestTypes.Yaml

/-- The white space passed since the last character of a folded text. -/
structure Folding where
  /-- The blanks on the line, while no break was passed. -/
  blanks : List Char := []
  /-- Whether a break was passed, or one was escaped. -/
  broken : Bool := false
  /-- The first break passed. -/
  first : List Char := []
  /-- The breaks after the first. -/
  later : List Char := []

/-- What the white space reads as once another character follows it. -/
def Folding.text (folding : Folding) : List Char :=
  if folding.broken then
    if folding.first.head? == some '\n' then
      if folding.later.isEmpty then [' '] else folding.later
    else folding.first ++ folding.later
  else folding.blanks

/-- Pass over white space. A tab on a new line left of `margin` is refused. -/
def foldSpace (margin : Nat) : Nat -> Cursor -> Folding -> Option (Cursor × Folding)
  | 0, cursor, folding => some (cursor, folding)
  | fuel + 1, cursor, folding =>
      match cursor.peek with
      | none => some (cursor, folding)
      | some c =>
          if isBlank c then
            if folding.broken then
              if c == '\t' && cursor.column < margin then none
              else foldSpace margin fuel cursor.skip folding
            else
              foldSpace margin fuel cursor.skip { folding with blanks := folding.blanks ++ [c] }
          else if isBreak c then
            let passed := cursor.breakText
            let folded :=
              if folding.broken then { folding with later := folding.later ++ passed }
              else { folding with blanks := [], broken := true, first := passed }
            foldSpace margin fuel cursor.skipBreak folded
          else some (cursor, folding)

/-! ## Plain texts -/

/-- The marks that end a plain text inside brackets. -/
def isFlowMark (c : Char) : Bool := c == ',' || c == '[' || c == ']' || c == '\x7b' || c == '\x7d'

/-- The characters of a plain text up to white space or a mark; none if a colon stands where
it can be neither. -/
def plainWord (inFlow : Bool) : List Char -> Option (List Char)
  | [] => some []
  | c :: rest =>
      if isBlank c || isBreak c then some []
      else if inFlow && c == ':' && rest.head?.any (fun d => isFlowMark d || d == '?') then none
      else if (c == ':' && endsWord rest.head?) || (inFlow && isFlowMark c) then some []
      else (plainWord inFlow rest).map (c :: ·)

/-- The rest of a plain text, after `text` and some white space. The answer tells whether the
text ended on a later line. -/
def plainAfter (inFlow : Bool) (margin : Nat) :
    Nat -> Cursor -> List Char -> Folding -> Option (List Char × Cursor × Bool)
  | 0, cursor, text, folding => some (text, cursor, folding.broken)
  | fuel + 1, cursor, text, folding =>
      if cursor.atDocumentMarker || cursor.isAt '#' then some (text, cursor, folding.broken)
      else do
        let word <- plainWord inFlow cursor.rest
        if word.isEmpty then
          return (text, cursor, folding.broken)
        let longer := text ++ folding.text ++ word
        let passed := cursor.skip word.length
        if !passed.atWordEnd || passed.peek.isNone then
          return (longer, passed, false)
        let (next, space) <- foldSpace margin (passed.rest.length + 1) passed {}
        if !inFlow && next.column < margin then
          return (longer, next, space.broken)
        plainAfter inFlow margin fuel next longer space

/-! ## Quoted texts -/

/-- The value of digits in base sixteen, if they are that. -/
def hexValue? (digits : List Char) : Option Nat :=
  digits.foldl (fun sofar c => do
    let value <- sofar
    if c.isDigit then some (value * 16 + (c.toNat - '0'.toNat))
    else if 'a' ≤ c && c ≤ 'f' then some (value * 16 + (c.toNat - 'a'.toNat + 10))
    else if 'A' ≤ c && c ≤ 'F' then some (value * 16 + (c.toNat - 'A'.toNat + 10))
    else none) (some 0)

/-- The character that a code point names; surrogates and larger numbers name none. -/
def characterOf? (code : Nat) : Option Char :=
  if code < 0xd800 || (0xdfff < code && code < 0x110000) then some (Char.ofNat code) else none

/-- The character that one letter after a backslash stands for. -/
def shortEscape? : Char -> Option Char
  | '0' => some '\x00'
  | 'a' => some '\x07'
  | 'b' => some '\x08'
  | 't' => some '\t'
  | '\t' => some '\t'
  | 'n' => some '\n'
  | 'v' => some '\x0b'
  | 'f' => some '\x0c'
  | 'r' => some '\r'
  | 'e' => some '\x1b'
  | ' ' => some ' '
  | '"' => some '"'
  | '/' => some '/'
  | '\\' => some '\\'
  | 'N' => some '\u0085'
  | '_' => some '\u00a0'
  | 'L' => some '\u2028'
  | 'P' => some '\u2029'
  | _ => none

/-- How many digits follow the letter of a numbered escape. -/
def escapeWidth? : Char -> Option Nat
  | 'x' => some 2
  | 'u' => some 4
  | 'U' => some 8
  | _ => none

/-- The characters of a quoted text up to white space or the closing quote, and whether an
escaped break ended them. -/
def quotedWord (quote : Char) : Nat -> Cursor -> List Char -> Option (List Char × Cursor × Bool)
  | 0, _, _ => none
  | fuel + 1, cursor, word =>
      match cursor.peek with
      | none => some (word, cursor, false)
      | some c =>
          if isBlank c || isBreak c then some (word, cursor, false)
          else if c == quote then
            if quote == '\'' && cursor.isAt '\'' 1 then
              quotedWord quote fuel (cursor.skip 2) (word ++ ['\''])
            else some (word, cursor, false)
          else if quote == '"' && c == '\\' then
            match cursor.peek 1 with
            | none => none
            | some letter =>
                if isBreak letter then some (word, cursor.skip.skipBreak, true)
                else
                  match shortEscape? letter, escapeWidth? letter with
                  | some plain, _ => quotedWord quote fuel (cursor.skip 2) (word ++ [plain])
                  | none, some width => do
                      let digits := (cursor.rest.drop 2).take width
                      if digits.length != width then none
                      let named <- characterOf? (<- hexValue? digits)
                      quotedWord quote fuel (cursor.skip (2 + width)) (word ++ [named])
                  | none, none => none
          else quotedWord quote fuel cursor.skip (word ++ [c])

/-- The rest of a quoted text, after `text`, with the cursor behind the closing quote. -/
def quotedAfter (quote : Char) : Nat -> Cursor -> List Char -> Option (List Char × Cursor)
  | 0, _, _ => none
  | fuel + 1, cursor, text =>
      if cursor.atDocumentMarker || cursor.peek.isNone then none
      else do
        let (word, passed, escaped) <- quotedWord quote (cursor.rest.length + 1) cursor []
        let longer := text ++ word
        if passed.isAt quote then
          return (longer, passed.skip)
        let (next, space) <-
          foldSpace 0 (passed.rest.length + 1) passed { broken := escaped }
        quotedAfter quote fuel next (longer ++ space.text)

/-! ## Block texts -/

/-- What becomes of the breaks at the end of a block. -/
inductive Chomping where
  | strip
  | clip
  | keep
  deriving DecidableEq

/-- Pass over the empty lines before a line of a block. With no indentation given, the widest
of these lines is measured. -/
def blockBreaks (indent : Option Nat) :
    Nat -> Cursor -> Nat -> List Char -> Option (Cursor × Nat × List Char)
  | 0, cursor, widest, breaks => some (cursor, widest, breaks)
  | fuel + 1, cursor, widest, breaks =>
      let room := match indent with
        | some width => width - cursor.column
        | none => cursor.rest.length
      let spaces := min room (cursor.rest.takeWhile (· == ' ')).length
      let passed := cursor.skip spaces
      let wider := max widest passed.column
      if indent.all (passed.column < ·) && passed.isAt '\t' then none
      else if passed.peek.any isBreak then
        blockBreaks indent fuel passed.skipBreak wider (breaks ++ passed.breakText)
      else some (passed, wider, breaks)

/-- The lines of a block. `last` is the break before the line, `breaks` the empty lines passed
since, and `spaced` tells whether the line before started with a blank. -/
def blockLines (literal : Bool) (indent : Nat) :
    Nat -> Cursor -> List Char -> List Char -> List Char -> Bool ->
      Option (List Char × List Char × List Char × Cursor)
  | 0, cursor, text, last, breaks, _ => some (text, last, breaks, cursor)
  | fuel + 1, cursor, text, last, breaks, spaced =>
      if cursor.column != indent || cursor.peek.isNone then some (text, last, breaks, cursor)
      else do
        let spacedNow := cursor.peek.any isBlank
        let folds := !literal && last.head? == some '\n' && !spaced && !spacedNow
        let joint := if folds then (if breaks.isEmpty then [' '] else []) else last
        let (line, passed) := cursor.takeWhile (fun _ => true)
        let longer := text ++ joint ++ breaks ++ line
        if passed.peek.isNone then
          return (longer, [], [], passed)
        let (next, _, empty) <-
          blockBreaks (some indent) (passed.rest.length + 1) passed.skipBreak 0 []
        blockLines literal indent fuel next longer passed.breakText empty spacedNow

/-- The chomping and the indentation that the header of a block asks for. -/
def blockHeader (cursor : Cursor) : Option (Chomping × Option Nat × Cursor) :=
  let chomping? (c : Option Char) : Option Chomping :=
    if c == some '+' then some .keep else if c == some '-' then some .strip else none
  let width? (c : Option Char) : Option Nat :=
    match c with
    | some d => if d.isDigit then some (d.toNat - '0'.toNat) else none
    | none => none
  let header :=
    match chomping? cursor.peek, width? cursor.peek with
    | some chomping, _ =>
        match width? (cursor.peek 1) with
        | some width => (chomping, some width, cursor.skip 2)
        | none => (chomping, none, cursor.skip)
    | none, some width =>
        match chomping? (cursor.peek 1) with
        | some chomping => (chomping, some width, cursor.skip 2)
        | none => (.clip, some width, cursor.skip)
    | none, none => (.clip, none, cursor)
  if header.2.1 == some 0 then none else some header

/-- A block, from behind its mark. `outer` is the indentation around it, if there is one. -/
def block (literal : Bool) (outer : Option Nat) (start : Cursor) :
    Option (List Char × Cursor) := do
  let (chomping, width, headed) <- blockHeader start
  let blanked := headed.skipWhile isBlank
  let commented := if blanked.isAt '#' then blanked.skipWhile (fun _ => true) else blanked
  if !commented.atLineEnd then none
  let body := if commented.peek.isSome then commented.skipBreak else commented
  let fuel := body.rest.length + 1
  let fixed := width.map (outer.getD 0 + ·)
  let (first, widest, breaks) <- blockBreaks fixed fuel body 0 []
  let indent := fixed.getD (max 1 (max widest (match outer with | some n => n + 1 | none => 0)))
  let (text, last, trailing, rest) <- blockLines literal indent fuel first [] [] breaks false
  match chomping with
  | .strip => return (text, rest)
  | .clip => return (text ++ last, rest)
  | .keep => return (text ++ last ++ trailing, rest)

end GuestTypes.Yaml
