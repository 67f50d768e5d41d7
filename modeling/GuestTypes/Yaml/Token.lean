import GuestTypes.Yaml.Scalar

/-!
# Tokens

A document as a sequence of tokens. Indentation becomes explicit: a column that opens a block
gives a start token, and leaving the column gives a `blockEnd`. A key of one line is known as
a key only at the colon behind it, so `Reader.pending` remembers, for each open bracket, where
the key token would have to go.
-/

namespace GuestTypes.Yaml

inductive Token where
  | versionDirective (major minor : Nat)
  | tagDirective (handle expansion : String)
  | documentStart
  | documentEnd
  | blockSequenceStart
  | blockMappingStart
  | blockEnd
  | flowSequenceStart
  | flowSequenceEnd
  | flowMappingStart
  | flowMappingEnd
  | blockEntry
  | flowEntry
  | key
  | value
  | alias (name : String)
  | anchor (name : String)
  | tag (handle suffix : String)
  | scalar (text : String) (plain : Bool)
  deriving DecidableEq, Inhabited, Repr

/-- A place where a key may have started. -/
structure PendingKey where
  possible : Bool := false
  /-- The key is the first thing in its block, so it must turn out to be one. -/
  required : Bool := false
  /-- The number of tokens before it. -/
  position : Nat := 0
  index : Nat := 0
  line : Nat := 0
  column : Nat := 0

/-- The state of reading tokens. -/
structure Reader where
  cursor : Cursor
  tokens : Array Token := #[]
  /-- The columns of the open blocks, innermost first. -/
  blocks : List Nat := []
  /-- Whether a key may start here. -/
  keyAllowed : Bool := true
  /-- One place for each open bracket, innermost first, and one for the block level. -/
  pending : List PendingKey := [{}]

namespace Reader

/-- Whether a bracket is open. -/
def inFlow (reader : Reader) : Bool := reader.pending.length > 1

def emit (reader : Reader) (token : Token) : Reader :=
  { reader with tokens := reader.tokens.push token }

/-- Emit a token for a single character. -/
def emitMark (reader : Reader) (token : Token) (width : Nat := 1) : Reader :=
  { reader.emit token with cursor := reader.cursor.skip width }

def modifyPending (reader : Reader) (change : PendingKey -> PendingKey) : Reader :=
  match reader.pending with
  | [] => reader
  | innermost :: outer => { reader with pending := change innermost :: outer }

/-- The longest key, in characters, that needs no key mark. -/
def keyLimit : Nat := 1024

/-- Forget the possible keys that did not end on their line. -/
def dropStale (reader : Reader) : Option Reader := do
  let stale (key : PendingKey) : Bool :=
    key.possible && (key.line < reader.cursor.line || key.index + keyLimit < reader.cursor.index)
  if reader.pending.any (fun key => stale key && key.required) then none
  return { reader with
    pending := reader.pending.map fun key =>
      if stale key then { key with possible := false } else key }

/-- Forget the innermost possible key. -/
def removeKey (reader : Reader) : Option Reader :=
  if reader.pending.head?.any (fun key => key.possible && key.required) then none
  else some (reader.modifyPending ({ · with possible := false }))

/-- Remember that a key may start here. -/
def saveKey (reader : Reader) : Option Reader := do
  if !reader.keyAllowed then return reader
  let required := !reader.inFlow && reader.blocks.head? == some reader.cursor.column
  let cleared <- reader.removeKey
  return cleared.modifyPending fun _ =>
    { possible := true
      required
      position := reader.tokens.size
      index := reader.cursor.index
      line := reader.cursor.line
      column := reader.cursor.column }

/-- Open a block at a column that lies deeper than the open ones, its start token going to
`position`. -/
def openBlock (reader : Reader) (column position : Nat) (start : Token) : Reader :=
  if reader.inFlow || !reader.blocks.head?.all (· < column) then reader
  else
    { reader with
      blocks := column :: reader.blocks
      tokens := reader.tokens.insertIdxIfInBounds position start }

/-- Close the blocks that lie deeper than a column; none closes all. -/
def closeBlocks (reader : Reader) (column : Option Nat) : Reader :=
  if reader.inFlow then reader
  else
    let deeper := reader.blocks.takeWhile fun block => column.all (· < block)
    { reader with
      blocks := reader.blocks.drop deeper.length
      tokens := reader.tokens ++ Array.replicate deeper.length .blockEnd }

/-! ## White space -/

/-- Pass over blanks, comments and breaks. A new line outside brackets may start a key. -/
def skipSpace : Nat -> Reader -> Reader
  | 0, reader => reader
  | fuel + 1, reader =>
      let start :=
        if reader.cursor.index == 0 && reader.cursor.isAt '\ufeff' then reader.cursor.skip
        else reader.cursor
      let tabs := reader.inFlow || !reader.keyAllowed
      let blanked := start.skipWhile fun c => c == ' ' || (tabs && c == '\t')
      let passed := if blanked.isAt '#' then blanked.skipWhile (fun _ => true) else blanked
      if passed.peek.any isBreak then
        skipSpace fuel
          { reader with
            cursor := passed.skipBreak
            keyAllowed := reader.keyAllowed || !reader.inFlow }
      else { reader with cursor := passed }

/-! ## Directives, names and tags -/

/-- The end of a directive: blanks, a comment, and the end of the line. -/
def endDirective (cursor : Cursor) : Option Cursor :=
  let blanked := cursor.skipWhile isBlank
  let passed := if blanked.isAt '#' then blanked.skipWhile (fun _ => true) else blanked
  if passed.atLineEnd then some (if passed.peek.isSome then passed.skipBreak else passed)
  else none

/-- A number of at most nine digits. -/
def versionNumber (cursor : Cursor) : Option (Nat × Cursor) :=
  let (digits, passed) := cursor.takeWhile Char.isDigit
  if digits.isEmpty || digits.length > 9 then none
  else some (digits.foldl (fun sofar c => sofar * 10 + (c.toNat - '0'.toNat)) 0, passed)

/-- Whether a character may stand in a tag; the last three only between angle brackets. -/
def isTagCharacter (verbatim : Bool) (c : Char) : Bool :=
  isWord c || ";/?:@&=+$.!~*'()%".contains c || (verbatim && ",[]".contains c)

/-- Decode the numbered bytes of a tag, if they are the bytes of a text. -/
def decodeTag (characters : List Char) : Option String :=
  let rec bytes : List Char -> Option (List UInt8)
    | [] => some []
    | '%' :: high :: low :: rest => do
        let value <- hexValue? [high, low]
        return value.toUInt8 :: (<- bytes rest)
    | '%' :: _ => none
    | c :: rest => do
        return c.toString.toUTF8.toList ++ (<- bytes rest)
  do String.fromUTF8? ⟨(<- bytes characters).toArray⟩

/-- The handle at the start of a tag or of a tag directive. -/
def tagHandle (directive : Bool) (cursor : Cursor) : Option (List Char × Cursor) :=
  if !cursor.isAt '!' then none
  else
    let (name, passed) := cursor.skip.takeWhile isWord
    if passed.isAt '!' then some ('!' :: name ++ ['!'], passed.skip)
    else if directive && !name.isEmpty then none
    else some ('!' :: name, passed)

def directive (reader : Reader) : Option Reader := do
  let (name, named) := reader.cursor.skip.takeWhile isWord
  if name.isEmpty || !named.atWordEnd then none
  let start := named.skipWhile isBlank
  match String.ofList name with
  | "YAML" =>
      let (major, dotted) <- versionNumber start
      if !dotted.isAt '.' then none
      let (minor, passed) <- versionNumber dotted.skip
      return { reader.emit (.versionDirective major minor) with cursor := <- endDirective passed }
  | "TAG" =>
      let (handle, handled) <- tagHandle true start
      if !handled.peek.any isBlank then none
      let (expansion, passed) := (handled.skipWhile isBlank).takeWhile (isTagCharacter true)
      if expansion.isEmpty || !passed.atWordEnd then none
      let token := Token.tagDirective (String.ofList handle) (<- decodeTag expansion)
      return { reader.emit token with cursor := <- endDirective passed }
  | _ => none

/-- The name behind the mark of an anchor or an alias. -/
def anchorName (cursor : Cursor) : Option (String × Cursor) :=
  let (name, passed) := cursor.skip.takeWhile isWord
  let ends := passed.atWordEnd || passed.peek.any ("?:,]\x7d%@`".contains ·)
  if name.isEmpty || !ends then none else some (String.ofList name, passed)

/-- A tag: between angle brackets, with a handle, or the lone mark. -/
def tagToken (inFlow : Bool) (cursor : Cursor) : Option (Token × Cursor) := do
  let (token, passed) <-
    if cursor.isAt '<' 1 then do
      let (suffix, passed) := (cursor.skip 2).takeWhile (isTagCharacter true)
      if suffix.isEmpty || !passed.isAt '>' then none
      pure (Token.tag "" (<- decodeTag suffix), passed.skip)
    else do
      let (handle, handled) <- tagHandle false cursor
      if handle.length ≥ 2 && handle.getLast? == some '!' then
        let (suffix, passed) := handled.takeWhile (isTagCharacter false)
        if suffix.isEmpty then none
        pure (Token.tag (String.ofList handle) (<- decodeTag suffix), passed)
      else
        let (more, passed) := handled.takeWhile (isTagCharacter false)
        let suffix <- decodeTag (handle.drop 1 ++ more)
        pure (if suffix.isEmpty then Token.tag "" "!" else Token.tag "!" suffix, passed)
  if !(passed.atWordEnd || (inFlow && passed.isAt ',')) then none
  return (token, passed)

/-! ## One token -/

/-- Whether a plain text may start with the two characters. -/
def startsPlain (inFlow : Bool) (c : Char) (next : Option Char) : Bool :=
  !("-?:,[]\x7b\x7d#&*!|>'\"%@`".contains c)
    || (c == '-' && !next.any isBlank)
    || (!inFlow && (c == '?' || c == ':') && !endsWord next)

/-- A mark that opens a bracket. -/
def openFlow (reader : Reader) (token : Token) : Option Reader := do
  let saved <- reader.saveKey
  return { saved.emitMark token with pending := {} :: saved.pending, keyAllowed := true }

/-- A mark that closes a bracket. -/
def closeFlow (reader : Reader) (token : Token) : Option Reader := do
  let cleared <- reader.removeKey
  let outer := if cleared.inFlow then cleared.pending.drop 1 else cleared.pending
  return { cleared.emitMark token with pending := outer, keyAllowed := false }

/-- The mark of an entry of a block sequence. -/
def blockEntry (reader : Reader) : Option Reader := do
  if !reader.inFlow && !reader.keyAllowed then none
  let opened := reader.openBlock reader.cursor.column reader.tokens.size .blockSequenceStart
  return { (<- opened.removeKey).emitMark .blockEntry with keyAllowed := true }

/-- The explicit mark of a key. -/
def explicitKey (reader : Reader) : Option Reader := do
  if !reader.inFlow && !reader.keyAllowed then none
  let opened := reader.openBlock reader.cursor.column reader.tokens.size .blockMappingStart
  return { (<- opened.removeKey).emitMark .key with keyAllowed := !reader.inFlow }

/-- The mark of a value. What stood before it on the line becomes its key. -/
def valueMark (reader : Reader) : Option Reader :=
  match reader.pending.head? with
  | some pending =>
      if pending.possible then
        let keyed :=
          { reader with tokens := reader.tokens.insertIdxIfInBounds pending.position .key }
        let opened := keyed.openBlock pending.column pending.position .blockMappingStart
        some { (opened.modifyPending ({ · with possible := false })).emitMark .value with
          keyAllowed := false }
      else if !reader.inFlow && !reader.keyAllowed then none
      else
        let opened := reader.openBlock reader.cursor.column reader.tokens.size .blockMappingStart
        some { opened.emitMark .value with keyAllowed := !reader.inFlow }
  | none => none

/-- A token that may be a key, or part of one. -/
def keyable (reader : Reader) (read : Reader -> Option Reader) : Option Reader := do
  read { (<- reader.saveKey) with keyAllowed := false }

/-- A text between quotes. -/
def quotedText (quote : Char) (reader : Reader) : Option Reader := do
  let start := reader.cursor.skip
  let (text, passed) <- quotedAfter quote (start.rest.length + 1) start []
  return { reader.emit (.scalar (String.ofList text) false) with cursor := passed }

/-- A plain text. -/
def plainText (reader : Reader) : Option Reader := do
  let margin := match reader.blocks.head? with | some column => column + 1 | none => 0
  let (text, passed, broken) <-
    plainAfter reader.inFlow margin (reader.cursor.rest.length + 1) reader.cursor [] {}
  return { reader.emit (.scalar (String.ofList text) true) with
    cursor := passed
    keyAllowed := broken || reader.keyAllowed }

/-- A block text. -/
def blockText (literal : Bool) (reader : Reader) : Option Reader := do
  let cleared <- reader.removeKey
  let (text, passed) <- block literal reader.blocks.head? reader.cursor.skip
  return { cleared.emit (.scalar (String.ofList text) false) with
    cursor := passed
    keyAllowed := true }

/-- A directive or a document marker, which close every block. -/
def atMargin (reader : Reader) (read : Reader -> Option Reader) : Option Reader := do
  read { (<- (reader.closeBlocks none).removeKey) with keyAllowed := false }

/-- Read the next token; the answer tells whether the document goes on. -/
def next (reader : Reader) : Option (Reader × Bool) := do
  let spaced := skipSpace (reader.cursor.rest.length + 1) reader
  let fresh <- spaced.dropStale
  let reader := fresh.closeBlocks (some fresh.cursor.column)
  let cursor := reader.cursor
  let goOn (read : Option Reader) : Option (Reader × Bool) := read.map (·, true)
  match cursor.peek with
  | none => return (<- (reader.closeBlocks none).removeKey, false)
  | some c =>
      if cursor.column == 0 && c == '%' then goOn (reader.atMargin directive)
      else if cursor.atMarker '-' then
        goOn (reader.atMargin fun closed => some (closed.emitMark .documentStart 3))
      else if cursor.atMarker '.' then
        goOn (reader.atMargin fun closed => some (closed.emitMark .documentEnd 3))
      else if c == '[' then goOn (reader.openFlow .flowSequenceStart)
      else if c == '\x7b' then goOn (reader.openFlow .flowMappingStart)
      else if c == ']' then goOn (reader.closeFlow .flowSequenceEnd)
      else if c == '\x7d' then goOn (reader.closeFlow .flowMappingEnd)
      else if c == ',' then
        goOn (reader.removeKey.map fun cleared =>
          { cleared.emitMark .flowEntry with keyAllowed := true })
      else if c == '-' && cursor.atWordEnd 1 then goOn reader.blockEntry
      else if c == '?' && (reader.inFlow || cursor.atWordEnd 1) then goOn reader.explicitKey
      else if c == ':' && (reader.inFlow || cursor.atWordEnd 1) then goOn reader.valueMark
      else if c == '*' then
        goOn (reader.keyable fun saved => do
          let (name, passed) <- anchorName saved.cursor
          return { saved.emit (.alias name) with cursor := passed })
      else if c == '&' then
        goOn (reader.keyable fun saved => do
          let (name, passed) <- anchorName saved.cursor
          return { saved.emit (.anchor name) with cursor := passed })
      else if c == '!' then
        goOn (reader.keyable fun saved => do
          let (token, passed) <- tagToken saved.inFlow saved.cursor
          return { saved.emit token with cursor := passed })
      else if c == '|' && !reader.inFlow then goOn (reader.blockText true)
      else if c == '>' && !reader.inFlow then goOn (reader.blockText false)
      else if c == '\'' then goOn (reader.keyable (quotedText '\''))
      else if c == '"' then goOn (reader.keyable (quotedText '"'))
      else if startsPlain reader.inFlow c (cursor.peek 1) then goOn (reader.keyable plainText)
      else none

/-- Read tokens to the end of the document. -/
def readAll : Nat -> Reader -> Option (Array Token)
  | 0, _ => none
  | fuel + 1, reader =>
      match reader.next with
      | none => none
      | some (ended, false) => some ended.tokens
      | some (longer, true) => readAll fuel longer

end Reader

/-- The tokens of a document, if it is well formed so far. -/
def Token.read? (text : String) : Option (List Token) :=
  let characters := text.toList
  if characters.all isAllowed then
    (Reader.readAll (characters.length + 2) { cursor := { rest := characters } }).map (·.toList)
  else none

end GuestTypes.Yaml
