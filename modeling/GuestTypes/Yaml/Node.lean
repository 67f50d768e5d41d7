import GuestTypes.Yaml.Token

/-!
# Nodes

The tree that a document's tokens describe. A stream holds at most one document; an empty one
holds none. An anchor takes as its number the count of anchor names known before it, and an
alias carries the number of the last anchor of its name, so two anchors may come to share a
number: an alias then means the later of them.
-/

namespace GuestTypes.Yaml

/-- A text of a document. -/
structure Scalar where
  text : String
  /-- Written without quotes. -/
  plain : Bool := true
  tag : Option String := none
  deriving DecidableEq, Inhabited, Repr

inductive Node where
  | scalar (scalar : Scalar)
  | alias (number : Nat)
  | sequence (items : List Node)
  | mapping (entries : List (Node × Node))
  deriving Inhabited, Repr

/-- A stream with at most one document. -/
structure Document where
  root : Option Node := none
  /-- What anchors stand at, latest first; nothing for a collection. -/
  anchored : List (Nat × Option Scalar) := []
  deriving Inhabited, Repr

/-- The scalar that a node is or stands for. -/
def Document.scalar? (document : Document) : Node -> Option Scalar
  | .scalar scalar => some scalar
  | .alias number => ((document.anchored.find? (·.1 == number)).map (·.2)).join
  | .sequence _ | .mapping _ => none

/-- The state of reading nodes. -/
structure Reading where
  rest : List Token
  /-- The expansions of tag handles. -/
  handles : List (String × String) := []
  /-- The number of each anchor name, latest first. -/
  names : List (String × Nat) := []
  /-- How many different anchor names there are. -/
  nameCount : Nat := 0
  anchored : List (Nat × Option Scalar) := []

abbrev Parse := StateT Reading Option

namespace Parse

/-- The next token; none at the end of the stream. -/
def peek : Parse (Option Token) := do return (<- get).rest.head?

def skip : Parse Unit := modify fun reading => { reading with rest := reading.rest.drop 1 }

def refuse {α : Type} : Parse α := fun _ => none

/-- Whether the next token is one of these. The end of the stream is none of them. -/
def isAt (tokens : List Token) : Parse Bool := do return (<- peek).any tokens.contains

/-- The next token must be the given one. -/
def expect (token : Token) : Parse Unit := do
  if <- isAt [token] then skip else refuse

/-- A text that is not there. -/
def absent : Node := .scalar { text := "" }

/-- The tag that a handle and a suffix stand for. -/
def expandTag (handle suffix : String) : Parse String := do
  if handle.isEmpty then return suffix
  match (<- get).handles.find? (·.1 == handle) with
  | some (_, expansion) => return expansion ++ suffix
  | none => refuse

/-- Number an anchor, which stands at a scalar or at a collection. -/
def recordAnchor (anchor : Option String) (scalar : Option Scalar) : Parse Unit := do
  if let some name := anchor then
    modify fun reading =>
      let known := reading.names.any (·.1 == name)
      { reading with
        names := (name, reading.nameCount) :: reading.names
        nameCount := reading.nameCount + if known then 0 else 1
        anchored := (reading.nameCount, scalar) :: reading.anchored }

/-- An anchor and a tag before a node, in either order. -/
def properties : Parse (Option String × Option String) := do
  let anchor? : Parse (Option String) := do
    match <- peek with
    | some (.anchor name) => skip; return some name
    | _ => return none
  let tag? : Parse (Option (String × String)) := do
    match <- peek with
    | some (.tag handle suffix) => skip; return some (handle, suffix)
    | _ => return none
  let before <- anchor?
  let tag <- tag?
  let anchor <- if before.isNone && tag.isSome then anchor? else pure before
  match tag with
  | some (handle, suffix) => return (anchor, some (<- expandTag handle suffix))
  | none => return (anchor, none)

mutual

/-- A node. Block collections are read where `block` holds, and a sequence whose entries stand
at the column of their key where `indentless` does. -/
def node : Nat -> Bool -> Bool -> Parse Node
  | 0, _, _ => refuse
  | fuel + 1, block, indentless => do
      if let some (.alias name) <- peek then
        skip
        match (<- get).names.find? (·.1 == name) with
        | some (_, number) => return .alias number
        | none => refuse
      else
        let (anchor, tag) <- properties
        match <- peek with
        | some .blockEntry =>
            if indentless then
              recordAnchor anchor none
              return .sequence (<- indentlessItems fuel)
            else unwritten anchor tag
        | some (.scalar text plain) =>
            skip
            let scalar : Scalar := { text, plain, tag := tag.filter (· != "!") }
            recordAnchor anchor (some scalar)
            return .scalar scalar
        | some .flowSequenceStart =>
            skip
            recordAnchor anchor none
            return .sequence (<- flowItems fuel true)
        | some .flowMappingStart =>
            skip
            recordAnchor anchor none
            return .mapping (<- flowEntries fuel true)
        | some .blockSequenceStart =>
            if block then
              skip
              recordAnchor anchor none
              return .sequence (<- blockItems fuel)
            else unwritten anchor tag
        | some .blockMappingStart =>
            if block then
              skip
              recordAnchor anchor none
              return .mapping (<- blockEntries fuel)
            else unwritten anchor tag
        | _ => unwritten anchor tag

/-- A node of which only the properties are written. -/
def unwritten (anchor tag : Option String) : Parse Node := do
  if anchor.isNone && tag.isNone then refuse
  let scalar : Scalar := { text := "", tag }
  recordAnchor anchor (some scalar)
  return .scalar scalar

/-- A node, or an absent one before the given tokens. -/
def nodeUnless : Nat -> Bool -> Bool -> List Token -> Parse Node
  | 0, _, _, _ => refuse
  | fuel + 1, block, indentless, before => do
      if <- isAt before then return absent
      else node fuel block indentless

def blockItems : Nat -> Parse (List Node)
  | 0 => refuse
  | fuel + 1 => do
      if <- isAt [.blockEntry] then
        skip
        let item <- nodeUnless fuel true false [.blockEntry, .blockEnd]
        return item :: (<- blockItems fuel)
      else
        expect .blockEnd
        return []

def indentlessItems : Nat -> Parse (List Node)
  | 0 => refuse
  | fuel + 1 => do
      if <- isAt [.blockEntry] then
        skip
        let item <- nodeUnless fuel true false [.blockEntry, .key, .value, .blockEnd]
        return item :: (<- indentlessItems fuel)
      else return []

def blockEntries : Nat -> Parse (List (Node × Node))
  | 0 => refuse
  | fuel + 1 => do
      if <- isAt [.key] then
        skip
        let key <- nodeUnless fuel true true [.key, .value, .blockEnd]
        let value <-
          if <- isAt [.value] then
            skip
            nodeUnless fuel true true [.key, .value, .blockEnd]
          else pure absent
        return (key, value) :: (<- blockEntries fuel)
      else
        expect .blockEnd
        return []

/-- The value of an entry between brackets that `close` ends. -/
def flowValue : Nat -> Token -> Parse Node
  | 0, _ => refuse
  | fuel + 1, close => do
      if <- isAt [.value] then
        skip
        nodeUnless fuel false false [.flowEntry, close]
      else return absent

/-- The items up to the closing bracket. An item with a key is a mapping of one entry; the
token after a key mark without a key is passed over. -/
def flowItems : Nat -> Bool -> Parse (List Node)
  | 0, _ => refuse
  | fuel + 1, first => do
      if <- isAt [.flowSequenceEnd] then
        skip
        return []
      else
        if !first then expect .flowEntry
        if <- isAt [.key] then
          skip
          let key <-
            if <- isAt [.value, .flowEntry, .flowSequenceEnd] then
              skip
              pure absent
            else node fuel false false
          let value <- flowValue fuel .flowSequenceEnd
          return .mapping [(key, value)] :: (<- flowItems fuel false)
        else if <- isAt [.flowSequenceEnd] then
          skip
          return []
        else
          let item <- node fuel false false
          return item :: (<- flowItems fuel false)

/-- The entries up to the closing brace. -/
def flowEntries : Nat -> Bool -> Parse (List (Node × Node))
  | 0, _ => refuse
  | fuel + 1, first => do
      if <- isAt [.flowMappingEnd] then
        skip
        return []
      else
        if !first then expect .flowEntry
        if <- isAt [.key] then
          skip
          let key <- nodeUnless fuel false false [.value, .flowEntry, .flowMappingEnd]
          let value <- flowValue fuel .flowMappingEnd
          return (key, value) :: (<- flowEntries fuel false)
        else if <- isAt [.flowMappingEnd] then
          skip
          return []
        else
          let key <- node fuel false false
          return (key, absent) :: (<- flowEntries fuel false)

end

/-- The handles that every document knows. -/
def standardHandles : List (String × String) := [("!", "!"), ("!!", "tag:yaml.org,2002:")]

/-- What a document declares before it starts. -/
structure Preamble where
  versioned : Bool := false
  handles : List (String × String) := []

/-- The directives before a document, and whether there are any. Each may be given once, and
only the two versions of the format are read. -/
def directives : Nat -> Preamble -> Parse Bool
  | 0, _ => refuse
  | fuel + 1, preamble => do
      match <- peek with
      | some (.versionDirective major minor) =>
          if preamble.versioned || major != 1 || !(minor == 1 || minor == 2) then refuse
          skip
          directives fuel { preamble with versioned := true }
      | some (.tagDirective handle expansion) =>
          if preamble.handles.any (·.1 == handle) then refuse
          skip
          directives fuel { preamble with handles := preamble.handles ++ [(handle, expansion)] }
      | _ =>
          modify fun reading => { reading with handles := preamble.handles ++ standardHandles }
          return preamble.versioned || !preamble.handles.isEmpty

/-- The end of the stream, after any number of end marks. -/
def streamEnd : Nat -> Parse Unit
  | 0 => refuse
  | fuel + 1 => do
      match <- peek with
      | none => return ()
      | some .documentEnd =>
          skip
          streamEnd fuel
      | some _ => refuse

/-- A stream. -/
def stream (fuel : Nat) : Parse (Option Node) := do
  if (<- peek).isNone then return none
  let directed <- directives fuel {}
  let root <-
    if <- isAt [.documentStart] then
      skip
      match <- peek with
      | none | some .documentStart | some .documentEnd | some (.versionDirective _ _)
      | some (.tagDirective _ _) => pure absent
      | some _ => node fuel true false
    else if directed then refuse
    else node fuel true false
  streamEnd fuel
  return some root

end Parse

/-- The tree of a document, if the document is well formed. -/
def Document.read? (text : String) : Option Document := do
  let tokens <- Token.read? text
  let (root, reading) <- (Parse.stream (8 * tokens.length + 16)).run { rest := tokens }
  return { root, anchored := reading.anchored }

end GuestTypes.Yaml
