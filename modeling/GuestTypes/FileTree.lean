/-!
# File trees

The files that class listings are dumped into and documents are read from. A place in the
tree is the list of names on the way to it; the tree always holds the directory where
relative paths start, which is the empty place. The problems carry the texts and numbers of
the host's error codes.
-/

namespace GuestTypes

/-- Why a file operation was refused. -/
inductive FileProblem where
  | missing
  | alreadyExists
  | notDirectory
  | isDirectory
  | nameTooLong
  | zeroByte
  deriving DecidableEq, Inhabited, Repr

def FileProblem.message : FileProblem -> String
  | missing => "No such file or directory (os error 2)"
  | alreadyExists => "File exists (os error 17)"
  | notDirectory => "Not a directory (os error 20)"
  | isDirectory => "Is a directory (os error 21)"
  | nameTooLong => "File name too long (os error 36)"
  | zeroByte => "file name contained an unexpected NUL byte"

namespace Path

/-- Whether a path starts at the root of the file system. -/
def isAbsolute (path : String) : Bool := path.toList.head? == some '/'

/-- A path inside a directory; an absolute path stands for itself. -/
def join (directory path : String) : String :=
  if isAbsolute path then path
  else if directory.isEmpty || directory.toList.getLast? == some '/' then directory ++ path
  else directory ++ "/" ++ path

/-- The names on the way to a place. The root counts as a name of its own. -/
def place (path : String) : List String :=
  let split := (path.toList.splitOn '/').map String.ofList
  let names := split.filter (fun name => !name.isEmpty && name != ".")
  let walked := names.foldl (fun sofar name =>
    if name == ".." && !sofar.isEmpty then sofar.dropLast else sofar ++ [name]) []
  if isAbsolute path then "/" :: walked else walked

end Path

/-- Directories, and files with their texts. -/
structure FileTree where
  directories : List (List String) := [[], ["/"]]
  /-- Directories that take no new names. -/
  closed : List (List String) := []
  files : List (List String × String) := []
  deriving Inhabited, Repr

namespace FileTree

def file? (tree : FileTree) (place : List String) : Option String :=
  (tree.files.find? (·.1 == place)).map (·.2)

def isFile (tree : FileTree) (place : List String) : Bool := (tree.file? place).isSome

def isDirectory (tree : FileTree) (place : List String) : Bool := tree.directories.contains place

/-- The longest file name, in bytes. -/
def nameLimit : Nat := 255

/-- What stands in the way of naming something at a place: a directory on the way is missing,
or is a file, or the last name is too long, or it is new in a directory that is closed. -/
def obstacle? (tree : FileTree) (place : List String) : Option FileProblem :=
  let above := (List.range place.length).map (place.take ·)
  match above.find? (fun directory => !tree.isDirectory directory && !directory.isEmpty) with
  | some directory => some (if tree.isFile directory then .notDirectory else .missing)
  | none =>
      if (place.getLast?.getD "").utf8ByteSize > nameLimit then some .nameTooLong
      else if tree.closed.contains place.dropLast && !tree.isDirectory place
        && !tree.isFile place then some .missing
      else none

/-- Make a directory and those above it that are missing, nearest the root first. Those that are
made before one is refused stay. -/
def makeEach (tree : FileTree) : List (List String) -> Except FileProblem Unit × FileTree
  | [] => (.ok (), tree)
  | place :: below =>
      if tree.isDirectory place then tree.makeEach below
      else
        match tree.obstacle? place with
        | some problem => (.error problem, tree)
        | none =>
            if tree.isFile place then
              (.error (if below.isEmpty then .alreadyExists else .notDirectory), tree)
            else
              makeEach { tree with directories := tree.directories ++ [place] } below

/-- Make a directory with all directories above it. -/
def makeDirectories (tree : FileTree) (path : String) : Except FileProblem Unit × FileTree :=
  if path.toList.contains '\x00' then (.error .zeroByte, tree)
  else
    let place := Path.place path
    tree.makeEach ((List.range (place.length + 1)).map (place.take ·))

/-- Write a file, replacing what it held. -/
def write (tree : FileTree) (path text : String) : Except FileProblem Unit × FileTree :=
  if path.toList.contains '\x00' then (.error .zeroByte, tree)
  else if path.isEmpty then (.error .missing, tree)
  else
    let place := Path.place path
    match tree.obstacle? place with
    | some problem => (.error problem, tree)
    | none =>
        if tree.isDirectory place then (.error .isDirectory, tree)
        else (.ok (), { tree with
          files := tree.files.filter (·.1 != place) ++ [(place, text)] })

/-- Read a file. -/
def read (tree : FileTree) (path : String) : Except FileProblem String :=
  if path.toList.contains '\x00' then .error .zeroByte
  else if path.isEmpty then .error .missing
  else
    let place := Path.place path
    match tree.obstacle? place with
    | some problem => .error problem
    | none =>
        if tree.isDirectory place then .error .isDirectory
        else match tree.file? place with
          | some text => if path.endsWith "/" then .error .notDirectory else .ok text
          | none => .error .missing

/-- The files below a directory, by their paths from there. -/
def below (tree : FileTree) (path : String) : List (String × String) :=
  let place := Path.place path
  tree.files.filterMap fun (file, text) =>
    if place.isPrefixOf file && place.length < file.length then
      some (String.intercalate "/" (file.drop place.length), text)
    else none

end FileTree

end GuestTypes
