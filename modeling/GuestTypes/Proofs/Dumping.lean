import GuestTypes.Action
import Mathlib.Data.List.Basic

/-!
# Where listings go

A file name without a slash names a file in the directory that it is joined to; any other may lead
elsewhere. Making a directory makes nothing but the directories on the way to it, also when it
fails, and writing a file changes that file alone.
-/

namespace GuestTypes

/-! ## Places -/

namespace Path

variable {directory path file : String}

/-- The names in a path, but for those that lead nowhere. -/
def names (path : String) : List String :=
  ((path.toList.splitOn '/').map String.ofList).filter (fun name => !name.isEmpty && name != ".")

/-- The names along the way, of which one that leads back takes the last one away. -/
def walk (names : List String) : List String :=
  names.foldl (fun sofar name =>
    if name == ".." && !sofar.isEmpty then sofar.dropLast else sofar ++ [name]) []

/-- A place is walked to from the root, or from where one is. -/
theorem place_eq (path : String) : place path =
    if isAbsolute path then "/" :: walk (names path) else walk (names path) := rfl

/-- A name that can stand at the end of a path. -/
structure Plain (file : String) : Prop where
  flat : '/' ∉ file.toList
  nonempty : file ≠ ""
  here : file ≠ "."
  back : file ≠ ".."

/-- A plain name is one name. -/
theorem Plain.names (plain : Plain file) : names file = [file] := by
  unfold Path.names
  rw [List.splitOn_eq_singleton plain.flat]
  have nonempty := plain.nonempty
  have here := plain.here
  simp [nonempty, here]

/-- A slash separates names. -/
theorem names_append (path file : String) :
    names (path ++ "/" ++ file) = names path ++ names file := by
  have split : (path ++ "/" ++ file).toList = path.toList ++ '/' :: file.toList := by simp
  unfold names
  rw [split, List.splitOn_append_cons_self, List.map_append, List.filter_append]

/-- A plain name is walked to at the end. -/
theorem walk_append (plain : Plain file) (names : List String) :
    walk (names ++ [file]) = walk names ++ [file] := by
  have back : (file == "..") = false := beq_false_of_ne plain.back
  unfold walk
  rw [List.foldl_append, List.foldl_cons, List.foldl_nil, back]
  rfl

/-- A plain name leads from where one is. -/
theorem Plain.relative (plain : Plain file) : isAbsolute file = false := by
  apply beq_false_of_ne
  exact fun first => plain.flat (List.mem_of_head? first)

/-- A path is joined to a directory in one of three ways. -/
theorem join_cases (directory : String) (plain : Plain file) :
    directory = "" ∧ join directory file = file ∨
    (exists above, directory = above ++ "/" ∧ join directory file = above ++ "/" ++ file) ∨
    directory ≠ "" ∧ join directory file = directory ++ "/" ++ file := by
  unfold join
  rw [plain.relative, if_neg Bool.false_ne_true]
  by_cases empty : directory = ""
  · exact .inl ⟨empty, by simp [empty]⟩
  · by_cases ended : directory.toList.getLast? = some '/'
    · obtain ⟨above, split⟩ := List.getLast?_eq_some_iff.mp ended
      have same : directory = String.ofList above ++ "/" := by
        apply String.toList_injective
        simp [split]
      refine .inr (.inl ⟨_, same, ?_⟩)
      rw [if_pos (by simp [ended]), ← same]
    · refine .inr (.inr ⟨empty, if_neg ?_⟩)
      simp [empty, ended]

theorem names_empty : names "" = [] := by decide

/-- The names of a file in a directory. -/
theorem names_join (plain : Plain file) :
    names (join directory file) = names directory ++ [file] := by
  rcases join_cases directory plain with ⟨rfl, joined⟩ | ⟨above, rfl, joined⟩ | ⟨-, joined⟩
  · rw [joined, plain.names, names_empty, List.nil_append]
  · have bare : names (above ++ "/" ++ "") = names above ++ names "" := names_append above ""
    rw [String.append_empty, names_empty, List.append_nil] at bare
    rw [joined, names_append, bare, plain.names]
  · rw [joined, names_append, plain.names]

/-- A plain name behind a directory leads where that leads from. -/
theorem isAbsolute_join (plain : Plain file) :
    isAbsolute (join directory file) = isAbsolute directory := by
  have first : forall text other : String, text ≠ "" ->
      isAbsolute (text ++ other) = isAbsolute text := by
    intro text other nonempty
    have some_ : text.toList ≠ [] := by simpa using nonempty
    simp [isAbsolute, List.head?_append_of_ne_nil _ some_]
  rcases join_cases directory plain with ⟨rfl, joined⟩ | ⟨above, rfl, joined⟩ | ⟨nonempty, joined⟩
  · rw [joined, plain.relative]
    rfl
  · rw [joined, first _ _ (by simp)]
  · rw [joined, String.append_assoc, first _ _ nonempty]

/-- The name of a listing is plain unless there is a slash in it. -/
theorem plain_listing {simple : String} (flat : '/' ∉ simple.toList) :
    Plain (simple ++ ".class.txt") := by
  have long : 10 ≤ (simple ++ ".class.txt").toList.length := by
    simp
  have other : forall short : String, short.toList.length < 10 ->
      simple ++ ".class.txt" ≠ short := by
    rintro short less rfl
    omega
  refine ⟨?_, other _ (by decide), other _ (by decide), other _ (by decide)⟩
  simpa using flat

/-- A file with a plain name that is joined to a directory is in that directory. -/
theorem place_join (plain : Plain file) :
    place (join directory file) = place directory ++ [file] := by
  rw [place_eq, place_eq, isAbsolute_join plain, names_join plain, walk_append plain]
  cases isAbsolute directory <;> rfl

end Path

/-! ## File trees -/

namespace FileTree

variable {before middle after : FileTree} {directory listing : List String}

/-- Only directories on the way to one may be new, and only one file may be different. -/
structure Lists (directory listing : List String) (before after : FileTree) : Prop where
  closed : after.closed = before.closed
  kept : forall place, place ∈ before.directories -> place ∈ after.directories
  made : forall place, place ∈ after.directories -> place ∈ before.directories ∨ place <+: directory
  files : forall place, place ≠ listing -> after.file? place = before.file? place

theorem Lists.refl (directory listing : List String) (tree : FileTree) :
    Lists directory listing tree tree :=
  ⟨rfl, fun _ => id, fun _ => .inl, fun _ _ => rfl⟩

theorem Lists.trans (first : Lists directory listing before middle)
    (last : Lists directory listing middle after) : Lists directory listing before after where
  closed := last.closed.trans first.closed
  kept := fun place old => last.kept place (first.kept place old)
  made := fun place new => (last.made place new).elim (first.made place) .inr
  files := fun place other => (last.files place other).trans (first.files place other)

/-- Directories are made one by one, up to the first that is refused. -/
theorem lists_makeEach (listing : List String) (tree : FileTree) (places : List (List String))
    (upto : forall place, place ∈ places -> place <+: directory) :
    Lists directory listing tree (tree.makeEach places).2 := by
  induction places generalizing tree with
  | nil => exact .refl _ _ tree
  | cons place below inductionHypothesis =>
      have onward := fun tree => inductionHypothesis tree fun other member =>
        upto other (List.mem_cons_of_mem _ member)
      unfold makeEach
      split
      · exact onward tree
      · split
        · exact .refl _ _ tree
        · split
          · exact .refl _ _ tree
          · have grown : Lists directory listing tree
                { tree with directories := tree.directories ++ [place] } := by
              refine ⟨rfl, fun other => List.mem_append_left _, fun other member => ?_,
                fun _ _ => rfl⟩
              rcases List.mem_append.mp member with old | new
              · exact .inl old
              · rw [List.mem_singleton.mp new]
                exact .inr (upto place List.mem_cons_self)
            exact grown.trans (onward _)

/-- Whether or not a directory can be made, no other ones are made than those on the way. -/
theorem lists_makeDirectories (listing : List String) (tree : FileTree) (path : String) :
    Lists (Path.place path) listing tree (tree.makeDirectories path).2 := by
  unfold makeDirectories
  split
  · exact .refl _ _ tree
  · apply lists_makeEach
    intro place member
    obtain ⟨length, -, rfl⟩ := List.mem_map.mp member
    exact List.take_prefix length _

/-- Whether or not a file can be written, no other one is changed. -/
theorem lists_write (directory : List String) (tree : FileTree) (path text : String) :
    Lists directory (Path.place path) tree (tree.write path text).2 := by
  unfold write
  split
  · exact .refl _ _ tree
  · split
    · exact .refl _ _ tree
    · dsimp only
      split
      · exact .refl _ _ tree
      · split
        · exact .refl _ _ tree
        · refine ⟨rfl, fun _ => id, fun _ => .inl, fun place other => ?_⟩
          have apart : forall entry : List String × String,
              decide ((entry.1 != Path.place path) = true ∧ (entry.1 == place) = true) =
                (entry.1 == place) := by
            intro entry
            cases here : entry.1 == place with
            | false => simp
            | true =>
                rw [beq_iff_eq.mp here]
                simpa using other
          have last : ((Path.place path, text).1 == place) = false := beq_false_of_ne other.symm
          simp only [file?, List.find?_append, List.find?_filter, apart, List.find?_cons, last,
            List.find?_nil, Option.or_none]

end FileTree

/-! ## Actions on files -/

/-- To make directories changes files only. -/
theorem Action.perform_makeDirectories (thread : ThreadId) (store : Store) (path : String) :
    (makeDirectories path).perform thread store =
      some ((store.files.makeDirectories path).1,
        { store with files := (store.files.makeDirectories path).2 }) := rfl

/-- To write a file changes files only. -/
theorem Action.perform_writeFile (thread : ThreadId) (store : Store) (path text : String) :
    (writeFile path text).perform thread store = some ((store.files.write path text).1,
      { store with files := (store.files.write path text).2 }) := rfl

end GuestTypes
