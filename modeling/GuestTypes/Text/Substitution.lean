/-!
# Occurrence and substitution

Textual search and replacement, from the left and without overlap. `substitute` is the
operation that expands name templates; `occursIn` says whether it would find anything.
-/

namespace GuestTypes.Text

/-- Whether the pattern occurs somewhere in the text. -/
def occursIn (pattern : List Char) : List Char -> Bool
  | [] => pattern.isEmpty
  | c :: rest => pattern.isPrefixOf (c :: rest) || occursIn pattern rest

/-- Replace occurrences, after passing over `skip` characters of one already replaced. -/
def substituteAfter (pattern replacement : List Char) : Nat -> List Char -> List Char
  | _, [] => []
  | skip + 1, _ :: rest => substituteAfter pattern replacement skip rest
  | 0, c :: rest =>
      if pattern.isPrefixOf (c :: rest) then
        replacement ++ substituteAfter pattern replacement (pattern.length - 1) rest
      else
        c :: substituteAfter pattern replacement 0 rest

/-- Replace every occurrence of a pattern that is not empty, from the left. -/
def substitute (pattern replacement text : List Char) : List Char :=
  substituteAfter pattern replacement 0 text

/-- A pattern that does not occur leaves the text alone. -/
theorem substitute_of_not_occursIn (pattern replacement text : List Char)
    (absent : occursIn pattern text = false) : substitute pattern replacement text = text := by
  unfold substitute
  induction text with
  | nil => rfl
  | cons c rest inductionHypothesis =>
      simp only [occursIn, Bool.or_eq_false_iff] at absent
      simp [substituteAfter, absent.1, inductionHypothesis absent.2]

end GuestTypes.Text
