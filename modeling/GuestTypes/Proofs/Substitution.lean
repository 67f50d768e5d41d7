import GuestTypes.Text.Substitution
import Mathlib.Data.List.Basic

/-!
# Substitution, occurrence by occurrence

What `substitute` does is said by three equations: of the empty text nothing is left, an
occurrence at the beginning is replaced, and a character at which none begins stays. Whatever is
said of the result of a substitution follows by induction along them. The result determines the
replacement, as soon as there is an occurrence to be replaced.
-/

namespace GuestTypes.Text

variable {pattern replacement other text front back rest : List Char} {first c : Char}

/-- Passing over characters drops them. -/
theorem substituteAfter_eq (pattern replacement : List Char) (skip : Nat) (text : List Char) :
    substituteAfter pattern replacement skip text =
      substitute pattern replacement (text.drop skip) := by
  induction skip generalizing text with
  | zero => rfl
  | succ skip inductionHypothesis =>
      cases text with
      | nil => rfl
      | cons c rest => exact inductionHypothesis rest

/-- There is nothing to replace in an empty text. -/
@[simp] theorem substitute_nil : substitute pattern replacement [] = [] := rfl

/-- A pattern at the start of a text is replaced, and the rest is searched. -/
theorem substitute_append_self (nonempty : pattern ≠ []) :
    substitute pattern replacement (pattern ++ rest) =
      replacement ++ substitute pattern replacement rest := by
  cases pattern with
  | nil => exact absurd rfl nonempty
  | cons first tail =>
      have begins : (first :: tail).isPrefixOf (first :: (tail ++ rest)) = true :=
        List.isPrefixOf_iff_prefix.mpr (List.prefix_append (first :: tail) rest)
      rw [List.cons_append, substitute, substituteAfter, if_pos begins, substituteAfter_eq]
      simp

/-- A character at which no pattern starts stays. -/
theorem substitute_cons (absent : ¬ pattern <+: c :: rest) :
    substitute pattern replacement (c :: rest) = c :: substitute pattern replacement rest := by
  rw [substitute, substituteAfter, if_neg (mt List.isPrefixOf_iff_prefix.mp absent)]
  rfl

/-- A pattern occurs in a text that starts with it. -/
theorem occursIn_append_self : occursIn pattern (pattern ++ rest) = true := by
  cases pattern with
  | nil => cases rest <;> simp [occursIn]
  | cons first tail => simp [occursIn]

/-- A pattern that does not start a text occurs in the rest, or nowhere. -/
theorem occursIn_cons (absent : ¬ pattern <+: c :: rest) :
    occursIn pattern (c :: rest) = occursIn pattern rest := by
  rw [occursIn, Bool.eq_false_iff.mpr (mt List.isPrefixOf_iff_prefix.mp absent), Bool.false_or]

/-- What occurs in a text occurs in any text that ends with it. -/
theorem occursIn_append (front : List Char) (occurs : occursIn pattern back = true) :
    occursIn pattern (front ++ back) = true := by
  induction front with
  | nil => exact occurs
  | cons c rest inductionHypothesis => simp [occursIn, inductionHypothesis]

/-- Along the occurrences of some patterns, from the left and without overlap. -/
theorem substitution_induction {motive : List Char -> Prop} (patterns : List (List Char))
    (nonempty : [] ∉ patterns) (nil : motive [])
    (hit : forall pattern, pattern ∈ patterns ->
      forall rest, motive rest -> motive (pattern ++ rest))
    (miss : forall c rest, (forall pattern, pattern ∈ patterns -> ¬ pattern <+: c :: rest) ->
      motive rest -> motive (c :: rest))
    (text : List Char) : motive text := by
  induction length : text.length using Nat.strongRecOn generalizing text with
  | ind length inductionHypothesis =>
      subst length
      cases text with
      | nil => exact nil
      | cons c rest =>
          by_cases found : exists pattern, pattern ∈ patterns ∧ pattern <+: c :: rest
          · obtain ⟨pattern, member, later, same⟩ := found
            have shorter : later.length < (c :: rest).length := by
              have positive : 0 < pattern.length :=
                List.length_pos_of_ne_nil fun empty => nonempty (empty ▸ member)
              rw [← same, List.length_append]
              omega
            rw [← same]
            exact hit pattern member later (inductionHypothesis _ shorter later rfl)
          · refine miss c rest (fun pattern member begins => found ⟨pattern, member, begins⟩) ?_
            exact inductionHypothesis _ (Nat.lt_succ_self _) rest rfl

/-- Along the occurrences of one pattern. -/
theorem occurrence_induction {motive : List Char -> Prop} (nonempty : pattern ≠ [])
    (nil : motive []) (hit : forall rest, motive rest -> motive (pattern ++ rest))
    (miss : forall c rest, ¬ pattern <+: c :: rest -> motive rest -> motive (c :: rest))
    (text : List Char) : motive text := by
  refine substitution_induction [pattern] (by simpa using nonempty) nil ?_ ?_ text
  · simpa using hit
  · simpa using miss

/-- Each occurrence gives the characters of the replacement for those of the pattern. How many
there are does not depend on the replacement. -/
theorem countP_substitute (nonempty : pattern ≠ []) (text : List Char) :
    exists hits, (occursIn pattern text = true -> 0 < hits) ∧ forall replacement holds,
      (substitute pattern replacement text).countP holds + hits * pattern.countP holds =
        text.countP holds + hits * replacement.countP holds := by
  induction text using occurrence_induction nonempty with
  | nil =>
      refine ⟨0, fun occurs => ?_, fun replacement holds => by simp⟩
      cases pattern with
      | nil => exact absurd rfl nonempty
      | cons first tail => cases occurs
  | hit rest inductionHypothesis =>
      obtain ⟨hits, -, counts⟩ := inductionHypothesis
      refine ⟨hits + 1, fun _ => Nat.succ_pos hits, fun replacement holds => ?_⟩
      have count := counts replacement holds
      rw [substitute_append_self nonempty, List.countP_append, List.countP_append]
      simp only [Nat.add_mul, Nat.one_mul]
      omega
  | miss c rest absent inductionHypothesis =>
      obtain ⟨hits, positive, counts⟩ := inductionHypothesis
      refine ⟨hits, by rwa [occursIn_cons absent], fun replacement holds => ?_⟩
      have count := counts replacement holds
      rw [substitute_cons absent, List.countP_cons, List.countP_cons]
      omega

/-- What a pattern was replaced by can be read off, if it occurred. -/
theorem substitute_injective (nonempty : pattern ≠ []) (occurs : occursIn pattern text = true)
    (same : substitute pattern replacement text = substitute pattern other text) :
    replacement = other := by
  obtain ⟨hits, positive, counts⟩ := countP_substitute nonempty text
  have length : replacement.length = other.length := by
    have mine := counts replacement fun _ => true
    have theirs := counts other fun _ => true
    rw [same] at mine
    simp only [List.countP_true] at mine theirs
    exact Nat.eq_of_mul_eq_mul_left (positive occurs) (Nat.add_left_cancel (mine.symm.trans theirs))
  clear counts positive
  induction text using occurrence_induction nonempty with
  | nil =>
      cases pattern with
      | nil => exact absurd rfl nonempty
      | cons first tail => cases occurs
  | hit rest _ =>
      rw [substitute_append_self nonempty, substitute_append_self nonempty] at same
      exact (List.append_inj same length).1
  | miss c rest absent inductionHypothesis =>
      rw [substitute_cons absent, substitute_cons absent] at same
      rw [occursIn_cons absent] at occurs
      exact inductionHypothesis occurs (List.cons.inj same).2

/-- A text is substituted in part by part, unless an occurrence begins in one part and ends in
the other. -/
theorem substitute_append (nonempty : pattern ≠ [])
    (apart : forall left right, left ≠ [] -> right ≠ [] -> pattern = left ++ right ->
      left <:+ front -> ¬ right <+: back) :
    substitute pattern replacement (front ++ back) =
      substitute pattern replacement front ++ substitute pattern replacement back := by
  induction front using occurrence_induction nonempty with
  | nil => rfl
  | hit rest inductionHypothesis =>
      rw [List.append_assoc, substitute_append_self nonempty, substitute_append_self nonempty,
        List.append_assoc, inductionHypothesis]
      exact fun left right some_ more split ends =>
        apart left right some_ more split (ends.trans (List.suffix_append pattern rest))
  | miss c rest absent inductionHypothesis =>
      have absent_ : ¬ pattern <+: c :: (rest ++ back) := by
        rintro ⟨after, same⟩
        obtain ⟨gap, whole, -⟩ | ⟨gap, split, begins⟩ :=
          List.append_eq_append_iff.mp (same.trans List.cons_append.symm)
        · exact absent ⟨gap, whole.symm⟩
        · cases gap with
          | nil =>
              exact absent ⟨[], (List.append_nil _).trans (split.trans (List.append_nil _))⟩
          | cons next gap =>
              exact apart (c :: rest) (next :: gap) (List.cons_ne_nil _ _) (List.cons_ne_nil _ _)
                split List.suffix_rfl ⟨after, begins.symm⟩
      rw [List.cons_append, substitute_cons absent_, substitute_cons absent, List.cons_append,
        inductionHypothesis]
      exact fun left right some_ more split ends =>
        apart left right some_ more split (ends.trans (List.suffix_cons c rest))

/-- No occurrence that begins before a character which only begins the pattern ends behind it. -/
theorem substitute_append_cons {tail : List Char} (once : first ∉ tail) :
    substitute (first :: tail) replacement (front ++ first :: back) =
      substitute (first :: tail) replacement front ++
        substitute (first :: tail) replacement (first :: back) := by
  apply substitute_append (List.cons_ne_nil _ _)
  intro left right some_ more split _ begins
  obtain ⟨d, left, rfl⟩ := List.exists_cons_of_ne_nil some_
  obtain ⟨e, right, rfl⟩ := List.exists_cons_of_ne_nil more
  obtain ⟨rfl, -⟩ := List.cons_prefix_cons.mp begins
  exact once (by rw [(List.cons.inj split).2]; simp)

/-- No occurrence ends with a character that does not end the pattern. -/
theorem substitute_concat (ends : pattern.getLast? ≠ some c) (nonempty : pattern ≠ []) :
    substitute pattern replacement (front ++ [c]) =
        substitute pattern replacement front ++ [c] := by
  have last : forall left right, right ≠ [] -> pattern = left ++ right -> ¬ right <+: [c] := by
    rintro left right more rfl begins
    obtain ⟨e, right, rfl⟩ := List.exists_cons_of_ne_nil more
    obtain ⟨rfl, empty⟩ := List.cons_prefix_cons.mp begins
    simp [List.prefix_nil.mp empty] at ends
  rw [substitute_append nonempty fun left right _ more split _ => last left right more split,
    substitute_cons (last [] pattern nonempty rfl), substitute_nil]

/-- No occurrence begins in a part without the first character of the pattern. -/
theorem substitute_append_of_not_mem {tail : List Char} (absent : first ∉ front) :
    substitute (first :: tail) replacement (front ++ back) =
      front ++ substitute (first :: tail) replacement back := by
  induction front with
  | nil => rfl
  | cons c rest inductionHypothesis =>
      rw [List.cons_append, substitute_cons, List.cons_append,
        inductionHypothesis (List.not_mem_of_not_mem_cons absent)]
      intro begins
      exact List.ne_of_not_mem_cons absent (List.cons_prefix_cons.mp begins).1

/-- What the result begins with stands in the text already, if no part of it can come from the
replacement. -/
theorem prefix_of_substitute {wanted : List Char} (nonempty : pattern ≠ [])
    (apart : forall part, part ≠ [] -> part <:+ wanted ->
      ¬ part <+: replacement ∧ ¬ replacement <+: part)
    (begins : wanted <+: substitute pattern replacement text) : wanted <+: text := by
  induction wanted generalizing text with
  | nil => exact List.nil_prefix
  | cons d tail inductionHypothesis =>
      cases text with
      | nil => simp at begins
      | cons c rest =>
          by_cases found : pattern <+: c :: rest
          · obtain ⟨later, same⟩ := found
            rw [← same, substitute_append_self nonempty] at begins
            obtain ⟨shorter, longer⟩ := apart (d :: tail) (List.cons_ne_nil _ _) List.suffix_rfl
            exact ((List.prefix_or_prefix_of_prefix begins (List.prefix_append _ _)).elim
              shorter longer).elim
          · rw [substitute_cons found, List.cons_prefix_cons] at begins
            exact List.cons_prefix_cons.mpr ⟨begins.1, inductionHypothesis (fun part some_ ends =>
              apart part some_ (ends.trans (List.suffix_cons d tail))) begins.2⟩

end GuestTypes.Text
