import GuestTypes.Configuration
import GuestTypes.Proofs.Substitution
import Mathlib.Data.List.Perm.Basic

/-!
# Names of synthesized classes

Which bases and numbers can lead to the same simple name under a template. For one base the
number can be read off a name. Different bases are a different matter, for a template may put the
number next to the base, where it could be a part of it, and a base may have a place for the
number in it. If no brace is in them, bases with one name differ in digits only; and if the
template has some other character before its number, they do not differ at all.
-/

namespace GuestTypes

namespace Text

/-- No placeholder begins or ends in the text. -/
def Unbraced (text : List Char) : Prop := '\x7b' ∉ text ∧ '\x7d' ∉ text

instance (text : List Char) : Decidable (Unbraced text) := inferInstanceAs (Decidable (_ ∧ _))

/-- A text without its decimal digits. -/
def withoutDigits (text : List Char) : List Char := text.filter (!·.isDigit)

/-- Behind something else the digits at the end of a text can be read off. -/
theorem digits_eq {front before digits others : List Char} {fence other : Char}
    (same : front ++ fence :: digits = before ++ other :: others)
    (stops : fence.isDigit = false) (stop : other.isDigit = false)
    (mine : digits.all Char.isDigit = true) (theirs : others.all Char.isDigit = true) :
    digits = others := by
  rw [List.all_eq_true] at mine theirs
  obtain ⟨gap, -, split⟩ | ⟨gap, -, split⟩ := List.append_eq_append_iff.mp same
  · cases gap with
    | nil => exact (List.cons.inj split).2
    | cons next gap =>
        have member : other ∈ digits := by
          rw [(List.cons.inj split).2]
          simp
        simp [mine other member] at stop
  · cases gap with
    | nil => exact (List.cons.inj split).2.symm
    | cons next gap =>
        have member : fence ∈ others := by
          rw [(List.cons.inj split).2]
          simp
        simp [theirs fence member] at stops

end Text

namespace Configuration

open Text

variable {base other number others template rest : List Char} {c : Char} {keep : Char -> Bool}

/-- The place of the base, spelled out. -/
theorem toList_basePlaceholder :
    basePlaceholder.toList = ['\x7b', 'b', 'a', 's', 'e', '\x7d'] := rfl

/-- The place of the number, spelled out. -/
theorem toList_numberPlaceholder : numberPlaceholder.toList = ['\x7b', 'n', '\x7d'] := rfl

theorem basePlaceholder_ne_nil : basePlaceholder.toList ≠ [] := by decide

theorem numberPlaceholder_ne_nil : numberPlaceholder.toList ≠ [] := by decide

/-- A template with its places filled in, as `simpleClassName` does it. -/
def fill (base number template : List Char) : List Char :=
  substitute numberPlaceholder.toList number (substitute basePlaceholder.toList base template)

/-- Along the places of a template. -/
theorem template_induction {motive : List Char -> Prop} (nil : motive [])
    (base : forall rest, motive rest -> motive (basePlaceholder.toList ++ rest))
    (number : forall rest, motive rest -> motive (numberPlaceholder.toList ++ rest))
    (char : forall c rest, ¬ basePlaceholder.toList <+: c :: rest ->
      ¬ numberPlaceholder.toList <+: c :: rest -> motive rest -> motive (c :: rest))
    (template : List Char) : motive template := by
  refine substitution_induction [basePlaceholder.toList, numberPlaceholder.toList] (by decide) nil
    ?_ ?_ template
  · simpa using ⟨base, number⟩
  · simpa using char

/-! ## Reading the number off -/

/-- The place of the number is not a place of the base. -/
theorem substitute_base_number :
    substitute basePlaceholder.toList base (numberPlaceholder.toList ++ rest) =
      numberPlaceholder.toList ++ substitute basePlaceholder.toList base rest := by
  rw [toList_numberPlaceholder, toList_basePlaceholder]
  simp only [List.cons_append, List.nil_append]
  rw [substitute_cons (by simp), substitute_cons (by simp), substitute_cons (by simp)]

/-- The base does not take a place away from the number. -/
theorem occursIn_number (mentions : occursIn numberPlaceholder.toList template = true) :
    occursIn numberPlaceholder.toList (substitute basePlaceholder.toList base template) = true := by
  induction template using template_induction with
  | nil => cases mentions
  | base rest inductionHypothesis =>
      rw [substitute_append_self basePlaceholder_ne_nil]
      apply occursIn_append
      apply inductionHypothesis
      simpa [toList_basePlaceholder, toList_numberPlaceholder, occursIn] using mentions
  | number rest _ =>
      rw [substitute_base_number]
      exact occursIn_append_self
  | char c rest noBase noNumber inductionHypothesis =>
      rw [occursIn_cons noNumber] at mentions
      rw [substitute_cons noBase]
      exact occursIn_append [c] (inductionHypothesis mentions)

/-- A place behind a character that ends no place is a place by itself. -/
theorem substitute_fence {before back tail replacement : List Char} {fence : Char}
    (once : '\x7b' ∉ tail) (last : ('\x7b' :: tail).getLast? = some '\x7d')
    (ends : fence ≠ '\x7d') :
    substitute ('\x7b' :: tail) replacement (before ++ fence :: '\x7b' :: back) =
      substitute ('\x7b' :: tail) replacement before ++
        fence :: substitute ('\x7b' :: tail) replacement ('\x7b' :: back) := by
  have split : before ++ fence :: '\x7b' :: back = (before ++ [fence]) ++ '\x7b' :: back := by simp
  rw [split, substitute_append_cons once, substitute_concat _ (List.cons_ne_nil _ _),
    List.append_assoc]
  · rfl
  · rw [last]
    exact fun same => ends (Option.some.inj same).symm

/-- Behind such a character, and before text without places, the number stands as it is. -/
theorem fill_fence {before after : List Char} {fence : Char} (ends : fence ≠ '\x7d')
    (plain : '\x7b' ∉ after) :
    fill base number (before ++ fence :: (numberPlaceholder.toList ++ after)) =
      fill base number before ++ fence :: (number ++ after) := by
  have behind : forall tail replacement,
      substitute ('\x7b' :: tail) replacement after = after := by
    intro tail replacement
    have passed : substitute ('\x7b' :: tail) replacement (after ++ []) = after ++ [] :=
      substitute_append_of_not_mem plain
    rwa [List.append_nil] at passed
  have based : substitute basePlaceholder.toList base
      (before ++ fence :: (numberPlaceholder.toList ++ after)) =
        substitute basePlaceholder.toList base before ++
          fence :: (numberPlaceholder.toList ++ after) := by
    refine (substitute_fence (by decide) rfl ends).trans ?_
    refine congrArg (_ ++ fence :: ·) (substitute_base_number.trans ?_)
    exact congrArg (numberPlaceholder.toList ++ ·) (behind _ _)
  unfold fill
  rw [based]
  refine (substitute_fence (by decide) rfl ends).trans ?_
  refine congrArg (_ ++ fence :: ·) ((substitute_append_self numberPlaceholder_ne_nil).trans ?_)
  exact congrArg (number ++ ·) (behind _ _)

/-! ## Bases without braces -/

/-- The base stands in its place. -/
theorem fill_base (free : '\x7b' ∉ base) :
    fill base number (basePlaceholder.toList ++ rest) = base ++ fill base number rest := by
  unfold fill
  rw [substitute_append_self basePlaceholder_ne_nil]
  exact substitute_append_of_not_mem free

/-- The number stands in its place. -/
theorem fill_number :
    fill base number (numberPlaceholder.toList ++ rest) = number ++ fill base number rest := by
  unfold fill
  rw [substitute_base_number, substitute_append_self numberPlaceholder_ne_nil]

/-- The base does not complete a place for the number: it has no braces, and is neither empty nor
what is between them. -/
theorem fill_char (free : Unbraced base) (long : 2 ≤ base.length)
    (noBase : ¬ basePlaceholder.toList <+: c :: rest)
    (noNumber : ¬ numberPlaceholder.toList <+: c :: rest) :
    fill base number (c :: rest) = c :: fill base number rest := by
  unfold fill
  rw [substitute_cons noBase, substitute_cons]
  intro begins
  rw [toList_numberPlaceholder, List.cons_prefix_cons] at begins noNumber
  obtain ⟨rfl, begins⟩ := begins
  refine noNumber ⟨rfl, prefix_of_substitute basePlaceholder_ne_nil ?_ begins⟩
  intro part some_ ends
  have closes : '\x7d' ∈ part ∧ part.length ≤ 2 := by
    obtain rfl | rfl : part = ['n', '\x7d'] ∨ part = ['\x7d'] := by
      simpa [List.suffix_cons_iff, some_] using ends
    all_goals decide
  constructor
  · exact fun begins => free.2 (begins.mem closes.1)
  · intro begins
    have whole := begins.eq_of_length_le (Nat.le_trans closes.2 long)
    exact free.2 (whole ▸ closes.1)

/-- Bases with one name have the same characters of those that the numbers do not differ in. -/
theorem perm_filter_base (free : Unbraced base) (free_ : Unbraced other)
    (unbraced : '\x7b' ∉ number) (unbraced_ : '\x7b' ∉ others)
    (numbers : number.filter keep = others.filter keep)
    (mentions : occursIn basePlaceholder.toList template = true)
    (same : fill base number template = fill other others template) :
    (base.filter keep).Perm (other.filter keep) := by
  obtain ⟨places, positive, placed⟩ := countP_substitute basePlaceholder_ne_nil template
  obtain ⟨mine, -, filled⟩ := countP_substitute numberPlaceholder_ne_nil
    (substitute basePlaceholder.toList base template)
  obtain ⟨theirs, -, refilled⟩ := countP_substitute numberPlaceholder_ne_nil
    (substitute basePlaceholder.toList other template)
  unfold fill at same
  -- Each place takes its braces away, so there is the same number of places for the number.
  have places_ : mine = theirs := by
    have based := placed base (· == '\x7b')
    have rebased := placed other (· == '\x7b')
    have numbered := filled number (· == '\x7b')
    have renumbered := refilled others (· == '\x7b')
    rw [same] at numbered
    simp only [← List.count_eq_countP, List.count_eq_zero_of_not_mem free.1,
      List.count_eq_zero_of_not_mem free_.1, List.count_eq_zero_of_not_mem unbraced,
      List.count_eq_zero_of_not_mem unbraced_, toList_basePlaceholder, toList_numberPlaceholder]
      at based rebased numbered renumbered
    simp at based rebased numbered renumbered
    omega
  rw [List.perm_iff_count]
  intro c
  by_cases kept : keep c = true
  · rw [List.count_filter kept, List.count_filter kept]
    have alike : number.count c = others.count c := by
      rw [← List.count_filter kept, numbers, List.count_filter kept]
    have based := placed base (· == c)
    have rebased := placed other (· == c)
    have numbered := filled number (· == c)
    have renumbered := refilled others (· == c)
    rw [same] at numbered
    simp only [← List.count_eq_countP, places_, alike] at based rebased numbered renumbered
    exact Nat.eq_of_mul_eq_mul_left (positive mentions) (by omega)
  · have dropped : forall text : List Char, (text.filter keep).count c = 0 := fun text =>
      List.count_eq_zero_of_not_mem fun member => kept (List.mem_filter.mp member).2
    rw [dropped, dropped]

/-- Long bases that fill the same places stand in the same places of the name. -/
theorem filter_base_aligned (free : Unbraced base) (free_ : Unbraced other)
    (long : 2 ≤ base.length) (long_ : 2 ≤ other.length)
    (lengths : (base.filter keep).length = (other.filter keep).length)
    (numbers : number.filter keep = others.filter keep)
    (mentions : occursIn basePlaceholder.toList template = true)
    (same : (fill base number template).filter keep = (fill other others template).filter keep) :
    base.filter keep = other.filter keep := by
  induction template using template_induction with
  | nil => cases mentions
  | base rest _ =>
      rw [fill_base free.1, fill_base free_.1, List.filter_append, List.filter_append] at same
      exact (List.append_inj same lengths).1
  | number rest inductionHypothesis =>
      rw [fill_number, fill_number, List.filter_append, List.filter_append, numbers] at same
      refine inductionHypothesis ?_ (List.append_cancel_left same)
      simpa [toList_basePlaceholder, toList_numberPlaceholder, occursIn] using mentions
  | char c rest noBase noNumber inductionHypothesis =>
      rw [fill_char free long noBase noNumber, fill_char free_ long_ noBase noNumber,
        List.filter_cons, List.filter_cons] at same
      rw [occursIn_cons noBase] at mentions
      refine inductionHypothesis mentions ?_
      split at same
      · exact (List.cons.inj same).2
      · exact same

/-- Bases with one name are the same, apart from characters that the numbers may differ in. -/
theorem filter_base_eq (free : Unbraced base) (free_ : Unbraced other)
    (unbraced : '\x7b' ∉ number) (unbraced_ : '\x7b' ∉ others)
    (numbers : number.filter keep = others.filter keep)
    (mentions : occursIn basePlaceholder.toList template = true)
    (same : fill base number template = fill other others template) :
    base.filter keep = other.filter keep := by
  have perm : (base.filter keep).Perm (other.filter keep) :=
    perm_filter_base free free_ unbraced unbraced_ numbers mentions same
  by_cases long : 2 ≤ (base.filter keep).length
  · have long_ : 2 ≤ (other.filter keep).length := perm.length_eq ▸ long
    exact filter_base_aligned free free_ (Nat.le_trans long (List.length_filter_le _ _))
      (Nat.le_trans long_ (List.length_filter_le _ _)) perm.length_eq numbers mentions
      (congrArg (List.filter keep) same)
  · match base.filter keep, perm, long with
    | [], perm, _ => exact perm.nil_eq
    | [c], perm, _ => exact (List.perm_singleton.mp perm.symm).symm
    | _ :: _ :: _, _, long => exact absurd (by simp) long

/-! ## Simple names -/

/-- A simple name is the template with its places filled in. -/
theorem toList_simpleClassName (config : Configuration) (base : String) (number : Nat) :
    (config.simpleClassName base number).toList =
      fill base.toList (toString number).toList config.template.toList :=
  String.toList_ofList

/-- A number is written in digits. -/
theorem digits_toString (number : Nat) : (toString number).toList.all Char.isDigit = true := by
  rw [List.all_eq_true, Nat.toString_eq_repr, Nat.repr_eq_ofList_toDigits, String.toList_ofList]
  exact fun c member => Nat.isDigit_of_mem_toDigits (by decide) (by decide) member

/-- Different numbers are written differently. -/
theorem toString_injective {number other : Nat}
    (same : (toString number).toList = (toString other).toList) : number = other := by
  simp only [Nat.toString_eq_repr, Nat.repr_eq_ofList_toDigits, String.toList_ofList] at same
  rw [← Nat.ofDigitChars_toDigits (by decide : 1 < 10) (by decide : 10 ≤ 10) (n := number), same,
    Nat.ofDigitChars_toDigits (by decide) (by decide)]

/-- No place can come from a number. -/
theorem unbraced_toString (number : Nat) : '\x7b' ∉ (toString number).toList := by
  intro member
  have digit := List.all_eq_true.mp (digits_toString number) _ member
  cases digit

/-- A valid template has both places. -/
theorem mentions_of_validate {config : Configuration} (valid : config.validate = .ok ()) :
    occursIn basePlaceholder.toList config.template.toList = true ∧
      occursIn numberPlaceholder.toList config.template.toList = true := by
  unfold validate at valid
  split at valid
  · cases valid
  · rename_i complete
    simpa [mentions] using complete

/-- The template has a character before its last number which is no digit, and no place after it,
so that it shows where the number begins and ends. -/
def Fences (config : Configuration) : Prop :=
  exists before fence after, config.template.toList =
      before ++ fence :: (numberPlaceholder.toList ++ after) ∧
    fence.isDigit = false ∧ fence ≠ '\x7d' ∧ '\x7b' ∉ after

/-- The template that configurations start with fences its number. -/
theorem fences_default : ({} : Configuration).Fences :=
  ⟨"Derived$\x7bbase\x7d".toList, '$', [], rfl, rfl, by decide, List.not_mem_nil⟩

/-- The template tells two bases apart: no place can come from them, and they do not differ in
digits only, which might be taken for digits of a number, unless the template fences its number. -/
structure Distinguishes (config : Configuration) (first second : String) : Prop where
  unbraced : Unbraced first.toList ∧ Unbraced second.toList
  apart : config.Fences ∨ withoutDigits first.toList ≠ withoutDigits second.toList

variable {config : Configuration} {first second : String} {count total : Nat}

/-- All names of a configuration are in one package. -/
theorem className_injective (same : config.className first = config.className second) :
    first = second := by
  unfold className Text.qualified at same
  split at same
  · exact same
  · exact (String.append_right_inj _).mp same

/-- The number can be read off a name, if the base is known. -/
theorem number_eq (valid : config.validate = .ok ())
    (same : config.simpleClassName first count = config.simpleClassName first total) :
    count = total := by
  have filled := congrArg String.toList same
  rw [toList_simpleClassName, toList_simpleClassName] at filled
  exact toString_injective (substitute_injective numberPlaceholder_ne_nil
    (occursIn_number (mentions_of_validate valid).2) filled)

/-- The number can be read off a name in any case, if the template fences it. -/
theorem Fences.number_eq (fences : config.Fences)
    (same : config.simpleClassName first count = config.simpleClassName second total) :
    count = total := by
  obtain ⟨before, fence, after, split, stops, ends, plain⟩ := fences
  have filled := congrArg String.toList same
  rw [toList_simpleClassName, toList_simpleClassName, split, fill_fence ends plain,
    fill_fence ends plain, ← List.cons_append, ← List.cons_append, ← List.append_assoc,
    ← List.append_assoc] at filled
  exact toString_injective (digits_eq (List.append_cancel_right filled) stops stops
    (digits_toString count) (digits_toString total))

/-- Of bases that a template tells apart, each can be read off a name. -/
theorem Distinguishes.base_eq (distinguishes : config.Distinguishes first second)
    (valid : config.validate = .ok ())
    (same : config.simpleClassName first count = config.simpleClassName second total) :
    first = second := by
  obtain ⟨⟨free, free_⟩, apart⟩ := distinguishes
  have filled := congrArg String.toList same
  rw [toList_simpleClassName, toList_simpleClassName] at filled
  have reads : forall keep : Char -> Bool,
      (toString count).toList.filter keep = (toString total).toList.filter keep ->
        first.toList.filter keep = second.toList.filter keep := fun keep numbers =>
    filter_base_eq free free_ (unbraced_toString count) (unbraced_toString total) numbers
      (mentions_of_validate valid).1 filled
  have numberless : forall number : Nat,
      (toString number).toList.filter (!·.isDigit) = [] := fun number => by
    simpa using digits_toString number
  rcases apart with fences | apart
  · obtain rfl := fences.number_eq same
    simpa [String.toList_inj] using reads (fun _ => true) rfl
  · exact absurd (reads _ ((numberless count).trans (numberless total).symm)) apart

end Configuration

end GuestTypes
