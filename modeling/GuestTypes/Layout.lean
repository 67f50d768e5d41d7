/-!
# Field layouts

Where the fields of an instance of a synthesized class lie: the type at offset 0, the
instance dictionary next when there is one, then the slots in the order of their names.
A slot's index counts from the first slot, its offset from the start of the object.
-/

namespace GuestTypes

/-- Search a list in increasing order by halving. `fuel` bounds the halvings and `skipped`
counts the names already passed over on the left. -/
def bisect (name : String) : Nat -> Nat -> List String -> Option Nat
  | 0, _, _ => none
  | fuel + 1, skipped, names =>
      let middle := names.length / 2
      match names.drop middle with
      | [] => none
      | candidate :: above =>
          if name = candidate then some (skipped + middle)
          else if name < candidate then bisect name fuel skipped (names.take middle)
          else bisect name fuel (skipped + middle + 1) above

/-- The field offset table of a synthesized class. -/
structure Layout where
  hasDict : Bool
  /-- Slot names in index order. -/
  slots : List String
  deriving DecidableEq, Inhabited, Repr

namespace Layout

/-- The layout with the given slots, put in order. -/
def ofFields (hasDict : Bool) (slots : List String) : Layout :=
  { hasDict, slots := slots.mergeSort (fun left right => decide (left ≤ right)) }

/-- The offset of the type. -/
def typeOffset : Nat := 0

/-- The offset of the instance dictionary, when there is one. -/
def dictOffset (layout : Layout) : Option Nat :=
  if layout.hasDict then some 1 else none

/-- The offset of slot 0. -/
def firstSlotOffset (layout : Layout) : Nat :=
  typeOffset + 1 + if layout.hasDict then 1 else 0

/-- The index of a named slot. -/
def slotIndex (layout : Layout) (name : String) : Option Nat :=
  bisect name (layout.slots.length + 1) 0 layout.slots

/-- The offset of a named slot. -/
def slotOffset (layout : Layout) (name : String) : Option Nat :=
  (layout.slotIndex name).map (layout.firstSlotOffset + ·)

/-- The number of fields. -/
def fieldCount (layout : Layout) : Nat :=
  layout.firstSlotOffset + layout.slots.length

end Layout

end GuestTypes
