/-!
# Membership in sorted ranges

A set of numbers given as closed ranges in increasing order is searched by halving.
-/

namespace GuestTypes.Text

/-- Search the ranges at positions `low ..< high`; `fuel` bounds the halvings. -/
def inRangesBetween (ranges : Array (Nat × Nat)) (value : Nat) : Nat -> Nat -> Nat -> Bool
  | 0, _, _ => false
  | fuel + 1, low, high =>
      if low < high then
        let middle := (low + high) / 2
        match ranges[middle]? with
        | none => false
        | some (first, last) =>
            if value < first then inRangesBetween ranges value fuel low middle
            else if last < value then inRangesBetween ranges value fuel (middle + 1) high
            else true
      else
        false

/-- Whether a number lies in one of the ranges. -/
def inRanges (ranges : Array (Nat × Nat)) (value : Nat) : Bool :=
  inRangesBetween ranges value (ranges.size + 1) 0 ranges.size

end GuestTypes.Text
