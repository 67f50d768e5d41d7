import GuestTypes.Text.Ranges

/-!
# White space

The characters that separate words, by the Unicode property of that name.
-/

namespace GuestTypes.Text

/-- The code points with the White_Space property. -/
def whiteSpaceRanges : Array (Nat × Nat) := #[
  (0x9, 0xd), (0x20, 0x20), (0x85, 0x85), (0xa0, 0xa0), (0x1680, 0x1680), (0x2000, 0x200a),
  (0x2028, 0x2029), (0x202f, 0x202f), (0x205f, 0x205f), (0x3000, 0x3000)]

/-- Whether a character is white space. -/
def isWhiteSpace (c : Char) : Bool :=
  inRanges whiteSpaceRanges c.toNat

end GuestTypes.Text
