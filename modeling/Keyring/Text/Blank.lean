import Keyring.Text.Basic

/-!
# Blank code points

White space in the sense of Unicode, with the four information separators of ASCII. `strip` removes
blanks from both ends of a text and leaves those inside.
-/

namespace Keyring

/-- The runs of adjacent blank code points. -/
def blankRanges : List (Nat × Nat) :=
  [(0x09, 0x0D), (0x1C, 0x20), (0x85, 0x85), (0xA0, 0xA0), (0x1680, 0x1680), (0x2000, 0x200A),
    (0x2028, 0x2029), (0x202F, 0x202F), (0x205F, 0x205F), (0x3000, 0x3000)]

/-- White space and separators. -/
def CodePoint.isBlank (point : CodePoint) : Bool :=
  blankRanges.any fun (first, last) => first ≤ point.val && point.val ≤ last

namespace Text

/-- The text without the blanks at its start. -/
def stripStart (text : Text) : Text :=
  text.dropWhile CodePoint.isBlank

/-- The text without the blanks at its end. -/
def stripEnd (text : Text) : Text :=
  (text.reverse.dropWhile CodePoint.isBlank).reverse

/-- The text without the blanks at either end. -/
def strip (text : Text) : Text :=
  stripEnd (stripStart text)

end Text

end Keyring
