import Keyring.Text.Utf8

/-!
# Names in directories

A system keeps a name as octets, whatever they stand for. As text a name is what its octets encode,
and each octet that belongs to no character is a code point of its own: the surrogate that lies
`0xDC00` above it. So every name has a text, and two texts may stand for one name: a character, and
the surrogates of the octets that encode it.

Text without surrogates has the octets of UTF-8 (`ofText_eq_octets`).
-/

namespace Keyring

/-- A name as a system keeps it. -/
abbrev Name := Bytes

namespace Name

/-- The name of a directory itself. -/
def dot : Name := [46]

/-- The name of the directory above. -/
def dots : Name := [46, 46]

/-- The most octets of a name. -/
def maxLength : Nat := 255

/-- A surrogate that stands for an octet. -/
def isEscape (point : CodePoint) : Bool :=
  0xDC80 ≤ point.val && point.val ≤ 0xDCFF

/-- The surrogate that stands for an octet. -/
def escape (octet : UInt8) : CodePoint :=
  CodePoint.ofNat (0xDC00 + octet.toNat)

/-- The octets that a code point stands for. -/
def octetsOf (point : CodePoint) : Bytes :=
  if isEscape point then [UInt8.ofNat (point.val - 0xDC00)] else Utf8.encodePoint point

/-- The name that a text writes. -/
def ofText (text : Text) : Name :=
  text.flatMap octetsOf

/-- The character at the start of some octets, and how many octets it has. -/
def leading? (octets : Bytes) : Option (CodePoint × Nat) :=
  [1, 2, 3, 4].findSome? fun width =>
    match Utf8.decode (octets.take width) with
    | .ok [point] => some (point, width)
    | _ => none

/-- The text of some octets without the first `passed` of them. -/
def textAfter : Nat → Bytes → Text
  | _, [] => []
  | passed + 1, _ :: rest => textAfter passed rest
  | 0, octet :: rest =>
    match leading? (octet :: rest) with
    | some (point, width) => point :: textAfter (width - 1) rest
    | none => escape octet :: textAfter 0 rest

/-- The text of a name. -/
def toText (name : Name) : Text :=
  textAfter 0 name

/-- A text without surrogates writes the name of its octets. -/
theorem ofText_eq_octets {text : Text} (encodable : Utf8.isEncodable text = true) :
    ofText text = Utf8.octets text := by
  induction text with
  | nil => rfl
  | cons point rest ih =>
    simp only [Utf8.isEncodable, List.all_cons, Bool.and_eq_true] at encodable
    have plain : isEscape point = false := by
      have := encodable.1
      simp only [CodePoint.isSurrogate, isEscape] at this ⊢
      grind
    simp only [ofText, Utf8.octets, List.flatMap_cons, octetsOf, plain] at ih ⊢
    rw [← ih encodable.2]
    rfl

end Name

end Keyring
