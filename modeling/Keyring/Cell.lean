import Keyring.Text.Numeral
import Keyring.Text.Quoted

/-!
# Cells

A value that comes from outside, or that tables and logs show: text as it is, and everything else by
its name, its digits or its parts. Octets show between quotes, with escapes for those that are no
printable ASCII, and so does text that is part of another value.

A truth counts as a number: `identity` is what values have in common that are the same name.
-/

namespace Keyring

open Text (lit)

/-- A value of any kind. -/
inductive Cell where
  | ofText (text : Text)
  | ofInt (value : Int)
  | ofBool (value : Bool)
  | ofBytes (bytes : Bytes)
  /-- There is no value. -/
  | absent
  | list (items : List Cell)
  /-- Values under names. -/
  | dictionary (entries : List (Text × Cell))
  deriving Repr

instance : Coe Text Cell := ⟨.ofText⟩

instance : Inhabited Cell := ⟨.absent⟩

/-- The kinds of values. -/
inductive Cell.Kind where
  | text
  | integer
  | truth
  | octets
  | nothing
  | list
  | dictionary
  deriving DecidableEq, Repr

/-- The name of a kind. -/
def Cell.Kind.word : Cell.Kind → Text
  | .text => lit "str"
  | .integer => lit "int"
  | .truth => lit "bool"
  | .octets => lit "bytes"
  | .nothing => lit "NoneType"
  | .list => lit "list"
  | .dictionary => lit "dict"

namespace Cell

/-- The text, if there is one. -/
def ofText? : Option Text → Cell
  | some text => .ofText text
  | none => .absent

/-- The kind of a value. -/
def kind : Cell → Kind
  | .ofText _ => .text
  | .ofInt _ => .integer
  | .ofBool _ => .truth
  | .ofBytes _ => .octets
  | .absent => .nothing
  | .list _ => .list
  | .dictionary _ => .dictionary

/-! ## Equality -/

mutual

/-- Two values are equal or not. Values of one kind are compared part by part. -/
def decEq (first second : Cell) : Decidable (first = second) :=
  if same : first.kind = second.kind then
    match first, second, same with
    | .ofText text, .ofText other, _ => decidable_of_iff (text = other) (by simp)
    | .ofInt value, .ofInt other, _ => decidable_of_iff (value = other) (by simp)
    | .ofBool value, .ofBool other, _ => decidable_of_iff (value = other) (by simp)
    | .ofBytes bytes, .ofBytes other, _ => decidable_of_iff (bytes = other) (by simp)
    | .absent, .absent, _ => isTrue rfl
    | .list items, .list others, _ =>
      have := decEqItems items others
      decidable_of_iff (items = others) (by simp)
    | .dictionary entries, .dictionary others, _ =>
      have := decEqEntries entries others
      decidable_of_iff (entries = others) (by simp)
  else isFalse fun equal => same (congrArg kind equal)

/-- The items of two lists are equal or not. -/
def decEqItems (items others : List Cell) : Decidable (items = others) :=
  match items, others with
  | [], [] => isTrue rfl
  | [], _ :: _ => isFalse (by simp)
  | _ :: _, [] => isFalse (by simp)
  | item :: items, other :: others =>
    have := decEq item other
    have := decEqItems items others
    decidable_of_iff (item = other ∧ items = others) (by simp)

/-- The entries of two dictionaries are equal or not. -/
def decEqEntries (entries others : List (Text × Cell)) : Decidable (entries = others) :=
  match entries, others with
  | [], [] => isTrue rfl
  | [], _ :: _ => isFalse (by simp)
  | _ :: _, [] => isFalse (by simp)
  | (name, value) :: entries, (otherName, other) :: others =>
    have := decEq value other
    have := decEqEntries entries others
    decidable_of_iff (name = otherName ∧ value = other ∧ entries = others) (by simp [and_assoc])

end

instance : DecidableEq Cell := decEq

/-! ## Views -/

/-- The text that a value is. -/
def text? : Cell → Option Text
  | .ofText text => some text
  | _ => none

/-- The number that a value is. The truth counts as one, its opposite as zero. -/
def number? : Cell → Option Int
  | .ofInt value => some value
  | .ofBool value => some (if value then 1 else 0)
  | _ => none

/-- A value says nothing: it is empty, zero, false or not there at all. -/
def isBlank : Cell → Bool
  | .ofText text => text.isEmpty
  | .ofInt value => value = 0
  | .ofBool value => !value
  | .ofBytes bytes => bytes.isEmpty
  | .absent => true
  | .list items => items.isEmpty
  | .dictionary entries => entries.isEmpty

/-- What a value is as a name. A truth is the name that its number is. -/
def identity (value : Cell) : Cell :=
  match value.number? with
  | some number => .ofInt number
  | none => value

/-- Every text is a name of its own. -/
@[simp]
theorem identity_ofText (text : Text) : (ofText text).identity = .ofText text := rfl

/-- A value as a name. -/
structure Label where
  value : Cell
  deriving Repr

/-- Two labels are the same name if the identities of their values are. -/
instance : BEq Label := ⟨fun first second => first.value.identity = second.value.identity⟩

/-! ## How values show -/

/-- One octet as it stands between `quote`s. -/
def escapeOctet (quote : CodePoint) (octet : UInt8) : Text :=
  let point : CodePoint := CodePoint.ofNat octet.toNat
  if 127 < octet.toNat then lit "\\x" ++ Text.hexDigits 2 octet.toNat
  else Text.escapePoint quote point

/-- Octets between quotes. -/
def quotedOctets (bytes : Bytes) : Text :=
  let quote := Text.quoteFor (bytes.map fun octet => CodePoint.ofNat octet.toNat)
  lit "b" ++ [quote] ++ bytes.flatMap (escapeOctet quote) ++ [quote]

mutual

/-- How a value shows where text stands between quotes. -/
def toQuoted : Cell → Text
  | .ofText text => Text.quoted text
  | .ofInt value => Text.ofInt value
  | .ofBool true => lit "True"
  | .ofBool false => lit "False"
  | .ofBytes bytes => quotedOctets bytes
  | .absent => lit "None"
  | .list items => lit "[" ++ Text.join (lit ", ") (quotedItems items) ++ lit "]"
  | .dictionary entries =>
    lit "\x7b" ++ Text.join (lit ", ") (quotedEntries entries) ++ lit "\x7d"

/-- How the items of a list show. -/
def quotedItems : List Cell → List Text
  | [] => []
  | item :: items => toQuoted item :: quotedItems items

/-- How the entries of a dictionary show. -/
def quotedEntries : List (Text × Cell) → List Text
  | [] => []
  | (name, value) :: entries =>
    (Text.quoted name ++ lit ": " ++ toQuoted value) :: quotedEntries entries

end

/-- How a value shows. -/
def toText : Cell → Text
  | .ofText text => text
  | value => value.toQuoted

end Cell

end Keyring
