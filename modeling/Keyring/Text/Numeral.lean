import Keyring.Text.Blank
import Keyring.Text.DecimalDigit

/-!
# Decimal numerals

`ofNat` and `ofInt` write numbers. `parseInt?` reads an integer as people type it: blanks around it,
one sign, digits of any script, and single underscores between digits. A numeral of more than
`maxDigits` digits is refused, so that reading takes a bounded time.
-/

namespace Keyring.Text

/-- The decimal digits of a number. -/
def ofNat (value : Nat) : Text :=
  if value < 10 then [CodePoint.ofNat (48 + value)]
  else ofNat (value / 10) ++ [CodePoint.ofNat (48 + value % 10)]

/-- The decimal digits of an integer, after a sign if it is negative. -/
def ofInt (value : Int) : Text :=
  if value < 0 then 45 :: ofNat value.natAbs else ofNat value.natAbs

/-- The decimal digits of a number, with a zero in front of a single one. -/
def ofNatTwoDigits (value : Nat) : Text :=
  if value < 10 then 48 :: ofNat value else ofNat value

/-- The most digits that a numeral may have. -/
def maxDigits : Nat := 4300

/-- The values of digits that may have single underscores between them. -/
def digitValues? : Text → Option (List Nat)
  | [] => none
  | [point] => point.digitValue?.map ([·])
  | point :: next :: rest =>
    match point.digitValue? with
    | none => none
    | some value =>
      if next = 95 then (digitValues? rest).map (value :: ·)
      else (digitValues? (next :: rest)).map (value :: ·)

/-- Blanks that may stand around a numeral: white space without the information separators. -/
def isNumeralBlank (point : CodePoint) : Bool :=
  point.isBlank && !(0x1C ≤ point.val && point.val ≤ 0x1F)

/-- The integer that a text denotes. -/
def parseInt? (text : Text) : Option Int :=
  let bare := ((text.dropWhile isNumeralBlank).reverse.dropWhile isNumeralBlank).reverse
  let (negative, digits) :=
    match bare with
    | 45 :: rest => (true, rest)
    | 43 :: rest => (false, rest)
    | rest => (false, rest)
  match digitValues? digits with
  | none => none
  | some values =>
    if values.length > maxDigits then none
    else
      let magnitude : Nat := values.foldl (fun total value => total * 10 + value) 0
      some (if negative then -(magnitude : Int) else magnitude)

end Keyring.Text
