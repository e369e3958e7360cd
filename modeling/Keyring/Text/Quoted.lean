import Keyring.Text.Printable

/-!
# Quoted text

How messages show a text that a reader must be able to tell apart from its surroundings: between
quotes, with a backslash before anything that would be mistaken for the end or would not show.

Double quotes are used only for a text that holds single quotes and no double ones.
-/

namespace Keyring.Text

/-- The lower-case digit of a value below sixteen. -/
def hexDigit (value : Nat) : CodePoint :=
  CodePoint.ofNat (if value < 10 then 48 + value else 87 + value)

/-- The last `width` hexadecimal digits of a number. -/
def hexDigits : Nat → Nat → Text
  | 0, _ => []
  | width + 1, value => hexDigits width (value / 16) ++ [hexDigit (value % 16)]

/-- The quote that a text is shown in. -/
def quoteFor (text : Text) : CodePoint :=
  if text.contains 39 && !text.contains 34 then 34 else 39

/-- One code point as it stands between `quote`s. -/
def escapePoint (quote point : CodePoint) : Text :=
  if point = quote || point = 92 then [92, point]
  else if point = 9 then lit "\\t"
  else if point = 10 then lit "\\n"
  else if point = 13 then lit "\\r"
  else if point.isPrintable then [point]
  else if point.val < 0x100 then lit "\\x" ++ hexDigits 2 point.val
  else if point.val < 0x10000 then lit "\\u" ++ hexDigits 4 point.val
  else lit "\\U" ++ hexDigits 8 point.val

/-- A text between quotes. -/
def quoted (text : Text) : Text :=
  let quote := quoteFor text
  [quote] ++ text.flatMap (escapePoint quote) ++ [quote]

end Keyring.Text
