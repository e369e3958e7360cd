import Keyring.Text.Basic

/-!
# Lines

A line ends at a line feed, a carriage return, or the two together, and the last line of a text may
have no end. Nothing else ends a line. Whichever way a line ends, reading gives it a line feed.
-/

namespace Keyring.Text

/-- The text with every line ended by a line feed. -/
def normalizeLineEnds : Text → Text
  | [] => []
  | 13 :: 10 :: rest => 10 :: normalizeLineEnds rest
  | point :: rest => (if point = 13 then 10 else point) :: normalizeLineEnds rest

/-- The lines of a text whose lines end at line feeds, each with its own. -/
def splitLines : Text → List Text
  | [] => []
  | point :: rest =>
    if point = 10 then [point] :: splitLines rest
    else
      match splitLines rest with
      | [] => [[point]]
      | line :: lines => (point :: line) :: lines

/-- The lines of a text. -/
def lines (text : Text) : List Text :=
  splitLines (normalizeLineEnds text)

end Keyring.Text
