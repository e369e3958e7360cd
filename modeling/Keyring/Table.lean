import Keyring.Presented

/-!
# Tables

Rows of cells below headers, each column as wide as its widest cell and three code points apart from
the next. `mask` is what a table shows of a hash: the start, which tells version and cost, and
nothing of salt and digest.
-/

namespace Keyring.Table

open Text (lit)

/-- What stands between two columns. -/
def separator : Text :=
  lit " | "

/-- The widths after another row, which may be shorter than the widths but not longer. -/
def widen : List Nat → List Text → Except Failure (List Nat)
  | widths, [] => .ok widths
  | [], _ :: _ => .error .rowTooLong
  | width :: widths, cell :: cells => (widen widths cells).map (max width cell.length :: ·)

/-- The width of each column, whose header has the given width. -/
def columnWidths (headers : List Nat) (rows : List (List Text)) : Except Failure (List Nat) :=
  rows.foldlM widen headers

/-- One line of a table. -/
def line (widths : List Nat) (cells : List Text) : Text :=
  Text.join separator ((widths.zip cells).map fun (width, cell) => Text.padRight width 32 cell)

/-- The lines of a table: the headers, a rule, and the rows. -/
def lines (widths : List Nat) (headers : List Text) (rows : List (List Text)) : List Text :=
  let header := line widths headers
  header :: List.replicate header.length 45 :: rows.map (line widths)

/-- The rows as they show. -/
def shown (rows : List (List Cell)) : List (List Text) :=
  rows.map fun cells => cells.map Cell.toText

/-- The text of a table. -/
def format (headers : List Text) (rows : List (List Cell)) : Except Failure Text :=
  if rows.isEmpty then .ok (lit "No data to display.")
  else
    (columnWidths (headers.map List.length) (shown rows)).map fun widths =>
      Text.join [10] (lines widths headers (shown rows))

/-- A header that can be made wider. -/
def widenable : Cell → Except Failure Unit
  | .ofText _ => .ok ()
  | .ofBytes _ => .ok ()
  | value => .error (.misfit (.unable value.kind (lit "ljust")))

/-- The widths after another row, which may be of any kind. -/
def widenFor (widths : List Nat) (row : Cell) : Except Failure (List Nat) := do
  widen widths ((← row.each).map Cell.toText)

/-- The text of a table whose headers and rows may be of any kind. Everything that has elements has
a width, texts and octets can be made wider, and only texts are parts of a text. -/
def formatFor (headers rows : Cell) : Except Failure Text :=
  if rows.isBlank then format [] []
  else do
    let headers ← headers.each
    let widths ← headers.mapM fun header => header.elements.map List.length
    let rows ← rows.each
    let _ ← rows.foldlM widenFor widths
    headers.forM widenable
    format (← Cell.textsFrom 0 headers) (← rows.mapM Cell.each)

/-- How many code points of a hash show. -/
def visibleLength : Int := 7

/-- The code points of a hash, with a replacement character for each that is none of ASCII. -/
def hashText (hash : Bytes) : Text :=
  hash.map fun octet => if octet < 128 then CodePoint.ofNat octet.toNat else 0xFFFD

/-- The start of a text up to an index, which counts from the end if it is negative. -/
def upTo (index : Int) (text : Text) : Text :=
  if 0 ≤ index then text.take index.toNat else text.take (text.length - index.natAbs)

/-- What shows of a hash: its start before eight stars, or stars alone for one that is not longer
than what shows. -/
def mask (hash : Bytes) (visible : Int) : Text :=
  let text := hashText hash
  if (text.length : Int) ≤ visible then List.replicate text.length 42
  else upTo visible text ++ List.replicate 8 42

/-- What shows of a hash, where the hash and how much of it shows may be of any kind. -/
def maskFor (hash visible : Cell) : Except Failure Text := do
  return mask (← hash.shownHash) (← visible.extent)

end Keyring.Table
