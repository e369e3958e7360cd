import Keyring.Proofs.Table.Widths
import Keyring.Proofs.Text.Octets

/-!
# Columns

The lines of a table have their columns in common. A column has an offset and a width: what a line
shows in it starts at the offset, unaltered, and is filled up with spaces. Between two columns there
is a bar between spaces and nothing else, and a line ends with its last column (`shows_line`).

The text of a table is cut at its line feeds into the headers, a rule and the rows, all of one length,
if there are no line feeds in the headers and in what shows of the cells (`format_aligns`). The cells
may well look like what stands between them, since a column is told by its offset.
-/

namespace Keyring.Table

open Text (lit)

/-- A part of a line that has so many code points before it. -/
def StandsAt (line : Text) (offset : Nat) (part : Text) : Prop :=
  ∃ before after, line = before ++ part ++ after ∧ before.length = offset

/-- A place that all lines of a table have in common. -/
structure Column where
  offset : Nat
  width : Nat
  deriving DecidableEq, Repr

namespace Column

/-- The offset of what comes after a column. -/
def stop (column : Column) : Nat :=
  column.offset + column.width

/-- A line has a cell in a column, unaltered, with spaces alone up to the width of the column. -/
def Holds (line : Text) (column : Column) (cell : Text) : Prop :=
  ∃ spaces, cell.length + spaces = column.width ∧
    StandsAt line column.offset (cell ++ List.replicate spaces 32)

/-- A line has a bar between spaces, and that alone, between two columns. -/
def Divides (line : Text) (column next : Column) : Prop :=
  StandsAt line column.stop (lit " | ") ∧ next.offset = column.stop + 3

end Column

/-- A line shows cells in columns, of which the last ends the line. -/
structure Shows (columns : List Column) (line : Text) (cells : List Text) : Prop where
  holds : List.Forall₂ (Column.Holds line) columns cells
  divided : columns.IsChain (Column.Divides line)
  ends : ∀ column ∈ columns.getLast?, line.length = column.stop

/-- Lines are a table of headers and rows: the headers, a rule, and the rows, one line for each. The
columns are the same for all of them, and no wider than they have to be. -/
structure Aligns (columns : List Column) (headers : List Text) (rows : List (List Text))
    (lines : List Text) : Prop where
  starts : ∀ column ∈ columns.head?, column.offset = 0
  snug : IsSnug (headers :: rows) (columns.map Column.width)
  shows : ∃ header below, lines = header :: List.replicate header.length 45 :: below ∧
    Shows columns header headers ∧ List.Forall₂ (Shows columns) below rows
  even : ∀ line ∈ lines, ∀ other ∈ lines, line.length = other.length

/-! ## One line -/

/-- Columns of the given widths, with a separator between any two. -/
def columnsFrom (offset : Nat) : List Nat → List Column
  | [] => []
  | width :: widths => ⟨offset, width⟩ :: columnsFrom (offset + width + separator.length) widths

theorem map_width_columnsFrom (offset : Nat) (widths : List Nat) :
    (columnsFrom offset widths).map Column.width = widths := by
  induction widths generalizing offset with
  | nil => rfl
  | cons width widths ih => rw [columnsFrom, List.map_cons, ih]

theorem head?_columnsFrom {offset : Nat} {widths : List Nat} :
    ∀ column ∈ (columnsFrom offset widths).head?, column.offset = offset := by
  cases widths with
  | nil => simp [columnsFrom]
  | cons width widths => simp [columnsFrom]

variable {width : Nat} {widths : List Nat} {cell : Text} {cells : List Text}

/-- A cell that is not wider than its column is filled up to the width. -/
theorem length_padRight (fits : cell.length ≤ width) :
    (Text.padRight width 32 cell).length = width := by
  rw [Text.padRight, List.length_append, List.length_replicate]
  omega

theorem Column.holds_padRight (fits : cell.length ≤ width) (before after : Text) :
    Holds (before ++ Text.padRight width 32 cell ++ after) ⟨before.length, width⟩ cell :=
  ⟨width - cell.length, Nat.add_sub_cancel' fits, before, after, rfl, rfl⟩

theorem line_singleton (width : Nat) (cell : Text) :
    line [width] [cell] = Text.padRight width 32 cell := by
  simp only [line, Text.join, List.zip_cons_cons, List.zip_nil_left, List.map_cons, List.map_nil,
    List.intercalate_singleton]

/-- The first of several cells is filled up, and a separator comes before the others. -/
theorem line_cons_cons (width next : Nat) (widths : List Nat) (cell second : Text)
    (cells : List Text) :
    line (width :: next :: widths) (cell :: second :: cells) =
      Text.padRight width 32 cell ++ separator ++ line (next :: widths) (second :: cells) := by
  simp only [line, Text.join, List.zip_cons_cons, List.map_cons, List.intercalate_cons_cons]

/-- Before other cells of a line comes one more, if the separator stands between. -/
theorem Shows.cons {first next : Column} {columns : List Column} {line : Text}
    (holds : first.Holds line cell) (divides : first.Divides line next)
    (others : Shows (next :: columns) line cells) :
    Shows (first :: next :: columns) line (cell :: cells) where
  holds := .cons holds others.holds
  divided := .cons_cons divides others.divided
  ends := by
    rw [List.getLast?_cons_cons]
    exact others.ends

/-- A line shows its cells in columns of the given widths, whatever stands before it. -/
theorem shows_line (fits : List.Forall₂ (fun width cell => cell.length ≤ width) widths cells)
    (before : Text) :
    Shows (columnsFrom before.length widths) (before ++ line widths cells) cells := by
  induction fits generalizing before with
  | nil => exact ⟨.nil, .nil, by simp [columnsFrom]⟩
  | @cons width cell widths cells fit fits ih =>
    have filled := length_padRight fit
    cases fits with
    | nil =>
      rw [line_singleton]
      constructor
      · have holds := Column.holds_padRight fit before []
        rw [List.append_nil] at holds
        exact .cons holds .nil
      · exact .singleton _
      · simp [columnsFrom, Column.stop, filled]
    | @cons next second widths cells =>
      rw [line_cons_cons]
      generalize line (next :: widths) (second :: cells) = rest at ih ⊢
      -- The induction is over what stands before a line: the first cell stands before the others.
      have others := ih (before ++ Text.padRight width 32 cell ++ separator)
      rw [List.length_append, List.length_append, filled] at others
      simp only [List.append_assoc] at others ⊢
      refine others.cons ?_ ⟨?_, rfl⟩
      · have holds := Column.holds_padRight fit before (separator ++ rest)
        rwa [List.append_assoc] at holds
      · refine ⟨before ++ Text.padRight width 32 cell, rest, ?_, ?_⟩
        · simp [separator]
        · simp [Column.stop, filled]

/-- A line ends where the last column does, whatever its cells are. -/
theorem length_line (fits : List.Forall₂ (fun width cell => cell.length ≤ width) widths cells) :
    (line widths cells).length = (columnsFrom 0 widths).getLast?.elim 0 Column.stop := by
  have shows := shows_line fits []
  rw [List.length_nil, List.nil_append] at shows
  cases widths with
  | nil => rfl
  | cons width widths =>
    obtain ⟨column, last⟩ : ∃ column, (columnsFrom 0 (width :: widths)).getLast? = some column :=
      ⟨_, List.getLast?_eq_some_getLast (List.cons_ne_nil _ _)⟩
    rw [shows.ends column last, last]
    rfl

/-- A line without line feeds in its cells has none. -/
theorem feed_not_mem_line (unbroken : ∀ cell ∈ cells, 10 ∉ cell) : 10 ∉ line widths cells := by
  intro feed
  obtain between | ⟨part, listed, inside⟩ := mem_or_of_mem_intercalate feed
  · revert between
    decide
  · obtain ⟨⟨width, cell⟩, member, rfl⟩ := List.mem_map.mp listed
    rcases List.mem_append.mp inside with inside | space
    · exact unbroken cell (List.of_mem_zip member).2 inside
    · exact absurd (List.eq_of_mem_replicate space) (by decide)

/-! ## All lines -/

variable {headers : List Text} {rows : List (List Text)}

theorem aligns_lines (snug : IsSnug (headers :: rows) widths)
    (matching : ∀ cells ∈ headers :: rows, cells.length = widths.length) :
    Aligns (columnsFrom 0 widths) headers rows (lines widths headers rows) := by
  have fits : ∀ cells ∈ headers :: rows,
      List.Forall₂ (fun width cell => cell.length ≤ width) widths cells :=
    fun cells member => snug.fits member (matching cells member)
  obtain ⟨named, filled⟩ := List.forall_mem_cons.mp fits
  have extent : ∀ text ∈ lines widths headers rows,
      text.length = (columnsFrom 0 widths).getLast?.elim 0 Column.stop := by
    rw [lines, List.forall_mem_cons, List.forall_mem_cons, List.forall_mem_map,
      List.length_replicate]
    refine ⟨length_line named, length_line named, ?_⟩
    intro cells member
    exact length_line (filled cells member)
  constructor
  · exact head?_columnsFrom
  · rwa [map_width_columnsFrom]
  · refine ⟨_, _, rfl, shows_line named [], ?_⟩
    rw [List.forall₂_map_left_iff]
    exact List.forall₂_same.mpr fun cells member => shows_line (filled cells member) []
  · intro text member other listed
    exact (extent text member).trans (extent other listed).symm

/-- The lines of a table are cut out of its text again. -/
theorem splitAll_join_lines (named : ∀ header ∈ headers, 10 ∉ header)
    (unbroken : ∀ cells ∈ rows, ∀ cell ∈ cells, 10 ∉ cell) :
    splitAll 10 (Text.join [10] (lines widths headers rows)) = lines widths headers rows := by
  apply splitAll_intercalate
  · exact List.cons_ne_nil _ _
  · rw [lines, List.forall_mem_cons, List.forall_mem_cons, List.forall_mem_map]
    refine ⟨feed_not_mem_line named, ?_, ?_⟩
    · intro feed
      exact absurd (List.eq_of_mem_replicate feed) (by decide)
    · intro cells member
      exact feed_not_mem_line (unbroken cells member)

/-- The text of a table with rows is that of its lines. -/
theorem format_eq_lines {rows : List (List Cell)} (filled : rows ≠ [])
    (fitted : columnWidths (headers.map List.length) (shown rows) = .ok widths) :
    format headers rows = .ok (Text.join [10] (lines widths headers (shown rows))) := by
  rw [format, if_neg (by simpa using filled), fitted]
  rfl

/-! ## Headers and rows of any kind -/

theorem textsFrom_map_ofText (index : Nat) (texts : List Text) :
    Cell.textsFrom index (texts.map .ofText) = .ok texts := by
  induction texts generalizing index with
  | nil => rfl
  | cons text texts ih =>
    rw [List.map_cons, Cell.textsFrom, ih]
    rfl

theorem forM_widenable (texts : List Text) : (texts.map Cell.ofText).forM widenable = .ok () := by
  induction texts with
  | nil => rfl
  | cons text texts ih => exact ih

theorem mapM_length_elements (texts : List Text) :
    (texts.map Cell.ofText).mapM (fun header => header.elements.map List.length) =
      .ok (texts.map List.length) := by
  induction texts with
  | nil => rfl
  | cons text texts ih =>
    rw [List.map_cons, List.mapM_cons, ih]
    simp [Cell.elements, Cell.elements?, Except.map, bind, Except.bind, pure, Except.pure]

theorem mapM_each (rows : List (List Cell)) : (rows.map Cell.list).mapM Cell.each = .ok rows := by
  induction rows with
  | nil => rfl
  | cons row rows ih =>
    rw [List.map_cons, List.mapM_cons, ih]
    rfl

/-- Lists of texts and of rows make the same table, or fail alike, where they might have been of any
kind. -/
theorem formatFor_list (headers : List Text) (rows : List (List Cell)) :
    formatFor (.list (headers.map .ofText)) (.list (rows.map .list)) = format headers rows := by
  cases rows with
  | nil => rfl
  | cons row rows =>
    have folded : ((row :: rows).map Cell.list).foldlM widenFor (headers.map List.length) =
        columnWidths (headers.map List.length) (shown (row :: rows)) := by
      rw [columnWidths, shown, List.foldlM_map, List.foldlM_map]
      rfl
    have each (items : List Cell) : (Cell.list items).each = .ok items := rfl
    rw [formatFor, if_neg (by simp [Cell.isBlank])]
    simp only [each, mapM_length_elements, folded, Except.bind, bind, forM_widenable,
      textsFrom_map_ofText, mapM_each]
    cases fitted : columnWidths (headers.map List.length) (shown (row :: rows)) with
    | error failure => simp [format, fitted, Except.map]
    | ok widths => rfl

/-! ## Tables -/

/-- A table of rows with as many cells as there are headers, and no line feed in any of them, is
aligned, and nothing is lost of the cells. -/
theorem format_aligns {headers : List Text} {rows : List (List Cell)} (filled : rows ≠ [])
    (matching : ∀ row ∈ rows, row.length = headers.length)
    (named : ∀ header ∈ headers, 10 ∉ header)
    (unbroken : ∀ row ∈ rows, ∀ cell ∈ row, 10 ∉ cell.toText) :
    ∃ table columns, format headers rows = .ok table ∧
      formatFor (.list (headers.map .ofText)) (.list (rows.map .list)) = .ok table ∧
      Aligns columns headers (shown rows) (splitAll 10 table) := by
  have shown_matching : ∀ cells ∈ shown rows, cells.length = headers.length := by
    rw [shown, List.forall_mem_map]
    intro row member
    rw [List.length_map, matching row member]
  have shown_unbroken : ∀ cells ∈ shown rows, ∀ cell ∈ cells, 10 ∉ cell := by
    rw [shown, List.forall_mem_map]
    intro row member
    rw [List.forall_mem_map]
    exact unbroken row member
  obtain ⟨widths, fitted, same⟩ : ∃ widths,
      columnWidths (headers.map List.length) (shown rows) = .ok widths ∧
        widths.length = (headers.map List.length).length := by
    apply columnWidths_eq_ok
    intro cells member
    rw [List.length_map, shown_matching cells member]
  rw [List.length_map] at same
  have formatted := format_eq_lines filled fitted
  refine ⟨_, columnsFrom 0 widths, formatted, (formatFor_list headers rows).trans formatted, ?_⟩
  rw [splitAll_join_lines named shown_unbroken]
  apply aligns_lines ((isSnug_headers headers).columnWidths fitted)
  rw [List.forall_mem_cons, same]
  exact ⟨rfl, shown_matching⟩

/-- A header and some cells are empty, a cell is the separator, and others are no text. -/
theorem format_aligns_divided :
    let headers := [lit "ID", [], lit "Hash"]
    let rows : List (List Cell) :=
      [[.ofText (lit " | "), .ofInt (-12), .ofText []], [.ofText [], .absent, .ofBool true]]
    let lines := [lit "ID  |      | Hash", lit "-----------------", lit " |  | -12  |     ",
      lit "    | None | True"]
    rows ≠ [] ∧ (∀ row ∈ rows, row.length = headers.length) ∧ (∀ header ∈ headers, 10 ∉ header) ∧
      (∀ row ∈ rows, ∀ cell ∈ row, 10 ∉ cell.toText) ∧
      format headers rows = .ok (Text.join [10] lines) ∧
      ∃ columns, Aligns columns headers (shown rows) lines := by
  intro headers rows lines
  have filled : rows ≠ [] := by decide
  have matching : ∀ row ∈ rows, row.length = headers.length := by decide
  have named : ∀ header ∈ headers, 10 ∉ header := by decide
  have unbroken : ∀ row ∈ rows, ∀ cell ∈ row, 10 ∉ cell.toText := by decide +kernel
  have text : format headers rows = .ok (Text.join [10] lines) := by decide +kernel
  obtain ⟨table, columns, formatted, -, aligns⟩ := format_aligns filled matching named unbroken
  obtain rfl := Except.ok.inj (formatted.symm.trans text)
  have cut : splitAll 10 (Text.join [10] lines) = lines := by decide +kernel
  rw [cut] at aligns
  exact ⟨filled, matching, named, unbroken, text, columns, aligns⟩

end Keyring.Table
