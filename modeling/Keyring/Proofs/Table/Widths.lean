import Mathlib.Data.List.Forall2
import Mathlib.Order.Bounds.Basic
import Keyring.Table

/-!
# Widths of columns

Rows that are no longer than the row of headers make columns wider, one row after another, and no
column is lost or added. So there is a width for every cell, and the table has a text
(`format_eq_ok`).

No column is wider than it has to be: each width is the least that holds the header and all cells
below it (`IsSnug.columnWidths`), since another row makes a column just as wide as its cell needs
(`IsSnug.widen`).
-/

namespace Keyring.Table

variable {widths wider : List Nat} {cells : List Text} {rows grid : List (List Text)}
  {index width : Nat}

/-- A row that is not longer than the widths leaves as many of them. -/
theorem widen_eq_ok (fits : cells.length ≤ widths.length) :
    ∃ wider, widen widths cells = .ok wider ∧ wider.length = widths.length := by
  fun_induction widen widths cells with
  | case1 widths => exact ⟨widths, rfl, rfl⟩
  | case2 cell cells => cases fits
  | case3 width widths cell cells ih =>
    obtain ⟨wider, widened, same⟩ := ih (Nat.le_of_succ_le_succ fits)
    exact ⟨max width cell.length :: wider, by rw [widened]; rfl, congrArg Nat.succ same⟩

theorem columnWidths_eq_ok (fits : ∀ row ∈ rows, row.length ≤ widths.length) :
    ∃ wider, columnWidths widths rows = .ok wider ∧ wider.length = widths.length := by
  unfold columnWidths
  induction rows generalizing widths with
  | nil => exact ⟨widths, rfl, rfl⟩
  | cons row rows ih =>
    obtain ⟨here, later⟩ := List.forall_mem_cons.mp fits
    obtain ⟨middle, widened, same⟩ := widen_eq_ok here
    obtain ⟨wider, rest, kept⟩ := ih (same ▸ later)
    exact ⟨wider, by rw [List.foldlM_cons, widened]; exact rest, kept.trans same⟩

/-- A width is enough for each cell of a column. -/
def IsEnough (grid : List (List Text)) (index width : Nat) : Prop :=
  ∀ cells ∈ grid, ∀ cell ∈ cells[index]?, cell.length ≤ width

/-- Each width is the least that is enough for its column. -/
def IsSnug (grid : List (List Text)) (widths : List Nat) : Prop :=
  ∀ index, ∀ width ∈ widths[index]?, IsLeast {enough | IsEnough grid index enough} width

theorem isEnough_concat :
    IsEnough (grid ++ [cells]) index width ↔
      IsEnough grid index width ∧ ∀ cell ∈ cells[index]?, cell.length ≤ width := by
  simp only [IsEnough, List.forall_mem_append, List.forall_mem_singleton]

/-- A row makes a column wider if it has a cell for it, and leaves it as it is otherwise. -/
theorem getElem?_of_widen (widened : widen widths cells = .ok wider) (index : Nat) :
    wider[index]? = widths[index]?.map fun width =>
      cells[index]?.elim width fun cell => max width cell.length := by
  fun_induction widen widths cells generalizing wider index with
  | case1 widths =>
    cases widened
    simp
  | case2 cell cells => cases widened
  | case3 width widths cell cells ih =>
    cases rest : widen widths cells with
    | error failure =>
      rw [rest] at widened
      cases widened
    | ok others =>
      rw [rest] at widened
      cases widened
      cases index with
      | zero => rfl
      | succ index => exact ih rest index

/-- Headers alone are as wide as their columns. -/
theorem isSnug_headers (headers : List Text) : IsSnug [headers] (headers.map List.length) := by
  intro index width found
  rw [Option.mem_def, List.getElem?_map, Option.map_eq_some_iff] at found
  obtain ⟨header, named, rfl⟩ := found
  constructor
  · intro cells member cell inside
    obtain rfl := List.mem_singleton.mp member
    exact (congrArg List.length (Option.some.inj (inside.symm.trans named))).le
  · intro other enough
    exact enough headers (List.mem_singleton.mpr rfl) header named

/-- Every cell fits into its column. -/
theorem IsSnug.fits (snug : IsSnug grid widths) (member : cells ∈ grid)
    (matching : cells.length = widths.length) :
    List.Forall₂ (fun width cell => cell.length ≤ width) widths cells := by
  rw [List.forall₂_iff_get]
  refine ⟨matching.symm, fun index inside shown => ?_⟩
  obtain ⟨enough, -⟩ := snug index widths[index] (List.getElem?_eq_getElem inside)
  exact enough cells member cells[index] (List.getElem?_eq_getElem shown)

/-- Another row makes no column wider than needed. -/
theorem IsSnug.widen (snug : IsSnug grid widths) (widened : Table.widen widths cells = .ok wider) :
    IsSnug (grid ++ [cells]) wider := by
  intro index width found
  rw [getElem?_of_widen widened] at found
  obtain ⟨before, standing, rfl⟩ := Option.map_eq_some_iff.mp found
  obtain ⟨enough, least⟩ := snug index before standing
  cases shown : cells[index]? with
  | none =>
    constructor
    · exact isEnough_concat.mpr ⟨enough, by simp [shown]⟩
    · intro other more
      exact least (isEnough_concat.mp more).1
  | some cell =>
    constructor
    · apply isEnough_concat.mpr
      constructor
      · intro row member other inside
        exact (enough row member other inside).trans (le_max_left _ _)
      · intro other inside
        obtain rfl := Option.some.inj (shown.symm.trans inside)
        exact le_max_right _ _
    · intro other more
      obtain ⟨earlier, here⟩ := isEnough_concat.mp more
      exact max_le (least earlier) (here cell shown)

theorem IsSnug.columnWidths (snug : IsSnug grid widths)
    (fitted : Table.columnWidths widths rows = .ok wider) : IsSnug (grid ++ rows) wider := by
  unfold Table.columnWidths at fitted
  induction rows generalizing grid widths with
  | nil =>
    cases fitted
    rwa [List.append_nil]
  | cons row rows ih =>
    rw [List.foldlM_cons] at fitted
    cases widened : Table.widen widths row with
    | error failure =>
      rw [widened] at fitted
      cases fitted
    | ok middle =>
      rw [widened] at fitted
      rw [List.append_cons]
      exact ih (snug.widen widened) fitted

end Keyring.Table
