import CardQuery.Text.Wrap

/-!
# Tables

A table of two columns with a head, drawn with box characters.  Each column is as wide as its
widest cell, and one space stands on either side of a cell.

Main results:

- `width_rule` says that a rule is as wide as the columns and the space around them.
- `length_rowLines` says that a row has as many lines as the one of its cells that has more.
-/

namespace CardQuery

/-- A table of two columns. -/
structure Table where
  /-- The names of the columns. -/
  head : Text × Text
  /-- The rows below the head. -/
  rows : List (Text × Text)
deriving DecidableEq, Repr

namespace Table

/-! ## Widths -/

/-- Whether a character ends a line when the width of a cell is measured. -/
def isLineBreak (c : Char) : Bool :=
  let n := c.toNat
  (0x0A ≤ n && n ≤ 0x0D) || (0x1C ≤ n && n ≤ 0x1E) || n == 0x85 || n == 0x2028 || n == 0x2029

/-- The width of the widest line of a cell. -/
def cellWidth (cell : Text) : Nat :=
  ((Text.partsBetween isLineBreak cell).map Text.width).foldl max 0

/-- The width of the widest cell among some. -/
def columnWidth (cells : List Text) : Nat := (cells.map cellWidth).foldl max 0

/-- The width of the cells in the left column. -/
def leftWidth (table : Table) : Nat := columnWidth (table.head.1 :: table.rows.map Prod.fst)

/-- The width of the cells in the right column. -/
def rightWidth (table : Table) : Nat := columnWidth (table.head.2 :: table.rows.map Prod.snd)

/-! ## Drawing -/

/-- A rule across the two columns, with the characters for its ends, its crossing and its line. -/
def rule (left line crossing right : Char) (leftWidth rightWidth : Nat) : Text :=
  left :: List.replicate (leftWidth + 2) line ++
    crossing :: List.replicate (rightWidth + 2) line ++ [right]

/-- One line of a row between upright bars. -/
def between (bar : Char) (left right : Text) : Text :=
  bar :: ' ' :: left ++ ' ' :: bar :: ' ' :: right ++ [' ', bar]

/-- The lines of a row; the shorter one of its two cells is filled up with empty lines. -/
def rowLines (bar : Char) (leftWidth rightWidth : Nat) (row : Text × Text) : List Text :=
  let left := Text.wrap leftWidth row.1
  let right := Text.wrap rightWidth row.2
  (List.range (max left.length right.length)).map fun i =>
    between bar (left[i]?.getD (List.replicate leftWidth ' '))
      (right[i]?.getD (List.replicate rightWidth ' '))

/-- The lines of a drawn table. -/
def lines (table : Table) : List Text :=
  let l := table.leftWidth
  let r := table.rightWidth
  rule '┏' '━' '┳' '┓' l r :: rowLines '┃' l r table.head ++ rule '┡' '━' '╇' '┩' l r ::
    table.rows.flatMap (rowLines '│' l r) ++ [rule '└' '─' '┴' '┘' l r]

/-- A drawn table. -/
def draw (table : Table) : Text := table.lines.flatMap (· ++ ['\n'])

/-! ## The size of a drawn table -/

/-- A rule of characters of width one is as wide as the columns and the space around them. -/
theorem width_rule {left line crossing right : Char} (hleft : Text.charWidth left = 1)
    (hline : Text.charWidth line = 1) (hcrossing : Text.charWidth crossing = 1)
    (hright : Text.charWidth right = 1) (l r : Nat) :
    Text.width (rule left line crossing right l r) = l + r + 7 := by
  have hjoiner : Text.charWidth Text.joiner = 0 := by decide +kernel
  have hselector : Text.charWidth Text.selector = 0 := by decide +kernel
  have hone : ∀ c ∈ rule left line crossing right l r, Text.charWidth c = 1 := by
    intro c hc
    simp only [rule, List.cons_append, List.mem_cons, List.mem_append, List.mem_replicate,
      List.not_mem_nil, or_false] at hc
    rcases hc with rfl | (⟨_, rfl⟩ | rfl | ⟨_, rfl⟩) | rfl <;> assumption
  rw [Text.width_of_plain
    (fun hmem => absurd (hone _ hmem) (by omega)) (fun hmem => absurd (hone _ hmem) (by omega))]
  simp only [rule, List.cons_append, Text.cells_cons, Text.cells_append, Text.cells_replicate,
    Text.cells_nil, hleft, hline, hcrossing, hright]
  omega

/-- A row has as many lines as the one of its cells that has more. -/
theorem length_rowLines (bar : Char) (l r : Nat) (row : Text × Text) :
    (rowLines bar l r row).length =
      max (Text.wrap l row.1).length (Text.wrap r row.2).length := by
  simp [rowLines]

end Table

end CardQuery
