import CardQuery.Markup.Render
import CardQuery.Notice
import CardQuery.Query.Rows
import CardQuery.Table

/-!
# Console

How markup and tables of markup come out on a stream of plain text.

Main results:

- `printed_of_plain` says that a line of plain text is printed as it is.
-/

namespace CardQuery

namespace Console

/-- Whether a character would act on a terminal instead of being shown, and is left out: the bell,
the backspace, the vertical tab, the form feed and the carriage return. -/
def isAction (c : Char) : Bool :=
  c == '\x07' || c == '\x08' || c == '\x0b' || c == '\x0c' || c == '\r'

/-- The text of markup without the characters that act on a terminal. -/
def plain (markup : Text) : Except Markup.Fault Text :=
  (Markup.render markup).map fun t => t.filter fun c => !isAction c

/-- What is printed for a line of markup. -/
def printed (markup : Text) : Except Markup.Fault Text :=
  (plain markup).map fun t => Text.expandTabs t ++ ['\n']

/-- The table of rows of a query. -/
def table (rows : List Row) : Except Markup.Fault Table :=
  let cells := rows.mapM fun row => do
    let bucket ← plain row.bucket
    let value ← plain row.markup
    return (bucket, value)
  cells.map fun cells => ⟨("Bucket".toList, "Value".toList), cells⟩

/-- What is printed for rows of a query. -/
def printedTable (rows : List Row) : Except Markup.Fault Text := (table rows).map Table.draw

/-- A line of plain text is printed as it is. -/
theorem printed_of_plain {t : Text} (hbracket : '[' ∉ t) (htab : '\t' ∉ t)
    (haction : ∀ c ∈ t, isAction c = false) : printed t = .ok (t ++ ['\n']) := by
  have hkept : (t.filter fun c => !isAction c) = t :=
    List.filter_eq_self.2 fun c hc => by simp [haction c hc]
  simp [printed, plain, Markup.render_of_noBracket hbracket, Except.map, hkept,
    Text.expandTabs_of_noTab htab]

end Console

end CardQuery
