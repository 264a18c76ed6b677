import CardQuery.Markup
import CardQuery.Query
import CardQuery.Text.Literal

/-!
# Rows of a query

A query as rows for a reader: for each constraint the name of its kind and a line of markup.  The
row of a flag has its numeral, so a query with a flag that cannot be written cannot be put into
rows.

Main results:

- `length_rows` says that there is one row for each constraint.
- `exists_rows?_iff` says which queries can be put into rows.
-/

namespace CardQuery

/-- One row: the name of a kind of constraint, and a constraint of this kind as markup. -/
structure Row where
  /-- The name of the kind. -/
  bucket : Text
  /-- The constraint as markup. -/
  markup : Text
deriving DecidableEq, Repr

namespace Row

/-- The markup of a negation. -/
def negation : Text := "[negated]NOT[/negated] ".toList

/-- A text in markup, behind a negation if it is negated. -/
def signed (negated : Bool) (markup : Text) : Text := if negated then negation ++ markup else markup

end Row

namespace TextSearch

/-- The names of what is asked of a text beyond being found. -/
def labels (s : TextSearch) : List Text :=
  [(s.isExact, "exact".toList), (s.isWildcard, "wildcard".toList), (s.isRegex, "regex".toList),
   (s.isNoCombining, "no-combining".toList), (s.isWordBoundary, "word".toList)].filterMap
    fun p => if p.1 then some p.2 else none

/-- The label of a text search. -/
def label (s : TextSearch) : Text :=
  match s.labels with
  | [] => "substring".toList
  | labels => List.intercalate ", ".toList labels

/-- The markup of the field of a text search, empty for a search in every field. -/
def scope (s : TextSearch) : Text :=
  match s.field with
  | [] => []
  | field => "[modifier]".toList ++ Markup.escape field ++ ":[/modifier] ".toList

/-- A text search as markup. -/
def describe (s : TextSearch) : Text :=
  Row.signed s.isNegated
    (s.scope ++ Markup.escape s.text.literal ++ " (".toList ++ s.label ++ [')'])

end TextSearch

namespace Query

/-- Rows of one kind for things that are asked for or left out. -/
def signedRows (bucket : String) (negated : Bool) (things : List Text) : List Row :=
  things.map fun thing => ⟨bucket.toList, Row.signed negated thing⟩

/-- The rows of a query whose flags can be written. -/
def rows (q : Query) : List Row :=
  q.textSearches.map (fun s => ⟨"text".toList, s.describe⟩) ++
  signedRows "deck" false (q.decksInclude.map Markup.escape) ++
  signedRows "deck" true (q.decksExclude.map Markup.escape) ++
  signedRows "tag" false (q.tagsInclude.map Markup.escape) ++
  signedRows "tag" true (q.tagsExclude.map Markup.escape) ++
  q.fieldSearches.entries.map (fun entry =>
    ⟨"field".toList,
      Markup.escape entry.1 ++ " contains ".toList ++ Markup.escape entry.2.literal⟩) ++
  signedRows "state" false (q.states.map Markup.escape) ++
  signedRows "state" true (q.statesExclude.map Markup.escape) ++
  signedRows "flag" false (q.flags.map Text.ofInt) ++
  signedRows "flag" true (q.flagsExclude.map Text.ofInt) ++
  q.propertyFilters.map (fun f =>
    ⟨"prop".toList,
      Markup.escape (f.property ++ [' '] ++ f.comparator.symbol ++ [' '] ++ f.value)⟩)

/-- The rows of a query, if its flags can be written. -/
def rows? (q : Query) : Option (List Row) := if q.HasNumerals then some q.rows else none

theorem rows?_eq_some_iff {q : Query} {rows : List Row} :
    q.rows? = some rows ↔ q.HasNumerals ∧ q.rows = rows := by
  simp [rows?]

/-- A query has rows, or none because it places no constraints, exactly if its flags can be
written. -/
theorem exists_rows?_iff {q : Query} : (∃ rows, q.rows? = some rows) ↔ q.HasNumerals := by
  simp [rows?]

/-- How many constraints a query places. -/
def size (q : Query) : Nat :=
  q.textSearches.length + q.decksInclude.length + q.decksExclude.length + q.tagsInclude.length +
    q.tagsExclude.length + q.fieldSearches.entries.length + q.states.length +
    q.statesExclude.length + q.flags.length + q.flagsExclude.length + q.propertyFilters.length

/-- There is one row for each constraint. -/
theorem length_rows (q : Query) : q.rows.length = q.size := by
  simp only [rows, signedRows, size, List.length_append, List.length_map]

end Query

end CardQuery
