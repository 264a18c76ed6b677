import CardQuery.Proofs.Markup.Lines
import CardQuery.Query.Rows

/-!
# Kinds of rows

The rows of a query stand in groups, one for each kind of constraint, and each row is a line made of
parts.

Main results:

- `rows_filter` says which rows are left of those kinds that are asked for.
-/

namespace CardQuery

/-- The row of a field that is asked for a value. -/
def Row.ofField (name value : Text) : Row :=
  ⟨"field".toList, Markup.escape name ++ " contains ".toList ++ Markup.escape value.literal⟩

/-- The row of a property filter. -/
def Row.ofProperty (f : PropertyFilter) : Row :=
  ⟨"prop".toList, Markup.escape (f.property ++ [' '] ++ f.comparator.symbol ++ [' '] ++ f.value)⟩

/-- The row of a text search. -/
def Row.ofText (s : TextSearch) : Row := ⟨"text".toList, s.describe⟩

namespace Query

/-- Of rows of one kind either all are left or none. -/
theorem filter_map_bucket {α : Type} (row : α → Row) (bucket : Text)
    (hrow : ∀ a, (row a).bucket = bucket) (p : Text → Bool) (l : List α) :
    (l.map row).filter (fun r => p r.bucket) = if p bucket then l.map row else [] := by
  split
  next h =>
    rw [List.filter_eq_self]
    intro r hr
    obtain ⟨a, -, rfl⟩ := List.mem_map.1 hr
    rw [hrow, h]
  next h =>
    rw [List.filter_eq_nil_iff]
    intro r hr
    obtain ⟨a, -, rfl⟩ := List.mem_map.1 hr
    rw [hrow]
    exact h

theorem filter_signedRows (bucket : String) (negated : Bool) (things : List Text)
    (p : Text → Bool) : (signedRows bucket negated things).filter (fun r => p r.bucket) =
      if p bucket.toList then signedRows bucket negated things else [] :=
  filter_map_bucket (fun thing => ⟨bucket.toList, Row.signed negated thing⟩) bucket.toList
    (fun _ => rfl) p things

/-- The rows of some kinds, in the order of all rows. -/
theorem rows_filter (q : Query) (p : Text → Bool) :
    q.rows.filter (fun row => p row.bucket) =
      (if p "text".toList then q.textSearches.map Row.ofText else []) ++
      (if p "deck".toList then signedRows "deck" false (q.decksInclude.map Markup.escape) ++
        signedRows "deck" true (q.decksExclude.map Markup.escape) else []) ++
      (if p "tag".toList then signedRows "tag" false (q.tagsInclude.map Markup.escape) ++
        signedRows "tag" true (q.tagsExclude.map Markup.escape) else []) ++
      (if p "field".toList then
        q.fieldSearches.entries.map fun entry => Row.ofField entry.1 entry.2 else []) ++
      (if p "state".toList then signedRows "state" false (q.states.map Markup.escape) ++
        signedRows "state" true (q.statesExclude.map Markup.escape) else []) ++
      (if p "flag".toList then signedRows "flag" false (q.flags.map Text.ofInt) ++
        signedRows "flag" true (q.flagsExclude.map Text.ofInt) else []) ++
      (if p "prop".toList then q.propertyFilters.map Row.ofProperty else []) := by
  have htexts := filter_map_bucket Row.ofText "text".toList (fun _ => rfl) p q.textSearches
  have hfields := filter_map_bucket (fun entry : Text × Text => Row.ofField entry.1 entry.2)
    "field".toList (fun _ => rfl) p q.fieldSearches.entries
  have hproperties :=
    filter_map_bucket Row.ofProperty "prop".toList (fun _ => rfl) p q.propertyFilters
  have hrows : q.rows = q.textSearches.map Row.ofText ++
      signedRows "deck" false (q.decksInclude.map Markup.escape) ++
      signedRows "deck" true (q.decksExclude.map Markup.escape) ++
      signedRows "tag" false (q.tagsInclude.map Markup.escape) ++
      signedRows "tag" true (q.tagsExclude.map Markup.escape) ++
      (q.fieldSearches.entries.map fun entry => Row.ofField entry.1 entry.2) ++
      signedRows "state" false (q.states.map Markup.escape) ++
      signedRows "state" true (q.statesExclude.map Markup.escape) ++
      signedRows "flag" false (q.flags.map Text.ofInt) ++
      signedRows "flag" true (q.flagsExclude.map Text.ofInt) ++
      q.propertyFilters.map Row.ofProperty := rfl
  have htwice : ∀ (b : Bool) (u v : List Row),
      ((if b then u else []) ++ if b then v else []) = if b then u ++ v else [] := by
    intro b u v
    cases b <;> rfl
  rw [hrows]
  simp only [List.filter_append, htexts, hfields, hproperties, filter_signedRows]
  simp only [← htwice, List.append_assoc]

end Query

end CardQuery
