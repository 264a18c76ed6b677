import CardQuery.Constraint

/-!
# Queries

A query is a collection of constraints, all of which a card has to meet, sorted by kind and sign
and otherwise kept in the order in which they were added.  The values asked of fields form a
table with one value for each field name.

Main results:

- `FieldTable.entries_insert_of_mem` and `FieldTable.entries_insert_of_not_mem` say that a new
  name goes to the end of the table and that a known name keeps its place.
- `isEmpty_iff` says that exactly the query without constraints is empty.
-/

namespace CardQuery

/-! ## Field tables -/

/-- A table from field names to values, in the order in which the names were first set. -/
structure FieldTable where
  /-- The names with their values. -/
  entries : List (Text × Text) := []
  /-- No name stands twice. -/
  nodup : (entries.map Prod.fst).Nodup := by first | exact List.nodup_nil | simp
deriving DecidableEq

namespace FieldTable

/-- The names of a table in order. -/
def names (table : FieldTable) : List Text := table.entries.map Prod.fst

/-- The entries with the value of `name` set to `value`. -/
def set (name value : Text) : List (Text × Text) → List (Text × Text)
  | [] => [(name, value)]
  | entry :: rest => if entry.1 = name then (name, value) :: rest else entry :: set name value rest

/-- Setting a name adds it at the end, or leaves the names as they are if it is one of them. -/
theorem names_set (name value : Text) (entries : List (Text × Text)) :
    (set name value entries).map Prod.fst =
      if name ∈ entries.map Prod.fst then entries.map Prod.fst
      else entries.map Prod.fst ++ [name] := by
  induction entries with
  | nil => simp [set]
  | cons entry rest ih =>
    by_cases h : entry.1 = name
    · simp [set, h]
    · have hne : ¬name = entry.1 := fun heq => h heq.symm
      by_cases hmem : name ∈ rest.map Prod.fst <;> simp_all [set]

/-- A table with the value of `name` set to `value`: a new name goes to the end, and a known one
keeps its place. -/
def insert (table : FieldTable) (name value : Text) : FieldTable where
  entries := set name value table.entries
  nodup := by
    rw [names_set]
    split
    next => exact table.nodup
    next h => exact List.nodup_append.2 ⟨table.nodup, by simp, by
      intro a ha b hb
      rw [List.mem_singleton.1 hb]
      rintro rfl
      exact h ha⟩

/-- A table with the values of `entries` set in order. -/
def insertAll (table : FieldTable) (entries : List (Text × Text)) : FieldTable :=
  entries.foldl (fun table entry => table.insert entry.1 entry.2) table

/-- The table of the given entries, a later value replacing an earlier one of the same name. -/
def ofList (entries : List (Text × Text)) : FieldTable := insertAll {} entries

/-- A new name goes to the end of the table. -/
theorem entries_insert_of_not_mem {table : FieldTable} {name : Text} (h : name ∉ table.names)
    (value : Text) : (table.insert name value).entries = table.entries ++ [(name, value)] := by
  have key : ∀ entries : List (Text × Text), name ∉ entries.map Prod.fst →
      set name value entries = entries ++ [(name, value)] := by
    intro entries hentries
    induction entries with
    | nil => rfl
    | cons entry rest ih =>
      simp only [List.map_cons, List.mem_cons, not_or] at hentries
      have hne : ¬entry.1 = name := fun heq => hentries.1 heq.symm
      rw [set, if_neg hne, ih hentries.2]
      rfl
  exact key _ h

/-- A known name keeps its place and takes the new value. -/
theorem entries_insert_of_mem {table : FieldTable} {name : Text} (h : name ∈ table.names)
    (value : Text) :
    ∃ before old later, table.entries = before ++ (name, old) :: later ∧
      (table.insert name value).entries = before ++ (name, value) :: later := by
  have key : ∀ entries : List (Text × Text), name ∈ entries.map Prod.fst →
      ∃ before old later, entries = before ++ (name, old) :: later ∧
        set name value entries = before ++ (name, value) :: later := by
    intro entries hentries
    induction entries with
    | nil => simp at hentries
    | cons entry rest ih =>
      by_cases hname : entry.1 = name
      · exact ⟨[], entry.2, rest, by simp [← hname], by simp [set, hname]⟩
      · have hmem : name ∈ rest.map Prod.fst := by
          rcases List.mem_cons.1 hentries with heq | hmem
          · exact absurd heq.symm hname
          · exact hmem
        obtain ⟨before, old, later, hrest, hset⟩ := ih hmem
        exact ⟨entry :: before, old, later, by simp [hrest], by simp [set, hname, hset]⟩
  exact key _ h

/-- Whether two tables have the same names with the same values, in any order. -/
def sameValues (a b : FieldTable) : Bool := a.entries.isPerm b.entries

end FieldTable

/-! ## Queries -/

/-- The constraints of a search, sorted by kind and sign. -/
structure Query where
  /-- The searches for a text. -/
  textSearches : List TextSearch := []
  /-- The decks asked for. -/
  decksInclude : List Text := []
  /-- The decks left out. -/
  decksExclude : List Text := []
  /-- The tags asked for. -/
  tagsInclude : List Text := []
  /-- The tags left out. -/
  tagsExclude : List Text := []
  /-- The values asked of fields. -/
  fieldSearches : FieldTable := {}
  /-- The states asked for. -/
  states : List Text := []
  /-- The states left out. -/
  statesExclude : List Text := []
  /-- The flags asked for. -/
  flags : List Int := []
  /-- The flags left out. -/
  flagsExclude : List Int := []
  /-- The comparisons of properties. -/
  propertyFilters : List PropertyFilter := []
deriving DecidableEq

namespace Query

/-- A query with one more constraint. -/
def add (q : Query) : Constraint → Query
  | .text search => { q with textSearches := q.textSearches ++ [search] }
  | .deck false name => { q with decksInclude := q.decksInclude ++ [name] }
  | .deck true name => { q with decksExclude := q.decksExclude ++ [name] }
  | .tag false name => { q with tagsInclude := q.tagsInclude ++ [name] }
  | .tag true name => { q with tagsExclude := q.tagsExclude ++ [name] }
  | .field name value => { q with fieldSearches := q.fieldSearches.insert name value }
  | .state false name => { q with states := q.states ++ [name] }
  | .state true name => { q with statesExclude := q.statesExclude ++ [name] }
  | .flag false number => { q with flags := q.flags ++ [number] }
  | .flag true number => { q with flagsExclude := q.flagsExclude ++ [number] }
  | .property filter => { q with propertyFilters := q.propertyFilters ++ [filter] }

/-- A query with the constraint of a clause, if the clause places one. -/
def addOption (q : Query) : Option Constraint → Query
  | none => q
  | some c => q.add c

/-- The constraints of two queries together, those of the first before those of the second. -/
def merge (a b : Query) : Query where
  textSearches := a.textSearches ++ b.textSearches
  decksInclude := a.decksInclude ++ b.decksInclude
  decksExclude := a.decksExclude ++ b.decksExclude
  tagsInclude := a.tagsInclude ++ b.tagsInclude
  tagsExclude := a.tagsExclude ++ b.tagsExclude
  fieldSearches := a.fieldSearches.insertAll b.fieldSearches.entries
  states := a.states ++ b.states
  statesExclude := a.statesExclude ++ b.statesExclude
  flags := a.flags ++ b.flags
  flagsExclude := a.flagsExclude ++ b.flagsExclude
  propertyFilters := a.propertyFilters ++ b.propertyFilters

/-- Whether a query places no constraint at all. -/
def isEmpty (q : Query) : Bool :=
  q.textSearches.isEmpty && q.decksInclude.isEmpty && q.decksExclude.isEmpty &&
    q.tagsInclude.isEmpty && q.tagsExclude.isEmpty && q.fieldSearches.entries.isEmpty &&
    q.states.isEmpty && q.statesExclude.isEmpty && q.flags.isEmpty && q.flagsExclude.isEmpty &&
    q.propertyFilters.isEmpty

/-- A query is empty exactly when it is the query without constraints. -/
theorem isEmpty_iff {q : Query} : q.isEmpty = true ↔ q = {} := by
  obtain ⟨_, _, _, _, _, ⟨entries, _⟩, _, _, _, _, _⟩ := q
  simp [isEmpty, and_assoc]

/-- Whether all flags of a query can be written. -/
def HasNumerals (q : Query) : Prop := ∀ flag ∈ q.flags ++ q.flagsExclude, Text.HasNumeral flag

instance (q : Query) : Decidable q.HasNumerals :=
  inferInstanceAs (Decidable (∀ flag ∈ q.flags ++ q.flagsExclude, Text.HasNumeral flag))

/-- Whether two queries have the same constraints: the same lists in the same order, and the same
values for the same fields in any order. -/
def sameConstraints (a b : Query) : Bool :=
  a.textSearches == b.textSearches && a.decksInclude == b.decksInclude &&
    a.decksExclude == b.decksExclude && a.tagsInclude == b.tagsInclude &&
    a.tagsExclude == b.tagsExclude && a.fieldSearches.sameValues b.fieldSearches &&
    a.states == b.states && a.statesExclude == b.statesExclude && a.flags == b.flags &&
    a.flagsExclude == b.flagsExclude && a.propertyFilters == b.propertyFilters

end Query

end CardQuery
