import CardQuery.Query

/-!
# Buckets of a query

A query keeps its constraints in eleven buckets.  Ten of them are lists and one is the table of
field values.  This module looks at a query bucket by bucket and says what adding a constraint does
to each of them.

Main results:

- `entries_add_of_ne` says that a constraint leaves all buckets but its own alone.
- `entries_add` says that a constraint goes to the end of its list.
- `oneMore_add` says that adding a constraint adds one entry, or sets the value of one field.
- `eq_of_entries` says that a query is told by the entries of its buckets.
-/

namespace CardQuery

/-- The buckets that the constraints of a query are kept in. -/
inductive Bucket
  | texts
  | decks
  | decksLeftOut
  | tags
  | tagsLeftOut
  | fields
  | states
  | statesLeftOut
  | flags
  | flagsLeftOut
  | properties
deriving DecidableEq, Repr

/-- What the entries of a bucket are. -/
def Bucket.Entry : Bucket → Type
  | texts => TextSearch
  | fields => Text × Text
  | flags | flagsLeftOut => Int
  | properties => PropertyFilter
  | decks | decksLeftOut | tags | tagsLeftOut | states | statesLeftOut => Text

/-- The bucket that a constraint goes to. -/
def Constraint.bucket : Constraint → Bucket
  | text _ => .texts
  | deck false _ => .decks
  | deck true _ => .decksLeftOut
  | tag false _ => .tags
  | tag true _ => .tagsLeftOut
  | field _ _ => .fields
  | state false _ => .states
  | state true _ => .statesLeftOut
  | flag false _ => .flags
  | flag true _ => .flagsLeftOut
  | property _ => .properties

/-- Only values of fields go to the table. -/
theorem Constraint.exists_field_of_bucket {c : Constraint} (h : c.bucket = .fields) :
    ∃ name value, c = .field name value := by
  cases c with
  | field name value => exact ⟨name, value, rfl⟩
  | text search => cases h
  | deck negated name => cases negated <;> cases h
  | tag negated name => cases negated <;> cases h
  | state negated name => cases negated <;> cases h
  | flag negated number => cases negated <;> cases h
  | property filter => cases h

/-- The entry that a constraint is kept as. -/
def Constraint.entry : (c : Constraint) → c.bucket.Entry
  | text search => search
  | deck false name => name
  | deck true name => name
  | tag false name => name
  | tag true name => name
  | field name value => (name, value)
  | state false name => name
  | state true name => name
  | flag false number => number
  | flag true number => number
  | property filter => filter

namespace Query

/-- The entries of a bucket in order. -/
def entries (q : Query) : (b : Bucket) → List b.Entry
  | .texts => q.textSearches
  | .decks => q.decksInclude
  | .decksLeftOut => q.decksExclude
  | .tags => q.tagsInclude
  | .tagsLeftOut => q.tagsExclude
  | .fields => q.fieldSearches.entries
  | .states => q.states
  | .statesLeftOut => q.statesExclude
  | .flags => q.flags
  | .flagsLeftOut => q.flagsExclude
  | .properties => q.propertyFilters

/-- A query is told by the entries of its buckets. -/
theorem eq_of_entries {q r : Query} (h : ∀ b, q.entries b = r.entries b) : q = r := by
  rcases q with ⟨_, _, _, _, _, ⟨_, _⟩, _, _, _, _, _⟩
  rcases r with ⟨_, _, _, _, _, ⟨_, _⟩, _, _, _, _, _⟩
  have htexts := h .texts
  have hdecks := h .decks
  have hdecksOut := h .decksLeftOut
  have htags := h .tags
  have htagsOut := h .tagsLeftOut
  have hfields := h .fields
  have hstates := h .states
  have hstatesOut := h .statesLeftOut
  have hflags := h .flags
  have hflagsOut := h .flagsLeftOut
  have hproperties := h .properties
  simp_all [entries]

/-! ## Adding a constraint -/

/-- A constraint leaves all buckets but its own alone. -/
theorem entries_add_of_ne (q : Query) {c : Constraint} {b : Bucket} (h : b ≠ c.bucket) :
    (q.add c).entries b = q.entries b := by
  cases c with
  | text search => cases b <;> first | rfl | exact absurd rfl h
  | deck negated name => cases negated <;> cases b <;> first | rfl | exact absurd rfl h
  | tag negated name => cases negated <;> cases b <;> first | rfl | exact absurd rfl h
  | field name value => cases b <;> first | rfl | exact absurd rfl h
  | state negated name => cases negated <;> cases b <;> first | rfl | exact absurd rfl h
  | flag negated number => cases negated <;> cases b <;> first | rfl | exact absurd rfl h
  | property filter => cases b <;> first | rfl | exact absurd rfl h

/-- A constraint that is not about the value of a field goes to the end of its list. -/
theorem entries_add (q : Query) {c : Constraint} (h : c.bucket ≠ .fields) :
    (q.add c).entries c.bucket = q.entries c.bucket ++ [c.entry] := by
  cases c with
  | text search => rfl
  | deck negated name => cases negated <;> rfl
  | tag negated name => cases negated <;> rfl
  | field name value => exact absurd rfl h
  | state negated name => cases negated <;> rfl
  | flag negated number => cases negated <;> rfl
  | property filter => rfl

/-- Whether `r` is `q` with one entry more at the end of one list, or with the value of one field
set, and the same otherwise. -/
inductive OneMore (q r : Query) : Prop
  /-- A list has one entry more. -/
  | appended (b : Bucket) (e : b.Entry) (hlist : b ≠ .fields)
      (hadded : r.entries b = q.entries b ++ [e])
      (hothers : ∀ b' ≠ b, r.entries b' = q.entries b')
  /-- A field that had no value has one. -/
  | named (name value : Text) (hnew : name ∉ q.fieldSearches.names)
      (hadded : r.fieldSearches.entries = q.fieldSearches.entries ++ [(name, value)])
      (hothers : ∀ b' ≠ .fields, r.entries b' = q.entries b')
  /-- A field that had a value has another one in the same place. -/
  | renewed (name old value : Text) (before later : List (Text × Text))
      (hold : q.fieldSearches.entries = before ++ (name, old) :: later)
      (hset : r.fieldSearches.entries = before ++ (name, value) :: later)
      (hothers : ∀ b' ≠ .fields, r.entries b' = q.entries b')

/-- Adding a constraint adds one entry, or sets the value of one field. -/
theorem oneMore_add (q : Query) (c : Constraint) : OneMore q (q.add c) := by
  have hothers : ∀ b ≠ c.bucket, (q.add c).entries b = q.entries b :=
    fun b hb => q.entries_add_of_ne hb
  by_cases hfields : c.bucket = .fields
  · rcases Constraint.exists_field_of_bucket hfields with ⟨name, value, rfl⟩
    by_cases hmem : name ∈ q.fieldSearches.names
    · obtain ⟨before, old, later, hold, hset⟩ :=
        FieldTable.entries_insert_of_mem hmem value
      exact .renewed name old value before later hold hset hothers
    · exact .named name value hmem (FieldTable.entries_insert_of_not_mem hmem value) hothers
  · exact .appended c.bucket c.entry hfields (q.entries_add hfields) hothers

end Query

end CardQuery
