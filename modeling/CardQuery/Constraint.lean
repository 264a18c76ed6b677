import CardQuery.PropertyFilter

/-!
# Constraints

What one clause of a query can ask of a card.  A clause places at most one constraint, and a
query is made of the constraints of its clauses.

Main results:

- `negate_negate` says that negating a constraint twice gives it back.
-/

namespace CardQuery

/-- A search for a text, in every field of a note or in one. -/
structure TextSearch where
  /-- The text to search for, as it was typed. -/
  text : Text
  /-- The field to search in, empty for all fields. -/
  field : Text := []
  /-- Whether the text is a quoted phrase. -/
  isExact : Bool := false
  /-- Whether a star in the text stands for any characters. -/
  isWildcard : Bool := false
  /-- Whether the text is a regular expression. -/
  isRegex : Bool := false
  /-- Whether combining marks are disregarded. -/
  isNoCombining : Bool := false
  /-- Whether the text has to begin and end at word boundaries. -/
  isWordBoundary : Bool := false
  /-- Whether cards with the text are left out. -/
  isNegated : Bool := false
deriving DecidableEq, Repr

/-- What one clause asks of a card. -/
inductive Constraint
  /-- The card holds a text, or does not. -/
  | text (search : TextSearch)
  /-- The card is in a deck, or is not. -/
  | deck (negated : Bool) (name : Text)
  /-- The note has a tag, or has not. -/
  | tag (negated : Bool) (name : Text)
  /-- A field of the note contains a value. -/
  | field (name value : Text)
  /-- The card is in a state, or is not. -/
  | state (negated : Bool) (name : Text)
  /-- The card has a flag, or has not. -/
  | flag (negated : Bool) (number : Int)
  /-- A property of the card compares with a value. -/
  | property (filter : PropertyFilter)
deriving DecidableEq, Repr

namespace Constraint

/-- The constraint of the clause with the opposite sign.  A field constraint has no opposite and
stays as it is. -/
def negate : Constraint → Constraint
  | text search => text { search with isNegated := !search.isNegated }
  | deck negated name => deck (!negated) name
  | tag negated name => tag (!negated) name
  | field name value => field name value
  | state negated name => state (!negated) name
  | flag negated number => flag (!negated) number
  | property filter => property filter.complement

/-- Negating twice gives the constraint back. -/
@[simp] theorem negate_negate (c : Constraint) : c.negate.negate = c := by
  cases c <;> simp [negate, PropertyFilter.complement]

end Constraint

end CardQuery
