import CardQuery.Clause
import CardQuery.Constraint
import CardQuery.Text.Case

/-!
# The meaning of a clause

A clause begins with the name of what it is about (`deck:`, `tag:`, `is:`, `flag:`, `prop:`,
`front:`, `back:` or `field:NAME:`) or is a search for a text.  This module finds the constraint
that a clause places, if it places one.

Main results:

- `constraint_eq_ok_iff` says that a clause places the same constraint in every query.
- `constraint_eq_error_iff` says that a clause is refused in every query for the same reason.
-/

namespace CardQuery

/-! ## What a clause is about -/

/-- What a clause can be about, by the word in front of its first colon. -/
inductive Topic
  | deck
  | tag
  | state
  | flag
  | property
  | front
  | back
  | field
deriving DecidableEq, Repr

namespace Topic

/-- The beginning of a clause about a topic. -/
def keyword : Topic → Text
  | deck => "deck:".toList
  | tag => "tag:".toList
  | state => "is:".toList
  | flag => "flag:".toList
  | property => "prop:".toList
  | front => "front:".toList
  | back => "back:".toList
  | field => "field:".toList

/-- The topics, in the order in which a clause is compared with their beginnings. -/
def all : List Topic := [deck, tag, state, flag, property, front, back, field]

/-- The topic of a clause, and its text after the beginning that names the topic. -/
def read? (text : Text) : Option (Topic × Text) :=
  all.findSome? fun topic => (Text.after? topic.keyword text).map (topic, ·)

end Topic

/-! ## States and flags -/

/-- The states that the scheduler knows. -/
def knownStates : List Text :=
  ["new".toList, "learn".toList, "review".toList, "relearn".toList, "due".toList,
    "suspended".toList, "buried".toList, "marked".toList]

/-- Whether a state is one of the known ones, in any letter case. -/
def isKnownState (state : Text) : Bool := Text.lower state ∈ knownStates

/-- The greatest number of a flag. -/
def maxFlag : Nat := 7

/-- The flag that a numeral names. -/
def readFlag (value : Text) : Except QueryFault Nat :=
  if !PropertyFilter.isDigits value then .error (.invalidFlag value)
  else if Text.maxNumeralDigits < value.length then .error (.oversizedFlag value)
  else
    let number := Text.toNat 10 value
    if maxFlag < number then .error (.invalidFlag value) else .ok number

/-! ## Searches for a text -/

/-- The modifiers in front of a text to search for. -/
structure Modifiers where
  /-- Combining marks are disregarded. -/
  noCombining : Bool := false
  /-- The text has to begin and end at word boundaries. -/
  wordBoundary : Bool := false
deriving DecidableEq, Repr

namespace Modifiers

/-- The beginning that asks for combining marks to be disregarded. -/
def noCombiningMark : Text := "nc:".toList

/-- The beginning that asks for word boundaries. -/
def wordMark : Text := "w:".toList

/-- The beginning of a regular expression. -/
def regexMark : Text := "re:".toList

/-- How many modifiers can still be set. -/
def unset (m : Modifiers) : Nat := (!m.noCombining).toNat + (!m.wordBoundary).toNat

/-- The modifiers that a text begins with beyond those of `m`, each at most once and in any
order, and the rest of the text. -/
def read (m : Modifiers) (text : Text) : Modifiers × Text :=
  match _h : m.noCombining, Text.after? noCombiningMark text with
  | false, some rest => read { m with noCombining := true } rest
  | _, _ =>
    match _h : m.wordBoundary, Text.after? wordMark text with
    | false, some rest => read { m with wordBoundary := true } rest
    | _, _ => (m, text)
termination_by m.unset
decreasing_by
  · simp [unset, _h]
  · simp [unset, _h]

/-- Whether a text begins with a modifier or as a regular expression. -/
def marks (text : Text) : Bool :=
  Text.begins regexMark text || Text.begins noCombiningMark text || Text.begins wordMark text

end Modifiers

/-- The search for the text of a clause in a field, or in every field if `field` is empty; nothing
if there is no text to search for. -/
def TextSearch.read? (negated : Bool) (field text : Text) : Option TextSearch :=
  let (modifiers, body) := Modifiers.read {} text
  match Text.after? Modifiers.regexMark body with
  | some pattern =>
    let value := pattern.unquote.text
    if value.isEmpty then none
    else
      some
        { text := value
          field := field
          isRegex := true
          isNoCombining := modifiers.noCombining
          isWordBoundary := modifiers.wordBoundary
          isNegated := negated }
  | none =>
    let value := body.unquote
    if value.text.isEmpty then none
    else
      some
        { text := value.text
          field := field
          isExact := value.quoted
          isWildcard := !value.quoted && decide ('*' ∈ value.text)
          isNoCombining := modifiers.noCombining
          isWordBoundary := modifiers.wordBoundary
          isNegated := negated }

/-! ## Fields -/

/-- The name of the field that `text` begins with and the text after the colon that ends it.
Colons in quoted regions belong to the name. -/
def splitField? (text : Text) : Option (Text × Text) :=
  let ps := (Piece.pieces text).1
  let name := Piece.writtenAll (ps.takeWhile fun p => p != .char ':')
  match text.drop name.length with
  | ':' :: rest => some (name.unquote.text, rest)
  | _ => none

/-- The constraint of a clause about a field: a search for a text if a modifier or a regular
expression follows, and else the value that the field has to contain.  A value has no negated
form. -/
def fieldConstraint (negated : Bool) (field text : Text) : Option Constraint :=
  if Modifiers.marks text then (TextSearch.read? negated field text).map .text
  else some (.field field text.unquote.text)

/-! ## Clauses -/

namespace Clause

/-- The constraint about a named thing, which an empty name does not place. -/
def named (constraint : Text → Constraint) (text : Text) : Option Constraint :=
  let name := text.unquote.text
  if name.isEmpty then none else some (constraint name)

/-- The constraint that a clause places, if it places one, or why it is refused.  A strict reading
refuses unknown states and properties. -/
def meaning (strict : Bool) (c : Clause) : Except QueryFault (Option Constraint) :=
  match Topic.read? c.text with
  | some (.deck, rest) => .ok (named (.deck c.negated) rest)
  | some (.tag, rest) => .ok (named (.tag c.negated) rest)
  | some (.state, rest) =>
    let state := rest.unquote.text
    if strict && !isKnownState state then .error (.unknownState state)
    else .ok (some (.state c.negated state))
  | some (.flag, rest) => (readFlag rest).map fun number => some (.flag c.negated number)
  | some (.property, rest) =>
    match PropertyFilter.read strict rest with
    | .error fault => .error (.invalidProperty rest fault)
    | .ok filter => .ok (some (.property (if c.negated then filter.complement else filter)))
  | some (.front, rest) => .ok (fieldConstraint c.negated "front".toList rest)
  | some (.back, rest) => .ok (fieldConstraint c.negated "back".toList rest)
  | some (.field, rest) =>
    match splitField? rest with
    | none => .error (.emptyFieldName c.text)
    | some (name, value) =>
      if name.isEmpty then .error (.emptyFieldName c.text)
      else .ok (fieldConstraint c.negated name value)
  | none => .ok ((TextSearch.read? c.negated [] c.text).map .text)

/-- The constraint that a clause of the query `source` places, if it places one. -/
def constraint (strict : Bool) (source : Text) (c : Clause) :
    Except QueryError (Option Constraint) :=
  (c.meaning strict).mapError fun fault => ⟨source, fault⟩

/-- A clause is refused in a query exactly when it is refused by itself, for the same reason. -/
theorem constraint_eq_error_iff {strict : Bool} {source : Text} {c : Clause} {e : QueryError} :
    c.constraint strict source = .error e ↔
      e.query = source ∧ c.meaning strict = .error e.fault := by
  unfold constraint
  cases h : c.meaning strict with
  | error fault =>
    obtain ⟨query, cause⟩ := e
    simp [eq_comm]
  | ok found => simp

/-- A clause places the same constraint in every query. -/
theorem constraint_eq_ok_iff {strict : Bool} {source : Text} {c : Clause}
    {found : Option Constraint} :
    c.constraint strict source = .ok found ↔ c.meaning strict = .ok found := by
  unfold constraint
  cases h : c.meaning strict <;> simp

end Clause

end CardQuery
