import CardQuery.Text

/-!
# Comparators

The six comparisons of a property with a value, how they are written, and where an expression
such as `ivl>=10` is split.

Main results:

- `complement_complement` says that taking the complement twice gives the comparator back.
- `read?_symbol` says that a written comparator is read back when no `=` could lengthen it.
- `written_of_split?` says that the three parts of a split expression make it up again.
-/

namespace CardQuery

/-- A comparison of a property with a value. -/
inductive Comparator
  /-- Greater or equal. -/
  | ge
  /-- Less or equal. -/
  | le
  /-- Different. -/
  | ne
  /-- Equal. -/
  | eq
  /-- Greater. -/
  | gt
  /-- Less. -/
  | lt
deriving DecidableEq, Repr

namespace Comparator

/-- How a comparator is written. -/
def symbol : Comparator → Text
  | ge => ['>', '=']
  | le => ['<', '=']
  | ne => ['!', '=']
  | eq => ['=']
  | gt => ['>']
  | lt => ['<']

/-- The comparator that is written as `t`, if any is. -/
def ofSymbol? (t : Text) : Option Comparator :=
  [ge, le, ne, eq, gt, lt].find? fun c => c.symbol == t

/-- A comparator is found by the way it is written. -/
@[simp] theorem ofSymbol?_symbol (c : Comparator) : ofSymbol? c.symbol = some c := by
  cases c <;> rfl

/-- The comparison that holds exactly when the given one does not. -/
def complement : Comparator → Comparator
  | ge => lt
  | le => gt
  | ne => eq
  | eq => ne
  | gt => le
  | lt => ge

/-- Taking the complement twice gives the comparator back. -/
@[simp] theorem complement_complement (c : Comparator) : c.complement.complement = c := by
  cases c <;> rfl

/-- Whether a character can stand in a comparator. -/
def isMark (c : Char) : Bool := c == '=' || c == '!' || c == '<' || c == '>'

/-- The longest comparator at the beginning of a text, and the rest after it. -/
def read? : Text → Option (Comparator × Text)
  | '>' :: '=' :: rest => some (ge, rest)
  | '<' :: '=' :: rest => some (le, rest)
  | '!' :: '=' :: rest => some (ne, rest)
  | '=' :: rest => some (eq, rest)
  | '>' :: rest => some (gt, rest)
  | '<' :: rest => some (lt, rest)
  | _ => none

/-- A comparator is read off the text that it begins. -/
theorem written_of_read? {t rest : Text} {c : Comparator} (h : read? t = some (c, rest)) :
    t = c.symbol ++ rest := by
  fun_cases read? t <;> simp_all [read?, symbol] <;> rcases h with ⟨rfl, rfl⟩ <;> rfl

/-- A written comparator is read back, unless an `=` after it makes it a longer one. -/
theorem read?_symbol (c : Comparator) {rest : Text} (h : ∀ r, rest ≠ '=' :: r) :
    read? (c.symbol ++ rest) = some (c, rest) := by
  cases c with
  | ge | le | ne | eq => rfl
  | gt | lt =>
    simp only [symbol, List.cons_append, List.nil_append]
    rw [read?]
    exact h

/-- The parts of an expression before, at and after its first comparator.  The first character
that can stand in a comparator has to begin one. -/
def split? (expression : Text) : Option (Text × Comparator × Text) :=
  let lead := expression.takeWhile fun c => !isMark c
  (read? (expression.dropWhile fun c => !isMark c)).map fun found => (lead, found.1, found.2)

/-- The three parts of an expression make it up again. -/
theorem written_of_split? {expression lead value : Text} {c : Comparator}
    (h : split? expression = some (lead, c, value)) :
    expression = lead ++ c.symbol ++ value := by
  obtain ⟨⟨c', value'⟩, hread, heq⟩ := Option.map_eq_some_iff.1 h
  simp only [Prod.mk.injEq] at heq
  obtain ⟨rfl, rfl, rfl⟩ := heq
  rw [List.append_assoc, ← written_of_read? hread, List.takeWhile_append_dropWhile]

end Comparator

end CardQuery
