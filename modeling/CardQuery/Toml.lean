import CardQuery.Text

/-!
# TOML values

The values of the configuration format TOML.  A number with a point or an exponent and a moment in
time keep their written form, since nothing is computed with them.

Main results:

- `lookup?_cons_self` and `lookup?_cons_of_ne` say how the entries of a table are looked up.
-/

namespace CardQuery

namespace Toml

/-- A TOML value. -/
inductive Value
  /-- A text. -/
  | string (value : Text)
  /-- A whole number. -/
  | integer (value : Int)
  /-- A number with a point or an exponent, as it is written. -/
  | float (numeral : Text)
  /-- A truth value. -/
  | boolean (value : Bool)
  /-- A date, a time of day, or both, as it is written. -/
  | moment (written : Text)
  /-- A sequence of values. -/
  | array (items : List Value)
  /-- Named values. -/
  | table (entries : List (Text × Value))

/-- The value of the first entry with the given name. -/
def lookup? (name : Text) : List (Text × Value) → Option Value
  | [] => none
  | entry :: rest => if entry.1 = name then some entry.2 else lookup? name rest

/-- The first entry is found by its name. -/
@[simp] theorem lookup?_cons_self (name : Text) (value : Value) (rest : List (Text × Value)) :
    lookup? name ((name, value) :: rest) = some value := by simp [lookup?]

/-- An entry of another name is passed over. -/
theorem lookup?_cons_of_ne {name other : Text} (h : other ≠ name) (value : Value)
    (rest : List (Text × Value)) :
    lookup? name ((other, value) :: rest) = lookup? name rest := by simp [lookup?, h]

/-- Why a text is no TOML document. -/
inductive Fault
  /-- The text breaks a rule of the format. -/
  | malformed
  /-- A whole number has more decimal digits than can be read. -/
  | oversizedNumeral
deriving DecidableEq, Repr

/-- The outcome of reading something at the beginning of a text: what was read, and the rest. -/
abbrev Reading (α : Type) := Except Fault (α × Text)

/-- The outcome of reading something that breaks a rule of the format. -/
def malformed {α : Type} : Except Fault α := .error .malformed

end Toml

end CardQuery
