import CardQuery.Text

/-!
# JSON values

The values of the data format JSON.  The members of an object are kept in order, and a number
that is written with a point or an exponent keeps its written form.

Main results:

- `member?_cons_self` and `member?_cons_of_ne` say how the members of an object are looked up.
-/

namespace CardQuery

/-- A JSON value. -/
inductive Json
  /-- The value `null`. -/
  | null
  /-- A truth value. -/
  | bool (value : Bool)
  /-- A number without point and exponent. -/
  | integer (value : Int)
  /-- A number with a point or an exponent, as it is written. -/
  | decimal (numeral : Text)
  /-- A text. -/
  | string (value : Text)
  /-- A sequence of values. -/
  | array (items : List Json)
  /-- Named values in order. -/
  | object (members : List (Text × Json))

namespace Json

/-- The value of the first member with the given name. -/
def member? (name : Text) : List (Text × Json) → Option Json
  | [] => none
  | m :: rest => if m.1 = name then some m.2 else member? name rest

/-- The first member is found by its name. -/
@[simp] theorem member?_cons_self (name : Text) (value : Json) (rest : List (Text × Json)) :
    member? name ((name, value) :: rest) = some value := by simp [member?]

/-- A member of another name is passed over. -/
theorem member?_cons_of_ne {name other : Text} (h : other ≠ name) (value : Json)
    (rest : List (Text × Json)) : member? name ((other, value) :: rest) = member? name rest := by
  simp [member?, h]

end Json

end CardQuery
