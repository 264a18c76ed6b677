import CardQuery.Comparator

/-!
# Property filters

A property filter compares a card property with a value: its name, a comparator and the value as
it was typed.  This module reads filters from expressions and writes them.

Main results:

- `written_of_read` says that a filter that was read is written as the expression it was read
  from.
-/

namespace CardQuery

/-- A comparison of a card property with a value, the value as it was typed. -/
structure PropertyFilter where
  /-- The name of the property. -/
  property : Text
  /-- The comparison that is asked for. -/
  comparator : Comparator
  /-- The value to compare with. -/
  value : Text
deriving DecidableEq, Repr

/-- Why an expression is not a property filter. -/
inductive PropertyFault
  /-- There is no comparator. -/
  | noComparator
  /-- What stands before the comparator is no property name. -/
  | badName
  /-- Nothing stands after the comparator. -/
  | missingValue
  /-- The comparator is followed by one more character of a comparator. -/
  | unknownComparator (read : Comparator) (extra : Char)
  /-- The property is not one of the known ones. -/
  | unknownProperty (name : Text)
  /-- The value is not a number. -/
  | notNumeric
deriving DecidableEq, Repr

namespace PropertyFilter

/-! ## Names and values -/

/-- Whether a character can begin a property name. -/
def isNameStart (c : Char) : Bool :=
  decide ('A' ≤ c ∧ c ≤ 'Z') || decide ('a' ≤ c ∧ c ≤ 'z') || c == '_'

/-- Whether a text is a property name: an ASCII letter or an underscore, then letters, digits
and underscores. -/
def isName : Text → Bool
  | [] => false
  | c :: rest => isNameStart c && rest.all fun d => isNameStart d || Text.isDigit d

/-- Whether a text is one or more digits. -/
def isDigits (t : Text) : Bool := !t.isEmpty && t.all Text.isDigit

/-- Whether a text is a number: digits, optionally a minus sign in front, optionally a point
and more digits at the end. -/
def isNumber (t : Text) : Bool :=
  let unsigned := match t with
    | '-' :: rest => rest
    | _ => t
  let fraction := unsigned.dropWhile Text.isDigit
  isDigits (unsigned.takeWhile Text.isDigit) &&
    match fraction with
    | [] => true
    | c :: rest => c == '.' && isDigits rest

/-- The properties that the scheduler knows, in alphabetical order. -/
def knownProperties : List Text :=
  ["due".toList, "ease".toList, "ivl".toList, "lapses".toList, "pos".toList, "reps".toList]

/-! ## Reading and writing -/

/-- How a filter is written. -/
def written (f : PropertyFilter) : Text := f.property ++ f.comparator.symbol ++ f.value

/-- A filter with the complementary comparator. -/
def complement (f : PropertyFilter) : PropertyFilter :=
  { f with comparator := f.comparator.complement }

/-- What a strict reading asks of a filter beyond its form: a known property and a numeric
value. -/
def check (f : PropertyFilter) : Except PropertyFault Unit :=
  if f.property ∉ knownProperties then .error (.unknownProperty f.property)
  else if !isNumber f.value then .error .notNumeric
  else .ok ()

/-- The filter that an expression is the written form of. -/
def readLenient (expression : Text) : Except PropertyFault PropertyFilter :=
  match Comparator.split? expression with
  | none => .error .noComparator
  | some (name, comparator, value) =>
    if !isName name then .error .badName
    else
      match value with
      | [] => .error .missingValue
      | c :: _ =>
        if Comparator.isMark c then .error (.unknownComparator comparator c)
        else .ok ⟨name, comparator, value⟩

/-- The filter that an expression is the written form of, checked if the reading is strict. -/
def read (strict : Bool) (expression : Text) : Except PropertyFault PropertyFilter :=
  match readLenient expression with
  | .error fault => .error fault
  | .ok filter => if strict then (filter.check).map fun _ => filter else .ok filter

/-- A filter that was read is written as the expression it was read from. -/
theorem written_of_read {strict : Bool} {expression : Text} {f : PropertyFilter}
    (h : read strict expression = .ok f) : f.written = expression := by
  have hlenient : readLenient expression = .ok f := by
    unfold read at h
    split at h
    next => cases h
    next filter hread =>
      cases strict with
      | false => simpa [hread] using h
      | true =>
        rw [if_pos rfl] at h
        cases hcheck : filter.check with
        | error fault =>
          rw [hcheck] at h
          cases h
        | ok u =>
          rw [hcheck] at h
          cases h
          exact hread
  unfold readLenient at hlenient
  split at hlenient
  next => cases hlenient
  next name comparator value hsplit =>
    split at hlenient
    next => cases hlenient
    next =>
      split at hlenient
      next => cases hlenient
      next c rest =>
        split at hlenient
        next => cases hlenient
        next =>
          cases hlenient
          exact (Comparator.written_of_split? hsplit).symm

end PropertyFilter

namespace PropertyFault

/-- The wording of a fault in a property filter. -/
def message : PropertyFault → Text
  | noComparator => "no comparison operator".toList
  | badName => "missing or invalid property name".toList
  | missingValue => "missing value".toList
  | unknownComparator read extra =>
    "unrecognized operator '".toList ++ read.symbol ++ [extra, '\'']
  | unknownProperty name =>
    "unknown property '".toList ++ name ++ "' (valid: ".toList ++
      List.intercalate ", ".toList PropertyFilter.knownProperties ++ [')']
  | notNumeric => "value must be numeric".toList

end PropertyFault

end CardQuery
