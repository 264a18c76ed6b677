import CardQuery.Json
import CardQuery.Text.Literal
import CardQuery.Text.Units

/-!
# Writing JSON

A value is written over several lines: two spaces for each level, one item or member to a line,
nothing inside an empty array or object.  Everything that is not a printable ASCII character is
written by its sixteen bit units.  A value with an integer that cannot be written has no document.

Main results:

- `document?_eq_some_iff` says which values have a document.
- `writeString_of_plain` says that printable ASCII without quotes and backslashes is written
  between double quotes as it is.
-/

namespace CardQuery

namespace Json

/-- How a character is written between double quotes. -/
def writeChar (c : Char) : Text :=
  if c = '"' ∨ c = '\\' then ['\\', c]
  else if 0x20 ≤ c.toNat ∧ c.toNat < 0x7F then [c]
  else if c = '\n' then ['\\', 'n']
  else if c = '\r' then ['\\', 'r']
  else if c = '\t' then ['\\', 't']
  else if c.toNat = 0x08 then ['\\', 'b']
  else if c.toNat = 0x0C then ['\\', 'f']
  else (Text.charUnits c).flatMap fun u => '\\' :: 'u' :: Text.hexadecimal 4 u

/-- How a text is written. -/
def writeString (t : Text) : Text := '"' :: t.flatMap writeChar ++ ['"']

/-- A new line with the indentation of a level. -/
def lineBreak (level : Nat) : Text := '\n' :: List.replicate (2 * level) ' '

mutual

/-- How a value is written at a level of indentation. -/
def write (level : Nat) : Json → Text
  | null => "null".toList
  | bool value => if value then "true".toList else "false".toList
  | integer value => Text.ofInt value
  | decimal numeral => numeral
  | string value => writeString value
  | array [] => ['[', ']']
  | array (v :: rest) =>
    '[' :: lineBreak (level + 1) ++ write (level + 1) v ++ writeItems (level + 1) rest ++
      lineBreak level ++ [']']
  | object [] => ['\x7b', '\x7d']
  | object ((name, v) :: rest) =>
    '\x7b' :: lineBreak (level + 1) ++ writeString name ++ [':', ' '] ++ write (level + 1) v ++
      writeMembers (level + 1) rest ++ lineBreak level ++ ['\x7d']

/-- How the items after the first are written. -/
def writeItems (level : Nat) : List Json → Text
  | [] => []
  | v :: rest => ',' :: lineBreak level ++ write level v ++ writeItems level rest

/-- How the members after the first are written. -/
def writeMembers (level : Nat) : List (Text × Json) → Text
  | [] => []
  | (name, v) :: rest =>
    ',' :: lineBreak level ++ writeString name ++ [':', ' '] ++ write level v ++
      writeMembers level rest

end

/-- The document of a value whose integers can be written. -/
def document (v : Json) : Text := write 0 v

mutual

/-- The integers in a value, in the order in which they are written. -/
def integers : Json → List Int
  | integer value => [value]
  | array items => integersOfItems items
  | object members => integersOfMembers members
  | null | bool _ | decimal _ | string _ => []

/-- The integers in items. -/
def integersOfItems : List Json → List Int
  | [] => []
  | v :: rest => integers v ++ integersOfItems rest

/-- The integers in members. -/
def integersOfMembers : List (Text × Json) → List Int
  | [] => []
  | (_, v) :: rest => integers v ++ integersOfMembers rest

end

theorem integersOfItems_eq (items : List Json) :
    integersOfItems items = items.flatMap integers := by
  induction items with
  | nil => rfl
  | cons v rest ih => rw [integersOfItems, ih, List.flatMap_cons]

theorem integersOfMembers_eq (members : List (Text × Json)) :
    integersOfMembers members = members.flatMap fun m => integers m.2 := by
  induction members with
  | nil => rfl
  | cons m rest ih => rw [integersOfMembers, ih, List.flatMap_cons]

/-- The document of a value, if its integers can be written. -/
def document? (v : Json) : Option Text :=
  if ∀ n ∈ v.integers, Text.HasNumeral n then some v.document else none

theorem document?_eq_some_iff {v : Json} {t : Text} :
    v.document? = some t ↔ (∀ n ∈ v.integers, Text.HasNumeral n) ∧ v.document = t := by
  simp [document?]

/-- Printable ASCII without quotes and backslashes is written as it is. -/
theorem writeString_of_plain {t : Text}
    (h : ∀ c ∈ t, 0x20 ≤ c.toNat ∧ c.toNat < 0x7F ∧ c ≠ '"' ∧ c ≠ '\\') :
    writeString t = '"' :: t ++ ['"'] := by
  have hbody : t.flatMap writeChar = t := by
    induction t with
    | nil => rfl
    | cons c t ih =>
      obtain ⟨hlow, hhigh, hquote, hslash⟩ := h c (by simp)
      have ht := ih fun d hd => h d (by simp [hd])
      simp [writeChar, hlow, hhigh, hquote, hslash, ht]
  rw [writeString, hbody]

end Json

end CardQuery
