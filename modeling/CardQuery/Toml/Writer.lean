import CardQuery.Toml
import CardQuery.Text.Literal

/-!
# Writing TOML

Documents of sections whose entries are texts, whole numbers and truth values.  A text is written
as a basic string on one line.

Main results:

- `writeString_of_plain` says that a text without quotes, backslashes and controls is written
  between double quotes as it is.
-/

namespace CardQuery

namespace Toml

/-- A value that fits on one line. -/
inductive Scalar
  /-- A text. -/
  | string (value : Text)
  /-- A whole number. -/
  | integer (value : Int)
  /-- A truth value. -/
  | boolean (value : Bool)
deriving DecidableEq, Repr

/-- The value that a scalar is. -/
def Scalar.toValue : Scalar → Value
  | string value => .string value
  | integer value => .integer value
  | boolean value => .boolean value

/-- How a character is written in a basic string. -/
def writeChar (c : Char) : Text :=
  if c = '"' ∨ c = '\\' then ['\\', c]
  else if c = '\n' then ['\\', 'n']
  else if c = '\r' then ['\\', 'r']
  else if c.toNat = 0x08 then ['\\', 'b']
  else if c.toNat = 0x0C then ['\\', 'f']
  else if (c.toNat < 0x20 ∧ c ≠ '\t') ∨ c.toNat = 0x7F then
    '\\' :: 'u' :: Text.hexadecimal 4 c.toNat
  else [c]

/-- How a text is written. -/
def writeString (t : Text) : Text := '"' :: t.flatMap writeChar ++ ['"']

/-- How a scalar is written. -/
def Scalar.written : Scalar → Text
  | string value => writeString value
  | integer value => Text.ofInt value
  | boolean value => if value then "true".toList else "false".toList

/-- A section: its name and its entries in order. -/
structure Section where
  /-- The name of the section. -/
  name : Text
  /-- The names of the entries with their values. -/
  entries : List (Text × Scalar)
deriving DecidableEq, Repr

/-- How an entry is written. -/
def writeEntry (entry : Text × Scalar) : Text :=
  entry.1 ++ " = ".toList ++ entry.2.written ++ ['\n']

/-- How a section is written. -/
def Section.written (s : Section) : Text :=
  '[' :: s.name ++ [']', '\n'] ++ s.entries.flatMap writeEntry

/-- How sections are written: one after the other with an empty line between. -/
def writeSections (sections : List Section) : Text :=
  List.intercalate ['\n'] (sections.map Section.written)

/-- The table that sections stand for. -/
def sectionsToTable (sections : List Section) : List (Text × Value) :=
  sections.map fun s => (s.name, .table (s.entries.map fun entry => (entry.1, entry.2.toValue)))

/-- A text without quotes, backslashes and controls is written as it is. -/
theorem writeString_of_plain {t : Text}
    (h : ∀ c ∈ t, c ≠ '"' ∧ c ≠ '\\' ∧ 0x20 ≤ c.toNat ∧ c.toNat ≠ 0x7F) :
    writeString t = '"' :: t ++ ['"'] := by
  have hbody : t.flatMap writeChar = t := by
    induction t with
    | nil => rfl
    | cons c t ih =>
      obtain ⟨hquote, hslash, hlow, hdel⟩ := h c (by simp)
      have ht := ih fun d hd => h d (by simp [hd])
      have hfeed : c ≠ '\n' := by
        rintro rfl
        exact absurd hlow (by decide)
      have hreturn : c ≠ '\r' := by
        rintro rfl
        exact absurd hlow (by decide)
      have hback : c.toNat ≠ 0x08 := by omega
      have hform : c.toNat ≠ 0x0C := by omega
      have hcontrol : ¬c.toNat < 0x20 := by omega
      simp [writeChar, hquote, hslash, hfeed, hreturn, hback, hform, hcontrol, hdel, ht]
  rw [writeString, hbody]

end Toml

end CardQuery
