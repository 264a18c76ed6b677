import CardQuery.Text

/-!
# Sixteen bit units

A character beyond the first 65536 is a pair of surrogate units in a form of text that counts in
units of sixteen bits; every other character is one unit.

Main results:

- `ofUnits?_units` says that a text is read back from its units.
-/

namespace CardQuery

namespace Text

/-- The sixteen bit units of a character. -/
def charUnits (c : Char) : List Nat :=
  let n := c.toNat
  if n < 0x10000 then [n]
  else [0xD800 + (n - 0x10000) / 0x400, 0xDC00 + (n - 0x10000) % 0x400]

/-- The sixteen bit units of a text. -/
def units (t : Text) : List Nat := t.flatMap charUnits

/-- The text with the given units, if every surrogate is half of a pair. -/
def ofUnits? : List Nat → Option Text
  | [] => some []
  | u :: rest =>
    if u < 0xD800 ∨ (0xE000 ≤ u ∧ u < 0x110000) then (ofUnits? rest).map (Char.ofNat u :: ·)
    else if 0xDC00 ≤ u then none
    else
      match rest with
      | [] => none
      | v :: later =>
        if 0xDC00 ≤ v ∧ v < 0xE000 then
          (ofUnits? later).map
            (Char.ofNat (0x10000 + (u - 0xD800) * 0x400 + (v - 0xDC00)) :: ·)
        else none

/-- The number of a character is not that of a surrogate. -/
theorem toNat_scalar (c : Char) :
    c.toNat < 0xD800 ∨ (0xE000 ≤ c.toNat ∧ c.toNat < 0x110000) := by
  have h := c.valid
  simp only [UInt32.isValidChar, Nat.isValidChar] at h
  simp only [Char.toNat]
  omega

/-- A character is read back from its units. -/
theorem ofUnits?_charUnits (c : Char) (rest : List Nat) :
    ofUnits? (charUnits c ++ rest) = (ofUnits? rest).map (c :: ·) := by
  have hscalar := toNat_scalar c
  by_cases h : c.toNat < 0x10000
  · have hone : charUnits c = [c.toNat] := by simp [charUnits, h]
    rw [hone, List.singleton_append, ofUnits?.eq_def]
    simp only
    rw [if_pos (by omega), Char.ofNat_toNat]
  · have htwo : charUnits c =
        [0xD800 + (c.toNat - 0x10000) / 0x400, 0xDC00 + (c.toNat - 0x10000) % 0x400] := by
      simp [charUnits, h]
    have hnumber : 0x10000 + (0xD800 + (c.toNat - 0x10000) / 0x400 - 0xD800) * 0x400 +
        (0xDC00 + (c.toNat - 0x10000) % 0x400 - 0xDC00) = c.toNat := by omega
    rw [htwo, List.cons_append, List.singleton_append, ofUnits?.eq_def]
    simp only
    rw [if_neg (by omega), if_neg (by omega), if_pos (by omega), hnumber, Char.ofNat_toNat]

/-- A text is read back from its units. -/
theorem ofUnits?_units (t : Text) : ofUnits? (units t) = some t := by
  induction t with
  | nil => rfl
  | cons c t ih =>
    have hcons : units (c :: t) = charUnits c ++ units t := rfl
    rw [hcons, ofUnits?_charUnits, ih]
    rfl

end Text

end CardQuery
