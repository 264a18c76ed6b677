import CardQuery.Text

/-!
# Ranges of characters

Classes of characters as lists of ranges of code points.

Main results:

- `inRanges_iff` says that a character belongs to a class exactly when it lies in one of its ranges.
-/

namespace CardQuery

namespace Text

/-- Whether a character lies in one of some ranges of code points, their ends included. -/
def inRanges (ranges : List (Nat × Nat)) (c : Char) : Bool :=
  ranges.any fun range => range.1 ≤ c.toNat && c.toNat ≤ range.2

/-- A character belongs to a class exactly when it lies in one of its ranges. -/
theorem inRanges_iff {ranges : List (Nat × Nat)} {c : Char} :
    inRanges ranges c = true ↔ ∃ range ∈ ranges, range.1 ≤ c.toNat ∧ c.toNat ≤ range.2 := by
  simp [inRanges]

end Text

end CardQuery
