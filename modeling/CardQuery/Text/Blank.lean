import CardQuery.Text

/-!
# Blanks

The characters that separate clauses, and the removal of blanks at both ends of a text.

Main results:

- `isBlank_of_isWhitespace` says that the usual six blanks of plain text are among them.
- `strip_eq_nil_iff` says that stripping leaves nothing exactly of a text of blanks.
-/

namespace CardQuery

namespace Text

/-- Whether a character separates words: the white space characters of Unicode together with
the four separators of the control block. -/
def isBlank (c : Char) : Bool :=
  let n := c.toNat
  (0x09 ≤ n && n ≤ 0x0D) || (0x1C ≤ n && n ≤ 0x20) || n == 0x85 || n == 0xA0 || n == 0x1680 ||
    (0x2000 ≤ n && n ≤ 0x200A) || n == 0x2028 || n == 0x2029 || n == 0x202F || n == 0x205F ||
    n == 0x3000

/-- The blanks of plain text are blanks here too. -/
theorem isBlank_of_isWhitespace {c : Char} (h : c.isWhitespace = true) : isBlank c = true := by
  simp only [Char.isWhitespace, Bool.or_eq_true, decide_eq_true_eq] at h
  rcases h with ((rfl | rfl) | rfl) | rfl <;> decide

/-- A text without the blanks at its end. -/
def stripEnd : Text → Text
  | [] => []
  | c :: t =>
    match stripEnd t with
    | [] => if isBlank c then [] else [c]
    | kept => c :: kept

/-- A text without the blanks at its two ends. -/
def strip (t : Text) : Text := stripEnd (t.dropWhile isBlank)

/-- Without its last blanks a text keeps the order of its characters. -/
theorem stripEnd_sublist (t : Text) : (stripEnd t).Sublist t := by
  induction t with
  | nil => exact List.Sublist.refl _
  | cons c t ih =>
    simp only [stripEnd]
    split
    next =>
      split
      next => exact List.nil_sublist _
      next => exact List.Sublist.cons_cons c (List.nil_sublist t)
    next => exact List.Sublist.cons_cons c ih

/-- A stripped text keeps the order of its characters. -/
theorem strip_sublist (t : Text) : (strip t).Sublist t :=
  (stripEnd_sublist _).trans (List.dropWhile_sublist isBlank)

/-- Nothing is left of a text without its last blanks exactly when it is blank throughout. -/
theorem stripEnd_eq_nil_iff {t : Text} : stripEnd t = [] ↔ ∀ c ∈ t, isBlank c = true := by
  induction t with
  | nil => simp [stripEnd]
  | cons c t ih =>
    simp only [stripEnd, List.mem_cons, forall_eq_or_imp, ← ih]
    split
    next h => by_cases hc : isBlank c <;> simp [h, hc]
    next h => exact ⟨nofun, fun both => (h both.2).elim⟩

/-- Nothing is left of a stripped text exactly when it is blank throughout. -/
theorem strip_eq_nil_iff {t : Text} : strip t = [] ↔ ∀ c ∈ t, isBlank c = true := by
  induction t with
  | nil => simp [strip, stripEnd]
  | cons c t ih =>
    by_cases hc : isBlank c
    · simpa [strip, List.dropWhile_cons, hc] using ih
    · simp [strip, hc, stripEnd_eq_nil_iff]

end Text

end CardQuery
