import CardQuery.Proofs.Region.Quoting
import CardQuery.Clause.Meaning

/-!
# Modifiers of a search

The modifiers in front of a text to search for, how they are written, and what is left of the text
behind them.

Main results:

- `read_lead` says that modifiers are read back from the way they are written.
- `exists_lead_of_read` says that nothing but a beginning without quotes is read as modifiers.
- `marked_of_marks` says that a marked text has a modifier or is a regular expression.
-/

namespace CardQuery

namespace Modifiers

/-! ## Writing and reading back -/

/-- How modifiers are written. -/
def lead (m : Modifiers) : Text :=
  (if m.noCombining then noCombiningMark else []) ++ if m.wordBoundary then wordMark else []

/-- Modifiers hold neither quotes nor blanks. -/
theorem lead_plain (m : Modifiers) : m.lead.Plain := by
  rcases m with ⟨noCombining, wordBoundary⟩
  cases noCombining <;> cases wordBoundary <;> decide

/-- A text that does not begin with a modifier. -/
structure Bare (text : Text) : Prop where
  noCombining : Text.after? noCombiningMark text = none
  wordBoundary : Text.after? wordMark text = none

theorem read_of_bare (m : Modifiers) {text : Text} (h : Bare text) : m.read text = (m, text) := by
  rw [read]
  simp [h.noCombining, h.wordBoundary]

theorem read_noCombiningMark {m : Modifiers} (hm : m.noCombining = false) (text : Text) :
    m.read (noCombiningMark ++ text) = read { m with noCombining := true } text := by
  obtain ⟨_, wordBoundary⟩ := m
  obtain rfl := hm
  rw [read]
  simp

theorem read_wordMark {m : Modifiers} (hm : m.wordBoundary = false) (text : Text) :
    m.read (wordMark ++ text) = read { m with wordBoundary := true } text := by
  have hother : Text.after? noCombiningMark (wordMark ++ text) = none := by
    simp [noCombiningMark, wordMark, Text.after?]
  obtain ⟨noCombining, _⟩ := m
  obtain rfl := hm
  rw [read, hother]
  simp

/-- Modifiers are read back from the way they are written. -/
theorem read_lead (m : Modifiers) {text : Text} (h : Bare text) :
    read {} (m.lead ++ text) = (m, text) := by
  rcases m with ⟨noCombining, wordBoundary⟩
  cases noCombining with
  | false =>
    cases wordBoundary with
    | false => exact read_of_bare {} h
    | true =>
      rw [lead, if_neg (by decide), if_pos rfl, List.nil_append, read_wordMark rfl,
        read_of_bare _ h]
  | true =>
    cases wordBoundary with
    | false =>
      rw [lead, if_pos rfl, if_neg (by decide), List.append_nil, read_noCombiningMark rfl,
        read_of_bare _ h]
    | true =>
      rw [lead, if_pos rfl, if_pos rfl, List.append_assoc, read_noCombiningMark rfl,
        read_wordMark rfl, read_of_bare _ h]

theorem bare_quote (t : Text) : Bare ('"' :: t) := by
  constructor <;> simp [noCombiningMark, wordMark, Text.after?]

theorem bare_regexMark (t : Text) : Bare (regexMark ++ t) := by
  constructor <;> simp [noCombiningMark, wordMark, regexMark, Text.after?]

/-! ## What is left behind modifiers -/

/-- What is read as modifiers is a beginning without quotes and blanks. -/
theorem exists_lead_of_read (m : Modifiers) (text : Text) :
    ∃ before, text = before ++ (m.read text).2 ∧ before.Plain := by
  fun_induction read m text with
  | case1 m text rest _ hafter ih =>
    rcases ih with ⟨before, hrest, hbefore⟩
    have hmark : noCombiningMark.Plain := by decide
    refine ⟨noCombiningMark ++ before, ?_, hmark.append hbefore⟩
    rw [List.append_assoc, ← hrest]
    exact Text.after?_eq_some_iff.1 hafter
  | case2 m text rest _ hafter _ ih =>
    rcases ih with ⟨before, hrest, hbefore⟩
    have hmark : wordMark.Plain := by decide
    refine ⟨wordMark ++ before, ?_, hmark.append hbefore⟩
    rw [List.append_assoc, ← hrest]
    exact Text.after?_eq_some_iff.1 hafter
  | case3 m text _ _ => exact ⟨[], rfl, Text.plain_nil⟩

/-- Modifiers that are set stay set. -/
theorem set_of_read (m : Modifiers) (text : Text) :
    (m.noCombining = true → (m.read text).1.noCombining = true) ∧
      (m.wordBoundary = true → (m.read text).1.wordBoundary = true) := by
  fun_induction read m text with
  | case1 m text rest _ _ ih => exact ⟨fun _ => ih.1 rfl, ih.2⟩
  | case2 m text rest _ _ _ ih => exact ⟨ih.1, fun _ => ih.2 rfl⟩
  | case3 m text _ _ => exact ⟨id, id⟩

/-- A marked text has a modifier or is a regular expression. -/
theorem marked_of_marks {text : Text} (h : marks text = true) :
    (∃ pattern, Text.after? regexMark (read {} text).2 = some pattern) ∨
      (read {} text).1.noCombining = true ∨ (read {} text).1.wordBoundary = true := by
  simp only [marks, Bool.or_eq_true, Text.begins, Option.isSome_iff_exists,
    Text.after?_eq_some_iff] at h
  rcases h with (⟨pattern, rfl⟩ | ⟨rest, rfl⟩) | ⟨rest, rfl⟩
  · rw [read_of_bare {} (bare_regexMark pattern)]
    exact Or.inl ⟨pattern, Text.after?_append _ _⟩
  · rw [read_noCombiningMark rfl]
    exact Or.inr (Or.inl ((set_of_read _ rest).1 rfl))
  · rw [read_wordMark rfl]
    exact Or.inr (Or.inr ((set_of_read _ rest).2 rfl))

end Modifiers

end CardQuery
