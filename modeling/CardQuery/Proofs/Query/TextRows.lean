import CardQuery.Proofs.Markup.Injective
import CardQuery.Proofs.Query.RowTags

/-!
# Rows of text searches told apart

The row of a text search is put together from a negation, the field, the text as a literal and a
label, of which the first two may be missing.  A field and a text may hold copies of what stands
around them, but the row can still be taken apart from both ends: the negation and the field are
told from the literal by the character they begin with, the field ends at its tag, and the label
begins behind the last opening parenthesis.

Main results:

- `labelFlags_label` says that the flags of a text search are read from its label.
- `scope_append_inj` and `labelled_inj` take a row apart.
- `describe_inj` says that different text searches have different rows.
-/

namespace CardQuery

open Markup

/-- A text is cut in one way only where a character stands last in it. -/
theorem Text.append_cons_inj {c : Char} {a a' b b' : Text} (hb : c ∉ b) (hb' : c ∉ b')
    (h : a ++ c :: b = a' ++ c :: b') : a = a' ∧ b = b' := by
  have hnil : ∀ {more u v : Text}, c ∉ u → c :: u = more ++ c :: v → more = [] := by
    intro more u v hu heq
    cases more with
    | nil => rfl
    | cons d more =>
      rw [(List.cons.inj heq).2] at hu
      exact absurd (by simp) hu
  have hsame : a = a' := by
    rcases List.append_eq_append_iff.1 h with ⟨more, ha, heq⟩ | ⟨more, ha, heq⟩
    · rw [ha, hnil hb heq, List.append_nil]
    · rw [ha, hnil hb' heq, List.append_nil]
  rw [hsame] at h
  exact ⟨hsame, (List.cons.inj (List.append_cancel_left h)).2⟩

namespace TextSearch

/-! ## Labels -/

/-- What is asked of a text beyond being found, in the order of the labels. -/
def flags (s : TextSearch) : List Bool :=
  [s.isExact, s.isWildcard, s.isRegex, s.isNoCombining, s.isWordBoundary]

/-- What a label says. -/
def labelFlags (label : Text) : List Bool :=
  ["exact", "wildcard", "regex", "no-combining", "word"].map fun word =>
    Text.contains word.toList label

/-- What holds of the label for all flags holds of every label. -/
theorem label_of_flags (P : Text → List Bool → Prop)
    (h : ∀ isExact isWildcard isRegex isNoCombining isWordBoundary : Bool,
      P (label ⟨[], [], isExact, isWildcard, isRegex, isNoCombining, isWordBoundary, false⟩)
        [isExact, isWildcard, isRegex, isNoCombining, isWordBoundary]) (s : TextSearch) :
    P s.label s.flags :=
  h s.isExact s.isWildcard s.isRegex s.isNoCombining s.isWordBoundary

/-- The flags of a text search are read from its label. -/
theorem labelFlags_label (s : TextSearch) : labelFlags s.label = s.flags :=
  label_of_flags (fun label flags => labelFlags label = flags) (by decide) s

/-- No label has a parenthesis. -/
theorem not_mem_label (s : TextSearch) : '(' ∉ s.label :=
  label_of_flags (fun label _ => '(' ∉ label) (by decide) s

/-! ## Literals with labels -/

/-- The text of a search as a literal, and the label behind it. -/
def labelled (s : TextSearch) : Text :=
  escape s.text.literal ++ " (".toList ++ s.label ++ [')']

/-- The text and the flags are told by the literal and the label. -/
theorem labelled_inj {s s' : TextSearch} (h : s.labelled = s'.labelled) :
    s.text = s'.text ∧ s.flags = s'.flags := by
  have hbehind : ∀ s : TextSearch, '(' ∉ s.label ++ [')'] := by
    intro s
    simpa using s.not_mem_label
  have hsplit : ∀ s : TextSearch,
      s.labelled = (escape s.text.literal ++ [' ']) ++ '(' :: (s.label ++ [')']) := by
    intro s
    simp [labelled]
  rw [hsplit, hsplit] at h
  obtain ⟨hliteral, hlabel⟩ := Text.append_cons_inj (hbehind s) (hbehind s') h
  constructor
  · exact escape_literal_inj.1 (List.append_cancel_right hliteral)
  · rw [← labelFlags_label, ← labelFlags_label, List.append_cancel_right hlabel]

/-- A literal begins with its quote, and so with no tag. -/
theorem exists_labelled_cons (s : TextSearch) : ∃ c rest, s.labelled = c :: rest ∧ c ≠ '[' := by
  obtain ⟨rest, hliteral⟩ := exists_escape_literal s.text
  refine ⟨Text.quoteFor s.text, rest ++ " (".toList ++ s.label ++ [')'], ?_, ?_⟩
  · rw [labelled, hliteral]
    rfl
  · rcases Text.quoteFor_cases s.text with h | h <;> rw [h] <;> decide

/-! ## Fields in front of literals -/

theorem scope_of_nil {s : TextSearch} (h : s.field = []) : s.scope = [] := by rw [scope, h]

theorem scope_of_ne_nil {s : TextSearch} (h : s.field ≠ []) :
    s.scope = "[modifier]".toList ++ escape s.field ++ ":[/modifier] ".toList := by
  unfold scope
  split
  next hnil => exact absurd hnil h
  next => rfl

/-- A field stands in a tag of its own, which no literal begins with. -/
theorem scope_append_ne {s s' : TextSearch} (h : s.field = []) (h' : s'.field ≠ []) :
    s.scope ++ s.labelled ≠ s'.scope ++ s'.labelled := by
  obtain ⟨c, rest, hrest, hc⟩ := s.exists_labelled_cons
  rw [scope_of_nil h, scope_of_ne_nil h', hrest]
  exact fun heq => hc (List.cons.inj heq).1

/-- The field is told from what stands behind it. -/
theorem scope_append_inj {s s' : TextSearch} (hs : s.field.getLast? ≠ some '\\')
    (hs' : s'.field.getLast? ≠ some '\\')
    (h : s.scope ++ s.labelled = s'.scope ++ s'.labelled) :
    s.field = s'.field ∧ s.labelled = s'.labelled := by
  by_cases hnil : s.field = []
  · by_cases hnil' : s'.field = []
    · rw [scope_of_nil hnil, scope_of_nil hnil'] at h
      exact ⟨hnil.trans hnil'.symm, h⟩
    · exact absurd h (scope_append_ne hnil hnil')
  · by_cases hnil' : s'.field = []
    · exact absurd h.symm (scope_append_ne hnil' hnil)
    · -- Behind the field stand a colon and the end of its tag, which the field does not hold.
      rw [scope_of_ne_nil hnil, scope_of_ne_nil hnil'] at h
      simp only [List.append_assoc] at h
      obtain ⟨hfield, hlabelled⟩ := escape_append_tag_inj
        (by decide : Inner "/modifier".toList) (by decide : ':' ≠ '\\') (by decide)
        (List.append_cancel_left h)
      exact ⟨(escape_inj hs hs').1 hfield, (List.cons.inj hlabelled).2⟩

/-! ## Rows -/

theorem describe_eq_signed (s : TextSearch) :
    s.describe = Row.signed s.isNegated (s.scope ++ s.labelled) := by
  simp [describe, labelled]

/-- What is not negated does not begin with a negation. -/
theorem scope_append_ne_negation (s : TextSearch) (rest : Text) :
    s.scope ++ s.labelled ≠ Row.negation ++ rest := by
  intro h
  by_cases hnil : s.field = []
  · obtain ⟨c, more, hmore, hc⟩ := s.exists_labelled_cons
    rw [scope_of_nil hnil, hmore] at h
    exact hc (List.cons.inj h).1
  · rw [scope_of_ne_nil hnil] at h
    have hsecond : 'm' = 'n' := (List.cons.inj (List.cons.inj h).2).1
    exact absurd hsecond (by decide)

/-- Whether a search is negated is told by the negation in front. -/
theorem signed_inj {s s' : TextSearch} (h : s.describe = s'.describe) :
    s.isNegated = s'.isNegated ∧ s.scope ++ s.labelled = s'.scope ++ s'.labelled := by
  rw [describe_eq_signed, describe_eq_signed] at h
  cases hs : s.isNegated with
  | true =>
    cases hs' : s'.isNegated with
    | true =>
      rw [hs, hs'] at h
      exact ⟨rfl, List.append_cancel_left h⟩
    | false =>
      rw [hs, hs'] at h
      exact absurd h.symm (s'.scope_append_ne_negation _)
  | false =>
    cases hs' : s'.isNegated with
    | true =>
      rw [hs, hs'] at h
      exact absurd h (s.scope_append_ne_negation _)
    | false =>
      rw [hs, hs'] at h
      exact ⟨rfl, h⟩

/-- Different text searches have different rows, unless their fields end in backslashes: the text,
the field and the flags can be told from the row. -/
theorem describe_inj {s s' : TextSearch} (hs : s.field.getLast? ≠ some '\\')
    (hs' : s'.field.getLast? ≠ some '\\') : s.describe = s'.describe ↔ s = s' := by
  refine ⟨fun h => ?_, congrArg describe⟩
  obtain ⟨hnegated, hscope⟩ := signed_inj h
  obtain ⟨hfield, hlabelled⟩ := scope_append_inj hs hs' hscope
  obtain ⟨htext, hflags⟩ := labelled_inj hlabelled
  cases s
  cases s'
  simp_all [flags]

/-- A field and a text with copies of what stands around them are told apart. -/
theorem describe_inj_copies :
    let s : TextSearch := { text := "b' (exact)".toList, field := "a:[/modifier] 'b".toList }
    let s' : TextSearch := { text := "b:[/modifier] 'b' (exact)".toList, field := "a".toList }
    s.field.getLast? ≠ some '\\' ∧ s'.field.getLast? ≠ some '\\' ∧ s.describe ≠ s'.describe := by
  intro s s'
  have hs : s.field.getLast? ≠ some '\\' := by decide
  have hs' : s'.field.getLast? ≠ some '\\' := by decide
  exact ⟨hs, hs', fun h => absurd ((describe_inj hs hs').1 h) (by decide)⟩

/-- One backslash at the end of a field and two of them make the same row. -/
example : describe { text := ['x'], field := "a\\".toList } =
    describe { text := ['x'], field := "a\\\\".toList } := by decide

end TextSearch

end CardQuery
