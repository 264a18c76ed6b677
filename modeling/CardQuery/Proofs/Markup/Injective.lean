import CardQuery.Proofs.Markup.Displayed
import CardQuery.Proofs.Text.Literal

/-!
# Telling escaped texts apart

Different texts are escaped differently, unless they end in backslashes: one backslash at the end is
escaped as two are.  In front of a tag an escaped text ends where the first such tag begins, since
it has none itself.

Main results:

- `protect_injective` says that different texts are protected differently.
- `escape_inj` says that texts that do not end in a backslash are escaped differently.
- `escape_literal_inj` says that different texts have literals that are escaped differently.
- `escape_append_tag_inj` says that the end of an escaped text is told by the tag behind it.
-/

namespace CardQuery

namespace Markup

/-! ## Protected texts -/

/-- The backslash in front of a tag is told from one of the text itself by the tag behind it. -/
theorem protect_cons_ne {c d : Char} {t u : Text} (hleads : leadsToTag (c :: t) = true)
    (hnot : leadsToTag (d :: u) = false) : protect (c :: t) ≠ protect (d :: u) := by
  rw [protect_cons_of_leads hleads, protect_cons_of_not_leads hnot]
  intro h
  obtain ⟨rfl, hrest⟩ := List.cons.inj h
  rw [leadsToTag_slash] at hnot
  have hbehind := leadsToTag_protect hleads
  rw [protect_cons_of_leads hleads, leadsToTag_slash, hrest,
    leadsToTag_protect_eq_false hnot] at hbehind
  cases hbehind

/-- Different texts are protected differently. -/
theorem protect_injective : Function.Injective protect := by
  intro t u h
  induction t generalizing u with
  | nil =>
    cases u with
    | nil => rfl
    | cons d u =>
      have hle := length_le_length_protect (d :: u)
      rw [← h] at hle
      exact absurd hle (by simp)
  | cons c t ih =>
    cases u with
    | nil =>
      have hle := length_le_length_protect (c :: t)
      rw [h] at hle
      exact absurd hle (by simp)
    | cons d u =>
      cases hleads : leadsToTag (c :: t) with
      | true =>
        cases hleads' : leadsToTag (d :: u) with
        | true =>
          rw [protect_cons_of_leads hleads, protect_cons_of_leads hleads'] at h
          obtain ⟨rfl, hrest⟩ := List.cons.inj (List.cons.inj h).2
          rw [ih hrest]
        | false => exact absurd h (protect_cons_ne hleads hleads')
      | false =>
        cases hleads' : leadsToTag (d :: u) with
        | true => exact absurd h.symm (protect_cons_ne hleads' hleads)
        | false =>
          rw [protect_cons_of_not_leads hleads, protect_cons_of_not_leads hleads'] at h
          obtain ⟨rfl, hrest⟩ := List.cons.inj h
          rw [ih hrest]

/-! ## Escaped texts -/

/-- A text that does not end in a backslash is escaped by being protected. -/
theorem escape_eq_protect {t : Text} (h : t.getLast? ≠ some '\\') : escape t = protect t := by
  have hlone : endsInLoneSlash (protect t) = false := by
    rw [endsInLoneSlash_protect, ← Bool.not_eq_true, endsInLoneSlash_iff]
    rintro ⟨u, rfl, -⟩
    exact h List.getLast?_concat
  simp only [escape, hlone, Bool.false_eq_true, if_false]

/-- Texts that do not end in a backslash are escaped differently. -/
theorem escape_inj {t u : Text} (ht : t.getLast? ≠ some '\\') (hu : u.getLast? ≠ some '\\') :
    escape t = escape u ↔ t = u := by
  rw [escape_eq_protect ht, escape_eq_protect hu]
  exact protect_injective.eq_iff

/-- A character that can neither protect a tag nor begin one stays in front. -/
theorem exists_escape_cons {c : Char} (hslash : c ≠ '\\') (hopen : c ≠ '[') (t : Text) :
    ∃ rest, escape (c :: t) = c :: rest := by
  have hleads : leadsToTag (c :: t) = false := by
    rw [leadsToTag_of_ne hslash, tag?_of_ne hopen]
    rfl
  rcases escape_eq (c :: t) with h | h
  · exact ⟨protect t, by rw [h, protect_cons_of_not_leads hleads]⟩
  · exact ⟨protect t ++ ['\\'], by rw [h, protect_cons_of_not_leads hleads, List.cons_append]⟩

/-! ## Escaped literals -/

/-- An escaped literal begins with its quote. -/
theorem exists_escape_literal (t : Text) : ∃ rest, escape t.literal = Text.quoteFor t :: rest := by
  have hquote : Text.quoteFor t ≠ '\\' ∧ Text.quoteFor t ≠ '[' := by
    rcases Text.quoteFor_cases t with h | h <;> rw [h] <;> decide
  exact exists_escape_cons hquote.1 hquote.2 _

/-- Different texts have literals that are escaped differently. -/
theorem escape_literal_inj {t u : Text} : escape t.literal = escape u.literal ↔ t = u := by
  have hlast : ∀ t : Text, t.literal.getLast? ≠ some '\\' := by
    intro t
    rw [Text.getLast?_literal]
    rcases Text.quoteFor_cases t with h | h <;> rw [h] <;> decide
  rw [escape_inj (hlast t) (hlast u)]
  exact Text.literal_injective.eq_iff

/-! ## Escaped texts in front of a tag -/

section

variable {c : Char} {inner : Text} (hinner : Inner inner) (hslash : c ≠ '\\')
  (hapart : c ∉ '[' :: (inner ++ [']']))
include hinner hslash hapart

/-- An escaped text does not go on behind a place where a tag begins that stands behind it. -/
theorem eq_nil_of_escape_append {u before rest after after' : Text}
    (hu : escape u = before ++ rest)
    (h : c :: '[' :: (inner ++ [']']) ++ after = rest ++ (c :: '[' :: (inner ++ [']']) ++ after')) :
    rest = [] := by
  have hnone : ∀ more, escape u ≠ before ++ c :: ('[' :: (inner ++ [']']) ++ more) := by
    intro more hu
    have heven : Even (slashes (before ++ [c])) := by simp [slashes, hslash]
    exact not_activeTag_escape u inner ⟨before ++ [c], more, by simp [hu], heven, hinner⟩
  cases rest with
  | nil => rfl
  | cons d rest =>
    obtain ⟨rfl, htag⟩ := List.cons.inj h
    rcases List.append_eq_append_iff.1 htag with ⟨more, rfl, -⟩ | ⟨more, hrest, hmore⟩
    · exact absurd hu (hnone more)
    · -- The tag would end within the tag behind it, and `c` would stand in a tag.
      cases more with
      | nil =>
        rw [List.append_nil] at hrest
        exact absurd hu (by simpa [hrest] using hnone [])
      | cons e more =>
        obtain ⟨rfl, -⟩ := List.cons.inj hmore
        exact absurd (by rw [hrest]; simp) hapart

/-- The end of an escaped text is told by the tag behind it. -/
theorem escape_append_tag_inj {t u after after' : Text}
    (h : escape t ++ (c :: '[' :: (inner ++ [']']) ++ after) =
      escape u ++ (c :: '[' :: (inner ++ [']']) ++ after')) :
    escape t = escape u ∧ after = after' := by
  have hsame : escape t = escape u := by
    rcases List.append_eq_append_iff.1 h with ⟨more, hu, hmore⟩ | ⟨more, ht, hmore⟩
    · rw [hu, eq_nil_of_escape_append hinner hslash hapart hu hmore, List.append_nil]
    · rw [ht, eq_nil_of_escape_append hinner hslash hapart ht hmore, List.append_nil]
  rw [hsame] at h
  exact ⟨hsame, List.append_cancel_left (List.append_cancel_left h)⟩

end

end Markup

end CardQuery
