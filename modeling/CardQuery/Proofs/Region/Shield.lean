import CardQuery.Proofs.Region.Quoting

/-!
# Shielded texts

Every text can be written as the value of a clause without counting as quoted: each character
stands in a region of its own, except the backslash, which would protect the closing quote and so
stays outside of regions, where it has no meaning.  Two empty regions in front keep a text of one
character from counting as quoted, and the quote that the text begins with keeps anything in it
from being read as part of the language of queries.

Main results:

- `ofItems_shield` says that a shielded text can stand in a clause.
- `unquote_shield` says that a shielded text is read back as it was.
-/

namespace CardQuery

namespace Piece

/-- A character as a piece in which it has no meaning but itself. -/
def shield (c : Char) : Piece := if c = '\\' then .char c else .region (Region.escape [c])

theorem isItem_shield (c : Char) : (shield c).IsItem := by
  unfold shield
  split
  next hslash =>
    subst hslash
    exact .char (by decide) (by decide)
  next hslash =>
    by_cases hquote : c = '"'
    · subst hquote
      exact .region (.pair (by decide) .nil)
    · rw [Region.escape, if_neg hquote]
      exact .region (.single hquote hslash .nil)

theorem content_shield (c : Char) : (shield c).content = [c] := by
  unfold shield
  split
  next => rfl
  next => exact Region.unescape_escape [c]

theorem shield_ne_colon (c : Char) : shield c ≠ .char ':' := by
  unfold shield
  split
  next hslash =>
    subst hslash
    decide
  next => exact nofun

end Piece

namespace Text

/-- The pieces of a shielded text. -/
def shields (t : Text) : List Piece := .region [] :: .region [] :: t.map Piece.shield

/-- A text written so that it is read back as it is and does not count as quoted. -/
def shield (t : Text) : Text := Piece.writtenAll (shields t)

theorem isItem_of_mem_shields {t : Text} {p : Piece} (h : p ∈ shields t) : p.IsItem := by
  rcases List.mem_cons.1 h with rfl | h
  · exact .region .nil
  · rcases List.mem_cons.1 h with rfl | h
    · exact .region .nil
    · rcases List.mem_map.1 h with ⟨c, _, rfl⟩
      exact Piece.isItem_shield c

theorem proper_of_mem_shields {t : Text} {p : Piece} (h : p ∈ shields t) : p.Proper :=
  (isItem_of_mem_shields h).proper

/-- There is no colon outside of the regions of a shielded text. -/
theorem ne_colon_of_mem_shields {t : Text} {p : Piece} (h : p ∈ shields t) : p ≠ .char ':' := by
  rcases List.mem_cons.1 h with rfl | h
  · exact nofun
  · rcases List.mem_cons.1 h with rfl | h
    · exact nofun
    · rcases List.mem_map.1 h with ⟨c, _, rfl⟩
      exact Piece.shield_ne_colon c

/-- A shielded text can stand in a clause. -/
theorem ofItems_shield (t : Text) : (shield t).OfItems :=
  ⟨shields t, fun _ => isItem_of_mem_shields, rfl⟩

/-- A shielded text is read back as it was, and does not count as quoted. -/
theorem unquote_shield (t : Text) : (shield t).unquote = ⟨t, false⟩ := by
  have hproper : ∀ p ∈ shields t, p.Proper := fun _ => proper_of_mem_shields
  have htext : (shield t).unquote.text = t := by
    rw [shield, unquote_text_writtenAll hproper, shields, List.flatMap_cons, List.flatMap_cons,
      List.flatMap_map]
    simp only [Piece.content_shield]
    exact List.flatMap_singleton' t
  have hquoted : (shield t).unquote.quoted = false := by
    rw [Bool.eq_false_iff, Ne, shield, unquote_quoted_iff hproper]
    rintro ⟨inner, hsingle⟩
    cases hsingle
  cases hvalue : (shield t).unquote
  simp_all

end Text

end CardQuery
