import CardQuery.Proofs.Region.Quoting
import Mathlib.Data.Set.Function

/-!
# Whole regions

A text that is one closed quoted region and nothing else is a quotable text between quotes, and each
quotable text makes one such region.  The value of a region is the text that it was made of, and it
counts as quoted.

A quote that never closes is passed over when a value is taken, so that one such quote may stand
behind a region and the value still counts as quoted.  Nothing may stand in front of the region: a
quote there would close at the quote that the region begins with.

Main results:

- `isRegion_iff_quote` says that the regions are the quotable texts between quotes.
- `Region.quote_bijection` says that quoting and taking the value are inverse to each other.
- `eq_of_segments_region` says which texts are read as a single region.
- `quoted_iff_region` says which values count as quoted, and when they are those of regions.
- `not_forall_region_of_quoted` says that not all of them are values of regions.
-/

namespace CardQuery

namespace Text

/-- A text that is one closed quoted region, with nothing in front of it and nothing behind it. -/
def IsRegion (t : Text) : Prop := ∃ inner, Region.Inner inner ∧ t = '"' :: inner ++ ['"']

/-- A text is a region if it begins with a quote that is closed by the last character. -/
theorem isRegion_cons_iff {c : Char} {t : Text} :
    IsRegion (c :: t) ↔ c = '"' ∧ (Region.close? t).map Prod.snd = some [] := by
  rw [Option.map_eq_some_iff]
  constructor
  · rintro ⟨inner, hinner, heq⟩
    obtain ⟨rfl, rfl⟩ := List.cons.inj heq
    exact ⟨rfl, (inner, []), Region.close?_of_inner hinner [], rfl⟩
  · rintro ⟨rfl, ⟨inner, _⟩, hclose, rfl⟩
    obtain ⟨hinner, rfl⟩ := Region.inner_of_close? hclose
    exact ⟨inner, hinner, rfl⟩

theorem not_isRegion_nil : ¬IsRegion [] := by
  rintro ⟨inner, -, h⟩
  cases h

instance : DecidablePred IsRegion
  | [] => .isFalse not_isRegion_nil
  | _ :: _ => decidable_of_iff _ isRegion_cons_iff.symm

/-- The regions are the quotable texts between quotes. -/
theorem isRegion_iff_quote {value : Text} :
    value.IsRegion ↔ ∃ t : Text, t.Quotable ∧ Region.quote t = value := by
  constructor
  · rintro ⟨inner, hinner, rfl⟩
    refine ⟨Region.unescape inner, Region.quotable_unescape hinner, ?_⟩
    rw [Region.quote, Region.escape_unescape hinner]
  · rintro ⟨t, ht, rfl⟩
    exact ⟨Region.escape t, Region.inner_escape_iff.2 ht, rfl⟩

end Text

namespace Region

/-! ## Quoting and taking the value -/

/-- A region is the text that it is the value of, put between quotes again. -/
theorem quote_unquote {value : Text} (h : value.IsRegion) : quote value.unquote.text = value := by
  obtain ⟨t, ht, rfl⟩ := Text.isRegion_iff_quote.1 h
  rw [unquote_quote ht]

theorem quotable_unquote {value : Text} (h : value.IsRegion) : value.unquote.text.Quotable := by
  obtain ⟨t, ht, rfl⟩ := Text.isRegion_iff_quote.1 h
  rw [unquote_quote ht]
  exact ht

theorem unquote_quoted {value : Text} (h : value.IsRegion) :
    value.unquote = ⟨value.unquote.text, true⟩ := by
  obtain ⟨t, ht, rfl⟩ := Text.isRegion_iff_quote.1 h
  rw [unquote_quote ht]

theorem isRegion_quote {t : Text} (h : t.Quotable) : (quote t).IsRegion :=
  Text.isRegion_iff_quote.2 ⟨t, h, rfl⟩

/-- Quoting takes the quotable texts to the regions, each region being made of one of them, and the
value takes every region back to the text that it is made of. -/
theorem quote_bijection :
    Set.BijOn quote {t : Text | t.Quotable} {value : Text | value.IsRegion} ∧
    (∀ value : Text, value.IsRegion →
      ∃ t : Text, value.unquote = ⟨t, true⟩ ∧ t.Quotable ∧ quote t = value) ∧
    (∀ t : Text, t.Quotable → (quote t).IsRegion ∧ (quote t).unquote = ⟨t, true⟩) ∧
    ∀ t : Text, ¬t.Quotable → ∀ value : Text, value.IsRegion → value.unquote.text ≠ t := by
  refine ⟨?_, ?_, ?_, ?_⟩
  · have hinverse : Set.InvOn (fun value : Text => value.unquote.text) quote
        {t : Text | t.Quotable} {value : Text | value.IsRegion} := by
      refine ⟨fun t ht => ?_, fun value hvalue => quote_unquote hvalue⟩
      exact congrArg Unquoted.text (unquote_quote ht)
    exact hinverse.bijOn (fun _ => isRegion_quote) fun _ => quotable_unquote
  · exact fun value h => ⟨_, unquote_quoted h, quotable_unquote h, quote_unquote h⟩
  · exact fun t h => ⟨isRegion_quote h, unquote_quote h⟩
  · rintro t hnot value h rfl
    exact hnot (quotable_unquote h)

/-- Backslashes in front of a quote, of a letter and at the end, and a line break. -/
theorem quote_bijection_backslashes :
    let t : Text := "\\\\\"\\d\n\\\\".toList
    let value : Text := "\"\\\\\\\"\\d\n\\\\\"".toList
    t.Quotable ∧ value.IsRegion ∧ quote t = value ∧ value.unquote = ⟨t, true⟩ ∧
      ∀ other : Text, other.IsRegion → other.unquote.text ≠ ['\\'] := by
  intro t value
  have ht : t.Quotable := by decide +kernel
  obtain ⟨hregion, hunquote⟩ := quote_bijection.2.2.1 t ht
  have hvalue : quote t = value := by decide
  rw [hvalue] at hregion hunquote
  exact ⟨ht, hregion, hvalue, hunquote, quote_bijection.2.2.2 ['\\'] (by decide +kernel)⟩

end Region

/-! ## Texts that are read as a single region -/

namespace Piece

theorem segments_nil : segments [] = [] := segments_of_closed (by rw [pieces])

/-- A character other than a quote is read as a piece by itself. -/
theorem head?_segments {c : Char} (hc : c ≠ '"') (t : Text) :
    (segments (c :: t)).head? = some (.char c) := by
  have hread : pieces (c :: t) = (.char c :: (pieces t).1, (pieces t).2) := by
    rw [pieces, if_neg hc]
  rcases hopen : (pieces t).2 with _ | ⟨d, rest⟩
  · rw [hopen] at hread
    rw [segments_of_closed hread]
    rfl
  · rw [hopen] at hread
    rw [segments_of_open hread]
    rfl

/-- Behind a quote that never closes no region begins, since it would have closed there. -/
theorem segments_behind_open {t : Text} (h : Region.close? t = none) :
    t = [] ∨ ∃ c, (segments t).head? = some (.char c) := by
  cases t with
  | nil => exact Or.inl rfl
  | cons c t =>
    have hc : c ≠ '"' := by
      rintro rfl
      cases h
    exact Or.inr ⟨c, head?_segments hc t⟩

section

variable {inner : Text}

theorem segments_region (h : Region.Inner inner) :
    segments ('"' :: inner ++ ['"']) = [.region inner] := by
  rw [← writtenAll_region]
  exact segments_writtenAll (proper_region h)

/-- One more quote behind a region is passed over. -/
theorem segments_region_quote (h : Region.Inner inner) :
    segments (('"' :: inner ++ ['"']) ++ ['"']) = [.region inner] := by
  have hread := pieces_append_written (proper_region h) ['"']
  rw [pieces_of_close?_eq_none (t := []) rfl, List.append_nil] at hread
  rw [← writtenAll_region, segments_of_open hread, segments_nil, List.append_nil]

/-- A text that is read as a single region is that region, perhaps with one more quote behind it. -/
theorem eq_of_segments_region {t : Text} (h : segments t = [.region inner]) :
    Region.Inner inner ∧
      (t = '"' :: inner ++ ['"'] ∨ t = ('"' :: inner ++ ['"']) ++ ['"']) := by
  have hwritten := written_pieces t
  have hproper : ∀ p ∈ (pieces t).1, p.Proper := fun _ => proper_of_mem_pieces
  rcases hread : pieces t with ⟨ps, _ | ⟨c, rest⟩⟩
  · rw [segments_of_closed hread] at h
    simp only [hread, h, writtenAll_region, List.append_nil] at hwritten hproper
    exact ⟨hproper _ List.mem_cons_self, Or.inl hwritten.symm⟩
  · obtain ⟨_, hopen, hnone⟩ := open_of_pieces (t := t) (by simp [hread])
    rw [hread] at hopen
    obtain ⟨rfl, rfl⟩ := List.cons.inj hopen
    rw [segments_of_open hread] at h
    rcases List.append_eq_singleton_iff.1 h with ⟨rfl, hrest⟩ | ⟨rfl, hrest⟩
    · -- The region would stand behind the open quote.
      rcases segments_behind_open hnone with rfl | ⟨c, hhead⟩
      · rw [segments_nil] at hrest
        cases hrest
      · rw [hrest] at hhead
        cases hhead
    · -- It stands in front of the open quote, and nothing stands behind that.
      rcases segments_behind_open hnone with rfl | ⟨c, hhead⟩
      · simp only [hread, writtenAll_region] at hwritten hproper
        exact ⟨hproper _ List.mem_cons_self, Or.inr hwritten.symm⟩
      · rw [hrest] at hhead
        cases hhead

end

end Piece

namespace Text

/-! ## Values that count as quoted -/

theorem quoted_iff_segments {t : Text} :
    t.unquote.quoted = true ↔ ∃ inner, Piece.segments t = [.region inner] := by
  unfold unquote
  dsimp only
  split
  next inner hsegments => simp [hsegments]
  next hnot =>
    constructor
    · exact nofun
    · rintro ⟨inner, hsegments⟩
      exact absurd hsegments (hnot inner)

/-- Texts that are read as the same pieces have the same value. -/
theorem unquote_congr {s t : Text} (h : Piece.segments s = Piece.segments t) :
    s.unquote = t.unquote := by
  unfold unquote
  rw [h]

/-- A text that is one closed quoted region with one more quote behind it. -/
def IsOverclosed (t : Text) : Prop := ∃ value : Text, value.IsRegion ∧ t = value ++ ['"']

/-- A region is closed by its last quote only. -/
theorem IsOverclosed.not_isRegion {t : Text} (h : t.IsOverclosed) : ¬t.IsRegion := by
  obtain ⟨value, ⟨inner, hinner, rfl⟩, rfl⟩ := h
  rintro ⟨inner', hinner', heq⟩
  have hopened : inner ++ '"' :: ['"'] = inner' ++ '"' :: [] := by
    simpa using heq
  have hclose := Region.close?_of_inner hinner ['"']
  rw [hopened, Region.close?_of_inner hinner'] at hclose
  simp at hclose

theorem quoted_iff_isRegion_or {t : Text} :
    t.unquote.quoted = true ↔ t.IsRegion ∨ t.IsOverclosed := by
  rw [quoted_iff_segments]
  constructor
  · rintro ⟨inner, hsegments⟩
    obtain ⟨hinner, rfl | rfl⟩ := Piece.eq_of_segments_region hsegments
    · exact Or.inl ⟨inner, hinner, rfl⟩
    · exact Or.inr ⟨_, ⟨inner, hinner, rfl⟩, rfl⟩
  · rintro (⟨inner, hinner, rfl⟩ | ⟨value, ⟨inner, hinner, rfl⟩, rfl⟩)
    · exact ⟨inner, Piece.segments_region hinner⟩
    · exact ⟨inner, Piece.segments_region_quote hinner⟩

/-- One more quote behind a region changes nothing about the value. -/
theorem unquote_append_quote {value : Text} (h : value.IsRegion) :
    (value ++ ['"']).unquote = value.unquote := by
  obtain ⟨inner, hinner, rfl⟩ := h
  apply unquote_congr
  rw [Piece.segments_region hinner, Piece.segments_region_quote hinner]

/-- A text whose quotes are all closed has no more quote behind a region. -/
theorem not_isOverclosed_writtenAll {ps : List Piece} (h : ∀ p ∈ ps, p.Proper) :
    ¬(Piece.writtenAll ps).IsOverclosed := by
  intro hover
  obtain ⟨inner, rfl⟩ := (unquote_quoted_iff h).1 (quoted_iff_isRegion_or.2 (Or.inr hover))
  exact hover.not_isRegion ⟨inner, h _ List.mem_cons_self, Piece.writtenAll_region inner⟩

/-- A value counts as quoted exactly if its text is a region or a region with one more quote behind
it.  So what counts as quoted is a region unless the text is of the second kind, which has the value
of the region alone.  A text whose quotes are all closed is never of that kind. -/
theorem quoted_iff_region (t : Text) :
    (t.unquote.quoted = true ↔ t.IsRegion ∨ t.IsOverclosed) ∧
    ((t.unquote.quoted = true → t.IsRegion) ↔ ¬t.IsOverclosed) ∧
    (∀ value : Text, value.IsRegion → t = value ++ ['"'] → t.unquote = value.unquote) ∧
    ∀ ps : List Piece, (∀ p ∈ ps, p.Proper) → t = Piece.writtenAll ps → ¬t.IsOverclosed := by
  refine ⟨quoted_iff_isRegion_or, ⟨?_, ?_⟩, ?_, ?_⟩
  · intro hregion hover
    exact hover.not_isRegion (hregion (quoted_iff_isRegion_or.2 (Or.inr hover)))
  · exact fun hnot hquoted => (quoted_iff_isRegion_or.1 hquoted).resolve_right hnot
  · rintro value hvalue rfl
    exact unquote_append_quote hvalue
  · rintro ps hproper rfl
    exact not_isOverclosed_writtenAll hproper

/-- A value that counts as quoted need not be that of a region. -/
theorem not_forall_region_of_quoted : ¬∀ t : Text, t.unquote.quoted = true → t.IsRegion := by
  intro hall
  have hquoted : Text.unquote "\"a\"\"".toList = ⟨['a'], true⟩ := by decide +kernel
  exact absurd (hall _ (congrArg Unquoted.quoted hquoted)) (by decide +kernel)

end Text

end CardQuery
