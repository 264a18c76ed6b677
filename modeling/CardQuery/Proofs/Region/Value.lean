import CardQuery.Proofs.Clause.Derivation

/-!
# Values inside of clauses

What stands behind the beginning of a clause is made of the same items as the clause: closed quoted
regions and characters that are neither quotes nor blanks.  Such a text can be cut behind any of
its pieces, and its value is put together from its items one by one.

Main results:

- `Piece.pieces_writtenAll` says that pieces are read back from the way they are written.
- `Piece.head?_pieces` and `Piece.exists_concat` say what the first and the last piece can be.
- `Text.ofItems_append_iff` says that a text of items stays one when pieces are cut off in front.
- `Text.unquote_text_writtenAll` and `Text.unquote_quoted_iff` say what the value of a text of
  items is, and when it counts as quoted.
-/

namespace CardQuery

namespace Piece

/-! ## Reading what was written -/

/-- Proper pieces are read back from the way they are written. -/
theorem pieces_writtenAll {ps : List Piece} (h : ∀ p ∈ ps, p.Proper) :
    pieces (writtenAll ps) = (ps, []) := by
  have hread := pieces_append_written h []
  simpa [pieces] using hread

/-- No quote is passed over in a text that is read to its end. -/
theorem segments_of_closed {t : Text} {ps : List Piece} (h : pieces t = (ps, [])) :
    segments t = ps := by
  rw [segments]
  split
  next qs hqs =>
    rw [h] at hqs
    exact (Prod.mk.inj hqs).1.symm
  next qs c rest hqs =>
    rw [h] at hqs
    cases (Prod.mk.inj hqs).2

/-- The first quote that never closes is passed over. -/
theorem segments_of_open {t rest : Text} {ps : List Piece} {c : Char}
    (h : pieces t = (ps, c :: rest)) : segments t = ps ++ segments rest := by
  rw [segments]
  split
  next qs hqs =>
    rw [h] at hqs
    cases (Prod.mk.inj hqs).2
  next qs d others hqs =>
    rw [h] at hqs
    obtain ⟨rfl, hrest⟩ := Prod.mk.inj hqs
    obtain ⟨-, rfl⟩ := List.cons.inj hrest
    rfl

theorem segments_writtenAll {ps : List Piece} (h : ∀ p ∈ ps, p.Proper) :
    segments (writtenAll ps) = ps :=
  segments_of_closed (pieces_writtenAll h)

/-- A region is written with its inner text between quotes. -/
theorem writtenAll_region (inner : Text) : writtenAll [.region inner] = '"' :: inner ++ ['"'] :=
  List.append_nil _

theorem proper_region {inner : Text} (h : Region.Inner inner) :
    ∀ p ∈ [Piece.region inner], p.Proper := by
  intro p hp
  rw [List.mem_singleton.1 hp]
  exact h

/-! ## The first and the last piece -/

/-- What is written last is the last piece, if it is no quote. -/
theorem exists_concat {ps : List Piece} {t : Text} {c : Char} (hc : c ≠ '"')
    (h : writtenAll ps = t ++ [c]) : ∃ qs, ps = qs ++ [.char c] ∧ writtenAll qs = t := by
  rcases List.eq_nil_or_concat ps with rfl | ⟨qs, p, rfl⟩
  · cases t <;> cases h
  · rw [List.concat_eq_append, writtenAll_append] at h
    cases p with
    | char d =>
      rcases List.append_inj' h rfl with ⟨hqs, hd⟩
      obtain rfl : d = c := List.head_eq_of_cons_eq hd
      exact ⟨qs, List.concat_eq_append, hqs⟩
    | region inner =>
      have hwritten : (writtenAll qs ++ '"' :: inner) ++ ['"'] = t ++ [c] := by
        simpa [writtenAll, written] using h
      have hlast : '"' = c := List.head_eq_of_cons_eq (List.append_inj' hwritten rfl).2
      exact absurd hlast.symm hc

/-- A text that does not begin with a blank has no blank as its first piece. -/
theorem head?_pieces {t : Text} (h : ∀ c ∈ t.head?, Text.isBlank c = false) :
    ∀ p ∈ (pieces t).1.head?, Clause.isGap p = false := by
  fun_cases pieces t with
  | case1 => exact nofun
  | case2 rest _ => exact nofun
  | case3 rest inner after _ found =>
    intro p hp
    rw [← Option.some.inj hp]
    rfl
  | case4 c rest _ found =>
    intro p hp
    rw [← Option.some.inj hp]
    exact h c rfl

theorem pieces_of_close?_eq_none {t : Text} (h : Region.close? t = none) :
    pieces ('"' :: t) = ([], '"' :: t) := by
  rw [pieces, if_pos rfl]
  split
  next => rfl
  next inner after hsome =>
    rw [h] at hsome
    cases hsome

/-- The blanks at the beginning of a text are pieces by themselves. -/
theorem writtenAll_takeWhile_isGap (t : Text) :
    writtenAll ((pieces t).1.takeWhile Clause.isGap) = t.takeWhile Text.isBlank := by
  fun_induction pieces t with
  | case1 => rfl
  | case2 rest _ => rfl
  | case3 rest inner after _ found ih => rfl
  | case4 c rest _ found ih =>
    by_cases hc : Text.isBlank c = true
    · have hgap : Clause.isGap (.char c) = true := hc
      rw [List.takeWhile_cons_of_pos hgap, List.takeWhile_cons_of_pos hc, writtenAll_cons, ih]
      rfl
    · have hgap : ¬Clause.isGap (.char c) = true := hc
      rw [List.takeWhile_cons_of_neg hgap, List.takeWhile_cons_of_neg hc]
      rfl

end Piece

namespace Text

/-! ## Texts of items -/

/-- A text of closed quoted regions and of characters that are neither quotes nor blanks. -/
def OfItems (t : Text) : Prop :=
  ∃ ps : List Piece, (∀ p ∈ ps, p.IsItem) ∧ t = Piece.writtenAll ps

/-- The items of a text are the pieces that are read from it. -/
theorem ofItems_iff {t : Text} :
    OfItems t ↔ (∀ p ∈ (Piece.pieces t).1, p.IsItem) ∧ (Piece.pieces t).2 = [] := by
  constructor
  · rintro ⟨ps, hitems, rfl⟩
    have hread := Piece.pieces_writtenAll fun p hp => (hitems p hp).proper
    rw [hread]
    exact ⟨hitems, rfl⟩
  · rintro ⟨hitems, hclosed⟩
    have hwritten := Piece.written_pieces t
    rw [hclosed, List.append_nil] at hwritten
    exact ⟨(Piece.pieces t).1, hitems, hwritten.symm⟩

/-- A text is made of items if it is read to its end and no piece of it is a blank. -/
theorem ofItems_iff_isGap {t : Text} :
    OfItems t ↔ (∀ p ∈ (Piece.pieces t).1, Clause.isGap p = false) ∧ (Piece.pieces t).2 = [] := by
  have hitem : ∀ p ∈ (Piece.pieces t).1, (p.IsItem ↔ Clause.isGap p = false) := fun p hp =>
    ⟨fun h => h.isGap_eq_false, .of_proper (Piece.proper_of_mem_pieces hp)⟩
  rw [ofItems_iff, forall₂_congr hitem]

instance : DecidablePred OfItems := fun _ => decidable_of_iff _ ofItems_iff_isGap.symm

/-- Behind proper pieces a text is made of items exactly if the pieces are items and the rest is
made of items. -/
theorem ofItems_append_iff {ps : List Piece} (hproper : ∀ p ∈ ps, p.Proper) {rest : Text} :
    OfItems (Piece.writtenAll ps ++ rest) ↔ (∀ p ∈ ps, p.IsItem) ∧ OfItems rest := by
  rw [ofItems_iff, ofItems_iff, Piece.pieces_append_written hproper]
  simp only [List.mem_append, or_imp, forall_and, and_assoc]

theorem OfItems.append {s t : Text} (hs : OfItems s) (ht : OfItems t) : OfItems (s ++ t) := by
  rcases hs with ⟨ps, hps, rfl⟩
  exact (ofItems_append_iff fun p hp => (hps p hp).proper).2 ⟨hps, ht⟩

/-- Characters that are neither quotes nor blanks are items. -/
theorem ofItems_of_plain {t : Text} (h : t.Plain) : OfItems t := by
  refine ⟨t.map .char, ?_, (Piece.writtenAll_map_char t).symm⟩
  intro p hp
  rcases List.mem_map.1 hp with ⟨c, hc, rfl⟩
  exact .char (h c hc).1 (h c hc).2

/-- What stands behind a beginning without quotes and blanks is made of items as well. -/
theorem OfItems.of_append {lead rest : Text} (h : OfItems (lead ++ rest))
    (hplain : lead.Plain) : OfItems rest := by
  have hproper : ∀ p ∈ lead.map Piece.char, p.Proper := by
    intro p hp
    rcases List.mem_map.1 hp with ⟨c, hc, rfl⟩
    exact (hplain c hc).1
  rw [← Piece.writtenAll_map_char lead] at h
  exact ((ofItems_append_iff hproper).1 h).2

/-! ## Their values -/

section

variable {ps : List Piece} (h : ∀ p ∈ ps, p.Proper)
include h

/-- The value of a text of pieces is put together from what the pieces stand for. -/
theorem unquote_text_writtenAll :
    (Piece.writtenAll ps).unquote.text = ps.flatMap Piece.content := by
  rw [unquote, Piece.segments_writtenAll h]

/-- A text of pieces counts as quoted exactly if it is a single region. -/
theorem unquote_quoted_iff :
    (Piece.writtenAll ps).unquote.quoted = true ↔ ∃ inner, ps = [.region inner] := by
  rw [unquote, Piece.segments_writtenAll h]
  constructor
  · intro hquoted
    split at hquoted
    next inner => exact ⟨inner, rfl⟩
    next => cases hquoted
  · rintro ⟨inner, rfl⟩
    rfl

end

end Text

end CardQuery
