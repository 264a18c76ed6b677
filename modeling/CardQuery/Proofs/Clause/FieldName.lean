import CardQuery.Proofs.Region.Value
import CardQuery.Clause.Meaning

/-!
# Names of fields

The name of a field ends at the first colon outside of quoted regions, and the value begins behind
that colon.

Main results:

- `splitField?_writtenAll` says that pieces without a colon in front of a colon are the name.
- `exists_name_of_splitField?` says that a name is found in front of the first colon only.
- `splitField?_eq_some_iff` says where a text of pieces is split.
-/

namespace CardQuery

/-- Pieces without a colon outside of regions are the name in front of the next colon. -/
theorem splitField?_writtenAll {ps : List Piece} (hproper : ∀ p ∈ ps, p.Proper)
    (hcolon : ∀ p ∈ ps, p ≠ .char ':') (value : Text) :
    splitField? (Piece.writtenAll ps ++ ':' :: value) =
      some ((Piece.writtenAll ps).unquote.text, value) := by
  have hread : (Piece.pieces (Piece.writtenAll ps ++ ':' :: value)).1 =
      ps ++ .char ':' :: (Piece.pieces value).1 := by
    rw [Piece.pieces_append_written hproper, Piece.pieces, if_neg (by decide)]
  have hname : (ps ++ .char ':' :: (Piece.pieces value).1).takeWhile (fun p => p != .char ':') =
      ps := by
    rw [List.takeWhile_append_of_pos (by simpa using hcolon)]
    simp
  simp only [splitField?, hread, hname, List.drop_left]

/-- A name is found in front of the first colon outside of regions, and the value behind it. -/
theorem exists_name_of_splitField? {text name value : Text}
    (h : splitField? text = some (name, value)) :
    ∃ ps : List Piece, (∀ p ∈ ps, p.Proper) ∧ text = Piece.writtenAll ps ++ ':' :: value ∧
      name = (Piece.writtenAll ps).unquote.text ∧ .char ':' ∉ ps := by
  obtain ⟨ps, later, hps, htext⟩ : ∃ ps later,
      (Piece.pieces text).1.takeWhile (fun p => p != .char ':') = ps ∧
        text = Piece.writtenAll ps ++ later := by
    refine ⟨_, Piece.writtenAll ((Piece.pieces text).1.dropWhile fun p => p != .char ':') ++
      (Piece.pieces text).2, rfl, ?_⟩
    rw [← List.append_assoc, ← Piece.writtenAll_append, List.takeWhile_append_dropWhile,
      Piece.written_pieces]
  subst htext
  have hproper : ∀ p ∈ ps, p.Proper := by
    intro p hp
    rw [← hps] at hp
    exact Piece.proper_of_mem_pieces ((List.takeWhile_sublist _).subset hp)
  have hcolon : .char ':' ∉ ps := by
    intro hmem
    rw [← hps] at hmem
    exact absurd (List.mem_takeWhile_imp hmem) (by decide)
  simp only [splitField?, hps, List.drop_left] at h
  split at h
  next rest =>
    obtain ⟨rfl, rfl⟩ := Prod.mk.inj (Option.some.inj h)
    exact ⟨ps, hproper, rfl, rfl, hcolon⟩
  next => cases h

/-! ## The first colon -/

/-- Where pieces are cut into a name and a value: at the first colon outside of regions. -/
structure ColonCut (ps name value : List Piece) : Prop where
  eq_append : ps = name ++ .char ':' :: value
  not_mem_name : .char ':' ∉ name

/-- Pieces are cut at a colon as soon as there is one. -/
theorem exists_colonCut {ps : List Piece} (h : .char ':' ∈ ps) :
    ∃ name value, ColonCut ps name value := by
  rcases List.eq_append_cons_of_mem h with ⟨name, value, hps, hnot⟩
  exact ⟨name, value, hps, hnot⟩

/-- A text of pieces is split where its pieces are cut, and into what they are cut into. -/
theorem splitField?_eq_some_iff {ps : List Piece} (h : ∀ p ∈ ps, p.Proper) {found value : Text} :
    splitField? (Piece.writtenAll ps) = some (found, value) ↔
      ∃ name rest, ColonCut ps name rest ∧ found = (Piece.writtenAll name).unquote.text ∧
        value = Piece.writtenAll rest := by
  constructor
  · intro hsplit
    obtain ⟨name, hname, htext, hfound, hcolon⟩ := exists_name_of_splitField? hsplit
    have hread := Piece.pieces_writtenAll h
    rw [htext, Piece.pieces_append_written hname, Piece.pieces, if_neg (by decide)] at hread
    obtain ⟨hps, hclosed⟩ := Prod.mk.inj hread
    -- Nothing is left unread behind the colon either.
    have hvalue : value = Piece.writtenAll (Piece.pieces value).1 := by
      have hwritten := Piece.written_pieces value
      rw [hclosed, List.append_nil] at hwritten
      exact hwritten.symm
    exact ⟨name, _, ⟨hps.symm, hcolon⟩, hfound, hvalue⟩
  · rintro ⟨name, rest, ⟨rfl, hcolon⟩, rfl, rfl⟩
    have hproper : ∀ p ∈ name, p.Proper := fun p hp => h p (List.mem_append_left _ hp)
    have hother : ∀ p ∈ name, p ≠ .char ':' := fun p hp heq => hcolon (heq ▸ hp)
    rw [Piece.writtenAll_append]
    exact splitField?_writtenAll hproper hother (Piece.writtenAll rest)

end CardQuery
