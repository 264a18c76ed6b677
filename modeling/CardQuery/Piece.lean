import CardQuery.Region

/-!
# Pieces of a text

A text is read as a sequence of pieces, each a closed quoted region or one character outside of
the regions.  Reading stops at a quote that never closes.  Everything that has to respect quotes
(the clauses of a query, the value of a clause, the name of a field) is cut out of this sequence.

Main results:

- `written_pieces` says that the pieces and what is left unread make up the text again.
- `pieces_append_written` says that pieces can be read back from their written form.
- `open_of_pieces` says that reading stops at the end or at a quote that never closes.
-/

namespace CardQuery

/-- A piece of a text: one character outside of quoted regions, or a whole region. -/
inductive Piece
  /-- A character outside of quoted regions. -/
  | char (c : Char)
  /-- A closed quoted region with its inner text. -/
  | region (inner : Text)
deriving DecidableEq, Repr

namespace Piece

/-- How a piece is written. -/
def written : Piece → Text
  | char c => [c]
  | region inner => '"' :: inner ++ ['"']

/-- The text that a piece stands for. -/
def content : Piece → Text
  | char c => [c]
  | region inner => Region.unescape inner

/-- What is read as a piece: any character but a quote, or a region with a proper inner text. -/
def Proper : Piece → Prop
  | char c => c ≠ '"'
  | region inner => Region.Inner inner

/-- Whether a piece is a character of the class `p` outside of quoted regions. -/
def isChar (p : Char → Bool) : Piece → Bool
  | char c => p c
  | region _ => false

/-- How a sequence of pieces is written. -/
def writtenAll (ps : List Piece) : Text := ps.flatMap written

/-- The pieces at the beginning of a text, and the text that is left from the first quote on
that never closes. -/
def pieces (t : Text) : List Piece × Text :=
  match t with
  | [] => ([], [])
  | c :: rest =>
    if c = '"' then
      match _h : Region.close? rest with
      | none => ([], c :: rest)
      | some (inner, after) =>
        let found := pieces after
        (region inner :: found.1, found.2)
    else
      let found := pieces rest
      (char c :: found.1, found.2)
termination_by t.length
decreasing_by
  · have := Region.length_of_close? _h
    simp only [List.length_cons]
    omega
  · simp

/-! ## Reading and writing -/

/-- The pieces and what is left unread make up the text. -/
theorem written_pieces (t : Text) : writtenAll (pieces t).1 ++ (pieces t).2 = t := by
  fun_induction pieces t with
  | case1 => rfl
  | case2 rest h => rfl
  | case3 rest inner after h found ih =>
    rw [(Region.inner_of_close? h).2]
    simpa [writtenAll, written] using ih
  | case4 c rest hc found ih => simpa [writtenAll, written] using ih

/-- Every piece that is read is a proper one. -/
theorem proper_of_mem_pieces {t : Text} {p : Piece} (h : p ∈ (pieces t).1) : p.Proper := by
  fun_induction pieces t with
  | case1 => simp at h
  | case2 rest h' => simp at h
  | case3 rest inner after h' found ih =>
    rcases List.mem_cons.1 h with rfl | h
    · exact (Region.inner_of_close? h').1
    · exact ih h
  | case4 c rest hc found ih =>
    rcases List.mem_cons.1 h with rfl | h
    · exact hc
    · exact ih h

/-- Reading goes past proper pieces in front of a text. -/
theorem pieces_append_written {ps : List Piece} (h : ∀ p ∈ ps, p.Proper) (rest : Text) :
    pieces (writtenAll ps ++ rest) = (ps ++ (pieces rest).1, (pieces rest).2) := by
  induction ps with
  | nil => rfl
  | cons p ps ih =>
    have hp := h p (by simp)
    have ih := ih fun q hq => h q (by simp [hq])
    cases p with
    | char c =>
      have hc : c ≠ '"' := hp
      have hcons : writtenAll (char c :: ps) ++ rest = c :: (writtenAll ps ++ rest) := rfl
      rw [hcons, pieces, if_neg hc, ih]
      rfl
    | region inner =>
      have hcons : writtenAll (region inner :: ps) ++ rest =
          '"' :: (inner ++ '"' :: (writtenAll ps ++ rest)) := by
        simp [writtenAll, written]
      rw [hcons, pieces, if_pos rfl]
      split
      next hnone => simp [Region.close?_of_inner hp] at hnone
      next i after hsome =>
        rw [Region.close?_of_inner hp] at hsome
        simp only [Option.some.injEq, Prod.mk.injEq] at hsome
        obtain ⟨rfl, rfl⟩ := hsome
        rw [ih]
        rfl

/-- Reading stops only at the end or at a quote that never closes. -/
theorem open_of_pieces {t : Text} (h : (pieces t).2 ≠ []) :
    ∃ rest, (pieces t).2 = '"' :: rest ∧ Region.close? rest = none := by
  fun_induction pieces t with
  | case1 => simp at h
  | case2 rest hnone => exact ⟨rest, rfl, hnone⟩
  | case3 rest inner after h' found ih => exact ih h
  | case4 c rest hc found ih => exact ih h

/-! ## The value of a text -/

/-- The pieces of a text in which a quote that never closes is passed over. -/
def segments (t : Text) : List Piece :=
  match _h : pieces t with
  | (ps, []) => ps
  | (ps, _ :: rest) => ps ++ segments rest
termination_by t.length
decreasing_by
  have := congrArg List.length (written_pieces t)
  rw [_h] at this
  simp only [List.length_append, List.length_cons] at this
  omega

end Piece

/-- The value of a text, as `unquote` finds it. -/
structure Unquoted where
  /-- The text without the quotes that delimit regions. -/
  text : Text
  /-- Whether the value is made of a single region and nothing else. -/
  quoted : Bool
deriving DecidableEq, Repr

/-- The value that a text stands for: the contents of its pieces in order. -/
def Text.unquote (t : Text) : Unquoted :=
  let ps := Piece.segments t
  { text := ps.flatMap Piece.content
    quoted := match ps with
      | [.region _] => true
      | _ => false }

end CardQuery
