import CardQuery.Piece
import CardQuery.QueryError
import CardQuery.Text.Blank

/-!
# Clauses

A query is a sequence of clauses with blanks between them.  A clause is an optional minus sign
and a body: pieces that are neither blanks nor, in the first place, a minus sign.  Quoted regions
keep their blanks, so a query is cut along its pieces.  The word `AND` by itself joins clauses
and is left out.

Main results:

- `scanOne_written` says that a clause is cut off the front as it is written.
- `split_of_blank` says that a query of blanks has no clauses.
-/

namespace CardQuery

/-- One clause of a query as it was typed, the minus sign split off. -/
structure Clause where
  /-- Whether a minus sign stands in front. -/
  negated : Bool
  /-- The text after the minus sign. -/
  text : Text
deriving DecidableEq, Repr

namespace Clause

/-- How a clause is written. -/
def written (c : Clause) : Text := if c.negated then '-' :: c.text else c.text

/-- Whether a clause is the word `AND` in any letter case, which adds nothing. -/
def isAnd (c : Clause) : Bool := !c.negated && c.text.map Char.toUpper == ['A', 'N', 'D']

/-! ## Cutting along the pieces -/

/-- Whether a piece is a blank between clauses. -/
def isGap (p : Piece) : Bool := p.isChar Text.isBlank

/-- The clause whose body is expected at `position`, and the pieces after it.  `isOpen` tells
whether a quote that never closes follows the pieces. -/
def scanBody (isOpen negated : Bool) (position : Nat) :
    List Piece → Except QueryFault (Clause × List Piece)
  | [] =>
    if isOpen then .error (.unterminatedQuote position)
    else .error (.expectedClause .endOfQuery (position - 1))
  | p :: rest =>
    if p = .char '-' then .error (.expectedClause .minus position)
    else if isGap p then
      .error (.expectedClause (.blanks (Piece.writtenAll ((p :: rest).takeWhile isGap))) position)
    else
      .ok (⟨negated, Piece.writtenAll (p :: rest.takeWhile fun q => !isGap q)⟩,
        rest.dropWhile fun q => !isGap q)

/-- The clause that is expected at `position`, and the pieces after it. -/
def scanOne (isOpen : Bool) (position : Nat) :
    List Piece → Except QueryFault (Clause × List Piece)
  | .char '-' :: rest => scanBody isOpen true (position + 1) rest
  | ps => scanBody isOpen false position ps

/-- A clause is cut off the front of the pieces as it is written. -/
theorem scanBody_written {isOpen negated : Bool} {position : Nat} {ps rest : List Piece}
    {c : Clause} (h : scanBody isOpen negated position ps = .ok (c, rest)) :
    ∃ p body, ps = p :: body ++ rest ∧ c = ⟨negated, Piece.writtenAll (p :: body)⟩ := by
  cases ps with
  | nil => cases isOpen <;> simp [scanBody] at h
  | cons p ps =>
    rw [scanBody] at h
    split at h
    next => cases h
    next =>
      split at h
      next => cases h
      next =>
        cases h
        exact ⟨p, ps.takeWhile fun q => !isGap q, by simp, rfl⟩

/-- A clause is cut off the front of the pieces as it is written. -/
theorem scanOne_written {isOpen : Bool} {position : Nat} {ps rest : List Piece} {c : Clause}
    (h : scanOne isOpen position ps = .ok (c, rest)) :
    ∃ p taken, ps = p :: taken ++ rest ∧ c.written = Piece.writtenAll (p :: taken) := by
  fun_cases scanOne isOpen position ps with
  | case1 ps =>
    obtain ⟨p, body, rfl, rfl⟩ := scanBody_written h
    exact ⟨.char '-', p :: body, rfl, by simp [written, Piece.writtenAll, Piece.written]⟩
  | case2 ps hminus =>
    have hscan : scanOne isOpen position ps = scanBody isOpen false position ps := by
      rw [scanOne]
      exact hminus
    rw [hscan] at h
    obtain ⟨p, body, rfl, rfl⟩ := scanBody_written h
    exact ⟨p, body, rfl, by simp [written]⟩

/-- Fewer pieces are left after a clause. -/
theorem length_of_scanOne {isOpen : Bool} {position : Nat} {ps rest : List Piece} {c : Clause}
    (h : scanOne isOpen position ps = .ok (c, rest)) : rest.length < ps.length := by
  obtain ⟨p, taken, rfl, _⟩ := scanOne_written h
  simp only [List.cons_append, List.length_cons, List.length_append]
  omega

/-- The clauses of the pieces that begin at `position`, where a clause is expected. -/
def scan (isOpen : Bool) (position : Nat) (ps : List Piece) : Except QueryFault (List Clause) :=
  match ps with
  | [] => if isOpen then .error (.unterminatedQuote position) else .ok []
  | p :: more =>
    match _h : scanOne isOpen position (p :: more) with
    | .error fault => .error fault
    | .ok (c, rest) =>
      let next := position + c.written.length + (rest.takeWhile isGap).length
      (scan isOpen next (rest.dropWhile isGap)).map (c :: ·)
termination_by ps.length
decreasing_by
  have := length_of_scanOne _h
  have := (List.dropWhile_sublist isGap (l := rest)).length_le
  simp only [List.length_cons] at *
  omega

/-! ## The clauses of a query -/

/-- Every clause of a query, the word `AND` included. -/
def scanAll (query : Text) : Except QueryError (List Clause) :=
  let stripped := query.strip
  let found := Piece.pieces stripped
  (scan (!found.2.isEmpty) 0 found.1).mapError fun fault => ⟨stripped, fault⟩

/-- The clauses of a query in order. -/
def split (query : Text) : Except QueryError (List Clause) :=
  (scanAll query).map fun clauses => clauses.filter fun c => !c.isAnd

/-- A query of blanks has no clauses. -/
theorem split_of_blank {query : Text} (h : ∀ c ∈ query, Text.isBlank c = true) :
    split query = .ok [] := by
  have hstrip : query.strip = [] := Text.strip_eq_nil_iff.2 h
  simp [split, scanAll, hstrip, Piece.pieces, scan, Except.map]

end Clause

end CardQuery
