import CardQuery.Proofs.Clause.Grammar
import CardQuery.Proofs.Region.Value

/-!
# How far a query can be read

Whatever a query is, it begins with phrases that have a gap behind each of them, and what stands
behind this lead is the end, a last phrase, or a minus sign without a body.  The clauses of the
lead are found before anything behind it is looked at, so that it decides alone where the scan
stops.

Main results:

- `Lead.exists_before` says that a derivation is a lead with a last phrase behind it.
- `Lead.scan_append` says that the scan goes past a lead.
- `exists_lead` says what can stand behind the lead of a query.
- `split_letter_iff` says which beginnings of a query could go on with a letter.
-/

namespace CardQuery

open Text

namespace Clause

/-! ## Leads -/

/-- What has been read where a clause is expected: phrases with a gap behind each of them. -/
inductive Lead
  | nil
  | cons (phrase : Phrase) (gap : Gap) (rest : Lead)

namespace Lead

/-- The pieces of a lead. -/
def pieces : Lead → List Piece
  | nil => []
  | cons f g rest => f.pieces ++ (g.pieces ++ rest.pieces)

/-- The clauses of a lead in order. -/
def clauses : Lead → List Clause
  | nil => []
  | cons f _ rest => f.clause :: rest.clauses

/-- The derivation that goes on behind a lead. -/
def before : Lead → Layout → Layout
  | nil, t => t
  | cons f g rest, t => .join f g (rest.before t)

theorem pieces_before (l : Lead) (t : Layout) : (l.before t).pieces = l.pieces ++ t.pieces := by
  induction l with
  | nil => rfl
  | cons f g rest ih => simp [before, Layout.pieces, pieces, ih]

theorem clauses_before (l : Lead) (t : Layout) :
    (l.before t).clauses = l.clauses ++ t.clauses := by
  induction l with
  | nil => rfl
  | cons f g rest ih => simp [before, Layout.clauses, clauses, ih]

/-- A derivation is a last phrase behind a lead. -/
theorem exists_before (t : Layout) : ∃ (l : Lead) (f : Phrase), t = l.before (.single f) := by
  induction t with
  | single f => exact ⟨.nil, f, rfl⟩
  | join f g rest ih =>
    rcases ih with ⟨l, last, rfl⟩
    exact ⟨.cons f g l, last, rfl⟩

theorem proper_of_mem_pieces (l : Lead) {p : Piece} (h : p ∈ l.pieces) : p.Proper := by
  induction l with
  | nil => cases h
  | cons f g rest ih =>
    rcases List.mem_append.1 h with h | h
    · exact (f.isItem_of_mem_pieces h).proper
    · rcases List.mem_append.1 h with h | h
      · exact g.proper_of_mem_pieces h
      · exact ih h

theorem head?_append (l : Lead) {rest : List Piece} (h : ∀ p ∈ rest.head?, isGap p = false) :
    ∀ p ∈ (l.pieces ++ rest).head?, isGap p = false := by
  cases l with
  | nil => exact h
  | cons f g later =>
    rw [pieces, List.append_assoc]
    exact f.head?_append _

/-- The scan goes past a lead, if what stands behind it does not begin with a blank. -/
theorem scan_append (l : Lead) (isOpen : Bool) (position : Nat) {rest : List Piece}
    (h : ∀ p ∈ rest.head?, isGap p = false) :
    scan isOpen position (l.pieces ++ rest) =
      (scan isOpen (position + (Piece.writtenAll l.pieces).length) rest).map (l.clauses ++ ·) := by
  induction l generalizing position with
  | nil =>
    simp only [pieces, clauses, Piece.writtenAll, List.flatMap_nil, List.length_nil, Nat.add_zero,
      List.nil_append]
    cases scan isOpen position rest <;> rfl
  | cons f g later ih =>
    have hone := scanOne_phrase f (g.atGap_append (later.pieces ++ rest)) isOpen position
    rcases g.cut_pieces (later.head?_append h) with ⟨htake, hdrop⟩
    have hlength : (Piece.writtenAll (cons f g later).pieces).length =
        f.clause.written.length + g.pieces.length + (Piece.writtenAll later.pieces).length := by
      simp [pieces, f.writtenAll_pieces, Gap.pieces, Nat.add_assoc]
    rw [pieces, List.append_assoc, List.append_assoc, scan_of_scanOne hone, htake, hdrop, ih,
      ← pieces, hlength, Nat.add_assoc position, Nat.add_assoc position]
    cases scan isOpen _ rest <;> rfl

end Lead

/-! ## What stands behind a lead -/

/-- Whether no body begins where the pieces do: nothing is left, another minus sign follows, or a
blank. -/
def NoBody (ps : List Piece) : Prop := ∀ p ∈ ps.head?, p = .char '-' ∨ isGap p = true

theorem noBody_of_scanBody {isOpen negated : Bool} {position : Nat} {ps : List Piece}
    {fault : QueryFault} (h : scanBody isOpen negated position ps = .error fault) : NoBody ps := by
  cases ps with
  | nil => exact nofun
  | cons p rest =>
    intro q hq
    obtain rfl : p = q := by simpa using hq
    rw [scanBody] at h
    split at h
    next hminus => exact Or.inl hminus
    next =>
      split at h
      next hgap => exact Or.inr hgap
      next => cases h

/-- No clause is found only if a minus sign has no body, or at a blank. -/
theorem noBody_of_scanOne {isOpen : Bool} {position : Nat} {p : Piece} {ps : List Piece}
    {fault : QueryFault} (h : scanOne isOpen position (p :: ps) = .error fault)
    (hp : isGap p = false) : p = .char '-' ∧ NoBody ps := by
  by_cases hminus : p = .char '-'
  · subst hminus
    rw [scanOne] at h
    exact ⟨rfl, noBody_of_scanBody h⟩
  · rw [scanOne] at h
    · rcases noBody_of_scanBody h p rfl with hnot | hgap
      · exact absurd hnot hminus
      · rw [hp] at hgap
        cases hgap
    · intro rest hrest
      exact hminus (List.cons.inj hrest).1

/-- Behind the lead of a query stands nothing more, a last phrase, or a minus sign without a
body. -/
theorem exists_lead {ps : List Piece} (hproper : ∀ p ∈ ps, p.Proper)
    (hhead : ∀ p ∈ ps.head?, isGap p = false) :
    ∃ (l : Lead) (rest : List Piece), ps = l.pieces ++ rest ∧
      (rest = [] ∨ (∃ f : Phrase, rest = f.pieces) ∨
        ∃ after, rest = .char '-' :: after ∧ NoBody after) := by
  -- The scan takes one phrase after the other; the induction is on its steps.
  fun_induction scan false 0 ps with
  | case1 => exact ⟨.nil, [], rfl, Or.inl rfl⟩
  | case2 => exact ⟨.nil, [], rfl, Or.inl rfl⟩
  | case3 position p ps fault herror =>
    rcases noBody_of_scanOne herror (hhead p rfl) with ⟨rfl, hbody⟩
    exact ⟨.nil, _, rfl, Or.inr (Or.inr ⟨ps, rfl, hbody⟩)⟩
  | case4 position p ps c rest hone next ih =>
    rcases phrase_of_scanOne hone hproper with ⟨f, _, hps, hrest⟩
    by_cases hnil : rest = []
    · rw [hnil, List.append_nil] at hps
      exact ⟨.nil, f.pieces, hps, Or.inr (Or.inl ⟨f, rfl⟩)⟩
    · have hproper' : ∀ q ∈ rest.dropWhile isGap, q.Proper := by
        intro q hq
        have hmem : q ∈ rest := (List.dropWhile_sublist _).subset hq
        exact hproper q (by simp [hps, hmem])
      have hhead' : ∀ q ∈ (rest.dropWhile isGap).head?, isGap q = false := by
        intro q hq
        have hnot := List.head?_dropWhile_not isGap rest
        rw [hq] at hnot
        simpa using hnot
      rcases Gap.exists_pieces_eq (hrest.takeWhile_ne_nil hnil)
        fun q hq => List.mem_takeWhile_imp hq with ⟨g, hg⟩
      rcases ih hproper' hhead' with ⟨l, later, hlater, hend⟩
      refine ⟨.cons f g l, later, ?_, hend⟩
      rw [hps, Lead.pieces, hg, List.append_assoc, List.append_assoc, ← hlater,
        List.takeWhile_append_dropWhile]

/-! ## Readable beginnings -/

/-- Whether a phrase has been begun: one more letter makes it one. -/
def Begun (ps : List Piece) : Prop := ∃ f : Phrase, f.pieces = ps ++ [.char 'x']

theorem Begun.isItem {ps : List Piece} (h : Begun ps) {p : Piece} (hp : p ∈ ps) : p.IsItem := by
  rcases h with ⟨f, hf⟩
  exact f.isItem_of_mem_pieces (by simp [hf, hp])

theorem isItem_letter : (Piece.char 'x').IsItem := .char (by decide) (by decide)

/-- A letter by itself, with or without a minus sign. -/
def Phrase.letter (negated : Bool) : Phrase where
  negated := negated
  first := .char 'x'
  more := []
  first_isItem := isItem_letter
  first_ne_minus := by decide
  more_isItem := nofun

/-- What has been begun is nothing, a minus sign or a phrase. -/
theorem begun_iff {ps : List Piece} :
    Begun ps ↔ ps = [] ∨ ps = [.char '-'] ∨ ∃ f : Phrase, ps = f.pieces := by
  constructor
  · rintro ⟨⟨negated, first, more, hfirst, hminus, hmore⟩, h⟩
    rcases List.eq_nil_or_concat' more with rfl | ⟨others, last, rfl⟩
    · cases negated with
      | false =>
        have hitems : [] ++ [first] = ps ++ [.char 'x'] := h
        exact Or.inl (List.append_inj' hitems rfl).1.symm
      | true =>
        have hitems : [.char '-'] ++ [first] = ps ++ [.char 'x'] := h
        exact Or.inr (Or.inl (List.append_inj' hitems rfl).1.symm)
    · -- The last item is the letter, and without it the phrase is one as well.
      have hothers : ∀ p ∈ others, p.IsItem := fun p hp => hmore p (by simp [hp])
      refine Or.inr (Or.inr ⟨⟨negated, first, others, hfirst, hminus, hothers⟩, ?_⟩)
      cases negated with
      | false =>
        have hitems : (first :: others) ++ [last] = ps ++ [.char 'x'] := h
        exact (List.append_inj' hitems rfl).1.symm
      | true =>
        have hitems : (.char '-' :: first :: others) ++ [last] = ps ++ [.char 'x'] := h
        exact (List.append_inj' hitems rfl).1.symm
  · rintro (rfl | rfl | ⟨f, rfl⟩)
    · exact ⟨Phrase.letter false, rfl⟩
    · exact ⟨Phrase.letter true, rfl⟩
    · refine ⟨⟨f.negated, f.first, f.more ++ [.char 'x'], f.first_isItem, f.first_ne_minus, ?_⟩, ?_⟩
      · intro p hp
        rcases List.mem_append.1 hp with hp | hp
        · exact f.more_isItem p hp
        · rw [List.mem_singleton.1 hp]
          exact isItem_letter
      · cases hneg : f.negated <;> simp [Phrase.pieces, Phrase.items, hneg]

section

variable {f : Phrase} {rest : List Piece} (hf : f.pieces = rest ++ [.char 'x'])
include hf

theorem written_of_letter : f.clause.written = Piece.writtenAll rest ++ ['x'] := by
  rw [← f.writtenAll_pieces, hf, Piece.writtenAll_append]
  rfl

/-- The joining word does not end with the letter. -/
theorem isAnd_of_letter : f.clause.isAnd = false := by
  rw [Bool.eq_false_iff, Ne, isAnd_eq_true_iff]
  rintro ⟨hsign, a, _, n, _, d, hd, htext⟩
  have hwritten : [a, n] ++ [d] = Piece.writtenAll rest ++ ['x'] := by
    rw [← written_of_letter hf, written, if_neg (by simp [hsign]), htext]
    rfl
  rw [List.head_eq_of_cons_eq (List.append_inj' hwritten rfl).2] at hd
  exact absurd hd (by decide)

theorem filter_clauses_before (l : Lead) :
    (l.before (.single f)).clauses.filter (fun c => !c.isAnd) =
      (l.clauses.filter fun c => !c.isAnd) ++ [f.clause] := by
  rw [l.clauses_before, List.filter_append]
  simp [Layout.clauses, isAnd_of_letter hf]

end

/-- A text with a letter at its end is split exactly if it is a lead with what has been begun of a
phrase behind it. -/
theorem split_letter_iff {t : Text} {found : List Clause} (ht : Trim (t ++ ['x'])) :
    split (t ++ ['x']) = .ok found ↔
      ∃ (l : Lead) (f : Phrase) (rest : List Piece), t = Piece.writtenAll (l.pieces ++ rest) ∧
        f.pieces = rest ++ [.char 'x'] ∧
          found = (l.clauses.filter fun c => !c.isAnd) ++ [f.clause] := by
  rw [split_eq_ok_iff]
  simp only [scanAll_eq_ok_iff, strip_of_trim ht]
  constructor
  · rintro ⟨scanned, ⟨hnil, _⟩ | ⟨layout, hwritten, rfl⟩, rfl⟩
    · simp at hnil
    · rcases Lead.exists_before layout with ⟨l, f, rfl⟩
      have hpieces := Layout.writtenAll_pieces (l.before (.single f))
      rw [hwritten] at hpieces
      rcases Piece.exists_concat (by decide) hpieces with ⟨qs, hqs, rfl⟩
      rw [l.pieces_before, Layout.pieces] at hqs
      -- The letter belongs to the last phrase, which has a piece at least.
      rcases List.eq_nil_or_concat' f.pieces with hnil | ⟨rest, last, hlast⟩
      · exact absurd hnil f.pieces_ne_nil
      · rw [hlast, ← List.append_assoc] at hqs
        rcases List.append_inj' hqs rfl with ⟨rfl, hletter⟩
        rw [hletter] at hlast
        exact ⟨l, f, rest, rfl, hlast, filter_clauses_before hlast l⟩
  · rintro ⟨l, f, rest, rfl, hf, rfl⟩
    refine ⟨_, Or.inr ⟨l.before (.single f), ?_, rfl⟩, (filter_clauses_before hf l).symm⟩
    rw [← Layout.writtenAll_pieces, l.pieces_before, Layout.pieces, hf, ← List.append_assoc,
      Piece.writtenAll_append]
    rfl

end Clause

end CardQuery
