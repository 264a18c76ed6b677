import CardQuery.Clause
import CardQuery.Proofs.Text.Strip

/-!
# Derivations of queries

The grammar of queries.  A query is derived as a sequence of phrases with gaps between them, a
gap being a run of blanks.  A phrase is an optional minus sign and the items of a body, and an item
is a closed quoted region or a character that is neither a quote nor a blank.  Derivations are
data, so that a query can be written from its derivation and two derivations can be compared.

Main results:

- `Layout.pieces_written` says that the query of a derivation is read as the pieces that the
  derivation is made of.
- `Layout.trim_written` says that a derived query neither begins nor ends with a blank.
- `Layout.written_injective` says that no query is derived in two ways.
-/

namespace CardQuery

/-- What a body is made of: a closed region, or a character that is neither a quote nor a
blank. -/
inductive Piece.IsItem : Piece → Prop
  | char {c : Char} : c ≠ '"' → Text.isBlank c = false → IsItem (.char c)
  | region {inner : Text} : Region.Inner inner → IsItem (.region inner)

namespace Clause

/-! ## Derivations -/

/-- A clause as the grammar derives it: an optional minus sign and the items of the body, the
first of which is no minus sign. -/
structure Phrase where
  negated : Bool
  first : Piece
  more : List Piece
  first_isItem : first.IsItem
  first_ne_minus : first ≠ .char '-'
  more_isItem : ∀ p ∈ more, p.IsItem

/-- A run of blanks between two phrases. -/
structure Gap where
  run : Text
  blanks : Text.Blanks run
  ne_nil : run ≠ []

/-- A query as the grammar derives it: phrases with gaps between them. -/
inductive Layout
  | single (phrase : Phrase)
  | join (phrase : Phrase) (gap : Gap) (rest : Layout)

namespace Phrase

/-- The items of the body. -/
def items (f : Phrase) : List Piece := f.first :: f.more

/-- The clause that a phrase derives. -/
def clause (f : Phrase) : Clause := ⟨f.negated, Piece.writtenAll f.items⟩

/-- The pieces of a phrase, the minus sign included. -/
def pieces (f : Phrase) : List Piece := if f.negated then .char '-' :: f.items else f.items

end Phrase

/-- The pieces of a gap. -/
def Gap.pieces (g : Gap) : List Piece := g.run.map .char

namespace Layout

/-- The query that is written from a derivation. -/
def written : Layout → Text
  | single f => f.clause.written
  | join f g rest => f.clause.written ++ g.run ++ rest.written

/-- The clauses of a derivation in order. -/
def clauses : Layout → List Clause
  | single f => [f.clause]
  | join f _ rest => f.clause :: rest.clauses

/-- The pieces of a derivation. -/
def pieces : Layout → List Piece
  | single f => f.pieces
  | join f g rest => f.pieces ++ (g.pieces ++ rest.pieces)

end Layout

end Clause

/-! ## Items -/

namespace Piece

@[simp] theorem writtenAll_append (ps qs : List Piece) :
    writtenAll (ps ++ qs) = writtenAll ps ++ writtenAll qs := by
  simp [writtenAll]

theorem writtenAll_cons (p : Piece) (ps : List Piece) :
    writtenAll (p :: ps) = p.written ++ writtenAll ps := rfl

/-- Characters outside of regions are written as they are. -/
@[simp] theorem writtenAll_map_char (t : Text) : writtenAll (t.map .char) = t := by
  induction t with
  | nil => rfl
  | cons c t ih => rw [List.map_cons, writtenAll_cons, ih]; rfl

namespace IsItem

variable {p : Piece}

theorem proper (h : p.IsItem) : p.Proper := by
  cases h with
  | char hquote _ => exact hquote
  | region hinner => exact hinner

theorem isGap_eq_false (h : p.IsItem) : Clause.isGap p = false := by
  cases h with
  | char _ hblank => exact hblank
  | region _ => rfl

theorem of_proper (hproper : p.Proper) (hgap : Clause.isGap p = false) : p.IsItem := by
  cases p with
  | char c => exact .char hproper hgap
  | region inner => exact .region hproper

theorem written_ne_nil (_h : p.IsItem) : p.written ≠ [] := by
  cases p <;> simp [Piece.written]

/-- An item neither begins nor ends with a blank. -/
theorem trim_written (h : p.IsItem) : p.written.Trim := by
  cases h with
  | @char c _ hblank =>
    constructor <;> intro d hd <;> simp [Piece.written] at hd <;> simpa [← hd] using hblank
  | @region inner _ =>
    constructor
    · intro d hd
      obtain rfl : '"' = d := by simpa [Piece.written] using hd
      decide
    · intro d hd
      rw [Piece.written, List.getLast?_concat, Option.mem_some_iff] at hd
      subst hd
      decide

/-- Items one after the other neither begin nor end with a blank. -/
theorem trim_writtenAll {ps : List Piece} (h : ∀ p ∈ ps, p.IsItem) : (writtenAll ps).Trim := by
  induction ps with
  | nil => exact ⟨nofun, nofun⟩
  | cons p ps ih =>
    rw [writtenAll_cons]
    exact (h p (by simp)).trim_written.append (ih fun q hq => h q (by simp [hq]))

end IsItem

end Piece

namespace Clause

/-! ## Phrases -/

namespace Phrase

variable (f : Phrase)

theorem isItem_of_mem_items {p : Piece} (h : p ∈ f.items) : p.IsItem := by
  rcases List.mem_cons.1 h with rfl | h
  · exact f.first_isItem
  · exact f.more_isItem p h

/-- The minus sign is an item as well. -/
theorem isItem_of_mem_pieces {p : Piece} (h : p ∈ f.pieces) : p.IsItem := by
  unfold pieces at h
  split at h
  next =>
    rcases List.mem_cons.1 h with rfl | h
    · exact .char (by decide) (by decide)
    · exact f.isItem_of_mem_items h
  next => exact f.isItem_of_mem_items h

theorem pieces_ne_nil : f.pieces ≠ [] := by
  unfold pieces items
  split <;> exact List.cons_ne_nil _ _

theorem writtenAll_pieces : Piece.writtenAll f.pieces = f.clause.written := by
  cases hneg : f.negated <;> simp [pieces, clause, written, hneg, Piece.writtenAll, Piece.written]

theorem written_ne_nil : f.clause.written ≠ [] := by
  rw [← writtenAll_pieces]
  rcases List.exists_cons_of_ne_nil f.pieces_ne_nil with ⟨p, ps, hps⟩
  have hp : p.IsItem := f.isItem_of_mem_pieces (hps ▸ List.mem_cons_self)
  rw [hps, Piece.writtenAll_cons]
  simp [hp.written_ne_nil]

/-- A clause neither begins nor ends with a blank. -/
theorem trim_written : f.clause.written.Trim := by
  rw [← writtenAll_pieces]
  exact Piece.IsItem.trim_writtenAll fun _ => f.isItem_of_mem_pieces

theorem head?_append (rest : List Piece) : ∀ p ∈ (f.pieces ++ rest).head?, isGap p = false := by
  rcases List.exists_cons_of_ne_nil f.pieces_ne_nil with ⟨p, ps, hps⟩
  intro q hq
  rw [hps, List.cons_append, List.head?_cons, Option.mem_some_iff] at hq
  subst hq
  exact (f.isItem_of_mem_pieces (hps ▸ List.mem_cons_self)).isGap_eq_false

end Phrase

/-! ## Where a phrase ends -/

/-- Whether a sequence of pieces is empty or begins with a blank, so that a clause ends before
it. -/
def AtGap (ps : List Piece) : Prop := ∀ p ∈ ps.head?, isGap p = true

theorem atGap_nil : AtGap [] := nofun

/-- Where a phrase ends, the next pieces are the blanks of a gap. -/
theorem AtGap.takeWhile_ne_nil {ps : List Piece} (h : AtGap ps) (hne : ps ≠ []) :
    ps.takeWhile isGap ≠ [] := by
  rcases List.exists_cons_of_ne_nil hne with ⟨p, rest, rfl⟩
  have hp : isGap p = true := h p rfl
  simp [hp]

/-- The items of a body are cut off up to the next blank. -/
theorem cut_items {items rest : List Piece} (hitems : ∀ p ∈ items, p.IsItem) (hrest : AtGap rest) :
    (items ++ rest).takeWhile (fun q => !isGap q) = items ∧
      (items ++ rest).dropWhile (fun q => !isGap q) = rest := by
  have hkeep : ∀ p ∈ items, (!isGap p) = true := by
    intro p hp
    simp [(hitems p hp).isGap_eq_false]
  rw [List.takeWhile_append_of_pos hkeep, List.dropWhile_append_of_pos hkeep]
  cases rest with
  | nil => simp
  | cons p rest =>
    have hp : isGap p = true := hrest p rfl
    simp [hp]

/-- A phrase is told by its pieces: a minus sign in front can only be the sign of the phrase. -/
theorem Phrase.pieces_injective : Function.Injective Phrase.pieces := by
  rintro ⟨negated, first, more, _, hfirst, _⟩ ⟨negated', first', more', _, hfirst', _⟩ h
  cases negated with
  | false =>
    cases negated' with
    | false =>
      rcases List.cons.inj h with ⟨rfl, rfl⟩
      rfl
    | true => exact absurd (List.cons.inj h).1 hfirst
  | true =>
    cases negated' with
    | false => exact absurd (List.cons.inj h).1.symm hfirst'
    | true =>
      rcases List.cons.inj (List.cons.inj h).2 with ⟨rfl, rfl⟩
      rfl

/-- A phrase in front of a blank or the end is told by the pieces. -/
theorem phrase_unique {f f' : Phrase} {rest rest' : List Piece} (hrest : AtGap rest)
    (hrest' : AtGap rest') (h : f.pieces ++ rest = f'.pieces ++ rest') :
    f = f' ∧ rest = rest' := by
  rcases cut_items (fun _ => f.isItem_of_mem_pieces) hrest with ⟨htake, hdrop⟩
  rcases cut_items (fun _ => f'.isItem_of_mem_pieces) hrest' with ⟨htake', hdrop'⟩
  rw [h] at htake hdrop
  exact ⟨Phrase.pieces_injective (htake.symm.trans htake'), hdrop.symm.trans hdrop'⟩

/-! ## Gaps -/

namespace Gap

variable (g : Gap)

theorem isGap_of_mem_pieces {p : Piece} (h : p ∈ g.pieces) : isGap p = true := by
  rcases List.mem_map.1 h with ⟨c, hc, rfl⟩
  exact g.blanks c hc

/-- A quote is no blank. -/
theorem proper_of_mem_pieces {p : Piece} (h : p ∈ g.pieces) : p.Proper := by
  rcases List.mem_map.1 h with ⟨c, hc, rfl⟩
  rintro rfl
  exact absurd (g.blanks _ hc) (by decide)

theorem writtenAll_pieces : Piece.writtenAll g.pieces = g.run :=
  Piece.writtenAll_map_char g.run

/-- What begins with a gap begins with a blank. -/
theorem atGap_append (rest : List Piece) : AtGap (g.pieces ++ rest) := by
  rcases List.exists_cons_of_ne_nil g.ne_nil with ⟨c, run, hrun⟩
  intro p hp
  rw [pieces, hrun, List.map_cons, List.cons_append, List.head?_cons, Option.mem_some_iff] at hp
  subst hp
  exact g.blanks c (hrun ▸ List.mem_cons_self)

/-- Every run of pieces that are blanks is a gap. -/
theorem exists_pieces_eq {ps : List Piece} (hne : ps ≠ []) (h : ∀ p ∈ ps, isGap p = true) :
    ∃ g : Gap, g.pieces = ps := by
  have key : ∀ qs : List Piece, (∀ p ∈ qs, isGap p = true) →
      ∃ run : Text, run.Blanks ∧ run.map Piece.char = qs := by
    intro qs hqs
    induction qs with
    | nil => exact ⟨[], nofun, rfl⟩
    | cons q qs ih =>
      rcases ih fun p hp => hqs p (by simp [hp]) with ⟨run, hblanks, rfl⟩
      have hq := hqs q (by simp)
      cases q with
      | char c =>
        refine ⟨c :: run, ?_, rfl⟩
        intro d hd
        rcases List.mem_cons.1 hd with rfl | hd
        · exact hq
        · exact hblanks d hd
      | region inner => cases hq
  rcases key ps h with ⟨run, hblanks, rfl⟩
  exact ⟨⟨run, hblanks, by simpa using hne⟩, rfl⟩

/-- A gap is cut off where a phrase begins. -/
theorem cut_pieces {rest : List Piece} (hrest : ∀ p ∈ rest.head?, isGap p = false) :
    (g.pieces ++ rest).takeWhile isGap = g.pieces ∧
      (g.pieces ++ rest).dropWhile isGap = rest := by
  have hkeep : ∀ p ∈ g.pieces, isGap p = true := fun _ => g.isGap_of_mem_pieces
  rw [List.takeWhile_append_of_pos hkeep, List.dropWhile_append_of_pos hkeep]
  cases rest with
  | nil => simp
  | cons p rest =>
    have hp : isGap p = false := hrest p rfl
    simp [hp]

theorem pieces_ne_nil : g.pieces ≠ [] := by
  simpa [pieces] using g.ne_nil

theorem eq_of_pieces {g g' : Gap} (h : g.pieces = g'.pieces) : g = g' := by
  have hrun : g.run = g'.run := by
    rw [← g.writtenAll_pieces, h, g'.writtenAll_pieces]
  cases g
  cases g'
  simp_all

end Gap

/-! ## Derivations -/

namespace Layout

variable (t : Layout)

/-- The pieces of a derivation can be read as they are. -/
theorem proper_of_mem_pieces {p : Piece} (h : p ∈ t.pieces) : p.Proper := by
  induction t with
  | single f => exact (f.isItem_of_mem_pieces h).proper
  | join f g rest ih =>
    rcases List.mem_append.1 h with h | h
    · exact (f.isItem_of_mem_pieces h).proper
    · rcases List.mem_append.1 h with h | h
      · exact g.proper_of_mem_pieces h
      · exact ih h

/-- A derivation is written by the pieces it is made of. -/
theorem writtenAll_pieces : Piece.writtenAll t.pieces = t.written := by
  induction t with
  | single f => exact f.writtenAll_pieces
  | join f g rest ih =>
    simp [pieces, written, ih, f.writtenAll_pieces, g.writtenAll_pieces]

/-- The query of a derivation is read as the pieces of the derivation, to its end. -/
theorem pieces_written : Piece.pieces t.written = (t.pieces, []) := by
  have hread := Piece.pieces_append_written (fun _ => t.proper_of_mem_pieces) []
  rw [List.append_nil, t.writtenAll_pieces] at hread
  simpa [Piece.pieces] using hread

theorem pieces_ne_nil : t.pieces ≠ [] := by
  cases t with
  | single f => exact f.pieces_ne_nil
  | join f g rest => simp [pieces, f.pieces_ne_nil]

theorem written_ne_nil : t.written ≠ [] := by
  cases t with
  | single f => exact f.written_ne_nil
  | join f g rest => simp [written, f.written_ne_nil]

/-- The query of a derivation neither begins nor ends with a blank. -/
theorem trim_written : t.written.Trim := by
  induction t with
  | single f => exact f.trim_written
  | join f g rest ih =>
    exact f.trim_written.surround ih f.written_ne_nil rest.written_ne_nil g.run

theorem head?_pieces : ∀ p ∈ t.pieces.head?, isGap p = false := by
  cases t with
  | single f => simpa [pieces] using f.head?_append []
  | join f g rest => exact f.head?_append _

/-! ### Uniqueness -/

/-- A derivation is told by its pieces. -/
theorem pieces_injective : Function.Injective pieces := by
  intro t t' h
  induction t generalizing t' with
  | single f =>
    cases t' with
    | single f' =>
      have hcut : f.pieces ++ [] = f'.pieces ++ [] := by simpa [pieces] using h
      rw [(phrase_unique atGap_nil atGap_nil hcut).1]
    | join f' g' rest' =>
      have hcut : f.pieces ++ [] = f'.pieces ++ (g'.pieces ++ rest'.pieces) := by
        simpa [pieces] using h
      have hnil := (phrase_unique atGap_nil (g'.atGap_append _) hcut).2
      exact absurd (List.append_eq_nil_iff.1 hnil.symm).1 g'.pieces_ne_nil
  | join f g rest ih =>
    cases t' with
    | single f' =>
      have hcut : f.pieces ++ (g.pieces ++ rest.pieces) = f'.pieces ++ [] := by
        simpa [pieces] using h
      have hnil := (phrase_unique (g.atGap_append _) atGap_nil hcut).2
      exact absurd (List.append_eq_nil_iff.1 hnil).1 g.pieces_ne_nil
    | join f' g' rest' =>
      rcases phrase_unique (g.atGap_append _) (g'.atGap_append _) h with ⟨rfl, hlater⟩
      rcases g.cut_pieces rest.head?_pieces with ⟨htake, hdrop⟩
      rcases g'.cut_pieces rest'.head?_pieces with ⟨htake', hdrop'⟩
      have hg : g = g' := Gap.eq_of_pieces (by rw [← htake, hlater, htake'])
      have hr : rest = rest' := ih (by rw [← hdrop, hlater, hdrop'])
      rw [hg, hr]

/-- No query is derived in two ways. -/
theorem written_injective : Function.Injective written := by
  intro t t' h
  have hread := congrArg Piece.pieces h
  rw [t.pieces_written, t'.pieces_written] at hread
  exact pieces_injective (Prod.mk.inj hread).1

end Layout

end Clause

end CardQuery
