import CardQuery.Proofs.Clause.Grammar
import CardQuery.Proofs.Region.Value

/-!
# Clauses in writing

Clauses are written one after the other with blanks between them, and splitting what is written
finds them again.  Not every clause can be found in a query: its text has to be made of items, the
first of which is no minus sign, and the joining word is never found.  These are all conditions.

Main results:

- `scanAll_append` and `split_append` say that the clauses of two queries put together are those of
  the first followed by those of the second.
- `split_of_writable` says that a clause that meets the conditions is the only clause of the query
  that is its written form.
- `split_of_spaced` says that clauses with blanks between and around them are found again.
- `writable_of_mem_split` says that every clause of a query meets the conditions.
- `length_le_of_mem_split` says that a clause is not longer than its query.
- `split_writing` puts the two directions together.
-/

namespace CardQuery

namespace Clause

/-! ## Derivations put together -/

namespace Layout

/-- A derivation continued by a gap and another derivation. -/
def append : Layout → Gap → Layout → Layout
  | single f, g, later => join f g later
  | join f g' rest, g, later => join f g' (rest.append g later)

theorem written_append (t : Layout) (g : Gap) (later : Layout) :
    (t.append g later).written = t.written ++ g.run ++ later.written := by
  induction t with
  | single f => rfl
  | join f g' rest ih => simp [append, written, ih]

theorem clauses_append (t : Layout) (g : Gap) (later : Layout) :
    (t.append g later).clauses = t.clauses ++ later.clauses := by
  induction t with
  | single f => rfl
  | join f g' rest ih => simp [append, clauses, ih]

end Layout

/-! ## Clauses of queries put together -/

/-- The clauses of two queries put together are those of the first followed by those of the
second. -/
theorem scanAll_append {a b : Text} {found later : List Clause} (g : Gap)
    (ha : scanAll a = .ok found) (hb : scanAll b = .ok later) :
    scanAll (a ++ g.run ++ b) = .ok (found ++ later) := by
  rw [scanAll_eq_ok_iff] at ha hb ⊢
  rcases ha with ⟨hstripA, rfl⟩ | ⟨t, ht, rfl⟩
  · -- The first query and the gap are blanks in front of the second.
    have hlead : Text.Blanks (a ++ g.run) :=
      Text.Blanks.append (Text.strip_eq_nil_iff.1 hstripA) g.blanks
    have hstrip : (a ++ g.run ++ b).strip = b.strip := by
      simpa using Text.strip_surround hlead Text.blanks_nil b
    rw [hstrip, List.nil_append]
    exact hb
  · rcases hb with ⟨hstripB, rfl⟩ | ⟨t', ht', rfl⟩
    · -- The gap and the second query are blanks behind the first.
      have htrail : Text.Blanks (g.run ++ b) :=
        g.blanks.append (Text.strip_eq_nil_iff.1 hstripB)
      have hstrip : (a ++ g.run ++ b).strip = a.strip := by
        simpa using Text.strip_surround Text.blanks_nil htrail a
      rw [hstrip, List.append_nil]
      exact Or.inr ⟨t, ht, rfl⟩
    · have hneA : a.strip ≠ [] := ht ▸ t.written_ne_nil
      have hneB : b.strip ≠ [] := ht' ▸ t'.written_ne_nil
      rcases Text.strip_join g.blanks g.ne_nil hneA hneB with ⟨run, hblanks, hne, hstrip⟩
      refine Or.inr ⟨t.append ⟨run, hblanks, hne⟩ t', ?_, t.clauses_append _ _⟩
      rw [Layout.written_append, ht, ht', hstrip]

/-- The same holds without the clauses that only join. -/
theorem split_append {a b : Text} {found later : List Clause} (g : Gap)
    (ha : split a = .ok found) (hb : split b = .ok later) :
    split (a ++ g.run ++ b) = .ok (found ++ later) := by
  rw [split_eq_ok_iff] at ha hb ⊢
  rcases ha with ⟨scannedA, hscanA, rfl⟩
  rcases hb with ⟨scannedB, hscanB, rfl⟩
  exact ⟨scannedA ++ scannedB, scanAll_append g hscanA hscanB, (List.filter_append _ _).symm⟩

/-! ## Clauses that can be found -/

/-- The body of a clause: one item at least, each a closed region or a character that is neither a
quote nor a blank, and no minus sign in front. -/
structure Body (t : Text) : Prop where
  ofItems : t.OfItems
  ne_nil : t ≠ []
  head : t.head? ≠ some '-'

instance : DecidablePred Body := fun t =>
  decidable_of_iff (t.OfItems ∧ t ≠ [] ∧ t.head? ≠ some '-')
    ⟨fun ⟨hitems, hne, hhead⟩ => ⟨hitems, hne, hhead⟩, fun h => ⟨h.ofItems, h.ne_nil, h.head⟩⟩

/-- A clause that can be found in a query: it has a body and is not the joining word. -/
structure Writable (c : Clause) : Prop where
  body : Body c.text
  not_joins : ¬c.Joins

instance : DecidablePred Writable := fun c =>
  decidable_of_iff (Body c.text ∧ ¬c.Joins)
    ⟨fun ⟨hbody, hjoins⟩ => ⟨hbody, hjoins⟩, fun h => ⟨h.body, h.not_joins⟩⟩

/-- A clause that can be found is the only clause of the query that is its written form. -/
theorem split_of_writable {c : Clause} (h : Writable c) : split c.written = .ok [c] := by
  rcases c with ⟨negated, text⟩
  obtain ⟨ps, hitems, rfl⟩ := h.body.ofItems
  have hne : ps ≠ [] := by
    rintro rfl
    exact h.body.ne_nil rfl
  have hhead : ps.head? ≠ some (.char '-') := by
    intro hminus
    rcases List.exists_cons_of_ne_nil hne with ⟨p, more, rfl⟩
    obtain rfl : p = .char '-' := by simpa using hminus
    exact h.body.head rfl
  have hjoins : isAnd ⟨negated, Piece.writtenAll ps⟩ = false := by
    rw [Bool.eq_false_iff, Ne, isAnd_eq_true_iff]
    exact h.not_joins
  exact split_eq_ok_iff.2 ⟨_, scanAll_written negated ps hne hhead hitems, by simp [hjoins]⟩

/-- A text of items that begins neither like a minus sign nor like the joining word is a single
clause, with or without a minus sign in front. -/
theorem split_of_items {text rest : Text} {c : Char} (negated : Bool) (h : text.OfItems)
    (htext : text = c :: rest) (hc : c ∉ ['-', 'A', 'a']) :
    split (written ⟨negated, text⟩) = .ok [⟨negated, text⟩] := by
  subst htext
  have hhead : (c :: rest).head? ≠ some '-' := by
    intro hminus
    exact hc (by simp [Option.some.inj hminus])
  have hjoins : ¬Joins ⟨negated, c :: rest⟩ := by
    rintro ⟨_, a, ha, n, _, d, _, hword⟩
    exact hc (List.mem_cons_of_mem _ ((List.cons.inj hword).1 ▸ ha))
  exact split_of_writable ⟨⟨h, List.cons_ne_nil _ _, hhead⟩, hjoins⟩

/-! ## Clauses with blanks between them -/

/-- Clauses in writing: blanks stand behind each clause, one at least if another clause follows. -/
inductive Spaced : List Clause → Text → Prop
  | nil {blanks : Text} : blanks.Blanks → Spaced [] blanks
  | cons {c : Clause} {rest : List Clause} {blanks t : Text} : blanks.Blanks →
      (rest ≠ [] → blanks ≠ []) → Spaced rest t → Spaced (c :: rest) (c.written ++ blanks ++ t)

/-- Blanks around a query make no difference to its clauses. -/
theorem split_surround {lead trail : Text} (hlead : lead.Blanks) (htrail : trail.Blanks)
    (t : Text) : split (lead ++ t ++ trail) = split t := by
  simp only [split, scanAll, Text.strip_surround hlead htrail t]

/-- Clauses with blanks between and around them are found again. -/
theorem split_of_spaced {clauses : List Clause} {lead t : Text}
    (hall : ∀ c ∈ clauses, Writable c) (hlead : lead.Blanks) (h : Spaced clauses t) :
    split (lead ++ t) = .ok clauses := by
  have hbehind : split t = .ok clauses := by
    induction h with
    | nil hblanks => exact split_of_blank hblanks
    | @cons c rest blanks t hblanks hgap hrest ih =>
      have hfirst := split_of_writable (hall c List.mem_cons_self)
      have hlater := ih fun d hd => hall d (List.mem_cons_of_mem _ hd)
      by_cases hlast : rest = []
      · subst hlast
        cases hrest with
        | nil htrail =>
          rw [List.append_assoc, ← List.nil_append (c.written ++ (blanks ++ t)),
            ← List.append_assoc, split_surround Text.blanks_nil (hblanks.append htrail)]
          exact hfirst
      · exact split_append ⟨blanks, hblanks, hgap hlast⟩ hfirst hlater
  have hfront := split_surround hlead Text.blanks_nil t
  rw [List.append_nil] at hfront
  rw [hfront, hbehind]

/-- Clauses with single spaces between them are written with blanks between them. -/
theorem spaced_intercalate (clauses : List Clause) :
    Spaced clauses (List.intercalate [' '] (clauses.map written)) := by
  induction clauses with
  | nil => exact .nil Text.blanks_nil
  | cons c rest ih =>
    cases rest with
    | nil =>
      have hone := Spaced.cons (c := c) Text.blanks_nil (fun h => absurd rfl h) ih
      simpa using hone
    | cons d rest =>
      have hspace : Text.Blanks [' '] := by decide
      have hmore := Spaced.cons (c := c) hspace (fun _ => List.cons_ne_nil _ _) ih
      simpa [List.intercalate_cons_cons] using hmore

/-! ## The clauses of a query -/

/-- The clause of a phrase has a body. -/
theorem Phrase.body (f : Phrase) : Body f.clause.text where
  ofItems := ⟨f.items, fun _ => f.isItem_of_mem_items, rfl⟩
  ne_nil := by
    intro hnil
    have hfirst := f.first_isItem.written_ne_nil
    rw [clause, items, Piece.writtenAll_cons, List.append_eq_nil_iff] at hnil
    exact hfirst hnil.1
  head := by
    intro hminus
    rcases f with ⟨negated, first, more, hitem, hne, hmore⟩
    cases first with
    | char c =>
      have hc : c = '-' := by
        simpa [clause, items, Piece.writtenAll_cons, Piece.written] using hminus
      exact hne (hc ▸ rfl)
    | region inner => simp [clause, items, Piece.writtenAll_cons, Piece.written] at hminus

/-- The clauses of a derivation have bodies. -/
theorem Layout.body_of_mem_clauses {t : Layout} {c : Clause} (hc : c ∈ t.clauses) :
    Body c.text := by
  induction t with
  | single f =>
    rw [List.mem_singleton.1 hc]
    exact f.body
  | join f g rest ih =>
    rcases List.mem_cons.1 hc with rfl | hc
    · exact f.body
    · exact ih hc

/-- The clauses of a query are clauses that can be found. -/
theorem writable_of_mem_split {query : Text} {clauses : List Clause}
    (h : split query = .ok clauses) {c : Clause} (hc : c ∈ clauses) : Writable c := by
  rcases split_eq_ok_iff.1 h with ⟨scanned, hscanned, rfl⟩
  rcases List.mem_filter.1 hc with ⟨hmem, hnot⟩
  have hjoins : ¬c.Joins := by
    rw [← isAnd_eq_true_iff]
    simpa using hnot
  rcases scanAll_eq_ok_iff.1 hscanned with ⟨_, rfl⟩ | ⟨t, _, rfl⟩
  · cases hmem
  · exact ⟨Layout.body_of_mem_clauses hmem, hjoins⟩

/-- A clause of a derivation is not longer than what is written from it. -/
theorem Layout.length_le_of_mem_clauses {t : Layout} {c : Clause} (hc : c ∈ t.clauses) :
    c.written.length ≤ t.written.length := by
  induction t with
  | single f => rw [List.mem_singleton.1 hc, written]
  | join f g rest ih =>
    rw [written, List.length_append, List.length_append]
    rcases List.mem_cons.1 hc with rfl | hc
    · omega
    · have hrest := ih hc
      omega

/-- A clause is not longer than the query that it is found in. -/
theorem length_le_of_mem_split {query : Text} {clauses : List Clause}
    (h : split query = .ok clauses) {c : Clause} (hc : c ∈ clauses) :
    c.written.length ≤ query.length := by
  rcases split_eq_ok_iff.1 h with ⟨scanned, hscanned, rfl⟩
  have hmem := (List.mem_filter.1 hc).1
  rcases scanAll_eq_ok_iff.1 hscanned with ⟨_, rfl⟩ | ⟨t, ht, rfl⟩
  · cases hmem
  · rcases Text.exists_strip query with ⟨lead, trail, _, _, hquery⟩
    rw [hquery, List.length_append, List.length_append, ← ht]
    have hle := Layout.length_le_of_mem_clauses hmem
    omega

/-- Splitting undoes writing.  Clauses that have bodies and are not the joining word are found again
in what they are written as, with a minus sign in front of the negated ones, blanks between them
and any blanks around them.  And only such clauses are found in a query, so writing the clauses of a
query with single spaces between them and splitting again gives the same clauses. -/
theorem split_writing :
    (∀ (clauses : List Clause) (lead t : Text), (∀ c ∈ clauses, Writable c) → lead.Blanks →
        Spaced clauses t → split (lead ++ t) = .ok clauses) ∧
      ∀ (query : Text) (clauses : List Clause), split query = .ok clauses →
        (∀ c ∈ clauses, Writable c) ∧
          split (List.intercalate [' '] (clauses.map written)) = .ok clauses := by
  refine ⟨fun clauses lead t => split_of_spaced, fun query clauses h => ?_⟩
  have hall : ∀ c ∈ clauses, Writable c := fun c => writable_of_mem_split h
  exact ⟨hall, split_of_spaced hall Text.blanks_nil (spaced_intercalate clauses)⟩

end Clause

end CardQuery
