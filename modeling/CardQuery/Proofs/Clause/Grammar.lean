import CardQuery.Proofs.Clause.Derivation

/-!
# The grammar of queries

The clauses that are found in a query are those of its derivation.

Main results:

- `scan_pieces` says that the clauses of a derivation are found in the query it writes.
- `layout_of_scan` says that nothing but the writing of a derivation is accepted.
- `scanAll_eq_ok_iff` says which clauses a query has as it is typed.
- `split_grammar` says the same of the clauses without the joining word, and that the derivation
  is unique.
-/

namespace CardQuery

namespace Clause

/-! ## Cutting one phrase off -/

/-- The body of a phrase is found where a body is expected. -/
theorem scanBody_phrase (f : Phrase) {rest : List Piece} (hrest : AtGap rest) (isOpen : Bool)
    (position : Nat) :
    scanBody isOpen f.negated position (f.items ++ rest) = .ok (f.clause, rest) := by
  rcases cut_items f.more_isItem hrest with ⟨htake, hdrop⟩
  rw [Phrase.items, List.cons_append, scanBody, if_neg f.first_ne_minus,
    if_neg (by simp [f.first_isItem.isGap_eq_false]), htake, hdrop]
  rfl

/-- A phrase is found where a clause is expected, and what follows it is left. -/
theorem scanOne_phrase (f : Phrase) {rest : List Piece} (hrest : AtGap rest) (isOpen : Bool)
    (position : Nat) :
    scanOne isOpen position (f.pieces ++ rest) = .ok (f.clause, rest) := by
  cases hneg : f.negated with
  | true =>
    have hbody := scanBody_phrase f hrest isOpen (position + 1)
    rw [Phrase.pieces, if_pos hneg, List.cons_append, scanOne, ← hneg, hbody]
  | false =>
    have hbody := scanBody_phrase f hrest isOpen position
    rw [Phrase.pieces, if_neg (by simp [hneg]), scanOne, ← hneg, hbody]
    intro others hothers
    exact f.first_ne_minus (List.cons.inj hothers).1

/-- The body that is found is that of a phrase. -/
theorem phrase_of_scanBody {isOpen negated : Bool} {position : Nat} {ps rest : List Piece}
    {c : Clause} (h : scanBody isOpen negated position ps = .ok (c, rest))
    (hproper : ∀ p ∈ ps, p.Proper) :
    ∃ f : Phrase, f.negated = negated ∧ f.clause = c ∧ ps = f.items ++ rest ∧ AtGap rest := by
  cases ps with
  | nil => cases isOpen <;> simp [scanBody] at h
  | cons p ps =>
    rw [scanBody] at h
    split at h
    next => cases h
    next hminus =>
      split at h
      next => cases h
      next hgap =>
        have hfirst : p.IsItem := .of_proper (hproper p (by simp)) (by simpa using hgap)
        have hmore : ∀ q ∈ ps.takeWhile fun q => !isGap q, q.IsItem := by
          intro q hq
          have hmem : q ∈ ps := (List.takeWhile_sublist _).subset hq
          refine .of_proper (hproper q (by simp [hmem])) ?_
          simpa using List.mem_takeWhile_imp hq
        cases h
        refine ⟨⟨negated, p, _, hfirst, hminus, hmore⟩, rfl, rfl, ?_, ?_⟩
        · simp [Phrase.items]
        · intro q hq
          have hnot := List.head?_dropWhile_not (fun q => !isGap q) ps
          rw [hq] at hnot
          simpa using hnot

/-- The clause that is found is that of a phrase. -/
theorem phrase_of_scanOne {isOpen : Bool} {position : Nat} {ps rest : List Piece} {c : Clause}
    (h : scanOne isOpen position ps = .ok (c, rest)) (hproper : ∀ p ∈ ps, p.Proper) :
    ∃ f : Phrase, f.clause = c ∧ ps = f.pieces ++ rest ∧ AtGap rest := by
  fun_cases scanOne isOpen position ps with
  | case1 ps =>
    obtain ⟨f, hneg, hc, rfl, hrest⟩ :=
      phrase_of_scanBody h fun p hp => hproper p (List.mem_cons_of_mem _ hp)
    exact ⟨f, hc, by simp [Phrase.pieces, hneg], hrest⟩
  | case2 ps hminus =>
    rw [scanOne] at h
    · rcases phrase_of_scanBody h hproper with ⟨f, hneg, hc, rfl, hrest⟩
      exact ⟨f, hc, by simp [Phrase.pieces, hneg], hrest⟩
    · exact hminus

/-! ## Scanning a derivation -/

/-- Scanning goes on after a clause and the blanks behind it. -/
theorem scan_of_scanOne {isOpen : Bool} {position : Nat} {ps rest : List Piece} {c : Clause}
    (h : scanOne isOpen position ps = .ok (c, rest)) :
    scan isOpen position ps =
      (scan isOpen (position + c.written.length + (rest.takeWhile isGap).length)
        (rest.dropWhile isGap)).map (c :: ·) := by
  cases ps with
  | nil =>
    have := length_of_scanOne h
    simp at this
  | cons p ps =>
    rw [scan]
    split
    next fault herror =>
      rw [h] at herror
      cases herror
    next c' rest' hok =>
      rw [h] at hok
      cases hok
      rfl

/-- The clauses of a derivation are found in the pieces of its query. -/
theorem scan_pieces (t : Layout) (position : Nat) :
    scan false position t.pieces = .ok t.clauses := by
  induction t generalizing position with
  | single f =>
    have hone := scanOne_phrase f atGap_nil false position
    rw [List.append_nil] at hone
    rw [Layout.pieces, scan_of_scanOne hone]
    simp [scan, Except.map, Layout.clauses]
  | join f g rest ih =>
    have hone := scanOne_phrase f (g.atGap_append rest.pieces) false position
    rw [Layout.pieces, scan_of_scanOne hone, (g.cut_pieces rest.head?_pieces).2, ih]
    rfl

/-- The clauses that are found are those of a derivation, which leaves blanks at the end only. -/
theorem layout_of_scan {isOpen : Bool} {position : Nat} {ps : List Piece} {found : List Clause}
    (h : scan isOpen position ps = .ok found) (hproper : ∀ p ∈ ps, p.Proper) :
    isOpen = false ∧ (ps = [] ∧ found = [] ∨
      ∃ (t : Layout) (trail : List Piece), t.clauses = found ∧ ps = t.pieces ++ trail ∧
        ∀ p ∈ trail, isGap p = true) := by
  fun_induction scan isOpen position ps generalizing found with
  | case1 => cases h
  | case2 position hopen =>
    cases h
    exact ⟨by simpa using hopen, Or.inl ⟨rfl, rfl⟩⟩
  | case3 => cases h
  | case4 position p ps c rest hone next =>
    rename_i ih
    rcases phrase_of_scanOne hone hproper with ⟨f, hc, hps, hrest⟩
    cases hlater : scan isOpen next (rest.dropWhile isGap) with
    | error fault =>
      rw [hlater] at h
      cases h
    | ok later =>
      rw [hlater] at h
      cases h
      have hproper' : ∀ q ∈ rest.dropWhile isGap, q.Proper := by
        intro q hq
        have hmem : q ∈ rest := (List.dropWhile_sublist _).subset hq
        exact hproper q (by simp [hps, hmem])
      rcases ih hlater hproper' with ⟨hopen, hnil | ⟨t, trail, ht, hdrop, htrail⟩⟩
      · -- Nothing but blanks follows the clause.
        refine ⟨hopen, Or.inr ⟨.single f, rest, ?_, hps, List.dropWhile_eq_nil_iff.1 hnil.1⟩⟩
        rw [Layout.clauses, hc, hnil.2]
      · -- Another clause follows, so that the blanks between the two are a gap.
        have hgap : rest.takeWhile isGap ≠ [] := by
          apply hrest.takeWhile_ne_nil
          intro hnil
          rw [hnil] at hdrop
          simp [t.pieces_ne_nil] at hdrop
        rcases Gap.exists_pieces_eq hgap fun q hq => List.mem_takeWhile_imp hq with ⟨g, hg⟩
        refine ⟨hopen, Or.inr ⟨.join f g t, trail, ?_, ?_, htrail⟩⟩
        · rw [Layout.clauses, hc, ht]
        · rw [hps, Layout.pieces, hg, List.append_assoc, List.append_assoc, ← hdrop,
            List.takeWhile_append_dropWhile]

/-! ## Queries as they are typed -/

/-- The clauses of a query are those of the derivation of the stripped query; a query of blanks
has no derivation and no clauses. -/
theorem scanAll_eq_ok_iff {query : Text} {found : List Clause} :
    scanAll query = .ok found ↔
      query.strip = [] ∧ found = [] ∨
        ∃ t : Layout, t.written = query.strip ∧ t.clauses = found := by
  constructor
  · intro h
    obtain ⟨scanned, hscan⟩ : ∃ scanned,
        scan (!(Piece.pieces query.strip).2.isEmpty) 0 (Piece.pieces query.strip).1 =
          .ok scanned := by
      simp only [scanAll] at h
      cases hscan : scan (!(Piece.pieces query.strip).2.isEmpty) 0 (Piece.pieces query.strip).1 with
      | error fault =>
        rw [hscan] at h
        cases h
      | ok scanned => exact ⟨scanned, rfl⟩
    obtain rfl : scanned = found := by
      simpa [scanAll, hscan] using h
    have hwritten := Piece.written_pieces query.strip
    obtain ⟨hopen, hempty | ⟨t, trail, ht, hps, htrail⟩⟩ :=
      layout_of_scan hscan fun _ => Piece.proper_of_mem_pieces
    · have hrest : (Piece.pieces query.strip).2 = [] := by simpa using hopen
      rw [hempty.1, hrest] at hwritten
      exact Or.inl ⟨hwritten.symm, hempty.2⟩
    · have hrest : (Piece.pieces query.strip).2 = [] := by simpa using hopen
      rw [hps, hrest, Piece.writtenAll_append, t.writtenAll_pieces, List.append_nil] at hwritten
      refine Or.inr ⟨t, ?_, ht⟩
      have hnil : trail = [] := by
        by_contra hne
        rcases Gap.exists_pieces_eq hne htrail with ⟨g, rfl⟩
        rw [g.writtenAll_pieces] at hwritten
        exact g.ne_nil ((Text.trim_strip query).eq_nil_of_blanks hwritten.symm g.blanks)
      rw [hnil] at hwritten
      simpa [Piece.writtenAll] using hwritten
  · rintro (⟨hstrip, rfl⟩ | ⟨t, ht, rfl⟩)
    · simp [scanAll, hstrip, Piece.pieces, scan]
    · simp [scanAll, ← ht, t.pieces_written, scan_pieces]

/-- A clause that is made of items, the first of which is no minus sign, is the only clause of
the query that is its written form. -/
theorem scanAll_written (negated : Bool) (ps : List Piece) (hne : ps ≠ [])
    (hhead : ps.head? ≠ some (.char '-')) (hitems : ∀ p ∈ ps, p.IsItem) :
    scanAll (written ⟨negated, Piece.writtenAll ps⟩) = .ok [⟨negated, Piece.writtenAll ps⟩] := by
  rcases List.exists_cons_of_ne_nil hne with ⟨p, more, rfl⟩
  have hfirst : p ≠ .char '-' := fun heq => hhead (by simp [heq])
  let t : Layout := .single ⟨negated, p, more, hitems p (by simp), hfirst,
    fun q hq => hitems q (by simp [hq])⟩
  exact scanAll_eq_ok_iff.2 (Or.inr ⟨t, (Text.strip_of_trim t.trim_written).symm, rfl⟩)

/-- A word without quotes that does not begin with a minus sign is a clause by itself. -/
theorem scanAll_word {t : Text} (hne : t ≠ []) (hhead : t.head? ≠ some '-')
    (hplain : t.Plain) : scanAll t = .ok [⟨false, t⟩] := by
  have hscan := scanAll_written false (t.map .char) (by simpa using hne)
    (by cases t <;> simp_all) (by
      intro p hp
      rcases List.mem_map.1 hp with ⟨c, hc, rfl⟩
      exact .char (hplain c hc).1 (hplain c hc).2)
  rw [Piece.writtenAll_map_char] at hscan
  exact hscan

theorem split_eq_ok_iff {query : Text} {found : List Clause} :
    split query = .ok found ↔
      ∃ scanned, scanAll query = .ok scanned ∧ found = scanned.filter fun c => !c.isAnd := by
  unfold split
  cases scanAll query <;> simp [Except.map, eq_comm]

/-! ## The joining word -/

/-- Capitals are made of the 26 small letters, by their places in the alphabet. -/
theorem toNat_toUpper (c : Char) :
    c.toUpper.toNat = if 97 ≤ c.toNat ∧ c.toNat ≤ 122 then c.toNat - 32 else c.toNat := by
  have hsmall : (97 ≤ c.toNat ∧ c.toNat ≤ 122) ↔ 'a'.val ≤ c.val ∧ c.val ≤ 'z'.val := Iff.rfl
  simp only [hsmall]
  unfold Char.toUpper
  split
  next h =>
    have hlow : 97 ≤ c.val.toNat := h.1
    have hhigh : c.val.toNat ≤ 122 := h.2
    have hstep : ('A'.val - 'a'.val).toNat = 4294967264 := rfl
    show (c.val + ('A'.val - 'a'.val)).toNat = c.val.toNat - 32
    rw [UInt32.toNat_add]
    omega
  next => rfl

/-- The characters with a given capital are the capital itself and its small letter. -/
theorem toUpper_eq_iff {c big small : Char} (hbig : 65 ≤ big.toNat ∧ big.toNat ≤ 90)
    (hsmall : small.toNat = big.toNat + 32) : c.toUpper = big ↔ c = big ∨ c = small := by
  simp only [← Char.toNat_inj, toNat_toUpper]
  split <;> omega

/-- The word `AND` in any letter case. -/
def IsAndWord (t : Text) : Prop :=
  ∃ a ∈ ['A', 'a'], ∃ n ∈ ['N', 'n'], ∃ d ∈ ['D', 'd'], t = [a, n, d]

/-- The joining word is the word that is `AND` in capitals. -/
theorem isAndWord_iff {t : Text} : t.map Char.toUpper = ['A', 'N', 'D'] ↔ IsAndWord t := by
  have ha := fun x : Char => @toUpper_eq_iff x 'A' 'a' (by decide) (by decide)
  have hn := fun x : Char => @toUpper_eq_iff x 'N' 'n' (by decide) (by decide)
  have hd := fun x : Char => @toUpper_eq_iff x 'D' 'd' (by decide) (by decide)
  constructor
  · intro h
    rcases List.map_eq_cons_iff.1 h with ⟨x, t, htext, hx, h⟩
    rcases List.map_eq_cons_iff.1 h with ⟨y, t, rfl, hy, h⟩
    rcases List.map_eq_cons_iff.1 h with ⟨z, t, rfl, hz, h⟩
    obtain rfl := List.map_eq_nil_iff.1 h
    exact ⟨x, by simpa using (ha x).1 hx, y, by simpa using (hn y).1 hy, z,
      by simpa using (hd z).1 hz, htext⟩
  · rintro ⟨x, hx, y, hy, z, hz, htext⟩
    rw [htext, List.map_cons, List.map_cons, List.map_cons, List.map_nil,
      (ha x).2 (by simpa using hx), (hn y).2 (by simpa using hy), (hd z).2 (by simpa using hz)]

instance : DecidablePred IsAndWord := fun t =>
  decidable_of_iff (t.map Char.toUpper = ['A', 'N', 'D']) isAndWord_iff

/-- The joining word has no sign, no quote and no blank. -/
theorem IsAndWord.plain {t : Text} (h : IsAndWord t) :
    ∀ c ∈ t, c ≠ '-' ∧ c ≠ '"' ∧ Text.isBlank c = false := by
  have hletter : ∀ c ∈ ['A', 'a'] ++ (['N', 'n'] ++ ['D', 'd']),
      c ≠ '-' ∧ c ≠ '"' ∧ Text.isBlank c = false := by
    simp only [List.cons_append, List.nil_append, List.forall_mem_cons, List.not_mem_nil,
      false_implies, implies_true, and_true]
    decide
  rcases h with ⟨a, ha, n, hn, d, hd, rfl⟩
  intro c hc
  apply hletter
  simp only [List.mem_cons, List.not_mem_nil, or_false] at hc
  rcases hc with rfl | rfl | rfl
  · exact List.mem_append_left _ ha
  · exact List.mem_append_right _ (List.mem_append_left _ hn)
  · exact List.mem_append_right _ (List.mem_append_right _ hd)

/-- A clause that joins its neighbours: the word `AND` without a minus sign. -/
def Joins (c : Clause) : Prop := c.negated = false ∧ IsAndWord c.text

instance : DecidablePred Joins := fun c =>
  inferInstanceAs (Decidable (c.negated = false ∧ IsAndWord c.text))

/-- The check for the joining word finds the clauses that join. -/
theorem isAnd_eq_true_iff {c : Clause} : c.isAnd = true ↔ c.Joins := by
  rw [Joins, ← isAndWord_iff]
  simp [isAnd]

/-- Splitting accepts exactly the queries that the grammar derives, and those of blanks.  The
derivation of a query is unique, and the clauses that are found are its clauses in order without
those that join their neighbours. -/
theorem split_grammar (query : Text) :
    ((∃ found, split query = .ok found) ↔
        query.strip = [] ∨ ∃ t : Layout, t.written = query.strip) ∧
      (∀ t t' : Layout, t.written = query.strip → t'.written = query.strip → t = t') ∧
      (query.strip = [] → split query = .ok []) ∧
      ∀ t : Layout, t.written = query.strip →
        split query = .ok (t.clauses.filter fun c => ¬c.Joins) := by
  have hfilter : (fun c : Clause => !c.isAnd) = fun c => decide ¬c.Joins := by
    funext c
    simp [← isAnd_eq_true_iff]
  refine ⟨?_, ?_, ?_, ?_⟩
  · constructor
    · rintro ⟨found, hfound⟩
      rcases split_eq_ok_iff.1 hfound with ⟨scanned, hscanned, _⟩
      rcases scanAll_eq_ok_iff.1 hscanned with ⟨hstrip, _⟩ | ⟨t, ht, _⟩
      · exact Or.inl hstrip
      · exact Or.inr ⟨t, ht⟩
    · rintro (hstrip | ⟨t, ht⟩)
      · exact ⟨_, split_eq_ok_iff.2 ⟨[], scanAll_eq_ok_iff.2 (Or.inl ⟨hstrip, rfl⟩), rfl⟩⟩
      · exact ⟨_, split_eq_ok_iff.2
          ⟨t.clauses, scanAll_eq_ok_iff.2 (Or.inr ⟨t, ht, rfl⟩), rfl⟩⟩
  · intro t t' ht ht'
    exact Layout.written_injective (ht.trans ht'.symm)
  · intro hstrip
    exact split_of_blank (Text.strip_eq_nil_iff.1 hstrip)
  · intro t ht
    rw [← hfilter]
    exact split_eq_ok_iff.2 ⟨t.clauses, scanAll_eq_ok_iff.2 (Or.inr ⟨t, ht, rfl⟩), rfl⟩

example : split "-x and \"a b\"".toList =
    .ok [⟨true, ['x']⟩, ⟨false, "\"a b\"".toList⟩] := by cbv

end Clause

end CardQuery
