import CardQuery.Proofs.Clause.Lead

/-!
# Faults in queries

Where a query is wrong if it cannot be split into clauses.  There are two ways to be wrong: a quote
is left open, or a minus sign has no clause.  Both are told from the query itself.  The fault stands
where what has been read could still become a query, with one more letter, and where nothing that
is typed after it can.  There is one such place only, so the fault that is reported is the first
one.

Main results:

- `openQuote_iff` and `bareMinus_iff` say what has been read in front of a fault.
- `split_eq_error_iff` says which error is reported.
- `split_fault` says when each of the two faults is reported, and where.
-/

namespace CardQuery

open Text

namespace Clause

/-! ## The two faults -/

/-- A quote that is left open: no closed region begins there, and what stands in front of it could
go on with a letter. -/
structure OpenQuote (t : Text) (p : Nat) : Prop where
  quote : t[p]? = some '"'
  no_region : ∀ inner, Region.Inner inner → ¬('"' :: inner ++ ['"']) <+: t.drop p
  readable : ∃ found, split (t.take p ++ ['x']) = .ok found

/-- Whether no clause that a minus sign negates begins where a text does. -/
def NoClause (t : Text) : Prop := ∀ c ∈ t.head?, c = '-' ∨ isBlank c = true

/-- A minus sign without a clause: with a letter behind it the sign would negate a last clause,
but what stands behind it is nothing, another minus sign or a blank. -/
structure BareMinus (t : Text) (p : Nat) : Prop where
  minus : t[p]? = some '-'
  readable : ∃ found, split (t.take p ++ ['-', 'x']) = .ok (found ++ [⟨true, ['x']⟩])
  no_clause : NoClause (t.drop (p + 1))

/-- What is reported of a minus sign at `position` by the text behind it. -/
def missingClause (position : Nat) : Text → QueryFault
  | [] => .expectedClause .endOfQuery position
  | '-' :: _ => .expectedClause .minus (position + 1)
  | t => .expectedClause (.blanks (t.takeWhile isBlank)) (position + 1)

/-- The faults of a text, with their positions. -/
inductive Faulty (t : Text) : QueryFault → Prop
  | quote {p : Nat} : OpenQuote t p → Faulty t (.unterminatedQuote p)
  | minus {p : Nat} : BareMinus t p → Faulty t (missingClause p (t.drop (p + 1)))

/-! ## What has been read in front of a fault -/

/-- A text is cut in front of one of its characters. -/
theorem cut_at {t : Text} {p : Nat} {c : Char} (h : t[p]? = some c) :
    t.drop p = c :: t.drop (p + 1) ∧ (t.take p).length = p := by
  rcases List.getElem?_eq_some_iff.1 h with ⟨hp, hget⟩
  exact ⟨by rw [List.drop_eq_getElem_cons hp, hget], List.length_take_of_le hp.le⟩

section

variable {t : Text} (ht : Trim t) {p : Nat}
include ht

/-- A quote is left open behind a lead and what has been begun of a phrase. -/
theorem openQuote_iff :
    OpenQuote t p ↔ ∃ (l : Lead) (rest : List Piece) (after : Text),
      t = Piece.writtenAll (l.pieces ++ rest) ++ '"' :: after ∧ Begun rest ∧
        Region.close? after = none ∧ p = (Piece.writtenAll (l.pieces ++ rest)).length := by
  have htrim : Trim (t.take p ++ ['x']) :=
    ht.take_append (Phrase.letter false).trim_written nofun p
  constructor
  · rintro ⟨hquote, hregion, found, hfound⟩
    rcases cut_at hquote with ⟨hdrop, hlength⟩
    rcases (split_letter_iff htrim).1 hfound with ⟨l, f, rest, htake, hf, _⟩
    refine ⟨l, rest, t.drop (p + 1), ?_, ⟨f, hf⟩, ?_, ?_⟩
    · rw [← htake, ← hdrop, List.take_append_drop]
    · -- If the region closed, it would be a closed region at the quote.
      rw [Option.eq_none_iff_forall_ne_some]
      rintro ⟨inner, later⟩ hclose
      rcases Region.close?_eq_some_iff.1 hclose with ⟨hinner, hlater⟩
      refine hregion inner hinner ⟨later, ?_⟩
      rw [hdrop, hlater]
      simp
    · rw [← htake, hlength]
  · rintro ⟨l, rest, after, rfl, ⟨f, hf⟩, hclose, rfl⟩
    refine ⟨by simp, ?_, ?_⟩
    · rintro inner hinner ⟨later, hlater⟩
      rw [List.drop_left] at hlater
      have hafter : after = inner ++ '"' :: later := by simpa using hlater.symm
      rw [hafter, Region.close?_of_inner hinner] at hclose
      cases hclose
    · exact ⟨_, (split_letter_iff htrim).2 ⟨l, f, rest, List.take_left, hf, rfl⟩⟩

/-- A minus sign has no clause behind a lead. -/
theorem bareMinus_iff :
    BareMinus t p ↔ ∃ (l : Lead) (after : Text), t = Piece.writtenAll l.pieces ++ '-' :: after ∧
      NoClause after ∧ p = (Piece.writtenAll l.pieces).length := by
  have hsign : t.take p ++ ['-', 'x'] = (t.take p ++ ['-']) ++ ['x'] := by simp
  have htrim : Trim ((t.take p ++ ['-']) ++ ['x']) := by
    rw [← hsign]
    exact ht.take_append (Phrase.letter true).trim_written nofun p
  constructor
  · rintro ⟨hminus, ⟨found, hfound⟩, hclause⟩
    rcases cut_at hminus with ⟨hdrop, hlength⟩
    rw [hsign, split_letter_iff htrim] at hfound
    rcases hfound with ⟨l, f, rest, htake, hf, hlast⟩
    -- The last clause is the negated letter, so the sign is all that has been begun of it.
    have hletter : f.clause = ⟨true, ['x']⟩ :=
      (List.head_eq_of_cons_eq (List.append_inj' hlast rfl).2).symm
    have hrest : ['-'] ++ ['x'] = Piece.writtenAll rest ++ ['x'] := by
      rw [← written_of_letter hf, hletter]
      rfl
    rw [Piece.writtenAll_append, ← (List.append_inj' hrest rfl).1] at htake
    have hread : t.take p = Piece.writtenAll l.pieces := (List.append_inj' htake rfl).1
    refine ⟨l, t.drop (p + 1), ?_, hclause, ?_⟩
    · rw [← hread, ← hdrop, List.take_append_drop]
    · rw [← hread, hlength]
  · rintro ⟨l, after, rfl, hclause, rfl⟩
    refine ⟨by simp, ?_, ?_⟩
    · rw [hsign]
      refine ⟨l.clauses.filter fun c => !c.isAnd, (split_letter_iff htrim).2 ?_⟩
      refine ⟨l, .letter true, [.char '-'], ?_, rfl, rfl⟩
      rw [List.take_left, Piece.writtenAll_append]
      rfl
    · rw [← List.drop_drop, List.drop_left]
      exact hclause

/-- A minus sign without a body has no clause. -/
theorem bareMinus_of_noBody {l : Lead} {ps : List Piece} {tail : Text}
    (h : t = Piece.writtenAll (l.pieces ++ .char '-' :: ps) ++ tail) (hps : NoBody ps)
    (htail : ps = [] → tail = []) : BareMinus t (Piece.writtenAll l.pieces).length := by
  have hclause : NoClause (Piece.writtenAll ps ++ tail) := by
    cases ps with
    | nil =>
      rw [htail rfl]
      exact nofun
    | cons p rest =>
      intro c hc
      rcases hps p rfl with rfl | hgap
      · exact Or.inl (Option.some.inj hc).symm
      · cases p with
        | char d =>
          rw [← Option.some.inj hc]
          exact Or.inr hgap
        | region inner => cases hgap
  refine (bareMinus_iff ht).2 ⟨l, Piece.writtenAll ps ++ tail, ?_, hclause, rfl⟩
  rw [h, Piece.writtenAll_append, Piece.writtenAll_cons, List.append_assoc]
  rfl

end

/-! ## Where the scan stops -/

/-- The clauses of a text that stands at `position` of a query. -/
def scanText (position : Nat) (t : Text) : Except QueryFault (List Clause) :=
  scan (!(Piece.pieces t).2.isEmpty) position (Piece.pieces t).1

/-- The scan goes past a lead, if what stands behind it does not begin with a blank. -/
theorem scanText_lead (l : Lead) (position : Nat) {t : Text}
    (h : ∀ c ∈ t.head?, isBlank c = false) :
    scanText position (Piece.writtenAll l.pieces ++ t) =
      (scanText (position + (Piece.writtenAll l.pieces).length) t).map (l.clauses ++ ·) := by
  rw [scanText, Piece.pieces_append_written fun _ => l.proper_of_mem_pieces]
  exact l.scan_append _ _ (Piece.head?_pieces h)

/-- The scan stops where no clause is found. -/
theorem scan_of_scanOne_error {isOpen : Bool} {position : Nat} {p : Piece} {ps : List Piece}
    {fault : QueryFault} (h : scanOne isOpen position (p :: ps) = .error fault) :
    scan isOpen position (p :: ps) = .error fault := by
  rw [scan]
  split
  next fault' herror =>
    rw [h] at herror
    rw [Except.error.inj herror]
  next c rest hok =>
    rw [h] at hok
    cases hok

/-- The scan stops at an open quote behind what has been begun of a phrase. -/
theorem scanText_begun {ps : List Piece} {after : Text} (h : Begun ps)
    (hafter : Region.close? after = none) (position : Nat) :
    scanText position (Piece.writtenAll ps ++ '"' :: after) =
      .error (.unterminatedQuote (position + (Piece.writtenAll ps).length)) := by
  have hproper : ∀ p ∈ ps, p.Proper := fun p hp => (h.isItem hp).proper
  have hread : Piece.pieces (Piece.writtenAll ps ++ '"' :: after) = (ps, '"' :: after) := by
    rw [Piece.pieces_append_written hproper, Piece.pieces_of_close?_eq_none hafter,
      List.append_nil]
  rw [scanText, hread]
  rcases begun_iff.1 h with rfl | rfl | ⟨f, rfl⟩
  · simp [scan, Piece.writtenAll]
  · exact scan_of_scanOne_error rfl
  · have hone := scanOne_phrase f atGap_nil true position
    rw [List.append_nil] at hone
    simp [scan_of_scanOne hone, scan, Except.map, f.writtenAll_pieces]

/-- The scan stops at a minus sign without a clause. -/
theorem scanText_minus {after : Text} (h : NoClause after) (position : Nat) :
    scanText position ('-' :: after) = .error (missingClause position after) := by
  have hread : Piece.pieces ('-' :: after) =
      (.char '-' :: (Piece.pieces after).1, (Piece.pieces after).2) := by
    rw [Piece.pieces, if_neg (by decide)]
  rw [scanText, hread]
  apply scan_of_scanOne_error
  rw [scanOne]
  cases after with
  | nil => simp [Piece.pieces, scanBody, missingClause]
  | cons c rest =>
    have hquote : c ≠ '"' := by
      rintro rfl
      exact absurd (h _ rfl) (by decide)
    have hrun := Piece.writtenAll_takeWhile_isGap (c :: rest)
    rw [Piece.pieces, if_neg hquote] at hrun ⊢
    by_cases hminus : c = '-'
    · subst hminus
      rfl
    · have hblank : isGap (.char c) = true := (h c rfl).resolve_left hminus
      have hpiece : Piece.char c ≠ .char '-' := by simpa using hminus
      rw [scanBody, if_neg hpiece, if_pos hblank, hrun, missingClause]
      · exact List.cons_ne_nil c rest
      · rintro _ heq
        exact hminus (List.cons.inj heq).1

section

variable {t : Text} (ht : Trim t)
include ht

theorem scanText_of_openQuote {p : Nat} (h : OpenQuote t p) :
    scanText 0 t = .error (.unterminatedQuote p) := by
  rcases (openQuote_iff ht).1 h with ⟨l, rest, after, rfl, hrest, hafter, rfl⟩
  have hhead : ∀ c ∈ (Piece.writtenAll rest ++ '"' :: after).head?, isBlank c = false := by
    have hitems := Piece.IsItem.trim_writtenAll fun _ => hrest.isItem
    cases hwritten : Piece.writtenAll rest with
    | nil =>
      intro c hc
      rw [← Option.some.inj hc]
      decide
    | cons d more =>
      rw [hwritten] at hitems
      exact hitems.head
  rw [Piece.writtenAll_append, List.append_assoc, scanText_lead l 0 hhead,
    scanText_begun hrest hafter, List.length_append, Nat.zero_add]
  rfl

theorem scanText_of_bareMinus {p : Nat} (h : BareMinus t p) :
    scanText 0 t = .error (missingClause p (t.drop (p + 1))) := by
  rcases (bareMinus_iff ht).1 h with ⟨l, after, rfl, hafter, rfl⟩
  have hhead : ∀ c ∈ ('-' :: after).head?, isBlank c = false := by
    intro c hc
    rw [← Option.some.inj hc]
    decide
  rw [scanText_lead l 0 hhead, scanText_minus hafter, ← List.drop_drop, List.drop_left,
    Nat.zero_add]
  rfl

/-- A text is read to its end, or a quote is left open, or a minus sign has no clause. -/
theorem exists_ok_or_faulty :
    (∃ found, scanText 0 t = .ok found) ∨ (∃ p, OpenQuote t p) ∨ ∃ p, BareMinus t p := by
  have hproper : ∀ p ∈ (Piece.pieces t).1, p.Proper := fun _ => Piece.proper_of_mem_pieces
  rcases exists_lead hproper (Piece.head?_pieces ht.head) with ⟨l, rest, hps, hend⟩
  have hwritten := Piece.written_pieces t
  rw [hps] at hwritten
  by_cases hclosed : (Piece.pieces t).2 = []
  · have hscan : scanText 0 t = scan false 0 (l.pieces ++ rest) := by
      rw [scanText, hps, hclosed]
      rfl
    rcases hend with rfl | ⟨f, rfl⟩ | ⟨after, rfl, hafter⟩
    · have hnil : ∀ p ∈ ([] : List Piece).head?, isGap p = false := nofun
      rw [hscan, l.scan_append false 0 hnil, scan]
      exact Or.inl ⟨_, rfl⟩
    · have hlayout := scan_pieces (l.before (.single f)) 0
      rw [l.pieces_before] at hlayout
      exact Or.inl ⟨_, hscan.trans hlayout⟩
    · exact Or.inr (Or.inr ⟨_, bareMinus_of_noBody ht hwritten.symm hafter fun _ => hclosed⟩)
  · rcases Piece.open_of_pieces hclosed with ⟨after, hopen, hclose⟩
    rw [hopen] at hwritten
    have hquote : Begun rest → ∃ p, OpenQuote t p := fun hrest =>
      ⟨_, (openQuote_iff ht).2 ⟨l, rest, after, hwritten.symm, hrest, hclose, rfl⟩⟩
    rcases hend with rfl | ⟨f, rfl⟩ | ⟨later, rfl, hlater⟩
    · exact Or.inr (Or.inl (hquote (begun_iff.2 (Or.inl rfl))))
    · exact Or.inr (Or.inl (hquote (begun_iff.2 (Or.inr (Or.inr ⟨f, rfl⟩)))))
    · -- The open quote is read as the body of the minus sign, if nothing stands between them.
      by_cases hnil : later = []
      · subst hnil
        exact Or.inr (Or.inl (hquote (begun_iff.2 (Or.inr (Or.inl rfl)))))
      · exact Or.inr (Or.inr ⟨_, bareMinus_of_noBody ht hwritten.symm hlater (absurd · hnil)⟩)

/-- Exactly the faults of a text stop the scan. -/
theorem scanText_eq_error_iff {fault : QueryFault} :
    scanText 0 t = .error fault ↔ Faulty t fault := by
  constructor
  · intro h
    rcases exists_ok_or_faulty ht with ⟨found, hfound⟩ | ⟨p, hquote⟩ | ⟨p, hminus⟩
    · rw [h] at hfound
      cases hfound
    · rw [scanText_of_openQuote ht hquote] at h
      rw [← Except.error.inj h]
      exact .quote hquote
    · rw [scanText_of_bareMinus ht hminus] at h
      rw [← Except.error.inj h]
      exact .minus hminus
  · rintro (hquote | hminus)
    · exact scanText_of_openQuote ht hquote
    · exact scanText_of_bareMinus ht hminus

end

/-! ## The errors of a query -/

/-- A query that is not split has a fault, which is reported with the stripped query. -/
theorem split_eq_error_iff {query : Text} {e : QueryError} :
    split query = .error e ↔ e.query = query.strip ∧ Faulty query.strip e.fault := by
  rw [← scanText_eq_error_iff (trim_strip query)]
  have hscan : scanAll query =
      (scanText 0 query.strip).mapError fun fault => ⟨query.strip, fault⟩ := rfl
  rcases e with ⟨text, fault⟩
  rw [split, hscan]
  cases scanText 0 query.strip with
  | ok found => simp [Except.map]
  | error fault' => simp [Except.map, eq_comm]

theorem exists_missingClause (position : Nat) (t : Text) :
    ∃ found p, missingClause position t = .expectedClause found p := by
  unfold missingClause
  split <;> exact ⟨_, _, rfl⟩

/-- Only an open quote is an unterminated quote. -/
theorem faulty_unterminatedQuote_iff {t : Text} {p : Nat} :
    Faulty t (.unterminatedQuote p) ↔ OpenQuote t p := by
  constructor
  · intro h
    generalize hfault : QueryFault.unterminatedQuote p = fault at h
    cases h with
    | quote hquote =>
      rw [QueryFault.unterminatedQuote.inj hfault]
      exact hquote
    | @minus q _ =>
      rcases exists_missingClause q (t.drop (q + 1)) with ⟨found, position, hmissing⟩
      rw [hmissing] at hfault
      cases hfault
  · exact .quote

/-- Only a minus sign is without its clause. -/
theorem exists_faulty_expectedClause_iff {t : Text} :
    (∃ found position, Faulty t (.expectedClause found position)) ↔ ∃ p, BareMinus t p := by
  constructor
  · rintro ⟨found, position, h⟩
    generalize hfault : QueryFault.expectedClause found position = fault at h
    cases h with
    | quote _ => cases hfault
    | minus hminus => exact ⟨_, hminus⟩
  · rintro ⟨p, hminus⟩
    rcases exists_missingClause p (t.drop (p + 1)) with ⟨found, position, hmissing⟩
    exact ⟨found, position, hmissing ▸ .minus hminus⟩

/-- An open quote and a minus sign without a clause are reported where they stand.

An unterminated quote is reported at a position exactly if a quote is left open there, and there is
one such position at most.  A missing clause is reported exactly if a minus sign has none, and it
is reported of that sign by what stands behind it.  Nothing else is reported, and the query of the
report is the stripped one. -/
theorem split_fault (query : Text) :
    (∀ p, split query = .error ⟨query.strip, .unterminatedQuote p⟩ ↔ OpenQuote query.strip p) ∧
      (∀ p p', OpenQuote query.strip p → OpenQuote query.strip p' → p = p') ∧
      ((∃ found position, split query = .error ⟨query.strip, .expectedClause found position⟩) ↔
        ∃ p, BareMinus query.strip p) ∧
      (∀ p, BareMinus query.strip p →
        split query = .error ⟨query.strip, missingClause p (query.strip.drop (p + 1))⟩) ∧
      ∀ e, split query = .error e → e.query = query.strip ∧
        ((∃ p, e.fault = .unterminatedQuote p) ∨
          ∃ found position, e.fault = .expectedClause found position) := by
  have ht := trim_strip query
  refine ⟨fun p => ?_, fun p p' h h' => ?_, ?_, fun p h => ?_, fun e h => ?_⟩
  · simp only [split_eq_error_iff, true_and, faulty_unterminatedQuote_iff]
  · have hone := scanText_of_openQuote ht h
    rw [scanText_of_openQuote ht h', Except.error.injEq] at hone
    exact (QueryFault.unterminatedQuote.inj hone).symm
  · simp only [split_eq_error_iff, true_and, exists_faulty_expectedClause_iff]
  · exact split_eq_error_iff.2 ⟨rfl, .minus h⟩
  · rcases e with ⟨text, fault⟩
    rcases split_eq_error_iff.1 h with ⟨hquery, hfault⟩
    refine ⟨hquery, ?_⟩
    cases hfault with
    | quote _ => exact Or.inl ⟨_, rfl⟩
    | minus _ => exact Or.inr (exists_missingClause _ _)

example : split "a\"b \\\" c\" - \"d".toList =
    .error ⟨"a\"b \\\" c\" - \"d".toList, .expectedClause (.blanks [' ']) 11⟩ := by cbv

end Clause

end CardQuery
