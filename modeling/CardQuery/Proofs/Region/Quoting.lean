import CardQuery.Proofs.Region.Value
import Mathlib.Algebra.Ring.Parity
import Mathlib.Data.List.Basic

/-!
# Quotable texts

A text is put between quotes by writing a backslash before each double quote in it.  The other
backslashes stay as they are, so a run of them must not reach the character behind it when that is
a double quote or the closing quote, nor protect a line break: such a run has to consist of pairs.

Main results:

- `quotable_run` says what being quotable asks of the first run of backslashes.
- `inner_escape_iff` says that exactly the quotable texts can be put between quotes.
- `unquote_quote` says that a quotable text between quotes is read back whole.
- `quotable_unescape` says that no other text is read from between quotes.
-/

namespace CardQuery

namespace Text

/-- A text in which every run of backslashes before a double quote, a line break or the end has
even length. -/
def Quotable (t : Text) : Prop :=
  ∀ (before after : Text) (n : Nat), t = before ++ List.replicate n '\\' ++ after →
    before.getLast? ≠ some '\\' → after.head? ∈ [none, some '"', some '\n'] → Even n

/-! ## Runs of backslashes -/

/-- A text begins with a run of backslashes, which is all of it or ends before another
character. -/
theorem exists_run (t : Text) :
    ∃ n, t = List.replicate n '\\' ∨
      ∃ c rest, c ≠ '\\' ∧ t = List.replicate n '\\' ++ c :: rest := by
  induction t with
  | nil => exact ⟨0, Or.inl rfl⟩
  | cons c t ih =>
    by_cases hc : c = '\\'
    · rcases ih with ⟨n, rfl | ⟨d, rest, hd, rfl⟩⟩
      · exact ⟨n + 1, Or.inl (by rw [hc, List.replicate_succ])⟩
      · exact ⟨n + 1, Or.inr ⟨d, rest, hd, by rw [hc, List.replicate_succ, List.cons_append]⟩⟩
    · exact ⟨0, Or.inr ⟨c, t, hc, rfl⟩⟩

/-- Where a run of backslashes has to be looked at, it has ended. -/
theorem head?_ne_backslash {after : Text} (h : after.head? ∈ [none, some '"', some '\n']) :
    after.head? ≠ some '\\' := by
  intro hhead
  rw [hhead] at h
  revert h
  decide

/-- The first run of backslashes has one length only. -/
theorem run_unique {n k : Nat} {s t : Text}
    (h : List.replicate n '\\' ++ s = List.replicate k '\\' ++ t) (hs : s.head? ≠ some '\\')
    (ht : t.head? ≠ some '\\') : n = k ∧ s = t := by
  induction n generalizing k with
  | zero =>
    cases k with
    | zero => exact ⟨rfl, h⟩
    | succ k =>
      rw [List.replicate_zero, List.nil_append, List.replicate_succ, List.cons_append] at h
      exact absurd (congrArg List.head? h) hs
  | succ n ih =>
    cases k with
    | zero =>
      rw [List.replicate_zero, List.nil_append, List.replicate_succ, List.cons_append] at h
      exact absurd (congrArg List.head? h.symm) ht
    | succ k =>
      rw [List.replicate_succ, List.replicate_succ, List.cons_append, List.cons_append] at h
      rcases ih (List.cons.inj h).2 with ⟨rfl, rfl⟩
      exact ⟨rfl, rfl⟩

theorem eq_nil_of_run {before rest : Text} {n : Nat} (h : List.replicate n '\\' = before ++ rest)
    (hlast : before.getLast? ≠ some '\\') : before = [] := by
  rcases List.eq_nil_or_concat before with hnil | ⟨lead, c, rfl⟩
  · exact hnil
  · have hc : c ∈ List.replicate n '\\' := by simp [h]
    rw [List.concat_eq_append, List.getLast?_concat, List.eq_of_mem_replicate hc] at hlast
    exact absurd rfl hlast

/-- A run of backslashes is quotable by itself if it has even length. -/
theorem quotable_replicate {n : Nat} : Quotable (List.replicate n '\\') ↔ Even n := by
  constructor
  · intro h
    exact h [] [] n (by simp) (by simp) (by simp)
  · intro heven before after k hsplit hlast hafter
    rw [List.append_assoc] at hsplit
    obtain rfl := eq_nil_of_run hsplit hlast
    have hhead := head?_ne_backslash hafter
    have hrun : List.replicate n '\\' ++ [] = List.replicate k '\\' ++ after := by
      simpa using hsplit
    rcases run_unique hrun (by simp) hhead with ⟨rfl, _⟩
    exact heven

/-- A text is quotable if its first run of backslashes may stand before the character behind it
and the rest of the text is quotable. -/
theorem quotable_run {n : Nat} {c : Char} {t : Text} (hc : c ≠ '\\') :
    Quotable (List.replicate n '\\' ++ c :: t) ↔
      (c = '"' ∨ c = '\n' → Even n) ∧ Quotable t := by
  constructor
  · intro h
    constructor
    · intro hspecial
      refine h [] (c :: t) n (by simp) (by simp) ?_
      rcases hspecial with rfl | rfl <;> simp
    · intro before after k hsplit hlast hafter
      refine h (List.replicate n '\\' ++ c :: before) after k (by simp [hsplit]) ?_ hafter
      rw [List.getLast?_append_of_ne_nil _ (List.cons_ne_nil c before), List.getLast?_cons]
      cases hbefore : before.getLast? with
      | none => simpa using hc
      | some d => simpa [hbefore] using hlast
  · rintro ⟨hfirst, hrest⟩ before after k hsplit hlast hafter
    have hhead := head?_ne_backslash hafter
    rw [List.append_assoc, List.append_eq_append_iff] at hsplit
    rcases hsplit with ⟨as, hbefore, htail⟩ | ⟨bs, hrun, htail⟩
    · -- The run that is looked at begins behind the first run.
      cases as with
      | nil =>
        cases k with
        | zero => exact Even.zero
        | succ k =>
          rw [List.replicate_succ, List.nil_append, List.cons_append] at htail
          exact absurd (List.cons.inj htail).1 hc
      | cons a as =>
        rw [List.cons_append] at htail
        rcases List.cons.inj htail with ⟨rfl, ht⟩
        refine hrest as after k (by rw [ht, List.append_assoc]) ?_ hafter
        rw [hbefore, List.getLast?_append_of_ne_nil _ (List.cons_ne_nil c as),
          List.getLast?_cons] at hlast
        intro has
        simp [has] at hlast
    · -- It is the first run itself.
      obtain rfl := eq_nil_of_run hrun hlast
      rw [List.nil_append] at hrun
      rw [← hrun] at htail
      rcases run_unique htail hhead (by simpa using hc) with ⟨rfl, rfl⟩
      apply hfirst
      simpa using hafter

end Text

namespace Region

open Text

/-! ## What can stand between quotes -/

/-- A pair of backslashes can stand before any text between quotes. -/
theorem inner_backslashes {t : Text} : Inner ('\\' :: '\\' :: t) ↔ Inner t := by
  constructor
  · intro h
    cases h with
    | pair _ hrest => exact hrest
    | single _ hslash _ => exact absurd rfl hslash
  · exact fun h => .pair (by decide) h

/-- A run of backslashes can stand between quotes if it consists of pairs. -/
theorem inner_replicate {n : Nat} : Inner (List.replicate n '\\') ↔ Even n := by
  induction n using Nat.twoStepInduction with
  | zero => simp [Inner.nil]
  | one =>
    refine ⟨fun h => ?_, fun h => absurd h (by decide)⟩
    cases h with
    | single _ hslash _ => exact absurd rfl hslash
  | more n ih _ =>
    rw [Nat.even_add, iff_true_right even_two, ← ih]
    exact inner_backslashes

/-- Behind pairs of backslashes a character stands alone, and behind one backslash more it is
protected. -/
theorem inner_run {n : Nat} {c : Char} {t : Text} (hc : c ≠ '\\') :
    Inner (List.replicate n '\\' ++ c :: t) ↔
      (Even n → c ≠ '"') ∧ (¬Even n → c ≠ '\n') ∧ Inner t := by
  induction n using Nat.twoStepInduction with
  | zero =>
    constructor
    · intro h
      cases h with
      | pair _ _ => exact absurd rfl hc
      | single hquote _ hrest => exact ⟨fun _ => hquote, fun hodd => absurd Even.zero hodd, hrest⟩
    · rintro ⟨hquote, _, hrest⟩
      exact .single (hquote Even.zero) hc hrest
  | one =>
    constructor
    · intro h
      cases h with
      | pair hbreak hrest => exact ⟨fun heven => absurd heven (by decide), fun _ => hbreak, hrest⟩
      | single _ hslash _ => exact absurd rfl hslash
    · rintro ⟨_, hbreak, hrest⟩
      exact .pair (hbreak (by decide)) hrest
  | more n ih _ =>
    rw [Nat.even_add, iff_true_right even_two, ← ih]
    exact inner_backslashes

theorem escape_replicate_append (n : Nat) (t : Text) :
    escape (List.replicate n '\\' ++ t) = List.replicate n '\\' ++ escape t := by
  induction n with
  | zero => rfl
  | succ n ih => simp [List.replicate_succ, escape, ih]

/-- Exactly the quotable texts can be put between quotes. -/
theorem inner_escape_iff {t : Text} : Inner (escape t) ↔ t.Quotable := by
  induction hlength : t.length using Nat.strong_induction_on generalizing t with
  | _ length ih =>
    rcases exists_run t with ⟨n, rfl | ⟨c, rest, hc, rfl⟩⟩
    · have hescape := escape_replicate_append n []
      rw [List.append_nil] at hescape
      rw [hescape, escape, List.append_nil, inner_replicate, quotable_replicate]
    · have hrest : Inner (escape rest) ↔ Text.Quotable rest := by
        refine ih rest.length ?_ rfl
        simp only [List.length_append, List.length_cons] at hlength
        omega
      rw [escape_replicate_append, quotable_run hc, ← hrest]
      by_cases hquote : c = '"'
      · -- The quote is written with one backslash more before it.
        have hshift : List.replicate n '\\' ++ escape (c :: rest) =
            List.replicate (n + 1) '\\' ++ '"' :: escape rest := by
          rw [escape, if_pos hquote, List.replicate_succ', List.append_assoc]
          rfl
        rw [hshift, inner_run (by decide), Nat.even_add_one]
        simp [hquote]
      · rw [escape, if_neg hquote, inner_run hc]
        simp only [hquote, false_or, not_false_eq_true, implies_true, true_and, ne_eq]
        tauto

/-- A text can be read as what stands between quotes if it is closed by the next quote. -/
theorem inner_iff_close? {t : Text} : Inner t ↔ close? (t ++ ['"']) = some (t, []) := by
  simp [close?_eq_some_iff]

instance : DecidablePred Text.Quotable := fun t =>
  decidable_of_iff (close? (escape t ++ ['"']) = some (escape t, []))
    (inner_iff_close?.symm.trans inner_escape_iff)

/-! ## Reading quoted texts -/

theorem writtenAll_region_escape (t : Text) :
    Piece.writtenAll [.region (escape t)] = quote t := Piece.writtenAll_region (escape t)

/-- A quotable text between quotes is a single region. -/
theorem proper_region_escape {t : Text} (h : t.Quotable) :
    ∀ p ∈ [Piece.region (escape t)], p.Proper := Piece.proper_region (inner_escape_iff.2 h)

/-- A quotable text between quotes can stand in a clause. -/
theorem ofItems_quote {t : Text} (h : t.Quotable) : (quote t).OfItems := by
  refine ⟨[.region (escape t)], ?_, (writtenAll_region_escape t).symm⟩
  intro p hp
  rw [List.mem_singleton.1 hp]
  exact .region (inner_escape_iff.2 h)

/-- A quotable text between quotes is read back whole. -/
theorem unquote_quote {t : Text} (h : t.Quotable) : (quote t).unquote = ⟨t, true⟩ := by
  have hproper := proper_region_escape h
  have htext : (quote t).unquote.text = t := by
    rw [← writtenAll_region_escape, unquote_text_writtenAll hproper]
    simp [Piece.content, unescape_escape]
  have hquoted : (quote t).unquote.quoted = true := by
    rw [← writtenAll_region_escape, unquote_quoted_iff hproper]
    exact ⟨escape t, rfl⟩
  cases hvalue : (quote t).unquote
  simp_all

/-! ## Reading inner texts -/

/-- An inner text does not begin with a quote. -/
theorem Inner.ne_quote_cons {t rest : Text} (h : Inner t) : t ≠ '"' :: rest := by
  rintro rfl
  cases h with
  | single hquote _ _ => exact hquote rfl

/-- The backslashes that are left out of an inner text are those that `escape` puts in. -/
theorem escape_unescape {t : Text} (h : Inner t) : escape (unescape t) = t := by
  induction h with
  | nil => rfl
  | @pair c t _ hrest ih =>
    by_cases hquote : c = '"'
    · simp [hquote, unescape, escape, ih]
    · have htail : unescape (c :: t) = c :: unescape t := by
        rw [unescape]
        rintro rest rfl rfl
        exact hrest.ne_quote_cons rfl
      rw [unescape, htail, escape, if_neg (by decide), escape, if_neg hquote, ih]
      intro rest _ hpair
      exact hquote (List.cons.inj hpair).1
  | @single c t hquote hslash _ ih =>
    rw [unescape, escape, if_neg hquote, ih]
    rintro rest rfl
    exact absurd rfl hslash

/-- Only quotable texts stand between quotes. -/
theorem quotable_unescape {t : Text} (h : Inner t) : (unescape t).Quotable := by
  rw [← inner_escape_iff, escape_unescape h]
  exact h

end Region

/-- The value of a text of items that counts as quoted is quotable. -/
theorem Text.quotable_of_quoted {t : Text} (h : t.OfItems) (hquoted : t.unquote.quoted = true) :
    t.unquote.text.Quotable := by
  rcases h with ⟨ps, hitems, rfl⟩
  have hproper : ∀ p ∈ ps, p.Proper := fun p hp => (hitems p hp).proper
  rcases (unquote_quoted_iff hproper).1 hquoted with ⟨inner, rfl⟩
  have hinner : Region.Inner inner := hproper _ List.mem_cons_self
  rw [unquote_text_writtenAll hproper]
  simpa [Piece.content] using Region.quotable_unescape hinner

end CardQuery
