import CardQuery.Proofs.Markup.Pieces
import CardQuery.Proofs.Text.Hexadecimal

/-!
# Escaped texts

An escaped text holds no tag.  It has the brackets of the text itself, though, so an opening bracket
that the text leaves open can still begin a tag together with what follows the text.

Main results:

- `tags_read_escape` says that an escaped text has no tags.
- `brackets_escape` says that it has the brackets of the text itself.
- `opensTag_escape` says that it leaves a tag open exactly if the text does.
- `brackets_literal` says that a literal has the brackets of the text it is written for.
-/

namespace CardQuery

namespace Markup

/-! ## What protecting keeps -/

@[simp] theorem protect_nil : protect [] = [] := rfl

theorem protect_cons_of_leads {c : Char} {t : Text} (h : leadsToTag (c :: t) = true) :
    protect (c :: t) = '\\' :: c :: protect t := by rw [protect, if_pos h]

theorem protect_cons_of_not_leads {c : Char} {t : Text} (h : leadsToTag (c :: t) = false) :
    protect (c :: t) = c :: protect t := by rw [protect, if_neg (Bool.eq_false_iff.1 h)]

/-- Protecting a text adds backslashes and no brackets. -/
@[simp] theorem brackets_protect (t : Text) : brackets (protect t) = brackets t := by
  induction t with
  | nil => rfl
  | cons c t ih =>
    have hslash : isInside '\\' = true := by decide
    have hcons : brackets (c :: protect t) = brackets (c :: t) := by
      by_cases hc : isInside c = true
      · rw [brackets_cons_of_inside hc, brackets_cons_of_inside hc, ih]
      · rw [Bool.not_eq_true] at hc
        rw [brackets_cons_of_bracket hc, brackets_cons_of_bracket hc, ih]
    cases hlead : leadsToTag (c :: t) with
    | true => rw [protect_cons_of_leads hlead, brackets_cons_of_inside hslash, hcons]
    | false => rw [protect_cons_of_not_leads hlead, hcons]

/-- Nothing is protected up to a closing bracket that comes first. -/
theorem exists_of_protect_eq {t inner after : Text} (h : protect t = inner ++ ']' :: after)
    (hinner : ∀ c ∈ inner, isInside c = true) : ∃ after, t = inner ++ ']' :: after := by
  induction t generalizing inner with
  | nil => simp at h
  | cons c t ih =>
    have hfirst : (brackets (c :: t)).head? = some ']' := by
      rw [← brackets_protect, ← closesTag_iff]
      exact ⟨inner, after, h, hinner⟩
    cases hlead : leadsToTag (c :: t) with
    | true =>
      rw [head?_brackets_of_leadsToTag hlead] at hfirst
      exact absurd (Option.some.inj hfirst) (by decide)
    | false =>
      rw [protect_cons_of_not_leads hlead] at h
      cases inner with
      | nil => exact ⟨t, by rw [(List.cons.inj h).1]; rfl⟩
      | cons d inner =>
        obtain ⟨rfl, hrest⟩ := List.cons.inj h
        obtain ⟨after, rfl⟩ := ih hrest fun e he => hinner e (List.mem_cons_of_mem c he)
        exact ⟨after, rfl⟩

/-- A bracket begins no tag with a protected text if it begins none with the text itself. -/
theorem tag?_protect_eq_none {c : Char} {t : Text} (h : tag? (c :: t) = none) :
    tag? (c :: protect t) = none := by
  refine tag?_eq_none_iff.2 fun inner after hsplit hinner => ?_
  obtain ⟨rfl, hprotect⟩ := List.cons.inj hsplit
  obtain ⟨after, rfl⟩ := exists_of_protect_eq hprotect hinner.inside
  exact tag?_eq_none_iff.1 h inner after rfl hinner

theorem leadsToTag_protect_eq_false {t : Text} (h : leadsToTag t = false) :
    leadsToTag (protect t) = false := by
  induction t with
  | nil => rfl
  | cons c t ih =>
    rw [protect_cons_of_not_leads h]
    by_cases hc : c = '\\'
    · subst hc
      rw [leadsToTag_slash] at h ⊢
      exact ih h
    · rw [leadsToTag_eq_false_iff_of_ne hc] at h ⊢
      exact tag?_protect_eq_none h

/-! ## Tags in escaped texts -/

/-- A protected text has no tag. -/
theorem not_tagFrom_protect (t inner : Text) : ¬TagFrom false (protect t) inner := by
  induction t with
  | nil => exact not_tagFrom_nil false
  | cons c t ih =>
    cases hlead : leadsToTag (c :: t) with
    | true =>
      -- The backslash makes the number of those in front odd.
      rw [protect_cons_of_leads hlead, tagFrom_cons_of_ne (by decide), tagFrom_cons]
      simpa using ih
    | false =>
      rw [protect_cons_of_not_leads hlead, tagFrom_cons,
        tag?_protect_eq_none (tag?_of_not_leadsToTag hlead)]
      by_cases hc : c = '\\'
      · subst hc
        rw [leadsToTag_slash] at hlead
        have hstart := @tagFrom_of_not_leadsToTag inner _ (leadsToTag_protect_eq_false hlead)
          ('\\' == '\\' && !false) false
        rw [hstart]
        simpa using ih
      · simpa [beq_eq_false_iff_ne.2 hc] using ih

theorem escape_eq (t : Text) : escape t = protect t ∨ escape t = protect t ++ ['\\'] := by
  unfold escape
  dsimp only
  split
  next => exact Or.inr rfl
  next => exact Or.inl rfl

/-- An escaped text has the brackets of the text itself. -/
@[simp] theorem brackets_escape (t : Text) : brackets (escape t) = brackets t := by
  have hslash : brackets ['\\'] = [] := by decide
  rcases escape_eq t with h | h
  · rw [h, brackets_protect]
  · rw [h, brackets_append, brackets_protect, hslash, List.append_nil]

/-- An escaped text has no tag. -/
theorem not_activeTag_escape (t inner : Text) : ¬ActiveTag (escape t) inner := by
  have hprotect : ∀ inner, ¬ActiveTag (protect t) inner := fun inner h =>
    not_tagFrom_protect t inner (activeTag_iff.1 h)
  rcases escape_eq t with h | h
  · rw [h]
    exact hprotect inner
  · have hslash : ∀ odd inner, ¬TagFrom odd ['\\'] inner := fun odd inner htag =>
      not_tagFrom_nil _ ((tagFrom_cons_of_ne (by decide)).1 htag)
    have hnone : ¬ClosesTag ['\\'] := by
      rw [closesTag_iff]
      decide
    have hhead : ∀ c ∈ ['\\'].head?, isTagStart c = false := by
      intro c hc
      obtain rfl : '\\' = c := Option.some.inj hc
      decide
    intro htag
    rw [h] at htag
    exact hnone ((exists_activeTag_append_iff hprotect hslash hhead).1 ⟨inner, htag⟩).2

/-- No tags are read from an escaped text. -/
theorem tags_read_escape (t : Text) : tags (read (escape t)) = [] :=
  List.eq_nil_iff_forall_not_mem.2 fun inner h =>
    not_activeTag_escape t inner (mem_tags_read_iff.1 h)

/-! ## Tags left open -/

/-- Whether a text ends inside a tag that it begins, for a text behind an odd number of backslashes
or an even one. -/
def OpensFrom (odd : Bool) (t : Text) : Prop :=
  ∃ before inner, t = before ++ '[' :: inner ∧ endsOdd odd before = false ∧ Inner inner

theorem opensTag_iff {t : Text} : OpensTag t ↔ OpensFrom false t := by
  simp only [OpensTag, OpensFrom, even_slashes_iff]

theorem opensFrom_cons {odd : Bool} {c : Char} {t : Text} :
    OpensFrom odd (c :: t) ↔ (odd = false ∧ c = '[' ∧ Inner t) ∨
      OpensFrom (c == '\\' && !odd) t := by
  constructor
  · rintro ⟨before, inner, h, hodd, hinner⟩
    cases before with
    | nil =>
      obtain ⟨rfl, rfl⟩ := List.cons.inj h
      exact Or.inl ⟨hodd, rfl, hinner⟩
    | cons d before =>
      obtain ⟨rfl, rfl⟩ := List.cons.inj h
      exact Or.inr ⟨before, inner, rfl, hodd, hinner⟩
  · rintro (⟨hodd, rfl, hinner⟩ | ⟨before, inner, rfl, hodd, hinner⟩)
    · exact ⟨[], t, rfl, hodd, hinner⟩
    · exact ⟨c :: before, inner, rfl, hodd, hinner⟩

/-- A text that leads to a tag is not left open by its first character. -/
theorem not_inner_of_leadsToTag {c : Char} {t : Text} (h : leadsToTag (c :: t) = true) :
    ¬(c = '[' ∧ Inner t) := by
  rintro ⟨rfl, hinner⟩
  rw [leadsToTag_of_ne (by decide)] at h
  obtain ⟨⟨inner, after⟩, htag⟩ := Option.isSome_iff_exists.1 h
  obtain ⟨-, rfl⟩ := List.cons.inj (tag?_eq_some_iff.1 htag).1
  exact absurd (hinner.inside ']' (by simp)) (by decide)

/-- Backslashes in front of a tag do not matter to what is left open behind it. -/
theorem opensFrom_of_leadsToTag {t : Text} (h : leadsToTag t = true) (odd odd' : Bool) :
    OpensFrom odd t ↔ OpensFrom odd' t := by
  induction t generalizing odd odd' with
  | nil => cases h
  | cons c t ih =>
    rw [opensFrom_cons, opensFrom_cons]
    by_cases hc : c = '\\'
    · subst hc
      rw [leadsToTag_slash] at h
      simpa using ih h (!odd) (!odd')
    · simp [not_inner_of_leadsToTag h, beq_eq_false_iff_ne.2 hc]

theorem inner_protect_iff {t : Text} : Inner (protect t) ↔ Inner t := by
  have hsame : brackets t = [] → protect t = t := fun h => protect_of_noBracket fun hmem =>
    absurd (brackets_eq_nil_iff.1 h '[' hmem) (by decide)
  constructor
  · intro h
    have hnone := brackets_eq_nil_iff.2 h.inside
    rw [brackets_protect] at hnone
    rwa [hsame hnone] at h
  · intro h
    rwa [hsame (brackets_eq_nil_iff.2 h.inside)]

/-- A protected text leaves a tag open exactly if the text itself does. -/
theorem opensFrom_protect {odd : Bool} {t : Text} :
    OpensFrom odd (protect t) ↔ OpensFrom odd t := by
  induction t generalizing odd with
  | nil => rfl
  | cons c t ih =>
    cases hlead : leadsToTag (c :: t) with
    | false =>
      rw [protect_cons_of_not_leads hlead, opensFrom_cons, opensFrom_cons, ih, inner_protect_iff]
    | true =>
      rw [protect_cons_of_leads hlead, opensFrom_cons, opensFrom_cons, opensFrom_cons, ih,
        inner_protect_iff]
      by_cases hc : c = '\\'
      · subst hc
        rw [leadsToTag_slash] at hlead
        simpa using opensFrom_of_leadsToTag hlead odd (!odd)
      · simp [not_inner_of_leadsToTag hlead, beq_eq_false_iff_ne.2 hc]

/-- A backslash at the end of a text does not close what the text leaves open. -/
theorem opensTag_concat_slash {t : Text} : OpensTag (t ++ ['\\']) ↔ OpensTag t := by
  constructor
  · rintro ⟨before, inner, h, heven, ⟨c, hc, hstart⟩, hinside⟩
    obtain ⟨inner, rfl⟩ := List.head?_eq_some_iff.1 hc
    rcases List.eq_nil_or_concat inner with rfl | ⟨lead, d, rfl⟩
    · have hlast : [c] = ['\\'] := by
        have hends : t ++ ['\\'] = (before ++ ['[']) ++ [c] := by simpa using h
        exact (List.append_inj' hends rfl).2.symm
      rw [(List.cons.inj hlast).1] at hstart
      exact absurd hstart (by decide)
    · have hends : t ++ ['\\'] = (before ++ '[' :: c :: lead) ++ [d] := by simpa using h
      obtain ⟨rfl, -⟩ := List.append_inj' hends rfl
      refine ⟨before, c :: lead, rfl, heven, ⟨c, rfl, hstart⟩, fun e he => hinside e ?_⟩
      rw [List.concat_eq_append, ← List.cons_append]
      exact List.mem_append_left [d] he
  · rintro ⟨before, inner, rfl, heven, ⟨c, hc, hstart⟩, hinside⟩
    refine ⟨before, inner ++ ['\\'], by simp, heven, ⟨c, ?_, hstart⟩, ?_⟩
    · rw [List.head?_append, hc]
      rfl
    · intro d hd
      rcases List.mem_append.1 hd with hd | hd
      · exact hinside d hd
      · rw [List.mem_singleton.1 hd]
        decide

/-- An escaped text leaves a tag open exactly if the text itself does. -/
theorem opensTag_escape {t : Text} : OpensTag (escape t) ↔ OpensTag t := by
  have hprotect : OpensTag (protect t) ↔ OpensTag t := by
    rw [opensTag_iff, opensTag_iff, opensFrom_protect]
  rcases escape_eq t with h | h
  · rw [h, hprotect]
  · rw [h, opensTag_concat_slash, hprotect]

/-! ## Literals -/

/-- No bracket is a digit. -/
theorem brackets_hexadecimal (places n : Nat) : brackets (Text.hexadecimal places n) = [] :=
  brackets_eq_nil_iff.2 (Text.forall_mem_hexadecimal (by decide) places n)

/-- A character that is no bracket is written without one, and a bracket as it is. -/
theorem brackets_escaped (quote c : Char) : brackets (Text.escaped quote c) = brackets [c] := by
  have hslash : isInside '\\' = true := by decide
  have hopen : Text.isPrintable '[' = true := by decide
  have hclose : Text.isPrintable ']' = true := by decide
  unfold Text.escaped
  split_ifs with hquote hfeed hreturn htab hprintable
  · exact brackets_cons_of_inside hslash [c]
  · subst hfeed
    rfl
  · subst hreturn
    rfl
  · subst htab
    rfl
  · rfl
  all_goals
    have hinside : isInside c = true := by
      have hne : c ≠ '[' ∧ c ≠ ']' := by
        constructor
        · rintro rfl
          exact hprintable hopen
        · rintro rfl
          exact hprintable hclose
      simp [isInside, hne.1, hne.2]
    rw [brackets_cons_of_inside hslash, brackets_cons_of_inside (by decide), brackets_hexadecimal,
      brackets_cons_of_inside hinside]
    rfl

theorem brackets_flatMap_escaped (quote : Char) (t : Text) :
    brackets (t.flatMap (Text.escaped quote)) = brackets t := by
  induction t with
  | nil => rfl
  | cons c t ih =>
    rw [List.flatMap_cons, brackets_append, brackets_escaped, ih]
    exact (brackets_append [c] t).symm

/-- A literal has the brackets of the text that it is written for. -/
@[simp] theorem brackets_literal (t : Text) : brackets t.literal = brackets t := by
  have hquote : isInside t.quoteFor = true := by
    unfold Text.quoteFor
    split <;> decide
  have hlast := brackets_cons_of_inside hquote []
  rw [Text.literal, List.cons_append, brackets_cons_of_inside hquote, brackets_append,
    brackets_flatMap_escaped, hlast, brackets_nil, List.append_nil]

end Markup

end CardQuery
