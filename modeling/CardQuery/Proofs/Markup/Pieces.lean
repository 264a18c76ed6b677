import CardQuery.Proofs.Markup.Tags

/-!
# Pieces of markup

Two pieces of markup are read one after the other, as long as no tag is begun in one and ended in
the other and no backslash of one protects what stands first in the other.  Where a tag is begun in
one and ended in the other, it is a tag of neither.

Main results:

- `read_append` says when two pieces of markup can be read apart.
- `tagFrom_append` says where the tags of two pieces begin.
- `exists_activeTag_append_iff` says when a tag arises from two pieces that have none.
-/

namespace CardQuery

namespace Markup

/-! ## Two pieces of markup -/

/-- Whether two pieces of markup can be read apart: no backslash of the first stands before a
bracket or a backslash of the second, and no bracket that is opened last in the first is closed
first in the second. -/
structure Apart (a b : Text) : Prop where
  slash : a.getLast? = some '\\' → ∀ c ∈ b.head?, c ≠ '[' ∧ c ≠ '\\'
  bracket : (brackets a).getLast? = some '[' → (brackets b).head? ≠ some ']'

/-- What is left of the first piece can be read apart as well. -/
theorem Apart.of_append {a a' b : Text} (h : Apart (a' ++ a) b) : Apart a b := by
  constructor
  · intro hlast
    refine h.slash ?_
    rw [List.getLast?_append, hlast]
    rfl
  · intro hlast
    refine h.bracket ?_
    rw [brackets_append, List.getLast?_append, hlast]
    rfl

theorem Apart.of_cons {a b : Text} {c : Char} (h : Apart (c :: a) b) : Apart a b :=
  @of_append a [c] b h

/-- The second piece does not lead to a tag behind a backslash. -/
theorem Apart.not_leadsToTag {a b : Text} (h : Apart a b) (hlast : a.getLast? = some '\\') :
    leadsToTag b = false := by
  apply leadsToTag_behind_slash
  · rintro rest rfl
    exact (h.slash hlast '[' rfl).1 rfl
  · rintro ⟨hhead, -⟩
    exact (h.slash hlast '\\' hhead).2 rfl

/-- No tag begins at the end of the first piece and ends in the second one. -/
theorem Apart.tag?_append_eq_none {a b : Text} (h : Apart a b) (hne : a ≠ [])
    (hnone : tag? a = none) : tag? (a ++ b) = none := by
  refine tag?_eq_none_iff.2 fun inner rest hsplit hinner => ?_
  obtain ⟨c, a, rfl⟩ := List.exists_cons_of_ne_nil hne
  obtain ⟨rfl, hrest⟩ := List.cons.inj hsplit
  rcases List.append_eq_append_iff.1 hrest with ⟨as, rfl, hb⟩ | ⟨bs, rfl, hb⟩
  · -- The closing bracket stands in the second piece.
    have hinside := fun c hc => hinner.inside c (List.mem_append_left as hc)
    have hlast : (brackets ('[' :: a)).getLast? = some '[' := by
      rw [brackets_cons_of_bracket (by decide), brackets_eq_nil_iff.2 hinside]
      rfl
    refine h.bracket hlast ?_
    have has := fun c hc => hinner.inside c (List.mem_append_right a hc)
    rw [hb, brackets_append, brackets_eq_nil_iff.2 has, brackets_cons_of_bracket (by decide)]
    rfl
  · cases bs with
    | nil =>
      -- The second piece begins with it.
      rw [List.append_nil] at h
      have hlast : (brackets ('[' :: inner)).getLast? = some '[' := by
        rw [brackets_cons_of_bracket (by decide), brackets_eq_nil_iff.2 hinner.inside]
        rfl
      refine h.bracket hlast ?_
      rw [← List.nil_append b, ← hb, brackets_cons_of_bracket (by decide)]
      rfl
    | cons d bs =>
      obtain ⟨rfl, -⟩ := List.cons.inj hb
      exact tag?_eq_none_iff.1 hnone inner bs rfl hinner

/-- The first piece leads to a tag if it does so together with the second. -/
theorem Apart.leadsToTag_of_append {a b : Text} (h : Apart a b) (hne : a ≠ [])
    (hlead : leadsToTag (a ++ b) = true) : leadsToTag a = true := by
  induction a with
  | nil => exact absurd rfl hne
  | cons c a ih =>
    by_cases hc : c = '\\'
    · subst hc
      rw [List.cons_append, leadsToTag_slash] at hlead
      rw [leadsToTag_slash]
      cases a with
      | nil =>
        -- Then the second piece would lead to a tag.
        rw [List.nil_append, h.not_leadsToTag rfl] at hlead
        cases hlead
      | cons d a => exact ih h.of_cons (List.cons_ne_nil d a) hlead
    · rw [List.cons_append, leadsToTag_of_ne hc] at hlead
      rw [leadsToTag_of_ne hc]
      cases htag : tag? (c :: a) with
      | some found => rfl
      | none =>
        rw [← List.cons_append, h.tag?_append_eq_none hne htag] at hlead
        cases hlead

/-- A tag at the beginning of markup is read as one. -/
theorem read_of_tag? {t inner after : Text} (h : tag? t = some (inner, after)) :
    read t = .tag inner :: read after := by
  obtain ⟨rfl, -⟩ := tag?_eq_some_iff.1 h
  rw [read, if_neg (by simp)]
  · split
    next first rest htag =>
      obtain ⟨rfl, rfl⟩ := Prod.mk.inj (Option.some.inj (h.symm.trans htag))
      rfl
    next htag => cases h.symm.trans htag
  · exact fun r hslash _ => absurd hslash (by decide)

/-- A character at the beginning of markup is read as itself if it neither protects what follows nor
begins a tag. -/
theorem read_of_char {c : Char} {rest : Text} (hbracket : ∀ r, c = '\\' → rest ≠ '[' :: r)
    (hslash : ¬(c = '\\' ∧ rest.head? = some '\\' ∧ leadsToTag rest = true))
    (hnone : tag? (c :: rest) = none) : read (c :: rest) = .char c :: read rest := by
  rw [read, if_neg hslash]
  · split
    next first after htag => cases hnone.symm.trans htag
    next htag => rfl
  · exact hbracket

/-- Two pieces of markup that can be read apart are read one after the other. -/
theorem read_append {a b : Text} (h : Apart a b) : read (a ++ b) = read a ++ read b := by
  fun_induction read a with
  | case1 => rfl
  | case2 rest ih =>
    rw [List.cons_append, List.cons_append, read, ih h.of_cons.of_cons, List.cons_append]
  | case3 c rest hne hslash ih =>
    obtain ⟨rfl, hhead, hlead⟩ := hslash
    obtain ⟨rest, rfl⟩ := List.head?_eq_some_iff.1 hhead
    have hmore := leadsToTag_append hlead b
    rw [List.cons_append] at hmore
    rw [List.cons_append, List.cons_append, read, if_pos ⟨rfl, rfl, hmore⟩, List.tail_cons,
      List.cons_append]
    · exact congrArg _ (ih h.of_cons.of_cons)
    · exact fun r _ heq => absurd (List.cons.inj heq).1 (by decide)
  | case4 c rest hne hslash inner after htag ih =>
    obtain ⟨hsplit, -⟩ := tag?_eq_some_iff.1 htag
    have hafter : Apart after b := by
      rw [hsplit, ← List.cons_append, List.append_cons] at h
      exact h.of_append
    rw [read_of_tag? (tag?_append htag b), ih hafter, List.cons_append]
  | case5 c rest hne hslash htag ih =>
    have hnone := h.tag?_append_eq_none (List.cons_ne_nil c rest) htag
    rw [List.cons_append, read_of_char, ih h.of_cons, List.cons_append]
    · rintro r rfl hopen
      cases rest with
      | nil => exact (h.slash rfl '[' (by rw [← List.nil_append b, hopen]; rfl)).1 rfl
      | cons d rest => exact hne rest rfl (by rw [(List.cons.inj hopen).1])
    · rintro ⟨rfl, hhead, hlead⟩
      cases rest with
      | nil => exact (h.slash rfl '\\' hhead).2 rfl
      | cons d rest =>
        exact hslash ⟨rfl, hhead, h.of_cons.leadsToTag_of_append (List.cons_ne_nil d rest) hlead⟩
    · exact hnone

/-! ## Tags across two pieces -/

/-- Whether a text ends inside a tag that it begins. -/
def OpensTag (t : Text) : Prop :=
  ∃ before inner, t = before ++ '[' :: inner ∧ Even (slashes before) ∧ Inner inner

/-- Whether a closing bracket stands first among the brackets of a text. -/
def ClosesTag (t : Text) : Prop :=
  ∃ before after, t = before ++ ']' :: after ∧ ∀ c ∈ before, isInside c = true

theorem closesTag_iff {t : Text} : ClosesTag t ↔ (brackets t).head? = some ']' := by
  constructor
  · rintro ⟨before, after, rfl, hbefore⟩
    rw [brackets_append, brackets_eq_nil_iff.2 hbefore, brackets_cons_of_bracket (by decide)]
    rfl
  · intro h
    induction t with
    | nil => cases h
    | cons c t ih =>
      by_cases hc : isInside c = true
      · rw [brackets_cons_of_inside hc] at h
        obtain ⟨before, after, rfl, hbefore⟩ := ih h
        exact ⟨c :: before, after, rfl, List.forall_mem_cons.2 ⟨hc, hbefore⟩⟩
      · rw [brackets_cons_of_bracket (Bool.eq_false_iff.2 hc)] at h
        obtain rfl : c = ']' := Option.some.inj h
        exact ⟨[], t, rfl, nofun⟩

/-- A tag of two pieces begins in the second one or in the first one. -/
theorem tagFrom_append {odd : Bool} {a b inner : Text} :
    TagFrom odd (a ++ b) inner ↔ TagFrom (endsOdd odd a) b inner ∨
      ∃ before more after, a = before ++ '[' :: more ∧ endsOdd odd before = false ∧
        more ++ b = inner ++ ']' :: after ∧ Inner inner := by
  constructor
  · rintro ⟨before, after, h, hodd, hinner⟩
    rcases List.append_eq_append_iff.1 h with ⟨as, rfl, hb⟩ | ⟨bs, rfl, hb⟩
    · rw [endsOdd_append] at hodd
      exact Or.inl ⟨as, after, hb, hodd, hinner⟩
    · cases bs with
      | nil => exact Or.inl ⟨[], after, hb.symm, by simpa using hodd, hinner⟩
      | cons c more =>
        obtain ⟨rfl, hmore⟩ := List.cons.inj hb
        exact Or.inr ⟨before, more, after, rfl, hodd, hmore.symm, hinner⟩
  · rintro (⟨before, after, rfl, hodd, hinner⟩ | ⟨before, more, after, rfl, hodd, h, hinner⟩)
    · exact ⟨a ++ before, after, by simp, by simpa using hodd, hinner⟩
    · exact ⟨before, after, by simp [h], hodd, hinner⟩

/-- Two pieces without tags have one together exactly if the first begins it and the second ends
it, provided that the second one does not begin with what can stand first in a tag. -/
theorem exists_activeTag_append_iff {a b : Text} (ha : ∀ inner, ¬ActiveTag a inner)
    (hb : ∀ odd inner, ¬TagFrom odd b inner) (hhead : ∀ c ∈ b.head?, isTagStart c = false) :
    (∃ inner, ActiveTag (a ++ b) inner) ↔ OpensTag a ∧ ClosesTag b := by
  simp only [activeTag_iff] at ha ⊢
  constructor
  · rintro ⟨inner, h⟩
    rcases tagFrom_append.1 h with h | ⟨before, more, after, rfl, hodd, h, hinner⟩
    · exact absurd h (hb _ inner)
    rcases List.append_eq_append_iff.1 h with ⟨as, rfl, rfl⟩ | ⟨bs, rfl, hclose⟩
    · -- The tag ends in the second piece, in which it does not begin.
      obtain ⟨⟨c, hc, hstart⟩, hinside⟩ := hinner
      have hmore : Inner more := by
        refine ⟨⟨c, ?_, hstart⟩, fun d hd => hinside d (List.mem_append_left as hd)⟩
        cases more with
        | nil =>
          rw [List.nil_append] at hc
          have hsecond : c ∈ (as ++ ']' :: after).head? := by
            rw [List.head?_append, hc]
            rfl
          rw [hhead c hsecond] at hstart
          cases hstart
        | cons d more => exact hc
      exact ⟨⟨before, more, rfl, even_slashes_iff.2 hodd, hmore⟩,
        ⟨as, after, rfl, fun d hd => hinside d (List.mem_append_right more hd)⟩⟩
    · cases bs with
      | nil =>
        rw [List.append_nil]
        exact ⟨⟨before, inner, rfl, even_slashes_iff.2 hodd, hinner⟩,
          ⟨[], after, hclose.symm, nofun⟩⟩
      | cons c bs =>
        obtain ⟨rfl, -⟩ := List.cons.inj hclose
        exact absurd ⟨before, bs, by simp, hodd, hinner⟩ (ha inner)
  · rintro ⟨⟨before, more, rfl, heven, ⟨c, hc, hstart⟩, hmore⟩, ⟨as, after, rfl, has⟩⟩
    refine ⟨more ++ as, before, after, by simp, even_slashes_iff.1 heven, ⟨c, ?_, hstart⟩, ?_⟩
    · rw [List.head?_append, hc]
      rfl
    · exact fun d hd => (List.mem_append.1 hd).elim (hmore d) (has d)

end Markup

end CardQuery
