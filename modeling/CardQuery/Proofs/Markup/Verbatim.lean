import CardQuery.Proofs.Markup.Styles

/-!
# Texts that are put into markup as they are

A text that is not escaped is shown as it is if it has no tag and no backslash in front of an
opening bracket.  Otherwise a bracket or a backslash of it is not shown, as counting them tells: a
tag takes an opening bracket away, and an opening bracket takes the backslash in front of it away.

Main results:

- `count_bracket_read` and `count_slash_shown_lt` count the opening brackets and the backslashes
  that markup shows.
- `read_eq_map_char` says which markup is read as its characters.
-/

namespace CardQuery

namespace Markup

/-- Whether a backslash stands in front of an opening bracket. -/
def Slashed (t : Text) : Prop := ['\\', '['] <:+: t

theorem slashed_cons {c : Char} {t : Text} :
    Slashed (c :: t) ↔ (c = '\\' ∧ t.head? = some '[') ∨ Slashed t := by
  rw [Slashed, List.infix_cons_iff, List.cons_prefix_cons, List.head?_eq_some_iff]
  refine or_congr ⟨?_, ?_⟩ Iff.rfl
  · rintro ⟨rfl, rest, rfl⟩
    exact ⟨rfl, rest, rfl⟩
  · rintro ⟨rfl, rest, rfl⟩
    exact ⟨rfl, rest, rfl⟩

/-- There is no opening bracket in a tag. -/
theorem slashed_of_append {inner after : Text} (hinner : ∀ c ∈ inner, isInside c = true)
    (h : Slashed (inner ++ ']' :: after)) : Slashed after := by
  induction inner with
  | nil => exact (slashed_cons.1 h).resolve_left fun hfirst => absurd hfirst.1 (by decide)
  | cons c inner ih =>
    refine ih (fun d hd => hinner d (List.mem_cons_of_mem c hd)) ?_
    refine (slashed_cons.1 h).resolve_left fun hfirst => ?_
    cases inner with
    | nil => exact absurd hfirst.2 (by simp)
    | cons d inner =>
      obtain rfl : d = '[' := Option.some.inj hfirst.2
      exact absurd (hinner '[' (by simp)) (by decide)

/-- A backslash that leads to a tag, or one behind it, stands in front of an opening bracket. -/
theorem slashed_of_leadsToTag {t : Text} (h : leadsToTag t = true) : Slashed ('\\' :: t) := by
  induction t with
  | nil => cases h
  | cons c t ih =>
    by_cases hc : c = '\\'
    · subst hc
      rw [leadsToTag_slash] at h
      exact slashed_cons.2 (Or.inr (ih h))
    · rw [leadsToTag_of_ne hc] at h
      obtain ⟨found, htag⟩ := Option.isSome_iff_exists.1 h
      obtain ⟨rfl, -⟩ := List.cons.inj (tag?_eq_some_iff.1 htag).1
      exact slashed_cons.2 (Or.inl ⟨rfl, rfl⟩)

theorem slashed_append {a b : Text} :
    Slashed (a ++ b) ↔
      Slashed a ∨ Slashed b ∨ (a.getLast? = some '\\' ∧ b.head? = some '[') := by
  induction a with
  | nil => simp [Slashed]
  | cons c a ih =>
    rw [List.cons_append, slashed_cons, slashed_cons, ih]
    cases a with
    | nil => simp [Slashed, or_comm]
    | cons d a => simp [or_assoc]

/-! ## Counting -/

@[simp] theorem shown_cons_char (c : Char) (tokens : List Token) :
    shown (.char c :: tokens) = c :: shown tokens := rfl

@[simp] theorem shown_cons_tag (inner : Text) (tokens : List Token) :
    shown (.tag inner :: tokens) = shown tokens := rfl

@[simp] theorem tags_cons_char (c : Char) (tokens : List Token) :
    tags (.char c :: tokens) = tags tokens := rfl

theorem count_bracket_of_inside {inner : Text} (h : ∀ c ∈ inner, isInside c = true) :
    inner.count '[' = 0 :=
  List.count_eq_zero.2 fun hmem => absurd (h '[' hmem) (by decide)

/-- Of the opening brackets each tag hides one. -/
theorem count_bracket_read (t : Text) :
    (shown (read t)).count '[' + (tags (read t)).length = t.count '[' := by
  fun_induction read t with
  | case1 => rfl
  | case2 rest ih =>
    rw [shown_cons_char, tags_cons_char, List.count_cons_self,
      List.count_cons_of_ne (by decide : '\\' ≠ '['), List.count_cons_self]
    omega
  | case3 c rest hne hslash ih =>
    obtain ⟨rfl, hhead, -⟩ := hslash
    obtain ⟨rest, rfl⟩ := List.head?_eq_some_iff.1 hhead
    rw [shown_cons_char, tags_cons_char, List.count_cons_of_ne (by decide),
      List.count_cons_of_ne (by decide), List.count_cons_of_ne (by decide)]
    exact ih
  | case4 c rest hne hslash inner after htag ih =>
    obtain ⟨hsplit, hinner⟩ := tag?_eq_some_iff.1 htag
    rw [hsplit, shown_cons_tag, tags_cons_tag, List.length_cons, List.count_cons_self,
      List.count_append, count_bracket_of_inside hinner.inside, List.count_cons_of_ne (by decide)]
    omega
  | case5 c rest hne hslash htag ih =>
    rw [shown_cons_char, tags_cons_char, List.count_cons, List.count_cons]
    omega

/-- Nothing is shown that does not stand in the markup. -/
theorem shown_read_sublist (t : Text) : (shown (read t)).Sublist t := by
  fun_induction read t with
  | case1 => exact List.Sublist.refl []
  | case2 rest ih => exact (ih.cons_cons '[').cons '\\'
  | case3 c rest hne hslash ih =>
    obtain ⟨rfl, hhead, -⟩ := hslash
    obtain ⟨rest, rfl⟩ := List.head?_eq_some_iff.1 hhead
    exact (ih.cons '\\').cons_cons '\\'
  | case4 c rest hne hslash inner after htag ih =>
    obtain ⟨hsplit, -⟩ := tag?_eq_some_iff.1 htag
    rw [hsplit]
    exact (ih.cons ']').trans (List.sublist_append_right inner _) |>.cons '['
  | case5 c rest hne hslash htag ih => exact ih.cons_cons c

/-- A backslash in front of an opening bracket is not shown. -/
theorem count_slash_shown_lt {t : Text} (h : Slashed t) :
    (shown (read t)).count '\\' < t.count '\\' := by
  fun_induction read t with
  | case1 => exact absurd (List.infix_nil.1 h) (by simp)
  | case2 rest ih =>
    have hle := (shown_read_sublist rest).count_le '\\'
    rw [shown_cons_char, List.count_cons_of_ne (by decide), List.count_cons_self,
      List.count_cons_of_ne (by decide)]
    omega
  | case3 c rest hne hslash ih =>
    obtain ⟨rfl, hhead, -⟩ := hslash
    obtain ⟨rest, rfl⟩ := List.head?_eq_some_iff.1 hhead
    have hle := (shown_read_sublist rest).count_le '\\'
    rw [List.tail_cons, shown_cons_char, List.count_cons_self, List.count_cons_self,
      List.count_cons_self]
    omega
  | case4 c rest hne hslash inner after htag ih =>
    obtain ⟨hsplit, hinner⟩ := tag?_eq_some_iff.1 htag
    have hbehind : Slashed (inner ++ ']' :: after) := by
      rw [hsplit] at h
      exact (slashed_cons.1 h).resolve_left fun hfirst => absurd hfirst.1 (by decide)
    have hlt := ih (slashed_of_append hinner.inside hbehind)
    rw [hsplit, shown_cons_tag, List.count_cons_of_ne (by decide), List.count_append,
      List.count_cons_of_ne (by decide)]
    omega
  | case5 c rest hne hslash htag ih =>
    have hrest : Slashed rest := by
      refine (slashed_cons.1 h).resolve_left ?_
      rintro ⟨rfl, hhead⟩
      obtain ⟨more, rfl⟩ := List.head?_eq_some_iff.1 hhead
      exact hne more rfl rfl
    have hlt := ih hrest
    rw [shown_cons_char, List.count_cons, List.count_cons]
    omega

/-! ## Markup that is read as its characters -/

/-- Markup without tags and without a backslash in front of an opening bracket is read as its
characters. -/
theorem read_eq_map_char {t : Text} (htags : tags (read t) = []) (h : ¬Slashed t) :
    read t = t.map Token.char := by
  fun_induction read t with
  | case1 => rfl
  | case2 rest ih => exact absurd (slashed_cons.2 (Or.inl ⟨rfl, rfl⟩)) h
  | case3 c rest hne hslash ih =>
    obtain ⟨rfl, -, hlead⟩ := hslash
    exact absurd (slashed_of_leadsToTag hlead) h
  | case4 c rest hne hslash inner after htag ih => cases htags
  | case5 c rest hne hslash htag ih =>
    rw [ih htags fun hrest => h (slashed_cons.2 (Or.inr hrest))]
    rfl

end Markup

end CardQuery
