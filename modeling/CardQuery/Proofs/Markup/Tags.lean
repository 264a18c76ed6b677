import CardQuery.Markup
import Mathlib.Algebra.Group.Nat.Even
import Mathlib.Data.List.Induction
import Mathlib.Data.List.TakeWhile

/-!
# Tags in markup

A tag stands between two brackets, with an even number of backslashes in front of it and no bracket
inside.  The reader of markup goes from left to right and finds exactly these tags.

Main results:

- `tag?_eq_some_iff` says what markup that begins with a tag looks like.
- `even_slashes_iff` counts the backslashes in front of a tag from left to right.
- `mem_tags_read_iff` says that the tags that are read are the active ones.
-/

namespace CardQuery

namespace Markup

/-! ## Brackets -/

/-- The brackets of a text. -/
def brackets (t : Text) : Text := t.filter fun c => !isInside c

@[simp] theorem brackets_nil : brackets [] = [] := rfl

@[simp] theorem brackets_append (a b : Text) : brackets (a ++ b) = brackets a ++ brackets b :=
  List.filter_append a b

theorem brackets_cons_of_inside {c : Char} (h : isInside c = true) (t : Text) :
    brackets (c :: t) = brackets t := by simp [brackets, h]

theorem brackets_cons_of_bracket {c : Char} (h : isInside c = false) (t : Text) :
    brackets (c :: t) = c :: brackets t := by simp [brackets, h]

/-- A text without brackets is one whose characters can all stand in a tag. -/
theorem brackets_eq_nil_iff {t : Text} : brackets t = [] ↔ ∀ c ∈ t, isInside c = true := by
  simp [brackets]

/-- What stands first in a tag is no bracket. -/
theorem isInside_of_isTagStart {c : Char} (h : isTagStart c = true) : isInside c = true := by
  have hopen : c ≠ '[' := by
    rintro rfl
    revert h
    decide
  have hclose : c ≠ ']' := by
    rintro rfl
    revert h
    decide
  simp [isInside, hopen, hclose]

/-! ## The text inside a tag -/

/-- A text that can stand in the brackets of a tag. -/
structure Inner (inner : Text) : Prop where
  starts : ∃ c ∈ inner.head?, isTagStart c = true
  inside : ∀ c ∈ inner, isInside c = true

instance : DecidablePred Inner := fun inner =>
  decidable_of_iff (inner.head?.any isTagStart = true ∧ brackets inner = []) <| by
    rw [Option.any_eq_true, brackets_eq_nil_iff]
    exact ⟨fun h => ⟨h.1, h.2⟩, fun h => ⟨h.starts, h.inside⟩⟩

/-- A text begins with a tag exactly if it begins with brackets around what can stand in a tag. -/
theorem tag?_eq_some_iff {t inner rest : Text} :
    tag? t = some (inner, rest) ↔ t = '[' :: (inner ++ ']' :: rest) ∧ Inner inner := by
  constructor
  · intro h
    unfold tag? at h
    split at h
    next c t =>
      split at h
      next hstart =>
        split at h
        next after hdrop =>
          obtain ⟨rfl, rfl⟩ := Prod.mk.inj (Option.some.inj h)
          have hsplit : t.takeWhile isInside ++ ']' :: after = t := by
            rw [← hdrop, List.takeWhile_append_dropWhile]
          refine ⟨by rw [List.cons_append, hsplit], ⟨c, rfl, hstart⟩, ?_⟩
          exact List.forall_mem_cons.2
            ⟨isInside_of_isTagStart hstart, fun d hd => List.mem_takeWhile_imp hd⟩
        next => cases h
      next => cases h
    next => cases h
  · rintro ⟨rfl, ⟨c, hc, hstart⟩, hinside⟩
    obtain ⟨t, rfl⟩ := List.head?_eq_some_iff.1 hc
    have ht : ∀ d ∈ t, isInside d = true := fun d hd => hinside d (List.mem_cons_of_mem c hd)
    have hbracket : isInside ']' = false := by decide
    rw [List.cons_append, tag?, if_pos hstart, List.dropWhile_append_of_pos ht,
      List.takeWhile_append_of_pos ht]
    simp [hbracket]

theorem tag?_eq_none_iff {t : Text} :
    tag? t = none ↔ ∀ inner rest, t = '[' :: (inner ++ ']' :: rest) → ¬Inner inner := by
  simp only [Option.eq_none_iff_forall_ne_some, Prod.forall, ne_eq, tag?_eq_some_iff, not_and]

/-- Only an opening bracket begins a tag. -/
theorem tag?_of_ne {c : Char} (h : c ≠ '[') (t : Text) : tag? (c :: t) = none :=
  tag?_eq_none_iff.2 fun _ _ hsplit => absurd (List.cons.inj hsplit).1 h

/-- A tag stays one, whatever follows. -/
theorem tag?_append {t inner rest : Text} (h : tag? t = some (inner, rest)) (b : Text) :
    tag? (t ++ b) = some (inner, rest ++ b) := by
  obtain ⟨rfl, hinner⟩ := tag?_eq_some_iff.1 h
  exact tag?_eq_some_iff.2 ⟨by simp, hinner⟩

/-- Backslashes lead on to what stands behind them. -/
@[simp] theorem leadsToTag_slash (t : Text) : leadsToTag ('\\' :: t) = leadsToTag t := by
  simp [leadsToTag]

theorem leadsToTag_of_ne {c : Char} (h : c ≠ '\\') (t : Text) :
    leadsToTag (c :: t) = (tag? (c :: t)).isSome := by
  simp [leadsToTag, h]

theorem leadsToTag_eq_false_iff_of_ne {c : Char} (h : c ≠ '\\') {t : Text} :
    leadsToTag (c :: t) = false ↔ tag? (c :: t) = none := by
  rw [leadsToTag_of_ne h, Option.isSome_eq_false_iff, Option.isNone_iff_eq_none]

/-- A text that does not lead to a tag does not begin with one. -/
theorem tag?_of_not_leadsToTag {t : Text} (h : leadsToTag t = false) : tag? t = none := by
  cases t with
  | nil => rfl
  | cons c t =>
    by_cases hc : c = '\\'
    · exact tag?_of_ne (by simp [hc]) t
    · exact (leadsToTag_eq_false_iff_of_ne hc).1 h

/-- A backslash that protects nothing is left over only if no tag can follow it. -/
theorem leadsToTag_behind_slash {t : Text} (hopen : ∀ rest, t ≠ '[' :: rest)
    (hslash : ¬(t.head? = some '\\' ∧ leadsToTag t = true)) : leadsToTag t = false := by
  cases t with
  | nil => rfl
  | cons c t =>
    by_cases hc : c = '\\'
    · simpa [hc] using hslash
    · have hne : c ≠ '[' := fun heq => hopen t (by rw [heq])
      exact (leadsToTag_eq_false_iff_of_ne hc).2 (tag?_of_ne hne t)

theorem leadsToTag_append {t : Text} (h : leadsToTag t = true) (b : Text) :
    leadsToTag (t ++ b) = true := by
  induction t with
  | nil => cases h
  | cons c t ih =>
    by_cases hc : c = '\\'
    · subst hc
      rw [leadsToTag_slash] at h
      rw [List.cons_append, leadsToTag_slash, ih h]
    · rw [leadsToTag_of_ne hc] at h
      obtain ⟨found, htag⟩ := Option.isSome_iff_exists.1 h
      have hmore := tag?_append htag b
      rw [List.cons_append] at hmore ⊢
      rw [leadsToTag_of_ne hc, hmore]
      rfl

/-- The first bracket of a text that leads to a tag is an opening one. -/
theorem head?_brackets_of_leadsToTag {t : Text} (h : leadsToTag t = true) :
    (brackets t).head? = some '[' := by
  induction t with
  | nil => cases h
  | cons c t ih =>
    by_cases hc : c = '\\'
    · subst hc
      rw [leadsToTag_slash] at h
      rw [brackets_cons_of_inside (by decide), ih h]
    · rw [leadsToTag_of_ne hc] at h
      obtain ⟨found, htag⟩ := Option.isSome_iff_exists.1 h
      obtain ⟨hopen, -⟩ := List.cons.inj (tag?_eq_some_iff.1 htag).1
      rw [hopen, brackets_cons_of_bracket (by decide)]
      rfl

/-! ## Backslashes in front of a tag -/

/-- The number of backslashes at the end of a text. -/
def slashes (t : Text) : Nat := (t.reverse.takeWhile fun c => c == '\\').length

/-- Whether an odd number of backslashes stands at the end of a text in front of which an odd number
stands, or not. -/
def endsOdd (odd : Bool) (t : Text) : Bool := t.foldl (fun odd c => c == '\\' && !odd) odd

@[simp] theorem endsOdd_nil (odd : Bool) : endsOdd odd [] = odd := rfl

@[simp] theorem endsOdd_cons (odd : Bool) (c : Char) (t : Text) :
    endsOdd odd (c :: t) = endsOdd (c == '\\' && !odd) t := rfl

@[simp] theorem endsOdd_append (odd : Bool) (a b : Text) :
    endsOdd odd (a ++ b) = endsOdd (endsOdd odd a) b := List.foldl_append

theorem even_slashes_iff {t : Text} : Even (slashes t) ↔ endsOdd false t = false := by
  induction t using List.reverseRecOn with
  | nil => simp [slashes]
  | append_singleton t c ih =>
    by_cases hc : c = '\\'
    · have hmore : slashes (t ++ [c]) = slashes t + 1 := by simp [slashes, hc]
      rw [hmore, Nat.even_add_one, ih]
      simp [hc]
    · have hnone : slashes (t ++ [c]) = 0 := by simp [slashes, hc]
      simp [hnone, hc]

/-! ## Active tags -/

/-- Whether markup has a tag: brackets around a text that can stand in a tag, behind an even number
of backslashes. -/
def ActiveTag (markup inner : Text) : Prop :=
  ∃ before after, markup = before ++ '[' :: (inner ++ ']' :: after) ∧ Even (slashes before) ∧
    Inner inner

/-- The same for markup behind an odd number of backslashes, or an even one. -/
def TagFrom (odd : Bool) (markup inner : Text) : Prop :=
  ∃ before after, markup = before ++ '[' :: (inner ++ ']' :: after) ∧ endsOdd odd before = false ∧
    Inner inner

theorem activeTag_iff {markup inner : Text} :
    ActiveTag markup inner ↔ TagFrom false markup inner := by
  simp only [ActiveTag, TagFrom, even_slashes_iff]

section

variable {inner : Text}

theorem not_tagFrom_nil (odd : Bool) : ¬TagFrom odd [] inner := by
  rintro ⟨before, after, h, -⟩
  cases before <;> cases h

/-- A tag stands at the beginning of markup or behind its first character. -/
theorem tagFrom_cons {odd : Bool} {c : Char} {t : Text} :
    TagFrom odd (c :: t) inner ↔
      (odd = false ∧ ∃ after, tag? (c :: t) = some (inner, after)) ∨
        TagFrom (c == '\\' && !odd) t inner := by
  simp only [tag?_eq_some_iff]
  constructor
  · rintro ⟨before, after, h, hodd, hinner⟩
    cases before with
    | nil => exact Or.inl ⟨hodd, after, h, hinner⟩
    | cons d before =>
      obtain ⟨rfl, rfl⟩ := List.cons.inj h
      exact Or.inr ⟨before, after, rfl, hodd, hinner⟩
  · rintro (⟨hodd, after, h, hinner⟩ | ⟨before, after, rfl, hodd, hinner⟩)
    · exact ⟨[], after, h, hodd, hinner⟩
    · exact ⟨c :: before, after, rfl, hodd, hinner⟩

theorem tagFrom_cons_of_ne {odd : Bool} {c : Char} (h : c ≠ '[') {t : Text} :
    TagFrom odd (c :: t) inner ↔ TagFrom (c == '\\' && !odd) t inner := by
  simp [tagFrom_cons, tag?_of_ne h]

/-- Backslashes in front do not matter to markup that does not lead to a tag. -/
theorem tagFrom_of_not_leadsToTag {t : Text} (h : leadsToTag t = false) (odd odd' : Bool) :
    TagFrom odd t inner ↔ TagFrom odd' t inner := by
  induction t generalizing odd odd' with
  | nil => simp [not_tagFrom_nil]
  | cons c t ih =>
    by_cases hc : c = '\\'
    · subst hc
      rw [leadsToTag_slash] at h
      rw [tagFrom_cons_of_ne (by decide), tagFrom_cons_of_ne (by decide), ih h]
    · rw [leadsToTag_eq_false_iff_of_ne hc] at h
      simp [tagFrom_cons, h, beq_eq_false_iff_ne.2 hc]

/-- No tag begins in a text without brackets. -/
theorem tagFrom_append_of_inside {a : Text} (h : ∀ c ∈ a, isInside c = true) (odd : Bool)
    (b : Text) : TagFrom odd (a ++ b) inner ↔ TagFrom (endsOdd odd a) b inner := by
  induction a generalizing odd with
  | nil => rfl
  | cons c a ih =>
    have hc : c ≠ '[' := by
      rintro rfl
      exact absurd (h _ List.mem_cons_self) (by decide)
    rw [List.cons_append, tagFrom_cons_of_ne hc,
      ih fun d hd => h d (List.mem_cons_of_mem c hd), endsOdd_cons]

/-- The tags that are read from markup are its active tags. -/
theorem mem_tags_read_iff {markup : Text} :
    inner ∈ tags (read markup) ↔ ActiveTag markup inner := by
  rw [activeTag_iff]
  fun_induction read markup with
  | case1 => simp [tags, not_tagFrom_nil]
  | case2 rest ih =>
    -- An odd number of backslashes stands before this bracket.
    rw [tagFrom_cons_of_ne (by decide), tagFrom_cons]
    simpa [tags] using ih
  | case3 c rest hne hslash ih =>
    obtain ⟨rfl, hhead, -⟩ := hslash
    obtain ⟨rest, rfl⟩ := List.head?_eq_some_iff.1 hhead
    rw [tagFrom_cons_of_ne (by decide), tagFrom_cons_of_ne (by decide)]
    simpa [tags] using ih
  | case4 c rest hne hslash first after htag ih =>
    obtain ⟨h, hfirst⟩ := tag?_eq_some_iff.1 htag
    obtain ⟨rfl, rfl⟩ := List.cons.inj h
    have hbehind : TagFrom false (first ++ ']' :: after) inner ↔ TagFrom false after inner := by
      rw [tagFrom_append_of_inside hfirst.inside, tagFrom_cons_of_ne (by decide)]
      rfl
    have hthis : (∃ a, tag? ('[' :: (first ++ ']' :: after)) = some (inner, a)) ↔
        inner = first := by
      rw [htag]
      simp [eq_comm]
    rw [tagFrom_cons, hthis]
    simpa [tags, hbehind] using or_congr_right ih
  | case5 c rest hne hslash htag ih =>
    have hrest : TagFrom false (c :: rest) inner ↔ TagFrom false rest inner := by
      rw [tagFrom_cons, htag]
      by_cases hc : c = '\\'
      · subst hc
        have hlead := leadsToTag_behind_slash (fun r => hne r rfl) fun h => hslash ⟨rfl, h⟩
        simpa using tagFrom_of_not_leadsToTag hlead true false
      · simp [beq_eq_false_iff_ne.2 hc]
    rw [hrest, ← ih]
    simp [tags]

end

end Markup

end CardQuery
