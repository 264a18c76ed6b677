import CardQuery.Proofs.Markup.Pieces
import Mathlib.Data.List.Pairwise

/-!
# Places of tags

Each tag of markup begins at a place, the number of characters in front of it.  The list of the tags
with their places is found from left to right, with a flag for an odd number of backslashes in
front.

Main results:

- `mem_activeTags_iff` and `pairwise_activeTags` say that the active tags are listed, each at its
  place and in order.
- `tags_read_eq` says that the tags that are read are these, in this order.
- `activeTags_append` says that two pieces of markup that can be read apart keep their tags.
-/

namespace CardQuery

namespace Markup

/-! ## The list of tags -/

/-- Tags at places that are all later by the same number of characters. -/
def moved (k : Nat) (tags : List (Nat × Text)) : List (Nat × Text) :=
  tags.map fun tag => (k + tag.1, tag.2)

/-- The tag at the beginning of markup behind an odd number of backslashes, or an even one. -/
def firstTag (odd : Bool) (t : Text) : List (Nat × Text) :=
  if odd then [] else ((tag? t).map fun found => (0, found.1)).toList

/-- The tags of markup behind an odd number of backslashes, or an even one, with their places. -/
def tagsFrom (odd : Bool) : Text → List (Nat × Text)
  | [] => []
  | c :: t => firstTag odd (c :: t) ++ moved 1 (tagsFrom (c == '\\' && !odd) t)

/-- The tags of markup with the places at which they begin, from left to right. -/
def activeTags (markup : Text) : List (Nat × Text) := tagsFrom false markup

@[simp] theorem moved_nil (k : Nat) : moved k [] = [] := rfl

@[simp] theorem moved_append (k : Nat) (a b : List (Nat × Text)) :
    moved k (a ++ b) = moved k a ++ moved k b := List.map_append

@[simp] theorem moved_moved (k l : Nat) (tags : List (Nat × Text)) :
    moved k (moved l tags) = moved (k + l) tags := by
  simp [moved, Nat.add_assoc]

@[simp] theorem map_snd_moved (k : Nat) (tags : List (Nat × Text)) :
    (moved k tags).map Prod.snd = tags.map Prod.snd := by
  simp [moved]

theorem mem_moved_iff {k n : Nat} {inner : Text} {tags : List (Nat × Text)} :
    (n, inner) ∈ moved k tags ↔ ∃ m, (m, inner) ∈ tags ∧ n = k + m := by
  simp [moved, eq_comm, and_comm]

theorem mem_firstTag_iff {odd : Bool} {t inner : Text} {n : Nat} :
    (n, inner) ∈ firstTag odd t ↔
      n = 0 ∧ odd = false ∧ ∃ after, t = '[' :: (inner ++ ']' :: after) ∧ Inner inner := by
  cases odd with
  | true => simp [firstTag]
  | false =>
    have hfound : (n, inner) ∈ firstTag false t ↔
        n = 0 ∧ ∃ after, tag? t = some (inner, after) := by
      simp only [firstTag, Bool.false_eq_true, if_false, Option.mem_toList, Option.map_eq_some_iff,
        Prod.exists, Prod.mk.injEq]
      constructor
      · rintro ⟨found, after, htag, rfl, rfl⟩
        exact ⟨rfl, after, htag⟩
      · rintro ⟨rfl, after, htag⟩
        exact ⟨inner, after, htag, rfl, rfl⟩
    simp only [hfound, tag?_eq_some_iff, true_and]

/-- Nothing begins where no tag does. -/
theorem firstTag_of_none (odd : Bool) {t : Text} (h : tag? t = none) : firstTag odd t = [] := by
  simp [firstTag, h]

theorem tagsFrom_cons_of_none {odd : Bool} {c : Char} {t : Text} (h : tag? (c :: t) = none) :
    tagsFrom odd (c :: t) = moved 1 (tagsFrom (c == '\\' && !odd) t) := by
  rw [tagsFrom, firstTag_of_none odd h, List.nil_append]

/-! ## The active tags -/

/-- The tags that are listed begin behind an even number of backslashes. -/
theorem mem_tagsFrom_iff {odd : Bool} {t inner : Text} {n : Nat} :
    (n, inner) ∈ tagsFrom odd t ↔
      ∃ before after, t = before ++ '[' :: (inner ++ ']' :: after) ∧ before.length = n ∧
        endsOdd odd before = false ∧ Inner inner := by
  induction t generalizing odd n with
  | nil =>
    refine iff_of_false nofun ?_
    rintro ⟨before, after, h, -⟩
    cases before <;> cases h
  | cons c t ih =>
    rw [tagsFrom, List.mem_append, mem_firstTag_iff, mem_moved_iff]
    constructor
    · rintro (⟨rfl, hodd, after, h, hinner⟩ | ⟨m, hm, rfl⟩)
      · exact ⟨[], after, h, rfl, hodd, hinner⟩
      · obtain ⟨before, after, rfl, rfl, hodd, hinner⟩ := ih.1 hm
        exact ⟨c :: before, after, rfl, Nat.add_comm _ _, hodd, hinner⟩
    · rintro ⟨before, after, h, rfl, hodd, hinner⟩
      cases before with
      | nil => exact Or.inl ⟨rfl, hodd, after, h, hinner⟩
      | cons d before =>
        obtain ⟨rfl, rfl⟩ := List.cons.inj h
        exact Or.inr ⟨before.length, ih.2 ⟨before, after, rfl, rfl, hodd, hinner⟩, Nat.add_comm _ _⟩

/-- The tags are listed from left to right. -/
theorem pairwise_tagsFrom (odd : Bool) (t : Text) :
    (tagsFrom odd t).Pairwise fun tag other => tag.1 < other.1 := by
  induction t generalizing odd with
  | nil => exact List.Pairwise.nil
  | cons c t ih =>
    rw [tagsFrom, List.pairwise_append]
    refine ⟨?_, ?_, ?_⟩
    · unfold firstTag
      split
      · exact List.Pairwise.nil
      · cases tag? (c :: t) <;> simp
    · rw [moved, List.pairwise_map]
      exact (ih _).imp fun h => Nat.add_lt_add_left h 1
    · rintro ⟨n, inner⟩ hfirst ⟨m, other⟩ hlater
      obtain ⟨rfl, -⟩ := mem_firstTag_iff.1 hfirst
      obtain ⟨k, -, rfl⟩ := mem_moved_iff.1 hlater
      show 0 < 1 + k
      omega

/-- A tag is listed at its place exactly if it is active there. -/
theorem mem_activeTags_iff {markup inner : Text} {n : Nat} :
    (n, inner) ∈ activeTags markup ↔
      ∃ before after, markup = before ++ '[' :: (inner ++ ']' :: after) ∧ before.length = n ∧
        Even (slashes before) ∧ Inner inner := by
  simp only [activeTags, mem_tagsFrom_iff, even_slashes_iff]

theorem pairwise_activeTags (markup : Text) :
    (activeTags markup).Pairwise fun tag other => tag.1 < other.1 :=
  pairwise_tagsFrom false markup

theorem activeTags_eq_nil_iff {markup : Text} :
    activeTags markup = [] ↔ ∀ inner, ¬ActiveTag markup inner := by
  rw [List.eq_nil_iff_forall_not_mem]
  constructor
  · rintro h inner ⟨before, after, hsplit, heven, hinner⟩
    exact h _ (mem_activeTags_iff.2 ⟨before, after, hsplit, rfl, heven, hinner⟩)
  · rintro h ⟨n, inner⟩ hmem
    obtain ⟨before, after, hsplit, -, heven, hinner⟩ := mem_activeTags_iff.1 hmem
    exact h inner ⟨before, after, hsplit, heven, hinner⟩

/-! ## Pieces of markup -/

/-- Backslashes in front do not matter to markup that does not lead to a tag. -/
theorem tagsFrom_of_not_leadsToTag {t : Text} (h : leadsToTag t = false) (odd odd' : Bool) :
    tagsFrom odd t = tagsFrom odd' t := by
  induction t generalizing odd odd' with
  | nil => rfl
  | cons c t ih =>
    rw [tagsFrom_cons_of_none (tag?_of_not_leadsToTag h),
      tagsFrom_cons_of_none (tag?_of_not_leadsToTag h)]
    by_cases hc : c = '\\'
    · rw [hc, leadsToTag_slash] at h
      rw [ih h]
    · rw [beq_eq_false_iff_ne.2 hc, Bool.false_and, Bool.false_and]

/-- No tag begins in a text without brackets. -/
theorem tagsFrom_append_of_inside {a : Text} (h : ∀ c ∈ a, isInside c = true) (odd : Bool)
    (b : Text) : tagsFrom odd (a ++ b) = moved a.length (tagsFrom (endsOdd odd a) b) := by
  induction a generalizing odd with
  | nil => simp [moved]
  | cons c a ih =>
    have hc : c ≠ '[' := by
      rintro rfl
      exact absurd (h _ List.mem_cons_self) (by decide)
    rw [List.cons_append, tagsFrom_cons_of_none (tag?_of_ne hc _),
      ih fun d hd => h d (List.mem_cons_of_mem c hd), moved_moved, endsOdd_cons, List.length_cons,
      Nat.add_comm]

/-- The tags of markup that begins with a tag. -/
theorem activeTags_of_tag {inner : Text} (h : Inner inner) (after : Text) :
    activeTags ('[' :: (inner ++ ']' :: after)) =
      (0, inner) :: moved (inner.length + 2) (activeTags after) := by
  have htag : firstTag false ('[' :: (inner ++ ']' :: after)) = [(0, inner)] := by
    rw [firstTag, tag?_eq_some_iff.2 ⟨rfl, h⟩]
    rfl
  have hbehind : tagsFrom false (inner ++ ']' :: after) =
      moved (inner.length + 1) (tagsFrom false after) := by
    rw [tagsFrom_append_of_inside h.inside, tagsFrom_cons_of_none (tag?_of_ne (by decide) after),
      moved_moved]
    rfl
  have hopen : ('[' == '\\' && !false) = false := rfl
  rw [activeTags, tagsFrom, htag, hopen, hbehind, moved_moved, List.singleton_append,
    Nat.add_comm 1]
  rfl

/-- Two pieces of markup that can be read apart keep their tags. -/
theorem tagsFrom_append {odd : Bool} {a b : Text} (h : Apart a b) (hodd : a = [] → odd = false) :
    tagsFrom odd (a ++ b) = tagsFrom odd a ++ moved a.length (tagsFrom false b) := by
  induction a generalizing odd with
  | nil => simp [hodd rfl, tagsFrom, moved]
  | cons c a ih =>
    have hfirst : firstTag odd (c :: (a ++ b)) = firstTag odd (c :: a) := by
      cases htag : tag? (c :: a) with
      | none =>
        have hnone := h.tag?_append_eq_none (List.cons_ne_nil c a) htag
        rw [firstTag_of_none odd htag]
        exact firstTag_of_none odd hnone
      | some found =>
        have hmore := tag?_append htag b
        rw [List.cons_append] at hmore
        simp only [firstTag, htag, hmore, Option.map_some]
    have hrest : tagsFrom (c == '\\' && !odd) (a ++ b) =
        tagsFrom (c == '\\' && !odd) a ++ moved a.length (tagsFrom false b) := by
      by_cases hlast : a = [] ∧ (c == '\\' && !odd) = true
      · -- The backslash in front of the second piece protects nothing.
        obtain ⟨rfl, hslash⟩ := hlast
        rw [Bool.and_eq_true, beq_iff_eq] at hslash
        obtain ⟨rfl, -⟩ := hslash
        have hlead := h.not_leadsToTag rfl
        rw [List.nil_append, tagsFrom_of_not_leadsToTag hlead _ false]
        simp [tagsFrom, moved]
      · apply ih h.of_cons
        intro hnil
        rw [← Bool.not_eq_true]
        exact fun hslash => hlast ⟨hnil, hslash⟩
    rw [List.cons_append, tagsFrom, tagsFrom, hfirst, hrest, moved_append, moved_moved,
      List.append_assoc, List.length_cons, Nat.add_comm 1]

theorem activeTags_append {a b : Text} (h : Apart a b) :
    activeTags (a ++ b) = activeTags a ++ moved a.length (activeTags b) :=
  tagsFrom_append h fun _ => rfl

/-! ## The tags that are read -/

/-- The tags that are read from markup are its active tags, in the same order. -/
theorem tags_read_eq (markup : Text) : tags (read markup) = (activeTags markup).map Prod.snd := by
  fun_induction read markup with
  | case1 => rfl
  | case2 rest ih =>
    -- An odd number of backslashes stands before this bracket.
    have hslash : tagsFrom false ('\\' :: '[' :: rest) = moved 2 (activeTags rest) := by
      rw [tagsFrom_cons_of_none (tag?_of_ne (by decide) _)]
      exact moved_moved 1 1 _
    rw [activeTags, hslash, map_snd_moved, ← ih]
    rfl
  | case3 c rest hne hslash ih =>
    obtain ⟨rfl, hhead, -⟩ := hslash
    obtain ⟨rest, rfl⟩ := List.head?_eq_some_iff.1 hhead
    have hpair : tagsFrom false ('\\' :: '\\' :: rest) = moved 2 (activeTags rest) := by
      rw [tagsFrom_cons_of_none (tag?_of_ne (by decide) _),
        tagsFrom_cons_of_none (tag?_of_ne (by decide) _)]
      exact moved_moved 1 1 _
    rw [activeTags, hpair, map_snd_moved]
    exact ih
  | case4 c rest hne hslash inner after htag ih =>
    obtain ⟨h, hinner⟩ := tag?_eq_some_iff.1 htag
    rw [h, activeTags_of_tag hinner, List.map_cons, map_snd_moved, ← ih]
    rfl
  | case5 c rest hne hslash htag ih =>
    have hrest : tagsFrom (c == '\\' && !false) rest = activeTags rest := by
      by_cases hc : c = '\\'
      · subst hc
        have hlead := leadsToTag_behind_slash (fun r => hne r rfl) fun h => hslash ⟨rfl, h⟩
        exact tagsFrom_of_not_leadsToTag hlead _ false
      · rw [beq_eq_false_iff_ne.2 hc]
        rfl
    rw [activeTags, tagsFrom_cons_of_none htag, hrest, map_snd_moved, ← ih]
    rfl

end Markup

end CardQuery
