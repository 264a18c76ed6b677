import CardQuery.Path

/-!
# Normal paths

A path is normal if each of its names names something: it is neither empty nor made of dots that
stand for the directory itself or its parent, and no slash stands in it.  A normal path is read back
from the way it is written, and from normal places only normal paths are reached.

Main results:

- `names_written` says that the names of a normal path are read back.
- `resolve_written` says that a normal path that is written leads to itself from every place.
- `normal_of_resolve` says that what a written path leads to is normal.
-/

namespace CardQuery

namespace Text

/-- The first part of a text ends at the first separator. -/
theorem partsBetween_append {isEnd : Char → Bool} {part : Text} (h : ∀ c ∈ part, isEnd c = false)
    {sep : Char} (hsep : isEnd sep = true) (rest : Text) :
    partsBetween isEnd (part ++ sep :: rest) = part :: partsBetween isEnd rest := by
  induction part with
  | nil =>
    rw [List.nil_append, partsBetween, if_pos hsep]
  | cons c part ih =>
    have hc := h c List.mem_cons_self
    have hpart := ih fun d hd => h d (List.mem_cons_of_mem c hd)
    rw [List.cons_append, partsBetween, if_neg (by simp [hc]), hpart]

/-- No part holds a character that ends parts. -/
theorem noEnd_of_mem_partsBetween {isEnd : Char → Bool} {t part : Text}
    (hpart : part ∈ partsBetween isEnd t) : ∀ c ∈ part, isEnd c = false := by
  induction t generalizing part with
  | nil =>
    rw [List.mem_singleton.1 hpart]
    exact nofun
  | cons d t ih =>
    unfold partsBetween at hpart
    split at hpart
    next =>
      rcases List.mem_cons.1 hpart with rfl | hrest
      · exact nofun
      · exact ih hrest
    next hd =>
      have hfirst : isEnd d = false := by simpa using hd
      split at hpart
      next =>
        rw [List.mem_singleton.1 hpart]
        simpa using hfirst
      next first rest hparts =>
        rcases List.mem_cons.1 hpart with rfl | hrest
        · exact List.forall_mem_cons.2 ⟨hfirst, ih (hparts ▸ List.mem_cons_self)⟩
        · exact ih (hparts ▸ List.mem_cons_of_mem first hrest)

end Text

namespace Path

/-- A name that leads on to something in a directory. -/
structure Proper (name : Text) : Prop where
  ne_nil : name ≠ []
  ne_dot : name ≠ ['.']
  ne_dots : name ≠ ['.', '.']
  noSlash : '/' ∉ name

/-- Whether every name of a path leads on to something. -/
def Normal (p : Path) : Prop := ∀ name ∈ p, Proper name

/-! ## Reading a path back -/

theorem partsBetween_written {name : Text} (hname : '/' ∉ name) {p : Path}
    (hp : ∀ other ∈ p, '/' ∉ other) :
    Text.partsBetween (· == '/') (name ++ p.flatMap ('/' :: ·)) = name :: p := by
  have hends : ∀ {t : Text}, '/' ∉ t → ∀ c ∈ t, (c == '/') = false := by
    intro t ht c hc
    rw [beq_eq_false_iff_ne]
    rintro rfl
    exact ht hc
  induction p generalizing name with
  | nil => rw [List.flatMap_nil, List.append_nil, Text.partsBetween_of_noEnd (hends hname)]
  | cons other p ih =>
    rw [List.forall_mem_cons] at hp
    rw [List.flatMap_cons, List.cons_append, Text.partsBetween_append (hends hname) (by decide),
      ih hp.1 hp.2]

/-- The names of a normal path are read back from the way it is written. -/
theorem names_written {p : Path} (h : p.Normal) : names p.written = p := by
  cases p with
  | nil => rfl
  | cons name p =>
    have hslash : ∀ other ∈ name :: p, '/' ∉ other := fun other hother => (h other hother).noSlash
    -- The slash in front of the first name makes an empty part, which is no name.
    have hparts := partsBetween_written (List.not_mem_nil (a := '/')) hslash
    have hkept : ∀ other ∈ name :: p, (other != [] && other != ['.']) = true := by
      intro other hother
      simp [(h other hother).ne_nil, (h other hother).ne_dot]
    rw [written_cons, names, ← List.nil_append (List.flatMap _ _), hparts,
      List.filter_cons_of_neg (by decide), List.filter_eq_self.2 hkept]

/-- Names that lead on are followed one below the other. -/
theorem follow_normal (base : Path) {p : Path} (h : p.Normal) : follow base p = base ++ p := by
  induction p generalizing base with
  | nil => exact (List.append_nil base).symm
  | cons name p ih =>
    have hne := (h name List.mem_cons_self).ne_dots
    have hrest : Normal p := fun other hother => h other (List.mem_cons_of_mem name hother)
    rw [follow, List.foldl_cons, if_neg hne, ← follow, ih _ hrest, List.append_assoc]
    rfl

/-- A normal path that is written leads to itself, from every place. -/
theorem resolve_written (place : Place) {p : Path} (h : p.Normal) :
    resolve place p.written = .ok p := by
  have hhead : p.written.head? = some '/' := by cases p <;> rfl
  rw [resolve, if_pos hhead, names_written h, follow_normal [] h, List.nil_append]

/-! ## What a written path leads to -/

theorem normal_nil : Normal [] := fun _ h => absurd h List.not_mem_nil

theorem Normal.parent {p : Path} (h : p.Normal) : p.parent.Normal :=
  fun name hname => h name (List.dropLast_subset p hname)

/-- Following names from a normal path leads to a normal path, also through parents. -/
theorem Normal.follow {p : Path} (h : p.Normal) {names : List Text}
    (hnames : ∀ name ∈ names, name ≠ [] ∧ name ≠ ['.'] ∧ '/' ∉ name) :
    (p.follow names).Normal := by
  induction names generalizing p with
  | nil => exact h
  | cons name names ih =>
    rw [List.forall_mem_cons] at hnames
    rw [Path.follow, List.foldl_cons, ← Path.follow]
    apply ih _ hnames.2
    by_cases hdots : name = ['.', '.']
    · rw [if_pos hdots]
      exact h.parent
    · rw [if_neg hdots]
      intro other hother
      rcases List.mem_append.1 hother with hp | hlast
      · exact h other hp
      · rw [List.mem_singleton.1 hlast]
        exact ⟨hnames.1.1, hnames.1.2.1, hdots, hnames.1.2.2⟩

theorem of_mem_names {t name : Text} (h : name ∈ names t) :
    name ≠ [] ∧ name ≠ ['.'] ∧ '/' ∉ name := by
  rcases List.mem_filter.1 h with ⟨hpart, hkept⟩
  rw [Bool.and_eq_true, bne_iff_ne, bne_iff_ne] at hkept
  have hends := Text.noEnd_of_mem_partsBetween hpart
  exact ⟨hkept.1, hkept.2, fun hslash => absurd (hends _ hslash) (by decide)⟩

end Path

namespace Place

/-- A place whose directories have normal paths. -/
structure Normal (place : Place) : Prop where
  home : place.home.Normal
  current : place.current.Normal
  others : ∀ entry ∈ place.others, entry.2.Normal

theorem Normal.homeOf? {place : Place} (h : place.Normal) {user : Text} {home : Path}
    (hhome : place.homeOf? user = some home) : home.Normal := by
  unfold Place.homeOf? at hhome
  split at hhome
  next =>
    obtain rfl := Option.some.inj hhome
    exact h.home
  next =>
    obtain ⟨before, after, hothers, -⟩ := List.lookup_eq_some_iff.1 hhome
    exact h.others (user, home) (by simp [hothers])

end Place

namespace Path

/-- What a written path leads to from a normal place is normal. -/
theorem normal_of_resolve {place : Place} (h : place.Normal) {t : Text} {p : Path}
    (hresolve : resolve place t = .ok p) : p.Normal := by
  unfold resolve at hresolve
  split at hresolve
  next =>
    cases hresolve
    exact normal_nil.follow fun _ => of_mem_names
  next =>
    split at hresolve
    next user rest hnames =>
      split at hresolve
      next home hhome =>
        cases hresolve
        exact (h.homeOf? hhome).follow fun name hname =>
          of_mem_names (hnames ▸ List.mem_cons_of_mem ('~' :: user) hname)
      next => cases hresolve
    next =>
      cases hresolve
      exact h.current.follow fun _ => of_mem_names

end Path

end CardQuery
