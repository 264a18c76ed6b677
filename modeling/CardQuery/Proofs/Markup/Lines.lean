import CardQuery.Proofs.Markup.Escaping
import CardQuery.Proofs.Markup.Places

/-!
# Lines made of parts

A line of markup is put together from tags, fixed texts, and texts from outside that are escaped.
Escaping leaves the brackets of a text in place, so one escaped text can close what another one has
opened, unless a tag of the line stands between them.  A line in which a fixed text stands behind
each escaped text, and then a tag or nothing, has no tags but its own.

Main results:

- `activeTags_lineOf` says that a line made of sound parts has its own tags only, where they were
  put.
-/

namespace CardQuery

namespace Markup

/-! ## Parts -/

/-- A part of a line of markup. -/
inductive Part
  /-- A tag of the line itself. -/
  | tag (inner : Text)
  /-- A text of the line itself. -/
  | fixed (t : Text)
  /-- A text from outside, which is escaped. -/
  | escaped (t : Text)
deriving DecidableEq, Repr

namespace Part

/-- The markup of a part. -/
def markup : Part → Text
  | tag inner => '[' :: (inner ++ [']'])
  | fixed t => t
  | escaped t => escape t

/-- The tags of a part with their places. -/
def ownTags : Part → List (Nat × Text)
  | tag inner => [(0, inner)]
  | fixed _ => []
  | escaped _ => []

end Part

/-- The line that parts are put together to. -/
def lineOf (parts : List Part) : Text := parts.flatMap Part.markup

/-- The tags among parts, with the places at which they are put into the line. -/
def ownTags : List Part → List (Nat × Text)
  | [] => []
  | part :: rest => part.ownTags ++ moved part.markup.length (ownTags rest)

@[simp] theorem lineOf_nil : lineOf [] = [] := rfl

@[simp] theorem lineOf_cons (part : Part) (rest : List Part) :
    lineOf (part :: rest) = part.markup ++ lineOf rest := List.flatMap_cons

/-! ## Sound lines -/

/-- Whether a text has neither brackets nor backslashes. -/
def Quiet (t : Text) : Prop := ∀ c ∈ t, isInside c = true ∧ c ≠ '\\'

instance : DecidablePred Quiet := fun t =>
  decidable_of_iff ((t.all fun c => isInside c && c != '\\') = true) (by simp [Quiet])

theorem Quiet.brackets_eq_nil {t : Text} (h : Quiet t) : brackets t = [] :=
  brackets_eq_nil_iff.2 fun c hc => (h c hc).1

theorem Quiet.noBracket {t : Text} (h : Quiet t) : '[' ∉ t := fun hmem =>
  absurd (h _ hmem).1 (by decide)

theorem Quiet.append {t u : Text} (ht : Quiet t) (hu : Quiet u) : Quiet (t ++ u) := fun c hc =>
  (List.mem_append.1 hc).elim (ht c) (hu c)

/-- Whether parts can follow an escaped text: nothing, or a fixed text before a tag or the end. -/
def Guards : List Part → Bool
  | [] => true
  | [.fixed t] => !t.isEmpty
  | .fixed t :: .tag _ :: _ => !t.isEmpty
  | _ => false

/-- Whether the parts of a line keep out of each other's way. -/
def Sound : List Part → Prop
  | [] => True
  | .tag inner :: rest => Inner inner ∧ Sound rest
  | .fixed t :: rest => Quiet t ∧ Sound rest
  | .escaped _ :: rest => Guards rest = true ∧ Sound rest

/-- Only fixed texts stand between an escaped text and a tag. -/
theorem exists_of_guards {parts : List Part} (h : Guards parts = true) (hsound : Sound parts) :
    parts = [] ∨ ∃ c t rest, parts = .fixed (c :: t) :: rest ∧ Quiet (c :: t) ∧
      (brackets (lineOf rest)).head? ≠ some ']' := by
  unfold Guards at h
  split at h
  next => exact Or.inl rfl
  next t =>
    cases t with
    | nil => cases h
    | cons c t => exact Or.inr ⟨c, t, [], rfl, hsound.1, nofun⟩
  next t inner rest =>
    cases t with
    | nil => cases h
    | cons c t =>
      refine Or.inr ⟨c, t, .tag inner :: rest, rfl, hsound.1, ?_⟩
      rw [lineOf_cons, Part.markup, List.cons_append, brackets_cons_of_bracket (by decide)]
      exact fun heq => absurd (Option.some.inj heq) (by decide)
  next => cases h

/-! ## Parts that are read apart -/

theorem apart_tag (inner b : Text) : Apart (Part.tag inner).markup b := by
  have hlast : (Part.tag inner).markup.getLast? = some ']' := by
    rw [Part.markup, ← List.cons_append]
    exact List.getLast?_concat
  have hbrackets : (brackets (Part.tag inner).markup).getLast? = some ']' := by
    have hclose : brackets [']'] = [']'] := by decide
    rw [Part.markup, ← List.cons_append, brackets_append, hclose]
    exact List.getLast?_concat
  constructor
  · intro h
    rw [hlast] at h
    exact absurd h (by decide)
  · intro h
    rw [hbrackets] at h
    exact absurd h (by decide)

theorem Quiet.apart {t : Text} (h : Quiet t) (b : Text) : Apart t b := by
  constructor
  · intro hlast
    exact absurd rfl (h _ (List.mem_of_getLast? hlast)).2
  · intro hlast
    rw [h.brackets_eq_nil] at hlast
    cases hlast

theorem apart_escaped {parts : List Part} (h : Guards parts = true) (hsound : Sound parts)
    (t : Text) : Apart (escape t) (lineOf parts) := by
  rcases exists_of_guards h hsound with rfl | ⟨c, u, rest, rfl, hquiet, hclose⟩
  · exact ⟨fun _ _ => nofun, fun _ => nofun⟩
  · constructor
    · intro _ d hd
      obtain rfl : c = d := Option.some.inj hd
      obtain ⟨hinside, hslash⟩ := hquiet c List.mem_cons_self
      refine ⟨?_, hslash⟩
      rintro rfl
      exact absurd hinside (by decide)
    · intro _
      rw [lineOf_cons, Part.markup, brackets_append, hquiet.brackets_eq_nil]
      exact hclose

/-! ## The tags of a line -/

theorem Quiet.activeTags_eq_nil {t : Text} (h : Quiet t) : activeTags t = [] := by
  have hread := tags_read_eq t
  rw [tags_read_of_noBracket h.noBracket] at hread
  exact List.map_eq_nil_iff.1 hread.symm

theorem activeTags_escape (t : Text) : activeTags (escape t) = [] :=
  activeTags_eq_nil_iff.2 (not_activeTag_escape t)

/-- A line has the tags of its first part and those of the rest. -/
theorem activeTags_lineOf_cons {part : Part} {rest : List Part}
    (h : Apart part.markup (lineOf rest)) (hpart : activeTags part.markup = part.ownTags)
    (hrest : activeTags (lineOf rest) = ownTags rest) :
    activeTags (lineOf (part :: rest)) = ownTags (part :: rest) := by
  rw [lineOf_cons, activeTags_append h, hpart, hrest]
  rfl

/-- A line made of sound parts has its own tags only, where they were put. -/
theorem activeTags_lineOf {parts : List Part} (h : Sound parts) :
    activeTags (lineOf parts) = ownTags parts := by
  induction parts with
  | nil => rfl
  | cons part rest ih =>
    cases part with
    | tag inner =>
      have htag : activeTags (Part.tag inner).markup = (Part.tag inner).ownTags :=
        activeTags_of_tag h.1 []
      exact activeTags_lineOf_cons (apart_tag inner _) htag (ih h.2)
    | fixed t => exact activeTags_lineOf_cons (h.1.apart _) h.1.activeTags_eq_nil (ih h.2)
    | escaped t =>
      exact activeTags_lineOf_cons (apart_escaped h.1 h.2 t) (activeTags_escape t) (ih h.2)

end Markup

end CardQuery
