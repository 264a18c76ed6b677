import CardQuery.Proofs.Markup.Escaping

/-!
# What an escaped text shows

Escaping protects the tags of a text and nothing else.  Of a backslash before a bracket that begins
no tag the reader of markup shows the bracket only, and one backslash at the end of a text is
escaped by another one that is shown as well.  All other texts are shown as they are.

Main results:

- `shown_read_escape` says what an escaped text shows.
- `displayed_eq_iff` says which texts are shown as they are.
-/

namespace CardQuery

namespace Markup

/-! ## What a text shows if it is escaped -/

/-- Whether a bracket that begins no tag stands first. -/
def startsInert (t : Text) : Bool := t.head? == some '[' && (tag? t).isNone

/-- A text without the backslashes in front of brackets that begin no tag. -/
def stripped : Text → Text
  | [] => []
  | c :: t => if c = '\\' ∧ startsInert t = true then stripped t else c :: stripped t

/-- What a text shows if it is escaped. -/
def displayed (t : Text) : Text :=
  if endsInLoneSlash t then stripped t ++ ['\\'] else stripped t

/-- Whether a text has a backslash in front of a bracket that begins no tag. -/
def Hidden (t : Text) : Prop :=
  ∃ before after, t = before ++ '\\' :: after ∧ startsInert after = true

theorem startsInert_iff {t : Text} :
    startsInert t = true ↔ ∃ rest, t = '[' :: rest ∧ tag? t = none := by
  rw [startsInert, Bool.and_eq_true, beq_iff_eq, List.head?_eq_some_iff, Option.isNone_iff_eq_none]
  exact exists_and_right.symm

theorem stripped_cons_of_inert {t : Text} (h : startsInert t = true) :
    stripped ('\\' :: t) = stripped t := by rw [stripped, if_pos ⟨rfl, h⟩]

theorem stripped_cons {c : Char} {t : Text} (h : ¬(c = '\\' ∧ startsInert t = true)) :
    stripped (c :: t) = c :: stripped t := by rw [stripped, if_neg h]

/-! ## Reading a protected text -/

/-- Protecting leaves a text alone up to a closing bracket that comes first. -/
theorem protect_append_of_inside {inner : Text} (h : ∀ c ∈ inner, isInside c = true)
    (after : Text) : protect (inner ++ ']' :: after) = inner ++ ']' :: protect after := by
  have hlead : ∀ u : Text, (∀ c ∈ u, isInside c = true) →
      leadsToTag (u ++ ']' :: after) = false := by
    intro u hu
    rw [← Bool.not_eq_true]
    intro hlead
    have hfirst := head?_brackets_of_leadsToTag hlead
    rw [brackets_append, brackets_eq_nil_iff.2 hu, brackets_cons_of_bracket (by decide)] at hfirst
    exact absurd (Option.some.inj hfirst) (by decide)
  induction inner with
  | nil => exact protect_cons_of_not_leads (hlead [] nofun)
  | cons c inner ih =>
    have hinner := fun d hd => h d (List.mem_cons_of_mem c hd)
    have hfirst : leadsToTag (c :: (inner ++ ']' :: after)) = false := hlead (c :: inner) h
    rw [List.cons_append, List.cons_append, protect_cons_of_not_leads hfirst, ih hinner]

/-- A protected text still leads to a tag. -/
theorem leadsToTag_protect {t : Text} (h : leadsToTag t = true) :
    leadsToTag (protect t) = true := by
  induction t with
  | nil => cases h
  | cons c t ih =>
    rw [protect_cons_of_leads h, leadsToTag_slash]
    by_cases hc : c = '\\'
    · subst hc
      rw [leadsToTag_slash] at h ⊢
      exact ih h
    · rw [leadsToTag_of_ne hc] at h ⊢
      obtain ⟨⟨inner, after⟩, htag⟩ := Option.isSome_iff_exists.1 h
      obtain ⟨hsplit, hinner⟩ := tag?_eq_some_iff.1 htag
      obtain ⟨rfl, rfl⟩ := List.cons.inj hsplit
      rw [protect_append_of_inside hinner.inside, tag?_eq_some_iff.2 ⟨rfl, hinner⟩]
      rfl

/-- A text that leads to a tag does not begin with a bracket that begins none. -/
theorem not_startsInert_of_leadsToTag {t : Text} (h : leadsToTag t = true) :
    startsInert t = false := by
  rw [← Bool.not_eq_true, startsInert_iff]
  rintro ⟨rest, rfl, hnone⟩
  rw [leadsToTag_of_ne (by decide), hnone] at h
  cases h

/-- What leads to a tag has a backslash more, which the reader takes away. -/
theorem read_protect_cons_of_leads {c : Char} {t : Text} (hlead : leadsToTag (c :: t) = true)
    (ih : read (protect t) = (stripped t).map Token.char) :
    read (protect (c :: t)) = (stripped (c :: t)).map Token.char := by
  rw [protect_cons_of_leads hlead]
  by_cases hc : c = '\\'
  · -- Two backslashes that lead to a tag show one.
    subst hc
    rw [leadsToTag_slash] at hlead
    have hinert := not_startsInert_of_leadsToTag hlead
    have hpair : ('\\' : Char) = '\\' ∧ ('\\' :: protect t).head? = some '\\' ∧
        leadsToTag ('\\' :: protect t) = true :=
      ⟨rfl, rfl, by rw [leadsToTag_slash, leadsToTag_protect hlead]⟩
    rw [read, if_pos hpair, List.tail_cons, ih, stripped_cons (by simp [hinert]), List.map_cons]
    exact fun _ _ heq => absurd (List.cons.inj heq).1 (by decide)
  · -- The tag has a backslash of its own.
    rw [leadsToTag_of_ne hc] at hlead
    obtain ⟨found, htag⟩ := Option.isSome_iff_exists.1 hlead
    obtain ⟨rfl, -⟩ := List.cons.inj (tag?_eq_some_iff.1 htag).1
    rw [read, ih, stripped_cons (fun h => hc h.1), List.map_cons]

/-- What leads to no tag is read as a character, except for a backslash that the bracket behind it
takes away. -/
theorem read_protect_cons_of_not_leads {c : Char} {t : Text}
    (hlead : leadsToTag (c :: t) = false)
    (ih : read (protect t) = (stripped t).map Token.char) :
    read (protect (c :: t)) = (stripped (c :: t)).map Token.char := by
  rw [protect_cons_of_not_leads hlead]
  have hnone := tag?_protect_eq_none (tag?_of_not_leadsToTag hlead)
  by_cases hc : c = '\\'
  · subst hc
    rw [leadsToTag_slash] at hlead
    have hbehind := leadsToTag_protect_eq_false hlead
    cases hinert : startsInert t with
    | true =>
      obtain ⟨rest, rfl, htag⟩ := startsInert_iff.1 hinert
      rw [protect_cons_of_not_leads hlead] at ih ⊢
      rw [stripped_cons_of_inert hinert, ← ih, read,
        read_of_char _ _ (tag?_protect_eq_none htag)]
      · exact fun _ heq => absurd heq (by decide)
      · exact fun h => absurd h.1 (by decide)
    | false =>
      have hbracket : ∀ r, protect t ≠ '[' :: r := by
        intro r hopen
        cases t with
        | nil => cases hopen
        | cons d t =>
          rw [protect_cons_of_not_leads hlead] at hopen
          obtain ⟨rfl, -⟩ := List.cons.inj hopen
          rw [startsInert_iff.2 ⟨t, rfl, tag?_of_not_leadsToTag hlead⟩] at hinert
          cases hinert
      rw [read_of_char (fun r _ => hbracket r) (fun h => by simp [hbehind] at h) hnone, ih,
        stripped_cons (by simp [hinert]), List.map_cons]
  · rw [read_of_char (fun _ heq => absurd heq hc) (fun h => hc h.1) hnone, ih,
      stripped_cons (fun h => hc h.1), List.map_cons]

/-- The characters of a protected text are those of the text without the backslashes in front of
brackets that begin no tag. -/
theorem read_protect (t : Text) : read (protect t) = (stripped t).map Token.char := by
  induction t with
  | nil => rw [protect, read, stripped, List.map_nil]
  | cons c t ih =>
    cases hlead : leadsToTag (c :: t) with
    | true => exact read_protect_cons_of_leads hlead ih
    | false => exact read_protect_cons_of_not_leads hlead ih

/-! ## A last backslash -/

theorem endsInLoneSlash_concat (t : Text) (c : Char) :
    endsInLoneSlash (t ++ [c]) = (c == '\\' && t.getLast? != some '\\') := by
  rcases List.eq_nil_or_concat t with rfl | ⟨u, d, rfl⟩
  · by_cases hc : c = '\\' <;> simp [endsInLoneSlash, hc]
  · by_cases hc : c = '\\' <;> by_cases hd : d = '\\' <;> simp [endsInLoneSlash, hc, hd]

/-- A text ends in a backslash of its own if the one before its end is none. -/
theorem endsInLoneSlash_iff {t : Text} :
    endsInLoneSlash t = true ↔ ∃ u, t = u ++ ['\\'] ∧ u.getLast? ≠ some '\\' := by
  constructor
  · intro h
    rcases List.eq_nil_or_concat t with rfl | ⟨u, c, rfl⟩
    · cases h
    · rw [List.concat_eq_append, endsInLoneSlash_concat, Bool.and_eq_true, beq_iff_eq,
        bne_iff_ne] at h
      exact ⟨u, by rw [List.concat_eq_append, h.1], h.2⟩
  · rintro ⟨u, rfl, hlast⟩
    rw [endsInLoneSlash_concat, bne_iff_ne.2 hlast]
    rfl

theorem endsInLoneSlash_cons {t : Text} (h : 2 ≤ t.length) (c : Char) :
    endsInLoneSlash (c :: t) = endsInLoneSlash t := by
  obtain ⟨u, d, rfl⟩ := (List.eq_nil_or_concat t).resolve_left (by rintro rfl; simp at h)
  have hne : u ≠ [] := by
    rintro rfl
    simp at h
  rw [List.concat_eq_append, ← List.cons_append, endsInLoneSlash_concat, endsInLoneSlash_concat,
    List.getLast?_cons_of_ne_nil hne]

/-- A tag takes three characters. -/
theorem leadsToTag_of_short {t : Text} (h : t.length ≤ 2) : leadsToTag t = false := by
  rw [← Bool.not_eq_true]
  intro hlead
  obtain ⟨⟨inner, after⟩, htag⟩ := Option.isSome_iff_exists.1 hlead
  obtain ⟨hsplit, ⟨c, hc, -⟩, -⟩ := tag?_eq_some_iff.1 htag
  obtain ⟨inner, rfl⟩ := List.head?_eq_some_iff.1 hc
  have hle := (List.dropWhile_sublist (fun c => c == '\\') (l := t)).length_le
  rw [hsplit] at hle
  simp only [List.length_cons, List.length_append] at hle
  omega

theorem protect_of_short {t : Text} (h : t.length ≤ 2) : protect t = t := by
  induction t with
  | nil => rfl
  | cons c t ih =>
    have hle : t.length ≤ 2 := (Nat.le_succ t.length).trans h
    rw [protect_cons_of_not_leads (leadsToTag_of_short h), ih hle]

theorem length_le_length_protect (t : Text) : t.length ≤ (protect t).length := by
  induction t with
  | nil => exact Nat.le_refl 0
  | cons c t ih =>
    rw [protect]
    split <;> simp only [List.length_cons] <;> omega

/-- Protecting a text leaves its last two characters alone. -/
theorem endsInLoneSlash_protect (t : Text) : endsInLoneSlash (protect t) = endsInLoneSlash t := by
  induction t with
  | nil => rfl
  | cons c t ih =>
    by_cases hshort : t.length < 2
    · have hle : (c :: t).length ≤ 2 := by
        rw [List.length_cons]
        omega
      rw [protect_of_short hle]
    · have hlong := length_le_length_protect t
      have hcons : endsInLoneSlash (c :: protect t) = endsInLoneSlash (c :: t) := by
        rw [endsInLoneSlash_cons (by omega), endsInLoneSlash_cons (by omega), ih]
      cases hlead : leadsToTag (c :: t) with
      | true =>
        rw [protect_cons_of_leads hlead, endsInLoneSlash_cons (by grind), hcons]
      | false => rw [protect_cons_of_not_leads hlead, hcons]

/-- A last backslash of its own is shown twice. -/
theorem read_concat_slash {t : Text} (h : endsInLoneSlash t = true) :
    read (t ++ ['\\']) = read t ++ [.char '\\'] := by
  obtain ⟨u, rfl, hlast⟩ := endsInLoneSlash_iff.1 h
  have hapart : ∀ b : Text, (∀ c ∈ b, c = '\\') → Apart u b := by
    intro b hb
    constructor
    · exact fun hslash => absurd hslash hlast
    · intro _ hclose
      have hmem := List.mem_of_mem_filter (List.mem_of_head? hclose)
      exact absurd (hb ']' hmem) (by decide)
  have hone : read ['\\'] = [.char '\\'] := by
    rw [read_of_char (by simp) (by decide) (by decide), read]
  have htwo : read ['\\', '\\'] = [.char '\\', .char '\\'] := by
    rw [read_of_char (by simp) (by decide) (by decide), hone]
  rw [List.append_assoc, List.singleton_append, read_append (hapart _ (by simp)),
    read_append (hapart _ (by simp)), hone, htwo, List.append_assoc, List.singleton_append]

/-! ## What an escaped text shows -/

theorem read_escape (t : Text) : read (escape t) = (displayed t).map Token.char := by
  have hread := read_protect t
  unfold escape displayed
  simp only [endsInLoneSlash_protect]
  split
  next hlone =>
    rw [← endsInLoneSlash_protect] at hlone
    rw [read_concat_slash hlone, hread, List.map_append]
    rfl
  next => exact hread

theorem shown_map_char (t : Text) : shown (t.map Token.char) = t := by
  simp [shown, List.filterMap_map]

/-- What an escaped text shows. -/
theorem shown_read_escape (t : Text) : shown (read (escape t)) = displayed t := by
  rw [read_escape, shown_map_char]

/-! ## Texts that are shown as they are -/

theorem hidden_cons {c : Char} {t : Text} :
    Hidden (c :: t) ↔ (c = '\\' ∧ startsInert t = true) ∨ Hidden t := by
  constructor
  · rintro ⟨before, after, h, hinert⟩
    cases before with
    | nil =>
      obtain ⟨rfl, rfl⟩ := List.cons.inj h
      exact Or.inl ⟨rfl, hinert⟩
    | cons d before =>
      obtain ⟨rfl, rfl⟩ := List.cons.inj h
      exact Or.inr ⟨before, after, rfl, hinert⟩
  · rintro (⟨rfl, hinert⟩ | ⟨before, after, rfl, hinert⟩)
    · exact ⟨[], t, rfl, hinert⟩
    · exact ⟨c :: before, after, rfl, hinert⟩

/-- Nothing is left of a text but characters of it. -/
theorem stripped_sublist (t : Text) : (stripped t).Sublist t := by
  fun_induction stripped t with
  | case1 => exact List.Sublist.refl []
  | case2 c t h ih => exact ih.cons c
  | case3 c t h ih => exact ih.cons_cons c

/-- Nothing is left out of a text that has no backslash in front of a bracket that begins no tag. -/
theorem stripped_eq_iff {t : Text} : stripped t = t ↔ ¬Hidden t := by
  induction t with
  | nil => simp [stripped, Hidden]
  | cons c t ih =>
    rw [hidden_cons, not_or, ← ih]
    by_cases h : c = '\\' ∧ startsInert t = true
    · obtain ⟨rfl, hinert⟩ := h
      rw [stripped_cons_of_inert hinert]
      have hle := (stripped_sublist t).length_le
      constructor
      · intro heq
        rw [heq, List.length_cons] at hle
        omega
      · exact fun hnot => absurd ⟨rfl, hinert⟩ hnot.1
    · rw [stripped_cons h, List.cons_inj_right]
      exact (and_iff_right h).symm

/-- The last character of a text is not left out. -/
theorem getLast?_stripped (t : Text) : (stripped t).getLast? = t.getLast? := by
  fun_induction stripped t with
  | case1 => rfl
  | case2 c t h ih =>
    obtain ⟨rest, rfl, -⟩ := startsInert_iff.1 h.2
    rw [ih, List.getLast?_cons_cons]
  | case3 c t h ih => rw [List.getLast?_cons, List.getLast?_cons, ih]

/-- A text shows its own characters only, and perhaps a backslash more. -/
theorem mem_of_mem_displayed {t : Text} {c : Char} (h : c ∈ displayed t) : c ∈ t ∨ c = '\\' := by
  unfold displayed at h
  split at h
  next =>
    rcases List.mem_append.1 h with hmem | hlast
    · exact Or.inl ((stripped_sublist t).subset hmem)
    · exact Or.inr (List.mem_singleton.1 hlast)
  next => exact Or.inl ((stripped_sublist t).subset h)

/-- A text is shown as it is if it has no backslash in front of a bracket that begins no tag and
does not end in a backslash of its own. -/
theorem displayed_eq_iff {t : Text} : displayed t = t ↔ ¬Hidden t ∧ endsInLoneSlash t = false := by
  unfold displayed
  split
  next hlone =>
    -- Two backslashes would stand at the end.
    obtain ⟨u, rfl, hlast⟩ := endsInLoneSlash_iff.1 hlone
    constructor
    · intro heq
      have hsame := List.append_cancel_right heq
      rw [← hsame, getLast?_stripped, List.getLast?_concat] at hlast
      exact absurd rfl hlast
    · intro h
      rw [hlone] at h
      cases h.2
  next hlone =>
    rw [stripped_eq_iff]
    exact (and_iff_left (Bool.not_eq_true _ ▸ hlone)).symm

end Markup

end CardQuery
