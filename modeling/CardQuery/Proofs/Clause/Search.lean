import CardQuery.Proofs.Query.Accumulation
import CardQuery.Proofs.Query.EmptyValues

/-!
# Searches behind modifiers

A search for a text is read in two steps: first the modifiers in front of the text, each at most
once, and then the text behind them, which decides everything else about the search.  So a modifier
makes its own mark on the search and changes nothing else, and the two can stand in either order.

Main results:

- `Modifiers.read_behind` says that a modifier in front does not matter to how the other is read.
- `TextSearch.read?_eq_bare?` takes a search apart into its modifiers and the text behind them.
- `TextSearch.modifiers_orthogonal` says what modifiers in front of a text change.
-/

namespace CardQuery

/-! ## Single modifiers -/

/-- The modifiers that can stand in front of a text to search for. -/
inductive Modifier
  /-- Combining marks are disregarded. -/
  | noCombining
  /-- The text has to begin and end at word boundaries. -/
  | wordBoundary
deriving DecidableEq, Repr

namespace Modifier

/-- The beginning that asks for a modifier. -/
def mark : Modifier → Text
  | noCombining => Modifiers.noCombiningMark
  | wordBoundary => Modifiers.wordMark

/-- The other one of the two modifiers. -/
def other : Modifier → Modifier
  | noCombining => wordBoundary
  | wordBoundary => noCombining

/-- Whether a modifier is set. -/
def isSet : Modifier → Modifiers → Bool
  | noCombining => Modifiers.noCombining
  | wordBoundary => Modifiers.wordBoundary

/-- Modifiers with one more set. -/
def set : Modifier → Modifiers → Modifiers
  | noCombining, m => { m with noCombining := true }
  | wordBoundary, m => { m with wordBoundary := true }

/-- A search with the mark of a modifier. -/
def apply : Modifier → TextSearch → TextSearch
  | noCombining, s => { s with isNoCombining := true }
  | wordBoundary, s => { s with isWordBoundary := true }

theorem eq_or_eq_other (k k' : Modifier) : k' = k ∨ k' = k.other := by
  cases k <;> cases k' <;> decide

@[simp] theorem isSet_none (k : Modifier) : k.isSet {} = false := by
  cases k <;> rfl

@[simp] theorem isSet_set (k : Modifier) (m : Modifiers) : k.isSet (k.set m) = true := by
  cases k <;> rfl

@[simp] theorem isSet_other_set (k : Modifier) (m : Modifiers) :
    k.other.isSet (k.set m) = k.other.isSet m := by
  cases k <;> rfl

@[simp] theorem set_other_set (k : Modifier) : k.other.set (k.set {}) = ⟨true, true⟩ := by
  cases k <;> rfl

@[simp] theorem set_set_other (k : Modifier) : k.set (k.other.set {}) = ⟨true, true⟩ := by
  cases k <;> rfl

end Modifier

/-! ## Reading modifiers -/

namespace Modifiers

/-- A modifier that is not set yet is read off the front of a text. -/
theorem read_mark {k : Modifier} {m : Modifiers} (h : k.isSet m = false) (text : Text) :
    m.read (k.mark ++ text) = (k.set m).read text := by
  cases k with
  | noCombining => exact read_noCombiningMark h text
  | wordBoundary => exact read_wordMark h text

/-- Nothing is read off a text that begins with no modifier that can still be set. -/
theorem read_eq_self {m : Modifiers} {text : Text}
    (h : ∀ k : Modifier, k.isSet m = true ∨ Text.begins k.mark text = false) :
    m.read text = (m, text) := by
  simp only [Text.begins, Option.isSome_eq_false_iff, Option.isNone_iff_eq_none] at h
  have hcombining : m.noCombining = true ∨ Text.after? noCombiningMark text = none :=
    h .noCombining
  have hword : m.wordBoundary = true ∨ Text.after? wordMark text = none := h .wordBoundary
  rw [read]
  split
  next hunset hafter =>
    rcases hcombining with hset | hnone
    · cases hunset.symm.trans hset
    · cases hafter.symm.trans hnone
  next =>
    split
    next hunset hafter =>
      rcases hword with hset | hnone
      · cases hunset.symm.trans hset
      · cases hafter.symm.trans hnone
    next => rfl

/-- Where both modifiers are set, nothing more is read. -/
theorem read_of_both (text : Text) : read ⟨true, true⟩ text = (⟨true, true⟩, text) :=
  read_eq_self fun k => Or.inl (by cases k <;> rfl)

/-- Two different modifiers are both read, whichever comes first. -/
theorem read_pair (k : Modifier) (text : Text) :
    read {} (k.mark ++ (k.other.mark ++ text)) = (⟨true, true⟩, text) := by
  rw [read_mark k.isSet_none, read_mark (by simp), k.set_other_set, read_of_both]

theorem begins_append_left (lead t u : Text) :
    Text.begins (lead ++ t) (lead ++ u) = Text.begins t u := by
  rw [Bool.eq_iff_iff]
  simp [Text.begins, Option.isSome_iff_exists, Text.after?_eq_some_iff]

/-- A modifier in front of a text does not matter to what else is read off the text, unless the text
asks for the same modifier again where it would be read. -/
theorem read_behind {k : Modifier} {text : Text} (hown : Text.begins k.mark text = false)
    (hlater : Text.begins (k.other.mark ++ k.mark) text = false) :
    (k.set {}).read text = (k.set (read {} text).1, (read {} text).2) := by
  cases hother : Text.after? k.other.mark text with
  | none =>
    have hnone : Text.begins k.other.mark text = false := by rw [Text.begins, hother]; rfl
    have hboth : ∀ k', Text.begins (Modifier.mark k') text = false := by
      intro k'
      rcases k.eq_or_eq_other k' with rfl | rfl
      · exact hown
      · exact hnone
    rw [read_eq_self fun k' => Or.inr (hboth k'), read_eq_self fun k' => Or.inr (hboth k')]
  | some rest =>
    obtain rfl := Text.after?_eq_some_iff.1 hother
    rw [begins_append_left] at hlater
    have hrest : (k.other.set {}).read rest = (k.other.set {}, rest) := by
      apply read_eq_self
      intro k'
      rcases k.eq_or_eq_other k' with rfl | rfl
      · exact Or.inr hlater
      · exact Or.inl (Modifier.isSet_set _ _)
    rw [read_mark (by simp), k.set_other_set, read_of_both, read_mark (by simp), hrest,
      k.set_set_other]

end Modifiers

/-! ## Searches for a value -/

namespace TextSearch

/-- The search for a value, which is a regular expression or not; nothing if the value is empty. -/
def ofValue? (m : Modifiers) (negated : Bool) (field : Text) (isRegex : Bool)
    (value : Unquoted) : Option TextSearch :=
  if value.text.isEmpty then none
  else
    some
      { text := value.text
        field := field
        isExact := !isRegex && value.quoted
        isWildcard := !isRegex && !value.quoted && decide ('*' ∈ value.text)
        isRegex := isRegex
        isNoCombining := m.noCombining
        isWordBoundary := m.wordBoundary
        isNegated := negated }

/-- The search for a text in which no modifier is looked for. -/
def bare? (negated : Bool) (field text : Text) : Option TextSearch :=
  ofValue? {} negated field (Text.begins Modifiers.regexMark text)
    ((Text.after? Modifiers.regexMark text).getD text).unquote

/-- A search with the marks of modifiers. -/
def modified (m : Modifiers) (s : TextSearch) : TextSearch :=
  { s with isNoCombining := m.noCombining, isWordBoundary := m.wordBoundary }

theorem ofValue?_eq_map (m : Modifiers) (negated : Bool) (field : Text) (isRegex : Bool)
    (value : Unquoted) :
    ofValue? m negated field isRegex value =
      (ofValue? {} negated field isRegex value).map (modified m) := by
  unfold ofValue?
  split <;> rfl

/-- A search is one for a value, which stands behind its modifiers. -/
theorem read?_eq_ofValue? (negated : Bool) (field text : Text) :
    read? negated field text =
      ofValue? (Modifiers.read {} text).1 negated field
        (Text.begins Modifiers.regexMark (Modifiers.read {} text).2) (searched text).unquote := by
  rcases Option.eq_none_or_eq_some (Text.after? Modifiers.regexMark (Modifiers.read {} text).2) with
    hplain | ⟨pattern, hregex⟩
  · simp [read?, searched, ofValue?, Text.begins, hplain]
  · simp [read?, searched, ofValue?, Text.begins, hregex]

/-- What a search is about is decided by the text behind the modifiers, and the modifiers make their
marks on it. -/
theorem read?_eq_bare? (negated : Bool) (field text : Text) :
    read? negated field text =
      (bare? negated field (Modifiers.read {} text).2).map
        (modified (Modifiers.read {} text).1) := by
  rw [read?_eq_ofValue?, ofValue?_eq_map]
  rfl

theorem modified_set (k : Modifier) (m : Modifiers) (s : TextSearch) :
    modified (k.set m) s = k.apply (modified m s) := by
  cases k <;> rfl

/-- What modifiers in front of a text change.  One of them makes its mark on the search and changes
nothing else, unless the text asks for it again where it would be read.  Two different ones in
either order make both marks on the search for the text behind them, whatever that text is.  A
search is always that for the text behind the modifiers that are read, with their marks on it, and
it is the only thing that can be put into a query. -/
theorem modifiers_orthogonal (negated : Bool) (field text : Text) :
    (∀ k : Modifier, Text.begins k.mark text = false →
        Text.begins (k.other.mark ++ k.mark) text = false →
          read? negated field (k.mark ++ text) = (read? negated field text).map k.apply) ∧
      (∀ k : Modifier, read? negated field (k.mark ++ (k.other.mark ++ text)) =
          read? negated field (k.other.mark ++ (k.mark ++ text)) ∧
        read? negated field (k.mark ++ (k.other.mark ++ text)) =
          (bare? negated field text).map (modified ⟨true, true⟩)) ∧
      read? negated field text =
        (bare? negated field (Modifiers.read {} text).2).map
          (modified (Modifiers.read {} text).1) ∧
      ∀ q : Query, (Accumulator.recordText negated field text).run q =
        .ok () { q with textSearches := q.textSearches ++ (read? negated field text).toList } := by
  have hpair : ∀ k : Modifier, read? negated field (k.mark ++ (k.other.mark ++ text)) =
      (bare? negated field text).map (modified ⟨true, true⟩) := by
    intro k
    rw [read?_eq_bare?, Modifiers.read_pair]
  refine ⟨?_, fun k => ⟨?_, hpair k⟩, read?_eq_bare? negated field text, ?_⟩
  · intro k hown hlater
    rw [read?_eq_bare?, Modifiers.read_mark k.isSet_none, Modifiers.read_behind hown hlater,
      read?_eq_bare? negated field text, Option.map_map]
    exact congrArg (Option.map · _) (funext (modified_set k _))
  · have hother := hpair k.other
    have hback : k.other.other = k := by cases k <;> rfl
    rw [hback] at hother
    rw [hpair, hother]
  · intro q
    rw [Accumulator.recordText_run]
    cases read? negated field text with
    | none => simp [Query.addOption]
    | some s => rfl

/-- A modifier that stands twice is read once, and what is left of it belongs to the text. -/
theorem modifiers_orthogonal_twice :
    let text := "w:w:*".toList
    Text.begins Modifiers.noCombiningMark text = false ∧
      Text.begins (Modifiers.wordMark ++ Modifiers.noCombiningMark) text = false ∧
      read? true [] (Modifiers.noCombiningMark ++ text) =
        some
          { text := "w:*".toList
            isWildcard := true
            isNoCombining := true
            isWordBoundary := true
            isNegated := true } := by
  intro text
  have hown : Text.begins Modifiers.noCombiningMark text = false := by decide
  have hlater : Text.begins (Modifiers.wordMark ++ Modifiers.noCombiningMark) text = false := by
    decide
  have hread : read? true [] text =
      some { text := "w:*".toList, isWildcard := true, isWordBoundary := true,
             isNegated := true } := by
    decide +kernel
  refine ⟨hown, hlater, ?_⟩
  have hmarked := (modifiers_orthogonal true [] text).1 .noCombining hown hlater
  rw [hread] at hmarked
  exact hmarked

end TextSearch

end CardQuery
