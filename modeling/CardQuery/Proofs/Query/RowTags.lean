import CardQuery.Proofs.Notice
import CardQuery.Proofs.Query.Rows
import CardQuery.Proofs.Text.Numeral
import Mathlib.Data.List.Forall2

/-!
# Tags of rows and of notices about a query

A negated constraint has a negation in tags in front, and the field of a text search stands in tags
too.  What is said about a query stands in the tags of a tone.  All other parts of these lines are
fixed or escaped, and no two escaped parts meet, so nothing in a query makes a tag, ends one or
disables one.  The rows of fields are different, since they have two escaped parts and no tag
between them.

Main results:

- `sound_of_mem_rowParts` says that rows of other kinds are made of sound parts.
- `tags_of_rows_and_notices` says which tags the rows and the notices about a query have, and where.
-/

namespace CardQuery

open Markup

namespace Markup

/-- Whether a line is made of parts and has no tags but those among them, where they were put. -/
structure MadeOf (line : Text) (parts : List Part) : Prop where
  line_eq : line = lineOf parts
  tags : activeTags line = ownTags parts

theorem MadeOf.of_sound {line : Text} {parts : List Part} (h : Sound parts)
    (hline : line = Markup.lineOf parts) : MadeOf line parts :=
  ⟨hline, hline ▸ activeTags_lineOf h⟩

/-- The digits of a number are quiet. -/
theorem quiet_ofNat (n : Nat) : Quiet (Text.ofNat n) := by
  intro c hc
  have hdigit := (Text.digits_ofNat n).2 c hc
  have hne : ∀ d, ¬('0' ≤ d ∧ d ≤ '9') → c ≠ d := by
    intro d hd heq
    exact hd (heq ▸ hdigit)
  have hopen := hne '[' (by decide)
  have hclose := hne ']' (by decide)
  refine ⟨?_, hne '\\' (by decide)⟩
  simp [isInside, hopen, hclose]

/-- A whole number in figures is quiet. -/
theorem quiet_ofInt (n : Int) : Quiet (Text.ofInt n) := by
  have hsign : Quiet (Text.signOf n) := by
    unfold Text.signOf
    split <;> decide
  rw [Text.ofInt_eq]
  exact hsign.append (quiet_ofNat n.natAbs)

end Markup

/-! ## The parts of rows -/

namespace Row

/-- The parts of a negation. -/
def negationParts : List Part :=
  [.tag "negated".toList, .fixed "NOT".toList, .tag "/negated".toList, .fixed [' ']]

/-- Parts behind a negation if they are negated. -/
def signedParts (negated : Bool) (parts : List Part) : List Part :=
  if negated then negationParts ++ parts else parts

theorem lineOf_signedParts (negated : Bool) (parts : List Part) :
    lineOf (signedParts negated parts) = signed negated (lineOf parts) := by
  cases negated with
  | false => rfl
  | true =>
    have hnegation : lineOf negationParts = negation := by decide
    rw [signedParts, if_pos rfl, signed, if_pos rfl, ← hnegation]
    exact List.flatMap_append

theorem sound_signedParts (negated : Bool) {parts : List Part} (h : Sound parts) :
    Sound (signedParts negated parts) := by
  cases negated with
  | false => exact h
  | true => exact ⟨by decide, by decide, by decide, by decide, h⟩

end Row

namespace TextSearch

/-- The parts of the field of a text search. -/
def scopeParts (s : TextSearch) : List Part :=
  match s.field with
  | [] => []
  | field =>
    [.tag "modifier".toList, .escaped field, .fixed [':'], .tag "/modifier".toList, .fixed [' ']]

/-- The parts of the row of a text search. -/
def parts (s : TextSearch) : List Part :=
  Row.signedParts s.isNegated
    (s.scopeParts ++ [.escaped s.text.literal, .fixed (" (".toList ++ s.label ++ [')'])])

/-- The label of a text search is made of fixed words. -/
theorem quiet_label (s : TextSearch) : Quiet s.label := by
  have hwords : ∀ isExact isWildcard isRegex isNoCombining isWordBoundary : Bool, Quiet <| label
      ⟨[], [], isExact, isWildcard, isRegex, isNoCombining, isWordBoundary, false⟩ := by
    decide
  exact hwords s.isExact s.isWildcard s.isRegex s.isNoCombining s.isWordBoundary

theorem sound_parts (s : TextSearch) : Sound s.parts := by
  have hlabel : Quiet (" (".toList ++ s.label ++ [')']) :=
    (Quiet.append (by decide) s.quiet_label).append (by decide)
  have htext : Sound [.escaped s.text.literal, .fixed (" (".toList ++ s.label ++ [')'])] :=
    ⟨rfl, hlabel, trivial⟩
  apply Row.sound_signedParts
  unfold scopeParts
  split
  next => exact htext
  next => exact ⟨by decide, rfl, by decide, by decide, by decide, htext⟩

/-- The row of a text search is put together from its parts. -/
theorem describe_eq (s : TextSearch) : s.describe = lineOf s.parts := by
  have hscope : s.scope = lineOf s.scopeParts := by
    unfold scope scopeParts
    cases s.field with
    | nil => rfl
    | cons c field => simp [Part.markup]
  rw [parts, Row.lineOf_signedParts, describe, hscope, lineOf, lineOf, List.flatMap_append]
  simp [Part.markup]

end TextSearch

namespace Query

/-- The kinds and the parts of rows with names that are asked for or left out. -/
def nameParts (bucket : String) (negated : Bool) (names : List Text) : List (Text × List Part) :=
  names.map fun name => (bucket.toList, Row.signedParts negated [.escaped name])

/-- The kinds and the parts of rows with flags that are asked for or left out. -/
def flagParts (negated : Bool) (flags : List Int) : List (Text × List Part) :=
  flags.map fun flag => ("flag".toList, Row.signedParts negated [.fixed (Text.ofInt flag)])

/-- The kinds and the parts of the rows of a query that are no rows of fields. -/
def rowParts (q : Query) : List (Text × List Part) :=
  q.textSearches.map (fun s => ("text".toList, s.parts)) ++
  (nameParts "deck" false q.decksInclude ++ nameParts "deck" true q.decksExclude) ++
  (nameParts "tag" false q.tagsInclude ++ nameParts "tag" true q.tagsExclude) ++
  (nameParts "state" false q.states ++ nameParts "state" true q.statesExclude) ++
  (flagParts false q.flags ++ flagParts true q.flagsExclude) ++
  q.propertyFilters.map fun f =>
    ("prop".toList, [.escaped (f.property ++ [' '] ++ f.comparator.symbol ++ [' '] ++ f.value)])

/-- The rows of a query that are no rows of fields. -/
def plainRows (q : Query) : List Row := q.rows.filter fun row => row.bucket ≠ "field".toList

/-- The row that is put together from parts. -/
def rowOf (line : Text × List Part) : Row := ⟨line.1, lineOf line.2⟩

theorem map_rowOf_nameParts (bucket : String) (negated : Bool) (names : List Text) :
    (nameParts bucket negated names).map rowOf =
      signedRows bucket negated (names.map escape) := by
  simp [nameParts, signedRows, rowOf, Row.lineOf_signedParts, Part.markup]

theorem map_rowOf_flagParts (negated : Bool) (flags : List Int) :
    (flagParts negated flags).map rowOf = signedRows "flag" negated (flags.map Text.ofInt) := by
  simp [flagParts, signedRows, rowOf, Row.lineOf_signedParts, Part.markup]

/-- The rows of a query that are no rows of fields are put together from their parts, in order. -/
theorem plainRows_eq (q : Query) : q.plainRows = q.rowParts.map rowOf := by
  have htexts : (q.textSearches.map fun s => ("text".toList, s.parts)).map rowOf =
      q.textSearches.map Row.ofText := by
    simp [rowOf, Row.ofText, TextSearch.describe_eq]
  have hproperties : (q.propertyFilters.map fun f => ("prop".toList,
      [Part.escaped (f.property ++ [' '] ++ f.comparator.symbol ++ [' '] ++ f.value)])).map rowOf =
        q.propertyFilters.map Row.ofProperty := by
    simp [rowOf, Row.ofProperty, Part.markup]
  rw [plainRows, rows_filter q fun bucket => bucket ≠ "field".toList]
  simp only [rowParts, List.map_append, htexts, hproperties, map_rowOf_nameParts,
    map_rowOf_flagParts]
  simp

/-- Rows that are no rows of fields are made of sound parts. -/
theorem sound_of_mem_rowParts {q : Query} {line : Text × List Part} (h : line ∈ q.rowParts) :
    Sound line.2 := by
  have hnames : ∀ bucket negated names, line ∈ nameParts bucket negated names → Sound line.2 := by
    intro bucket negated names hline
    obtain ⟨name, -, rfl⟩ := List.mem_map.1 hline
    exact Row.sound_signedParts negated ⟨rfl, trivial⟩
  have hflags : ∀ negated flags, line ∈ flagParts negated flags → Sound line.2 := by
    intro negated flags hline
    obtain ⟨flag, -, rfl⟩ := List.mem_map.1 hline
    exact Row.sound_signedParts negated ⟨quiet_ofInt flag, trivial⟩
  simp only [rowParts, List.mem_append] at h
  rcases h with ((((h | h | h) | h | h) | h | h) | h | h) | h
  · obtain ⟨s, -, rfl⟩ := List.mem_map.1 h
    exact s.sound_parts
  · exact hnames "deck" false q.decksInclude h
  · exact hnames "deck" true q.decksExclude h
  · exact hnames "tag" false q.tagsInclude h
  · exact hnames "tag" true q.tagsExclude h
  · exact hnames "state" false q.states h
  · exact hnames "state" true q.statesExclude h
  · exact hflags false q.flags h
  · exact hflags true q.flagsExclude h
  · obtain ⟨f, -, rfl⟩ := List.mem_map.1 h
    exact ⟨rfl, trivial⟩

end Query

/-! ## The parts of notices about a query -/

namespace Notice

/-- The parts of the announcement of a query. -/
def compilingParts (query : Text) (strict : Bool) : List (List Part) :=
  [Tone.info.parts [.fixed "Parsing ".toList, .escaped query.literal,
    .fixed (" (strict=".toList ++ LogEntry.truth strict ++ [')'])]]

/-- The parts of the notice about a query that places no constraints. -/
def unconstrainedParts (query : Text) : List (List Part) :=
  [Tone.info.parts [.fixed "Search ".toList, .escaped query.literal,
    .fixed " places no constraints (matches everything)".toList]]

/-- The parts of the notice about a query that places constraints. -/
def constrainedParts (query : Text) (count : Nat) : List (List Part) :=
  [Tone.info.parts [.fixed "Search: ".toList, .escaped query,
    .fixed (" (".toList ++ Text.ofNat count ++ " constraints)".toList)]]

/-- The parts of the refusal of a query. -/
def notUnderstoodParts (e : QueryError) : List (List Part) :=
  [Tone.error.parts [.fixed "Error:".toList] ++ [.fixed " Could not understand search".toList],
   .fixed "  ".toList :: Tone.info.parts [.fixed "Hint:".toList] ++
    [.fixed [' '], .escaped e.message]]

theorem madeOf_compiling (query : Text) (strict : Bool) :
    List.Forall₂ MadeOf (compiling query strict).lines (compilingParts query strict) := by
  have hbehind : Quiet (" (strict=".toList ++ LogEntry.truth strict ++ [')']) := by
    cases strict <;> decide
  have hsound := Tone.info.sound_parts (by decide : Quiet "Parsing ".toList) hbehind rfl
    query.literal
  refine .cons (.of_sound hsound ?_) .nil
  simp [Tone.lineOf_parts, Part.markup]

theorem madeOf_unconstrained (query : Text) :
    List.Forall₂ MadeOf (unconstrained query).lines (unconstrainedParts query) := by
  have hbehind : Quiet " places no constraints (matches everything)".toList := by decide
  have hsound := Tone.info.sound_parts (by decide : Quiet "Search ".toList) hbehind rfl
    query.literal
  refine .cons (.of_sound hsound ?_) .nil
  simp [Tone.lineOf_parts, Part.markup]

theorem madeOf_constrained (query : Text) (count : Nat) :
    List.Forall₂ MadeOf (constrained query count).lines (constrainedParts query count) := by
  have hbehind : Quiet (" (".toList ++ Text.ofNat count ++ " constraints)".toList) :=
    (Quiet.append (by decide) (quiet_ofNat count)).append (by decide)
  have hsound := Tone.info.sound_parts (by decide : Quiet "Search: ".toList) hbehind rfl query
  refine .cons (.of_sound hsound ?_) .nil
  simp [Tone.lineOf_parts, Part.markup]

theorem madeOf_notUnderstood (e : QueryError) :
    List.Forall₂ MadeOf (notUnderstood e).lines (notUnderstoodParts e) := by
  have herror : Sound (Tone.error.parts [.fixed "Error:".toList] ++
      [.fixed " Could not understand search".toList]) := by
    exact ⟨inner_name .error, by decide, inner_slash_name .error, by decide, trivial⟩
  have hhint : Sound (.fixed "  ".toList :: Tone.info.parts [.fixed "Hint:".toList] ++
      [.fixed [' '], .escaped e.message]) := by
    exact ⟨by decide, inner_name .info, by decide, inner_slash_name .info, by decide, rfl, trivial⟩
  refine .cons (.of_sound herror ?_) (.cons (.of_sound hhint ?_) .nil)
  · simp [errorLine, Tone.parts, Tone.apply, Part.markup]
  · simp [hintLine, Tone.parts, Tone.apply, Part.markup]

end Notice

/-- The rows of a query that are no rows of fields, and the lines of the notices about a query, have
no tags but those that the program puts there, each in its place. -/
theorem tags_of_rows_and_notices :
    (∀ q : Query, List.Forall₂ (fun row line => row.bucket = line.1 ∧ MadeOf row.markup line.2)
      q.plainRows q.rowParts) ∧
    (∀ query strict, List.Forall₂ MadeOf (Notice.compiling query strict).lines
      (Notice.compilingParts query strict)) ∧
    (∀ query, List.Forall₂ MadeOf (Notice.unconstrained query).lines
      (Notice.unconstrainedParts query)) ∧
    (∀ query count, List.Forall₂ MadeOf (Notice.constrained query count).lines
      (Notice.constrainedParts query count)) ∧
    ∀ e, List.Forall₂ MadeOf (Notice.notUnderstood e).lines (Notice.notUnderstoodParts e) := by
  refine ⟨?_, Notice.madeOf_compiling, Notice.madeOf_unconstrained, Notice.madeOf_constrained,
    Notice.madeOf_notUnderstood⟩
  intro q
  rw [Query.plainRows_eq, List.forall₂_map_left_iff, List.forall₂_same]
  intro line hline
  exact ⟨rfl, .of_sound (Query.sound_of_mem_rowParts hline) rfl⟩

end CardQuery
