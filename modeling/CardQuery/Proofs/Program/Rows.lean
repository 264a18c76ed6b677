import CardQuery.Program
import CardQuery.Proofs.Console
import CardQuery.Proofs.Markup.Injective
import CardQuery.Proofs.Query.RowTags
import CardQuery.Proofs.Query.Size
import CardQuery.Proofs.Query.WellFormed
import CardQuery.Proofs.Session

/-!
# Queries shown as rows

A query that is not shown in JSON is shown by its rows, or by the notice that it places no
constraints.  The notice is told from what is shown of other queries by the first characters that
are printed.

Main results:

- `Console.exists_filter_printed` says what a line in a tone is printed to begin with.
- `saysUnconstrained_iff` says which queries are shown by the notice alone.
- `rows_of_compile` says that the ways to tell how many constraints a query places agree.
- `not_forall_rows` gives a query that cannot be put into rows.
-/

namespace CardQuery

open Markup

/-! ## Beginnings of printed lines -/

namespace Console

/-- Whether a character is printed wherever it is shown: it is no blank and does not act on a
terminal. -/
def isSteady (c : Char) : Bool := decide (c ∉ [' ', '\t', '\n']) && !isAction c

/-- A line in a tone is printed with what it begins with. -/
theorem exists_filter_printed {tone : Tone} {lead rest printed : Text} (hlead : Bare lead)
    (h : Console.printed (tone.apply (lead ++ rest)) = .ok printed) :
    ∃ more, printed.filter isSteady = lead.filter isSteady ++ more := by
  obtain ⟨markup, hline⟩ : ∃ markup, tone.apply (lead ++ rest) =
      '[' :: (tone.name ++ ']' :: (lead ++ markup)) :=
    ⟨rest ++ '[' :: '/' :: tone.name ++ [']'], by simp [Tone.apply]⟩
  have hread : read (tone.apply (lead ++ rest)) =
      .tag tone.name :: (lead.map Token.char ++ read markup) := by
    rw [hline, read_of_tag? (tag?_eq_some_iff.2 ⟨rfl, inner_name tone⟩), read_append_of_bare hlead]
  have hshown : shown (read (tone.apply (lead ++ rest))) = lead ++ shown (read markup) := by
    rw [hread, shown_cons_tag, shown, List.filterMap_append, ← shown, shown_map_char, ← shown]
  have hblank : ∀ c ∈ [' ', '\t', '\n'], isSteady c = false := fun c hc => by
    rw [isSteady, decide_eq_false (not_not.2 hc), Bool.false_and]
  have haction : ∀ c, isSteady c = true → isAction c = false := fun c hc => by
    rw [isSteady, Bool.and_eq_true, Bool.not_eq_true'] at hc
    exact hc.2
  refine ⟨(shown (read markup)).filter isSteady, ?_⟩
  rw [filter_printed h hblank haction, hshown, List.filter_append]

end Console

/-! ## The two notices about rows -/

namespace Notice

variable {query line : Text}

/-- The notice that a query places no constraints can be given, whatever the query is. -/
theorem printable_unconstrained (query : Text) : (unconstrained query).Printable := by
  intro line hline
  obtain rfl := List.mem_singleton.1 hline
  exact Console.exists_printed_of_tags
    (Tone.info.tags_read_toned (by decide) (by decide) (by decide) query.literal)

/-- The notice that a query places constraints can be given, whatever the query is. -/
theorem printable_constrained (query : Text) (count : Nat) :
    (constrained query count).Printable := by
  intro line hline
  obtain rfl := List.mem_singleton.1 hline
  have hbehind : Quiet (" (".toList ++ Text.ofNat count ++ " constraints)".toList) :=
    (Quiet.append (by decide) (quiet_ofNat count)).append (by decide)
  have htags := Tone.info.tags_read_toned (by decide : Quiet "Search: ".toList) hbehind rfl query
  simpa using Console.exists_printed_of_tags htags

/-- A query that places no constraints is named in quotes. -/
theorem filter_unconstrained (h : Session.PrintedAs (unconstrained query).lines [line]) :
    ∃ more, line.filter Console.isSteady = "Search".toList ++ Text.quoteFor query :: more := by
  obtain ⟨rest, hliteral⟩ := exists_escape_literal query
  have hline : (unconstrained query).lines =
      [Tone.info.apply (("Search ".toList ++ [Text.quoteFor query]) ++
        (rest ++ " places no constraints (matches everything)".toList))] := by
    simp [lines, hliteral]
  rw [hline] at h
  have hbare : Bare ("Search ".toList ++ [Text.quoteFor query]) := by
    rcases Text.quoteFor_cases query with hquote | hquote <;> rw [hquote] <;> decide
  obtain ⟨more, hmore⟩ := Console.exists_filter_printed hbare (List.forall₂_cons.1 h).1
  refine ⟨more, hmore.trans ?_⟩
  rcases Text.quoteFor_cases query with hquote | hquote <;> rw [hquote] <;> rfl

/-- A query that places constraints is named behind a colon. -/
theorem filter_constrained {count : Nat}
    (h : Session.PrintedAs (constrained query count).lines [line]) :
    ∃ more, line.filter Console.isSteady = "Search".toList ++ ':' :: more := by
  have hline : (constrained query count).lines =
      [Tone.info.apply ("Search: ".toList ++
        (escape query ++ " (".toList ++ Text.ofNat count ++ " constraints)".toList))] := by
    simp [lines]
  rw [hline] at h
  exact Console.exists_filter_printed (by decide) (List.forall₂_cons.1 h).1

end Notice

/-- A notice of one line is written as that line. -/
theorem Session.exists_say_line {n : Notice} {markup : Text} (hlines : n.lines = [markup])
    (h : n.Printable) (s : Session) :
    ∃ line, PrintedAs n.lines [line] ∧ s.say n = .ok (s.write n.channel line) := by
  obtain ⟨line, hline⟩ := h markup (by simp [hlines])
  have hprinted : PrintedAs n.lines [line] := by
    rw [hlines]
    exact List.Forall₂.cons hline List.Forall₂.nil
  exact ⟨line, hprinted, say_eq_ok_iff.2 ⟨[line], hprinted, by simp⟩⟩

/-! ## What is shown of a query -/

namespace Program

/-- Whether a query is shown by the notice that it places no constraints, and nothing else is
written to the stream of results. -/
def SaysUnconstrained (format query : Text) (q : Query) (s : Session) : Prop :=
  ∃ line, Session.PrintedAs (Notice.unconstrained query).lines [line] ∧
    (Session.finish (show_ format query q s)).last.output = s.output ++ line

variable {format query : Text} {q : Query} {s : Session}

/-- A query that places no constraints is shown by the notice, except in JSON. -/
theorem saysUnconstrained_empty (hformat : format ≠ "json".toList) :
    SaysUnconstrained format query {} s := by
  obtain ⟨line, hline, hsay⟩ :=
    Session.exists_say_line rfl (Notice.printable_unconstrained query) s
  refine ⟨line, hline, ?_⟩
  have hrows : Query.rows {} = [] := rfl
  have hshow : show_ format query {} s = s.say (.unconstrained query) := by
    rw [show_, if_neg hformat, hrows, if_pos List.isEmpty_nil]
  rw [hshow, hsay]
  rfl

/-- In JSON a query is shown by a document, which begins with a brace. -/
theorem not_saysUnconstrained_json : ¬SaysUnconstrained "json".toList query q s := by
  rintro ⟨line, hline, houtput⟩
  obtain ⟨more, hmore⟩ := Notice.filter_unconstrained hline
  obtain ⟨rest, hrest⟩ : ∃ rest, q.toJson.document ++ ['\n'] = '\x7b' :: rest := ⟨_, rfl⟩
  rw [show_, if_pos rfl, hrest] at houtput
  rw [← List.append_cancel_left houtput] at hmore
  exact absurd (List.cons.inj hmore).1 (by decide)

/-- A query that places constraints is shown by another notice first. -/
theorem exists_output_show (hformat : format ≠ "json".toList) (hq : q ≠ {}) :
    ∃ line more, Session.PrintedAs (Notice.constrained query q.rows.length).lines [line] ∧
      (Session.finish (show_ format query q s)).last.output = s.output ++ (line ++ more) := by
  obtain ⟨line, hline, hsay⟩ :=
    Session.exists_say_line rfl (Notice.printable_constrained query q.rows.length) s
  have hrows : q.rows.isEmpty = false := by
    rw [← Bool.not_eq_true, List.isEmpty_iff, Query.rows_eq_nil_iff]
    exact hq
  have hshow : show_ format query q s =
      (s.write .output line).put .output (Console.printedTable q.rows) := by
    rw [show_, if_neg hformat, hrows, if_neg (by decide), hsay]
    rfl
  rw [hshow]
  cases Console.printedTable q.rows with
  | error fault => exact ⟨line, [], hline, by rw [List.append_nil]; rfl⟩
  | ok table => exact ⟨line, table, hline, by rw [← List.append_assoc]; rfl⟩

/-- A query is shown by the notice alone if it places no constraints and is not shown in JSON. -/
theorem saysUnconstrained_iff :
    SaysUnconstrained format query q s ↔ format ≠ "json".toList ∧ q = {} := by
  constructor
  · intro h
    have hformat : format ≠ "json".toList := by
      rintro rfl
      exact not_saysUnconstrained_json h
    refine ⟨hformat, by_contra fun hq => ?_⟩
    obtain ⟨line, hline, houtput⟩ := h
    obtain ⟨first, table, hfirst, hshow⟩ := exists_output_show hformat hq
    obtain ⟨more, hmore⟩ := Notice.filter_unconstrained hline
    obtain ⟨more', hmore'⟩ := Notice.filter_constrained hfirst
    -- The character behind the first word is a quote in the one notice and a colon in the other.
    rw [List.append_cancel_left (houtput.symm.trans hshow), List.filter_append, hmore',
      List.append_assoc] at hmore
    have hcolon : ':' = Text.quoteFor query := (List.cons.inj (List.append_cancel_left hmore)).1
    rcases Text.quoteFor_cases query with hquote | hquote <;> rw [hquote] at hcolon <;>
      exact absurd hcolon (by decide)
  · rintro ⟨hformat, rfl⟩
    exact saysUnconstrained_empty hformat

/-! ## Rows of compiled queries -/

/-- Only the query without constraints is put into no rows at all. -/
theorem rows?_eq_some_nil_iff {q : Query} : q.rows? = some [] ↔ q = {} := by
  rw [Query.rows?_eq_some_iff, Query.rows_eq_nil_iff]
  constructor
  · exact fun h => h.2
  · rintro rfl
    exact ⟨by decide, rfl⟩

/-- How many constraints a query places can be told in ways that agree.  A query is empty if it is
the query without constraints, if it has the same constraints as that, and if it is put into no
rows.  It can be put into rows exactly if its flags can be written, and has a row for each entry of
a bucket then.  A compiled query can be put into rows and has one for each of its clauses, except
for those that add nothing to any query and for those that set the value of a field again, and where
it is not shown in JSON it is shown by the notice that it places no constraints exactly if every
clause adds nothing. -/
theorem rows_of_compile :
    (∀ q : Query, (q.isEmpty = true ↔ q = {}) ∧ (q.sameConstraints {} = true ↔ q = {}) ∧
      (q.isEmpty = true ↔ q.rows? = some []) ∧
      ((∃ rows, q.rows? = some rows) ↔ q.HasNumerals) ∧
      ∀ rows, q.rows? = some rows →
        rows.length = (Bucket.all.map fun b => (q.entries b).length).sum) ∧
    ∀ (dialect : Dialect) (query : Text) (clauses : List Clause) (q : Query),
      Clause.split query = .ok clauses → Query.compile dialect query = .ok q →
        (∃ rows, q.rows? = some rows ∧
          rows.length + clauses.countP (fun c => c.AddsNothing dialect.strict) +
            Query.resettings dialect.strict clauses = clauses.length) ∧
          ∀ format s, SaysUnconstrained format query q s ↔
            format ≠ "json".toList ∧ ∀ c ∈ clauses, c.AddsNothing dialect.strict := by
  constructor
  · intro q
    refine ⟨q.isEmpty_iff, q.sameConstraints_empty_iff, ?_, Query.exists_rows?_iff, ?_⟩
    · rw [Query.isEmpty_iff, rows?_eq_some_nil_iff]
    · intro rows hrows
      rw [← (Query.rows?_eq_some_iff.1 hrows).2, q.length_rows_eq_sum]
  · intro dialect query clauses q hsplit hcompile
    refine ⟨⟨q.rows, ?_, ?_⟩, fun format s => ?_⟩
    · exact Query.rows?_eq_some_iff.2 ⟨Query.hasNumerals_of_compile hcompile, rfl⟩
    · rw [Query.length_rows]
      exact Query.size_of_compile hsplit hcompile
    · rw [saysUnconstrained_iff, Query.eq_empty_of_compile_iff hsplit hcompile]

/-- Of three clauses the first adds nothing, and the last sets again what the one before it sets. -/
theorem rows_of_compile_again :
    let query : Text := "tag: front:a front:b".toList
    let clauses : List Clause :=
      [⟨false, "tag:".toList⟩, ⟨false, "front:a".toList⟩, ⟨false, "front:b".toList⟩]
    let q : Query := { fieldSearches := FieldTable.ofList [("front".toList, ['b'])] }
    Clause.split query = .ok clauses ∧ Query.compile {} query = .ok q ∧
      ∃ rows, q.rows? = some rows ∧ rows.length + 1 + 1 = clauses.length := by
  intro query clauses q
  have hsplit : Clause.split query = .ok clauses := by decide +kernel
  have hcompile : Query.compile {} query = .ok q := by decide +kernel
  have hnothing : clauses.countP (fun c => c.AddsNothing false) = 1 := by decide +kernel
  have hagain : Query.resettings false clauses = 1 := by decide +kernel
  obtain ⟨rows, hrows, hlength⟩ := (rows_of_compile.2 {} query clauses q hsplit hcompile).1
  rw [hnothing, hagain] at hlength
  exact ⟨hsplit, hcompile, rows, hrows, hlength⟩

/-- Not every query can be put into rows: a flag can be too long to be written.  And a query all
whose clauses add nothing is not shown by the notice in JSON. -/
theorem not_forall_rows :
    (¬∀ q : Query, ∃ rows, q.rows? = some rows ∧
      rows.length = (Bucket.all.map fun b => (q.entries b).length).sum) ∧
    ¬∀ (format query : Text) (clauses : List Clause) (q : Query) (s : Session),
      Clause.split query = .ok clauses → Query.compile {} query = .ok q →
        (SaysUnconstrained format query q s ↔ ∀ c ∈ clauses, c.AddsNothing false) := by
  constructor
  · intro hall
    obtain ⟨rows, hrows, -⟩ := hall { flags := [10 ^ Text.maxNumeralDigits] }
    have hnumeral := Query.exists_rows?_iff.1 ⟨rows, hrows⟩ (10 ^ Text.maxNumeralDigits) (by simp)
    exact Text.not_hasNumeral_pow (le_refl Text.maxNumeralDigits) hnumeral
  · intro hall
    have hsplit : Clause.split "deck:".toList = .ok [⟨false, "deck:".toList⟩] := by decide +kernel
    have hcompile : Query.compile {} "deck:".toList = .ok {} := by decide +kernel
    have hnothing : ∀ c ∈ [⟨false, "deck:".toList⟩], Clause.AddsNothing false c := by
      decide +kernel
    exact not_saysUnconstrained_json
      ((hall "json".toList _ _ _ { tree := {} } hsplit hcompile).2 hnothing)

end Program

end CardQuery
