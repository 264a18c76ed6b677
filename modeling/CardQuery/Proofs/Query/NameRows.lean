import CardQuery.Console
import CardQuery.Proofs.Markup.Displayed
import CardQuery.Proofs.Markup.Styles
import CardQuery.Proofs.Query.Rows
import Mathlib.Data.List.Forall2

/-!
# Names in rows

A deck, a tag or a state is named in a row of its own, escaped, and behind a negation if it is left
out.  Most names are shown as they are.  A backslash in front of a bracket that begins no tag is not
shown, though, one at the end is shown twice, and characters that act on a terminal are never shown,
so two names can have the same row.

Main results:

- `plain_nameRows` says what the rows of names show, and when they show the names themselves.
- `not_forall_names_shown` gives decks that are not shown as they are, and others with the same
  rows.
-/

namespace CardQuery

open Markup

/-- A name in a query. -/
structure Naming where
  /-- The kind of the constraint. -/
  bucket : Text
  /-- Whether what is named is left out. -/
  negated : Bool
  /-- The name. -/
  name : Text
deriving DecidableEq, Repr

namespace Naming

/-- The word that is shown in front of a name that is left out. -/
def lead (n : Naming) : Text := if n.negated then "NOT ".toList else []

/-- The row of a name. -/
def row (n : Naming) : Row := ⟨n.bucket, Row.signed n.negated (escape n.name)⟩

/-- Whether a row shows a name, behind the word for a negation if it is left out. -/
def ShownBy (n : Naming) (row : Row) : Prop := Console.plain row.markup = .ok (n.lead ++ n.name)

end Naming

namespace Query

/-- Names of one kind that are asked for or left out. -/
def namings (bucket : String) (negated : Bool) (names : List Text) : List Naming :=
  names.map fun name => ⟨bucket.toList, negated, name⟩

/-- The decks, tags and states that a query names, in the order of its rows. -/
def names (q : Query) : List Naming :=
  (namings "deck" false q.decksInclude ++ namings "deck" true q.decksExclude) ++
  (namings "tag" false q.tagsInclude ++ namings "tag" true q.tagsExclude) ++
  (namings "state" false q.states ++ namings "state" true q.statesExclude)

/-- The rows of the decks, tags and states of a query. -/
def nameRows (q : Query) : List Row :=
  q.rows.filter fun row => row.bucket ∈ ["deck".toList, "tag".toList, "state".toList]

theorem signedRows_eq_map_row (bucket : String) (negated : Bool) (names : List Text) :
    signedRows bucket negated (names.map escape) =
      (namings bucket negated names).map Naming.row := by
  simp [signedRows, namings, Naming.row]

/-- There is one row for each name, in order. -/
theorem nameRows_eq (q : Query) : q.nameRows = q.names.map Naming.row := by
  rw [nameRows, rows_filter q fun bucket => bucket ∈ ["deck".toList, "tag".toList, "state".toList]]
  simp [names, signedRows_eq_map_row]

end Query

/-! ## What is shown behind a negation -/

theorem plainWord_negated : PlainWord "negated".toList := by
  constructor <;> decide

/-- A negation is read as its tags and its word. -/
theorem read_negation (markup : Text) :
    read (Row.negation ++ markup) = .tag "negated".toList :: ("NOT".toList.map Token.char ++
      .tag "/negated".toList :: .char ' ' :: read markup) := by
  have hspace : Bare [' '] := by decide
  have hword : Bare "NOT".toList := by decide
  have hbehind := read_append_of_bare hspace markup
  have hlabel := read_label plainWord_negated hword ([' '] ++ markup)
  rw [hbehind] at hlabel
  exact hlabel

namespace Naming

/-- What the row of a name shows. -/
theorem render_row (n : Naming) : render n.row.markup = .ok (n.lead ++ displayed n.name) := by
  have hescaped := tags_read_escape n.name
  unfold row lead Row.signed
  cases n.negated with
  | false =>
    have hrender := render_of_noTags hescaped
    rw [shown_read_escape] at hrender
    exact hrender
  | true =>
    have hread := read_negation (escape n.name)
    have htags : tags (read (Row.negation ++ escape n.name)) =
        ["negated".toList, '/' :: "negated".toList] := by
      rw [hread, tags_cons_tag, tags_append, tags_map_char, List.nil_append, tags_cons_tag]
      exact congrArg _ (congrArg _ hescaped)
    have hshown : shown (read (Row.negation ++ escape n.name)) =
        "NOT ".toList ++ shown (read (escape n.name)) := by
      rw [hread]
      rfl
    have hrender := render_of_label plainWord_negated htags
    rw [hshown, shown_read_escape] at hrender
    exact hrender

/-- What the row of a name shows on a stream of plain text. -/
theorem plain_row (n : Naming) :
    Console.plain n.row.markup =
      .ok (n.lead ++ (displayed n.name).filter fun c => !Console.isAction c) := by
  have hlead : (n.lead.filter fun c => !Console.isAction c) = n.lead := by
    unfold lead
    cases n.negated <;> decide
  rw [Console.plain, render_row, Except.map, List.filter_append, hlead]

/-- A name is shown by its row exactly if it has no backslash that is left out, none that is shown
twice, and no character that acts on a terminal. -/
theorem shownBy_row_iff (n : Naming) :
    n.ShownBy n.row ↔ ¬Hidden n.name ∧ endsInLoneSlash n.name = false ∧
      ∀ c ∈ n.name, Console.isAction c = false := by
  have hkept : (∀ c ∈ n.name, Console.isAction c = false) →
      ((displayed n.name).filter fun c => !Console.isAction c) = displayed n.name := by
    intro hname
    refine List.filter_eq_self.2 fun c hc => ?_
    rcases mem_of_mem_displayed hc with hmem | rfl
    · rw [hname c hmem, Bool.not_false]
    · decide
  rw [ShownBy, plain_row, Except.ok.injEq, List.append_right_inj, ← and_assoc, ← displayed_eq_iff]
  constructor
  · intro hshown
    have hname : ∀ c ∈ n.name, Console.isAction c = false := by
      intro c hc
      rw [← hshown] at hc
      simpa using List.of_mem_filter hc
    rw [hkept hname] at hshown
    exact ⟨hshown, hname⟩
  · rintro ⟨hshown, hname⟩
    rw [hkept hname, hshown]

end Naming

namespace Query

/-- What the rows of the decks, tags and states of a query show.  A name is shown as it is except if
it has a backslash in front of a bracket that begins no tag, ends in a backslash of its own, or has
a character that acts on a terminal. -/
theorem plain_nameRows (q : Query) :
    List.Forall₂ (fun row n => row.bucket = n.bucket ∧
        Console.plain row.markup =
          .ok (n.lead ++ (displayed n.name).filter fun c => !Console.isAction c) ∧
        (n.ShownBy row ↔ ¬Hidden n.name ∧ endsInLoneSlash n.name = false ∧
          ∀ c ∈ n.name, Console.isAction c = false))
      q.nameRows q.names := by
  rw [nameRows_eq, List.forall₂_map_left_iff, List.forall₂_same]
  intro n _
  exact ⟨rfl, n.plain_row, n.shownBy_row_iff⟩

/-- A query that asks for one deck. -/
def ofDeck (name : Text) : Query := { decksInclude := [name] }

theorem nameRows_ofDeck (name : Text) :
    (ofDeck name).nameRows = [Naming.row ⟨"deck".toList, false, name⟩] := nameRows_eq (ofDeck name)

/-- Not every name is shown as it is, and different decks can have rows that show the same: one has
a backslash that is left out, or a character that acts on a terminal. -/
theorem not_forall_names_shown :
    (¬∀ q : Query, List.Forall₂ (fun row n => n.ShownBy row) q.nameRows q.names) ∧
    ∀ decks ∈ [("\\[1]".toList, "[1]".toList), ("a\x07b".toList, "ab".toList)],
      decks.1 ≠ decks.2 ∧
        (ofDeck decks.1).nameRows.map (fun row => Console.plain row.markup) =
          (ofDeck decks.2).nameRows.map fun row => Console.plain row.markup := by
  constructor
  · intro hall
    have hshown := hall (ofDeck "\\[1]".toList)
    rw [nameRows_ofDeck] at hshown
    obtain ⟨hfirst, -⟩ := List.forall₂_cons.1 hshown
    have hhidden : Hidden "\\[1]".toList := ⟨[], "[1]".toList, rfl, by decide⟩
    exact ((Naming.shownBy_row_iff _).1 hfirst).1 hhidden
  · intro decks hdecks
    simp only [nameRows_ofDeck, List.map_singleton, Naming.plain_row]
    simp only [List.mem_cons, List.not_mem_nil, or_false] at hdecks
    rcases hdecks with rfl | rfl
    · exact ⟨by decide, rfl⟩
    · exact ⟨by decide, rfl⟩

end Query

end CardQuery
