import CardQuery.Proofs.Clause.FieldName
import CardQuery.Proofs.Clause.Means
import CardQuery.Proofs.Clause.Writing
import CardQuery.Proofs.Query.Accumulation

/-!
# Scopes of fields

A clause about any field names its field up to the first colon outside of quoted regions, and says
behind that colon what a clause about the front says behind its keyword.  It is refused if there is
no such colon or nothing is named in front of it.

Main results:

- `constraint_field_eq_error_iff` says which clauses about a field are refused.
- `constraint_field_of_cut` says that a clause with a name asks of its field what a clause about the
  front asks of the front.
- `perform_named` says that the front and the back can be named like any other field.
- `constraint_fieldScope` puts this together for the clauses of a query.
-/

namespace CardQuery

/-! ## Another field in place of a field -/

/-- The constraint with another field in place of the one that it is about, if it is about one. -/
def Constraint.inField (name : Text) : Constraint → Constraint
  | text search => text { search with field := name }
  | field _ value => field name value
  | other => other

/-- The field of a search decides nothing else about it. -/
theorem TextSearch.map_field_read? (negated : Bool) (field name text : Text) :
    (read? negated field text).map (fun s => { s with field := name }) =
      read? negated name text := by
  unfold read?
  dsimp only
  split
  next => split <;> rfl
  next => split <;> rfl

theorem map_inField_fieldConstraint (negated : Bool) (field name text : Text) :
    (fieldConstraint negated field text).map (Constraint.inField name) =
      fieldConstraint negated name text := by
  unfold fieldConstraint
  split
  next =>
    rw [← TextSearch.map_field_read? negated field name, Option.map_map, Option.map_map]
    rfl
  next => rfl

namespace Clause

variable {strict : Bool} {source : Text} {negated : Bool}

/-! ## Clauses about the front, the back and any other field -/

/-- A clause about the front is never refused. -/
theorem constraint_front (rest : Text) :
    constraint strict source ⟨negated, Topic.front.keyword ++ rest⟩ =
      .ok (fieldConstraint negated "front".toList rest) :=
  constraint_eq_ok_iff.2 (meaning_of_means (.front (Topic.read?_keyword .front rest)))

/-- A clause about the back is never refused. -/
theorem constraint_back (rest : Text) :
    constraint strict source ⟨negated, Topic.back.keyword ++ rest⟩ =
      .ok (fieldConstraint negated "back".toList rest) :=
  constraint_eq_ok_iff.2 (meaning_of_means (.back (Topic.read?_keyword .back rest)))

/-- A clause that names a field is never refused. -/
theorem constraint_field_of_splitField? {body name value : Text}
    (hsplit : splitField? body = some (name, value)) (hname : name ≠ []) :
    constraint strict source ⟨negated, Topic.field.keyword ++ body⟩ =
      .ok (fieldConstraint negated name value) :=
  constraint_eq_ok_iff.2
    (meaning_of_means (.field (Topic.read?_keyword .field body) hsplit hname))

/-- A clause about a field is refused only for a missing name: because there is no colon, or nothing
in front of it. -/
theorem constraint_field_eq_error_iff_splitField? {body : Text} {e : QueryError} :
    constraint strict source ⟨negated, Topic.field.keyword ++ body⟩ = .error e ↔
      (splitField? body = none ∨ ∃ value, splitField? body = some ([], value)) ∧
        e = ⟨source, .emptyFieldName (Topic.field.keyword ++ body)⟩ := by
  rcases e with ⟨query, fault⟩
  rw [constraint_eq_error_iff, meaning_eq_error_iff, QueryError.mk.injEq]
  have htopic := Topic.read?_keyword .field body
  constructor
  · rintro ⟨rfl, hrefused⟩
    cases hrefused with
    | state h | flag h | property h => cases htopic.symm.trans h
    | unsplit h hsplit =>
      cases htopic.symm.trans h
      exact ⟨Or.inl hsplit, rfl, rfl⟩
    | unnamed h hsplit =>
      cases htopic.symm.trans h
      exact ⟨Or.inr ⟨_, hsplit⟩, rfl, rfl⟩
  · rintro ⟨hsplit | ⟨value, hsplit⟩, rfl, rfl⟩
    · exact ⟨rfl, .unsplit htopic hsplit⟩
    · exact ⟨rfl, .unnamed htopic hsplit⟩

/-! ## Clauses made of pieces -/

section

variable {ps : List Piece} (h : ∀ p ∈ ps, p.Proper)
include h

/-- Pieces without a colon outside of regions are not split. -/
theorem splitField?_eq_none_iff : splitField? (Piece.writtenAll ps) = none ↔ .char ':' ∉ ps := by
  constructor
  · intro hnone hcolon
    rcases exists_colonCut hcolon with ⟨name, value, hcut⟩
    cases hnone.symm.trans ((splitField?_eq_some_iff h).2 ⟨name, value, hcut, rfl, rfl⟩)
  · intro hcolon
    cases hsplit : splitField? (Piece.writtenAll ps) with
    | none => rfl
    | some found =>
      obtain ⟨name, value, hcut, -⟩ := (splitField?_eq_some_iff h).1 hsplit
      rw [hcut.eq_append] at hcolon
      exact absurd (List.mem_append_right _ List.mem_cons_self) hcolon

/-- A clause about a field is refused exactly if there is no colon outside of regions, or if the
value of what stands in front of the first one is empty. -/
theorem constraint_field_eq_error_iff {e : QueryError} :
    constraint strict source ⟨negated, Topic.field.keyword ++ Piece.writtenAll ps⟩ = .error e ↔
      (.char ':' ∉ ps ∨
        ∃ name value, ColonCut ps name value ∧ (Piece.writtenAll name).unquote.text = []) ∧
      e = ⟨source, .emptyFieldName (Topic.field.keyword ++ Piece.writtenAll ps)⟩ := by
  rw [constraint_field_eq_error_iff_splitField?, splitField?_eq_none_iff h]
  have hunnamed : (∃ value, splitField? (Piece.writtenAll ps) = some ([], value)) ↔
      ∃ name value, ColonCut ps name value ∧ (Piece.writtenAll name).unquote.text = [] := by
    constructor
    · rintro ⟨value, hsplit⟩
      obtain ⟨name, rest, hcut, hname, -⟩ := (splitField?_eq_some_iff h).1 hsplit
      exact ⟨name, rest, hcut, hname.symm⟩
    · rintro ⟨name, rest, hcut, hname⟩
      exact ⟨_, (splitField?_eq_some_iff h).2 ⟨name, rest, hcut, hname.symm, rfl⟩⟩
  rw [hunnamed]

/-- A clause with the name of a field asks of this field what a clause about the front with the same
rest asks of the front. -/
theorem constraint_field_of_cut {name value : List Piece} (hcut : ColonCut ps name value)
    (hname : (Piece.writtenAll name).unquote.text ≠ []) :
    constraint strict source ⟨negated, Topic.field.keyword ++ Piece.writtenAll ps⟩ =
      (constraint strict source ⟨negated, Topic.front.keyword ++ Piece.writtenAll value⟩).map
        (Option.map (Constraint.inField (Piece.writtenAll name).unquote.text)) := by
  have hsplit := (splitField?_eq_some_iff h).2 ⟨name, value, hcut, rfl, rfl⟩
  rw [constraint_field_of_splitField? hsplit hname, constraint_front, Except.map,
    map_inField_fieldConstraint]

end

/-! ## The front and the back by name -/

/-- A name of plain characters is split off in front of its colon, whatever follows. -/
theorem splitField?_plain {name : Text} (hplain : name.Plain) (hcolon : ':' ∉ name)
    (rest : Text) : splitField? (name ++ ':' :: rest) = some (name, rest) := by
  have hproper : ∀ p ∈ name.map Piece.char, p.Proper := by
    intro p hp
    rcases List.mem_map.1 hp with ⟨c, hc, rfl⟩
    exact (hplain c hc).1
  have hother : ∀ p ∈ name.map Piece.char, p ≠ .char ':' := by
    intro p hp heq
    rcases List.mem_map.1 hp with ⟨c, hc, rfl⟩
    exact hcolon (Piece.char.inj heq ▸ hc)
  have hvalue : (name.map Piece.char).flatMap Piece.content = name := by
    simp [List.flatMap_map, Piece.content]
  have hsplit := splitField?_writtenAll hproper hother rest
  rwa [Text.unquote_text_writtenAll hproper, hvalue, Piece.writtenAll_map_char] at hsplit

/-- The front and the back can be named like any other field, whatever follows. -/
theorem exists_constraint_named {topic : Topic} (htopic : topic ∈ [Topic.front, Topic.back])
    (strict negated : Bool) (rest : Text) :
    ∃ found, ∀ source,
      constraint strict source ⟨negated, Topic.field.keyword ++ (topic.keyword ++ rest)⟩ =
          .ok found ∧
        constraint strict source ⟨negated, topic.keyword ++ rest⟩ = .ok found := by
  have hfront : splitField? (Topic.front.keyword ++ rest) = some ("front".toList, rest) :=
    @splitField?_plain "front".toList (by decide) (by decide) rest
  have hback : splitField? (Topic.back.keyword ++ rest) = some ("back".toList, rest) :=
    @splitField?_plain "back".toList (by decide) (by decide) rest
  simp only [List.mem_cons, List.not_mem_nil, or_false] at htopic
  rcases htopic with rfl | rfl
  · exact ⟨_, fun _ => ⟨constraint_field_of_splitField? hfront (by decide), constraint_front rest⟩⟩
  · exact ⟨_, fun _ => ⟨constraint_field_of_splitField? hback (by decide), constraint_back rest⟩⟩

end Clause

/-- A call with the front or the back by name does to every query what a call without the name
does. -/
theorem Call.perform_named {topic : Topic} (htopic : topic ∈ [Topic.front, Topic.back])
    (strict : Bool) (source : Option Text) (negated : Bool) (rest : Text) (q : Query) :
    perform ⟨strict, source, ⟨negated, Topic.field.keyword ++ (topic.keyword ++ rest)⟩⟩ q =
      perform ⟨strict, source, ⟨negated, topic.keyword ++ rest⟩⟩ q := by
  obtain ⟨found, hfound⟩ := Clause.exists_constraint_named htopic strict negated rest
  rw [perform_eq, perform_eq, (hfound _).1, (hfound _).2]

/-! ## Clauses of a query -/

/-- The pieces that a text is read as: closed regions, and characters other than quotes. -/
structure Text.ReadAs (t : Text) (ps : List Piece) : Prop where
  proper : ∀ p ∈ ps, p.Proper
  written : t = Piece.writtenAll ps

/-- A clause of a query that begins with the keyword of fields is read as pieces to its end, and in
one way only.  It is refused exactly if there is no colon outside of regions or the value of what
stands in front of the first one is empty, and always for its missing name.  Otherwise it asks of
the field with this value as its name what a clause about the front with the rest behind the colon
asks of the front.  The front and the back can be named so in front of any text. -/
theorem constraint_fieldScope :
    (∀ (query : Text) (clauses : List Clause), Clause.split query = .ok clauses → ∀ c ∈ clauses,
      ∀ body, c.text = Topic.field.keyword ++ body →
        ∃ ps, body.ReadAs ps ∧ (∀ qs, body.ReadAs qs → qs = ps) ∧ ∀ strict source,
          (∀ e, c.constraint strict source = .error e ↔
            (.char ':' ∉ ps ∨
              ∃ name value, ColonCut ps name value ∧ (Piece.writtenAll name).unquote.text = []) ∧
            e = ⟨source, .emptyFieldName c.text⟩) ∧
          ∀ name value, ColonCut ps name value → (Piece.writtenAll name).unquote.text ≠ [] →
            c.constraint strict source =
              (Clause.constraint strict source
                  ⟨c.negated, Topic.front.keyword ++ Piece.writtenAll value⟩).map
                (Option.map (Constraint.inField (Piece.writtenAll name).unquote.text))) ∧
    ∀ topic ∈ [Topic.front, Topic.back], ∀ strict source negated rest q,
      Call.perform ⟨strict, source, ⟨negated, Topic.field.keyword ++ (topic.keyword ++ rest)⟩⟩ q =
        Call.perform ⟨strict, source, ⟨negated, topic.keyword ++ rest⟩⟩ q := by
  refine ⟨?_, fun topic htopic => Call.perform_named htopic⟩
  rintro query clauses hsplit ⟨negated, text⟩ hc body rfl
  have hitems := (Clause.writable_of_mem_split hsplit hc).body.ofItems
  obtain ⟨ps, hps, rfl⟩ := hitems.of_append (by decide)
  have hproper : ∀ p ∈ ps, p.Proper := fun p hp => (hps p hp).proper
  refine ⟨ps, ⟨hproper, rfl⟩, ?_, fun strict source => ⟨fun e => ?_, fun name value hcut => ?_⟩⟩
  · intro qs hqs
    have hread := Piece.pieces_writtenAll hqs.proper
    rw [← hqs.written, Piece.pieces_writtenAll hproper] at hread
    exact (Prod.mk.inj hread).1.symm
  · exact Clause.constraint_field_eq_error_iff hproper
  · exact Clause.constraint_field_of_cut hproper hcut

/-- A colon in quotes belongs to the name of the field, and a modified search follows it. -/
theorem constraint_fieldScope_quoted :
    let c : Clause := ⟨true, "field:\"a:b\":nc:x".toList⟩
    Clause.split c.written = .ok [c] ∧
      c.constraint true [] =
        .ok (some (.text
          { text := ['x']
            field := "a:b".toList
            isNoCombining := true
            isNegated := true })) := by
  intro c
  let name : List Piece := [.region "a:b".toList]
  let value : List Piece := "nc:x".toList.map .char
  have hsplit : Clause.split c.written = .ok [c] := Clause.split_of_writable (by decide +kernel)
  obtain ⟨ps, -, hunique, hmeans⟩ :=
    constraint_fieldScope.1 _ _ hsplit c List.mem_cons_self "\"a:b\":nc:x".toList rfl
  have hpieces : (Piece.pieces "\"a:b\":nc:x".toList).1 = name ++ .char ':' :: value := by
    decide +kernel
  obtain rfl := hunique (name ++ .char ':' :: value)
    ⟨fun p hp => Piece.proper_of_mem_pieces (hpieces ▸ hp), rfl⟩
  refine ⟨hsplit, ((hmeans true []).2 name value ⟨rfl, by decide⟩ (by decide +kernel)).trans ?_⟩
  decide +kernel

end CardQuery
