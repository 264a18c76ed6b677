import CardQuery.Proofs.Query.Bucket
import CardQuery.Proofs.Query.Merge
import CardQuery.Query.Compile

/-!
# Clauses added in place

Clauses can be added to a query one call at a time, the query being changed in place.  A call may
be refused after a part of its work has been done, and the query then is what it has become by
that time.  This module writes the calls down as computations on the query that is changed, and
says what is left of it after any sequence of calls.

Main results:

- `classify_run` says that adding a clause in place is `Query.addClause`, and that a refusal leaves
  the query as it was.
- `perform_eq` says that neither the verdict on a call nor its contribution depend on the query.
- `performAll_spec` says what single calls and sequences of calls do to a query.
-/

namespace CardQuery

/-! ## Computations on a query -/

/-- A computation that changes a query in place and may be refused; a refusal keeps what the query
has become by then. -/
abbrev Accumulator := EStateM QueryError Query

namespace Accumulator

/-- Put one more constraint into the query. -/
def record (constraint : Constraint) : Accumulator Unit := modify fun q => q.add constraint

/-- Refuse a clause of the query `source`. -/
def refuse {α : Type} (source : Text) (fault : QueryFault) : Accumulator α := throw ⟨source, fault⟩

/-- Put a constraint about a named thing into the query, unless the name is empty. -/
def recordNamed (constraint : Text → Constraint) (text : Text) : Accumulator Unit := do
  let name := text.unquote.text
  unless name.isEmpty do
    record (constraint name)

/-- Put a search for a text into the query, unless there is no text to search for. -/
def recordText (negated : Bool) (field text : Text) : Accumulator Unit :=
  match TextSearch.read? negated field text with
  | some search => record (.text search)
  | none => pure ()

/-- Put a search in a field into the query, or the value of the field. -/
def recordField (negated : Bool) (field text : Text) : Accumulator Unit :=
  if Modifiers.marks text then recordText negated field text
  else record (.field field text.unquote.text)

/-- Add a clause of the query `source` in place. -/
def classify (strict : Bool) (source : Text) (c : Clause) : Accumulator Unit :=
  match Topic.read? c.text with
  | some (.deck, rest) => recordNamed (.deck c.negated) rest
  | some (.tag, rest) => recordNamed (.tag c.negated) rest
  | some (.state, rest) => do
    let state := rest.unquote.text
    if strict && !isKnownState state then
      refuse source (.unknownState state)
    record (.state c.negated state)
  | some (.flag, rest) => do
    match readFlag rest with
    | .error fault => refuse source fault
    | .ok number => record (.flag c.negated number)
  | some (.property, rest) =>
    match PropertyFilter.read strict rest with
    | .error fault => refuse source (.invalidProperty rest fault)
    | .ok filter => record (.property (if c.negated then filter.complement else filter))
  | some (.front, rest) => recordField c.negated "front".toList rest
  | some (.back, rest) => recordField c.negated "back".toList rest
  | some (.field, rest) =>
    match splitField? rest with
    | none => refuse source (.emptyFieldName c.text)
    | some (name, value) => do
      if name.isEmpty then
        refuse source (.emptyFieldName c.text)
      recordField c.negated name value
  | none => recordText c.negated [] c.text

/-! ## What a computation leaves -/

section

variable (q : Query) (negated : Bool) (field text : Text)

theorem recordNamed_run (constraint : Text → Constraint) :
    (recordNamed constraint text).run q = .ok () (q.addOption (Clause.named constraint text)) := by
  unfold recordNamed Clause.named
  by_cases h : text.unquote.text.isEmpty
  · simp only [h, if_true]
    rfl
  · simp only [h]
    rfl

theorem recordText_run :
    (recordText negated field text).run q =
      .ok () (q.addOption ((TextSearch.read? negated field text).map .text)) := by
  unfold recordText
  cases TextSearch.read? negated field text <;> rfl

theorem recordField_run :
    (recordField negated field text).run q =
      .ok () (q.addOption (fieldConstraint negated field text)) := by
  unfold recordField fieldConstraint
  split
  next => exact recordText_run q negated field text
  next => rfl

end

/-- Adding a clause in place is adding its constraint, and a refusal leaves the query as it was. -/
theorem classify_run (strict : Bool) (source : Text) (c : Clause) (q : Query) :
    (classify strict source c).run q =
      match q.addClause strict source c with
      | .ok r => .ok () r
      | .error e => .error e q := by
  unfold classify Query.addClause Clause.constraint Clause.meaning
  cases htopic : Topic.read? c.text with
  | none => exact recordText_run q c.negated [] c.text
  | some found =>
    rcases found with ⟨topic, rest⟩
    cases topic with
    | deck => exact recordNamed_run q rest (.deck c.negated)
    | tag => exact recordNamed_run q rest (.tag c.negated)
    | state =>
      by_cases hknown : (strict && !isKnownState rest.unquote.text) = true
      · simp only [hknown, if_true]
        rfl
      · simp only [hknown]
        rfl
    | flag =>
      cases hflag : readFlag rest <;> simp only [hflag] <;> rfl
    | property =>
      cases hread : PropertyFilter.read strict rest <;> simp only [hread] <;> rfl
    | front => exact recordField_run q c.negated _ rest
    | back => exact recordField_run q c.negated _ rest
    | field =>
      cases hsplit : splitField? rest with
      | none =>
        simp only [hsplit]
        rfl
      | some parts =>
        rcases parts with ⟨name, value⟩
        by_cases hname : name.isEmpty = true
        · simp only [hsplit, hname, if_true]
          rfl
        · simp only [hsplit, hname]
          exact recordField_run q c.negated name value

end Accumulator

/-! ## Calls -/

/-- A request to add a clause to a query. -/
structure Call where
  /-- Whether unknown states and properties are refused. -/
  strict : Bool
  /-- The query that a refusal names, if it is not the text of the clause. -/
  source : Option Text
  /-- The clause to add. -/
  clause : Clause

namespace Call

/-- The query that a refusal of the call names. -/
def query (call : Call) : Text := call.source.getD call.clause.text

/-- What a call makes of a query, and whether it is refused. -/
def perform (call : Call) (q : Query) : Query × Except QueryError Unit :=
  match (Accumulator.classify call.strict call.query call.clause).run q with
  | .ok _ r => (r, .ok ())
  | .error e r => (r, .error e)

/-- Whether a call is refused on the query without constraints. -/
def verdict (call : Call) : Except QueryError Unit := (call.perform {}).2

/-- What a call makes of the query without constraints. -/
def contribution (call : Call) : Query := (call.perform {}).1

/-- A call adds its clause to the query, or leaves the query as it was. -/
theorem perform_eq_addClause (call : Call) (q : Query) :
    call.perform q =
      match q.addClause call.strict call.query call.clause with
      | .ok r => (r, .ok ())
      | .error e => (q, .error e) := by
  rw [perform, Accumulator.classify_run]
  cases q.addClause call.strict call.query call.clause <;> rfl

/-- What a call makes of any query is decided by its clause. -/
theorem perform_eq (call : Call) (q : Query) :
    call.perform q =
      match call.clause.constraint call.strict call.query with
      | .ok found => (q.addOption found, .ok ())
      | .error e => (q, .error e) := by
  rw [perform_eq_addClause, Query.addClause]
  cases call.clause.constraint call.strict call.query <;> rfl

/-- A refused call leaves the query as it was. -/
theorem perform_of_error {call : Call} {q : Query} {e : QueryError}
    (h : (call.perform q).2 = .error e) : (call.perform q).1 = q := by
  rw [perform_eq] at h ⊢
  cases hfound : call.clause.constraint call.strict call.query with
  | error e => rfl
  | ok found =>
    rw [hfound] at h
    cases h

/-- A call that is not refused adds one entry or sets the value of one field, if it changes the
query at all. -/
theorem oneMore_perform {call : Call} {q : Query} (h : (call.perform q).2 = .ok ()) :
    (call.perform q).1 = q ∨ q.OneMore (call.perform q).1 := by
  rw [perform_eq] at h ⊢
  cases hfound : call.clause.constraint call.strict call.query with
  | error e =>
    rw [hfound] at h
    cases h
  | ok found =>
    cases found with
    | none => exact Or.inl rfl
    | some constraint => exact Or.inr (q.oneMore_add constraint)

/-- Neither the verdict on a call nor its contribution depend on the query. -/
theorem perform_eq_merge (call : Call) (q : Query) :
    call.perform q = (q.merge call.contribution, call.verdict) := by
  simp only [contribution, verdict, perform_eq]
  cases call.clause.constraint call.strict call.query with
  | error e => simp
  | ok found => simp only [Query.addOption_eq_merge q found]

end Call

/-! ## Sequences of calls -/

/-- What calls make of a query one after the other, and which of them are refused. -/
def performAll : List Call → Query → Query × List (Except QueryError Unit)
  | [], q => (q, [])
  | call :: rest, q =>
    let done := call.perform q
    let later := performAll rest done.1
    (later.1, done.2 :: later.2)

/-- A refused call contributes nothing. -/
theorem contribution_of_error {call : Call} (h : call.verdict.isOk = false) :
    call.contribution = {} := by
  cases hverdict : call.verdict with
  | error e => exact Call.perform_of_error hverdict
  | ok u =>
    rw [hverdict] at h
    cases h

/-- What is left of a query after calls is the query merged with the contributions of those that
were not refused, in order. -/
theorem performAll_eq (calls : List Call) (q : Query) :
    performAll calls q =
      (((calls.filter fun call => call.verdict.isOk).map Call.contribution).foldl Query.merge q,
        calls.map Call.verdict) := by
  induction calls generalizing q with
  | nil => rfl
  | cons call rest ih =>
    rw [performAll, ih, Call.perform_eq_merge]
    cases hok : call.verdict.isOk with
    | true => simp [hok]
    | false => simp [hok, contribution_of_error hok]

/-- Single calls and sequences of calls.  A call in place does what adding its clause does.  A
refused call leaves the query as it was.  Another call leaves all entries where they are and adds
one, or sets the value of one field, or changes nothing.
The verdict on a call and its contribution are the same for every query.  So what is left after
any calls is the query merged with the contributions of those that were not refused, in order. -/
theorem performAll_spec :
    (∀ (call : Call) (q : Query),
        (call.perform q =
            match q.addClause call.strict call.query call.clause with
            | .ok r => (r, .ok ())
            | .error e => (q, .error e)) ∧
          (∀ e, (call.perform q).2 = .error e → (call.perform q).1 = q) ∧
          ((call.perform q).2 = .ok () →
            (call.perform q).1 = q ∨ q.OneMore (call.perform q).1) ∧
          (call.perform q).2 = call.verdict ∧
          (call.perform q).1 = q.merge call.contribution) ∧
      ∀ (calls : List Call) (q : Query),
        performAll calls q =
          (((calls.filter fun call => call.verdict.isOk).map Call.contribution).foldl
              Query.merge q,
            calls.map Call.verdict) := by
  refine ⟨?_, performAll_eq⟩
  intro call q
  refine ⟨call.perform_eq_addClause q, fun e => Call.perform_of_error, Call.oneMore_perform, ?_,
    ?_⟩
  · rw [Call.perform_eq_merge]
  · rw [Call.perform_eq_merge]

end CardQuery
