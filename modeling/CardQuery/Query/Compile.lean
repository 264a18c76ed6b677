import CardQuery.Clause.Meaning
import CardQuery.Query

/-!
# Compiling a query

A query is compiled clause by clause; the first clause that is refused refuses the whole query.
The compilation keeps a log of what it did.

Main results:

- `run_eq_ok_iff` says that running clauses adds the constraints of all of them in order.
- `compile_tooLong` says that the limit on the length is looked at before anything else.
-/

namespace CardQuery

/-- What a compilation notes down. -/
inductive LogEntry
  /-- The query was cut into so many clauses. -/
  | tokenized (count : Nat) (query : Text)
  /-- The clause is looked at. -/
  | classifying (clause : Clause)
deriving DecidableEq, Repr

namespace LogEntry

/-- The wording of a truth value. -/
def truth (b : Bool) : Text := if b then "True".toList else "False".toList

/-- The wording of a log entry. -/
def message : LogEntry → Text
  | tokenized count query =>
    "Tokenized ".toList ++ Text.ofNat count ++ " clause(s) from ".toList ++ query.literal
  | classifying c =>
    "Classifying clause ".toList ++ c.text.literal ++ " (negated=".toList ++ truth c.negated ++
      [')']

end LogEntry

/-- How queries are compiled. -/
structure Dialect where
  /-- Whether unknown states and properties are refused. -/
  strict : Bool := false
  /-- The greatest length of a query, if there is a limit. -/
  maxLength : Option Int := none
deriving DecidableEq, Repr

namespace Query

/-- A query with the constraint of one more clause of the query `source`. -/
def addClause (strict : Bool) (source : Text) (q : Query) (c : Clause) : Except QueryError Query :=
  (c.constraint strict source).map q.addOption

/-- A query with the constraints of clauses of the query `source`, and the log of the clauses
that were looked at. -/
def run (strict : Bool) (source : Text) (q : Query) :
    List Clause → List LogEntry × Except QueryError Query
  | [] => ([], .ok q)
  | c :: rest =>
    match q.addClause strict source c with
    | .error e => ([.classifying c], .error e)
    | .ok q' =>
      let done := run strict source q' rest
      (.classifying c :: done.1, done.2)

/-- The compiled query and the log of its compilation. -/
def compileLogged (dialect : Dialect) (query : Text) : List LogEntry × Except QueryError Query :=
  let stripped := query.strip
  match dialect.maxLength.filter fun limit => limit < (query.length : Int) with
  | some limit => ([], .error ⟨query, .tooLong query.length limit⟩)
  | none =>
    match Clause.split stripped with
    | .error e => ([], .error e)
    | .ok clauses =>
      let done := run dialect.strict stripped {} clauses
      if stripped.isEmpty then done
      else (.tokenized clauses.length stripped :: done.1, done.2)

/-- The constraints that a query places, or why it is refused. -/
def compile (dialect : Dialect) (query : Text) : Except QueryError Query :=
  (compileLogged dialect query).2

/-- Without clauses nothing is added. -/
@[simp] theorem run_nil (strict : Bool) (source : Text) (q : Query) :
    run strict source q [] = ([], .ok q) := rfl

/-- Running clauses succeeds exactly when each places its constraint, and adds them in order. -/
theorem run_eq_ok_iff {strict : Bool} {source : Text} {q r : Query} {clauses : List Clause} :
    (run strict source q clauses).2 = .ok r ↔
      ∃ found : List (Option Constraint),
        clauses.map (Clause.meaning strict) = found.map .ok ∧ r = found.foldl addOption q := by
  induction clauses generalizing q with
  | nil => simp [eq_comm]
  | cons c rest ih =>
    unfold run addClause
    cases h : c.constraint strict source with
    | error e =>
      simp only [Except.map, reduceCtorEq, List.map_cons, false_iff, not_exists, not_and]
      intro found hfound
      rw [(Clause.constraint_eq_error_iff.1 h).2] at hfound
      cases found <;> simp at hfound
    | ok first =>
      have hmeaning := Clause.constraint_eq_ok_iff.1 h
      simp only [Except.map, ih, List.map_cons, hmeaning]
      constructor
      · rintro ⟨found, hfound, rfl⟩
        exact ⟨first :: found, by simp [hfound], rfl⟩
      · rintro ⟨found, hfound, rfl⟩
        cases found with
        | nil => simp at hfound
        | cons f found =>
          simp only [List.map_cons, List.cons.injEq, Except.ok.injEq] at hfound
          obtain ⟨rfl, hfound⟩ := hfound
          exact ⟨found, hfound, rfl⟩

/-- A query longer than the limit is refused before anything else is looked at. -/
theorem compile_tooLong {strict : Bool} {limit : Int} {query : Text}
    (h : limit < (query.length : Int)) :
    compile ⟨strict, some limit⟩ query = .error ⟨query, .tooLong query.length limit⟩ := by
  simp [compile, compileLogged, Option.filter, h]

end Query

end CardQuery
