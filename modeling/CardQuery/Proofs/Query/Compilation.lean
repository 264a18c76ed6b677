import CardQuery.Query.Compile
import CardQuery.Proofs.Text.Strip

/-!
# Compiled queries

What the compilation of a query comes to: its clauses have to be found, each of them has to place
its constraint, and the constraints are added in order.

Main results:

- `run_append` says that clauses that are accepted are noted down and add what they place.
- `run_of_refused` says that nothing behind a clause that is refused is looked at.
- `compile_eq_ok_iff` says exactly when a query is compiled, and to what.
- `compile_eq_error_iff` says exactly when a query is refused, and why.
- `compile_of_split` says what a query of a single clause is compiled to.
-/

namespace CardQuery

/-- Blanks around a query make no difference to its clauses. -/
@[simp] theorem Clause.split_strip (query : Text) :
    Clause.split query.strip = Clause.split query := by
  simp [split, scanAll]

namespace Clause

/-! ## Single clauses -/

/-- Whether a clause is accepted. -/
def Accepted (strict : Bool) (c : Clause) : Prop := ∃ found, c.meaning strict = .ok found

instance (strict : Bool) : DecidablePred (Accepted strict) := fun c =>
  decidable_of_iff ((c.meaning strict).isOk = true) (by
    unfold Accepted
    cases c.meaning strict <;> simp [Except.isOk, Except.toBool])

/-- The constraint that a clause places; none if it places none or is refused. -/
def placed? (strict : Bool) (c : Clause) : Option Constraint :=
  match c.meaning strict with
  | .ok found => found
  | .error _ => none

/-- Clauses are all accepted, or one of them is the first that is refused. -/
theorem accepted_or_refused (strict : Bool) (clauses : List Clause) :
    (∀ c ∈ clauses, c.Accepted strict) ∨
      ∃ before c after fault, clauses = before ++ c :: after ∧
        (∀ d ∈ before, d.Accepted strict) ∧ c.meaning strict = .error fault := by
  induction clauses with
  | nil => exact Or.inl nofun
  | cons c rest ih =>
    cases hfirst : c.meaning strict with
    | error fault => exact Or.inr ⟨[], c, rest, fault, rfl, nofun, hfirst⟩
    | ok found =>
      have hc : c.Accepted strict := ⟨found, hfirst⟩
      rcases ih with hrest | ⟨before, d, after, fault, rfl, hbefore, hd⟩
      · exact Or.inl (List.forall_mem_cons.2 ⟨hc, hrest⟩)
      · exact Or.inr ⟨c :: before, d, after, fault, rfl, List.forall_mem_cons.2 ⟨hc, hbefore⟩, hd⟩

end Clause

namespace Query

/-- A clause that is accepted adds what it places to any query. -/
theorem addClause_eq_ok_iff {strict : Bool} {source : Text} {q r : Query} {c : Clause} :
    q.addClause strict source c = .ok r ↔
      c.Accepted strict ∧ r = q.addOption (c.placed? strict) := by
  unfold addClause Clause.constraint Clause.Accepted Clause.placed?
  cases c.meaning strict <;> simp [Except.map, eq_comm]

/-- A clause is refused by any query for the same reason. -/
theorem addClause_eq_error_iff {strict : Bool} {source : Text} {q : Query} {c : Clause}
    {e : QueryError} :
    q.addClause strict source c = .error e ↔ c.constraint strict source = .error e := by
  unfold addClause
  cases c.constraint strict source <;> simp [Except.map]

/-! ## Runs of clauses -/

/-- Clauses that are accepted are noted down one by one and add what they place; the run then goes
on with what follows. -/
theorem run_append {strict : Bool} {source : Text} {before : List Clause}
    (h : ∀ c ∈ before, c.Accepted strict) (q : Query) (rest : List Clause) :
    run strict source q (before ++ rest) =
      let done := run strict source ((before.filterMap (Clause.placed? strict)).foldl add q) rest
      (before.map .classifying ++ done.1, done.2) := by
  induction before generalizing q with
  | nil => rfl
  | cons c before ih =>
    have hfirst : q.addClause strict source c = .ok (q.addOption (c.placed? strict)) :=
      addClause_eq_ok_iff.2 ⟨h c List.mem_cons_self, rfl⟩
    have hplaced : ((c :: before).filterMap (Clause.placed? strict)).foldl add q =
        (before.filterMap (Clause.placed? strict)).foldl add (q.addOption (c.placed? strict)) := by
      rw [List.filterMap_cons]
      cases c.placed? strict <;> rfl
    rw [List.cons_append, run, hfirst, hplaced]
    simp only [ih fun d hd => h d (List.mem_cons_of_mem _ hd), List.map_cons, List.cons_append]

/-- Clauses that are all accepted are all noted down. -/
theorem run_of_accepted {strict : Bool} {source : Text} {clauses : List Clause}
    (h : ∀ c ∈ clauses, c.Accepted strict) (q : Query) :
    run strict source q clauses = (clauses.map .classifying,
      .ok ((clauses.filterMap (Clause.placed? strict)).foldl add q)) := by
  rw [← List.append_nil clauses, run_append (by simpa using h)]
  simp

/-- The first clause that is refused is the last one that is looked at. -/
theorem run_of_refused {strict : Bool} {source : Text} {before : List Clause} {c : Clause}
    {e : QueryError} (hbefore : ∀ d ∈ before, d.Accepted strict)
    (hc : c.constraint strict source = .error e) (q : Query) (after : List Clause) :
    run strict source q (before ++ c :: after) =
      ((before ++ [c]).map .classifying, .error e) := by
  rw [run_append hbefore, run, addClause_eq_error_iff.2 hc]
  simp

/-- Running clauses is refused exactly by the first clause that is refused. -/
theorem run_eq_error_iff {strict : Bool} {source : Text} {q : Query} {clauses : List Clause}
    {e : QueryError} :
    (run strict source q clauses).2 = .error e ↔
      ∃ before c after, clauses = before ++ c :: after ∧
        (∀ d ∈ before, d.Accepted strict) ∧ c.constraint strict source = .error e := by
  constructor
  · intro h
    rcases Clause.accepted_or_refused strict clauses with
      hall | ⟨before, c, after, fault, rfl, hbefore, hc⟩
    · rw [run_of_accepted hall] at h
      cases h
    · have hrefused : c.constraint strict source = .error ⟨source, fault⟩ :=
        Clause.constraint_eq_error_iff.2 ⟨rfl, hc⟩
      rw [run_of_refused hbefore hrefused] at h
      obtain rfl : ⟨source, fault⟩ = e := Except.error.inj h
      exact ⟨before, c, after, rfl, hbefore, hrefused⟩
  · rintro ⟨before, c, after, rfl, hbefore, hc⟩
    rw [run_of_refused hbefore hc]

/-! ## Compiled queries -/

/-- A query is compiled exactly if it is not longer than allowed, its clauses are found and each
clause places its constraint; then the constraints are added in order. -/
theorem compile_eq_ok_iff {dialect : Dialect} {query : Text} {q : Query} :
    compile dialect query = .ok q ↔
      (∀ limit ∈ dialect.maxLength, (query.length : Int) ≤ limit) ∧
        ∃ (clauses : List Clause) (found : List (Option Constraint)),
          Clause.split query = .ok clauses ∧
          clauses.map (Clause.meaning dialect.strict) = found.map .ok ∧
          q = found.foldl addOption {} := by
  have hlimit : dialect.maxLength.filter (fun limit => limit < (query.length : Int)) = none ↔
      ∀ limit ∈ dialect.maxLength, (query.length : Int) ≤ limit := by
    simp [Option.filter_eq_none_iff]
  rw [← hlimit, compile, compileLogged]
  cases hlong : dialect.maxLength.filter fun limit => limit < (query.length : Int) with
  | some limit => simp
  | none =>
    simp only [Clause.split_strip, true_and]
    cases hsplit : Clause.split query with
    | error e => simp
    | ok clauses =>
      simp only [apply_ite Prod.snd, ite_self, run_eq_ok_iff]
      constructor
      · rintro ⟨found, hfound, rfl⟩
        exact ⟨clauses, found, rfl, hfound, rfl⟩
      · rintro ⟨_, found, hclauses, hfound, rfl⟩
        cases hclauses
        exact ⟨found, hfound, rfl⟩

/-- A query is refused if it is longer than allowed, or else if its clauses are not found, or else
by its first clause that is refused. -/
theorem compile_eq_error_iff {dialect : Dialect} {query : Text} {e : QueryError} :
    compile dialect query = .error e ↔
      (∃ limit ∈ dialect.maxLength, limit < (query.length : Int) ∧
          e = ⟨query, .tooLong query.length limit⟩) ∨
        (∀ limit ∈ dialect.maxLength, (query.length : Int) ≤ limit) ∧
          (Clause.split query = .error e ∨
            ∃ before c after, Clause.split query = .ok (before ++ c :: after) ∧
              (∀ d ∈ before, d.Accepted dialect.strict) ∧
              c.constraint dialect.strict query.strip = .error e) := by
  rw [compile, compileLogged]
  cases hlong : dialect.maxLength.filter fun limit => limit < (query.length : Int) with
  | some limit =>
    rw [Option.filter_eq_some_iff] at hlong
    rcases hlong with ⟨hlimit, hlt⟩
    have hlt : limit < (query.length : Int) := by simpa using hlt
    have hlong : ¬(query.length : Int) ≤ limit := by omega
    simp only [hlimit, Option.mem_some_iff, Except.error.injEq, exists_eq_left', forall_eq',
      hlt, true_and, hlong, false_and, or_false]
    exact eq_comm
  | none =>
    have hshort : ∀ limit ∈ dialect.maxLength, (query.length : Int) ≤ limit := by
      simpa [Option.filter_eq_none_iff] using hlong
    have hnot : ¬∃ limit ∈ dialect.maxLength, limit < (query.length : Int) ∧
        e = ⟨query, .tooLong query.length limit⟩ := by
      rintro ⟨limit, hlimit, hlt, _⟩
      have hle := hshort limit hlimit
      omega
    simp only [Clause.split_strip, hnot, false_or, and_iff_right hshort]
    cases hsplit : Clause.split query with
    | error fault => simp
    | ok clauses =>
      simp only [apply_ite Prod.snd, ite_self, run_eq_error_iff, reduceCtorEq, false_or,
        Except.ok.injEq]

/-- A query of a single clause is compiled to the constraint of that clause. -/
theorem compile_of_split {strict : Bool} {query : Text} {c : Clause} {found : Option Constraint}
    (hsplit : Clause.split query = .ok [c]) (hmeaning : c.meaning strict = .ok found) :
    compile ⟨strict, none⟩ query = .ok (addOption {} found) := by
  rw [compile_eq_ok_iff]
  exact ⟨nofun, [c], [found], hsplit, by simp [hmeaning], rfl⟩

end Query

end CardQuery
