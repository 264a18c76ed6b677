import CardQuery.Proofs.Query.Compilation
import CardQuery.Proofs.Query.Constraints
import CardQuery.Query.Rows
import Mathlib.Algebra.GroupWithZero.Nat

/-!
# Numbers of constraints

Whether a query places constraints can be told from its buckets, from the query without constraints,
and from its rows.  A query that is compiled has an entry for each of its clauses, except for those
that add nothing and for those that set the value of a field again.

Main results:

- `sameConstraints_empty_iff` and `rows_eq_nil_iff` say which queries place no constraints.
- `size_add` and `size_addOption` count what one constraint and one clause add.
- `size_foldl` counts what clauses add one after the other.
- `size_of_compile` counts the constraints of a compiled query by its clauses, and
  `eq_empty_of_compile_iff` says when there is none.
-/

namespace CardQuery

namespace Query

/-! ## Queries without constraints -/

/-- Only the query without constraints has the same constraints as it. -/
theorem sameConstraints_empty_iff {q : Query} : q.sameConstraints {} = true ↔ q = {} := by
  rcases q with ⟨_, _, _, _, _, ⟨entries, _⟩, _, _, _, _, _⟩
  simp [sameConstraints, FieldTable.sameValues, List.isPerm_iff, and_assoc]

/-- There is a row for each entry of a bucket. -/
theorem length_rows_eq_sum (q : Query) :
    q.rows.length = (Bucket.all.map fun b => (q.entries b).length).sum := by
  rw [length_rows]
  simp only [size, Bucket.all, List.map_cons, List.map_nil, List.sum_cons, List.sum_nil,
    Nat.add_assoc, Nat.add_zero]
  rfl

/-- A query without rows has no entry in any bucket. -/
theorem rows_eq_nil_iff {q : Query} : q.rows = [] ↔ q = {} := by
  constructor
  · intro h
    have hsum := q.length_rows_eq_sum
    rw [h, List.length_nil, eq_comm, List.sum_eq_zero_iff_forall_eq_nat] at hsum
    apply eq_of_entries
    intro b
    have hempty := hsum _ (List.mem_map_of_mem b.mem_all)
    rw [List.length_eq_zero_iff.1 hempty]
    cases b <;> rfl
  · rintro rfl
    rfl

end Query

/-! ## What one constraint adds -/

/-- The name of the field whose value a constraint is, if it is one. -/
def Constraint.fieldName? : Constraint → Option Text
  | .field name _ => some name
  | .text _ | .deck _ _ | .tag _ _ | .state _ _ | .flag _ _ | .property _ => none

namespace Query

/-- Whether a constraint is the value of a field that has one already. -/
def Resets (q : Query) (k : Constraint) : Prop :=
  ∃ name ∈ k.fieldName?, name ∈ q.fieldSearches.names

instance (q : Query) : DecidablePred q.Resets := fun k =>
  inferInstanceAs (Decidable (∃ name ∈ k.fieldName?, name ∈ q.fieldSearches.names))

theorem not_resets_of_fieldName? {q : Query} {k : Constraint} (h : k.fieldName? = none) :
    ¬q.Resets k := by
  rintro ⟨name, hname, -⟩
  rw [h] at hname
  cases hname

/-- A constraint makes a query bigger by one, unless it sets the value of a field again. -/
theorem size_add (q : Query) (k : Constraint) :
    (q.add k).size + (if q.Resets k then 1 else 0) = q.size + 1 := by
  cases k with
  | field name value =>
    have hresets : q.Resets (.field name value) ↔ name ∈ q.fieldSearches.names := by
      simp [Resets, Constraint.fieldName?]
    have hlength := congrArg List.length (q.fieldSearches.names_insert name value)
    rw [apply_ite List.length, List.length_append] at hlength
    simp only [FieldTable.names, List.length_map, List.length_singleton] at hlength
    simp only [hresets, add, size, hlength, FieldTable.names]
    split <;> omega
  | text search | property filter =>
    rw [if_neg (not_resets_of_fieldName? rfl)]
    simp only [add, size, List.length_append, List.length_singleton]
    omega
  | deck negated name | tag negated name | state negated name | flag negated number =>
    rw [if_neg (not_resets_of_fieldName? rfl)]
    cases negated <;> simp only [add, size, List.length_append, List.length_singleton] <;> omega

/-- A constraint adds its own field to the fields that have a value. -/
theorem mem_names_add {q : Query} {k : Constraint} {name : Text} :
    name ∈ (q.add k).fieldSearches.names ↔
      name ∈ q.fieldSearches.names ∨ k.fieldName? = some name := by
  cases k with
  | field other value =>
    rw [Constraint.fieldName?, Option.some.injEq, eq_comm]
    exact FieldTable.mem_names_insert
  | text search | property filter => simp [add, Constraint.fieldName?]
  | deck negated other | tag negated other | state negated other | flag negated number =>
    cases negated <;> simp [add, Constraint.fieldName?]

/-- A query with a constraint places one. -/
theorem add_ne_empty (q : Query) (k : Constraint) : q.add k ≠ {} := by
  intro h
  by_cases hfields : k.bucket = .fields
  · obtain ⟨name, value, rfl⟩ := Constraint.exists_field_of_bucket hfields
    have hmem : name ∈ (q.add (.field name value)).fieldSearches.names :=
      mem_names_add.2 (Or.inr rfl)
    rw [h] at hmem
    cases hmem
  · have hentries := q.entries_add hfields
    have hnone : ∀ b, entries {} b = [] := by
      intro b
      cases b <;> rfl
    rw [h, hnone] at hentries
    exact absurd hentries (by simp)

end Query

/-! ## What one clause adds -/

namespace Clause

/-- Whether a clause leaves every query as it is. -/
def AddsNothing (strict : Bool) (c : Clause) : Prop :=
  ∀ source q, Query.addClause strict source q c = .ok q

/-- The name of the field whose value a clause sets, if it is a plain search in a field. -/
def fieldSet? (strict : Bool) (c : Clause) : Option Text :=
  (c.placed? strict).bind Constraint.fieldName?

variable {strict : Bool} {c : Clause}

/-- The clauses that add nothing are those that place no constraint. -/
theorem addsNothing_iff : c.AddsNothing strict ↔ c.meaning strict = .ok none := by
  constructor
  · intro h
    obtain ⟨⟨found, hfound⟩, hsame⟩ := Query.addClause_eq_ok_iff.1 (h [] {})
    cases found with
    | none => exact hfound
    | some k =>
      rw [placed?, hfound] at hsame
      exact absurd hsame.symm (Query.add_ne_empty {} k)
  · intro h source q
    rw [Query.addClause_eq_ok_iff]
    exact ⟨⟨none, h⟩, by rw [placed?, h]; rfl⟩

/-- An accepted clause adds nothing exactly if it places nothing. -/
theorem placed?_eq_none_iff (h : c.Accepted strict) :
    c.placed? strict = none ↔ c.AddsNothing strict := by
  obtain ⟨found, hfound⟩ := h
  rw [addsNothing_iff, placed?, hfound, Except.ok.injEq]

instance (strict : Bool) : DecidablePred (AddsNothing strict) := fun _ =>
  decidable_of_iff _ addsNothing_iff.symm

end Clause

namespace Query

variable {strict : Bool}

/-- A clause makes a query bigger by one, unless it adds nothing or sets the value of a field
again. -/
theorem size_addOption (q : Query) {c : Clause} (h : c.Accepted strict) :
    (q.addOption (c.placed? strict)).size + (if c.AddsNothing strict then 1 else 0) +
      (if ∃ name ∈ c.fieldSet? strict, name ∈ q.fieldSearches.names then 1 else 0) =
        q.size + 1 := by
  have hnothing := Clause.placed?_eq_none_iff h
  cases hplaced : c.placed? strict with
  | none =>
    have hadds : c.AddsNothing strict := hnothing.1 hplaced
    simp [addOption, Clause.fieldSet?, hplaced, hadds]
  | some k =>
    have hadds : ¬c.AddsNothing strict := by
      intro hadds
      have hnone := hnothing.2 hadds
      rw [hplaced] at hnone
      cases hnone
    simpa [addOption, Resets, Clause.fieldSet?, hplaced, hadds] using q.size_add k

theorem mem_names_addOption {q : Query} {found : Option Constraint} {name : Text} :
    name ∈ (q.addOption found).fieldSearches.names ↔
      name ∈ q.fieldSearches.names ∨ found.bind Constraint.fieldName? = some name := by
  cases found with
  | none => simp [addOption]
  | some k => exact mem_names_add

/-! ## What clauses add one after the other -/

/-- Whether the clause at a place sets the value of a field that a clause before it has set. -/
def SetsAgain (strict : Bool) (clauses : List Clause) (i : Nat) : Prop :=
  ∃ c ∈ clauses[i]?, ∃ name ∈ c.fieldSet? strict,
    ∃ d ∈ clauses.take i, d.fieldSet? strict = some name

instance (strict : Bool) (clauses : List Clause) : DecidablePred (SetsAgain strict clauses) :=
  fun i => inferInstanceAs (Decidable (∃ c ∈ clauses[i]?, ∃ name ∈ c.fieldSet? strict,
    ∃ d ∈ clauses.take i, d.fieldSet? strict = some name))

/-- How many clauses set the value of a field again. -/
def resettings (strict : Bool) (clauses : List Clause) : Nat :=
  (List.range clauses.length).countP fun i => SetsAgain strict clauses i

/-- A clause at the end makes no difference to the clauses before it. -/
theorem setsAgain_append {clauses : List Clause} (c : Clause) {i : Nat} (h : i < clauses.length) :
    SetsAgain strict (clauses ++ [c]) i ↔ SetsAgain strict clauses i := by
  rw [SetsAgain, SetsAgain, List.getElem?_append_left h, List.take_append_of_le_length h.le]

theorem resettings_append (clauses : List Clause) (c : Clause) :
    resettings strict (clauses ++ [c]) = resettings strict clauses +
      (if ∃ name ∈ c.fieldSet? strict, ∃ d ∈ clauses, d.fieldSet? strict = some name
        then 1 else 0) := by
  have hbefore : (List.range clauses.length).countP (fun i => SetsAgain strict (clauses ++ [c]) i) =
      resettings strict clauses :=
    List.countP_congr fun i hi => by
      simpa using setsAgain_append c (List.mem_range.1 hi)
  have hlast : SetsAgain strict (clauses ++ [c]) clauses.length ↔
      ∃ name ∈ c.fieldSet? strict, ∃ d ∈ clauses, d.fieldSet? strict = some name := by
    simp [SetsAgain]
  rw [resettings, List.length_append, List.length_singleton, List.range_succ, List.countP_append,
    hbefore, List.countP_singleton]
  simp only [decide_eq_true_eq, hlast]

/-- What the last of some clauses places is added last. -/
theorem foldl_placed_append (clauses : List Clause) (c : Clause) (q : Query) :
    ((clauses ++ [c]).filterMap (Clause.placed? strict)).foldl add q =
      ((clauses.filterMap (Clause.placed? strict)).foldl add q).addOption (c.placed? strict) := by
  rw [List.filterMap_append, List.foldl_append]
  cases hplaced : c.placed? strict <;> simp [hplaced, addOption]

/-- The fields that have a value are those that clauses have set. -/
theorem mem_names_foldl {clauses : List Clause} {name : Text} :
    name ∈ ((clauses.filterMap (Clause.placed? strict)).foldl add {}).fieldSearches.names ↔
      ∃ c ∈ clauses, c.fieldSet? strict = some name := by
  induction clauses using List.reverseRecOn with
  | nil => simp [FieldTable.names]
  | append_singleton clauses c ih =>
    rw [foldl_placed_append, mem_names_addOption, ih, ← Clause.fieldSet?]
    simp only [List.mem_append, List.mem_singleton, or_and_right, exists_or, exists_eq_left]

/-- Clauses that are accepted add one constraint each, except for those that add nothing and for
those that set the value of a field again. -/
theorem size_foldl {clauses : List Clause} (h : ∀ c ∈ clauses, c.Accepted strict) :
    ((clauses.filterMap (Clause.placed? strict)).foldl add {}).size +
      clauses.countP (fun c => c.AddsNothing strict) + resettings strict clauses =
        clauses.length := by
  induction clauses using List.reverseRecOn with
  | nil => rfl
  | append_singleton clauses c ih =>
    have hbefore := ih fun d hd => h d (List.mem_append_left _ hd)
    have hlast := size_addOption ((clauses.filterMap (Clause.placed? strict)).foldl add {})
      (h c (List.mem_append_right _ List.mem_cons_self))
    simp only [mem_names_foldl] at hlast
    rw [foldl_placed_append, List.countP_append, List.countP_singleton, resettings_append,
      List.length_append, List.length_singleton]
    simp only [decide_eq_true_eq]
    omega

/-- The clauses of a compiled query are accepted, and it is made of what they place. -/
theorem eq_foldl_of_compile {dialect : Dialect} {query : Text} {clauses : List Clause} {q : Query}
    (hsplit : Clause.split query = .ok clauses) (h : compile dialect query = .ok q) :
    (∀ c ∈ clauses, c.Accepted dialect.strict) ∧
      q = (clauses.filterMap (Clause.placed? dialect.strict)).foldl add {} := by
  obtain ⟨-, found', found, hsplit', hfound, rfl⟩ := compile_eq_ok_iff.1 h
  obtain rfl := Except.ok.inj (hsplit.symm.trans hsplit')
  have haccepted : ∀ c ∈ clauses, c.Accepted dialect.strict := by
    intro c hc
    have hmem := List.mem_map_of_mem (f := Clause.meaning dialect.strict) hc
    rw [hfound] at hmem
    obtain ⟨placed, -, hplaced⟩ := List.mem_map.1 hmem
    exact ⟨placed, hplaced.symm⟩
  refine ⟨haccepted, ?_⟩
  have hrun : (run dialect.strict [] {} clauses).2 = .ok (found.foldl addOption {}) :=
    run_eq_ok_iff.2 ⟨found, hfound, rfl⟩
  rw [run_of_accepted haccepted {}] at hrun
  exact (Except.ok.inj hrun).symm

/-- A compiled query has a constraint for each of its clauses, except for those that add nothing and
for those that set the value of a field again. -/
theorem size_of_compile {dialect : Dialect} {query : Text} {clauses : List Clause} {q : Query}
    (hsplit : Clause.split query = .ok clauses) (h : compile dialect query = .ok q) :
    q.size + clauses.countP (fun c => c.AddsNothing dialect.strict) +
      resettings dialect.strict clauses = clauses.length := by
  obtain ⟨haccepted, rfl⟩ := eq_foldl_of_compile hsplit h
  exact size_foldl haccepted

/-- A compiled query places no constraint exactly if each of its clauses adds nothing. -/
theorem eq_empty_of_compile_iff {dialect : Dialect} {query : Text} {clauses : List Clause}
    {q : Query} (hsplit : Clause.split query = .ok clauses) (h : compile dialect query = .ok q) :
    q = {} ↔ ∀ c ∈ clauses, c.AddsNothing dialect.strict := by
  obtain ⟨haccepted, rfl⟩ := eq_foldl_of_compile hsplit h
  have hnothing : clauses.filterMap (Clause.placed? dialect.strict) = [] ↔
      ∀ c ∈ clauses, c.AddsNothing dialect.strict := by
    rw [List.filterMap_eq_nil_iff]
    exact forall₂_congr fun c hc => Clause.placed?_eq_none_iff (haccepted c hc)
  rw [← hnothing]
  rcases List.eq_nil_or_concat (clauses.filterMap (Clause.placed? dialect.strict)) with
    hnil | ⟨ks, k, hlast⟩
  · simp [hnil]
  · rw [hlast, List.concat_eq_append, List.foldl_append]
    exact iff_of_false (add_ne_empty _ k) (by simp)

end Query

end CardQuery
