import CardQuery.Proofs.Clause.Means
import CardQuery.Proofs.Property.Reading
import CardQuery.Proofs.Query.Compilation
import CardQuery.Proofs.Query.Constraints

/-!
# Strict readings

A strict reading refuses unknown states and properties while the clauses are being read.  The same
is found by a lenient reading and a look at the query that it makes: a strict reading changes no
query, and it refuses exactly those with an unknown state, an unknown property or a value that is
no number.

Main results:

- `Clause.meaning_strict_iff` says what a strict reading asks of a single clause.
- `Query.known_iff` says that a query is known if each of its constraints is.
- `Query.compile_strict` says what a strict reading makes of a query, compared with a lenient one.
-/

namespace CardQuery

/-! ## Known constraints -/

/-- A constraint that a strict reading lets pass: a state is one of the known ones in small
letters, and a property is known and compared with a number. -/
def Constraint.Known : Constraint → Prop
  | .state _ name => Text.lower name ∈ knownStates
  | .property filter => filter.Known
  | .text _ | .deck _ _ | .tag _ _ | .field _ _ | .flag _ _ => True

namespace Clause

section

variable {k : Constraint}

theorem known_of_mem_named {kind : Text → Constraint} (hkind : ∀ t, (kind t).Known) {text : Text}
    (h : k ∈ named kind text) : k.Known := by
  simp only [named] at h
  split at h
  next => cases h
  next =>
    rw [← Option.some.inj h]
    exact hkind _

theorem known_of_mem_map_text {found : Option TextSearch} (h : k ∈ found.map .text) :
    k.Known := by
  rcases Option.map_eq_some_iff.1 h with ⟨search, _, rfl⟩
  trivial

theorem known_of_mem_fieldConstraint {negated : Bool} {field text : Text}
    (h : k ∈ fieldConstraint negated field text) : k.Known := by
  unfold fieldConstraint at h
  split at h
  next => exact known_of_mem_map_text h
  next =>
    rw [← Option.some.inj h]
    trivial

end

/-- The sign of a filter does not matter to what a strict reading asks of it. -/
theorem known_signed_iff {negated : Bool} {f : PropertyFilter} :
    (Constraint.property (if negated then f.complement else f)).Known ↔ f.Known := by
  cases negated <;> exact Iff.rfl

/-- A strict reading of a clause accepts what a lenient one accepts, if the constraint is a known
one. -/
theorem means_strict_iff {c : Clause} {found : Option Constraint} :
    Means true c found ↔ Means false c found ∧ ∀ k ∈ found, k.Known := by
  constructor
  · intro h
    cases h with
    | deck htopic =>
      exact ⟨.deck htopic, fun k => @known_of_mem_named k (.deck c.negated) (fun _ => trivial) _⟩
    | tag htopic =>
      exact ⟨.tag htopic, fun k => @known_of_mem_named k (.tag c.negated) (fun _ => trivial) _⟩
    | state htopic hknown =>
      refine ⟨.state htopic nofun, fun k hk => ?_⟩
      rw [← Option.some.inj hk]
      exact hknown rfl
    | flag htopic hflag =>
      refine ⟨.flag htopic hflag, fun k hk => ?_⟩
      rw [← Option.some.inj hk]
      trivial
    | property htopic hread =>
      rcases PropertyFilter.read_strict_iff.1 hread with ⟨hlenient, hfilter⟩
      refine ⟨.property htopic hlenient, fun k hk => ?_⟩
      rw [← Option.some.inj hk]
      exact known_signed_iff.2 hfilter
    | front htopic => exact ⟨.front htopic, fun _ => known_of_mem_fieldConstraint⟩
    | back htopic => exact ⟨.back htopic, fun _ => known_of_mem_fieldConstraint⟩
    | field htopic hsplit hname =>
      exact ⟨.field htopic hsplit hname, fun _ => known_of_mem_fieldConstraint⟩
    | text htopic => exact ⟨.text htopic, fun _ => known_of_mem_map_text⟩
  · rintro ⟨h, hall⟩
    cases h with
    | deck htopic => exact .deck htopic
    | tag htopic => exact .tag htopic
    | state htopic _ => exact .state htopic fun _ => hall _ rfl
    | flag htopic hflag => exact .flag htopic hflag
    | property htopic hread =>
      have hfilter := known_signed_iff.1 (hall _ rfl)
      exact .property htopic (PropertyFilter.read_strict_iff.2 ⟨hread, hfilter⟩)
    | front htopic => exact .front htopic
    | back htopic => exact .back htopic
    | field htopic hsplit hname => exact .field htopic hsplit hname
    | text htopic => exact .text htopic

/-- The same of the reading itself. -/
theorem meaning_strict_iff {c : Clause} {found : Option Constraint} :
    c.meaning true = .ok found ↔ c.meaning false = .ok found ∧ ∀ k ∈ found, k.Known := by
  rw [meaning_eq_ok_iff, meaning_eq_ok_iff, means_strict_iff]

/-- What a strict reading alone refuses is a state or a property. -/
theorem fault_of_meaning_strict {c : Clause} {found : Option Constraint} {fault : QueryFault}
    (hlenient : c.meaning false = .ok found) (hstrict : c.meaning true = .error fault) :
    (∃ state, fault = .unknownState state) ∨
      ∃ expression cause, fault = .invalidProperty expression cause := by
  have hnot : ¬Refused false c fault := by
    intro hrefused
    rw [meaning_of_refused hrefused] at hlenient
    cases hlenient
  cases meaning_eq_error_iff.1 hstrict with
  | state _ _ _ => exact Or.inl ⟨_, rfl⟩
  | property _ _ => exact Or.inr ⟨_, _, rfl⟩
  | flag htopic hflag => exact absurd (.flag htopic hflag) hnot
  | unsplit htopic hsplit => exact absurd (.unsplit htopic hsplit) hnot
  | unnamed htopic hsplit => exact absurd (.unnamed htopic hsplit) hnot

end Clause

/-! ## Known queries -/

namespace Query

/-- A query whose states and property filters are all known. -/
structure Known (q : Query) : Prop where
  states : ∀ name ∈ q.states, Text.lower name ∈ knownStates
  statesExclude : ∀ name ∈ q.statesExclude, Text.lower name ∈ knownStates
  properties : ∀ f ∈ q.propertyFilters,
    f.property ∈ PropertyFilter.knownProperties ∧ f.value.Numeral

instance : DecidablePred Known := fun q =>
  decidable_of_iff ((∀ name ∈ q.states ++ q.statesExclude, Text.lower name ∈ knownStates) ∧
      ∀ f ∈ q.propertyFilters, f.property ∈ PropertyFilter.knownProperties ∧ f.value.Numeral)
    ⟨fun ⟨hstates, hproperties⟩ =>
        ⟨fun name h => hstates name (List.mem_append_left _ h),
          fun name h => hstates name (List.mem_append_right _ h), hproperties⟩,
      fun h => ⟨fun name hname => (List.mem_append.1 hname).elim (h.states name)
        (h.statesExclude name), h.properties⟩⟩

/-- A query is known exactly if each of its constraints is. -/
theorem known_iff {q : Query} : q.Known ↔ ∀ k ∈ q.constraints, k.Known := by
  rw [forall_constraints_iff]
  constructor
  · intro h b e he
    cases b with
    | states => exact h.states e he
    | statesLeftOut => exact h.statesExclude e he
    | properties => exact h.properties e he
    | texts | decks | decksLeftOut | tags | tagsLeftOut | fields | flags | flagsLeftOut => trivial
  · intro h
    exact ⟨h .states, h .statesLeftOut, h .properties⟩

/-- The query that constraints make is known exactly if all of them are; values of fields, which
may be replaced, are always known. -/
theorem known_foldl_iff {found : List (Option Constraint)} :
    (found.foldl addOption {}).Known ↔ ∀ k, some k ∈ found → k.Known := by
  rw [known_iff]
  constructor
  · intro h k hk
    by_cases hfields : k.bucket = .fields
    · cases k with
      | state negated name => cases negated <;> cases hfields
      | property filter => cases hfields
      | text _ | deck _ _ | tag _ _ | field _ _ | flag _ _ => trivial
    · exact h k ((mem_constraints_foldl_iff hfields).2 (Or.inr hk))
  · intro h k hk
    rcases mem_constraints_of_mem_foldl hk with hnone | hsome
    · cases hnone
    · exact h k hsome

/-- A strict reading accepts a clause after another exactly if a lenient one does and all
constraints are known. -/
theorem map_meaning_strict_iff {clauses : List Clause} {found : List (Option Constraint)} :
    clauses.map (Clause.meaning true) = found.map .ok ↔
      clauses.map (Clause.meaning false) = found.map .ok ∧ ∀ k, some k ∈ found → k.Known := by
  induction clauses generalizing found with
  | nil => cases found <;> simp
  | cons c rest ih =>
    cases found with
    | nil => simp
    | cons first later =>
      simp only [List.map_cons, List.cons.injEq, ih, Clause.meaning_strict_iff, Option.mem_def,
        List.mem_cons, or_imp, forall_and]
      constructor
      · rintro ⟨⟨hfirst, hknown⟩, hlater, hall⟩
        exact ⟨⟨hfirst, hlater⟩, fun k hk => hknown k hk.symm, hall⟩
      · rintro ⟨⟨hfirst, hlater⟩, hknown, hall⟩
        exact ⟨⟨hfirst, fun k hk => hknown k hk.symm⟩, hlater, hall⟩

/-- A strict reading accepts a query exactly if a lenient one compiles it to the same constraints
and they are known. -/
theorem compile_strict_iff {limit : Option Int} {query : Text} {q : Query} :
    compile ⟨true, limit⟩ query = .ok q ↔ compile ⟨false, limit⟩ query = .ok q ∧ q.Known := by
  simp only [compile_eq_ok_iff, map_meaning_strict_iff]
  constructor
  · rintro ⟨hlimit, clauses, found, hsplit, ⟨hlenient, hknown⟩, rfl⟩
    exact ⟨⟨hlimit, clauses, found, hsplit, hlenient, rfl⟩, known_foldl_iff.2 hknown⟩
  · rintro ⟨⟨hlimit, clauses, found, hsplit, hlenient, rfl⟩, hknown⟩
    exact ⟨hlimit, clauses, found, hsplit, ⟨hlenient, known_foldl_iff.1 hknown⟩, rfl⟩

/-- A strict reading is a lenient one with a check of the query that is made.  It accepts a query
exactly if a lenient reading compiles it to the same constraints and their states and properties
are known; and what it refuses although a lenient reading accepts it is refused for an unknown
state or an invalid property. -/
theorem compile_strict (limit : Option Int) (query : Text) :
    (∀ q, compile ⟨true, limit⟩ query = .ok q ↔ compile ⟨false, limit⟩ query = .ok q ∧ q.Known) ∧
      ∀ q e, compile ⟨false, limit⟩ query = .ok q → compile ⟨true, limit⟩ query = .error e →
        e.query = query.strip ∧
          ((∃ state, e.fault = .unknownState state) ∨
            ∃ expression cause, e.fault = .invalidProperty expression cause) := by
  refine ⟨fun q => compile_strict_iff, ?_⟩
  intro q e hlenient hstrict
  rcases compile_eq_ok_iff.1 hlenient with ⟨hlimit, clauses, found, hsplit, hmeaning, _⟩
  rcases compile_eq_error_iff.1 hstrict with
    ⟨bound, hbound, hlong, _⟩ | ⟨_, hfault | ⟨before, c, after, hclauses, _, hc⟩⟩
  · have hshort := hlimit bound hbound
    omega
  · rw [hsplit] at hfault
    cases hfault
  · -- The clause that is refused was accepted by the lenient reading.
    rw [hsplit, Except.ok.injEq] at hclauses
    have hmem : c.meaning false ∈ found.map Except.ok := by
      rw [← hmeaning, hclauses]
      exact List.mem_map_of_mem (by simp)
    rcases List.mem_map.1 hmem with ⟨first, _, hfirst⟩
    rcases Clause.constraint_eq_error_iff.1 hc with ⟨hquery, hrefused⟩
    exact ⟨hquery, Clause.fault_of_meaning_strict hfirst.symm hrefused⟩

end Query

end CardQuery
