import CardQuery.Proofs.Clause.Means
import CardQuery.Proofs.Query.Accumulation
import Mathlib.Order.Lattice

/-!
# Clauses of opposite sign

A minus sign in front of a clause turns what the clause asks for into its opposite: what was asked
for is left out, and a comparison becomes the one that holds exactly where the other does not.  The
value of a field has no opposite.  The sign decides nothing else; above all it never decides whether
a clause is refused.

Main results:

- `Comparator.holds_complement_iff` says that a comparator and its complement never agree.
- `Clause.meaning_negate` says that a clause of the opposite sign is refused for the same reason, or
  places the opposite constraint.
- `Call.perform_opposed` says what a clause makes of the query without constraints with a minus sign
  and without one.
-/

universe u

namespace CardQuery

/-! ## Opposite comparisons -/

namespace Comparator

/-- Whether `x` compares with `v` as a comparator asks, in any linear order. -/
def Holds {α : Type u} [LinearOrder α] (x v : α) : Comparator → Prop
  | ge => v ≤ x
  | le => x ≤ v
  | ne => x ≠ v
  | eq => x = v
  | gt => v < x
  | lt => x < v

/-- The complement of a comparator holds exactly where the comparator does not. -/
theorem holds_complement_iff {α : Type u} [LinearOrder α] (c : Comparator) (x v : α) :
    c.complement.Holds x v ↔ ¬c.Holds x v := by
  cases c with
  | ge | le => exact not_le.symm
  | gt | lt => exact not_lt.symm
  | ne => exact not_not.symm
  | eq => exact Iff.rfl

end Comparator

/-- Two comparisons of the same property with the same value, of which always exactly one holds. -/
structure PropertyFilter.Opposed (f g : PropertyFilter) : Prop where
  property : g.property = f.property
  value : g.value = f.value
  comparator : g.comparator = f.comparator.complement
  holds_iff : ∀ (α : Type u) [LinearOrder α] (x v : α),
    g.comparator.Holds x v ↔ ¬f.comparator.Holds x v

theorem PropertyFilter.opposed_complement (f : PropertyFilter) : Opposed.{u} f f.complement where
  property := rfl
  value := rfl
  comparator := rfl
  holds_iff _ _ := f.comparator.holds_complement_iff

/-! ## Opposite constraints -/

/-- Whether a constraint can be that of a clause with the given sign.  The value of a field and the
comparison of a property do not show the sign. -/
def Constraint.Signed (negated : Bool) : Constraint → Prop
  | .text search => search.isNegated = negated
  | .deck sign _ | .tag sign _ | .state sign _ | .flag sign _ => sign = negated
  | .field _ _ | .property _ => True

/-- The sign of a search for a text is that of its clause. -/
theorem TextSearch.isNegated_of_read? {negated : Bool} {field text : Text} {s : TextSearch}
    (h : read? negated field text = some s) : s.isNegated = negated := by
  unfold read? at h
  dsimp only at h
  split at h
  next =>
    split at h
    next => cases h
    next => rw [← Option.some.inj h]
  next =>
    split at h
    next => cases h
    next => rw [← Option.some.inj h]

/-- Of a search for a text the sign of the clause decides nothing but the sign of the search. -/
theorem TextSearch.read?_not (negated : Bool) (field text : Text) :
    read? (!negated) field text =
      (read? negated field text).map fun s => { s with isNegated := !s.isNegated } := by
  unfold read?
  dsimp only
  split
  next => split <;> rfl
  next => split <;> rfl

namespace Clause

/-- The clause of the opposite sign. -/
def negate (c : Clause) : Clause := { c with negated := !c.negated }

theorem map_negate_named (kind opposite : Text → Constraint)
    (h : ∀ name, (kind name).negate = opposite name) (text : Text) :
    (named kind text).map Constraint.negate = named opposite text := by
  unfold named
  dsimp only
  split
  next => rfl
  next => rw [Option.map_some, h]

theorem map_negate_text (negated : Bool) (field text : Text) :
    ((TextSearch.read? negated field text).map .text).map Constraint.negate =
      (TextSearch.read? (!negated) field text).map .text := by
  rw [TextSearch.read?_not, Option.map_map, Option.map_map]
  rfl

theorem map_negate_fieldConstraint (negated : Bool) (field text : Text) :
    (fieldConstraint negated field text).map Constraint.negate =
      fieldConstraint (!negated) field text := by
  unfold fieldConstraint
  split
  next => exact map_negate_text negated field text
  next => rfl

variable {strict : Bool} {c : Clause}

/-- A clause of the opposite sign places the opposite constraint by the same rule. -/
theorem Means.negate {found : Option Constraint} (h : Means strict c found) :
    Means strict c.negate (found.map Constraint.negate) := by
  cases h with
  | @deck rest htopic =>
    rw [map_negate_named (.deck c.negated) (.deck (!c.negated)) fun _ => rfl]
    exact .deck htopic
  | @tag rest htopic =>
    rw [map_negate_named (.tag c.negated) (.tag (!c.negated)) fun _ => rfl]
    exact .tag htopic
  | state htopic hknown => exact .state htopic hknown
  | flag htopic hflag => exact .flag htopic hflag
  | @property rest filter htopic hread =>
    have hfilter : (if c.negated then filter.complement else filter).complement =
        if c.negate.negated then filter.complement else filter := by
      cases hsign : c.negated <;> simp [Clause.negate, hsign, PropertyFilter.complement]
    rw [Option.map_some, Constraint.negate, hfilter]
    exact .property htopic hread
  | front htopic =>
    rw [map_negate_fieldConstraint]
    exact .front htopic
  | back htopic =>
    rw [map_negate_fieldConstraint]
    exact .back htopic
  | field htopic hsplit hname =>
    rw [map_negate_fieldConstraint]
    exact .field htopic hsplit hname
  | text htopic =>
    rw [map_negate_text]
    exact .text htopic

/-- A clause of the opposite sign is refused for the same reason. -/
theorem Refused.negate {fault : QueryFault} (h : Refused strict c fault) :
    Refused strict c.negate fault := by
  cases h with
  | state htopic hstrict hunknown => exact .state htopic hstrict hunknown
  | flag htopic hflag => exact .flag htopic hflag
  | property htopic hread => exact .property htopic hread
  | unsplit htopic hsplit => exact .unsplit htopic hsplit
  | unnamed htopic hsplit => exact .unnamed htopic hsplit

/-- A clause of the opposite sign is refused for the same reason, or places the opposite
constraint. -/
theorem meaning_negate (strict : Bool) (c : Clause) :
    c.negate.meaning strict = (c.meaning strict).map (Option.map Constraint.negate) := by
  cases hmeaning : c.meaning strict with
  | error fault => exact meaning_of_refused (meaning_eq_error_iff.1 hmeaning).negate
  | ok found => exact meaning_of_means (meaning_eq_ok_iff.1 hmeaning).negate

/-! ## The sign of a constraint -/

theorem signed_of_mem_text {field text : Text} {k : Constraint}
    (h : k ∈ (TextSearch.read? c.negated field text).map .text) : k.Signed c.negated := by
  rcases Option.map_eq_some_iff.1 h with ⟨search, hsearch, rfl⟩
  exact TextSearch.isNegated_of_read? hsearch

theorem signed_of_mem_fieldConstraint {field text : Text} {k : Constraint}
    (h : k ∈ fieldConstraint c.negated field text) : k.Signed c.negated := by
  unfold fieldConstraint at h
  split at h
  next => exact signed_of_mem_text h
  next =>
    rw [← Option.some.inj h]
    trivial

theorem signed_of_mem_named (kind : Text → Constraint) (hkind : ∀ t, (kind t).Signed c.negated)
    {text : Text} {k : Constraint} (h : k ∈ named kind text) : k.Signed c.negated := by
  simp only [named] at h
  split at h
  next => cases h
  next =>
    rw [← Option.some.inj h]
    exact hkind _

/-- The constraint that a clause places has the sign of the clause. -/
theorem Means.signed {found : Option Constraint} (h : Means strict c found) :
    ∀ k ∈ found, k.Signed c.negated := by
  cases h with
  | deck _ => exact fun _ => signed_of_mem_named (.deck c.negated) fun _ => rfl
  | tag _ => exact fun _ => signed_of_mem_named (.tag c.negated) fun _ => rfl
  | state _ _ | flag _ _ =>
    intro k hk
    rw [← Option.some.inj hk]
    rfl
  | property _ _ =>
    intro k hk
    rw [← Option.some.inj hk]
    trivial
  | front _ | back _ | field _ _ _ => exact fun _ => signed_of_mem_fieldConstraint
  | text _ => exact fun _ => signed_of_mem_text

end Clause

/-! ## Opposite queries -/

/-- Two queries that ask for the opposite: what one asks for the other leaves out, and of two
comparisons always exactly one holds.  Values of fields are the same in both. -/
structure Query.Opposed (q r : Query) : Prop where
  decksInclude : r.decksInclude = q.decksExclude
  decksExclude : r.decksExclude = q.decksInclude
  tagsInclude : r.tagsInclude = q.tagsExclude
  tagsExclude : r.tagsExclude = q.tagsInclude
  states : r.states = q.statesExclude
  statesExclude : r.statesExclude = q.states
  flags : r.flags = q.flagsExclude
  flagsExclude : r.flagsExclude = q.flags
  texts_plain : ∀ s ∈ q.textSearches, s.isNegated = false
  texts : r.textSearches = q.textSearches.map fun s => { s with isNegated := true }
  fields : r.fieldSearches = q.fieldSearches
  properties : List.Forall₂ PropertyFilter.Opposed.{u} q.propertyFilters r.propertyFilters

/-- A constraint without a minus sign and its opposite make opposite queries. -/
theorem Query.opposed_add {k : Constraint} (h : k.Signed false) :
    Opposed.{u} (add {} k) (add {} k.negate) := by
  cases k with
  | text search =>
    have hplain : search.isNegated = false := h
    constructor <;> simp [add, Constraint.negate, hplain]
  | deck sign name | tag sign name | state sign name | flag sign number =>
    obtain rfl : sign = false := h
    constructor <;> simp [add, Constraint.negate]
  | field name value => constructor <;> simp [add, Constraint.negate]
  | property filter =>
    constructor <;> simp [add, Constraint.negate, filter.opposed_complement]

theorem Query.opposed_addOption {found : Option Constraint} (h : ∀ k ∈ found, k.Signed false) :
    Opposed.{u} (addOption {} found) (addOption {} (found.map Constraint.negate)) := by
  cases found with
  | none => constructor <;> simp [addOption]
  | some k => exact opposed_add (h k rfl)

namespace Call

/-- What a clause makes of the query without constraints, with a minus sign in front and without
one.  Both clauses are refused, with the same error, or neither is, and then they make opposite
queries.  To take the complement of a comparator twice changes nothing. -/
theorem perform_opposed (strict : Bool) (source : Option Text) (text : Text) :
    ((∃ e, (perform ⟨strict, source, ⟨false, text⟩⟩ {}).2 = .error e ∧
          (perform ⟨strict, source, ⟨true, text⟩⟩ {}).2 = .error e) ∨
        ∃ q r, perform ⟨strict, source, ⟨false, text⟩⟩ {} = (q, .ok ()) ∧
          perform ⟨strict, source, ⟨true, text⟩⟩ {} = (r, .ok ()) ∧ Query.Opposed.{u} q r) ∧
      ∀ c : Comparator, c.complement.complement = c := by
  refine ⟨?_, Comparator.complement_complement⟩
  have hsource : query ⟨strict, source, ⟨true, text⟩⟩ = query ⟨strict, source, ⟨false, text⟩⟩ := rfl
  have hopposite := Clause.meaning_negate strict ⟨false, text⟩
  simp only [perform_eq, hsource, Clause.constraint]
  cases hmeaning : Clause.meaning strict ⟨false, text⟩ with
  | error fault =>
    rw [hmeaning] at hopposite
    have hrefused : Clause.meaning strict ⟨true, text⟩ = .error fault := hopposite
    simp only [hrefused]
    exact Or.inl ⟨_, rfl, rfl⟩
  | ok found =>
    rw [hmeaning] at hopposite
    have hplaced : Clause.meaning strict ⟨true, text⟩ = .ok (found.map Constraint.negate) :=
      hopposite
    simp only [hplaced]
    have hsigned := (Clause.meaning_eq_ok_iff.1 hmeaning).signed
    exact Or.inr ⟨_, _, rfl, rfl, Query.opposed_addOption hsigned⟩

example : perform ⟨true, none, ⟨true, "prop:ivl>=10".toList⟩⟩ {} =
    ({ propertyFilters := [⟨"ivl".toList, .lt, "10".toList⟩] }, .ok ()) := by decide +kernel

end Call

end CardQuery
