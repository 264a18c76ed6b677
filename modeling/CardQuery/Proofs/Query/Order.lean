import CardQuery.Proofs.Query.Bucket
import CardQuery.Proofs.Query.Compilation
import Mathlib.Data.List.FinRange
import Mathlib.Data.List.Sort

/-!
# The order of clauses

How far the order of clauses matters.  Every constraint goes to one slot of a query: a list, or the
value of one field.  What stands in a slot is told by the constraints that went to it and by their
order, whatever went to the other slots in between.  So clauses can be rearranged as long as those
of one slot stay in order.  Only the order of the field names may be another then, and it is not
looked at when two queries are compared.

Main results:

- `FieldTable.sameValues_iff` and `sameConstraints_iff` say that queries are compared slot by slot.
- `slotAt_add_of_ne` and `slotAt_add_congr` say what one more constraint does to a slot.
- `slotAt_foldl` says that a slot is told by the constraints that go to it.
- `filter_rearrange` says that clauses of one slot that keep their order are the same list.
- `run_rearrange` says that rearranged clauses make the same query.
-/

namespace CardQuery

namespace FieldTable

/-! ## The values of a table -/

/-- The value of a field, if it has one. -/
def value? (t : FieldTable) (name : Text) : Option Text := t.entries.lookup name

theorem lookup_cons_eq (name value m : Text) (entries : List (Text × Text)) :
    ((name, value) :: entries).lookup m = if m = name then some value else entries.lookup m := by
  by_cases h : m = name
  · simp [h]
  · have hbeq : (m == name) = false := by simpa using h
    simp [List.lookup_cons, hbeq, h]

theorem lookup_set (name value m : Text) (entries : List (Text × Text)) :
    (set name value entries).lookup m = if m = name then some value else entries.lookup m := by
  induction entries with
  | nil => exact lookup_cons_eq name value m []
  | cons entry rest ih =>
    rcases entry with ⟨first, old⟩
    by_cases hfirst : first = name
    · subst hfirst
      rw [set, if_pos rfl, lookup_cons_eq, lookup_cons_eq]
      split <;> rfl
    · rw [set, if_neg hfirst, lookup_cons_eq, lookup_cons_eq, ih]
      by_cases hm : m = first
      · rw [if_pos hm, if_pos hm, if_neg (hm ▸ hfirst)]
      · rw [if_neg hm, if_neg hm]

/-- Setting a value changes the value of one field. -/
theorem value?_insert (t : FieldTable) (name value m : Text) :
    (t.insert name value).value? m = if m = name then some value else t.value? m :=
  lookup_set name value m t.entries

/-- The entries of a table are the fields that have values. -/
theorem mem_entries_iff {t : FieldTable} {name value : Text} :
    (name, value) ∈ t.entries ↔ t.value? name = some value := by
  rw [value?, List.lookup_eq_some_iff]
  constructor
  · intro h
    rcases List.append_of_mem h with ⟨before, later, heq⟩
    refine ⟨before, later, heq, fun e he => ?_⟩
    -- The name would stand twice if it stood among the entries before.
    have hnodup := t.nodup
    rw [heq, List.map_append, List.nodup_append] at hnodup
    have hne := hnodup.2.2 e.1 (List.mem_map_of_mem he) name (by simp)
    simpa using Ne.symm hne
  · rintro ⟨before, later, heq, _⟩
    simp [heq]

/-- Two tables have the same values exactly if every field has the same value in both. -/
theorem sameValues_iff {a b : FieldTable} :
    a.sameValues b = true ↔ ∀ name, a.value? name = b.value? name := by
  rw [sameValues, List.isPerm_iff,
    List.perm_ext_iff_of_nodup (a.nodup.of_map Prod.fst) (b.nodup.of_map Prod.fst)]
  simp only [Prod.forall, mem_entries_iff]
  exact ⟨fun h name => Option.ext fun value => h name value, fun h name value => by rw [h name]⟩

end FieldTable

/-! ## Slots -/

/-- Where a constraint is kept: in one of the lists, or as the value of one field. -/
inductive Slot
  | list (b : Bucket) (hlist : b ≠ .fields)
  | value (name : Text)
deriving DecidableEq

/-- What is kept in a slot. -/
def Slot.Content : Slot → Type
  | list b _ => List b.Entry
  | value _ => Option Text

/-- The slot that a constraint goes to. -/
def Constraint.slot : Constraint → Slot
  | text _ => .list .texts (by decide)
  | deck false _ => .list .decks (by decide)
  | deck true _ => .list .decksLeftOut (by decide)
  | tag false _ => .list .tags (by decide)
  | tag true _ => .list .tagsLeftOut (by decide)
  | field name _ => .value name
  | state false _ => .list .states (by decide)
  | state true _ => .list .statesLeftOut (by decide)
  | flag false _ => .list .flags (by decide)
  | flag true _ => .list .flagsLeftOut (by decide)
  | property _ => .list .properties (by decide)

/-- A constraint sets the value of a field, or goes to the list that is its bucket. -/
theorem Constraint.slot_cases (k : Constraint) :
    (∃ name value, k = .field name value) ∨
      ∃ h : k.bucket ≠ .fields, k.slot = .list k.bucket h := by
  cases k with
  | field name value => exact Or.inl ⟨name, value, rfl⟩
  | text _ | property _ => exact Or.inr ⟨nofun, rfl⟩
  | deck negated _ | tag negated _ | state negated _ | flag negated _ =>
    cases negated <;> exact Or.inr ⟨nofun, rfl⟩

namespace Query

/-- What a query keeps in a slot. -/
def slotAt (q : Query) : (s : Slot) → s.Content
  | .list b _ => q.entries b
  | .value name => q.fieldSearches.value? name

/-- Two queries have the same constraints exactly if they keep the same in every slot. -/
theorem sameConstraints_iff {q r : Query} :
    q.sameConstraints r = true ↔ ∀ s, q.slotAt s = r.slotAt s := by
  simp only [sameConstraints, Bool.and_eq_true, beq_iff_eq, FieldTable.sameValues_iff]
  constructor
  · rintro ⟨⟨⟨⟨⟨⟨⟨⟨⟨⟨htexts, hdecks⟩, hdecksOut⟩, htags⟩, htagsOut⟩, hfields⟩, hstates⟩,
      hstatesOut⟩, hflags⟩, hflagsOut⟩, hproperties⟩ s
    cases s with
    | value name => exact hfields name
    | list b hlist =>
      cases b with
      | fields => exact absurd rfl hlist
      | _ => assumption
  · intro h
    exact ⟨⟨⟨⟨⟨⟨⟨⟨⟨⟨h (.list .texts (by decide)), h (.list .decks (by decide))⟩,
      h (.list .decksLeftOut (by decide))⟩, h (.list .tags (by decide))⟩,
      h (.list .tagsLeftOut (by decide))⟩, fun name => h (.value name)⟩,
      h (.list .states (by decide))⟩, h (.list .statesLeftOut (by decide))⟩,
      h (.list .flags (by decide))⟩, h (.list .flagsLeftOut (by decide))⟩,
      h (.list .properties (by decide))⟩

/-! ## One more constraint -/

/-- A constraint leaves every other slot as it is. -/
theorem slotAt_add_of_ne (q : Query) {k : Constraint} {s : Slot} (h : s ≠ k.slot) :
    (q.add k).slotAt s = q.slotAt s := by
  rcases k.slot_cases with ⟨name, value, rfl⟩ | ⟨hk, hslot⟩
  · cases s with
    | list b hlist => exact q.entries_add_of_ne hlist
    | value m =>
      have hne : m ≠ name := fun heq => h (heq ▸ rfl)
      exact (q.fieldSearches.value?_insert name value m).trans (if_neg hne)
  · cases s with
    | list b hlist =>
      refine q.entries_add_of_ne ?_
      rintro rfl
      exact h hslot.symm
    | value m =>
      have htable : (q.add k).entries .fields = q.entries .fields := q.entries_add_of_ne hk.symm
      exact congrArg (List.lookup m) htable

/-- What a constraint makes of its slot is told by what was kept there. -/
theorem slotAt_add_congr {q r : Query} {k : Constraint} (h : q.slotAt k.slot = r.slotAt k.slot) :
    (q.add k).slotAt k.slot = (r.add k).slotAt k.slot := by
  rcases k.slot_cases with ⟨name, value, rfl⟩ | ⟨hk, hslot⟩
  · have hset : ∀ q : Query, (q.add (.field name value)).fieldSearches.value? name = some value :=
      fun q => (q.fieldSearches.value?_insert name value name).trans (if_pos rfl)
    exact (hset q).trans (hset r).symm
  · rw [hslot] at h ⊢
    have hentries : q.entries k.bucket = r.entries k.bucket := h
    show (q.add k).entries k.bucket = (r.add k).entries k.bucket
    rw [q.entries_add hk, r.entries_add hk, hentries]

/-- A slot is told by what was kept there and the constraints that go to it, in their order. -/
theorem slotAt_foldl {s : Slot} (ks : List Constraint) {q r : Query}
    (h : q.slotAt s = r.slotAt s) :
    (ks.foldl add q).slotAt s = ((ks.filter fun k => k.slot = s).foldl add r).slotAt s := by
  induction ks generalizing q r with
  | nil => exact h
  | cons k rest ih =>
    by_cases hk : k.slot = s
    · subst hk
      rw [List.filter_cons_of_pos (by simp), List.foldl_cons, List.foldl_cons]
      exact ih (slotAt_add_congr h)
    · rw [List.filter_cons_of_neg (by simpa using hk), List.foldl_cons]
      exact ih ((q.slotAt_add_of_ne (Ne.symm hk)).trans h)

end Query

/-! ## Rearranged clauses -/

/-- The slot that the constraint of a clause goes to, if the clause places one. -/
def Clause.slot? (strict : Bool) (c : Clause) : Option Slot :=
  (c.placed? strict).map Constraint.slot

/-- A list in another order: what stands at place `i` is what stood at place `σ i`. -/
def rearrange {α : Type} (l : List α) (σ : Equiv.Perm (Fin l.length)) : List α :=
  (List.finRange l.length).map fun i => l[σ i]

/-- Whether rearranged clauses that go to one slot stay in order: of two of them the one that comes
first came first before. -/
def KeepsOrder (strict : Bool) (clauses : List Clause) (σ : Equiv.Perm (Fin clauses.length)) :
    Prop :=
  ∀ i j, i < j → (clauses[σ i].slot? strict).isSome →
    clauses[σ i].slot? strict = clauses[σ j].slot? strict → σ i < σ j

instance (strict : Bool) (clauses : List Clause) (σ : Equiv.Perm (Fin clauses.length)) :
    Decidable (KeepsOrder strict clauses σ) :=
  inferInstanceAs (Decidable (∀ i j, i < j → (clauses[σ i].slot? strict).isSome →
    clauses[σ i].slot? strict = clauses[σ j].slot? strict → σ i < σ j))

theorem mem_of_mem_rearrange {α : Type} {l : List α} {σ : Equiv.Perm (Fin l.length)} {a : α}
    (h : a ∈ rearrange l σ) : a ∈ l := by
  rcases List.mem_map.1 h with ⟨i, _, rfl⟩
  exact List.getElem_mem _

/-- Items that keep their order are the same list after a list has been rearranged. -/
theorem filter_rearrange {α : Type} {l : List α} {σ : Equiv.Perm (Fin l.length)} {p : α → Bool}
    (h : ∀ i j, i < j → p l[σ i] = true → p l[σ j] = true → σ i < σ j) :
    (rearrange l σ).filter p = l.filter p := by
  -- Both are lists of the same places, in increasing order.
  have hplaces : ((List.finRange l.length).map σ).filter (p ∘ l.get) =
      (List.finRange l.length).filter (p ∘ l.get) := by
    have hbefore := (List.pairwise_lt_finRange l.length).filter (p ∘ l.get)
    have hafter : (((List.finRange l.length).map σ).filter (p ∘ l.get)).Pairwise (· < ·) := by
      rw [List.pairwise_filter, List.pairwise_map]
      exact (List.pairwise_lt_finRange l.length).imp fun {i j} => h i j
    exact (σ.map_finRange_perm.filter _).eq_of_pairwise
      (fun _ _ _ _ hab hba => absurd hba hab.asymm) hafter hbefore
  have hrearrange : rearrange l σ = ((List.finRange l.length).map σ).map l.get := by
    simp [rearrange]
  rw [hrearrange, List.filter_map, hplaces, ← List.filter_map, List.map_get_finRange]

namespace Query

/-- The constraints that go to a slot are those of the clauses that go to it. -/
theorem filter_filterMap_placed? (strict : Bool) (s : Slot) (clauses : List Clause) :
    (clauses.filterMap (Clause.placed? strict)).filter (fun k => k.slot = s) =
      (clauses.filter fun c => c.slot? strict = some s).filterMap (Clause.placed? strict) := by
  rw [List.filter_filterMap, List.filterMap_filter]
  congr 1
  funext c
  cases hplaced : c.placed? strict with
  | none => simp
  | some k => simp [Clause.slot?, hplaced, Option.filter]

/-- Clauses that are accepted can be rearranged, as long as those that go to one list and those that
set one field stay in order.  They are accepted in the other order too, and the queries that are
made of any query in the two orders have the same constraints. -/
theorem run_rearrange {strict : Bool} {clauses : List Clause}
    {σ : Equiv.Perm (Fin clauses.length)} (haccepted : ∀ c ∈ clauses, c.Accepted strict)
    (hσ : KeepsOrder strict clauses σ) (source source' : Text) (q : Query) :
    ∃ r r', (run strict source q clauses).2 = .ok r ∧
      (run strict source' q (rearrange clauses σ)).2 = .ok r' ∧ r.sameConstraints r' = true := by
  have hrearranged : ∀ c ∈ rearrange clauses σ, c.Accepted strict := fun c hc =>
    haccepted c (mem_of_mem_rearrange hc)
  rw [run_of_accepted haccepted, run_of_accepted hrearranged]
  refine ⟨_, _, rfl, rfl, sameConstraints_iff.2 fun s => ?_⟩
  have hfilter : (rearrange clauses σ).filter (fun c => c.slot? strict = some s) =
      clauses.filter fun c => c.slot? strict = some s := by
    refine filter_rearrange fun i j hij hi hj => hσ i j hij ?_ ?_
    · rw [of_decide_eq_true hi]
      rfl
    · rw [of_decide_eq_true hi, of_decide_eq_true hj]
  rw [slotAt_foldl _ rfl, slotAt_foldl (List.filterMap _ (rearrange clauses σ)) rfl,
    filter_filterMap_placed?, filter_filterMap_placed?, hfilter]

theorem run_rearrange_fields :
    ∃ r r',
      (run true [] {} [⟨false, "front:1".toList⟩, ⟨true, "tag:a".toList⟩,
        ⟨false, "back:2".toList⟩, ⟨false, "front:3".toList⟩]).2 = .ok r ∧
      (run true [] {} [⟨false, "back:2".toList⟩, ⟨true, "tag:a".toList⟩,
        ⟨false, "front:1".toList⟩, ⟨false, "front:3".toList⟩]).2 = .ok r' ∧
      r.sameConstraints r' = true := by
  have hmoved : rearrange [⟨false, "front:1".toList⟩, ⟨true, "tag:a".toList⟩,
      ⟨false, "back:2".toList⟩, ⟨false, "front:3".toList⟩] (Equiv.swap 0 2) =
      [(⟨false, "back:2".toList⟩ : Clause), ⟨true, "tag:a".toList⟩,
        ⟨false, "front:1".toList⟩, ⟨false, "front:3".toList⟩] := by decide
  rw [← hmoved]
  exact run_rearrange (by decide +kernel) (by decide +kernel) [] [] {}

end Query

end CardQuery
