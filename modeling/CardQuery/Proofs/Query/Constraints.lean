import CardQuery.Proofs.Query.Bucket
import CardQuery.Proofs.Query.Merge

/-!
# Constraints of a query

A query can be taken apart into the constraints that it is made of, bucket by bucket.  What is to
be shown of all entries of a query is then shown of one constraint at a time, and a query can be
built up again from its constraints.

Main results:

- `mem_constraints_of_mem_add` says that adding a constraint brings in no other.
- `mem_constraints_add_iff` says that constraints other than values of fields are never lost.
- `foldl_constraints` says that a query is built from its constraints.
-/

namespace CardQuery

namespace Bucket

/-- The constraint that is kept as an entry of a bucket. -/
def constraint : (b : Bucket) → b.Entry → Constraint
  | texts => .text
  | decks => .deck false
  | decksLeftOut => .deck true
  | tags => .tag false
  | tagsLeftOut => .tag true
  | fields => fun entry => .field entry.1 entry.2
  | states => .state false
  | statesLeftOut => .state true
  | flags => .flag false
  | flagsLeftOut => .flag true
  | properties => .property

theorem bucket_constraint (b : Bucket) (e : b.Entry) : (b.constraint e).bucket = b := by
  cases b <;> rfl

theorem constraint_entry (k : Constraint) : k.bucket.constraint k.entry = k := by
  cases k with
  | text search => rfl
  | deck negated name => cases negated <;> rfl
  | tag negated name => cases negated <;> rfl
  | field name value => rfl
  | state negated name => cases negated <;> rfl
  | flag negated number => cases negated <;> rfl
  | property filter => rfl

/-- The buckets of a query. -/
def all : List Bucket :=
  [texts, decks, decksLeftOut, tags, tagsLeftOut, fields, states, statesLeftOut, flags,
    flagsLeftOut, properties]

theorem mem_all (b : Bucket) : b ∈ all := by
  cases b <;> decide

theorem nodup_all : all.Nodup := by decide

end Bucket

namespace FieldTable

/-- Setting a name brings in no other entry. -/
theorem mem_of_mem_set {name value : Text} {e : Text × Text} {entries : List (Text × Text)}
    (h : e ∈ set name value entries) : e ∈ entries ∨ e = (name, value) := by
  induction entries with
  | nil => exact Or.inr (List.mem_singleton.1 h)
  | cons entry rest ih =>
    rw [set] at h
    split at h
    next =>
      rcases List.mem_cons.1 h with rfl | hrest
      · exact Or.inr rfl
      · exact Or.inl (List.mem_cons_of_mem _ hrest)
    next =>
      rcases List.mem_cons.1 h with rfl | hrest
      · exact Or.inl List.mem_cons_self
      · rcases ih hrest with hmem | heq
        · exact Or.inl (List.mem_cons_of_mem _ hmem)
        · exact Or.inr heq

end FieldTable

namespace Query

/-! ## Taking a query apart -/

/-- The constraints of a query, bucket by bucket. -/
def constraints (q : Query) : List Constraint :=
  Bucket.all.flatMap fun b => (q.entries b).map b.constraint

theorem mem_constraints_iff {q : Query} {k : Constraint} :
    k ∈ q.constraints ↔ ∃ b, ∃ e ∈ q.entries b, b.constraint e = k := by
  simp [constraints, Bucket.mem_all]

/-- What holds of all constraints of a query holds of the entries of all buckets. -/
theorem forall_constraints_iff {q : Query} {P : Constraint → Prop} :
    (∀ k ∈ q.constraints, P k) ↔ ∀ b, ∀ e ∈ q.entries b, P (b.constraint e) := by
  simp only [mem_constraints_iff]
  constructor
  · intro h b e he
    exact h _ ⟨b, e, he, rfl⟩
  · rintro h k ⟨b, e, he, rfl⟩
    exact h b e he

/-- Adding a constraint brings in no other. -/
theorem mem_constraints_of_mem_add {q : Query} {k k' : Constraint}
    (h : k' ∈ (q.add k).constraints) : k' ∈ q.constraints ∨ k' = k := by
  rcases mem_constraints_iff.1 h with ⟨b, e, he, rfl⟩
  by_cases hb : b = k.bucket
  · -- Values of fields are set by name; in every other bucket the entry goes to the end.
    by_cases hfields : k.bucket = .fields
    · rcases Constraint.exists_field_of_bucket hfields with ⟨name, value, rfl⟩
      subst hb
      rcases FieldTable.mem_of_mem_set he with hmem | rfl
      · exact Or.inl (mem_constraints_iff.2 ⟨.fields, e, hmem, rfl⟩)
      · exact Or.inr rfl
    · subst hb
      rw [q.entries_add hfields] at he
      rcases List.mem_append.1 he with hmem | hlast
      · exact Or.inl (mem_constraints_iff.2 ⟨k.bucket, e, hmem, rfl⟩)
      · rw [List.mem_singleton.1 hlast]
        exact Or.inr (Bucket.constraint_entry k)
  · rw [q.entries_add_of_ne hb] at he
    exact Or.inl (mem_constraints_iff.2 ⟨b, e, he, rfl⟩)

/-- Constraints other than values of fields are never lost. -/
theorem mem_constraints_add_iff {q : Query} {k k' : Constraint} (hk' : k'.bucket ≠ .fields) :
    k' ∈ (q.add k).constraints ↔ k' ∈ q.constraints ∨ k' = k := by
  constructor
  · exact mem_constraints_of_mem_add
  · rintro (hmem | rfl)
    · rcases mem_constraints_iff.1 hmem with ⟨b, e, he, rfl⟩
      rw [Bucket.bucket_constraint] at hk'
      refine mem_constraints_iff.2 ⟨b, e, ?_, rfl⟩
      by_cases hb : b = k.bucket
      · subst hb
        rw [q.entries_add hk']
        exact List.mem_append_left _ he
      · rw [q.entries_add_of_ne hb]
        exact he
    · refine mem_constraints_iff.2 ⟨k'.bucket, k'.entry, ?_, Bucket.constraint_entry k'⟩
      rw [q.entries_add hk']
      exact List.mem_append_right _ (List.mem_singleton.2 rfl)

/-- The constraints that are added one after the other are those of the query that is made. -/
theorem mem_constraints_of_mem_foldl {found : List (Option Constraint)} {q : Query}
    {k : Constraint} (h : k ∈ (found.foldl addOption q).constraints) :
    k ∈ q.constraints ∨ some k ∈ found := by
  induction found generalizing q with
  | nil => exact Or.inl h
  | cons first rest ih =>
    rcases ih h with hmem | hrest
    · cases first with
      | none => exact Or.inl hmem
      | some k' =>
        rcases mem_constraints_of_mem_add hmem with hold | rfl
        · exact Or.inl hold
        · exact Or.inr List.mem_cons_self
    · exact Or.inr (List.mem_cons_of_mem _ hrest)

theorem mem_constraints_foldl_iff {found : List (Option Constraint)} {q : Query}
    {k : Constraint} (hk : k.bucket ≠ .fields) :
    k ∈ (found.foldl addOption q).constraints ↔ k ∈ q.constraints ∨ some k ∈ found := by
  induction found generalizing q with
  | nil => simp
  | cons first rest ih =>
    rw [List.foldl_cons, ih]
    cases first with
    | none => simp [addOption]
    | some k' => simp [addOption, mem_constraints_add_iff hk, or_assoc]

/-! ## Building a query up -/

theorem entries_add_constraint (q : Query) {b : Bucket} (e : b.Entry) (hb : b ≠ .fields) :
    (q.add (b.constraint e)).entries b = q.entries b ++ [e] := by
  cases b with
  | fields => exact absurd rfl hb
  | _ => rfl

/-- The entries of one bucket, added one after the other, go to the end of that bucket. -/
theorem entries_foldl_map (q : Query) {b : Bucket} (hb : b ≠ .fields) (es : List b.Entry) :
    ((es.map b.constraint).foldl add q).entries b = q.entries b ++ es := by
  induction es generalizing q with
  | nil => simp
  | cons e es ih =>
    rw [List.map_cons, List.foldl_cons, ih, entries_add_constraint q e hb, List.append_assoc]
    rfl

theorem entries_foldl_map_of_ne (q : Query) {b b' : Bucket} (hb : b' ≠ b) (es : List b.Entry) :
    ((es.map b.constraint).foldl add q).entries b' = q.entries b' := by
  induction es generalizing q with
  | nil => rfl
  | cons e es ih =>
    have hne : b' ≠ (b.constraint e).bucket := by
      rw [Bucket.bucket_constraint]
      exact hb
    rw [List.map_cons, List.foldl_cons, ih, entries_add_of_ne q hne]

theorem fieldSearches_foldl_map (q : Query) (es : List (Text × Text)) :
    ((es.map fun e => Constraint.field e.1 e.2).foldl add q).fieldSearches =
      q.fieldSearches.insertAll es := by
  induction es generalizing q with
  | nil => rfl
  | cons e es ih => exact ih (q.add (.field e.1 e.2))

/-- The entries of one bucket of a query are built up in a query where that bucket is empty. -/
theorem entries_foldl_entries (q : Query) {r : Query} {b : Bucket} (hr : r.entries b = []) :
    (((q.entries b).map b.constraint).foldl add r).entries b = q.entries b := by
  by_cases hb : b = .fields
  · subst hb
    have htable : r.fieldSearches = {} := FieldTable.eq_of_entries hr
    have hall := fieldSearches_foldl_map r q.fieldSearches.entries
    rw [htable] at hall
    exact congrArg FieldTable.entries (hall.trans q.fieldSearches.ofList_entries)
  · rw [entries_foldl_map r hb, hr]
    rfl

/-- A query is built from its constraints. -/
theorem foldl_constraints (q : Query) : q.constraints.foldl add {} = q := by
  -- One bucket after the other is filled; the induction is on the buckets that are still empty.
  have key : ∀ (bs : List Bucket), bs.Nodup → ∀ r : Query, (∀ b ∈ bs, r.entries b = []) → ∀ b,
      ((bs.flatMap fun b => (q.entries b).map b.constraint).foldl add r).entries b =
        if b ∈ bs then q.entries b else r.entries b := by
    intro bs hnodup
    induction bs with
    | nil => intro r _ b; simp
    | cons first rest ih =>
      rcases List.nodup_cons.1 hnodup with ⟨hnot, hrest⟩
      intro r hr b
      have hempty : ∀ b ∈ rest,
          (((q.entries first).map first.constraint).foldl add r).entries b = [] := by
        intro b hb
        have hne : b ≠ first := fun heq => hnot (heq ▸ hb)
        rw [entries_foldl_map_of_ne r hne]
        exact hr b (List.mem_cons_of_mem _ hb)
      rw [List.flatMap_cons, List.foldl_append, ih hrest _ hempty]
      by_cases hb : b = first
      · subst hb
        rw [if_neg hnot, if_pos List.mem_cons_self]
        exact entries_foldl_entries q (hr b List.mem_cons_self)
      · rw [entries_foldl_map_of_ne r hb]
        simp [hb]
  apply eq_of_entries
  intro b
  have hentries := key Bucket.all Bucket.nodup_all {} (fun b _ => by cases b <;> rfl) b
  rw [if_pos b.mem_all] at hentries
  exact hentries

end Query

end CardQuery
