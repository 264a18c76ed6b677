import CardQuery.Query
import Mathlib.Data.List.Basic

/-!
# Merged queries

Two queries are merged by putting the constraints of the second behind those of the first.  In the
table of field values a name of the second query that the first one has too takes the new value
and keeps its old place.

Main results:

- `FieldTable.entries_insertAll` says where every entry of two merged tables stands and which value
  it has.
- `FieldTable.insertAll_insert` says that setting one more value can be done before or after
  merging.
- `merge_assoc`, `merge_empty` and `empty_merge` say that merging is associative and has the query
  without constraints as its unit.
- `foldl_addOption` says that adding constraints to a query merges it with their own query.
-/

namespace CardQuery

namespace FieldTable

/-! ## One value set after another -/

theorem eq_of_entries {a b : FieldTable} (h : a.entries = b.entries) : a = b := by
  cases a
  cases b
  simp_all

/-- Of two values set for one name the later one stays. -/
theorem set_set_same (name old new : Text) (entries : List (Text × Text)) :
    set name new (set name old entries) = set name new entries := by
  induction entries with
  | nil => simp [set]
  | cons entry rest ih =>
    by_cases h : entry.1 = name
    · simp [set, h]
    · simp [set, h, ih]

/-- A name that has a place keeps it, whether another name is set before or after it. -/
theorem set_set_comm {m n : Text} (hne : m ≠ n) (u v : Text) {entries : List (Text × Text)}
    (hmem : n ∈ entries.map Prod.fst) :
    set n v (set m u entries) = set m u (set n v entries) := by
  induction entries with
  | nil => cases hmem
  | cons entry rest ih =>
    by_cases hm : entry.1 = m
    · have hn : entry.1 ≠ n := hm ▸ hne
      simp [set, hm, hne]
    · by_cases hn : entry.1 = n
      · have hnm : ¬n = m := fun heq => hne heq.symm
        simp [set, hn, hnm]
      · have hrest : n ∈ rest.map Prod.fst := by
          rcases List.mem_cons.1 hmem with heq | hrest
          · exact absurd heq.symm hn
          · exact hrest
        simp [set, hm, hn, ih hrest]

/-- Setting a name changes the value at its place and no other, or adds a place at the end. -/
theorem set_eq (name value : Text) {entries : List (Text × Text)}
    (hnodup : (entries.map Prod.fst).Nodup) :
    set name value entries =
      entries.map (fun e => (e.1, if e.1 = name then value else e.2)) ++
        if name ∈ entries.map Prod.fst then [] else [(name, value)] := by
  induction entries with
  | nil => rfl
  | cons entry rest ih =>
    rcases List.nodup_cons.1 hnodup with ⟨hnot, hrest⟩
    by_cases h : entry.1 = name
    · have hsame : rest.map (fun e => (e.1, if e.1 = name then value else e.2)) = rest := by
        conv_rhs => rw [← List.map_id rest]
        apply List.map_congr_left
        intro e he
        have hne : e.1 ≠ name := by
          intro heq
          exact hnot (h ▸ heq ▸ List.mem_map_of_mem he)
        rw [if_neg hne, id]
      simp [set, h, hsame]
    · have hmem : name ∈ (entry :: rest).map Prod.fst ↔ name ∈ rest.map Prod.fst := by
        simp [Ne.symm h]
      rw [set, if_neg h, ih hrest, List.map_cons, if_neg h, List.cons_append]
      simp only [hmem]

theorem names_insert (t : FieldTable) (name value : Text) :
    (t.insert name value).names = if name ∈ t.names then t.names else t.names ++ [name] :=
  names_set name value t.entries

theorem mem_names_insert {t : FieldTable} {name m u : Text} :
    name ∈ (t.insert m u).names ↔ name ∈ t.names ∨ name = m := by
  rw [names_insert]
  split
  next hmem =>
    constructor
    · exact Or.inl
    · rintro (hname | rfl)
      · exact hname
      · exact hmem
  next => simp

/-! ## Merged tables -/

@[simp] theorem insertAll_nil (t : FieldTable) : t.insertAll [] = t := rfl

theorem insertAll_cons (t : FieldTable) (entry : Text × Text) (rest : List (Text × Text)) :
    t.insertAll (entry :: rest) = (t.insert entry.1 entry.2).insertAll rest := rfl

/-- A name that has a place can be set before or after others. -/
theorem insert_insertAll {t : FieldTable} {name : Text} (value : Text)
    (hmem : name ∈ t.names) {entries : List (Text × Text)}
    (hnot : name ∉ entries.map Prod.fst) :
    (t.insertAll entries).insert name value = (t.insert name value).insertAll entries := by
  induction entries generalizing t with
  | nil => rfl
  | cons entry rest ih =>
    rw [List.map_cons, List.mem_cons, not_or] at hnot
    rcases hnot with ⟨hne, hnot⟩
    have hmem' : name ∈ (t.insert entry.1 entry.2).names := mem_names_insert.2 (Or.inl hmem)
    have hswap : (t.insert entry.1 entry.2).insert name value =
        (t.insert name value).insert entry.1 entry.2 :=
      eq_of_entries (set_set_comm (Ne.symm hne) _ _ hmem)
    rw [insertAll_cons, insertAll_cons, ih hmem' hnot, hswap]

/-- Setting one more value can be done before or after a table is merged into another. -/
theorem insertAll_insert (a b : FieldTable) (name value : Text) :
    (a.insertAll b.entries).insert name value = a.insertAll (b.insert name value).entries := by
  have key : ∀ (entries : List (Text × Text)), (entries.map Prod.fst).Nodup → ∀ t : FieldTable,
      (t.insertAll entries).insert name value = t.insertAll (set name value entries) := by
    intro entries hnodup
    induction entries with
    | nil => exact fun t => rfl
    | cons entry rest ih =>
      intro t
      rcases List.nodup_cons.1 hnodup with ⟨hnot, hrest⟩
      by_cases h : entry.1 = name
      · subst h
        have hmem : entry.1 ∈ (t.insert entry.1 entry.2).names := mem_names_insert.2 (Or.inr rfl)
        have hlast : (t.insert entry.1 entry.2).insert entry.1 value = t.insert entry.1 value :=
          eq_of_entries (set_set_same _ _ _ _)
        rw [insertAll_cons, insert_insertAll value hmem hnot, hlast, set, if_pos rfl,
          insertAll_cons]
      · rw [insertAll_cons, ih hrest, set, if_neg h, insertAll_cons]
  exact key b.entries b.nodup a

/-- Merging tables is associative. -/
theorem insertAll_insertAll (a b : FieldTable) (entries : List (Text × Text)) :
    (a.insertAll b.entries).insertAll entries = a.insertAll (b.insertAll entries).entries := by
  induction entries generalizing b with
  | nil => rfl
  | cons entry rest ih =>
    rw [insertAll_cons, insertAll_insert, ih, insertAll_cons]

/-- Values that are looked up in `rest`, or in `rest` with one entry in front, are the same in a
table in which that entry has been set. -/
theorem map_entries_insert (t : FieldTable) {name : Text} (value : Text)
    {rest : List (Text × Text)} (hnot : name ∉ rest.map Prod.fst) :
    (t.insert name value).entries.map (fun e => (e.1, (rest.lookup e.1).getD e.2)) =
      t.entries.map (fun e => (e.1, (((name, value) :: rest).lookup e.1).getD e.2)) ++
        if name ∈ t.names then [] else [(name, value)] := by
  have hnone : rest.lookup name = none := by
    rw [List.lookup_eq_none_iff]
    intro e he
    have hne : name ≠ e.1 := by
      rintro rfl
      exact hnot (List.mem_map_of_mem he)
    simpa using hne
  have hentries : (t.insert name value).entries =
      t.entries.map (fun e => (e.1, if e.1 = name then value else e.2)) ++
        if name ∈ t.names then [] else [(name, value)] := set_eq name value t.nodup
  rw [hentries, List.map_append, List.map_map]
  congr 1
  · apply List.map_congr_left
    intro e _
    by_cases he : e.1 = name
    · simp [he, hnone]
    · have hbeq : (e.1 == name) = false := by simpa using he
      simp [he, List.lookup_cons, hbeq]
  · by_cases hmem : name ∈ t.names <;> simp [hmem, hnone]

/-- Other entries are new to a table in which one entry has been set if they are new to the
table. -/
theorem filter_names_insert (t : FieldTable) {name : Text} (value : Text)
    {rest : List (Text × Text)} (hnot : name ∉ rest.map Prod.fst) :
    (rest.filter fun e => e.1 ∉ (t.insert name value).names) =
      rest.filter fun e => e.1 ∉ t.names := by
  apply List.filter_congr
  intro e he
  have hne : e.1 ≠ name := by
    rintro rfl
    exact hnot (List.mem_map_of_mem he)
  simp [mem_names_insert, hne]

/-- Where the entries of two merged tables stand: the names of the first keep their places and
take the value of the second if it has one, and the other names of the second come behind. -/
theorem entries_insertAll (a b : FieldTable) :
    (a.insertAll b.entries).entries =
      a.entries.map (fun e => (e.1, (b.entries.lookup e.1).getD e.2)) ++
        b.entries.filter fun e => e.1 ∉ a.names := by
  have key : ∀ (entries : List (Text × Text)), (entries.map Prod.fst).Nodup → ∀ t : FieldTable,
      (t.insertAll entries).entries =
        t.entries.map (fun e => (e.1, (entries.lookup e.1).getD e.2)) ++
          entries.filter fun e => e.1 ∉ t.names := by
    intro entries hnodup
    induction entries with
    | nil => intro t; simp
    | cons entry rest ih =>
      intro t
      rcases entry with ⟨name, value⟩
      rcases List.nodup_cons.1 hnodup with ⟨hnot, hrest⟩
      rw [insertAll_cons, ih hrest, map_entries_insert t value hnot,
        filter_names_insert t value hnot, List.append_assoc]
      congr 1
      by_cases hmem : name ∈ t.names <;> simp [hmem]
  exact key b.entries b.nodup a

/-- The table of its own entries is the table. -/
theorem ofList_entries (t : FieldTable) : ofList t.entries = t := by
  apply eq_of_entries
  rw [ofList, entries_insertAll]
  simp [names]

end FieldTable

namespace Query

/-! ## Merging -/

@[simp] theorem merge_empty (q : Query) : q.merge {} = q := by
  simp [merge]

@[simp] theorem empty_merge (q : Query) : merge {} q = q := by
  have htable : FieldTable.insertAll {} q.fieldSearches.entries = q.fieldSearches :=
    q.fieldSearches.ofList_entries
  simp [merge, htable]

theorem merge_assoc (a b c : Query) : (a.merge b).merge c = a.merge (b.merge c) := by
  simp [merge, FieldTable.insertAll_insertAll]

/-- Adding a constraint merges a query with that of the constraint alone. -/
theorem add_eq_merge (q : Query) (c : Constraint) : q.add c = q.merge (add {} c) := by
  cases c with
  | text search => simp [add, merge]
  | deck negated name => cases negated <;> simp [add, merge]
  | tag negated name => cases negated <;> simp [add, merge]
  | field name value => simp [add, merge]; rfl
  | state negated name => cases negated <;> simp [add, merge]
  | flag negated number => cases negated <;> simp [add, merge]
  | property filter => simp [add, merge]

/-- Adding the constraint of a clause merges a query with that of the clause alone. -/
theorem addOption_eq_merge (q : Query) (found : Option Constraint) :
    q.addOption found = q.merge (addOption {} found) := by
  cases found with
  | none => simp [addOption]
  | some c => exact add_eq_merge q c

/-- Adding constraints in order merges a query with the query of these constraints. -/
theorem foldl_addOption (found : List (Option Constraint)) (q : Query) :
    found.foldl addOption q = q.merge (found.foldl addOption {}) := by
  induction found generalizing q with
  | nil => simp
  | cons first rest ih =>
    rw [List.foldl_cons, List.foldl_cons, ih, ih (addOption {} first), addOption_eq_merge q,
      merge_assoc]

theorem foldl_add (ks : List Constraint) (q : Query) :
    ks.foldl add q = q.merge (ks.foldl add {}) := by
  have hsome : ∀ r : Query, (ks.map some).foldl addOption r = ks.foldl add r :=
    fun r => List.foldl_map
  rw [← hsome, ← hsome, foldl_addOption]

end Query

end CardQuery
