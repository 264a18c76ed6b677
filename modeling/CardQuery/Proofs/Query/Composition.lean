import CardQuery.Proofs.Clause.Writing
import CardQuery.Proofs.Query.Compilation
import CardQuery.Proofs.Query.Merge

/-!
# Queries put together

Two queries with blanks between them, or with the joining word between them, ask for what each of
them asks for: their clauses are found one after the other, and the constraints of the second are
added behind those of the first.

Main results:

- `Clause.split_andWord` says that the joining word has no clauses.
- `Query.compile_joined` says that two queries put together are compiled to their merged
  constraints.
-/

namespace CardQuery

namespace Clause

/-- The joining word has no clauses. -/
theorem split_andWord {word : Text} (h : IsAndWord word) : split word = .ok [] := by
  have hjoins : isAnd ⟨false, word⟩ = true := isAnd_eq_true_iff.2 ⟨rfl, h⟩
  have hne : word ≠ [] := by
    rcases h with ⟨x, _, y, _, z, _, rfl⟩
    exact List.cons_ne_nil _ _
  have hhead : word.head? ≠ some '-' := by
    intro hminus
    exact (h.plain '-' (List.mem_of_mem_head? hminus)).1 rfl
  have hscan := scanAll_word hne hhead fun c hc => (h.plain c hc).2
  exact split_eq_ok_iff.2 ⟨_, hscan, by simp [hjoins]⟩

end Clause

namespace Query

/-! ## Constraints of queries put together -/

/-- Two queries put together are compiled to their merged constraints. -/
theorem compile_append {strict : Bool} {a b : Text} {qa qb : Query} (g : Clause.Gap)
    (ha : compile ⟨strict, none⟩ a = .ok qa) (hb : compile ⟨strict, none⟩ b = .ok qb) :
    compile ⟨strict, none⟩ (a ++ g.run ++ b) = .ok (qa.merge qb) := by
  rw [compile_eq_ok_iff] at ha hb ⊢
  rcases ha with ⟨_, clausesA, foundA, hsplitA, hmeaningA, rfl⟩
  rcases hb with ⟨_, clausesB, foundB, hsplitB, hmeaningB, rfl⟩
  refine ⟨nofun, clausesA ++ clausesB, foundA ++ foundB, Clause.split_append g hsplitA hsplitB,
    ?_, ?_⟩
  · rw [List.map_append, List.map_append, hmeaningA, hmeaningB]
  · rw [List.foldl_append]
    exact (foldl_addOption foundB _).symm

/-- The joining word is compiled to no constraints. -/
theorem compile_andWord (strict : Bool) {word : Text} (h : Clause.IsAndWord word) :
    compile ⟨strict, none⟩ word = .ok {} := by
  rw [compile_eq_ok_iff]
  exact ⟨nofun, [], [], Clause.split_andWord h, rfl, rfl⟩

/-- Two accepted queries may be put together with blanks between them, or with the joining word
between blanks: the result is accepted and compiled to the merged constraints.  Every list of the
first is followed by that of the second; a field name of the first keeps its place and takes the
value of the second if it has one, and the other names of the second come behind. -/
theorem compile_joined {strict : Bool} {a b word : Text} {qa qb : Query}
    (ha : compile ⟨strict, none⟩ a = .ok qa) (hb : compile ⟨strict, none⟩ b = .ok qb)
    (hword : Clause.IsAndWord word) (g g₁ g₂ : Clause.Gap) :
    compile ⟨strict, none⟩ (a ++ g.run ++ b) = .ok (qa.merge qb) ∧
      compile ⟨strict, none⟩ (a ++ g₁.run ++ word ++ g₂.run ++ b) = .ok (qa.merge qb) ∧
      (qa.merge qb).fieldSearches.entries =
        qa.fieldSearches.entries.map
            (fun e => (e.1, (qb.fieldSearches.entries.lookup e.1).getD e.2)) ++
          qb.fieldSearches.entries.filter fun e => e.1 ∉ qa.fieldSearches.names := by
  refine ⟨compile_append g ha hb, ?_, FieldTable.entries_insertAll _ _⟩
  have hleft := compile_append g₁ ha (compile_andWord strict hword)
  rw [merge_empty] at hleft
  exact compile_append g₂ hleft hb

/-- A phrase and a field, joined to a tag that is left out and the same field with another
value. -/
theorem compile_joined_fields :
    compile ⟨false, none⟩ ("\"x y\" front:1".toList ++ ['\t'] ++ "aNd".toList ++ ['\n', ' '] ++
        "-tag:z front:2".toList) =
      .ok { textSearches := [{ text := "x y".toList, isExact := true }]
            tagsExclude := ["z".toList]
            fieldSearches := { entries := [("front".toList, "2".toList)] } } :=
  (@compile_joined false "\"x y\" front:1".toList "-tag:z front:2".toList "aNd".toList
    { textSearches := [{ text := "x y".toList, isExact := true }]
      fieldSearches := { entries := [("front".toList, "1".toList)] } }
    { tagsExclude := ["z".toList]
      fieldSearches := { entries := [("front".toList, "2".toList)] } }
    (by decide +kernel) (by decide +kernel) (by decide +kernel)
    ⟨[' '], by decide, by decide⟩ ⟨['\t'], by decide, by decide⟩
    ⟨['\n', ' '], by decide, by decide⟩).2.1

end Query

end CardQuery
