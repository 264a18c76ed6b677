import CardQuery.Proofs.Query.Rows

/-!
# Rows of fields

The row of a field shows its name and the literal of its value, each escaped by itself.  Neither of
them holds a tag, but a name that leaves a tag open makes one together with a value whose first
bracket closes it.

Main results:

- `Row.exists_tag_ofField_iff` says which names and values make a tag together.
- `Query.tagged_fieldRows_iff` says which rows of fields have tags.
-/

namespace CardQuery

open Markup

/-- The literal of a text closes a tag exactly if the text does. -/
theorem closesTag_behind_inside {lead t : Text} (h : ∀ c ∈ lead, isInside c = true) :
    ClosesTag (lead ++ escape t.literal) ↔ ClosesTag t := by
  rw [closesTag_iff, closesTag_iff, brackets_append, brackets_eq_nil_iff.2 h, brackets_escape,
    brackets_literal, List.nil_append]

/-- The row of a field has a tag exactly if its name leaves one open and the first bracket of its
value closes it. -/
theorem Row.exists_tag_ofField_iff {name value : Text} :
    (∃ inner, ActiveTag (ofField name value).markup inner) ↔ OpensTag name ∧ ClosesTag value := by
  have hinside : ∀ c ∈ " contains ".toList, isInside c = true :=
    brackets_eq_nil_iff.1 (by decide)
  have hsecond : ∀ odd inner, ¬TagFrom odd (" contains ".toList ++ escape value.literal) inner := by
    intro odd inner h
    -- The blank at the end of the fixed text ends every run of backslashes.
    have hbehind : TagFrom false (escape value.literal) inner :=
      (tagFrom_append_of_inside hinside odd _).1 h
    exact not_activeTag_escape value.literal inner (activeTag_iff.2 hbehind)
  have hsplit : (ofField name value).markup =
      escape name ++ (" contains ".toList ++ escape value.literal) := List.append_assoc _ _ _
  have hblank : ∀ c ∈ (" contains ".toList ++ escape value.literal).head?,
      isTagStart c = false := by
    intro c hc
    obtain rfl : ' ' = c := Option.some.inj hc
    decide
  rw [hsplit, exists_activeTag_append_iff (not_activeTag_escape name) hsecond hblank,
    opensTag_escape, closesTag_behind_inside hinside]

namespace Query

/-- The rows of the fields of a query. -/
def fieldRows (q : Query) : List Row := q.rows.filter fun row => row.bucket = "field".toList

/-- There is one row for each field that is asked for a value, in order. -/
theorem fieldRows_eq (q : Query) :
    q.fieldRows = q.fieldSearches.entries.map fun entry => Row.ofField entry.1 entry.2 := by
  rw [fieldRows, rows_filter q fun bucket => bucket = "field".toList]
  simp

/-- The rows of fields that have a tag, in which a part of the name and of the value would be
hidden: those of a name that leaves a tag open and a value whose first bracket closes it. -/
theorem tagged_fieldRows_iff (q : Query) (row : Row) :
    (row ∈ q.fieldRows ∧ ∃ inner, ActiveTag row.markup inner) ↔
      ∃ name value, (name, value) ∈ q.fieldSearches.entries ∧ OpensTag name ∧ ClosesTag value ∧
        row = Row.ofField name value := by
  rw [fieldRows_eq, List.mem_map]
  constructor
  · rintro ⟨⟨⟨name, value⟩, hentry, rfl⟩, htag⟩
    obtain ⟨hopens, hcloses⟩ := Row.exists_tag_ofField_iff.1 htag
    exact ⟨name, value, hentry, hopens, hcloses, rfl⟩
  · rintro ⟨name, value, hentry, hopens, hcloses, rfl⟩
    exact ⟨⟨(name, value), hentry, rfl⟩, Row.exists_tag_ofField_iff.2 ⟨hopens, hcloses⟩⟩

/-- The rows of fields are not all without tags. -/
theorem not_forall_fieldRows_untagged :
    ¬∀ q : Query, ∀ row ∈ q.fieldRows, ∀ inner, ¬ActiveTag row.markup inner := by
  intro hall
  have hopens : OpensTag "[a".toList := ⟨[], ['a'], rfl, by decide, by decide⟩
  have hcloses : ClosesTag "]".toList := ⟨[], [], rfl, nofun⟩
  obtain ⟨inner, htag⟩ := Row.exists_tag_ofField_iff.2 ⟨hopens, hcloses⟩
  refine hall { fieldSearches := .ofList [("[a".toList, "]".toList)] } _ ?_ inner htag
  rw [fieldRows_eq]
  exact List.mem_singleton_self _

end Query

end CardQuery
