import CardQuery.Proofs.Json.Document
import CardQuery.Proofs.Query.Merge
import CardQuery.Proofs.Query.WellFormed
import CardQuery.Query.Document

/-!
# The JSON document of a query

The document of a query loses nothing.  It is written in ASCII, a JSON reader gets the JSON form of
the query back from it, and the query is recovered from its JSON form with all lists and the table
of fields in order.  The operator of a comparison could be any text as far as the document is
concerned: the six comparators are told apart because all texts are.  Only a query with a flag that
cannot be written has no document, and no compiled query is such.

Main results:

- `ofJson?_toJson` says that a query is recovered from its JSON form.
- `toJsonWith_inj` says that nothing is lost of comparisons with operators of any kind either.
- `exists_document?_iff` says which queries have a document.
- `document?_of_compile` says that a compiled query has one.
- `document_lossless` says that nothing is lost in it.
- `not_forall_document` gives a query that has none.
-/

namespace CardQuery

namespace Json

/-! ## Values with whole numbers -/

theorem whole_array_map {α : Type} {toJson : α → Json} (h : ∀ a, Whole (toJson a)) (as : List α) :
    Whole (array (as.map toJson)) := by
  refine Whole.array fun v hv => ?_
  obtain ⟨a, -, rfl⟩ := List.mem_map.1 hv
  exact h a

/-- Items are read back one by one. -/
theorem mapM_map {α β : Type} {item? : β → Option α} {toItem : α → β}
    (h : ∀ a, item? (toItem a) = some a) (as : List α) :
    (as.map toItem).mapM item? = some as := by
  induction as with
  | nil => rfl
  | cons a as ih => rw [List.map_cons, List.mapM_cons, h, ih]; rfl

theorem integers_array_map {α : Type} (toJson : α → Json) (as : List α) :
    (array (as.map toJson)).integers = as.flatMap fun a => (toJson a).integers := by
  rw [integers, integersOfItems_eq, List.flatMap_map]

/-- The items of a member are read back. -/
theorem listMember?_of_member {α : Type} {item? : Json → Option α} {toJson : α → Json}
    (h : ∀ a, item? (toJson a) = some a) {name : Text} {members : List (Text × Json)} {as : List α}
    (hmember : member? name members = some (array (as.map toJson))) :
    listMember? item? name members = some as := by
  rw [listMember?, hmember]
  exact mapM_map h as

end Json

namespace TextSearch

theorem whole_toJson (s : TextSearch) : s.toJson.Whole := by
  refine Json.Whole.object fun m hm => ?_
  simp only [List.mem_cons, List.not_mem_nil, or_false] at hm
  rcases hm with rfl | rfl | rfl | rfl | rfl | rfl | rfl | rfl
  all_goals first | exact Json.Whole.string _ | exact Json.Whole.bool _

end TextSearch

/-! ## Comparisons with any operator -/

/-- A comparison of a property whose operator is any text. -/
structure Comparison where
  /-- The name of the property. -/
  property : Text
  /-- The operator. -/
  operator : Text
  /-- The value to compare with. -/
  value : Text

namespace Comparison

/-- The JSON form of a comparison. -/
def toJson (c : Comparison) : Json :=
  .object
    [("property".toList, .string c.property),
     ("operator".toList, .string c.operator),
     ("value".toList, .string c.value)]

/-- A property filter as a comparison. -/
def ofFilter (f : PropertyFilter) : Comparison := ⟨f.property, f.comparator.symbol, f.value⟩

theorem toJson_inj {c d : Comparison} (h : c.toJson = d.toJson) : c = d := by
  cases c
  cases d
  simpa [toJson] using h

theorem whole_toJson (c : Comparison) : c.toJson.Whole := by
  refine Json.Whole.object fun m hm => ?_
  simp only [List.mem_cons, List.not_mem_nil, or_false] at hm
  rcases hm with rfl | rfl | rfl
  all_goals exact Json.Whole.string _

end Comparison

/-! ## Queries -/

namespace Query

/-- The JSON form of a query with the comparisons `cs` in place of its own. -/
def toJsonWith (q : Query) (cs : List Comparison) : Json :=
  .object (q.toMembers.dropLast ++
    [("property_filters".toList, .array (cs.map Comparison.toJson))])

theorem toJson_eq (q : Query) :
    q.toJson = q.toJsonWith (q.propertyFilters.map Comparison.ofFilter) := by
  rw [toJsonWith, List.map_map]
  rfl

/-- A query without its comparisons. -/
def withoutFilters (q : Query) : Query := { q with propertyFilters := [] }

theorem whole_toJsonWith (q : Query) (cs : List Comparison) : (q.toJsonWith cs).Whole := by
  have htexts : ∀ texts, Json.Whole (textsToJson texts) :=
    Json.whole_array_map Json.Whole.string
  have hfields : (fieldsToJson q.fieldSearches).Whole := by
    refine Json.Whole.object fun m hm => ?_
    obtain ⟨entry, -, rfl⟩ := List.mem_map.1 hm
    exact Json.Whole.string entry.2
  have hnumbers : ∀ numbers : List Int, Json.Whole (.array (numbers.map .integer)) :=
    Json.whole_array_map Json.Whole.integer
  have hsearches := Json.whole_array_map TextSearch.whole_toJson q.textSearches
  have hfilters := Json.whole_array_map Comparison.whole_toJson cs
  refine Json.Whole.object fun m hm => ?_
  simp only [toMembers, List.dropLast, List.cons_append, List.nil_append, List.mem_cons,
    List.not_mem_nil, or_false] at hm
  rcases hm with rfl | rfl | rfl | rfl | rfl | rfl | rfl | rfl | rfl | rfl | rfl
  all_goals first
    | exact hsearches
    | exact htexts _
    | exact hfields
    | exact hnumbers _
    | exact hfilters

theorem whole_toJson (q : Query) : q.toJson.Whole := by
  rw [toJson_eq]
  exact whole_toJsonWith q _

/-- The table of fields is read back with its names in order. -/
theorem fieldsOfMembers?_of_member {table : FieldTable} {members : List (Text × Json)}
    (h : Json.member? "field_searches".toList members = some (fieldsToJson table)) :
    fieldsOfMembers? members = some table := by
  have hentry : ∀ entry : Text × Text,
      fieldOfMember? (entry.1, Json.string entry.2) = some entry := fun _ => rfl
  have hentries := Json.mapM_map hentry table.entries
  rw [fieldsOfMembers?, h]
  simp only [fieldsToJson, hentries, Option.map_some, FieldTable.ofList_entries]

/-- A query is recovered from its JSON form. -/
theorem ofJson?_toJson (q : Query) : ofJson? q.toJson = some q := by
  have htext : ∀ t : Text, Json.text? (.string t) = some t := fun _ => rfl
  have hinteger : ∀ n : Int, Json.integer? (.integer n) = some n := fun _ => rfl
  have htexts : ∀ {name : Text} {texts : List Text},
      Json.member? name q.toMembers = some (textsToJson texts) →
        Json.listMember? Json.text? name q.toMembers = some texts :=
    fun h => Json.listMember?_of_member htext h
  have hnumbers : ∀ {name : Text} {numbers : List Int},
      Json.member? name q.toMembers = some (.array (numbers.map .integer)) →
        Json.listMember? Json.integer? name q.toMembers = some numbers :=
    fun h => Json.listMember?_of_member hinteger h
  have hsearches : Json.listMember? TextSearch.ofJson? "text_searches".toList q.toMembers =
      some q.textSearches := Json.listMember?_of_member TextSearch.ofJson?_toJson rfl
  have hfilters : Json.listMember? PropertyFilter.ofJson? "property_filters".toList q.toMembers =
      some q.propertyFilters := Json.listMember?_of_member PropertyFilter.ofJson?_toJson rfl
  have hfields : fieldsOfMembers? q.toMembers = some q.fieldSearches :=
    fieldsOfMembers?_of_member rfl
  have hdecks : Json.listMember? Json.text? "decks_include".toList q.toMembers =
      some q.decksInclude := htexts rfl
  have hdecksOut : Json.listMember? Json.text? "decks_exclude".toList q.toMembers =
      some q.decksExclude := htexts rfl
  have htags : Json.listMember? Json.text? "tags_include".toList q.toMembers =
      some q.tagsInclude := htexts rfl
  have htagsOut : Json.listMember? Json.text? "tags_exclude".toList q.toMembers =
      some q.tagsExclude := htexts rfl
  have hstates : Json.listMember? Json.text? "states".toList q.toMembers = some q.states :=
    htexts rfl
  have hstatesOut : Json.listMember? Json.text? "states_exclude".toList q.toMembers =
      some q.statesExclude := htexts rfl
  have hflags : Json.listMember? Json.integer? "flags".toList q.toMembers = some q.flags :=
    hnumbers rfl
  have hflagsOut : Json.listMember? Json.integer? "flags_exclude".toList q.toMembers =
      some q.flagsExclude := hnumbers rfl
  simp only [toJson, ofJson?, hsearches, hdecks, hdecksOut, htags, htagsOut, hfields, hstates,
    hstatesOut, hflags, hflagsOut, hfilters, Option.bind_eq_bind, Option.bind_some]

/-- A query and comparisons that have a JSON form together can be told from it. -/
theorem toJsonWith_inj {q r : Query} {cs ds : List Comparison}
    (h : q.toJsonWith cs = r.toJsonWith ds) : q.withoutFilters = r.withoutFilters ∧ cs = ds := by
  have hmembers := List.append_inj (Json.object.inj h) rfl
  have hforms : q.withoutFilters.toJson = r.withoutFilters.toJson := by
    have hparts : ∀ p : Query, p.withoutFilters.toJson = .object (p.toMembers.dropLast ++
        [("property_filters".toList, .array [])]) := fun _ => rfl
    rw [hparts, hparts, hmembers.1]
  have hcs : cs.map Comparison.toJson = ds.map Comparison.toJson := by
    simpa using hmembers.2
  constructor
  · have hsome : some q.withoutFilters = some r.withoutFilters := by
      rw [← ofJson?_toJson, ← ofJson?_toJson, hforms]
    exact Option.some.inj hsome
  · exact List.map_injective_iff.2 (fun _ _ => Comparison.toJson_inj) hcs

/-- The only integers in the JSON form of a query are its flags. -/
theorem integers_toJsonWith (q : Query) (cs : List Comparison) :
    (q.toJsonWith cs).integers = q.flags ++ q.flagsExclude := by
  have htexts : ∀ texts, (textsToJson texts).integers = [] := fun texts => by
    rw [textsToJson, Json.integers_array_map]
    simp [Json.integers]
  have hfields : (fieldsToJson q.fieldSearches).integers = [] := by
    simp [fieldsToJson, Json.integers, Json.integersOfMembers_eq, List.flatMap_map]
  have hsearches : ∀ s : TextSearch, s.toJson.integers = [] := fun s => by
    simp [TextSearch.toJson, Json.integers, Json.integersOfMembers]
  have hcs : ∀ c : Comparison, c.toJson.integers = [] := fun c => by
    simp [Comparison.toJson, Json.integers, Json.integersOfMembers]
  have hnumber : ∀ n : Int, (Json.integer n).integers = [n] := fun n => by rw [Json.integers]
  have hnone : ∀ {α : Type} (l : List α), (l.flatMap fun _ => ([] : List Int)) = [] := fun l =>
    List.flatMap_eq_nil_iff.2 fun _ _ => rfl
  rw [toJsonWith, Json.integers, Json.integersOfMembers_eq]
  simp [toMembers, htexts, hfields, Json.integers_array_map, hsearches, hcs, hnumber, hnone]

theorem exists_document?_toJsonWith_iff {q : Query} {cs : List Comparison} :
    (∃ t, (q.toJsonWith cs).document? = some t) ↔ q.HasNumerals := by
  simp only [Json.document?_eq_some_iff, integers_toJsonWith, exists_and_left, exists_eq',
    and_true]
  rfl

/-- A query has a document exactly if its flags can be written. -/
theorem exists_document?_iff {q : Query} :
    (∃ t, q.toJson.document? = some t) ↔ q.HasNumerals := by
  rw [toJson_eq]
  exact exists_document?_toJsonWith_iff

/-- A compiled query has a document. -/
theorem document?_of_compile {dialect : Dialect} {query : Text} {q : Query}
    (h : compile dialect query = .ok q) : q.toJson.document? = some q.toJson.document := by
  obtain ⟨t, ht⟩ := exists_document?_iff.2 (hasNumerals_of_compile h)
  rw [ht, (Json.document?_eq_some_iff.1 ht).2]

/-- The document of a query loses nothing.  There is one exactly if the flags can be written.  It is
ASCII and holds the JSON form of the query, from which the query is recovered, so that different
queries have different documents.  The same holds with comparisons that have any operators. -/
theorem document_lossless (q : Query) :
    ((∃ t, q.toJson.document? = some t) ↔ q.HasNumerals) ∧
      (∀ t, q.toJson.document? = some t →
        Json.Ascii t ∧ Json.read? t = some q.toJson ∧ ofJson? q.toJson = some q ∧
          ∀ r : Query, r.toJson.document? = some t → r = q) ∧
      ∀ cs : List Comparison,
        ((∃ t, (q.toJsonWith cs).document? = some t) ↔ q.HasNumerals) ∧
          ∀ t, (q.toJsonWith cs).document? = some t →
            Json.Ascii t ∧ Json.read? t = some (q.toJsonWith cs) ∧
              ∀ (r : Query) (ds : List Comparison), (r.toJsonWith ds).document? = some t →
                r.withoutFilters = q.withoutFilters ∧ ds = cs := by
  refine ⟨exists_document?_iff, ?_, fun cs => ⟨exists_document?_toJsonWith_iff, ?_⟩⟩
  · intro t ht
    have hrecovered := ofJson?_toJson q
    obtain ⟨hascii, hread⟩ := Json.of_document? q.whole_toJson ht
    refine ⟨hascii, hread, hrecovered, fun r hr => ?_⟩
    have hform := Json.document?_inj r.whole_toJson q.whole_toJson hr ht
    have hsome : some r = some q := by rw [← ofJson?_toJson r, hform, hrecovered]
    exact Option.some.inj hsome
  · intro t ht
    have hwhole := q.whole_toJsonWith cs
    obtain ⟨hascii, hread⟩ := Json.of_document? hwhole ht
    exact ⟨hascii, hread, fun r ds hr =>
      toJsonWith_inj (Json.document?_inj (r.whole_toJsonWith ds) hwhole hr ht)⟩

/-- A query with flags and a tag in quotes has a document. -/
theorem document_lossless_flags :
    let q : Query := { tagsInclude := ["\"é\"".toList], flags := [7], flagsExclude := [0] }
    q.HasNumerals ∧ ∃ t, q.toJson.document? = some t ∧ Json.Ascii t ∧
      Json.read? t = some q.toJson ∧ ∀ r : Query, r.toJson.document? = some t → r = q := by
  intro q
  have hnumerals : q.HasNumerals := by decide
  obtain ⟨hexists, hlossless, -⟩ := document_lossless q
  obtain ⟨t, ht⟩ := hexists.2 hnumerals
  obtain ⟨hascii, hread, -, hinj⟩ := hlossless t ht
  exact ⟨hnumerals, t, ht, hascii, hread, hinj⟩

/-- Not every query has a document: a flag can be too long to be written. -/
theorem not_forall_document :
    ¬∀ q : Query, ∃ t, q.toJson.document? = some t ∧ Json.Ascii t ∧
      Json.read? t = some q.toJson := by
  intro hall
  obtain ⟨t, ht, -⟩ := hall { flags := [10 ^ Text.maxNumeralDigits] }
  have hnumeral := exists_document?_iff.1 ⟨t, ht⟩ (10 ^ Text.maxNumeralDigits) (by simp)
  exact Text.not_hasNumeral_pow (le_refl Text.maxNumeralDigits) hnumeral

end Query

end CardQuery
