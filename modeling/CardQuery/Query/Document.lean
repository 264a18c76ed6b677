import CardQuery.Json
import CardQuery.Query

/-!
# The JSON form of a query

A query as a JSON object with one member for each kind of constraint, and back.  When an object is
read, a missing member stands for no constraint of its kind and a missing property of a text
search for its default.

Main results:

- `TextSearch.ofJson?_toJson` and `PropertyFilter.ofJson?_toJson` say that text searches and
  property filters are read back from their JSON form.
-/

namespace CardQuery

namespace Json

/-! ## Members of known kinds -/

/-- The text of a member, or `default` if there is no such member. -/
def textMember? (name : Text) (default : Text) (members : List (Text × Json)) : Option Text :=
  match member? name members with
  | none => some default
  | some (.string t) => some t
  | some _ => none

/-- The truth value of a member, false if there is no such member. -/
def boolMember? (name : Text) (members : List (Text × Json)) : Option Bool :=
  match member? name members with
  | none => some false
  | some (.bool b) => some b
  | some _ => none

/-- The items of a member, read by `item?`; none if there is no such member. -/
def listMember? {α : Type} (item? : Json → Option α) (name : Text)
    (members : List (Text × Json)) : Option (List α) :=
  match member? name members with
  | none => some []
  | some (.array items) => items.mapM item?
  | some _ => none

/-- The text that a value is. -/
def text? : Json → Option Text
  | string t => some t
  | _ => none

/-- The integer that a value is. -/
def integer? : Json → Option Int
  | integer n => some n
  | _ => none

end Json

/-! ## Text searches and property filters -/

namespace TextSearch

/-- The JSON form of a text search. -/
def toJson (s : TextSearch) : Json :=
  .object
    [("text".toList, .string s.text),
     ("field".toList, .string s.field),
     ("is_exact".toList, .bool s.isExact),
     ("is_wildcard".toList, .bool s.isWildcard),
     ("is_regex".toList, .bool s.isRegex),
     ("is_no_combining".toList, .bool s.isNoCombining),
     ("is_word_boundary".toList, .bool s.isWordBoundary),
     ("is_negated".toList, .bool s.isNegated)]

/-- The text search with the given JSON form. -/
def ofJson? : Json → Option TextSearch
  | .object members => do
    let text ← (Json.member? "text".toList members).bind Json.text?
    let field ← Json.textMember? "field".toList [] members
    let isExact ← Json.boolMember? "is_exact".toList members
    let isWildcard ← Json.boolMember? "is_wildcard".toList members
    let isRegex ← Json.boolMember? "is_regex".toList members
    let isNoCombining ← Json.boolMember? "is_no_combining".toList members
    let isWordBoundary ← Json.boolMember? "is_word_boundary".toList members
    let isNegated ← Json.boolMember? "is_negated".toList members
    some
      ⟨text, field, isExact, isWildcard, isRegex, isNoCombining, isWordBoundary, isNegated⟩
  | _ => none

/-- A text search is read back from its JSON form. -/
@[simp] theorem ofJson?_toJson (s : TextSearch) : ofJson? s.toJson = some s := by
  simp [toJson, ofJson?, Json.member?, Json.textMember?, Json.boolMember?, Json.text?]

end TextSearch

namespace PropertyFilter

/-- The JSON form of a property filter. -/
def toJson (f : PropertyFilter) : Json :=
  .object
    [("property".toList, .string f.property),
     ("operator".toList, .string f.comparator.symbol),
     ("value".toList, .string f.value)]

/-- The property filter with the given JSON form. -/
def ofJson? : Json → Option PropertyFilter
  | .object members => do
    let property ← (Json.member? "property".toList members).bind Json.text?
    let symbol ← (Json.member? "operator".toList members).bind Json.text?
    let comparator ← Comparator.ofSymbol? symbol
    let value ← (Json.member? "value".toList members).bind Json.text?
    some ⟨property, comparator, value⟩
  | _ => none

/-- A property filter is read back from its JSON form. -/
@[simp] theorem ofJson?_toJson (f : PropertyFilter) : ofJson? f.toJson = some f := by
  simp only [toJson, ofJson?]
  rw [Json.member?_cons_self, Json.member?_cons_of_ne (by decide), Json.member?_cons_self,
    Json.member?_cons_of_ne (by decide), Json.member?_cons_of_ne (by decide),
    Json.member?_cons_self]
  simp [Json.text?]

end PropertyFilter

/-! ## Queries -/

namespace Query

/-- The JSON form of a list of texts. -/
def textsToJson (texts : List Text) : Json := .array (texts.map .string)

/-- The JSON form of a table of fields: an object with the names in order. -/
def fieldsToJson (table : FieldTable) : Json :=
  .object (table.entries.map fun entry => (entry.1, .string entry.2))

/-- The members of the JSON form of a query. -/
def toMembers (q : Query) : List (Text × Json) :=
  [("text_searches".toList, .array (q.textSearches.map TextSearch.toJson)),
   ("decks_include".toList, textsToJson q.decksInclude),
   ("decks_exclude".toList, textsToJson q.decksExclude),
   ("tags_include".toList, textsToJson q.tagsInclude),
   ("tags_exclude".toList, textsToJson q.tagsExclude),
   ("field_searches".toList, fieldsToJson q.fieldSearches),
   ("states".toList, textsToJson q.states),
   ("states_exclude".toList, textsToJson q.statesExclude),
   ("flags".toList, .array (q.flags.map .integer)),
   ("flags_exclude".toList, .array (q.flagsExclude.map .integer)),
   ("property_filters".toList, .array (q.propertyFilters.map PropertyFilter.toJson))]

/-- The JSON form of a query. -/
def toJson (q : Query) : Json := .object q.toMembers

/-- The field and its value that a member gives. -/
def fieldOfMember? (m : Text × Json) : Option (Text × Text) :=
  m.2.text?.map fun value => (m.1, value)

/-- The table of fields with the given JSON form. -/
def fieldsOfMembers? (members : List (Text × Json)) : Option FieldTable :=
  match Json.member? "field_searches".toList members with
  | none => some {}
  | some (.object fields) => (fields.mapM fieldOfMember?).map FieldTable.ofList
  | some _ => none

/-- The query with the given JSON form. -/
def ofJson? : Json → Option Query
  | .object members => do
    let textSearches ← Json.listMember? TextSearch.ofJson? "text_searches".toList members
    let decksInclude ← Json.listMember? Json.text? "decks_include".toList members
    let decksExclude ← Json.listMember? Json.text? "decks_exclude".toList members
    let tagsInclude ← Json.listMember? Json.text? "tags_include".toList members
    let tagsExclude ← Json.listMember? Json.text? "tags_exclude".toList members
    let fieldSearches ← fieldsOfMembers? members
    let states ← Json.listMember? Json.text? "states".toList members
    let statesExclude ← Json.listMember? Json.text? "states_exclude".toList members
    let flags ← Json.listMember? Json.integer? "flags".toList members
    let flagsExclude ← Json.listMember? Json.integer? "flags_exclude".toList members
    let propertyFilters ← Json.listMember? PropertyFilter.ofJson? "property_filters".toList members
    some
      ⟨textSearches, decksInclude, decksExclude, tagsInclude, tagsExclude, fieldSearches, states,
        statesExclude, flags, flagsExclude, propertyFilters⟩
  | _ => none

end Query

end CardQuery
