import CardQuery.Proofs.Clause.Means
import CardQuery.Proofs.Property.Reading

/-!
# The parts of an expression

An expression about a property has three parts: a name, a comparator and a value.  No expression has
them in two ways, reading finds them, and what has no such parts is refused as a whole.

Main results:

- `Comparator.mem_symbols_iff` says that the six symbols are the comparators as they are written.
- `read_eq_ok_iff_parts` says that the filter that is read is made of the parts of the expression.
- `constraint_property_error` says how a clause is refused whose expression cannot be read.
- `read_parts` says that reading and writing are inverse to each other.
-/

namespace CardQuery

namespace Comparator

/-- The six comparators as they are written. -/
def symbols : List Text :=
  ["=".toList, "!=".toList, ">".toList, "<".toList, ">=".toList, "<=".toList]

theorem mem_symbols_iff {t : Text} : t ∈ symbols ↔ ∃ k : Comparator, k.symbol = t := by
  constructor
  · intro h
    simp only [symbols, List.mem_cons, List.not_mem_nil, or_false] at h
    rcases h with rfl | rfl | rfl | rfl | rfl | rfl
    · exact ⟨.eq, rfl⟩
    · exact ⟨.ne, rfl⟩
    · exact ⟨.gt, rfl⟩
    · exact ⟨.lt, rfl⟩
    · exact ⟨.ge, rfl⟩
    · exact ⟨.le, rfl⟩
  · rintro ⟨k, rfl⟩
    cases k <;> decide

theorem symbol_inj {k l : Comparator} : k.symbol = l.symbol ↔ k = l := by
  constructor
  · intro h
    have hfound := congrArg ofSymbol? h
    rw [ofSymbol?_symbol, ofSymbol?_symbol] at hfound
    exact Option.some.inj hfound
  · exact congrArg symbol

end Comparator

namespace PropertyFilter

/-- An expression in three parts: an identifier, a comparator, and a value that is not empty and does
not go on with a character of a comparator. -/
structure Parts (expression name symbol value : Text) : Prop where
  eq_append : expression = name ++ symbol ++ value
  name : name.Identifier
  symbol : symbol ∈ Comparator.symbols
  value_ne_nil : value ≠ []
  value_head : ∀ c ∈ value.head?, c ∉ ['=', '!', '<', '>']

/-- The filter that is read is made of the parts of the expression. -/
theorem read_eq_ok_iff_parts {expression : Text} {f : PropertyFilter} :
    read false expression = .ok f ↔
      Parts expression f.property f.comparator.symbol f.value := by
  rw [read_lenient, readLenient_eq_ok_iff]
  constructor
  · rintro ⟨hwritten, hname, hne, hhead⟩
    exact ⟨hwritten, hname, Comparator.mem_symbols_iff.2 ⟨_, rfl⟩, hne, hhead⟩
  · rintro ⟨hwritten, hname, -, hne, hhead⟩
    exact ⟨hwritten, hname, hne, hhead⟩

/-- The parts of an expression are those of the filter that is read from it. -/
theorem exists_read_of_parts {expression name symbol value : Text}
    (h : Parts expression name symbol value) :
    ∃ k : Comparator, k.symbol = symbol ∧ read false expression = .ok ⟨name, k, value⟩ := by
  obtain ⟨k, rfl⟩ := Comparator.mem_symbols_iff.1 h.symbol
  exact ⟨k, rfl, read_eq_ok_iff_parts.2 h⟩

/-- No expression has parts in two ways, since reading finds one filter only. -/
theorem Parts.unique {expression name symbol value name' symbol' value' : Text}
    (h : Parts expression name symbol value) (h' : Parts expression name' symbol' value') :
    name = name' ∧ symbol = symbol' ∧ value = value' := by
  obtain ⟨k, rfl, hread⟩ := exists_read_of_parts h
  obtain ⟨k', rfl, hread'⟩ := exists_read_of_parts h'
  have hsame := Except.ok.inj (hread.symm.trans hread')
  rw [PropertyFilter.mk.injEq] at hsame
  obtain ⟨hname, hcomparator, hvalue⟩ := hsame
  exact ⟨hname, Comparator.symbol_inj.2 hcomparator, hvalue⟩

/-- A clause whose expression cannot be read is refused for the expression. -/
theorem constraint_property_error {strict : Bool} {expression : Text} {cause : PropertyFault}
    (h : read strict expression = .error cause) (source : Text) (negated : Bool) :
    Clause.constraint strict source ⟨negated, Topic.property.keyword ++ expression⟩ =
      .error ⟨source, .invalidProperty expression cause⟩ := by
  have hrefused : Clause.Refused strict ⟨negated, Topic.property.keyword ++ expression⟩
      (.invalidProperty expression cause) :=
    .property (Topic.read?_keyword .property expression) h
  exact Clause.constraint_eq_error_iff.2 ⟨rfl, Clause.meaning_eq_error_iff.2 hrefused⟩

/-- Reading an expression and writing a filter are inverse to each other.  A filter is read exactly
from the expression that has its name, its comparator and its value as parts.  No expression has
parts in two ways, and one that has parts is read.  A clause with an expression that has none is
refused, and the refusal names the expression. -/
theorem read_parts :
    (∀ expression f, read false expression = .ok f ↔
      Parts expression f.property f.comparator.symbol f.value) ∧
    (∀ expression name symbol value name' symbol' value', Parts expression name symbol value →
      Parts expression name' symbol' value' → name = name' ∧ symbol = symbol' ∧ value = value') ∧
    (∀ expression name symbol value, Parts expression name symbol value →
      ∃ f, read false expression = .ok f ∧ f.property = name ∧ f.comparator.symbol = symbol ∧
        f.value = value ∧ f.written = expression) ∧
    (∀ f : PropertyFilter, f.Readable → read false f.written = .ok f) ∧
    ∀ expression, (∀ name symbol value, ¬Parts expression name symbol value) →
      ∃ cause, read false expression = .error cause ∧ ∀ source negated,
        Clause.constraint false source ⟨negated, Topic.property.keyword ++ expression⟩ =
          .error ⟨source, .invalidProperty expression cause⟩ := by
  refine ⟨fun _ _ => read_eq_ok_iff_parts, fun _ _ _ _ _ _ _ => Parts.unique, ?_, ?_, ?_⟩
  · intro expression name symbol value hparts
    obtain ⟨k, rfl, hread⟩ := exists_read_of_parts hparts
    exact ⟨_, hread, rfl, rfl, rfl, hparts.eq_append.symm⟩
  · intro f hreadable
    rw [read_lenient, readLenient_eq_ok_iff]
    exact ⟨rfl, hreadable⟩
  · intro expression hnone
    cases hread : read false expression with
    | ok f => exact absurd (read_eq_ok_iff_parts.1 hread) (hnone _ _ _)
    | error cause => exact ⟨cause, rfl, constraint_property_error hread⟩

end PropertyFilter

end CardQuery
