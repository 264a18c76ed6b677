import CardQuery.Clause.Meaning
import Mathlib.Data.List.Basic

/-!
# What clauses mean

The constraint of a clause as a relation: one rule for each topic that a clause can be about, and
one rule for each way in which a clause can be refused.  What is to be shown of the meaning of all
clauses is shown rule by rule.

Main results:

- `Topic.read?_eq_some_iff` says that a clause is about the topic whose keyword it begins with.
- `Clause.meaning_eq_ok_iff` says that a clause places a constraint exactly by one of the rules.
- `Clause.meaning_eq_error_iff` says the same of the reasons for which a clause is refused.
-/

namespace CardQuery

namespace Topic

/-- A clause that begins with the keyword of a topic is about that topic. -/
theorem read?_keyword (topic : Topic) (rest : Text) :
    read? (topic.keyword ++ rest) = some (topic, rest) := by
  cases topic <;> rfl

/-- A clause is about a topic exactly if it begins with the keyword of the topic. -/
theorem read?_eq_some_iff {text rest : Text} {topic : Topic} :
    read? text = some (topic, rest) ↔ text = topic.keyword ++ rest := by
  constructor
  · intro h
    rcases List.exists_of_findSome?_eq_some h with ⟨found, _, hfound⟩
    rcases Option.map_eq_some_iff.1 hfound with ⟨after, hafter, heq⟩
    obtain ⟨rfl, rfl⟩ := Prod.mk.inj heq
    exact Text.after?_eq_some_iff.1 hafter
  · rintro rfl
    exact read?_keyword topic rest

/-- The marks of a search for a text name no topic. -/
theorem read?_mark {mark : Text}
    (h : mark ∈ [Modifiers.regexMark, Modifiers.noCombiningMark, Modifiers.wordMark]) (t : Text) :
    read? (mark ++ t) = none := by
  simp only [List.mem_cons, List.not_mem_nil, or_false] at h
  rcases h with rfl | rfl | rfl
  · rfl
  · rfl
  · rfl

end Topic

namespace Clause

/-! ## Accepted clauses -/

/-- The constraint that a clause places, if it places one, topic by topic. -/
inductive Means (strict : Bool) (c : Clause) : Option Constraint → Prop
  | deck {rest : Text} (htopic : Topic.read? c.text = some (.deck, rest)) :
      Means strict c (named (.deck c.negated) rest)
  | tag {rest : Text} (htopic : Topic.read? c.text = some (.tag, rest)) :
      Means strict c (named (.tag c.negated) rest)
  | state {rest : Text} (htopic : Topic.read? c.text = some (.state, rest))
      (hknown : strict = true → Text.lower rest.unquote.text ∈ knownStates) :
      Means strict c (some (.state c.negated rest.unquote.text))
  | flag {rest : Text} {number : Nat} (htopic : Topic.read? c.text = some (.flag, rest))
      (hflag : readFlag rest = .ok number) :
      Means strict c (some (.flag c.negated number))
  | property {rest : Text} {filter : PropertyFilter}
      (htopic : Topic.read? c.text = some (.property, rest))
      (hread : PropertyFilter.read strict rest = .ok filter) :
      Means strict c (some (.property (if c.negated then filter.complement else filter)))
  | front {rest : Text} (htopic : Topic.read? c.text = some (.front, rest)) :
      Means strict c (fieldConstraint c.negated "front".toList rest)
  | back {rest : Text} (htopic : Topic.read? c.text = some (.back, rest)) :
      Means strict c (fieldConstraint c.negated "back".toList rest)
  | field {rest name value : Text} (htopic : Topic.read? c.text = some (.field, rest))
      (hsplit : splitField? rest = some (name, value)) (hname : name ≠ []) :
      Means strict c (fieldConstraint c.negated name value)
  | text (htopic : Topic.read? c.text = none) :
      Means strict c ((TextSearch.read? c.negated [] c.text).map .text)

/-! ## Refused clauses -/

/-- The reasons for which a clause is refused. -/
inductive Refused (strict : Bool) (c : Clause) : QueryFault → Prop
  | state {rest : Text} (htopic : Topic.read? c.text = some (.state, rest))
      (hstrict : strict = true) (hunknown : Text.lower rest.unquote.text ∉ knownStates) :
      Refused strict c (.unknownState rest.unquote.text)
  | flag {rest : Text} {fault : QueryFault} (htopic : Topic.read? c.text = some (.flag, rest))
      (hflag : readFlag rest = .error fault) :
      Refused strict c fault
  | property {rest : Text} {cause : PropertyFault}
      (htopic : Topic.read? c.text = some (.property, rest))
      (hread : PropertyFilter.read strict rest = .error cause) :
      Refused strict c (.invalidProperty rest cause)
  | unsplit {rest : Text} (htopic : Topic.read? c.text = some (.field, rest))
      (hsplit : splitField? rest = none) :
      Refused strict c (.emptyFieldName c.text)
  | unnamed {rest value : Text} (htopic : Topic.read? c.text = some (.field, rest))
      (hsplit : splitField? rest = some ([], value)) :
      Refused strict c (.emptyFieldName c.text)

/-! ## The rules and the reading -/

variable {strict : Bool} {c : Clause}

/-- A clause that is read means a constraint by one of the rules, or is refused by one of them. -/
theorem meaning_sound :
    (∀ found, c.meaning strict = .ok found → Means strict c found) ∧
      ∀ fault, c.meaning strict = .error fault → Refused strict c fault := by
  cases htopic : Topic.read? c.text with
  | none =>
    simp only [meaning, htopic]
    exact ⟨fun _ h => Except.ok.inj h ▸ .text htopic, nofun⟩
  | some cut =>
    rcases cut with ⟨topic, rest⟩
    cases topic with
    | deck =>
      simp only [meaning, htopic]
      exact ⟨fun _ h => Except.ok.inj h ▸ .deck htopic, nofun⟩
    | tag =>
      simp only [meaning, htopic]
      exact ⟨fun _ h => Except.ok.inj h ▸ .tag htopic, nofun⟩
    | state =>
      simp only [meaning, htopic]
      by_cases hknown : Text.lower rest.unquote.text ∈ knownStates
      · simp only [isKnownState, hknown, decide_true, Bool.not_true, Bool.and_false]
        exact ⟨fun _ h => Except.ok.inj h ▸ .state htopic fun _ => hknown, nofun⟩
      · cases strict with
        | false => exact ⟨fun _ h => Except.ok.inj h ▸ .state htopic nofun, nofun⟩
        | true =>
          simp only [isKnownState, hknown, decide_false, Bool.not_false, Bool.and_true, if_true]
          exact ⟨nofun, fun _ h => Except.error.inj h ▸ .state htopic rfl hknown⟩
    | flag =>
      simp only [meaning, htopic]
      cases hflag : readFlag rest with
      | error fault => exact ⟨nofun, fun _ h => Except.error.inj h ▸ .flag htopic hflag⟩
      | ok number => exact ⟨fun _ h => Except.ok.inj h ▸ .flag htopic hflag, nofun⟩
    | property =>
      simp only [meaning, htopic]
      cases hread : PropertyFilter.read strict rest with
      | error cause => exact ⟨nofun, fun _ h => Except.error.inj h ▸ .property htopic hread⟩
      | ok filter => exact ⟨fun _ h => Except.ok.inj h ▸ .property htopic hread, nofun⟩
    | front =>
      simp only [meaning, htopic]
      exact ⟨fun _ h => Except.ok.inj h ▸ .front htopic, nofun⟩
    | back =>
      simp only [meaning, htopic]
      exact ⟨fun _ h => Except.ok.inj h ▸ .back htopic, nofun⟩
    | field =>
      simp only [meaning, htopic]
      cases hsplit : splitField? rest with
      | none => exact ⟨nofun, fun _ h => Except.error.inj h ▸ .unsplit htopic hsplit⟩
      | some parts =>
        rcases parts with ⟨name, value⟩
        cases name with
        | nil => exact ⟨nofun, fun _ h => Except.error.inj h ▸ .unnamed htopic hsplit⟩
        | cons first more =>
          exact ⟨fun _ h => Except.ok.inj h ▸ .field htopic hsplit (List.cons_ne_nil _ _), nofun⟩

theorem meaning_of_means {found : Option Constraint} (h : Means strict c found) :
    c.meaning strict = .ok found := by
  cases h with
  | deck htopic | tag htopic | front htopic | back htopic | text htopic =>
    simp only [meaning, htopic]
  | @state rest htopic hknown =>
    have hpass : (strict && !isKnownState rest.unquote.text) = false := by
      cases strict with
      | false => rfl
      | true => simp [isKnownState, hknown rfl]
    simp [meaning, htopic, hpass]
  | flag htopic hflag =>
    simp only [meaning, htopic, hflag]
    rfl
  | property htopic hread => simp only [meaning, htopic, hread]
  | field htopic hsplit hname =>
    simp [meaning, htopic, hsplit, hname]

theorem meaning_of_refused {fault : QueryFault} (h : Refused strict c fault) :
    c.meaning strict = .error fault := by
  cases h with
  | state htopic hstrict hunknown => simp [meaning, htopic, hstrict, isKnownState, hunknown]
  | flag htopic hflag =>
    simp only [meaning, htopic, hflag]
    rfl
  | property htopic hread => simp only [meaning, htopic, hread]
  | unsplit htopic hsplit => simp only [meaning, htopic, hsplit]
  | unnamed htopic hsplit => simp [meaning, htopic, hsplit]

/-- A clause places a constraint, or none, exactly by one of the rules. -/
theorem meaning_eq_ok_iff {found : Option Constraint} :
    c.meaning strict = .ok found ↔ Means strict c found :=
  ⟨meaning_sound.1 found, meaning_of_means⟩

/-- A clause is refused exactly for one of the reasons. -/
theorem meaning_eq_error_iff {fault : QueryFault} :
    c.meaning strict = .error fault ↔ Refused strict c fault :=
  ⟨meaning_sound.2 fault, meaning_of_refused⟩

end Clause

end CardQuery
