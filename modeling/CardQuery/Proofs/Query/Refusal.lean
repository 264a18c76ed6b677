import CardQuery.Proofs.Clause.Fault
import CardQuery.Proofs.Clause.Means
import CardQuery.Proofs.Clause.Writing
import CardQuery.Proofs.Property.Reading
import CardQuery.Proofs.Query.Compilation
import CardQuery.Proofs.Text.Numeral

/-!
# Refused queries

Why a query is refused, and what has been looked at when it is.  Every clause is judged by itself:
neither the clauses around it nor what they have placed matter.  The first clause that is refused
refuses the query, and no clause behind it is looked at.  If the clauses of a query cannot be found,
none of them is looked at, whatever is wrong with those that could have been.

A compilation announces the ways in which it can be refused, with two exceptions.  A flag is looked
at as a number before it is compared with the greatest flag, and a numeral of too many digits cannot
be read as a number at all.  And the refusal of a query for its length names the limit, which cannot
be written if it has too many digits.  Such refusals are not foreseen, and have no wording.

Main results:

- `compileLogged_of_refused` and `compileLogged_of_accepted` say which clauses are looked at.
- `compileLogged_refused` says which refusal comes first, and which clauses were looked at then.
- `QueryError.exists_message?_iff` says that exactly the foreseen refusals have a wording.
- `Clause.meaning_unforeseen_iff` says which clauses are refused in a way that is not foreseen.
- `compile_foreseen_iff` says which compilations end in a foreseen way, and how the others end.
- `endsForeseen_of_length_le` says that the compilation of a short query does.
-/

namespace CardQuery

namespace Query

/-! ## The clause that is refused first -/

/-- A query in which a clause is found is not blank. -/
theorem strip_ne_nil_of_split {query : Text} {clauses : List Clause}
    (h : Clause.split query = .ok clauses) (hne : clauses ≠ []) : query.strip ≠ [] := by
  intro hnil
  rw [Clause.split_of_blank (Text.strip_eq_nil_iff.1 hnil), Except.ok.injEq] at h
  exact hne h.symm

/-- What is noted down before the clauses of a query are looked at: how many there are, unless the
query is blank. -/
def heading (query : Text) (clauses : List Clause) : List LogEntry :=
  if query.strip = [] then [] else [.tokenized clauses.length query.strip]

/-- The clauses that are found in a query are run one after the other. -/
theorem compileLogged_of_split {strict : Bool} {query : Text} {clauses : List Clause}
    (h : Clause.split query = .ok clauses) :
    compileLogged ⟨strict, none⟩ query =
      let done := run strict query.strip {} clauses
      (heading query clauses ++ done.1, done.2) := by
  have hlog : compileLogged ⟨strict, none⟩ query =
      let done := run strict query.strip {} clauses
      if query.strip.isEmpty then done
      else (.tokenized clauses.length query.strip :: done.1, done.2) := by
    simp [compileLogged, h]
  rw [hlog, heading]
  cases query.strip with
  | nil => rfl
  | cons c rest => rfl

section

variable {strict : Bool}

/-- A clause is accepted if the query without constraints takes it. -/
theorem accepted_iff_addClause_empty (source : Text) {c : Clause} :
    c.Accepted strict ↔ ∃ q, addClause strict source {} c = .ok q := by
  simp [addClause_eq_ok_iff]

/-- A clause is not accepted if the query without constraints refuses it. -/
theorem not_accepted_iff_addClause_empty (source : Text) {c : Clause} :
    ¬c.Accepted strict ↔ ∃ e, addClause strict source {} c = .error e := by
  rw [accepted_iff_addClause_empty source]
  cases addClause strict source {} c <;> simp

/-- A query is refused exactly if one of its clauses is not accepted. -/
theorem exists_compile_eq_error_iff {query : Text} {clauses : List Clause}
    (h : Clause.split query = .ok clauses) :
    (∃ e, compile ⟨strict, none⟩ query = .error e) ↔ ∃ c ∈ clauses, ¬c.Accepted strict := by
  simp only [compile, compileLogged_of_split h, run_eq_error_iff]
  constructor
  · rintro ⟨e, before, c, after, rfl, _, hc⟩
    refine ⟨c, by simp, ?_⟩
    rintro ⟨found, hfound⟩
    rw [(Clause.constraint_eq_error_iff.1 hc).2] at hfound
    cases hfound
  · rintro ⟨c, hmem, hc⟩
    rcases Clause.accepted_or_refused strict clauses with
      hall | ⟨before, d, after, fault, rfl, hbefore, hd⟩
    · exact absurd (hall c hmem) hc
    · exact ⟨⟨query.strip, fault⟩, before, d, after, rfl, hbefore,
        Clause.constraint_eq_error_iff.2 ⟨rfl, hd⟩⟩

/-- The clauses up to the first that is refused are looked at. -/
theorem compileLogged_of_refused {query : Text} {before after : List Clause} {c : Clause}
    {e : QueryError} (h : Clause.split query = .ok (before ++ c :: after))
    (hbefore : ∀ d ∈ before, d.Accepted strict)
    (hc : c.constraint strict query.strip = .error e) :
    compileLogged ⟨strict, none⟩ query =
      (.tokenized (before ++ c :: after).length query.strip ::
        (before ++ [c]).map .classifying, .error e) := by
  have hne : before ++ c :: after ≠ [] := by simp
  rw [compileLogged_of_split h, run_of_refused hbefore hc, heading,
    if_neg (strip_ne_nil_of_split h hne)]
  rfl

/-- All clauses are looked at if all are accepted. -/
theorem compileLogged_of_accepted {query : Text} {clauses : List Clause}
    (h : Clause.split query = .ok clauses) (hall : ∀ c ∈ clauses, c.Accepted strict) :
    ∃ q, compileLogged ⟨strict, none⟩ query =
      (heading query clauses ++ clauses.map .classifying, .ok q) := by
  rw [compileLogged_of_split h, run_of_accepted hall]
  exact ⟨_, rfl⟩

end

/-- The first clause that is refused refuses the query, and nothing else matters.

A query whose clauses cannot be found is refused for that, and no clause is looked at.  If they are
found, the query is refused exactly if one of them would be refused by itself.  It is refused as the
first of these is refused by itself, and the clauses that were looked at are those in front of it
and this one.  If there is none, all clauses are looked at. -/
theorem compileLogged_refused (strict : Bool) (query : Text) :
    (∀ e, Clause.split query = .error e → compileLogged ⟨strict, none⟩ query = ([], .error e)) ∧
      ∀ clauses, Clause.split query = .ok clauses →
        ((∃ e, compile ⟨strict, none⟩ query = .error e) ↔
            ∃ c ∈ clauses, ∃ e, addClause strict query.strip {} c = .error e) ∧
          (∀ before c after e, clauses = before ++ c :: after →
            (∀ d ∈ before, ∃ q, addClause strict query.strip {} d = .ok q) →
            addClause strict query.strip {} c = .error e →
            compileLogged ⟨strict, none⟩ query =
              (.tokenized clauses.length query.strip :: (before ++ [c]).map .classifying,
                .error e)) ∧
          ((∀ c ∈ clauses, ∃ q, addClause strict query.strip {} c = .ok q) →
            ∃ q, compileLogged ⟨strict, none⟩ query =
              (heading query clauses ++ clauses.map .classifying, .ok q)) := by
  refine ⟨fun e h => by simp [compileLogged, h], fun clauses h => ⟨?_, ?_, ?_⟩⟩
  · simp only [exists_compile_eq_error_iff h, not_accepted_iff_addClause_empty query.strip]
  · rintro before c after e rfl hbefore hc
    have haccepted : ∀ d ∈ before, d.Accepted strict := fun d hd =>
      (accepted_iff_addClause_empty query.strip).2 (hbefore d hd)
    exact compileLogged_of_refused h haccepted (addClause_eq_error_iff.1 hc)
  · intro hall
    exact compileLogged_of_accepted h fun c hc =>
      (accepted_iff_addClause_empty query.strip).2 (hall c hc)

example : compileLogged ⟨true, none⟩ " tag:a is:b flag:9".toList =
    ([.tokenized 3 "tag:a is:b flag:9".toList, .classifying ⟨false, "tag:a".toList⟩,
        .classifying ⟨false, "is:b".toList⟩],
      .error ⟨"tag:a is:b flag:9".toList, .unknownState ['b']⟩) := by decide +kernel

end Query

/-! ## Numerals that are too long -/

/-- A numeral with more digits than can be read as a number. -/
structure Text.Oversized (t : Text) : Prop where
  digits : t.Digits
  long : maxNumeralDigits < t.length

/-- Whether a fault is one of those that a compilation announces. -/
def QueryFault.Foreseen : QueryFault → Prop
  | oversizedFlag _ => False
  | tooLong _ limit => Text.HasNumeral limit
  | unterminatedQuote _ | expectedClause _ _ | invalidFlag _ | invalidProperty _ _
  | emptyFieldName _ | unknownState _ => True

/-- Only a flag that is too long to be read and a limit that is too long to be written are not
foreseen. -/
theorem QueryFault.not_foreseen_iff {fault : QueryFault} :
    ¬fault.Foreseen ↔ (∃ numeral, fault = .oversizedFlag numeral) ∨
      ∃ length limit, fault = .tooLong length limit ∧ ¬Text.HasNumeral limit := by
  cases fault <;> simp [Foreseen, and_assoc]

theorem QueryError.message?_eq_none_iff_not_foreseen {e : QueryError} :
    e.message? = none ↔ ¬e.fault.Foreseen := by
  rw [message?_eq_none_iff, QueryFault.not_foreseen_iff]

/-- Exactly the foreseen refusals have a wording. -/
theorem QueryError.exists_message?_iff {e : QueryError} :
    (∃ message, e.message? = some message) ↔ e.fault.Foreseen := by
  rw [← not_iff_not, ← message?_eq_none_iff_not_foreseen, ← Option.isSome_iff_exists,
    Bool.not_eq_true, Option.isSome_eq_false_iff, Option.isNone_iff_eq_none]

/-- The faults of a query that is not split are foreseen. -/
theorem Clause.Faulty.foreseen {t : Text} {fault : QueryFault} (h : Faulty t fault) :
    fault.Foreseen := by
  cases h with
  | quote _ => trivial
  | @minus p _ =>
    rcases exists_missingClause p (t.drop (p + 1)) with ⟨found, position, hmissing⟩
    rw [hmissing]
    trivial

/-- A numeral is read as a flag if it is neither too long nor too large. -/
theorem readFlag_of_digits {value : Text} (h : value.Digits) :
    readFlag value =
      if Text.maxNumeralDigits < value.length then .error (.oversizedFlag value)
      else if maxFlag < Text.toNat 10 value then .error (.invalidFlag value)
      else .ok (Text.toNat 10 value) := by
  simp [readFlag, PropertyFilter.isDigits_iff.2 h]

theorem readFlag_of_not_digits {value : Text} (h : ¬value.Digits) :
    readFlag value = .error (.invalidFlag value) := by
  rw [← PropertyFilter.isDigits_iff, Bool.not_eq_true] at h
  simp [readFlag, h]

/-- A flag is refused in a way that is not foreseen exactly if it is a numeral that is too long. -/
theorem readFlag_unforeseen_iff {value : Text} {fault : QueryFault} :
    readFlag value = .error fault ∧ ¬fault.Foreseen ↔
      value.Oversized ∧ fault = .oversizedFlag value := by
  constructor
  · rintro ⟨hread, hnot⟩
    by_cases hdigits : value.Digits
    · rw [readFlag_of_digits hdigits] at hread
      split at hread
      next hlong => exact ⟨⟨hdigits, hlong⟩, (Except.error.inj hread).symm⟩
      next =>
        split at hread
        next =>
          obtain rfl := Except.error.inj hread
          exact absurd trivial hnot
        next => cases hread
    · rw [readFlag_of_not_digits hdigits] at hread
      obtain rfl := Except.error.inj hread
      exact absurd trivial hnot
  · rintro ⟨hover, rfl⟩
    rw [readFlag_of_digits hover.digits, if_pos hover.long]
    exact ⟨rfl, id⟩

/-- Only the clauses about a flag that is too long to be read are refused in a way that is not
foreseen. -/
theorem Clause.meaning_unforeseen_iff {strict : Bool} {c : Clause} {fault : QueryFault} :
    c.meaning strict = .error fault ∧ ¬fault.Foreseen ↔
      ∃ numeral, c.text = Topic.flag.keyword ++ numeral ∧ numeral.Oversized ∧
        fault = .oversizedFlag numeral := by
  rw [meaning_eq_error_iff]
  constructor
  · rintro ⟨hrefused, hnot⟩
    cases hrefused with
    | flag htopic hflag =>
      obtain ⟨hover, rfl⟩ := readFlag_unforeseen_iff.1 ⟨hflag, hnot⟩
      exact ⟨_, Topic.read?_eq_some_iff.1 htopic, hover, rfl⟩
    | state | property | unsplit | unnamed => exact absurd trivial hnot
  · rintro ⟨numeral, htext, hover, rfl⟩
    obtain ⟨hread, hnot⟩ := readFlag_unforeseen_iff.2 ⟨hover, rfl⟩
    exact ⟨.flag (Topic.read?_eq_some_iff.2 htext) hread, hnot⟩

namespace Query

/-! ## Refusals that are not foreseen -/

/-- Whether the compilation of a query comes upon a flag that is too long to be read: the query is
not longer than allowed, its clauses are found, those in front of the flag are accepted, and the
numeral of the flag is too long. -/
def MeetsOversizedFlag (dialect : Dialect) (query numeral : Text) : Prop :=
  (∀ limit ∈ dialect.maxLength, (query.length : Int) ≤ limit) ∧
    ∃ before negated after,
      Clause.split query = .ok (before ++ ⟨negated, Topic.flag.keyword ++ numeral⟩ :: after) ∧
        (∀ d ∈ before, d.Accepted dialect.strict) ∧ numeral.Oversized

/-- Whether a query is longer than a limit that is too long to be written. -/
def ExceedsOversizedLimit (dialect : Dialect) (query : Text) (limit : Int) : Prop :=
  limit ∈ dialect.maxLength ∧ limit < (query.length : Int) ∧ ¬Text.HasNumeral limit

/-- A query is refused in a way that is not foreseen exactly if it is longer than a limit that is
too long to be written, or its compilation comes upon a flag that is too long to be read. -/
theorem compile_unforeseen_iff {dialect : Dialect} {query : Text} {e : QueryError} :
    compile dialect query = .error e ∧ ¬e.fault.Foreseen ↔
      (∃ limit, ExceedsOversizedLimit dialect query limit ∧
        e = ⟨query, .tooLong query.length limit⟩) ∨
        ∃ numeral, MeetsOversizedFlag dialect query numeral ∧
          e = ⟨query.strip, .oversizedFlag numeral⟩ := by
  rw [compile_eq_error_iff]
  constructor
  · rintro ⟨⟨limit, hlimit, hlt, rfl⟩ |
      ⟨hlimit, hsplit | ⟨before, c, after, hsplit, hbefore, hc⟩⟩, hnot⟩
    · exact Or.inl ⟨limit, ⟨hlimit, hlt, hnot⟩, rfl⟩
    · exact absurd (Clause.split_eq_error_iff.1 hsplit).2.foreseen hnot
    · rcases e with ⟨text, fault⟩
      obtain ⟨rfl, hmeaning⟩ := Clause.constraint_eq_error_iff.1 hc
      obtain ⟨numeral, htext, hover, rfl⟩ := Clause.meaning_unforeseen_iff.1 ⟨hmeaning, hnot⟩
      rcases c with ⟨negated, text⟩
      obtain rfl : text = Topic.flag.keyword ++ numeral := htext
      exact Or.inr ⟨numeral, ⟨hlimit, before, negated, after, hsplit, hbefore, hover⟩, rfl⟩
  · rintro (⟨limit, ⟨hlimit, hlt, hnone⟩, rfl⟩ |
      ⟨numeral, ⟨hlimit, before, negated, after, hsplit, hbefore, hover⟩, rfl⟩)
    · exact ⟨Or.inl ⟨limit, hlimit, hlt, rfl⟩, hnone⟩
    · obtain ⟨hmeaning, hnot⟩ := (@Clause.meaning_unforeseen_iff dialect.strict
        ⟨negated, Topic.flag.keyword ++ numeral⟩ _).2 ⟨numeral, rfl, hover, rfl⟩
      exact ⟨Or.inr ⟨hlimit, Or.inr ⟨before, _, after, hsplit, hbefore,
        Clause.constraint_eq_error_iff.2 ⟨rfl, hmeaning⟩⟩⟩, hnot⟩

/-- Whether the compilation of a query ends in one of the ways that it announces: with a query, or
with a refusal that is foreseen. -/
def EndsForeseen (dialect : Dialect) (query : Text) : Prop :=
  (∃ q, compile dialect query = .ok q) ∨
    ∃ e, compile dialect query = .error e ∧ e.fault.Foreseen

/-- A compilation ends in a foreseen way exactly if it is not refused in another way. -/
theorem endsForeseen_iff_not_exists {dialect : Dialect} {query : Text} :
    EndsForeseen dialect query ↔ ¬∃ e, compile dialect query = .error e ∧ ¬e.fault.Foreseen := by
  unfold EndsForeseen
  cases compile dialect query <;> simp

/-- A compilation ends with a query or with a foreseen refusal, unless the query is longer than a
limit that is too long to be written or comes upon a flag that is too long to be read; then it is
refused for that. -/
theorem compile_foreseen_iff (dialect : Dialect) (query : Text) :
    (EndsForeseen dialect query ↔
        (¬∃ limit, ExceedsOversizedLimit dialect query limit) ∧
          ¬∃ numeral, MeetsOversizedFlag dialect query numeral) ∧
      (∀ limit, ExceedsOversizedLimit dialect query limit →
        compile dialect query = .error ⟨query, .tooLong query.length limit⟩) ∧
      ∀ numeral, MeetsOversizedFlag dialect query numeral →
        compile dialect query = .error ⟨query.strip, .oversizedFlag numeral⟩ := by
  have hlimit : ∀ limit, ExceedsOversizedLimit dialect query limit →
      compile dialect query = .error ⟨query, .tooLong query.length limit⟩ ∧ _ := fun limit h =>
    compile_unforeseen_iff.2 (Or.inl ⟨limit, h, rfl⟩)
  have hflag : ∀ numeral, MeetsOversizedFlag dialect query numeral →
      compile dialect query = .error ⟨query.strip, .oversizedFlag numeral⟩ ∧ _ := fun numeral h =>
    compile_unforeseen_iff.2 (Or.inr ⟨numeral, h, rfl⟩)
  refine ⟨?_, fun limit h => (hlimit limit h).1, fun numeral h => (hflag numeral h).1⟩
  rw [endsForeseen_iff_not_exists]
  constructor
  · intro hnone
    exact ⟨fun ⟨limit, h⟩ => hnone ⟨_, hlimit limit h⟩,
      fun ⟨numeral, h⟩ => hnone ⟨_, hflag numeral h⟩⟩
  · rintro ⟨hnolimit, hnoflag⟩ ⟨e, he⟩
    rcases compile_unforeseen_iff.1 he with ⟨limit, h, -⟩ | ⟨numeral, h, -⟩
    · exact hnolimit ⟨limit, h⟩
    · exact hnoflag ⟨numeral, h⟩

/-- A query that is a flag too long to be read comes upon that flag. -/
theorem meetsOversizedFlag_flag (strict : Bool) {numeral : Text} (h : numeral.Oversized) :
    MeetsOversizedFlag ⟨strict, none⟩ (Topic.flag.keyword ++ numeral) numeral := by
  have hitems : (Topic.flag.keyword ++ numeral).OfItems :=
    Text.ofItems_of_plain (Text.Plain.append (by decide) (PropertyFilter.plain_of_digits h.digits))
  have hsplit := Clause.split_of_items false hitems rfl (by decide)
  exact ⟨nofun, [], false, [], hsplit, nofun, h⟩

/-- A limit far below zero is too long to be written, and every query is longer. -/
theorem exceedsOversizedLimit_neg (strict : Bool) (query : Text) {k : Nat}
    (h : Text.maxNumeralDigits ≤ k) :
    ExceedsOversizedLimit ⟨strict, some (-10 ^ k)⟩ query (-10 ^ k) := by
  have hpos : (0 : Int) < 10 ^ k := Int.pow_pos (by decide)
  have hnone : ¬Text.HasNumeral (-10 ^ k) := by
    rw [Text.hasNumeral_iff, Int.natAbs_neg, ← Text.hasNumeral_iff]
    exact Text.not_hasNumeral_pow h
  exact ⟨rfl, by omega, hnone⟩

/-- Not every compilation ends in a foreseen way: a flag can be too long to be read, and a limit too
long to be written. -/
theorem not_forall_endsForeseen :
    (¬∀ query, EndsForeseen {} query) ∧ ¬∀ limit, EndsForeseen { maxLength := some limit } [] := by
  constructor
  · intro hall
    have hones : Text.Oversized (List.replicate (Text.maxNumeralDigits + 1) '1') := by
      refine ⟨⟨by simp, fun c hc => ?_⟩, by simp⟩
      rw [List.eq_of_mem_replicate hc]
      decide
    have hbroken := compile_unforeseen_iff.2
      (Or.inr ⟨_, meetsOversizedFlag_flag false hones, rfl⟩)
    exact endsForeseen_iff_not_exists.1 (hall _) ⟨_, hbroken⟩
  · intro hall
    have hexceeds := exceedsOversizedLimit_neg false [] (le_refl Text.maxNumeralDigits)
    have hbroken := compile_unforeseen_iff.2 (Or.inl ⟨_, hexceeds, rfl⟩)
    exact endsForeseen_iff_not_exists.1 (hall _) ⟨_, hbroken⟩

/-- The compilation of a query that is not longer than the longest flag that can be read ends in a
foreseen way, if the limit on its length can be written. -/
theorem endsForeseen_of_length_le {dialect : Dialect} {query : Text}
    (hlimit : ∀ limit ∈ dialect.maxLength, Text.HasNumeral limit)
    (h : query.length ≤ Topic.flag.keyword.length + Text.maxNumeralDigits) :
    EndsForeseen dialect query := by
  rw [endsForeseen_iff_not_exists]
  rintro ⟨e, he⟩
  rcases compile_unforeseen_iff.1 he with ⟨limit, ⟨hmem, -, hnone⟩, -⟩ |
    ⟨numeral, ⟨-, before, negated, after, hsplit, -, hover⟩, -⟩
  · exact hnone (hlimit limit hmem)
  · have hclause : (Clause.written ⟨negated, Topic.flag.keyword ++ numeral⟩).length ≤
        query.length := Clause.length_le_of_mem_split hsplit (by simp)
    have htext : (Topic.flag.keyword ++ numeral).length ≤
        (Clause.written ⟨negated, Topic.flag.keyword ++ numeral⟩).length := by
      cases negated <;> simp [Clause.written]
    have hlong := hover.long
    rw [List.length_append] at htext
    omega

end Query

end CardQuery
