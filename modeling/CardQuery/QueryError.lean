import CardQuery.PropertyFilter
import CardQuery.Text.Literal

/-!
# Query errors

Why a query cannot be understood: the query and the cause, with the wording of each cause that has
one.  The wording of a limit holds its numeral, so it fails for a limit that cannot be written.

Main results:

- `message?_eq_none_iff` says which refusals have no wording.
-/

namespace CardQuery

@[simp] theorem mapError_ok {ε ε' α : Type} (f : ε → ε') (a : α) :
    (Except.ok a : Except ε α).mapError f = .ok a := rfl

@[simp] theorem mapError_error {ε ε' α : Type} (f : ε → ε') (e : ε) :
    (Except.error e : Except ε α).mapError f = .error (f e) := rfl

/-- What was found after a minus sign in place of the clause that it negates. -/
inductive Unexpected
  /-- Another minus sign. -/
  | minus
  /-- Blanks. -/
  | blanks (run : Text)
  /-- Nothing more. -/
  | endOfQuery
deriving DecidableEq, Repr

/-- Why a query cannot be understood.  Positions count the characters before. -/
inductive QueryFault
  /-- The quote at the position never closes. -/
  | unterminatedQuote (position : Nat)
  /-- No clause follows a minus sign.  The position is that of what was found, or that of the
  minus sign if nothing was. -/
  | expectedClause (found : Unexpected) (position : Nat)
  /-- The flag is not a number from 0 to 7. -/
  | invalidFlag (value : Text)
  /-- The flag has more digits than a number may have. -/
  | oversizedFlag (value : Text)
  /-- The expression is no property filter. -/
  | invalidProperty (expression : Text) (fault : PropertyFault)
  /-- The clause names no field. -/
  | emptyFieldName (clause : Text)
  /-- The state is not one of the known ones. -/
  | unknownState (state : Text)
  /-- The query is longer than the limit. -/
  | tooLong (length : Nat) (limit : Int)
deriving DecidableEq, Repr

/-- The refusal of a query. -/
structure QueryError where
  /-- The query that is refused. -/
  query : Text
  /-- Why it is refused. -/
  fault : QueryFault
deriving DecidableEq, Repr

namespace Text

/-- The number of the line on which position `p` of a text stands, the first line being 1. -/
def lineAt (t : Text) (p : Nat) : Nat := (t.take p).count '\n' + 1

/-- The number of the column in which position `p` of a text stands, the first column being 1. -/
def columnAt (t : Text) (p : Nat) : Nat :=
  ((t.take p).reverse.takeWhile fun c => c != '\n').length + 1

end Text

namespace QueryFault

/-- The wording of what was found in place of a clause. -/
def foundMessage : Unexpected → Text
  | .minus => "Token('NEGATE', '-')".toList
  | .blanks run => "Token('_WS', ".toList ++ run.literal ++ [')']
  | .endOfQuery => "Token('$END', '')".toList

/-- The wording of a fault in a query.  A flag that is too long to be read is no fault that is put
into words, and neither is a limit that is too long to be written. -/
def message? (query : Text) : QueryFault → Option Text
  | unterminatedQuote position =>
    some ("unterminated quote at position ".toList ++ Text.ofNat position)
  | expectedClause found position =>
    some ("Unexpected token ".toList ++ foundMessage found ++
      " at line ".toList ++ Text.ofNat (query.lineAt position) ++
      ", column ".toList ++ Text.ofNat (query.columnAt position) ++
      ".\nExpected one of: \n\t* BODY\n".toList ++
      match found with
      | .endOfQuery => []
      | _ => "Previous tokens: [Token('NEGATE', '-')]\n".toList)
  | invalidFlag value => some ("invalid flag '".toList ++ value ++ "' (must be 0-7)".toList)
  | oversizedFlag _ => none
  | invalidProperty expression fault =>
    some ("invalid property filter '".toList ++ expression ++ "': ".toList ++ fault.message)
  | emptyFieldName clause =>
    some ("missing field name in '".toList ++ clause ++ "' (expected field:NAME:VALUE)".toList)
  | unknownState state => some ("unknown card state '".toList ++ state ++ ['\''])
  | tooLong length limit =>
    (Text.numeral? limit).map fun numeral =>
      "query is ".toList ++ Text.ofNat length ++ " characters long (limit ".toList ++ numeral ++
        [')']

end QueryFault

namespace QueryError

/-- The wording of a refusal, if its cause has one. -/
def message? (e : QueryError) : Option Text :=
  (e.fault.message? e.query).map fun cause =>
    "Failed to parse search query '".toList ++ e.query ++ "': ".toList ++ cause

/-- The wording of a refusal that has one. -/
def message (e : QueryError) : Text := e.message?.getD []

/-- A refusal has no wording exactly if it is about a number that is too long: a flag that cannot be
read, or a limit that cannot be written. -/
theorem message?_eq_none_iff {e : QueryError} :
    e.message? = none ↔
      (∃ numeral, e.fault = .oversizedFlag numeral) ∨
        ∃ length limit, e.fault = .tooLong length limit ∧ ¬Text.HasNumeral limit := by
  obtain ⟨query, fault⟩ := e
  rw [message?, Option.map_eq_none_iff]
  cases fault <;> simp [QueryFault.message?, Text.numeral?, and_assoc]

end QueryError

end CardQuery
