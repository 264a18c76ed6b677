import CardQuery.Json
import CardQuery.Text.Units

/-!
# Reading JSON

A reader for JSON documents.  Every step returns the value it read and the rest of the text.

Main results:

- `readString?_quote` says that a text ends at its closing quote.
-/

namespace CardQuery

namespace Json

/-- A text without the space characters that JSON allows between its parts. -/
def skipSpace (t : Text) : Text :=
  t.dropWhile fun c => c == ' ' || c == '\n' || c == '\r' || c == '\t'

/-! ## Texts -/

/-- Whether a character is a hexadecimal digit. -/
def isHexDigit (c : Char) : Bool :=
  Text.isDigit c || decide ('a' ≤ c ∧ c ≤ 'f') || decide ('A' ≤ c ∧ c ≤ 'F')

/-- The character that a backslash and a letter stand for. -/
def shortEscape? (c : Char) : Option Char :=
  match c with
  | '"' => some '"'
  | '\\' => some '\\'
  | '/' => some '/'
  | 'b' => some '\x08'
  | 'f' => some '\x0c'
  | 'n' => some '\n'
  | 'r' => some '\r'
  | 't' => some '\t'
  | _ => none

/-- The units of the text whose opening quote has just been read, and the rest after its closing
quote. -/
def readUnits? : Text → Option (List Nat × Text)
  | [] => none
  | '"' :: rest => some ([], rest)
  | '\\' :: 'u' :: a :: b :: c :: d :: rest =>
    if [a, b, c, d].all isHexDigit then
      (readUnits? rest).map fun found => (Text.toNat 16 [a, b, c, d] :: found.1, found.2)
    else none
  | '\\' :: c :: rest =>
    (shortEscape? c).bind fun e =>
      (readUnits? rest).map fun found => (e.toNat :: found.1, found.2)
  | c :: rest =>
    if c.toNat < 0x20 || c == '\\' then none
    else (readUnits? rest).map fun found => (c.toNat :: found.1, found.2)

/-- The text whose opening quote has just been read, and the rest after its closing quote. -/
def readString? (t : Text) : Option (Text × Text) :=
  (readUnits? t).bind fun found => (Text.ofUnits? found.1).map (·, found.2)

/-- A text ends at its closing quote. -/
@[simp] theorem readString?_quote (rest : Text) :
    readString? ('"' :: rest) = some ([], rest) := by
  simp [readString?, readUnits?, Text.ofUnits?]

/-! ## Numbers -/

/-- The digits at the beginning of a text, of which there is at least one, and the rest. -/
def readDigits? (t : Text) : Option (Text × Text) :=
  let digits := t.takeWhile Text.isDigit
  if digits.isEmpty then none else some (digits, t.dropWhile Text.isDigit)

/-- The fraction at the beginning of a text, which may be missing, and the rest. -/
def readFraction? : Text → Option (Text × Text)
  | '.' :: rest => (readDigits? rest).map fun found => ('.' :: found.1, found.2)
  | t => some ([], t)

/-- The exponent at the beginning of a text, which may be missing, and the rest. -/
def readExponent? : Text → Option (Text × Text)
  | c :: rest =>
    if c = 'e' ∨ c = 'E' then
      match rest with
      | '-' :: rest => (readDigits? rest).map fun found => (c :: '-' :: found.1, found.2)
      | '+' :: rest => (readDigits? rest).map fun found => (c :: '+' :: found.1, found.2)
      | rest => (readDigits? rest).map fun found => (c :: found.1, found.2)
    else some ([], c :: rest)
  | [] => some ([], [])

/-- The number without sign at the beginning of a text, and the rest. -/
def readNumber? (negative : Bool) (t : Text) : Option (Json × Text) := do
  let (digits, afterDigits) ← readDigits? t
  if digits.length ≠ 1 ∧ digits.head? = some '0' then none
  else
    let (fraction, afterFraction) ← readFraction? afterDigits
    let (exponent, rest) ← readExponent? afterFraction
    if fraction.isEmpty && exponent.isEmpty then
      let n : Int := Text.toNat 10 digits
      some (integer (if negative then -n else n), rest)
    else
      let numeral := digits ++ fraction ++ exponent
      some (decimal (if negative then '-' :: numeral else numeral), rest)

/-! ## Values -/

mutual

/-- The value at the beginning of a text and the rest, in at most the given number of steps. -/
def readValue? : Nat → Text → Option (Json × Text)
  | 0, _ => none
  | fuel + 1, t =>
    match skipSpace t with
    | '"' :: rest => (readString? rest).map fun found => (string found.1, found.2)
    | '[' :: rest =>
      match skipSpace rest with
      | ']' :: rest => some (array [], rest)
      | rest => (readItems? fuel rest).map fun found => (array found.1, found.2)
    | '\x7b' :: rest =>
      match skipSpace rest with
      | '\x7d' :: rest => some (object [], rest)
      | rest => (readMembers? fuel rest).map fun found => (object found.1, found.2)
    | '-' :: rest => readNumber? true rest
    | t =>
      match Text.after? "true".toList t, Text.after? "false".toList t,
          Text.after? "null".toList t with
      | some rest, _, _ => some (bool true, rest)
      | _, some rest, _ => some (bool false, rest)
      | _, _, some rest => some (null, rest)
      | _, _, _ => readNumber? false t

/-- The items up to the end of an array, of which there is at least one, and the rest. -/
def readItems? : Nat → Text → Option (List Json × Text)
  | 0, _ => none
  | fuel + 1, t =>
    match readValue? fuel t with
    | none => none
    | some (v, t) =>
      match skipSpace t with
      | ']' :: rest => some ([v], rest)
      | ',' :: rest => (readItems? fuel rest).map fun found => (v :: found.1, found.2)
      | _ => none

/-- The members up to the end of an object, of which there is at least one, and the rest. -/
def readMembers? : Nat → Text → Option (List (Text × Json) × Text)
  | 0, _ => none
  | fuel + 1, t =>
    match skipSpace t with
    | '"' :: rest =>
      match readString? rest with
      | none => none
      | some (name, rest) =>
        match skipSpace rest with
        | ':' :: rest =>
          match readValue? fuel rest with
          | none => none
          | some (v, rest) =>
            match skipSpace rest with
            | '\x7d' :: rest => some ([(name, v)], rest)
            | ',' :: rest =>
              (readMembers? fuel rest).map fun found => ((name, v) :: found.1, found.2)
            | _ => none
        | _ => none
    | _ => none

end

/-- The value that a JSON document holds. -/
def read? (t : Text) : Option Json :=
  match readValue? (2 * t.length + 2) t with
  | some (v, rest) => if (skipSpace rest).isEmpty then some v else none
  | none => none

end Json

end CardQuery
