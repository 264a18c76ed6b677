import CardQuery.Markup.Lexeme
import CardQuery.Text.Blank

/-!
# Literals

A literal writes a value: a number, a quoted text, a truth value, a tuple, a set or a dictionary.
What a tag is called with is a name with literals in parentheses behind it, a name alone, or one
literal.

Main results:

- `isAccepted_of_name` says that a name alone is accepted.
-/

namespace CardQuery

namespace Markup

/-- What matters about the value of a literal where it stands. -/
inductive LiteralKind
  /-- A number without a sign. -/
  | number (imaginary : Bool)
  /-- A real number with a sign. -/
  | signedReal
  /-- Another value, which can be an element of a set or not. -/
  | value (hashable : Bool)
  /-- The name that makes the empty set when it is called. -/
  | setName
deriving DecidableEq, Repr

namespace LiteralKind

/-- Whether a kind is one of values. -/
def isValue : LiteralKind → Bool
  | setName => false
  | _ => true

/-- Whether a kind is one of values that can be elements of sets. -/
def isHashable : LiteralKind → Bool
  | number _ | signedReal => true
  | value hashable => hashable
  | setName => false

/-- The kind of a literal with a sign in front of it. -/
def signed? : LiteralKind → Option LiteralKind
  | number false => some signedReal
  | number true => some (value true)
  | _ => none

/-- The kind of the sum of two literals: a real number and an imaginary one. -/
def sum? : LiteralKind → LiteralKind → Option LiteralKind
  | number false, number true | signedReal, number true => some (value true)
  | _, _ => none

end LiteralKind

namespace Literal

/-- Whether a character is a sign. -/
def isSign (c : Char) : Bool := c == '+' || c == '-'

/-- The lexemes after something quoted that continues what stands before; characters and bytes do
not mix. -/
def dropQuoted (bytes : Bool) : List Lexeme → Option (List Lexeme)
  | .quoted more :: rest => if more = bytes then dropQuoted bytes rest else none
  | rest => some rest

/-- The kind of a word, if it is one of the words for values. -/
def wordKind? (name : Text) : Option LiteralKind :=
  if name ∈ ["True".toList, "False".toList, "None".toList] then some (.value true)
  else if name = "set".toList then some .setName
  else none

mutual

/-- A literal in brackets of its own or without any, by its kind, and the rest. -/
def atom? : (steps : Nat) → List Lexeme → Option (LiteralKind × List Lexeme)
  | 0, _ => none
  | _ + 1, .number imaginary :: rest => some (.number imaginary, rest)
  | _ + 1, .quoted bytes :: rest => (dropQuoted bytes rest).map (.value true, ·)
  | _ + 1, .dots :: rest => some (.value true, rest)
  | _ + 1, .word name :: rest => (wordKind? name).map (·, rest)
  | _ + 1, .mark '(' :: .mark ')' :: rest => some (.value true, rest)
  | steps + 1, .mark '(' :: rest =>
    match sum? steps rest with
    | some (kind, .mark ')' :: rest) => some (kind, rest)
    | some (kind, .mark ',' :: rest) =>
      match elements? steps ')' rest with
      | some (hashable, rest) =>
        if kind.isValue then some (.value (kind.isHashable && hashable), rest) else none
      | none => none
    | _ => none
  | _ + 1, .mark '{' :: .mark '}' :: rest => some (.value false, rest)
  | steps + 1, .mark '{' :: rest =>
    match sum? steps rest with
    | some (kind, .mark ':' :: rest) =>
      if kind.isHashable then (entryValue? steps rest).map (.value false, ·) else none
    | some (kind, .mark '}' :: rest) => if kind.isHashable then some (.value false, rest) else none
    | some (kind, .mark ',' :: rest) =>
      match elements? steps '}' rest with
      | some (hashable, rest) =>
        if kind.isHashable && hashable then some (.value false, rest) else none
      | none => none
    | _ => none
  | _ + 1, _ => none

/-- A literal with what can follow it, the call of a name. -/
def called? : (steps : Nat) → List Lexeme → Option (LiteralKind × List Lexeme)
  | 0, _ => none
  | steps + 1, lexemes =>
    match atom? steps lexemes with
    | some (.setName, .mark '(' :: .mark ')' :: rest) => some (.value false, rest)
    | other => other

/-- A literal with a sign in front of it or without one. -/
def signed? : (steps : Nat) → List Lexeme → Option (LiteralKind × List Lexeme)
  | 0, _ => none
  | steps + 1, lexemes =>
    match lexemes with
    | .mark c :: rest =>
      if isSign c then
        match called? steps rest with
        | some (kind, rest) => kind.signed?.map (·, rest)
        | none => none
      else called? steps lexemes
    | _ => called? steps lexemes

/-- A literal or the sum of two. -/
def sum? : (steps : Nat) → List Lexeme → Option (LiteralKind × List Lexeme)
  | 0, _ => none
  | steps + 1, lexemes =>
    match signed? steps lexemes with
    | some (left, .mark c :: rest) =>
      if isSign c then
        match called? steps rest with
        | some (right, rest) => (left.sum? right).map (·, rest)
        | none => none
      else some (left, .mark c :: rest)
    | other => other

/-- Literals with commas between them up to a closing bracket, the last comma being optional:
whether they all can be elements of sets, and the rest after the bracket. -/
def elements? : (steps : Nat) → (closing : Char) → List Lexeme → Option (Bool × List Lexeme)
  | 0, _, _ => none
  | steps + 1, closing, lexemes =>
    match lexemes with
    | .mark c :: rest =>
      if c = closing then some (true, rest) else nextElement? steps closing lexemes
    | _ => nextElement? steps closing lexemes

/-- At least one literal of those up to a closing bracket. -/
def nextElement? : (steps : Nat) → (closing : Char) → List Lexeme → Option (Bool × List Lexeme)
  | 0, _, _ => none
  | steps + 1, closing, lexemes =>
    match sum? steps lexemes with
    | some (kind, .mark c :: rest) =>
      if !kind.isValue then none
      else if c = closing then some (kind.isHashable, rest)
      else if c = ',' then
        (elements? steps closing rest).map fun more => (kind.isHashable && more.1, more.2)
      else none
    | _ => none

/-- The value of an entry of a dictionary and all further entries up to the closing brace, and the
rest after it. -/
def entryValue? : (steps : Nat) → List Lexeme → Option (List Lexeme)
  | 0, _ => none
  | steps + 1, lexemes =>
    match sum? steps lexemes with
    | some (value, .mark '}' :: rest) => if value.isValue then some rest else none
    | some (value, .mark ',' :: .mark '}' :: rest) => if value.isValue then some rest else none
    | some (value, .mark ',' :: rest) =>
      match sum? steps rest with
      | some (key, .mark ':' :: rest) =>
        if value.isValue && key.isHashable then entryValue? steps rest else none
      | _ => none
    | _ => none

end

/-- How many steps are enough to read so many lexemes. -/
def stepsFor (count : Nat) : Nat := 8 * count + 16

/-- Whether lexemes write one value, or several with commas between them. -/
def isValueOf (lexemes : List Lexeme) : Bool :=
  let enclosed := .mark '(' :: lexemes ++ [.mark ')']
  match atom? (stepsFor enclosed.length) enclosed with
  | some (kind, []) => kind.isValue && !lexemes.isEmpty
  | _ => false

/-- Whether a text is a literal.  The line ends around it do not matter. -/
def isLiteral (t : Text) : Bool :=
  match Lexeme.lexemes t with
  | none => false
  | some all =>
    let isLineEnd (lexeme : Lexeme) : Bool := lexeme == .lineEnd
    let inner := ((all.dropWhile isLineEnd).reverse.dropWhile isLineEnd).reverse
    isValueOf inner

/-- Whether a character can stand in the name of what a tag calls. -/
def isNameChar (c : Char) : Bool := Text.isWordChar c || c == '.'

/-- Whether a text is one line in parentheses. -/
def isEnclosed (t : Text) : Bool :=
  t.head? == some '(' && t.getLast? == some ')' && !t.elem '\n'

/-- Whether a tag can be called with a text. -/
def isAccepted (t : Text) : Bool :=
  let call := Text.strip t
  let behind := call.dropWhile isNameChar
  if behind.isEmpty then true
  else if isEnclosed behind then isLiteral behind
  else isLiteral call

/-- A name alone is accepted. -/
theorem isAccepted_of_name {t : Text} (h : ∀ c ∈ t, isNameChar c = true) :
    isAccepted t = true := by
  have hall : ∀ c ∈ Text.strip t, isNameChar c = true :=
    fun c hc => h c ((Text.strip_sublist t).subset hc)
  have hbehind : (Text.strip t).dropWhile isNameChar = [] := by
    rw [← List.append_nil (Text.strip t), List.dropWhile_append_of_pos hall, List.dropWhile_nil]
  simp [isAccepted, hbehind]

end Literal

end Markup

end CardQuery
