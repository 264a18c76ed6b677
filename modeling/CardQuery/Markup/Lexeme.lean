import CardQuery.Text.Word

/-!
# Lexemes

What literals are made of: numbers, quoted texts, words, and marks.  Blanks, comments and line ends
inside brackets separate lexemes.

Main results:

- `scanDigits_of_digits` says that digits without underscores are one run.
- `lexemes_nil` says that nothing has no lexemes.
-/

namespace CardQuery

namespace Markup

/-- What literals are made of. -/
inductive Lexeme
  /-- A number, real or imaginary. -/
  | number (imaginary : Bool)
  /-- Something quoted, characters or bytes. -/
  | quoted (bytes : Bool)
  /-- A word. -/
  | word (name : Text)
  /-- Three dots. -/
  | dots
  /-- A parenthesis, a brace, a comma, a colon or a sign. -/
  | mark (c : Char)
  /-- The end of a line outside brackets. -/
  | lineEnd
deriving DecidableEq, Repr

namespace Lexeme

/-! ## Numbers -/

/-- Whether a character is a digit of a base; letters of either case count from ten. -/
def isDigitOf (base : Nat) (c : Char) : Bool :=
  (Text.isDigit c || decide ('a' ≤ c ∧ c ≤ 'f') || decide ('A' ≤ c ∧ c ≤ 'F')) &&
    Text.digitValue c < base

/-- The rest after a run of digits, in which single underscores may stand between digits. -/
def scanDigits (isDigit : Char → Bool) : Text → Option Text
  | [] => none
  | c :: t =>
    if isDigit c then
      match t with
      | '_' :: rest => scanDigits isDigit rest
      | d :: rest => if isDigit d then scanDigits isDigit (d :: rest) else some t
      | [] => some []
    else none

/-- The rest after an exponent, if there is one; a letter without digits after it is refused. -/
def scanExponent (t : Text) : Option Text :=
  match t with
  | e :: rest =>
    if e = 'e' ∨ e = 'E' then
      match rest with
      | sign :: digits =>
        if sign = '+' ∨ sign = '-' then scanDigits Text.isDigit digits
        else scanDigits Text.isDigit rest
      | [] => none
    else some t
  | [] => some t

/-- The number that ends here, if it is imaginary, and the rest. -/
def scanImaginary (t : Text) : Lexeme × Text :=
  match t with
  | c :: rest => if c = 'j' ∨ c = 'J' then (number true, rest) else (number false, t)
  | [] => (number false, t)

/-- Whether the digits of a whole number can be read: only zeros may follow a leading zero, and
there may not be too many of them. -/
def isWholeNumeral (digits : Text) : Bool :=
  let digits := digits.filter (· != '_')
  digits.all (· == '0') ||
    (digits.head? != some '0' && digits.length ≤ Text.maxNumeralDigits)

/-- A number with a fraction or an exponent, of which what stands before the rest `t` is read. -/
def scanFraction (t : Text) : Option (Lexeme × Text) := do
  let t ← match t with
    | '.' :: c :: rest =>
      if Text.isDigit c then scanDigits Text.isDigit (c :: rest) else some (c :: rest)
    | '.' :: [] => some []
    | _ => some t
  let t ← scanExponent t
  return scanImaginary t

/-- Whether a fraction, an exponent or the mark of imaginary numbers continues a number. -/
def continuesNumber (t : Text) : Bool :=
  match t with
  | c :: _ => c == '.' || c == 'e' || c == 'E' || c == 'j' || c == 'J'
  | [] => false

/-- The base that the letter after a leading zero asks for. -/
def baseOf? (c : Char) : Option Nat :=
  if c = 'x' ∨ c = 'X' then some 16
  else if c = 'o' ∨ c = 'O' then some 8
  else if c = 'b' ∨ c = 'B' then some 2
  else none

/-- The rest after a whole number in a base other than ten; its digits may begin with an
underscore. -/
def scanInBase (base : Nat) : Text → Option (Lexeme × Text)
  | '_' :: rest => (scanDigits (isDigitOf base) rest).map (number false, ·)
  | t => (scanDigits (isDigitOf base) t).map (number false, ·)

/-- A decimal number and the rest. -/
def scanDecimal (t : Text) : Option (Lexeme × Text) :=
  match scanDigits Text.isDigit t with
  | none => if t.head? = some '.' then scanFraction t else none
  | some rest =>
    if continuesNumber rest then scanFraction rest
    else if isWholeNumeral (t.take (t.length - rest.length)) then some (number false, rest)
    else none

/-- A number and the rest. -/
def scanNumber (t : Text) : Option (Lexeme × Text) :=
  match t with
  | '0' :: letter :: rest =>
    match baseOf? letter with
    | some base => scanInBase base rest
    | none => scanDecimal t
  | _ => scanDecimal t

/-! ## Quoted texts -/

/-- Whether the characters after a backslash and the letter `c` complete an escape. -/
def completesEscape (bytes : Bool) (c : Char) (t : Text) : Bool :=
  let digits (n : Nat) : Bool := (t.take n).length == n && (t.take n).all (isDigitOf 16)
  if c = 'x' then digits 2
  else if bytes then true
  else if c = 'u' then digits 4
  else if c = 'U' then digits 8 && Text.toNat 16 (t.take 8) ≤ 0x10FFFF
  else c != 'N'

/-- The rest after the end of something quoted.  A long one ends with three quotes and may have
several lines; bytes are plain characters. -/
def scanQuoted (raw bytes long : Bool) (quote : Char) : Text → Option Text
  | [] => none
  | '\\' :: [] => none
  | '\\' :: c :: t =>
    if bytes && 0x80 ≤ c.toNat then none
    else if raw || completesEscape bytes c t then scanQuoted raw bytes long quote t
    else none
  | c :: t =>
    if bytes && 0x80 ≤ c.toNat then none
    else if long then
      match Text.after? [quote, quote, quote] (c :: t) with
      | some rest => some rest
      | none => scanQuoted raw bytes long quote t
    else if c = quote then some t
    else if c = '\n' then none
    else scanQuoted raw bytes long quote t

/-- What the letters before a quote ask for: whether backslashes are characters of the text, and
whether the text is of bytes. -/
def quotedModes : List (Text × Bool × Bool) :=
  [("".toList, false, false), ("u".toList, false, false), ("r".toList, true, false),
    ("b".toList, false, true), ("br".toList, true, true), ("rb".toList, true, true)]

/-- Something quoted, of which the letters before the first quote are given, and the rest. -/
def scanQuote (letters : Text) (quote : Char) (t : Text) : Option (Lexeme × Text) :=
  match quotedModes.lookup (letters.map Char.toLower) with
  | none => none
  | some (raw, bytes) =>
    let rest? := match Text.after? [quote, quote] t with
      | some rest => scanQuoted raw bytes true quote rest
      | none => scanQuoted raw bytes false quote t
    rest?.map (quoted bytes, ·)

/-! ## All lexemes of a text -/

/-- Whether a character opens or closes something quoted. -/
def isQuote (c : Char) : Bool := c == '\'' || c == '"'

/-- A lexeme at the beginning of a text that is no blank and no mark, and the rest. -/
def scanOne (t : Text) : Option (Lexeme × Text) :=
  match t with
  | [] => none
  | '.' :: '.' :: '.' :: rest => some (dots, rest)
  | c :: rest =>
    if Text.isDigit c || (c == '.' && rest.head?.any Text.isDigit) then scanNumber t
    else
      let name := t.takeWhile Text.isWordChar
      match t.dropWhile Text.isWordChar with
      | quote :: after =>
        if isQuote quote then scanQuote name quote after
        else if name.isEmpty then none
        else some (word name, quote :: after)
      | [] => some (word name, [])

/-- Whether a line is indented without being blank or a comment. -/
def isIndented (t : Text) : Bool :=
  let isIndent (c : Char) : Bool := c == ' ' || c == '\t'
  t.head?.any isIndent && (t.dropWhile isIndent).head?.any fun c => c != '#' && c != '\n'

/-- How deep brackets may be nested. -/
def maxDepth : Nat := 200

/-- The lexemes of a text inside `depth` brackets; each takes a step. -/
def lexemesFrom : (steps depth : Nat) → Text → Option (List Lexeme)
  | 0, _, _ => none
  | _ + 1, _, [] => some []
  | steps + 1, depth, c :: t =>
    if c = ' ' ∨ c = '\t' ∨ c = '\x0c' then lexemesFrom steps depth t
    else if c = '\n' then
      if 0 < depth then lexemesFrom steps depth t
      else if isIndented t then none
      else (lexemesFrom steps depth t).map (lineEnd :: ·)
    else if c = '#' then lexemesFrom steps depth (t.dropWhile (· != '\n'))
    else if c = '\\' then
      match t with
      | '\n' :: rest => lexemesFrom steps depth rest
      | _ => none
    else if c = '(' ∨ c = '{' then
      if depth < maxDepth then (lexemesFrom steps (depth + 1) t).map (mark c :: ·) else none
    else if c = ')' ∨ c = '}' then (lexemesFrom steps (depth - 1) t).map (mark c :: ·)
    else if c = ',' ∨ c = ':' ∨ c = '+' ∨ c = '-' then
      (lexemesFrom steps depth t).map (mark c :: ·)
    else
      match scanOne (c :: t) with
      | some (lexeme, rest) => (lexemesFrom steps depth rest).map (lexeme :: ·)
      | none => none

/-- A text in which each line ends with a line feed. -/
def unifyLines : Text → Text
  | [] => []
  | '\r' :: '\n' :: t => '\n' :: unifyLines t
  | '\r' :: t => '\n' :: unifyLines t
  | c :: t => c :: unifyLines t

/-- The lexemes of a text. -/
def lexemes (t : Text) : Option (List Lexeme) :=
  let t := unifyLines t
  lexemesFrom (t.length + 1) 0 t

/-- Digits without underscores are one run. -/
theorem scanDigits_of_digits {isDigit : Char → Bool} {t : Text} (hne : t ≠ [])
    (h : ∀ c ∈ t, isDigit c = true) (hline : isDigit '_' = false) :
    scanDigits isDigit t = some [] := by
  induction t with
  | nil => exact absurd rfl hne
  | cons c t ih =>
    have hc := h c List.mem_cons_self
    cases t with
    | nil => simp [scanDigits, hc]
    | cons d t =>
      have hd := h d (List.mem_cons_of_mem c List.mem_cons_self)
      have hdline : d ≠ '_' := fun heq => by simp [heq, hline] at hd
      rw [scanDigits]
      · simp only [hc, hd, if_true]
        exact ih (List.cons_ne_nil d t) fun x hx => h x (List.mem_cons_of_mem c hx)
      · exact hdline

/-- Nothing has no lexemes. -/
theorem lexemes_nil : lexemes [] = some [] := rfl

end Lexeme

end Markup

end CardQuery
