import CardQuery.Toml

/-!
# TOML strings and keys

The four kinds of strings, bare keys, comments and the space between the parts of a document.

Main results:

- `readBasic_quote` and `readBasic_char` say how a basic string is read character by character.
- `length_skipComment_le` says that passing over a comment never lengthens the text.
-/

namespace CardQuery

namespace Toml

/-! ## Space and comments -/

/-- Whether a character is a space within a line. -/
def isSpace (c : Char) : Bool := c == ' ' || c == '\t'

/-- Whether a character is a space or ends a line. -/
def isSpaceOrBreak (c : Char) : Bool := isSpace c || c == '\n'

/-- Whether a character may not stand in a comment or a string on one line. -/
def isControl (c : Char) : Bool := (c.toNat < 0x20 && c != '\t') || c.toNat == 0x7F

/-- Whether a character may not stand in a string over several lines. -/
def isMultilineControl (c : Char) : Bool := isControl c && c != '\n'

/-- A text without the spaces in front. -/
def skipSpace (t : Text) : Text := t.dropWhile isSpace

/-- The text from the end of the line on, if a comment stands in front of it. -/
def skipComment (t : Text) : Except Fault Text :=
  match t with
  | '#' :: rest =>
    if (rest.takeWhile fun c => c != '\n').any isControl then malformed
    else .ok (rest.dropWhile fun c => c != '\n')
  | _ => .ok t

/-- Passing over a comment never lengthens the text. -/
theorem length_skipComment_le {t rest : Text} (h : skipComment t = .ok rest) :
    rest.length ≤ t.length := by
  unfold skipComment at h
  split at h
  next body =>
    split at h
    next => cases h
    next =>
      cases h
      have hle := (List.dropWhile_sublist (fun c => c != '\n') (l := body)).length_le
      simp only [List.length_cons]
      omega
  next =>
    cases h
    exact Nat.le_refl _

/-- A text without the spaces, line ends and comments in front. -/
def skipGap (t : Text) : Except Fault Text :=
  match _h : t.dropWhile isSpaceOrBreak with
  | '#' :: rest =>
    match _hc : skipComment ('#' :: rest) with
    | .error fault => .error fault
    | .ok [] => .ok []
    | .ok (_ :: after) => skipGap after
  | start => .ok start
termination_by t.length
decreasing_by
  have hle := (List.dropWhile_sublist isSpaceOrBreak (l := t)).length_le
  have hcomment := length_skipComment_le _hc
  rw [_h] at hle
  simp only [List.length_cons] at *
  omega

/-! ## Characters by number -/

/-- Whether a character is a hexadecimal digit. -/
def isHexDigit (c : Char) : Bool :=
  Text.isDigit c || decide ('a' ≤ c ∧ c ≤ 'f') || decide ('A' ≤ c ∧ c ≤ 'F')

/-- The character with the number that hexadecimal digits denote. -/
def charOfDigits (digits : Text) : Except Fault Char :=
  let n := Text.toNat 16 digits
  if digits.all isHexDigit && (n < 0xD800 || (0xE000 ≤ n && n < 0x110000)) then .ok (Char.ofNat n)
  else malformed

/-- The character that a backslash and a letter stand for. -/
def shortEscape? (c : Char) : Option Char :=
  match c with
  | '"' => some '"'
  | '\\' => some '\\'
  | 'b' => some '\x08'
  | 't' => some '\t'
  | 'n' => some '\n'
  | 'f' => some '\x0c'
  | 'r' => some '\r'
  | _ => none

/-- The character that stands after a backslash, and the rest. -/
def readEscape : Text → Reading Char
  | 'u' :: a :: b :: c :: d :: rest => (charOfDigits [a, b, c, d]).map (·, rest)
  | 'U' :: a :: b :: c :: d :: e :: f :: g :: h :: rest =>
    (charOfDigits [a, b, c, d, e, f, g, h]).map (·, rest)
  | c :: rest =>
    match shortEscape? c with
    | some e => .ok (e, rest)
    | none => malformed
  | [] => malformed

/-- What follows an escape is shorter than the text that it begins. -/
theorem length_of_readEscape {t rest : Text} {c : Char} (h : readEscape t = .ok (c, rest)) :
    rest.length < t.length := by
  unfold readEscape at h
  split at h
  next a b c' d rest' =>
    cases hread : charOfDigits [a, b, c', d] with
    | error fault =>
      rw [hread] at h
      cases h
    | ok e =>
      rw [hread] at h
      cases h
      simp only [List.length_cons]
      omega
  next a b c' d e f g h' rest' =>
    cases hread : charOfDigits [a, b, c', d, e, f, g, h'] with
    | error fault =>
      rw [hread] at h
      cases h
    | ok e =>
      rw [hread] at h
      cases h
      simp only [List.length_cons]
      omega
  next =>
    split at h
    next =>
      cases h
      simp
    next => cases h
  next => cases h

/-! ## Strings -/

/-- The rest of a string on one line whose opening quote has just been read. -/
def readBasic (t : Text) : Reading Text :=
  match t with
  | [] => malformed
  | c :: rest =>
    if c = '"' then .ok ([], rest)
    else if c = '\\' then
      match _h : readEscape rest with
      | .error fault => .error fault
      | .ok (e, after) => (readBasic after).map fun found => (e :: found.1, found.2)
    else if isControl c then malformed
    else (readBasic rest).map fun found => (c :: found.1, found.2)
termination_by t.length
decreasing_by
  · have := length_of_readEscape _h
    simp only [List.length_cons]
    omega
  · simp

/-- A string ends at its closing quote. -/
theorem readBasic_quote (rest : Text) : readBasic ('"' :: rest) = .ok ([], rest) := by
  rw [readBasic]
  rfl

/-- A character other than a quote, a backslash and a control stands for itself. -/
theorem readBasic_char {c : Char} (hquote : c ≠ '"') (hslash : c ≠ '\\')
    (hcontrol : isControl c = false) (rest : Text) :
    readBasic (c :: rest) = (readBasic rest).map fun found => (c :: found.1, found.2) := by
  rw [readBasic, if_neg hquote, if_neg hslash, hcontrol]
  rfl

/-- The rest of a literal string on one line whose opening apostrophe has just been read. -/
def readLiteral (t : Text) : Reading Text :=
  let body := t.takeWhile fun c => c != '\''
  match t.dropWhile fun c => c != '\'' with
  | _ :: rest => if body.any isControl then malformed else .ok (body, rest)
  | [] => malformed

/-- A text without a line end in front. -/
def skipBreak (t : Text) : Text :=
  match t with
  | '\n' :: rest => rest
  | _ => t

/-- Up to two more quotes that belong to a string over several lines, and the rest. -/
def moreQuotes (quote : Char) (t : Text) : Text × Text :=
  match t with
  | a :: b :: rest =>
    if a = quote then if b = quote then ([a, b], rest) else ([a], b :: rest) else ([], t)
  | [a] => if a = quote then ([a], []) else ([], t)
  | [] => ([], [])

/-- The rest of a string over several lines whose opening quotes have just been read.  A backslash
at the end of a line takes away the line end and all space after it. -/
def readMultiline (t : Text) : Reading Text :=
  match t with
  | [] => malformed
  | '"' :: '"' :: '"' :: rest => .ok (moreQuotes '"' rest)
  | c :: rest =>
    if c = '\\' then
      match _hs : skipSpace rest with
      | '\n' :: after => readMultiline (after.dropWhile isSpaceOrBreak)
      | _ =>
        match _h : readEscape rest with
        | .error fault => .error fault
        | .ok (e, after) => (readMultiline after).map fun found => (e :: found.1, found.2)
    else if isMultilineControl c then malformed
    else (readMultiline rest).map fun found => (c :: found.1, found.2)
termination_by t.length
decreasing_by
  · have hspace := (List.dropWhile_sublist isSpace (l := rest)).length_le
    have hgap := (List.dropWhile_sublist isSpaceOrBreak (l := after)).length_le
    unfold skipSpace at _hs
    rw [_hs] at hspace
    simp only [List.length_cons] at *
    omega
  · have := length_of_readEscape _h
    simp only [List.length_cons]
    omega
  · simp

/-- The rest of a literal string over several lines whose opening apostrophes have just been
read. -/
def readMultilineLiteral : Text → Reading Text
  | [] => malformed
  | '\'' :: '\'' :: '\'' :: rest => .ok (moreQuotes '\'' rest)
  | c :: rest =>
    if isMultilineControl c then malformed
    else (readMultilineLiteral rest).map fun found => (c :: found.1, found.2)

/-- The string that begins with a quote or an apostrophe, and the rest. -/
def readString : Text → Reading Text
  | '"' :: '"' :: '"' :: rest => readMultiline (skipBreak rest)
  | '"' :: rest => readBasic rest
  | '\'' :: '\'' :: '\'' :: rest => readMultilineLiteral (skipBreak rest)
  | '\'' :: rest => readLiteral rest
  | _ => malformed

/-! ## Keys -/

/-- Whether a character can stand in a key without quotes. -/
def isKeyChar (c : Char) : Bool :=
  Text.isDigit c || decide ('a' ≤ c ∧ c ≤ 'z') || decide ('A' ≤ c ∧ c ≤ 'Z') || c == '-' || c == '_'

/-- One part of a key, bare or quoted on one line, and the rest. -/
def readKeyPart : Text → Reading Text
  | '"' :: rest => readBasic rest
  | '\'' :: rest => readLiteral rest
  | t =>
    match t.takeWhile isKeyChar with
    | [] => malformed
    | name => .ok (name, t.dropWhile isKeyChar)

/-- The parts of a key between dots, and the rest after the spaces that follow it, in at most the
given number of parts. -/
def readKeyWithin : Nat → Text → Reading (List Text)
  | 0, _ => malformed
  | fuel + 1, t =>
    match readKeyPart t with
    | .error fault => .error fault
    | .ok (part, rest) =>
      match skipSpace rest with
      | '.' :: rest =>
        (readKeyWithin fuel (skipSpace rest)).map fun found => (part :: found.1, found.2)
      | rest => .ok ([part], rest)

/-- The parts of a key between dots, and the rest after the spaces that follow it. -/
def readKey (t : Text) : Reading (List Text) := readKeyWithin (t.length + 1) t

end Toml

end CardQuery
