import CardQuery.Toml

/-!
# TOML numbers and moments

Numbers in four bases, dates and times of day.

Main results:

- `daysIn_le` says that no month has more than 31 days.
- `readRun?_eq_none_iff` says that a run of digits needs a digit in front.
-/

namespace CardQuery

namespace Toml

/-! ## Digits -/

/-- The digits at the beginning of a text after a first digit, single underscores between digits
left out, and the rest. -/
def moreDigits (isDigit : Char → Bool) : Text → Text × Text
  | '_' :: c :: rest =>
    if isDigit c then
      let found := moreDigits isDigit rest
      (c :: found.1, found.2)
    else ([], '_' :: c :: rest)
  | c :: rest =>
    if isDigit c then
      let found := moreDigits isDigit rest
      (c :: found.1, found.2)
    else ([], c :: rest)
  | [] => ([], [])

/-- The run of digits at the beginning of a text, and the rest. -/
def readRun? (isDigit : Char → Bool) : Text → Option (Text × Text)
  | [] => none
  | c :: rest =>
    if isDigit c then
      let found := moreDigits isDigit rest
      some (c :: found.1, found.2)
    else none

/-- A run of digits needs a digit in front. -/
theorem readRun?_eq_none_iff {isDigit : Char → Bool} {t : Text} :
    readRun? isDigit t = none ↔ ∀ c ∈ t.head?, isDigit c = false := by
  cases t with
  | nil => simp [readRun?]
  | cons c rest => cases h : isDigit c <;> simp [readRun?, h]

/-- The number that the first `count` characters denote, if they are digits, and the rest. -/
def readFixed? (count : Nat) (t : Text) : Option (Nat × Text) :=
  let digits := t.take count
  if digits.length = count ∧ digits.all Text.isDigit then some (Text.toNat 10 digits, t.drop count)
  else none

/-! ## Dates and times of day -/

/-- Whether a year of the calendar is a leap year. -/
def isLeapYear (year : Nat) : Bool := year % 4 = 0 && (year % 100 ≠ 0 || year % 400 = 0)

/-- How many days a month of the calendar has. -/
def daysIn (year month : Nat) : Nat :=
  if month = 2 then if isLeapYear year then 29 else 28
  else if month = 4 ∨ month = 6 ∨ month = 9 ∨ month = 11 then 30
  else 31

/-- No month has more than 31 days. -/
theorem daysIn_le (year month : Nat) : daysIn year month ≤ 31 := by
  unfold daysIn
  split
  · split <;> omega
  · split <;> omega

/-- A date in the form `1979-05-27` with a month up to 12 and a day up to 31, and the rest; with it
whether the calendar has the date. -/
def readDate? (t : Text) : Option (Bool × Text) := do
  let (year, t) ← readFixed? 4 t
  let t ← Text.after? ['-'] t
  let (month, t) ← readFixed? 2 t
  let t ← Text.after? ['-'] t
  let (day, t) ← readFixed? 2 t
  if 1 ≤ month ∧ month ≤ 12 ∧ 1 ≤ day ∧ day ≤ 31 then
    some (decide (1 ≤ year ∧ day ≤ daysIn year month), t)
  else none

/-- The rest after the fraction of a second, which may be missing. -/
def skipFraction (t : Text) : Text :=
  match t with
  | '.' :: c :: rest => if Text.isDigit c then rest.dropWhile Text.isDigit else t
  | _ => t

/-- The rest after two numbers of two digits with a colon between, the first below 24 and the
second below 60. -/
def skipHourMinute? (t : Text) : Option Text := do
  let (hour, t) ← readFixed? 2 t
  let t ← Text.after? [':'] t
  let (minute, t) ← readFixed? 2 t
  if hour < 24 ∧ minute < 60 then some t else none

/-- The rest after a time of day in the form `07:32:00`, with or without a fraction. -/
def skipTime? (t : Text) : Option Text := do
  let t ← skipHourMinute? t
  let t ← Text.after? [':'] t
  let (second, t) ← readFixed? 2 t
  if second < 60 then some (skipFraction t) else none

/-- The rest after the distance from world time, which may be missing. -/
def skipOffset (t : Text) : Text :=
  match t with
  | c :: rest =>
    if c = 'Z' ∨ c = 'z' then rest
    else if c = '+' ∨ c = '-' then (skipHourMinute? rest).getD t
    else t
  | [] => t

/-- The rest after the time of day that follows a date, which may be missing. -/
def skipTimeAfterDate (t : Text) : Text :=
  match t with
  | c :: rest =>
    if c = 'T' ∨ c = 't' ∨ c = ' ' then ((skipTime? rest).map skipOffset).getD t else t
  | [] => t

/-- A date or a time of day at the beginning of a text, as it is written, and the rest; with it
whether the calendar has the date. -/
def readMoment? (t : Text) : Option (Bool × Text × Text) :=
  let found := match readDate? t with
    | some (valid, rest) => some (valid, skipTimeAfterDate rest)
    | none => (skipTime? t).map (true, ·)
  found.map fun found => (found.1, t.take (t.length - found.2.length), found.2)

/-! ## Numbers -/

/-- Whether a character is a digit of base 16. -/
def isDigit16 (c : Char) : Bool :=
  Text.isDigit c || decide ('a' ≤ c ∧ c ≤ 'f') || decide ('A' ≤ c ∧ c ≤ 'F')

/-- Whether a character is a digit of base 8. -/
def isDigit8 (c : Char) : Bool := decide ('0' ≤ c ∧ c ≤ '7')

/-- Whether a character is a digit of base 2. -/
def isDigit2 (c : Char) : Bool := c == '0' || c == '1'

/-- The number with the sign and the base of its digits in front, in base 16, 8 or 2. -/
def readBased? : Text → Option (Value × Text)
  | '0' :: 'x' :: rest =>
    (readRun? isDigit16 rest).map fun found => (.integer (Text.toNat 16 found.1), found.2)
  | '0' :: 'o' :: rest =>
    (readRun? isDigit8 rest).map fun found => (.integer (Text.toNat 8 found.1), found.2)
  | '0' :: 'b' :: rest =>
    (readRun? isDigit2 rest).map fun found => (.integer (Text.toNat 2 found.1), found.2)
  | _ => none

/-- The sign in front of a number, which may be missing, and the rest. -/
def readSign (t : Text) : Text × Text :=
  match t with
  | c :: rest => if c = '+' ∨ c = '-' then ([c], rest) else ([], t)
  | [] => ([], t)

/-- The digits before the point: a zero, or a run that begins with another digit. -/
def readWhole? : Text → Option (Text × Text)
  | '0' :: rest => some (['0'], rest)
  | t => readRun? Text.isDigit t

/-- The rest after a point and digits, which may be missing. -/
def skipPoint (t : Text) : Text :=
  match t with
  | '.' :: rest => ((readRun? Text.isDigit rest).map Prod.snd).getD t
  | _ => t

/-- The rest after an exponent, which may be missing. -/
def skipExponent (t : Text) : Text :=
  match t with
  | c :: rest =>
    if c = 'e' ∨ c = 'E' then
      ((readRun? Text.isDigit (readSign rest).2).map Prod.snd).getD t
    else t
  | [] => t

/-- A decimal number at the beginning of a text, and the rest. -/
def readDecimal? (t : Text) : Option (Except Fault Value × Text) :=
  let (sign, unsigned) := readSign t
  (readWhole? unsigned).map fun found =>
    let (digits, rest) := found
    let after := skipExponent (skipPoint rest)
    if after.length < rest.length then (.ok (.float (t.take (t.length - after.length))), after)
    else if Text.maxNumeralDigits < digits.length then (.error .oversizedNumeral, rest)
    else
      let n : Int := Text.toNat 10 digits
      (.ok (.integer (if sign = ['-'] then -n else n)), rest)

/-- Infinity or the value that is not a number at the beginning of a text, and the rest. -/
def readSpecial? (t : Text) : Option (Value × Text) :=
  let (sign, unsigned) := readSign t
  match Text.after? "inf".toList unsigned, Text.after? "nan".toList unsigned with
  | some rest, _ => some (.float (sign ++ "inf".toList), rest)
  | _, some rest => some (.float (sign ++ "nan".toList), rest)
  | _, _ => none

/-- A number or moment at the beginning of a text, and the rest. -/
def readNumber (t : Text) : Reading Value :=
  match readMoment? t with
  | some (valid, written, rest) => if valid then .ok (.moment written, rest) else malformed
  | none =>
    match readBased? t with
    | some found => .ok found
    | none =>
      match readDecimal? t with
      | some (found, rest) => found.map (·, rest)
      | none =>
        match readSpecial? t with
        | some found => .ok found
        | none => malformed

end Toml

end CardQuery
