import CardQuery.Markup.Color
import CardQuery.Text.Case

/-!
# Styles

A style is written as words: attributes, attributes that are switched off, a colour, a colour for
the background, and the address of a link.  A style has a normal text, by which two spellings of it
are compared.

Main results:

- `read_of_blank` says that the style without words is the one without attributes.
- `normalName_of_noStyle` says that a name that is no style is compared in small letters.
-/

namespace CardQuery

namespace Markup

/-- What can be switched on or off in a style. -/
inductive Attribute
  | bold
  | dim
  | italic
  | underline
  | blink
  | blink2
  | reverse
  | conceal
  | strike
  | underline2
  | frame
  | encircle
  | overline
deriving DecidableEq, Repr

namespace Attribute

/-- The full name of an attribute. -/
def name : Attribute → Text
  | bold => "bold".toList
  | dim => "dim".toList
  | italic => "italic".toList
  | underline => "underline".toList
  | blink => "blink".toList
  | blink2 => "blink2".toList
  | reverse => "reverse".toList
  | conceal => "conceal".toList
  | strike => "strike".toList
  | underline2 => "underline2".toList
  | frame => "frame".toList
  | encircle => "encircle".toList
  | overline => "overline".toList

/-- The short name of an attribute, if it has one. -/
def shortName? : Attribute → Option Text
  | bold => some "b".toList
  | dim => some "d".toList
  | italic => some "i".toList
  | underline => some "u".toList
  | reverse => some "r".toList
  | conceal => some "c".toList
  | strike => some "s".toList
  | underline2 => some "uu".toList
  | overline => some "o".toList
  | blink | blink2 | frame | encircle => none

/-- All attributes, in the order in which they are written. -/
def all : List Attribute :=
  [bold, dim, italic, underline, blink, blink2, reverse, conceal, strike, underline2, frame,
    encircle, overline]

/-- The attribute with a full or short name. -/
def ofName? (word : Text) : Option Attribute :=
  all.find? fun a => a.name == word || a.shortName? == some word

/-- An attribute is found by its full name. -/
theorem ofName?_name (a : Attribute) : ofName? a.name = some a := by
  cases a <;> decide

end Attribute

/-- A style. -/
structure Style where
  /-- The attributes that are switched on or off, the last one first. -/
  attributes : List (Attribute × Bool) := []
  /-- The word for the colour. -/
  color? : Option Text := none
  /-- The word for the colour of the background. -/
  background? : Option Text := none
  /-- The address of the link. -/
  link? : Option Text := none
deriving DecidableEq, Repr

namespace Style

/-- A style with more words. -/
def readWords (s : Style) : List Text → Except StyleFault Style
  | [] => .ok s
  | word :: rest =>
    let name := Text.lower word
    if name = "on".toList then
      match rest with
      | [] => .error .noStyle
      | next :: rest =>
        match Color.check (Text.lower next) with
        | .error fault => .error fault
        | .ok () => readWords { s with background? := some (Text.lower next) } rest
    else if name = "not".toList then
      match rest with
      | [] => .error .noStyle
      | next :: rest =>
        match Attribute.ofName? next with
        | none => .error .noStyle
        | some a => readWords { s with attributes := (a, false) :: s.attributes } rest
    else if name = "link".toList then
      match rest with
      | [] => .error .noStyle
      | next :: rest => readWords { s with link? := some next } rest
    else
      match Attribute.ofName? name with
      | some a => readWords { s with attributes := (a, true) :: s.attributes } rest
      | none =>
        match Color.check name with
        | .error fault => .error fault
        | .ok () => readWords { s with color? := some name } rest

/-- The word that alone stands for the style without attributes. -/
def noneWord : Text := "none".toList

/-- The words of a text. -/
def wordsOf (t : Text) : List Text := (Text.partsBetween Text.isBlank t).filter fun w => !w.isEmpty

/-- The style that a text describes. -/
def read (t : Text) : Except StyleFault Style :=
  if t.strip = noneWord then .ok {} else readWords {} (wordsOf t)

/-- The words of the normal text of a style. -/
def words (s : Style) : List Text :=
  let attributes := Attribute.all.flatMap fun a =>
    match s.attributes.lookup a with
    | some true => [a.name]
    | some false => ["not".toList, a.name]
    | none => []
  let color := s.color?.toList
  let background := s.background?.toList.flatMap fun word => ["on".toList, word]
  let link := s.link?.toList.flatMap fun address => ["link".toList, address]
  attributes ++ color ++ background ++ link

/-- The normal text of a style. -/
def text (s : Style) : Text :=
  if s.words.isEmpty then noneWord else List.intercalate [' '] s.words

/-- The name by which a style is compared: its normal text, or its name in small letters if it has
no meaning of its own. -/
def normalName (t : Text) : Except StyleFault Text :=
  match read t with
  | .ok s => .ok s.text
  | .error .noStyle => .ok (Text.lower t.strip)
  | .error .unreadableNumber => .error .unreadableNumber

/-- A text of blanks has no words. -/
theorem wordsOf_of_blank {t : Text} (h : ∀ c ∈ t, Text.isBlank c = true) : wordsOf t = [] := by
  induction t with
  | nil => rfl
  | cons c t ih =>
    have hrest := ih fun d hd => h d (List.mem_cons_of_mem c hd)
    simpa [wordsOf, Text.partsBetween, h c List.mem_cons_self] using hrest

/-- The style without words is the one without attributes. -/
theorem read_of_blank {t : Text} (h : ∀ c ∈ t, Text.isBlank c = true) : read t = .ok {} := by
  unfold read
  split
  next => rfl
  next => rw [wordsOf_of_blank h, readWords]

/-- A name that is no style is compared in small letters. -/
theorem normalName_of_noStyle {t : Text} (h : read t = .error .noStyle) :
    normalName t = .ok (Text.lower t.strip) := by
  rw [normalName, h]

end Style

end Markup

end CardQuery
