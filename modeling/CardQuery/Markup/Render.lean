import CardQuery.Markup
import CardQuery.Markup.Literal
import CardQuery.Markup.Style

/-!
# Rendering

The tags of markup switch styles on and off, and markup is shown only if every tag that switches a
style off finds it on.  A tag whose name begins with an at sign calls something with literals.

Main results:

- `take?_eq_none_iff` says that a style cannot be switched off exactly when it is not on.
- `render_of_noBracket` says that a text without brackets is markup of itself.
-/

namespace CardQuery

namespace Markup

/-- Why markup cannot be shown. -/
inductive Fault
  /-- A tag switches a style off that is not on. -/
  | unmatched (inner : Text)
  /-- A tag calls something with what is no literal. -/
  | badCall (call : Text)
  /-- A part of a colour is not a number that can be read. -/
  | unreadableNumber
deriving DecidableEq, Repr

/-! ## Tags that are on -/

/-- A tag that switched a style on. -/
structure OpenTag where
  /-- The name by which the style is compared. -/
  name : Text
  /-- What stands after an equals sign. -/
  parameters? : Option Text
deriving DecidableEq, Repr

namespace OpenTag

/-- The words of the style that a tag switched on. -/
def style (tag : OpenTag) : Text :=
  match tag.parameters? with
  | none => tag.name
  | some parameters => tag.name ++ ' ' :: parameters

/-- Whether a tag calls something instead of naming a style. -/
def isCall (tag : OpenTag) : Bool := tag.name.head? == some '@'

/-- The style that is left of a tag when it is switched off, if any. -/
def close (tag : OpenTag) : Except Fault (List Text) :=
  if tag.isCall then
    let call := tag.parameters?.getD []
    if call.isEmpty || Literal.isAccepted call then .ok [] else .error (.badCall call)
  else .ok [tag.style]

/-- The last tag that switched a style on, which is compared by its name, and the other tags. -/
def take? (name : Text) : List OpenTag → Option (OpenTag × List OpenTag)
  | [] => none
  | tag :: rest =>
    if tag.name = name then some (tag, rest)
    else (take? name rest).map fun found => (found.1, tag :: found.2)

/-- A style cannot be switched off exactly when it is not on. -/
theorem take?_eq_none_iff {name : Text} {tags : List OpenTag} :
    take? name tags = none ↔ ∀ tag ∈ tags, tag.name ≠ name := by
  induction tags with
  | nil => simp [take?]
  | cons tag rest ih => by_cases h : tag.name = name <;> simp [take?, h, ih]

end OpenTag

/-! ## Switching styles on and off -/

/-- What a tag does. -/
inductive Switch
  /-- A style is switched on. -/
  | on (tag : OpenTag)
  /-- A style is switched off. -/
  | off (name : Text)
  /-- The style that was switched on last is switched off. -/
  | offLast
deriving DecidableEq, Repr

/-- The name by which a style is compared. -/
def normalName (t : Text) : Except Fault Text :=
  match Style.normalName t with
  | .ok name => .ok name
  | .error _ => .error .unreadableNumber

/-- What the tag with an inner text does.  An equals sign begins parameters of the style. -/
def Switch.ofTag (inner : Text) : Except Fault Switch :=
  let isName (c : Char) : Bool := c != '='
  match inner.takeWhile isName with
  | '/' :: name =>
    if (Text.strip name).isEmpty then .ok offLast else (normalName name).map off
  | name => (normalName name).map fun name => on ⟨name, (inner.dropWhile isName).tail?⟩

/-- The styles that tags describe, given those that are on, the last one first. -/
def stylesOf (opened : List OpenTag) : List Text → Except Fault (List Text)
  | [] => .ok (opened.map OpenTag.style)
  | inner :: rest =>
    let close (found? : Option (OpenTag × List OpenTag)) : Except Fault (List Text) :=
      match found? with
      | none => .error (.unmatched inner)
      | some (tag, opened) => do
        let styles ← tag.close
        return styles ++ (← stylesOf opened rest)
    match Switch.ofTag inner with
    | .error fault => .error fault
    | .ok (.on tag) => stylesOf (tag :: opened) rest
    | .ok (.off name) => close (OpenTag.take? name opened)
    | .ok .offLast => close (opened.head?.map (·, opened.tail))

/-- Whether the words of a style hold a number that cannot be read. -/
def isUnreadable (style : Text) : Bool :=
  match Style.read style with
  | .error .unreadableNumber => true
  | _ => false

/-- Whether the styles that tags describe can be read.  What is no style changes nothing. -/
def checkStyles (styles : List Text) : Except Fault Unit :=
  if styles.any isUnreadable then .error .unreadableNumber else .ok ()

/-- The text that markup shows, or why it cannot be shown. -/
def render (t : Text) : Except Fault Text := do
  let tokens := read t
  let styles ← stylesOf [] (tags tokens)
  checkStyles styles
  return shown tokens

/-- A text without brackets is markup of itself. -/
theorem render_of_noBracket {t : Text} (h : '[' ∉ t) : render t = .ok t := by
  simp only [render, tags_read_of_noBracket h, shown_read_of_noBracket h]
  rfl

end Markup

end CardQuery
