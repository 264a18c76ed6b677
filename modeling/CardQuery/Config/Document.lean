import CardQuery.Config
import CardQuery.Toml.Reader
import CardQuery.Toml.Writer

/-!
# Configuration documents

A configuration as a TOML document: the settings that differ from their defaults, in two sections.
Other sections and names are passed over.

Main results:

- `sections_default` says that the default configuration is written as the empty document.
- `ofTable_nil` says that the empty document holds the default configuration.
-/

namespace CardQuery

/-- Why a document holds no configuration. -/
inductive DocumentFault
  /-- The document breaks a rule of its format. -/
  | malformed
  /-- A number has more digits than can be read. -/
  | oversizedNumeral
  /-- A section that is not a table seems to hold a setting. -/
  | noTable (setting : Setting)
  /-- The value of a setting is refused. -/
  | invalid (fault : ConfigFault)
deriving DecidableEq, Repr

namespace Config

/-! ## Reading -/

/-- Whether a value is the text `name`. -/
def isName (name : Text) : Toml.Value → Bool
  | .string t => t == name
  | _ => false

/-- The value of a setting in its section.  A section that is a text or a sequence is passed over
unless the name of the setting occurs in it, and no other value can stand for a section. -/
def valueIn (setting : Setting) : Toml.Value → Except DocumentFault (Option Toml.Value)
  | .table entries => .ok (Toml.lookup? setting.name entries)
  | .string t => if Text.contains setting.name t then .error (.noTable setting) else .ok none
  | .array items =>
    if items.any (isName setting.name) then .error (.noTable setting) else .ok none
  | _ => .error (.noTable setting)

/-- The value of a setting in a document. -/
def valueOf (setting : Setting) (document : List (Text × Toml.Value)) :
    Except DocumentFault (Option Toml.Value) :=
  match Toml.lookup? setting.section_ document with
  | none => .ok none
  | some found => valueIn setting found

/-- A configuration with a setting set to a value. -/
def set (c : Config) : Setting → Toml.Value → Except DocumentFault Config
  | .strict, .boolean b => .ok { c with strict := b }
  | .maxQueryLength, .integer n => .ok { c with maxQueryLength := n }
  | .coloredOutput, .boolean b => .ok { c with coloredOutput := b }
  | .defaultFormat, .string t => .ok { c with defaultFormat := t }
  | setting, _ => .error (.invalid (.wrongKind setting))

/-- A configuration with a setting set as the document says. -/
def setFrom (document : List (Text × Toml.Value)) (c : Config) (setting : Setting) :
    Except DocumentFault Config :=
  match valueOf setting document with
  | .error fault => .error fault
  | .ok none => .ok c
  | .ok (some v) => c.set setting v

/-- The configuration that a document holds, not yet checked. -/
def ofTable (path : Option Text) (document : List (Text × Toml.Value)) :
    Except DocumentFault Config := do
  let c ← setFrom document { path := path } .strict
  let c ← setFrom document c .maxQueryLength
  let c ← setFrom document c .coloredOutput
  setFrom document c .defaultFormat

/-- The empty document holds the default configuration. -/
theorem ofTable_nil (path : Option Text) : ofTable path [] = .ok { path := path } := rfl

/-- A checked configuration with the warnings about it. -/
def checked (c : Config) : Except DocumentFault (Config × List ConfigWarning) :=
  match c.check with
  | .error fault => .error (.invalid fault)
  | .ok warnings => .ok (c, warnings)

/-- The configuration that the text of a file holds, with the warnings about it. -/
def read (path : Option Text) (source : Text) :
    Except DocumentFault (Config × List ConfigWarning) :=
  match Toml.read source with
  | .error .malformed => .error .malformed
  | .error .oversizedNumeral => .error .oversizedNumeral
  | .ok document =>
    match ofTable path document with
    | .error fault => .error fault
    | .ok c => c.checked

/-! ## Writing -/

/-- The value of a setting. -/
def get (c : Config) : Setting → Toml.Scalar
  | .strict => .boolean c.strict
  | .maxQueryLength => .integer c.maxQueryLength
  | .coloredOutput => .boolean c.coloredOutput
  | .defaultFormat => .string c.defaultFormat

/-- The settings among the given ones whose values differ from the defaults. -/
def changed (c : Config) (settings : List Setting) : List (Text × Toml.Scalar) :=
  settings.filterMap fun setting =>
    if c.get setting = get {} setting then none else some (setting.name, c.get setting)

/-- The section with the changed ones among the given settings, unless there is none. -/
def sectionOf (c : Config) (name : String) (settings : List Setting) : List Toml.Section :=
  match c.changed settings with
  | [] => []
  | entries => [⟨name.toList, entries⟩]

/-- The sections of a configuration file. -/
def sections (c : Config) : List Toml.Section :=
  c.sectionOf "search" [.strict, .maxQueryLength] ++
    c.sectionOf "display" [.coloredOutput, .defaultFormat]

/-- The text of a configuration file. -/
def write (c : Config) : Text := Toml.writeSections c.sections

/-- Nothing of the default configuration is written. -/
theorem sections_default (path : Option Text) : sections { path := path } = [] := by
  simp [sections, sectionOf, changed, get]

end Config

end CardQuery
