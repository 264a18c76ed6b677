import CardQuery.Config.File
import CardQuery.Markup
import CardQuery.QueryError

/-!
# Notices

What the program says besides its results, by cause: the stream that a notice goes to and its lines
as markup.

Main results:

- `lines_ne_nil` says that no notice is without a line.
-/

namespace CardQuery

/-- The two streams that a program writes to. -/
inductive Channel
  /-- The stream of results. -/
  | output
  /-- The stream of errors and warnings. -/
  | errors
deriving DecidableEq, Repr

/-- The tones of notices. -/
inductive Tone
  | info
  | warning
  | error
  | success
deriving DecidableEq, Repr

namespace Tone

/-- The name of the style for a tone. -/
def name : Tone → Text
  | info => "info".toList
  | warning => "warning".toList
  | error => "error".toList
  | success => "success".toList

/-- Markup in a tone. -/
def apply (tone : Tone) (markup : Text) : Text :=
  '[' :: tone.name ++ ']' :: markup ++ '[' :: '/' :: tone.name ++ [']']

end Tone

/-- What the program says besides its results. -/
inductive Notice
  /-- A query is about to be compiled. -/
  | compiling (query : Text) (strict : Bool)
  /-- A query places no constraints. -/
  | unconstrained (query : Text)
  /-- A query places so many constraints. -/
  | constrained (query : Text) (count : Nat)
  /-- A starter file was written. -/
  | created (path : Path)
  /-- Something is worth a warning about the configuration. -/
  | warned (warning : ConfigWarning)
  /-- The configuration was read from a file, if it was, and the strictness it asks for may be
  overridden. -/
  | configured (c : Config) (override : Option Bool)
  /-- A query is refused. -/
  | notUnderstood (e : QueryError)
  /-- The configuration is refused, in words. -/
  | badConfig (message : Text)
  /-- The starter file is not written, in words. -/
  | notCreated (message : Text)
deriving DecidableEq, Repr

namespace Notice

/-- The wording of an override. -/
def overrideText : Option Bool → Text
  | none => "None".toList
  | some b => LogEntry.truth b

/-- The line of an error. -/
def errorLine (markup : Text) : Text := Tone.error.apply "Error:".toList ++ ' ' :: markup

/-- The line of a hint. -/
def hintLine (markup : Text) : Text :=
  "  ".toList ++ Tone.info.apply "Hint:".toList ++ ' ' :: markup

/-- The stream that a notice goes to. -/
def channel : Notice → Channel
  | compiling _ _ | unconstrained _ | constrained _ _ | created _ => .output
  | warned _ | configured _ _ | notUnderstood _ | badConfig _ | notCreated _ => .errors

/-- The lines of a notice as markup. -/
def lines : Notice → List Text
  | compiling query strict =>
    [Tone.info.apply
      ("Parsing ".toList ++ Markup.escape query.literal ++ " (strict=".toList ++
        LogEntry.truth strict ++ [')'])]
  | unconstrained query =>
    [Tone.info.apply
      ("Search ".toList ++ Markup.escape query.literal ++
        " places no constraints (matches everything)".toList)]
  | constrained query count =>
    [Tone.info.apply
      ("Search: ".toList ++ Markup.escape query ++ " (".toList ++ Text.ofNat count ++
        " constraints)".toList)]
  | created path => [Tone.success.apply ("Created config file: ".toList ++ path.written)]
  | warned warning => [Tone.warning.apply "Warning:".toList ++ ' ' :: warning.message]
  | configured c override =>
    [Tone.warning.apply "\\[DEBUG]".toList ++ " Config ".toList ++
      c.path.getD "(defaults)".toList ++ ": strict=".toList ++ LogEntry.truth c.strict ++
      ", override=".toList ++ overrideText override]
  | notUnderstood e =>
    [errorLine "Could not understand search".toList, hintLine (Markup.escape e.message)]
  | badConfig message =>
    [errorLine message, hintLine "Run 'cardsearch init-config --force' to start over".toList]
  | notCreated message =>
    errorLine message ::
      if Text.contains "exists".toList message then [hintLine "Use --force to overwrite".toList]
      else []

/-- No notice is without a line. -/
theorem lines_ne_nil (n : Notice) : n.lines ≠ [] := by
  cases n <;> exact List.cons_ne_nil _ _

end Notice

end CardQuery
