import CardQuery.Arguments
import CardQuery.Config

/-!
# Invocations

What a command line asks for.  Options that hold for the whole program come first, then a command,
then the arguments of the command, which are read on their own.

Main results:

- `ParseRequest.read_of_words` says that words alone are the query, in order.
- `Request.read_nil` says that there must be a command.
-/

namespace CardQuery

/-! ## The whole program -/

/-- The options of the whole program. -/
inductive ProgramOption
  | config
  | strict
  | noStrict
  | noColor
  | verbose
  | debug
  | quiet
  | version
  | help
deriving DecidableEq, Repr

/-- What the options of the whole program ask for. -/
structure Invocation where
  /-- The name of the configuration file, if it is not the default one. -/
  configFile : Option Text := none
  /-- Whether unknown states and properties are refused, if the configuration is not to say so. -/
  strict : Option Bool := none
  /-- Whether messages shall be without colour. -/
  noColor : Bool := false
  /-- Whether messages about the progress are asked for. -/
  verbose : Bool := false
  /-- Whether the log of the compilation is asked for. -/
  debug : Bool := false
  /-- Whether warnings are left out. -/
  quiet : Bool := false
deriving DecidableEq, Repr

/-- The commands. -/
inductive Command
  /-- Show how a query is understood. -/
  | parse
  /-- Write a starter file. -/
  | initConfig
deriving DecidableEq, Repr

/-- The command with a name. -/
def Command.named? (name : Text) : Option Command :=
  if name = "parse".toList then some .parse
  else if name = "init-config".toList then some .initConfig
  else none

/-- What a command line asks for. -/
inductive Request
  /-- The version of the program. -/
  | version
  /-- Help about the program. -/
  | help
  /-- A command with its arguments. -/
  | command (invocation : Invocation) (command : Command) (args : List Text)
deriving DecidableEq, Repr

/-- How the options of the whole program are given.  They end at the first word. -/
def programUsage : Usage ProgramOption where
  rules :=
    [{ option := .config, long := "--config".toList, short := some 'c', takesValue := true },
     { option := .strict, long := "--strict".toList },
     { option := .noStrict, long := "--no-strict".toList },
     { option := .noColor, long := "--no-color".toList },
     { option := .verbose, long := "--verbose".toList, short := some 'v' },
     { option := .debug, long := "--debug".toList },
     { option := .quiet, long := "--quiet".toList, short := some 'q' },
     { option := .version, long := "--version".toList },
     { option := .help, long := "--help".toList }]
  mixed := false

/-- The strictness that options ask for; the last one counts. -/
def Invocation.strictness (options : List (Given ProgramOption)) : Option Bool :=
  options.foldl
    (fun found g =>
      match g.option with
      | .strict => some true
      | .noStrict => some false
      | _ => found)
    none

/-- What options of the whole program ask for. -/
def Invocation.ofArguments (a : Arguments ProgramOption) : Invocation where
  configFile := a.last? .config
  strict := strictness a.given
  noColor := a.has .noColor
  verbose := a.has .verbose
  debug := a.has .debug
  quiet := a.has .quiet

namespace Request

/-- The answer that needs no command, if options ask for one; the first one counts. -/
def immediate? (a : Arguments ProgramOption) : Option Request :=
  a.given.findSome? fun g =>
    match g.option with
    | .version => some version
    | .help => some help
    | _ => none

/-- What a command line asks for; `isDirectory` tells which files named on it are directories.  A
word that is no command but may be an option is read as one. -/
def read (isDirectory : Text → Bool) (args : List Text) : Except UsageFault Request :=
  match programUsage.read args with
  | .error fault => .error fault
  | .ok a =>
    match immediate? a with
    | some answer => .ok answer
    | none =>
      let invocation := Invocation.ofArguments a
      match invocation.configFile.filter isDirectory with
      | some path => .error (.isDirectory path)
      | none =>
        match a.words with
        | [] => .error .missingCommand
        | name :: rest =>
          match Command.named? name with
          | some known => .ok (command invocation known rest)
          | none =>
            match (programUsage.read (name :: rest)).toOption.bind immediate? with
            | some answer => .ok answer
            | none => .error (.unknownCommand name)

/-- There must be a command. -/
theorem read_nil (isDirectory : Text → Bool) : read isDirectory [] = .error .missingCommand := rfl

end Request

/-! ## Showing a query -/

/-- The options of the command that shows a query. -/
inductive ParseOption
  | format
  | help
deriving DecidableEq, Repr

/-- What the command that shows a query is asked for. -/
inductive ParseRequest
  /-- Help about the command. -/
  | help
  /-- A query in words, shown in a form if one is named. -/
  | query (format : Option Text) (words : List Text)
deriving DecidableEq, Repr

/-- How the options of the command that shows a query are given: anywhere, and whatever is no
option belongs to the query. -/
def parseUsage : Usage ParseOption where
  rules :=
    [{ option := .format, long := "--format".toList, takesValue := true },
     { option := .help, long := "--help".toList }]
  lenient := true

namespace ParseRequest

/-- What the command that shows a query is asked for. -/
def read (args : List Text) : Except UsageFault ParseRequest :=
  match parseUsage.read args with
  | .error fault => .error fault
  | .ok a =>
    if a.has .help then .ok help
    else
      let format := a.last? .format
      match format.filter (· ∉ outputFormats) with
      | some name => .error (.unknownChoice "--format".toList name)
      | none => if a.words.isEmpty then .error .missingWord else .ok (query format a.words)

/-- Words alone are the query, in order. -/
theorem read_of_words {args : List Text} (hne : args ≠ [])
    (h : ∀ arg ∈ args, parseUsage.readOne arg = .word) : read args = .ok (query none args) := by
  have hempty : args.isEmpty = false := by simpa using hne
  simp [read, Usage.read_of_words h, Arguments.has, Arguments.last?, hempty]

end ParseRequest

/-! ## Writing a starter file -/

/-- The options of the command that writes a starter file. -/
inductive InitOption
  | force
  | output
  | print
  | help
deriving DecidableEq, Repr

/-- What the command that writes a starter file is asked for. -/
inductive InitRequest
  /-- Help about the command. -/
  | help
  /-- The text of the starter file. -/
  | print
  /-- The starter file, under a name if one is given, in place of another file if forced. -/
  | write (output : Option Text) (force : Bool)
deriving DecidableEq, Repr

/-- How the options of the command that writes a starter file are given. -/
def initUsage : Usage InitOption where
  rules :=
    [{ option := .force, long := "--force".toList },
     { option := .output, long := "--output".toList, short := some 'o', takesValue := true },
     { option := .print, long := "--print".toList },
     { option := .help, long := "--help".toList }]

/-- What the command that writes a starter file is asked for; `isDirectory` tells which files named
among the arguments are directories. -/
def InitRequest.read (isDirectory : Text → Bool) (args : List Text) :
    Except UsageFault InitRequest :=
  match initUsage.read args with
  | .error fault => .error fault
  | .ok a =>
    if a.has .help then .ok help
    else
      let output := a.last? .output
      match output.filter isDirectory, a.words with
      | some path, _ => .error (.isDirectory path)
      | none, word :: _ => .error (.needlessWord word)
      | none, [] => .ok (if a.has .print then print else write output (a.has .force))

end CardQuery
