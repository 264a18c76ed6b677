import CardQuery.Query.Document
import CardQuery.Json.Writer
import CardQuery.Session

/-!
# The program

A run of the program as a function of the place where it runs, the files and the command line.  The
options of the whole program are read and the configuration is loaded before a command looks at its
own arguments.

Main results:

- `run_of_refused` says that a command line that is refused changes no file and ends with exit
  code 2.
-/

namespace CardQuery

namespace Program

/-- What a run depends on besides its files and its command line. -/
structure Surroundings where
  /-- Where the program runs. -/
  place : Place
  /-- Whether messages without colour are asked for everywhere. -/
  noColor : Bool := false
  /-- What the reader of configuration files says of a text that is no document. -/
  complaint : Text → Text := fun _ => "not a well-formed document".toList

/-- What is printed when the version is asked for. -/
def versionLine : Text := "cardsearch, version 0.1.0\n".toList

/-- The lines that are printed when help about the program is asked for. -/
def helpLines : List String := [
  "Usage: cardsearch [OPTIONS] COMMAND [ARGS]...",
  "",
  "Commands:",
  "  parse        Show how a search string is understood.",
  "  init-config  Write a starter configuration file."]

/-- What is printed when help about the program is asked for. -/
def help : Text := helpLines.flatMap fun line => line.toList ++ ['\n']

/-- What is printed when help about a command is asked for. -/
def commandHelp : Command → Text
  | .parse => "Usage: cardsearch parse [OPTIONS] QUERY...\n".toList
  | .initConfig => "Usage: cardsearch init-config [OPTIONS]\n".toList

/-! ## Settings -/

/-- Why a configuration that cannot be loaded is refused, in words; none for what is not
foreseen. -/
def refusal? (around : Surroundings) (tree : FileTree) (file : Option Text) :
    Config.LoadFault → Option Text
  | .document (.invalid fault) => some fault.message
  | .document .malformed =>
    (Config.source? around.place tree file).map fun found =>
      "Invalid config at ".toList ++ found.1.written ++ ": ".toList ++ around.complaint found.2
  | _ => none

/-- The steps before a command: colours are settled, the configuration is loaded, and what is worth
saying about it is said. -/
def prepare (around : Surroundings) (invocation : Invocation) (s : Session) :
    Except Outcome (Config × Session) := do
  let colorless := invocation.noColor || around.noColor
  let s := { s with color := !colorless }
  match Config.load around.place s.tree invocation.configFile with
  | .error fault =>
    match refusal? around s.tree invocation.configFile fault with
    | none => .error (s.crash (.load fault))
    | some message =>
      let s ← s.say (.badConfig message)
      .error s.fail
  | .ok (c, warnings) =>
    let s := { s with color := !colorless && c.coloredOutput }
    let s ← s.sayAll (if invocation.quiet then [] else warnings.map .warned)
    let s ← s.sayAll (if invocation.debug then [.configured c invocation.strict] else [])
    return (c, s)

/-! ## Showing a query -/

/-- The steps that show a compiled query in a form. -/
def show_ (format query : Text) (q : Query) (s : Session) : Except Outcome Session :=
  if format = "json".toList then .ok (s.write .output (q.toJson.document ++ ['\n']))
  else if q.rows.isEmpty then s.say (.unconstrained query)
  else do
    let s ← s.say (.constrained query q.rows.length)
    s.put .output (Console.printedTable q.rows)

/-- The steps that compile a query and show it. -/
def parse (invocation : Invocation) (c : Config) (format : Option Text) (query : Text)
    (s : Session) : Except Outcome Session := do
  let dialect := c.dialect invocation.strict
  let chatty := invocation.verbose || invocation.debug
  let s ← s.sayAll (if chatty then [.compiling query dialect.strict] else [])
  let (log, result) := Query.compileLogged dialect query
  let s := if invocation.debug then { s with log := s.log ++ log } else s
  match result with
  | .ok q => show_ (format.getD c.defaultFormat) query q s
  | .error e =>
    match e.message? with
    | none => .error (s.crash (.query e))
    | some _ =>
      let s ← s.say (.notUnderstood e)
      .error s.fail

/-- The query that words are: the words with single spaces between them. -/
def joined (words : List Text) : Text := List.intercalate [' '] words

/-- The command that shows a query. -/
def runParse (invocation : Invocation) (c : Config) (args : List Text) (s : Session) : Outcome :=
  match ParseRequest.read args with
  | .error fault => s.refuse fault
  | .ok .help => (s.write .output (commandHelp .parse)).done
  | .ok (.query format words) => Session.finish (parse invocation c format (joined words) s)

/-! ## Writing a starter file -/

/-- The steps that write a starter file. -/
def create (place : Place) (output : Option Text) (force : Bool) (s : Session) :
    Except Outcome Session :=
  match Config.writeStarter place s.tree output force with
  | .ok (path, tree) => { s with tree := tree }.say (.created path)
  | .error (.path fault) => .error (s.crash (.path fault))
  | .error fault => do
    let s ← s.say (.notCreated (fault.message?.getD []))
    .error s.fail

/-- The command that writes a starter file. -/
def runInit (place : Place) (args : List Text) (s : Session) : Outcome :=
  match InitRequest.read (s.tree.namesDirectory place) args with
  | .error fault => s.refuse fault
  | .ok .help => (s.write .output (commandHelp .initConfig)).done
  | .ok .print => (s.write .output Config.starter).done
  | .ok (.write output force) => Session.finish (create place output force s)

/-! ## Runs -/

/-- The steps of a command, with the configuration that has been loaded before it. -/
def runCommand (around : Surroundings) (invocation : Invocation) (c : Config) (args : List Text)
    (s : Session) : Command → Outcome
  | .parse => runParse invocation c args s
  | .initConfig => runInit around.place args s

/-- A run of the program on a file tree with the arguments of a command line. -/
def run (around : Surroundings) (tree : FileTree) (args : List Text) : Outcome :=
  let s : Session := { tree := tree }
  match Request.read (tree.namesDirectory around.place) args with
  | .error fault => s.refuse fault
  | .ok .version => (s.write .output versionLine).done
  | .ok .help => (s.write .output help).done
  | .ok (.command invocation command rest) =>
    match prepare around invocation s with
    | .error outcome => outcome
    | .ok (c, s) => runCommand around invocation c rest s command

/-- The files that a command line names, as it names them. -/
def namedFiles (args : List Text) : List Text :=
  match Request.read (fun _ => false) args with
  | .ok (.command invocation command rest) =>
    let output :=
      match command, InitRequest.read (fun _ => false) rest with
      | .initConfig, .ok (.write output _) => output
      | _, _ => none
    invocation.configFile.toList ++ output.toList
  | _ => []

/-- A command line that is refused changes no file and ends with exit code 2. -/
theorem run_of_refused {around : Surroundings} {tree : FileTree} {args : List Text}
    {fault : UsageFault} (h : Request.read (tree.namesDirectory around.place) args = .error fault) :
    (run around tree args).last.tree = tree ∧ (run around tree args).exitCode = 2 := by
  simp [run, h, Session.refuse, Session.write]

end Program

end CardQuery
