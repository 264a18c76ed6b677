import CardQuery.Text

/-!
# Arguments of a command

The arguments of a command are options, values of options, and words.  An option is named by two
dashes and a long name or by one dash and a letter; letters can be bundled behind one dash, and two
dashes alone end the options.

Main results:

- `read_of_words` says that arguments that are all words are read as they stand.
- `read_given` says that options in front of other arguments are read before them.
-/

namespace CardQuery

/-- Why the arguments of a command line are refused. -/
inductive UsageFault
  /-- There is no such option. -/
  | unknownOption (name : Text)
  /-- The value of an option is missing. -/
  | missingValue (name : Text)
  /-- An option without a value is given one. -/
  | needlessValue (name : Text)
  /-- The value of an option is not among those allowed. -/
  | unknownChoice (name value : Text)
  /-- A file is named, but a directory stands there. -/
  | isDirectory (path : Text)
  /-- No command is named. -/
  | missingCommand
  /-- There is no such command. -/
  | unknownCommand (name : Text)
  /-- A command needs at least one word. -/
  | missingWord
  /-- A command takes no words. -/
  | needlessWord (word : Text)
deriving DecidableEq, Repr

namespace UsageFault

/-- The wording of refused arguments. -/
def message : UsageFault → Text
  | unknownOption name => "No such option: ".toList ++ name
  | missingValue name => "Option '".toList ++ name ++ "' requires an argument.".toList
  | needlessValue name => "Option '".toList ++ name ++ "' does not take a value.".toList
  | unknownChoice name value =>
    "Invalid value for '".toList ++ name ++ "': '".toList ++ value ++ "' is not a choice.".toList
  | isDirectory path => "File '".toList ++ path ++ "' is a directory.".toList
  | missingCommand => "Missing command.".toList
  | unknownCommand name => "No such command '".toList ++ name ++ "'.".toList
  | missingWord => "Missing argument.".toList
  | needlessWord word => "Got unexpected extra argument (".toList ++ word ++ ").".toList

end UsageFault

/-- An option that a command takes. -/
structure OptionRule (α : Type) where
  /-- The option. -/
  option : α
  /-- Its long name, with the two dashes. -/
  long : Text
  /-- The letter that it is named by, if there is one. -/
  short : Option Char := none
  /-- Whether a value follows it. -/
  takesValue : Bool := false

/-- What a command makes of its arguments. -/
structure Usage (α : Type) where
  /-- The options that the command takes. -/
  rules : List (OptionRule α)
  /-- Whether options are looked for behind the first word. -/
  mixed : Bool := true
  /-- Whether an unknown option is a word.  Such a command has no options named by a letter. -/
  lenient : Bool := false

/-- An option that was given, with its value; the value is empty if the option takes none. -/
structure Given (α : Type) where
  /-- The option. -/
  option : α
  /-- Its value. -/
  value : Text := []
deriving DecidableEq, Repr

/-- The options that were given, in order, and the words. -/
structure Arguments (α : Type) where
  /-- The options. -/
  given : List (Given α) := []
  /-- The words. -/
  words : List Text := []
deriving DecidableEq, Repr

namespace Arguments

variable {α : Type}

/-- Arguments with options in front. -/
def giveFirst (options : List (Given α)) (a : Arguments α) : Arguments α :=
  { a with given := options ++ a.given }

/-- Arguments with a word in front. -/
def wordFirst (word : Text) (a : Arguments α) : Arguments α := { a with words := word :: a.words }

/-- Whether an option was given. -/
def has [DecidableEq α] (a : Arguments α) (option : α) : Bool :=
  a.given.any fun g => g.option = option

/-- The value of an option that was given; the last value if it was given more than once. -/
def last? [DecidableEq α] (a : Arguments α) (option : α) : Option Text :=
  (a.given.reverse.find? fun g => g.option = option).map Given.value

end Arguments

/-- What one argument is. -/
inductive Reading (α : Type)
  /-- The end of the options. -/
  | ends
  /-- A word. -/
  | word
  /-- Options with their values. -/
  | given (options : List (Given α))
  /-- Options, and one more that has its value in the next argument. -/
  | awaits (before : List (Given α)) (option : α) (name : Text)
  /-- Nothing that the command takes. -/
  | refused (fault : UsageFault)
deriving DecidableEq, Repr

/-- A reading with one more option in front. -/
def Reading.giveFirst {α : Type} (g : Given α) : Reading α → Reading α
  | given options => given (g :: options)
  | awaits before option name => awaits (g :: before) option name
  | other => other

namespace Usage

variable {α : Type}

/-! ## One argument -/

/-- How an argument is read that begins with the long name of an option; the name ends at an
equals sign. -/
def readLong? (usage : Usage α) (arg : Text) : Option (Reading α) :=
  let name := arg.takeWhile (· != '=')
  (usage.rules.find? fun rule => rule.long == name).map fun rule =>
    match rule.takesValue, arg.dropWhile (· != '=') with
    | true, [] => .awaits [] rule.option name
    | true, _ :: value => .given [⟨rule.option, value⟩]
    | false, [] => .given [⟨rule.option, []⟩]
    | false, _ :: _ => .refused (.needlessValue name)

/-- How letters behind a dash are read.  What follows the letter of an option that takes a value is
its value. -/
def readLetters (usage : Usage α) : Text → Reading α
  | [] => .given []
  | c :: rest =>
    match usage.rules.find? fun rule => rule.short == some c with
    | none => .refused (.unknownOption ['-', c])
    | some rule =>
      if rule.takesValue then
        if rest.isEmpty then .awaits [] rule.option ['-', c] else .given [⟨rule.option, rest⟩]
      else (usage.readLetters rest).giveFirst ⟨rule.option, []⟩

/-- How an argument is read. -/
def readOne (usage : Usage α) (arg : Text) : Reading α :=
  match arg with
  | ['-', '-'] => .ends
  | '-' :: c :: rest =>
    match usage.readLong? arg with
    | some reading => reading
    | none =>
      if usage.lenient then .word
      else if c = '-' then .refused (.unknownOption arg)
      else usage.readLetters (c :: rest)
  | _ => .word

/-! ## All arguments -/

/-- How arguments are read. -/
def read (usage : Usage α) : List Text → Except UsageFault (Arguments α)
  | [] => .ok {}
  | arg :: rest =>
    match usage.readOne arg with
    | .ends => .ok { words := rest }
    | .word =>
      if usage.mixed then (usage.read rest).map (·.wordFirst arg)
      else .ok { words := arg :: rest }
    | .given options => (usage.read rest).map (·.giveFirst options)
    | .awaits before option name =>
      match rest with
      | [] => .error (.missingValue name)
      | value :: rest => (usage.read rest).map (·.giveFirst (before ++ [⟨option, value⟩]))
    | .refused fault => .error fault

/-- An argument that does not begin with a dash is a word. -/
theorem readOne_of_noDash (usage : Usage α) {arg : Text} (h : arg.head? ≠ some '-') :
    usage.readOne arg = .word := by
  unfold readOne
  split
  next => simp at h
  next => simp at h
  next => rfl

/-- Arguments that are all words are read as they stand. -/
theorem read_of_words {usage : Usage α} {args : List Text}
    (h : ∀ arg ∈ args, usage.readOne arg = .word) : usage.read args = .ok { words := args } := by
  induction args with
  | nil => rfl
  | cons arg rest ih =>
    have hrest := ih fun other hother => h other (List.mem_cons_of_mem arg hother)
    unfold read
    rw [h arg List.mem_cons_self]
    cases hmixed : usage.mixed <;> simp [hrest, Except.map, Arguments.wordFirst]

/-- Options in front of other arguments are read before them. -/
theorem read_given {usage : Usage α} {arg : Text} {options : List (Given α)}
    (h : usage.readOne arg = .given options) (rest : List Text) :
    usage.read (arg :: rest) = (usage.read rest).map (·.giveFirst options) := by
  rw [read, h]

end Usage

end CardQuery
