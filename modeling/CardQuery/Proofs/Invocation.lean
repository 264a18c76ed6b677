import CardQuery.Invocation
import Mathlib.Data.List.Induction

/-!
# Command lines

How a command line that asks for a query is read.  In front of the command stand flags.  Behind it,
an argument that neither ends the options nor names one belongs to the query, whatever it looks like
otherwise, and the form of the answer may be asked for anywhere among such arguments.

Main results:

- `readOne_eq_word_iff` says which arguments belong to the query wherever they stand.
- `Request.read_flags` says what flags in front of a command ask for.
- `ParseRequest.read_format` says that a form may be asked for anywhere among the query.
-/

namespace CardQuery

namespace Usage

variable {α : Type}

/-- Words in front of other arguments are read before them. -/
theorem read_words {usage : Usage α} (hmixed : usage.mixed = true) {words : List Text}
    (h : ∀ word ∈ words, usage.readOne word = .word) (rest : List Text) :
    usage.read (words ++ rest) =
      (usage.read rest).map fun a => { a with words := words ++ a.words } := by
  induction words with
  | nil =>
    rw [List.nil_append]
    cases usage.read rest <;> rfl
  | cons word words ih =>
    have hrest := ih fun other hother => h other (List.mem_cons_of_mem word hother)
    rw [List.cons_append, read, h word List.mem_cons_self, hmixed, hrest]
    cases usage.read rest <;> rfl

/-- Flags in front of other arguments are read before them. -/
theorem read_flags {β : Type} {usage : Usage α} {written : β → Text} {option : β → α}
    (h : ∀ flag, usage.readOne (written flag) = .given [⟨option flag, []⟩]) (flags : List β)
    (rest : List Text) :
    usage.read (flags.map written ++ rest) =
      (usage.read rest).map (·.giveFirst (flags.map fun flag => ⟨option flag, []⟩)) := by
  induction flags with
  | nil =>
    rw [List.map_nil, List.nil_append]
    cases usage.read rest <;> rfl
  | cons flag flags ih =>
    rw [List.map_cons, List.cons_append, read_given (h flag), ih]
    cases usage.read rest <;> rfl

/-- An option and its value in the next argument are read before the other arguments. -/
theorem read_awaits {usage : Usage α} {arg name : Text} {option : α}
    (h : usage.readOne arg = .awaits [] option name) (value : Text) (rest : List Text) :
    usage.read (arg :: value :: rest) = (usage.read rest).map (·.giveFirst [⟨option, value⟩]) := by
  rw [read, h]
  rfl

/-- An argument that begins with the long name of an option is not a word. -/
theorem readLong?_ne_word (usage : Usage α) (arg : Text) : usage.readLong? arg ≠ some .word := by
  intro h
  obtain ⟨rule, -, hreading⟩ := Option.map_eq_some_iff.1 h
  split at hreading <;> cases hreading

end Usage

/-! ## Flags in front of the command -/

/-- The flags that settle the strictness, hide warnings or leave colours out. -/
inductive Flag
  | strict
  | noStrict
  | quiet
  | noColor
deriving DecidableEq, Repr

namespace Flag

/-- How a flag is written. -/
def written : Flag → Text
  | strict => "--strict".toList
  | noStrict => "--no-strict".toList
  | quiet => "-q".toList
  | noColor => "--no-color".toList

/-- The option that a flag gives. -/
def option : Flag → ProgramOption
  | strict => .strict
  | noStrict => .noStrict
  | quiet => .quiet
  | noColor => .noColor

/-- The strictness that a flag asks for, if it asks for one. -/
def strictness? : Flag → Option Bool
  | strict => some true
  | noStrict => some false
  | _ => none

theorem readOne_written (flag : Flag) :
    programUsage.readOne flag.written = .given [⟨flag.option, []⟩] := by
  cases flag <;> decide

/-- The strictness that flags ask for; the last one that asks for any counts. -/
def strictness (flags : List Flag) : Option Bool := (flags.filterMap strictness?).getLast?

end Flag

/-- What flags ask for. -/
def Invocation.ofFlags (flags : List Flag) : Invocation where
  strict := Flag.strictness flags
  noColor := decide (.noColor ∈ flags)
  quiet := decide (.quiet ∈ flags)

namespace Invocation

/-- The options that flags give. -/
def givenBy (flags : List Flag) : List (Given ProgramOption) :=
  flags.map fun flag => ⟨flag.option, []⟩

theorem strictness_givenBy (flags : List Flag) :
    strictness (givenBy flags) = Flag.strictness flags := by
  induction flags using List.reverseRecOn with
  | nil => rfl
  | append_singleton flags flag ih =>
    rw [givenBy, List.map_append, strictness, List.foldl_append]
    rw [strictness, givenBy] at ih
    rw [ih, Flag.strictness, Flag.strictness, List.filterMap_append]
    cases flag <;> simp [Flag.option, Flag.strictness?]

theorem has_givenBy {flags : List Flag} {flag : Flag} {option : ProgramOption}
    (h : ∀ other : Flag, other.option = option ↔ other = flag) (words : List Text) :
    Arguments.has ⟨givenBy flags, words⟩ option = decide (flag ∈ flags) := by
  rw [Bool.eq_iff_iff]
  simp [Arguments.has, givenBy, h]

theorem not_has_givenBy (flags : List Flag) {option : ProgramOption}
    (h : ∀ flag : Flag, flag.option ≠ option) (words : List Text) :
    Arguments.has ⟨givenBy flags, words⟩ option = false := by
  simp [Arguments.has, givenBy, h]

theorem ofArguments_givenBy (flags : List Flag) (words : List Text) :
    ofArguments ⟨givenBy flags, words⟩ = ofFlags flags := by
  have hfile : Arguments.last? ⟨givenBy flags, words⟩ ProgramOption.config = none := by
    have hnot : ∀ flag : Flag, flag.option ≠ .config := by rintro (_ | _ | _ | _) <;> decide
    simp [Arguments.last?, givenBy, ← List.map_reverse, List.find?_map, hnot]
  have hcolor : Arguments.has ⟨givenBy flags, words⟩ ProgramOption.noColor =
      decide (.noColor ∈ flags) := has_givenBy (by rintro (_ | _ | _ | _) <;> decide) words
  have hquiet : Arguments.has ⟨givenBy flags, words⟩ ProgramOption.quiet =
      decide (.quiet ∈ flags) := has_givenBy (by rintro (_ | _ | _ | _) <;> decide) words
  have hverbose : Arguments.has ⟨givenBy flags, words⟩ ProgramOption.verbose = false :=
    not_has_givenBy flags (by rintro (_ | _ | _ | _) <;> decide) words
  have hdebug : Arguments.has ⟨givenBy flags, words⟩ ProgramOption.debug = false :=
    not_has_givenBy flags (by rintro (_ | _ | _ | _) <;> decide) words
  rw [ofArguments, hfile, hcolor, hquiet, hverbose, hdebug, strictness_givenBy]
  rfl

end Invocation

/-- What flags in front of a command ask for. -/
theorem Request.read_flags (isDirectory : Text → Bool) (flags : List Flag) {name : Text}
    {command : Command} (h : Command.named? name = some command) (rest : List Text) :
    Request.read isDirectory (flags.map Flag.written ++ name :: rest) =
      .ok (.command (Invocation.ofFlags flags) command rest) := by
  have hname : programUsage.read (name :: rest) = .ok { words := name :: rest } := by
    have hword : programUsage.readOne name = .word := by
      rw [Command.named?] at h
      split_ifs at h with hparse hinit
      · rw [hparse]
        decide
      · rw [hinit]
        decide
    rw [Usage.read, hword]
    rfl
  have hread : programUsage.read (flags.map Flag.written ++ name :: rest) =
      .ok ⟨Invocation.givenBy flags, name :: rest⟩ := by
    rw [Usage.read_flags Flag.readOne_written, hname]
    simp [Except.map, Arguments.giveFirst, Invocation.givenBy]
  have himmediate : immediate? ⟨Invocation.givenBy flags, name :: rest⟩ = none := by
    rw [immediate?, List.findSome?_eq_none_iff]
    intro g hg
    obtain ⟨flag, -, rfl⟩ := List.mem_map.1 hg
    cases flag <;> rfl
  simp only [Request.read, hread, himmediate, Invocation.ofArguments_givenBy, h]
  rfl

/-! ## Arguments of the query -/

/-- Whether an argument belongs to the query wherever it stands: it neither ends the options nor
names one, with or without a value. -/
def IsQueryText (arg : Text) : Prop :=
  arg ≠ "--".toList ∧ arg.takeWhile (· != '=') ≠ "--format".toList ∧
    arg.takeWhile (· != '=') ≠ "--help".toList

instance (arg : Text) : Decidable (IsQueryText arg) := inferInstanceAs (Decidable (_ ∧ _ ∧ _))

/-- An argument begins with the long name of no option exactly if it names none. -/
theorem readLong?_eq_none_iff {arg : Text} : parseUsage.readLong? arg = none ↔
    arg.takeWhile (· != '=') ≠ "--format".toList ∧
      arg.takeWhile (· != '=') ≠ "--help".toList := by
  rw [Usage.readLong?, Option.map_eq_none_iff, List.find?_eq_none]
  constructor
  · intro h
    exact ⟨fun heq => h _ List.mem_cons_self (beq_iff_eq.2 heq.symm),
      fun heq => h _ (List.mem_cons_of_mem _ List.mem_cons_self) (beq_iff_eq.2 heq.symm)⟩
  · rintro ⟨hformat, hhelp⟩ rule hrule
    rcases List.mem_cons.1 hrule with rfl | hrule
    · exact fun heq => hformat (beq_iff_eq.1 heq).symm
    · obtain rfl := List.mem_singleton.1 hrule
      exact fun heq => hhelp (beq_iff_eq.1 heq).symm

/-- The arguments that belong to the query wherever they stand. -/
theorem readOne_eq_word_iff {arg : Text} : parseUsage.readOne arg = .word ↔ IsQueryText arg := by
  rw [IsQueryText, ← readLong?_eq_none_iff]
  unfold Usage.readOne
  split
  next => exact iff_of_false nofun fun h => h.1 rfl
  next c rest hne =>
    have hends : '-' :: c :: rest ≠ "--".toList := by simpa using hne
    cases hlong : parseUsage.readLong? ('-' :: c :: rest) with
    | none => exact iff_of_true rfl ⟨hends, rfl⟩
    | some reading =>
      have hword : reading ≠ .word := fun heq => Usage.readLong?_ne_word _ _ (heq ▸ hlong)
      exact iff_of_false hword nofun
  next hends hdash =>
    -- A name of an option begins with two dashes.
    have hname : ∀ name : Text, arg.takeWhile (· != '=') ≠ '-' :: '-' :: name := by
      intro name heq
      have hsplit := @List.takeWhile_append_dropWhile _ (· != '=') arg
      rw [heq] at hsplit
      exact hdash _ _ hsplit.symm
    exact iff_of_true rfl ⟨hends, readLong?_eq_none_iff.2 ⟨hname _, hname _⟩⟩

example : IsQueryText "-tag:x".toList ∧ IsQueryText "--x".toList ∧
    IsQueryText "-prop:ivl=5".toList := by decide

/-- The form of the answer may be asked for anywhere among the query. -/
theorem ParseRequest.read_format {before after : List Text} {format : Text}
    (hformat : format ∈ outputFormats) (hne : before ++ after ≠ [])
    (h : ∀ arg ∈ before ++ after, IsQueryText arg) :
    ParseRequest.read (before ++ "--format".toList :: format :: after) =
      .ok (.query (some format) (before ++ after)) := by
  have hword : ∀ arg ∈ before ++ after, parseUsage.readOne arg = .word :=
    fun arg harg => readOne_eq_word_iff.2 (h arg harg)
  have hafter : parseUsage.read after = .ok { words := after } :=
    Usage.read_of_words fun arg harg => hword arg (List.mem_append_right before harg)
  have hoption : parseUsage.readOne "--format".toList = .awaits [] .format "--format".toList := by
    decide
  have hread : parseUsage.read (before ++ "--format".toList :: format :: after) =
      .ok ⟨[⟨.format, format⟩], before ++ after⟩ := by
    rw [Usage.read_words rfl fun arg harg => hword arg (List.mem_append_left after harg)]
    rw [Usage.read_awaits hoption, hafter]
    simp [Except.map, Arguments.giveFirst]
  have hempty : (before ++ after).isEmpty = false := by simpa using hne
  have hlast : Arguments.last? ⟨[⟨ParseOption.format, format⟩], before ++ after⟩ .format =
      some format := rfl
  have hhelp : Arguments.has ⟨[⟨ParseOption.format, format⟩], before ++ after⟩ .help =
      false := rfl
  have hchoice : (some format).filter (· ∉ outputFormats) = none := by simp [hformat]
  simp only [ParseRequest.read, hread, hlast, hhelp, hempty, hchoice]
  rfl

end CardQuery
