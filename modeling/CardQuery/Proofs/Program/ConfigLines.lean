import CardQuery.Proofs.Config.Loading
import CardQuery.Proofs.Console
import CardQuery.Proofs.Program.Steps

/-!
# Lines about the configuration

The path of a configuration file and the wording of what is wrong with it are put into a line
without being escaped.  The line has them as they are only if they are no markup.  The notices that
are meant are those that the steps before a command and the steps that write a starter file give, as
`Program.prepare_eq` and `Program.create_eq` say.

Main results:

- `Notice.shows_iff` says which paths and wordings are printed as they are.
- `Program.exists_refusal?_iff` says which refusals of a configuration are put into words.
- `Program.shows_iff_of_reports` says the same of the lines about the configuration in a run.
- `Program.not_forall_reports_shown` gives a path that is not printed as it is.
-/

namespace CardQuery

open Markup

/-! ## Notices with a message -/

namespace Notice

/-- Whether the first line of a notice is printed with a message in it. -/
def Shows (n : Notice) (message : Text) : Prop :=
  ∃ line ∈ n.lines.head?, ∃ printed, Console.printed line = .ok printed ∧ message <:+: printed

/-- What stands behind the message in the first line of a notice about the configuration. -/
def closing : Notice → Text
  | created _ => '[' :: '/' :: Tone.success.name ++ [']']
  | warned _ => ". Using defaults. Create config with: cardsearch init-config".toList
  | _ => []

/-- A notice shows the message between two fixed texts exactly if it is no markup. -/
theorem shows_iff_of_frame {n : Notice} {word before behind message : Text}
    (h : Frame word before behind) (hline : n.lines.head? = some (before ++ (message ++ behind))) :
    n.Shows message ↔ Verbatim message behind := by
  rw [Shows, hline, ← h.printed_iff]
  simp

theorem shows_created_iff (path : Path) :
    (created path).Shows path.written ↔ Verbatim path.written (created path).closing := by
  have hframe : Frame Tone.success.name
      ('[' :: Tone.success.name ++ ']' :: "Created config file: ".toList)
      ('[' :: '/' :: Tone.success.name ++ [']']) :=
    ⟨plainWord_name .success, by decide, by decide, by decide, by decide, by decide⟩
  apply shows_iff_of_frame hframe
  simp only [lines, Tone.apply, List.head?_cons, List.cons_append, List.append_assoc]

/-- The line of an error shows a message exactly if it is no markup. -/
theorem shows_error_iff {n : Notice} {message : Text}
    (h : n.lines.head? = some (errorLine message)) : n.Shows message ↔ Verbatim message [] := by
  have hframe : Frame Tone.error.name (Tone.error.apply "Error:".toList ++ [' ']) [] :=
    ⟨plainWord_name .error, by decide, by decide, by decide, by decide, by decide⟩
  apply shows_iff_of_frame hframe
  rw [h, errorLine, List.append_nil, List.append_assoc, List.singleton_append]

theorem shows_noFile_iff (path : Text) :
    (warned (.noFile path)).Shows path ↔ Verbatim path (warned (.noFile path)).closing := by
  have hframe : Frame Tone.warning.name
      (Tone.warning.apply "Warning:".toList ++ ' ' :: "No config file found at ".toList)
      ". Using defaults. Create config with: cardsearch init-config".toList :=
    ⟨plainWord_name .warning, by decide +kernel, by decide, by decide, by decide,
      by decide +kernel⟩
  have hsplit : ∀ label before message behind : Text,
      label ++ ' ' :: (before ++ message ++ behind) =
        label ++ ' ' :: before ++ (message ++ behind) := by
    intro label before message behind
    simp only [List.append_assoc, List.cons_append]
  exact shows_iff_of_frame hframe (congrArg some (hsplit _ _ path _))

/-- The path or the wording about the configuration that is put into the first line of a notice.
The line for debugging is not among those that are meant. -/
def subject? : Notice → Option Text
  | created path => some path.written
  | warned (.noFile path) => some path
  | badConfig message | notCreated message => some message
  | warned .uncapped | configured _ _ | compiling _ _ | unconstrained _ | constrained _ _
  | notUnderstood _ => none

/-- The first line of a notice shows what it is about exactly if this is no markup. -/
theorem shows_iff {n : Notice} {message : Text} (h : n.subject? = some message) :
    n.Shows message ↔ Verbatim message n.closing := by
  cases n with
  | created path =>
    obtain rfl := Option.some.inj h
    exact shows_created_iff path
  | warned warning =>
    cases warning with
    | noFile path =>
      obtain rfl := Option.some.inj h
      exact shows_noFile_iff path
    | uncapped => cases h
  | badConfig wording | notCreated wording =>
    obtain rfl := Option.some.inj h
    exact shows_error_iff rfl
  | compiling | unconstrained | constrained | configured | notUnderstood => cases h

end Notice

/-! ## What a run says about the configuration -/

namespace Program

/-- Exactly the foreseen refusals of a configuration are put into words. -/
theorem exists_refusal?_iff {around : Surroundings} {tree : FileTree} {file : Option Text}
    {fault : Config.LoadFault} (h : Config.load around.place tree file = .error fault) :
    (∃ message, refusal? around tree file fault = some message) ↔ fault.Foreseen := by
  cases fault with
  | path | file | notText => simp [refusal?, Config.LoadFault.Foreseen]
  | document fault =>
    cases fault with
    | malformed =>
      obtain ⟨found, hfound⟩ := Config.exists_source?_of_malformed h
      exact iff_of_true ⟨_, by rw [refusal?, hfound, Option.map_some]⟩ trivial
    | invalid fault => exact iff_of_true ⟨fault.message, rfl⟩ trivial
    | oversizedNumeral | noTable => simp [refusal?, Config.LoadFault.Foreseen]

/-- Whether a notice is given about the configuration in a run that finds the files `tree`, and
`message` is the path or the wording that is put into its first line. -/
structure Reports (around : Surroundings) (tree : FileTree) (n : Notice) (message : Text) :
    Prop where
  given : (∃ invocation, n ∈ loadNotices around invocation tree) ∨
    ∃ output force, n ∈ starterNotices around.place tree output force
  subject : n.subject? = some message

/-- A line about the configuration has the path or the wording that it is about exactly if this is
no markup: if it has no tag, no backslash in front of an opening bracket of itself or of the line,
no tab and no character that acts on a terminal. -/
theorem shows_iff_of_reports {around : Surroundings} {tree : FileTree} {n : Notice}
    {message : Text} (h : Reports around tree n message) :
    n.Shows message ↔
      (∀ inner, ¬ActiveTag message inner) ∧ ¬Slashed (message ++ n.closing) ∧ '\t' ∉ message ∧
        ∀ c ∈ message, Console.isAction c = false := by
  rw [Notice.shows_iff h.subject]
  constructor
  · exact fun h => ⟨h.noTag, h.noSlash, h.noTab, h.noAction⟩
  · exact fun ⟨htag, hslash, htab, haction⟩ => ⟨htag, hslash, htab, haction⟩

/-- A place without files. -/
def bareRoot : Surroundings := { place := ⟨[], [], []⟩ }

/-- The starter file is written where the output names it. -/
theorem reports_created {name : Text} {path : Path}
    (h : ∃ tree, Config.writeStarter bareRoot.place {} (some name) false = .ok (path, tree)) :
    Reports bareRoot {} (.created path) path.written := by
  obtain ⟨tree, h⟩ := h
  refine ⟨Or.inr ⟨some name, false, ?_⟩, rfl⟩
  rw [starterNotices, h]
  exact List.mem_singleton_self _

/-- A path without markup is printed when the starter file has been written there. -/
theorem shows_path_without_markup :
    Reports bareRoot {} (.created ["a.toml".toList]) "/a.toml".toList ∧
      (Notice.created ["a.toml".toList]).Shows "/a.toml".toList := by
  have hreports : Reports bareRoot {} (.created ["a.toml".toList]) "/a.toml".toList :=
    @reports_created "a.toml".toList _ ⟨_, rfl⟩
  have hquiet : Quiet "/a.toml".toList := by decide
  have hnone := activeTags_eq_nil_iff.1 hquiet.activeTags_eq_nil
  have hslash : ¬Slashed ("/a.toml".toList ++ (Notice.created ["a.toml".toList]).closing) := by
    intro hslash
    exact absurd (hslash.subset List.mem_cons_self) (by decide)
  have hplain : Plain "/a.toml".toList := by decide
  exact ⟨hreports, (shows_iff_of_reports hreports).2
    ⟨hnone, hslash, by decide, fun c hc => (hplain c hc).2.2⟩⟩

/-- Not every line about the configuration has the path or the wording that it is about: a name in
brackets is taken for a tag. -/
theorem not_forall_reports_shown :
    ¬∀ around tree n message, Reports around tree n message → n.Shows message := by
  intro hall
  have hreports : Reports bareRoot {} (.created ["[a].toml".toList]) "/[a].toml".toList :=
    @reports_created "[a].toml".toList _ ⟨_, rfl⟩
  have htag : ActiveTag "/[a].toml".toList "a".toList :=
    ⟨['/'], ".toml".toList, rfl, by decide, by decide⟩
  exact ((Notice.shows_iff hreports.subject).1 (hall _ _ _ _ hreports)).noTag _ htag

end Program

end CardQuery
