import CardQuery.Proofs.Invocation
import CardQuery.Proofs.Program.Steps

/-!
# Queries shown in JSON

What a run writes to the stream of results when it shows a query in JSON.  The query is all
arguments behind the command that do not ask for something else, with single spaces between them,
and its dialect is that of the configuration unless a flag overrides it.

Unless the progress is asked for, the stream of results has the document and nothing else.  The
announcement of a query is written to the same stream, though, so that there is more than a document
on it as soon as the progress is asked for.

Main results:

- `run_json_request` says how a run with flags alone ends, and that only the joined query matters.
- `run_json_output` says what is on the stream of results when a query has been shown in JSON.
-/

namespace CardQuery

namespace Program

variable {around : Surroundings} {tree : FileTree} {c : Config} {warnings : List ConfigWarning}

/-! ## Runs that show a query in JSON -/

section

variable {args rest words : List Text} {invocation : Invocation}

/-- A run that shows a query in JSON. -/
theorem run_eq (hread : Request.read (tree.namesDirectory around.place) args =
      .ok (.command invocation .parse rest))
    (hparse : ParseRequest.read rest = .ok (.query (some "json".toList) words)) :
    run around tree args =
      match prepare around invocation { tree := tree } with
      | .error outcome => outcome
      | .ok (c, s) =>
        Session.finish (parse invocation c (some "json".toList) (joined words) s) := by
  rw [run_of_command hread]
  cases prepare around invocation { tree := tree } with
  | error outcome => rfl
  | ok done =>
    dsimp only
    rw [runCommand, runParse, hparse]

end

/-! ## Flags and arguments -/

/-- A command line that asks for a query in JSON: flags, the command, and the arguments of the query
with the form somewhere among them. -/
def jsonCommandLine (flags : List Flag) (before after : List Text) : List Text :=
  flags.map Flag.written ++
    "parse".toList :: (before ++ "--format".toList :: "json".toList :: after)

/-- The dialect that flags and a configuration ask for. -/
def dialectOf (flags : List Flag) (c : Config) : Dialect where
  strict := (Flag.strictness flags).getD c.strict
  maxLength := if c.maxQueryLength = 0 then none else some c.maxQueryLength

theorem dialect_ofFlags (flags : List Flag) (c : Config) :
    c.dialect (Invocation.ofFlags flags).strict = dialectOf flags c := rfl

section

variable {flags : List Flag} {before after : List Text}

/-- The arguments of the query are joined to one query, wherever the form stands among them. -/
theorem run_jsonCommandLine (hne : before ++ after ≠ [])
    (hquery : ∀ arg ∈ before ++ after, IsQueryText arg) :
    run around tree (jsonCommandLine flags before after) =
      match prepare around (Invocation.ofFlags flags) { tree := tree } with
      | .error outcome => outcome
      | .ok (c, s) => Session.finish
        (parse (Invocation.ofFlags flags) c (some "json".toList) (joined (before ++ after)) s) :=
  run_eq (Request.read_flags _ flags (by decide) _)
    (ParseRequest.read_format (by decide) hne hquery)

/-- How a query is answered that flags alone are given with. -/
theorem exists_run_jsonCommandLine (hhome : ∀ name ∈ around.place.home, '[' ∉ name)
    (hload : Config.load around.place tree none = .ok (c, warnings))
    (hne : before ++ after ≠ []) (hquery : ∀ arg ∈ before ++ after, IsQueryText arg) :
    ∃ color t, run around tree (jsonCommandLine flags before after) =
      Session.finish (answer "json".toList (joined (before ++ after))
        (Query.compile (dialectOf flags c) (joined (before ++ after)))
        { tree := tree, color := color, errors := t }) := by
  have hplain := Config.noBracket_of_load hhome hload
  obtain ⟨color, t, hprepare⟩ := @exists_prepare around (Invocation.ofFlags flags) c
    { tree := tree } warnings hload hplain rfl
  refine ⟨color, t, ?_⟩
  rw [run_jsonCommandLine hne hquery, hprepare]
  dsimp only
  rw [parse_of_silent rfl, dialect_ofFlags]
  rfl

/-- A run that is asked for a query in JSON, with flags alone in front of the command, changes no
file.  It compiles the joined query in the dialect that flags and configuration ask for.  If it is a
query, the run succeeds and prints the document and nothing else.  If it is refused in a foreseen
way, the run fails and prints nothing.  Arguments that are joined to the same query lead to the same
run. -/
theorem run_json_request (hhome : ∀ name ∈ around.place.home, '[' ∉ name)
    (hload : Config.load around.place tree none = .ok (c, warnings))
    (hne : before ++ after ≠ []) (hquery : ∀ arg ∈ before ++ after, IsQueryText arg) :
    let outcome := run around tree (jsonCommandLine flags before after)
    let result := Query.compile (dialectOf flags c) (joined (before ++ after))
    outcome.last.tree = tree ∧
      (∀ q, result = .ok q → outcome.exitCode = 0 ∧ outcome.crash = none ∧
        outcome.last.output = q.toJson.document ++ ['\n']) ∧
      (∀ e, result = .error e → e.fault.Foreseen → outcome.exitCode = 1 ∧ outcome.crash = none ∧
        outcome.last.output = []) ∧
      ∀ before' after' : List Text, before' ++ after' ≠ [] →
        (∀ arg ∈ before' ++ after', IsQueryText arg) →
          joined (before' ++ after') = joined (before ++ after) →
            run around tree (jsonCommandLine flags before' after') = outcome := by
  dsimp only
  obtain ⟨color, t, hrun⟩ := @exists_run_jsonCommandLine _ _ _ _ flags _ _ hhome hload hne hquery
  refine ⟨?_, ?_, ?_, ?_⟩
  · rw [hrun, tree_finish_answer_json]
  · intro q hq
    rw [hrun, hq, answer_json]
    exact ⟨rfl, rfl, rfl⟩
  · intro e he hforeseen
    obtain ⟨u, hrefused⟩ := answer_refused hforeseen "json".toList (joined (before ++ after))
      { tree := tree, color := color, errors := t }
    rw [hrun, he, hrefused]
    exact ⟨rfl, rfl, rfl⟩
  · intro before' after' hne' hquery' hjoined
    rw [run_jsonCommandLine hne' hquery', run_jsonCommandLine hne hquery, hjoined]

end

/-- A place with a home directory and no files. -/
def emptyHome : Surroundings := { place := ⟨["u".toList], ["u".toList], []⟩ }

theorem noBracket_emptyHome : ∀ name ∈ emptyHome.place.home, '[' ∉ name := by decide

theorem load_emptyHome : Config.load emptyHome.place {} none =
    .ok ({}, [.noFile (Config.defaultPath emptyHome.place).written]) := by
  have hmissing : FileTree.find? {} (Config.defaultPath emptyHome.place) = none := rfl
  exact Config.load_of_missing hmissing

/-- Negated clauses reach the query although they look like options, and the last flag counts. -/
theorem run_json_request_negated :
    let outcome := run emptyHome {} (jsonCommandLine [.strict, .quiet, .noStrict]
      ["-tag:x".toList, "-prop:ivl=5".toList] ["is:odd".toList])
    outcome.exitCode = 0 ∧ outcome.crash = none ∧
      outcome.last.output =
        (Query.toJson
          { tagsExclude := ["x".toList], states := ["odd".toList],
            propertyFilters := [⟨"ivl".toList, .ne, "5".toList⟩] }).document ++ ['\n'] := by
  have hcompile : Query.compile (dialectOf [.strict, .quiet, .noStrict] {})
      (joined ["-tag:x".toList, "-prop:ivl=5".toList, "is:odd".toList]) =
        .ok { tagsExclude := ["x".toList], states := ["odd".toList],
              propertyFilters := [⟨"ivl".toList, .ne, "5".toList⟩] } := by decide +kernel
  have hne : ["-tag:x".toList, "-prop:ivl=5".toList] ++ ["is:odd".toList] ≠ [] := by decide
  have hquery : ∀ arg ∈ ["-tag:x".toList, "-prop:ivl=5".toList] ++ ["is:odd".toList],
      IsQueryText arg := by decide
  exact (run_json_request noBracket_emptyHome load_emptyHome hne hquery).2.1 _ hcompile

/-! ## What is on the stream of results -/

section

variable {args rest words : List Text} {invocation : Invocation}

/-- A run that shows a query in JSON and succeeds has compiled it and written its document behind
what announces it. -/
theorem output_of_exitCode (hread : Request.read (tree.namesDirectory around.place) args =
      .ok (.command invocation .parse rest))
    (hparse : ParseRequest.read rest = .ok (.query (some "json".toList) words))
    (hexit : (run around tree args).exitCode = 0) :
    ∃ c warnings q announced,
      Config.load around.place tree invocation.configFile = .ok (c, warnings) ∧
        Query.compile (c.dialect invocation.strict) (joined words) = .ok q ∧
          Announces invocation c (joined words) announced ∧
            (run around tree args).last.output = announced ++ (q.toJson.document ++ ['\n']) := by
  rw [run_eq hread hparse] at hexit ⊢
  cases hprepare : prepare around invocation { tree := tree } with
  | error outcome =>
    rw [hprepare] at hexit
    cases hexit.symm.trans (exitCode_of_prepare hprepare)
  | ok done =>
    obtain ⟨c, s⟩ := done
    rw [hprepare] at hexit
    dsimp only at hexit ⊢
    obtain ⟨warnings, color, t, hload, rfl⟩ := prepare_eq_ok hprepare
    cases hdone : parse invocation c (some "json".toList) (joined words)
        (Session.write { tree := tree, color := color } .errors t) with
    | error outcome =>
      rw [hdone] at hexit
      cases hexit.symm.trans (exitCode_of_parse hdone)
    | ok last =>
      obtain ⟨q, announced, hcompile, hannounces, houtput⟩ := parse_eq_ok hdone
      exact ⟨c, warnings, q, announced, hload, hcompile, hannounces, houtput⟩

/-- A run that shows a query in JSON succeeds if the query is compiled and nothing has to be said
before it that has a bracket. -/
theorem exitCode_of_compile (hread : Request.read (tree.namesDirectory around.place) args =
      .ok (.command invocation .parse rest))
    (hparse : ParseRequest.read rest = .ok (.query (some "json".toList) words))
    (hload : Config.load around.place tree invocation.configFile = .ok (c, warnings))
    (hplain : ∀ warning ∈ warnings, '[' ∉ warning.message) (hdebug : invocation.debug = false)
    {q : Query} (hcompile : Query.compile (c.dialect invocation.strict) (joined words) = .ok q) :
    (run around tree args).exitCode = 0 := by
  obtain ⟨color, t, hprepare⟩ := @exists_prepare around invocation c { tree := tree } warnings
    hload hplain hdebug
  obtain ⟨s, hshown⟩ := exists_parse_of_compile hcompile
    (Session.write { tree := tree, color := color } .errors t)
  rw [run_eq hread hparse, hprepare]
  dsimp only
  rw [hshown]
  rfl

/-- When a query has been shown in JSON, the stream of results has the document of the compiled
query, behind what announces it.  It has the document alone exactly if the progress was not asked
for. -/
theorem run_json_output (hread : Request.read (tree.namesDirectory around.place) args =
      .ok (.command invocation .parse rest))
    (hparse : ParseRequest.read rest = .ok (.query (some "json".toList) words))
    (hexit : (run around tree args).exitCode = 0) :
    ∃ c warnings q announced,
      Config.load around.place tree invocation.configFile = .ok (c, warnings) ∧
        Query.compile (c.dialect invocation.strict) (joined words) = .ok q ∧
          Announces invocation c (joined words) announced ∧
            (run around tree args).last.output = announced ++ (q.toJson.document ++ ['\n']) ∧
              ((run around tree args).last.output = q.toJson.document ++ ['\n'] ↔
                invocation.verbose = false ∧ invocation.debug = false) := by
  obtain ⟨c, warnings, q, announced, hload, hcompile, hannounces, houtput⟩ :=
    output_of_exitCode hread hparse hexit
  refine ⟨c, warnings, q, announced, hload, hcompile, hannounces, houtput, ?_⟩
  rw [houtput, ← hannounces.eq_nil_iff]
  exact List.append_left_eq_self

end

theorem read_formatFirst : ParseRequest.read ["--format".toList, "json".toList, "a".toList] =
    .ok (.query (some "json".toList) ["a".toList]) := rfl

theorem compile_letter : Query.compile (Config.dialect {} none) (joined ["a".toList]) =
    .ok { textSearches := [{ text := "a".toList }] } := by decide +kernel

/-- Without a flag, a query is shown by its document alone. -/
theorem run_json_output_plain : ∃ q : Query,
    (run emptyHome {} ["parse".toList, "--format".toList, "json".toList, "a".toList]).last.output =
      q.toJson.document ++ ['\n'] := by
  have hread : Request.read (FileTree.namesDirectory {} emptyHome.place)
      ["parse".toList, "--format".toList, "json".toList, "a".toList] =
        .ok (.command {} .parse ["--format".toList, "json".toList, "a".toList]) := rfl
  have hplain := Config.noBracket_of_load noBracket_emptyHome load_emptyHome
  have hexit := exitCode_of_compile hread read_formatFirst load_emptyHome hplain rfl compile_letter
  obtain ⟨c, warnings, q, announced, -, -, -, -, h⟩ :=
    run_json_output hread read_formatFirst hexit
  exact ⟨q, h.2 ⟨rfl, rfl⟩⟩

/-- With the flag that asks for the progress, the document is not alone. -/
theorem not_forall_run_json_output :
    ¬∀ (around : Surroundings) (tree : FileTree) (args rest words : List Text)
      (invocation : Invocation),
        Request.read (tree.namesDirectory around.place) args =
            .ok (.command invocation .parse rest) →
          ParseRequest.read rest = .ok (.query (some "json".toList) words) →
            (run around tree args).exitCode = 0 →
              ∃ c warnings q,
                Config.load around.place tree invocation.configFile = .ok (c, warnings) ∧
                  Query.compile (c.dialect invocation.strict) (joined words) = .ok q ∧
                    (run around tree args).last.output = q.toJson.document ++ ['\n'] := by
  intro hall
  have hread : Request.read (FileTree.namesDirectory {} emptyHome.place)
      ["-v".toList, "parse".toList, "--format".toList, "json".toList, "a".toList] =
        .ok (.command { verbose := true } .parse
          ["--format".toList, "json".toList, "a".toList]) := rfl
  have hplain := Config.noBracket_of_load noBracket_emptyHome load_emptyHome
  have hexit := exitCode_of_compile hread read_formatFirst load_emptyHome hplain rfl compile_letter
  obtain ⟨c, warnings, q, announced, hload, hcompile, hannounces, houtput⟩ :=
    output_of_exitCode hread read_formatFirst hexit
  obtain ⟨c', warnings', q', hload', hcompile', halone⟩ :=
    hall _ _ _ _ _ _ hread read_formatFirst hexit
  obtain ⟨rfl, -⟩ := Prod.mk.inj (Except.ok.inj (hload.symm.trans hload'))
  obtain rfl := Except.ok.inj (hcompile.symm.trans hcompile')
  have hnothing : announced = [] := List.append_left_eq_self.1 (houtput.symm.trans halone)
  exact absurd (hannounces.eq_nil_iff.1 hnothing).1 (by decide)

end Program

end CardQuery
