import CardQuery.Program
import CardQuery.Proofs.Query.Refusal
import CardQuery.Proofs.Session

/-!
# Steps of a run that shows a query

What the steps before a command and the steps that compile and show a query leave behind.  The
steps before a command write to the stream of errors only.  The steps that show a query in JSON
write its document to the stream of results, after an announcement if the progress is asked for.

Main results:

- `prepare_eq` says which notices are given before a command.
- `run_of_command` and `prepare_eq_ok` say what happens before a command.
- `exists_prepare` says when they are done without fail.
- `create_eq` says the same of the notices about a starter file.
- `answer_json` and `answer_refused` say how a compiled query and a refused one are answered.
- `parse_eq` takes the steps that show a query apart: its announcement, and the answer.
- `parse_eq_ok` says what has been written when a query has been shown in JSON, and
  `exists_parse_of_compile` that every compiled query can be shown so.
- `exitCode_of_prepare` and `exitCode_of_parse` say that steps that end a run early fail.
-/

namespace CardQuery

/-! ## Warnings about a configuration -/

namespace Config

theorem eq_uncapped_of_check {c : Config} {warnings : List ConfigWarning}
    (h : c.check = .ok warnings) : ∀ warning ∈ warnings, warning = .uncapped := by
  unfold check at h
  split_ifs at h with hlength hformat hzero
  · obtain rfl := Except.ok.inj h
    simp
  · obtain rfl := Except.ok.inj h
    simp

theorem check_of_read {path : Option Text} {source : Text} {c : Config}
    {warnings : List ConfigWarning} (h : read path source = .ok (c, warnings)) :
    c.check = .ok warnings := by
  unfold read at h
  split at h
  next => cases h
  next => cases h
  next =>
    split at h
    next => cases h
    next found _ =>
      unfold checked at h
      split at h
      next => cases h
      next hcheck =>
        obtain ⟨rfl, rfl⟩ := Prod.mk.inj (Except.ok.inj h)
        exact hcheck

/-- A configuration is loaded with a warning about a missing file or about a missing limit. -/
theorem warning_of_loadAt {tree : FileTree} {path : Path} {c : Config}
    {warnings : List ConfigWarning} (h : loadAt tree path = .ok (c, warnings)) :
    ∀ warning ∈ warnings, warning = .noFile path.written ∨ warning = .uncapped := by
  unfold loadAt at h
  split at h
  next =>
    split at h
    next => cases h
    next found hcheck =>
      obtain ⟨rfl, rfl⟩ := Prod.mk.inj (Except.ok.inj h)
      intro warning hwarning
      rcases List.mem_cons.1 hwarning with rfl | hmore
      · exact Or.inl rfl
      · exact Or.inr (eq_uncapped_of_check hcheck warning hmore)
  next => cases h
  next =>
    split at h
    next => cases h
    next =>
      split at h
      next => cases h
      next hread =>
        obtain rfl := Except.ok.inj h
        intro warning hwarning
        exact Or.inr (eq_uncapped_of_check (check_of_read hread) warning hwarning)

theorem noBracket_written {path : Path} (h : ∀ name ∈ path, '[' ∉ name) : '[' ∉ path.written := by
  unfold Path.written
  split
  next => decide
  next =>
    intro hmem
    obtain ⟨name, hname, hmem⟩ := List.mem_flatMap.1 hmem
    rcases List.mem_cons.1 hmem with heq | hmem
    · exact absurd heq (by decide)
    · exact h name hname hmem

/-- Where no name on the way to the home directory has a bracket, no warning has one. -/
theorem noBracket_of_load {place : Place} (hhome : ∀ name ∈ place.home, '[' ∉ name)
    {tree : FileTree} {c : Config} {warnings : List ConfigWarning}
    (h : load place tree none = .ok (c, warnings)) :
    ∀ warning ∈ warnings, '[' ∉ warning.message := by
  have hpath : '[' ∉ (defaultPath place).written := by
    have hown : ∀ name ∈ [".config".toList, "cardsearch".toList, "config.toml".toList],
        '[' ∉ name := by decide
    exact noBracket_written fun name hname =>
      (List.mem_append.1 hname).elim (hhome name) (hown name)
  have hdefault : loadAt tree (defaultPath place) = .ok (c, warnings) := h
  intro warning hwarning
  rcases warning_of_loadAt hdefault warning hwarning with heq | heq
  · have hbefore : '[' ∉ "No config file found at ".toList := by decide
    have hbehind :
        '[' ∉ ". Using defaults. Create config with: cardsearch init-config".toList := by decide
    have hjoined : ∀ before behind : Text, '[' ∉ before → '[' ∉ behind →
        '[' ∉ before ++ (defaultPath place).written ++ behind := by
      intro before behind hbefore hbehind
      simp only [List.mem_append, hbefore, hpath, hbehind, or_self, not_false_eq_true]
    rw [heq]
    exact hjoined _ _ hbefore hbehind
  · rw [heq]
    decide

end Config

/-- Whatever is printed ends with a line break. -/
theorem Console.printed_ne_nil {markup t : Text} (h : Console.printed markup = .ok t) : t ≠ [] := by
  unfold Console.printed at h
  cases hplain : Console.plain markup with
  | error fault =>
    rw [hplain] at h
    cases h
  | ok found =>
    rw [hplain] at h
    obtain rfl := Except.ok.inj h
    simp

namespace Session

/-! ## Steps one after the other -/

variable {s : Session} {α β : Type}

theorem eq_ok_of_bind {x : Except Outcome α} {f : α → Except Outcome β} {b : β}
    (h : (x >>= f) = .ok b) : ∃ a, x = .ok a ∧ f a = .ok b := by
  cases x with
  | error outcome => cases h
  | ok a => exact ⟨a, rfl, h⟩

theorem eq_error_of_bind {x : Except Outcome α} {f : α → Except Outcome β} {outcome : Outcome}
    (h : (x >>= f) = .error outcome) :
    x = .error outcome ∨ ∃ a, x = .ok a ∧ f a = .error outcome := by
  cases x with
  | error found =>
    obtain rfl := Except.error.inj h
    exact Or.inl rfl
  | ok a => exact Or.inr ⟨a, rfl, h⟩

/-- What cannot be printed ends a run with exit code 1. -/
theorem exitCode_of_put {channel : Channel} {printed : Except Markup.Fault Text}
    {outcome : Outcome} (h : s.put channel printed = .error outcome) : outcome.exitCode = 1 := by
  cases printed with
  | error fault =>
    obtain rfl := Except.error.inj h
    rfl
  | ok t => cases h

theorem exitCode_of_putLines {channel : Channel} {lines : List Text} {outcome : Outcome}
    (h : s.putLines channel lines = .error outcome) : outcome.exitCode = 1 := by
  induction lines generalizing s with
  | nil => cases h
  | cons line rest ih =>
    unfold putLines at h
    cases hput : s.put channel (Console.printed line) with
    | error found =>
      rw [hput] at h
      obtain rfl := Except.error.inj h
      exact exitCode_of_put hput
    | ok found =>
      rw [hput] at h
      exact ih h

theorem exitCode_of_sayAll {ns : List Notice} {outcome : Outcome}
    (h : s.sayAll ns = .error outcome) : outcome.exitCode = 1 := by
  induction ns generalizing s with
  | nil => cases h
  | cons n ns ih =>
    unfold sayAll at h
    cases hsay : s.say n with
    | error found =>
      rw [hsay] at h
      obtain rfl := Except.error.inj h
      exact exitCode_of_putLines hsay
    | ok found =>
      rw [hsay] at h
      exact ih h

/-- A run that gives a notice and fails has exit code 1, also if the notice cannot be printed. -/
theorem exitCode_of_say_fail {n : Notice} {outcome : Outcome}
    (h : (s.say n >>= fun s => Except.error s.fail) = (.error outcome : Except Outcome α)) :
    outcome.exitCode = 1 := by
  rcases eq_error_of_bind h with hsay | ⟨said, -, hfail⟩
  · exact exitCode_of_putLines hsay
  · obtain rfl := Except.error.inj hfail
    rfl

end Session

namespace Program

variable {around : Surroundings} {invocation : Invocation} {c : Config} {s s' : Session}

/-! ## Before a command -/

/-- The notices that are given when the configuration is loaded. -/
def loadNotices (around : Surroundings) (invocation : Invocation) (tree : FileTree) :
    List Notice :=
  match Config.load around.place tree invocation.configFile with
  | .error fault => ((refusal? around tree invocation.configFile fault).map .badConfig).toList
  | .ok (c, warnings) =>
    (if invocation.quiet then [] else warnings.map .warned) ++
      if invocation.debug then [.configured c invocation.strict] else []

/-- How the steps before a command end in a tree when their notices have been given. -/
def prepared (around : Surroundings) (invocation : Invocation) (tree : FileTree) (s : Session) :
    Except Outcome (Config × Session) :=
  match Config.load around.place tree invocation.configFile with
  | .error fault =>
    .error <|
      match refusal? around tree invocation.configFile fault with
      | none => s.crash (.load fault)
      | some _ => s.fail
  | .ok (c, _) => .ok (c, s)

/-- The steps before a command settle the colours and give their notices, and nothing else. -/
theorem prepare_eq (around : Surroundings) (invocation : Invocation) (s : Session) :
    ∃ color, prepare around invocation s =
      ({ s with color := color }.sayAll (loadNotices around invocation s.tree) >>=
        prepared around invocation s.tree) := by
  unfold prepare loadNotices prepared
  dsimp only
  cases hload : Config.load around.place s.tree invocation.configFile with
  | error fault =>
    refine ⟨!(invocation.noColor || around.noColor), ?_⟩
    cases hrefusal : refusal? around s.tree invocation.configFile fault with
    | none =>
      dsimp only
      rw [hrefusal]
      rfl
    | some message =>
      dsimp only
      rw [hrefusal, Option.map_some, Option.toList_some, Session.sayAll_singleton]
  | ok found =>
    refine ⟨!(invocation.noColor || around.noColor) && found.1.coloredOutput, ?_⟩
    dsimp only
    rw [Session.sayAll_append, bind_assoc]
    rfl

/-- What is said before a command goes to the stream of errors. -/
theorem channel_loadNotices (around : Surroundings) (invocation : Invocation) (tree : FileTree) :
    ∀ n ∈ loadNotices around invocation tree, n.channel = .errors := by
  intro n hn
  unfold loadNotices at hn
  split at hn
  next fault _ =>
    obtain ⟨message, -, rfl⟩ := Option.map_eq_some_iff.1 (Option.mem_toList.1 hn)
    rfl
  next =>
    rcases List.mem_append.1 hn with hn | hn
    · split at hn
      next => cases hn
      next =>
        obtain ⟨warning, -, rfl⟩ := List.mem_map.1 hn
        rfl
    · split at hn
      next =>
        obtain rfl := List.mem_singleton.1 hn
        rfl
      next => cases hn

/-- When the steps before a command are done, the configuration has been loaded, and nothing has
been written but to the stream of errors. -/
theorem prepare_eq_ok (h : prepare around invocation s = .ok (c, s')) :
    ∃ warnings color t,
      Config.load around.place s.tree invocation.configFile = .ok (c, warnings) ∧
        s' = { s with color := color }.write .errors t := by
  obtain ⟨color, hprepare⟩ := prepare_eq around invocation s
  obtain ⟨said, hsaid, hdone⟩ := Session.eq_ok_of_bind (hprepare.symm.trans h)
  obtain ⟨t, rfl⟩ := Session.exists_write_of_sayAll (channel_loadNotices _ _ _) hsaid
  unfold prepared at hdone
  split at hdone
  next => cases hdone
  next found warnings hload =>
    obtain ⟨rfl, rfl⟩ := Prod.mk.inj (Except.ok.inj hdone)
    exact ⟨warnings, color, t, hload, rfl⟩

/-- The steps before a command are done if the configuration is loaded and nothing has to be said
about it that has a bracket. -/
theorem exists_prepare {warnings : List ConfigWarning}
    (hload : Config.load around.place s.tree invocation.configFile = .ok (c, warnings))
    (hplain : ∀ warning ∈ warnings, '[' ∉ warning.message) (hdebug : invocation.debug = false) :
    ∃ color t,
      prepare around invocation s = .ok (c, { s with color := color }.write .errors t) := by
  have hprintable : ∀ n ∈ loadNotices around invocation s.tree, n.Printable := by
    intro n hn
    simp only [loadNotices, hload, hdebug, Bool.false_eq_true, if_false, List.append_nil] at hn
    split at hn
    next => cases hn
    next =>
      obtain ⟨warning, hwarning, rfl⟩ := List.mem_map.1 hn
      exact Notice.printable_warned (hplain warning hwarning)
  obtain ⟨color, hprepare⟩ := prepare_eq around invocation s
  obtain ⟨t, hsaid⟩ := Session.exists_sayAll (channel_loadNotices around invocation s.tree)
    hprintable { s with color := color }
  refine ⟨color, t, ?_⟩
  rw [hprepare, hsaid]
  show prepared around invocation s.tree _ = _
  rw [prepared, hload]

/-- Steps before a command that end the run fail. -/
theorem exitCode_of_prepare {outcome : Outcome}
    (h : prepare around invocation s = .error outcome) : outcome.exitCode = 1 := by
  obtain ⟨color, hprepare⟩ := prepare_eq around invocation s
  rcases Session.eq_error_of_bind (hprepare.symm.trans h) with hsay | ⟨said, -, hdone⟩
  · exact Session.exitCode_of_sayAll hsay
  · unfold prepared at hdone
    split at hdone
    next =>
      obtain rfl := Except.error.inj hdone
      split <;> rfl
    next => cases hdone

/-- A run with a command takes the steps before the command, and those of the command unless it has
ended. -/
theorem run_of_command {tree : FileTree} {args rest : List Text} {command : Command}
    (hread : Request.read (tree.namesDirectory around.place) args =
      .ok (.command invocation command rest)) :
    run around tree args =
      match prepare around invocation { tree := tree } with
      | .error outcome => outcome
      | .ok (c, s) => runCommand around invocation c rest s command := by
  cases hprepare : prepare around invocation { tree := tree } with
  | error outcome => simp only [run, hread, hprepare]
  | ok done => simp only [run, hread, hprepare]

/-! ## Writing a starter file -/

/-- The notices that are given when a starter file is asked for. -/
def starterNotices (place : Place) (tree : FileTree) (output : Option Text) (force : Bool) :
    List Notice :=
  match Config.writeStarter place tree output force with
  | .ok (path, _) => [.created path]
  | .error fault => (fault.message?.map .notCreated).toList

/-- The steps that write a starter file give their notices, and nothing else. -/
theorem create_eq (place : Place) (output : Option Text) (force : Bool) (s : Session) :
    create place output force s =
      match Config.writeStarter place s.tree output force with
      | .ok (_, tree) => { s with tree := tree }.sayAll (starterNotices place s.tree output force)
      | .error fault =>
        s.sayAll (starterNotices place s.tree output force) >>= fun s =>
          match fault with
          | .path unknown => .error (s.crash (.path unknown))
          | _ => .error s.fail := by
  unfold create starterNotices
  cases Config.writeStarter place s.tree output force with
  | ok written => exact (Session.sayAll_singleton _ _).symm
  | error fault =>
    cases fault with
    | path unknown => rfl
    | alreadyExists | file => exact congrArg (· >>= _) (Session.sayAll_singleton _ _).symm

/-! ## Answering a query -/

/-- The steps that answer a query with what its compilation led to. -/
def answer (format query : Text) (result : Except QueryError Query) (s : Session) :
    Except Outcome Session :=
  match result with
  | .ok q => show_ format query q s
  | .error e =>
    match e.message? with
    | none => .error (s.crash (.query e))
    | some _ => do
      let s ← s.say (.notUnderstood e)
      .error s.fail

/-- A compiled query is shown in JSON by its document. -/
theorem answer_json (query : Text) (q : Query) (s : Session) :
    answer "json".toList query (.ok q) s =
      .ok (s.write .output (q.toJson.document ++ ['\n'])) := by
  rw [answer, show_, if_pos rfl]

/-- A query that is refused in a foreseen way ends the run, and nothing is written but the refusal
to the stream of errors. -/
theorem answer_refused {e : QueryError} (hforeseen : e.fault.Foreseen) (format query : Text)
    (s : Session) : ∃ t, answer format query (.error e) s = .error (s.write .errors t).fail := by
  obtain ⟨t, hsay⟩ := Session.exists_say (Notice.printable_notUnderstood e) s
  obtain ⟨message, hmessage⟩ := QueryError.exists_message?_iff.2 hforeseen
  refine ⟨t, ?_⟩
  rw [answer, hmessage]
  dsimp only
  rw [hsay]
  rfl

/-- An answer in JSON changes no file. -/
theorem tree_finish_answer_json (query : Text) (result : Except QueryError Query) (s : Session) :
    (Session.finish (answer "json".toList query result s)).last.tree = s.tree := by
  cases result with
  | ok q =>
    rw [answer_json]
    rfl
  | error e =>
    by_cases hforeseen : e.fault.Foreseen
    · obtain ⟨t, hrefused⟩ := answer_refused hforeseen "json".toList query s
      rw [hrefused]
      rfl
    · rw [answer, QueryError.message?_eq_none_iff_not_foreseen.2 hforeseen]
      rfl

/-- Only a compiled query is answered without ending the run. -/
theorem answer_eq_ok {format query : Text} {result : Except QueryError Query}
    (h : answer format query result s = .ok s') : ∃ q, result = .ok q := by
  cases result with
  | ok q => exact ⟨q, rfl⟩
  | error e =>
    unfold answer at h
    dsimp only at h
    split at h
    next => cases h
    next =>
      obtain ⟨said, -, hfail⟩ := Session.eq_ok_of_bind h
      cases hfail

theorem exitCode_of_answer {format query : Text} {result : Except QueryError Query}
    {outcome : Outcome} (h : answer format query result s = .error outcome) :
    outcome.exitCode = 1 := by
  cases result with
  | ok q =>
    unfold answer show_ at h
    dsimp only at h
    split at h
    next => cases h
    next =>
      split at h
      next => exact Session.exitCode_of_putLines h
      next =>
        rcases Session.eq_error_of_bind h with hsay | ⟨said, -, hput⟩
        · exact Session.exitCode_of_putLines hsay
        · exact Session.exitCode_of_put hput
  | error e =>
    unfold answer at h
    dsimp only at h
    split at h
    next =>
      obtain rfl := Except.error.inj h
      rfl
    next => exact Session.exitCode_of_say_fail h

/-! ## Announcing a query -/

/-- What is said before a query is compiled: that it will be, if the progress is asked for. -/
def announcement (invocation : Invocation) (c : Config) (query : Text) : List Notice :=
  if invocation.verbose || invocation.debug then
    [.compiling query (c.dialect invocation.strict).strict]
  else []

/-- A session with the log of a compilation, if it is asked for. -/
def noted (invocation : Invocation) (log : List LogEntry) (s : Session) : Session :=
  if invocation.debug then { s with log := s.log ++ log } else s

theorem output_noted (invocation : Invocation) (log : List LogEntry) (s : Session) :
    (noted invocation log s).output = s.output := by
  unfold noted
  split <;> rfl

/-- A query is announced, compiled and answered. -/
theorem parse_eq (invocation : Invocation) (c : Config) (format : Option Text) (query : Text)
    (s : Session) :
    parse invocation c format query s =
      s.sayAll (announcement invocation c query) >>= fun s =>
        answer (format.getD c.defaultFormat) query
          (Query.compile (c.dialect invocation.strict) query)
          (noted invocation (Query.compileLogged (c.dialect invocation.strict) query).1 s) := rfl

/-- A query of which nothing is announced is answered at once. -/
theorem parse_of_silent (hsilent : (invocation.verbose || invocation.debug) = false)
    (format : Option Text) (query : Text) (s : Session) :
    parse invocation c format query s =
      answer (format.getD c.defaultFormat) query
        (Query.compile (c.dialect invocation.strict) query) s := by
  have hdebug : invocation.debug = false := (Bool.or_eq_false_iff.1 hsilent).2
  have hnothing : announcement invocation c query = [] := by
    rw [announcement, hsilent]
    rfl
  have hnoted : ∀ log, noted invocation log s = s := by
    intro log
    rw [noted, hdebug]
    rfl
  rw [parse_eq, hnothing]
  show answer _ _ _ (noted invocation _ s) = _
  rw [hnoted]

/-- Whether a text is what announces a query on the stream of results: a line if the progress is
asked for, and nothing otherwise. -/
def Announces (invocation : Invocation) (c : Config) (query announced : Text) : Prop :=
  if invocation.verbose || invocation.debug then
    Session.PrintedAs (Notice.compiling query (c.dialect invocation.strict).strict).lines
      [announced]
  else announced = []

/-- Nothing is announced exactly if the progress is not asked for. -/
theorem Announces.eq_nil_iff {query announced : Text}
    (h : Announces invocation c query announced) :
    announced = [] ↔ invocation.verbose = false ∧ invocation.debug = false := by
  rw [← Bool.or_eq_false_iff]
  unfold Announces at h
  split at h
  next hchatty =>
    have hline := (List.forall₂_cons.1 h).1
    exact iff_of_false (Console.printed_ne_nil hline) (by simp [hchatty])
  next hsilent => exact iff_of_true h (Bool.eq_false_iff.2 hsilent)

/-- The announcement is written to the stream of results. -/
theorem exists_announces {query : Text}
    (h : s.sayAll (announcement invocation c query) = .ok s') :
    ∃ announced, Announces invocation c query announced ∧ s' = s.write .output announced := by
  unfold announcement at h
  unfold Announces
  split at h
  next hchatty =>
    rw [Session.sayAll] at h
    cases hsay : s.say (.compiling query (c.dialect invocation.strict).strict) with
    | error outcome =>
      rw [hsay] at h
      cases h
    | ok said =>
      rw [hsay] at h
      obtain rfl := Except.ok.inj h
      obtain ⟨printed, hprinted, rfl⟩ := Session.say_eq_ok_iff.1 hsay
      obtain ⟨line, rest, hline, hrest, rfl⟩ := List.forall₂_cons_left_iff.1 hprinted
      obtain rfl := List.forall₂_nil_left_iff.1 hrest
      refine ⟨line, ?_, ?_⟩
      · rw [if_pos hchatty]
        exact hprinted
      · simp [Notice.channel]
  next hsilent =>
    obtain rfl := Except.ok.inj h
    refine ⟨[], ?_, (Session.write_nil _ _).symm⟩
    rw [if_neg hsilent]

/-- When a query has been shown in JSON, its document has been written to the stream of results
behind what announces it. -/
theorem parse_eq_ok {query : Text} (h : parse invocation c (some "json".toList) query s = .ok s') :
    ∃ q announced, Query.compile (c.dialect invocation.strict) query = .ok q ∧
      Announces invocation c query announced ∧
        s'.output = s.output ++ announced ++ (q.toJson.document ++ ['\n']) := by
  rw [parse_eq] at h
  obtain ⟨said, hsaid, h⟩ := Session.eq_ok_of_bind h
  obtain ⟨announced, hannounced, rfl⟩ := exists_announces hsaid
  obtain ⟨q, hcompile⟩ := answer_eq_ok h
  refine ⟨q, announced, hcompile, hannounced, ?_⟩
  rw [hcompile] at h
  obtain rfl := Except.ok.inj ((answer_json _ _ _).symm.trans h)
  show (noted _ _ _).output ++ _ = _
  rw [output_noted]
  rfl

/-- A compiled query can be shown in JSON, whether it is announced or not. -/
theorem exists_parse_of_compile {query : Text} {q : Query}
    (hcompile : Query.compile (c.dialect invocation.strict) query = .ok q) (s : Session) :
    ∃ s', parse invocation c (some "json".toList) query s = .ok s' := by
  obtain ⟨said, hsaid⟩ : ∃ said, s.sayAll (announcement invocation c query) = .ok said := by
    unfold announcement
    split
    next =>
      obtain ⟨t, hsay⟩ := Session.exists_say
        (Notice.printable_compiling query (c.dialect invocation.strict).strict) s
      exact ⟨_, by rw [Session.sayAll, hsay]; rfl⟩
    next => exact ⟨s, rfl⟩
  have hanswer := answer_json query q
    (noted invocation (Query.compileLogged (c.dialect invocation.strict) query).1 said)
  rw [parse_eq, hsaid, hcompile]
  exact ⟨_, hanswer⟩

/-- Steps that show a query and end the run fail. -/
theorem exitCode_of_parse {format : Option Text} {query : Text} {outcome : Outcome}
    (h : parse invocation c format query s = .error outcome) : outcome.exitCode = 1 := by
  rw [parse_eq] at h
  rcases Session.eq_error_of_bind h with hsay | ⟨said, -, h⟩
  · exact Session.exitCode_of_sayAll hsay
  · exact exitCode_of_answer h

end Program

end CardQuery
