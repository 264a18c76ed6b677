import CardQuery.Proofs.Config.Obstacles
import CardQuery.Proofs.Console
import CardQuery.Proofs.Program.Steps
import CardQuery.Proofs.Text.Literal
import Mathlib.Data.List.Infix

/-!
# The hint to force a starter file

If a starter file is not written, the line of the error is followed by a hint to force it whenever
the word "exists" stands in the wording of the fault.  It does if something stands at the path that
is not to be overwritten.  But a file in the place of a directory is also said to exist, and the word
may stand in the path.  Forcing does not help then.

Main results:

- `Config.infix_message_iff` says which faults have the word in their wording.
- `Program.create_eq_error` says what is printed for a fault.
- `Program.suggestsForce_iff` says when the hint is given.
- `Program.not_forall_suggestsForce` gives a path for which it is given though nothing stands there.
- `Program.failure_of_run` says how a whole run that is asked for a starter file can fail.
-/

namespace CardQuery

open Markup

/-! ## A word in the wording of a fault -/

/-- A word without a character stands in two texts around the character exactly if it stands in one
of them. -/
theorem Text.infix_append_cons_iff {word before behind : Text} {c : Char} (hc : c ∉ word) :
    word <:+: before ++ c :: behind ↔ word <:+: before ∨ word <:+: behind := by
  constructor
  · intro h
    rcases List.infix_append_iff_ne_nil.1 h with h | h | ⟨w, w', -, hne, rfl, -, hbegin⟩
    · exact Or.inl h
    · rcases List.infix_cons_iff.1 h with hbegin | h
      · cases word with
        | nil => exact Or.inl List.nil_infix
        | cons d word =>
          obtain ⟨rfl, -⟩ := List.cons_prefix_cons.1 hbegin
          exact absurd List.mem_cons_self hc
      · exact Or.inr h
    · obtain ⟨d, w', rfl⟩ := List.exists_cons_of_ne_nil hne
      obtain ⟨rfl, -⟩ := List.cons_prefix_cons.1 hbegin
      exact absurd (List.mem_append_right w List.mem_cons_self) hc
  · rintro (h | h)
    · exact h.trans (List.prefix_append before _).isInfix
    · exact h.trans ⟨before ++ [c], [], by simp⟩

theorem Text.infix_append_iff_of_last {word before behind : Text} {c : Char}
    (hlast : before.getLast? = some c) (hc : c ∉ word) :
    word <:+: before ++ behind ↔ word <:+: before ∨ word <:+: behind := by
  obtain ⟨front, rfl⟩ := List.getLast?_eq_some_iff.1 hlast
  rw [List.append_assoc, List.singleton_append, infix_append_cons_iff hc,
    infix_append_cons_iff hc, or_assoc]
  have hnil : word <:+: [] → word <:+: behind := fun h => h.trans List.nil_infix
  rw [or_iff_right_of_imp hnil]

theorem Text.contains_iff_isInfix {part t : Text} : contains part t = true ↔ part <:+: t := by
  rw [contains_iff]
  simp only [List.IsInfix, eq_comm]

/-- The word that decides whether a starter file could be forced. -/
def existsWord : Text := "exists".toList

namespace FileFault

/-- The path that a fault is about. -/
def path : FileFault → Path
  | fileExists p | notDirectory p | isDirectory p => p

/-- What is said of the path that a fault is about. -/
def verdict : FileFault → Text
  | fileExists _ => "[Errno 17] File exists: ".toList
  | notDirectory _ => "[Errno 20] Not a directory: ".toList
  | isDirectory _ => "[Errno 21] Is a directory: ".toList

theorem message_eq (fault : FileFault) :
    fault.message = fault.verdict ++ fault.path.written.literal := by
  cases fault <;> rfl

theorem getLast?_verdict (fault : FileFault) : fault.verdict.getLast? = some ' ' := by
  cases fault <;> rfl

theorem infix_verdict_iff (fault : FileFault) :
    existsWord <:+: fault.verdict ↔ ∃ above, fault = fileExists above := by
  cases fault with
  | fileExists p =>
    have hword : existsWord <:+: (fileExists []).verdict := by decide
    exact iff_of_true hword ⟨p, rfl⟩
  | notDirectory p =>
    have hnone : ¬existsWord <:+: (notDirectory []).verdict := by decide
    exact iff_of_false hnone nofun
  | isDirectory p =>
    have hnone : ¬existsWord <:+: (isDirectory []).verdict := by decide
    exact iff_of_false hnone nofun

/-- The word stands in what is said of a file in the place of a directory, and in what is said of a
path that it stands in as it is written. -/
theorem infix_message_iff (fault : FileFault) :
    existsWord <:+: fault.message ↔
      (∃ above, fault = fileExists above) ∨ existsWord <:+: fault.path.written.literal := by
  rw [message_eq, Text.infix_append_iff_of_last fault.getLast?_verdict (by decide),
    infix_verdict_iff]

end FileFault

namespace Config

/-- Whether the wording of a fault speaks of something that exists though there is nothing to
overwrite. -/
inductive Misleading : StarterFault → Prop
  /-- A file stands where the parent should. -/
  | parent (path above : Path) : Misleading (.file path (.fileExists above))
  /-- The word stands in the path. -/
  | called {path : Path} {fault : FileFault} (h : existsWord <:+: path.written) :
      Misleading (.file path fault)
  /-- The word stands in the path at which the way is blocked, as it is written in a literal. -/
  | quoted {path : Path} {fault : FileFault} (h : existsWord <:+: fault.path.written.literal) :
      Misleading (.file path fault)

/-- The word stands in the wording of a fault exactly if something exists at the path or the wording
misleads. -/
theorem infix_message_iff {fault : StarterFault} {message : Text}
    (h : fault.message? = some message) :
    existsWord <:+: message ↔ (∃ path, fault = .alreadyExists path) ∨ Misleading fault := by
  cases fault with
  | path fault => cases h
  | alreadyExists path =>
    obtain rfl := Option.some.inj h
    refine iff_of_true ?_ (Or.inl ⟨path, rfl⟩)
    have hword : existsWord <:+: "Config file already exists: ".toList := by decide
    exact hword.trans (List.prefix_append _ _).isInfix
  | file path fault =>
    obtain rfl := Option.some.inj h
    have hsplit : "Failed to write config file ".toList ++ path.written ++ ": ".toList ++
        fault.message = "Failed to write config file".toList ++ ' ' :: (path.written ++ ':' ::
          ([] ++ ' ' :: fault.message)) := by simp
    have hlead : ¬existsWord <:+: "Failed to write config file".toList := by decide
    have hnil : ¬existsWord <:+: [] := by decide
    rw [hsplit, Text.infix_append_cons_iff (by decide), Text.infix_append_cons_iff (by decide),
      Text.infix_append_cons_iff (by decide), fault.infix_message_iff]
    simp only [hlead, hnil, false_or]
    constructor
    · rintro (h | ⟨above, rfl⟩ | h)
      · exact Or.inr (.called h)
      · exact Or.inr (.parent path above)
      · exact Or.inr (.quoted h)
    · rintro (⟨other, heq⟩ | hmisleading)
      · cases heq
      · cases hmisleading with
        | parent path above => exact Or.inr (Or.inl ⟨above, rfl⟩)
        | called h => exact Or.inl h
        | quoted h => exact Or.inr (Or.inr h)

/-- The wording of a blocked file ends with a quote. -/
theorem getLast?_message {path : Path} {fault : FileFault} {message : Text}
    (h : (StarterFault.file path fault).message? = some message) :
    message.getLast? = some (Text.quoteFor fault.path.written) := by
  obtain rfl := Option.some.inj h
  rw [List.getLast?_append, fault.message_eq, List.getLast?_append, Text.getLast?_literal]
  rfl

end Config

/-! ## What is printed -/

/-- A message that is no markup is printed as it is behind a label. -/
theorem Console.printed_label (tone : Tone) {lead label message : Text} (hlead : Bare lead)
    (hlabel : Bare label) (hplain : Plain (lead ++ label)) (h : Verbatim message []) :
    Console.printed (lead ++ (tone.apply label ++ ' ' :: message)) =
      .ok (lead ++ label ++ ' ' :: message ++ ['\n']) := by
  have hmessage : read message = message.map Token.char := by
    have hslash := h.noSlash
    rw [List.append_nil] at hslash
    refine read_eq_map_char ?_ hslash
    rw [tags_read_eq, activeTags_eq_nil_iff.2 h.noTag]
    rfl
  have hsplit : tone.apply label ++ ' ' :: message =
      '[' :: (tone.name ++ ']' :: (label ++ '[' :: ('/' :: tone.name ++ ']' ::
        ([' '] ++ message)))) := by
    simp [Tone.apply]
  have hread : read (lead ++ (tone.apply label ++ ' ' :: message)) =
      lead.map Token.char ++ .tag tone.name :: (label.map Token.char ++ .tag ('/' :: tone.name) ::
        (' ' :: message).map Token.char) := by
    have hspace : Bare [' '] := by decide
    rw [read_append_of_bare hlead, hsplit, read_label (plainWord_name tone) hlabel,
      read_append_of_bare hspace, hmessage]
    rfl
  have hshown : shown (read (lead ++ (tone.apply label ++ ' ' :: message))) =
      lead ++ label ++ ' ' :: message := by
    rw [hread]
    simp [shown, List.filterMap_append, List.filterMap_map]
  have htags := tags_read_label tone hlead hlabel message
  rw [hmessage, tags_map_char] at htags
  have hrender := render_of_label (plainWord_name tone) htags
  rw [hshown] at hrender
  have hchars : ∀ c ∈ lead ++ label ++ ' ' :: message, c ≠ '\t' ∧ isAction c = false := by
    intro c hc
    rcases List.mem_append.1 hc with hc | hc
    · exact (hplain c hc).2
    · rcases List.mem_cons.1 hc with rfl | hc
      · decide
      · exact ⟨fun heq => h.noTab (heq ▸ hc), h.noAction c hc⟩
  exact printed_of_render hrender (fun htab => (hchars _ htab).1 rfl) fun c hc => (hchars c hc).2

/-- What is printed as a hint to force a starter file. -/
def forceHint : Text := "  Hint: Use --force to overwrite\n".toList

theorem Console.printed_forceHint :
    Console.printed (Notice.hintLine "Use --force to overwrite".toList) = .ok forceHint := by
  have hplain : Plain "Use --force to overwrite".toList := by decide
  have hprinted := printed_label .info (by decide : Bare "  ".toList)
    (by decide : Bare "Hint:".toList) (by decide) (verbatim_of_plain (by decide) hplain)
  rw [Notice.hintLine, List.append_assoc, hprinted]
  decide

/-- The line of an error has its message as it is if the message is no markup. -/
theorem Console.printed_errorLine {message : Text} (h : Verbatim message []) :
    Console.printed (Notice.errorLine message) = .ok ("Error: ".toList ++ message ++ ['\n']) :=
  printed_label .error (by decide : Bare []) (by decide : Bare "Error:".toList) (by decide) h

/-- Whether a character leaves a mark where it is printed. -/
def Console.isVisible (c : Char) : Bool := !(c == ' ' || c == '\t' || c == '\n' || isAction c)

/-- Markup that ends with a quote is printed with the quote as its last mark. -/
theorem Console.getLast?_visible_printed {markup printed : Text} {quote : Char}
    (hlast : markup.getLast? = some quote) (hquote : quote = '\'' ∨ quote = '"')
    (h : Console.printed markup = .ok printed) :
    (printed.filter isVisible).getLast? = some quote := by
  obtain ⟨front, rfl⟩ := List.getLast?_eq_some_iff.1 hlast
  have hapart : Apart front [quote] := by
    rcases hquote with rfl | rfl <;> constructor <;> simp [brackets]
  have hread : read [quote] = [.char quote] := by
    rcases hquote with rfl | rfl <;> decide +kernel
  have hvisible : [quote].filter isVisible = [quote] := by
    rcases hquote with rfl | rfl <;> decide
  have hblank : ∀ d ∈ [' ', '\t', '\n'], isVisible d = false := by simp [isVisible]
  have haction : ∀ d, isVisible d = true → isAction d = false := by
    intro d hd
    rw [isVisible, Bool.not_eq_true', Bool.or_eq_false_iff] at hd
    exact hd.2
  rw [filter_printed h hblank haction, read_append hapart, hread, shown,
    List.filterMap_append, List.filter_append]
  exact hvisible.symm ▸ List.getLast?_concat

theorem Console.ne_append_forceHint {markup printed : Text} {quote : Char}
    (hlast : markup.getLast? = some quote) (hquote : quote = '\'' ∨ quote = '"')
    (h : Console.printed markup = .ok printed) (t : Text) : printed ≠ t ++ forceHint := by
  have hprinted := getLast?_visible_printed hlast hquote h
  have hhint : (forceHint.filter isVisible).getLast? = some 'e' := by decide
  rintro rfl
  rw [List.filter_append, List.getLast?_append, hhint] at hprinted
  rcases hquote with rfl | rfl <;> cases hprinted

/-! ## The hint -/

namespace Program

variable {place : Place} {s : Session} {output : Option Text} {force : Bool} {outcome : Outcome}

/-- Whether a run that ends says last that what it was asked for could be forced. -/
def SuggestsForce (s : Session) (outcome : Outcome) : Prop :=
  ∃ t, outcome.last.errors = s.errors ++ t ++ forceHint

/-- Whether the line of the error for a fault can be printed. -/
def Shown (fault : Config.StarterFault) : Prop :=
  ∃ message line, fault.message? = some message ∧
    Console.printed (Notice.errorLine message) = .ok line

/-- A run that says nothing does not suggest anything. -/
theorem not_suggestsForce_of_silent (h : outcome.last.errors = s.errors) :
    ¬SuggestsForce s outcome := by
  rintro ⟨t, ht⟩
  have hlength := congrArg List.length (h.symm.trans ht)
  have hhint : forceHint.length = 33 := by decide
  simp only [List.length_append, hhint] at hlength
  omega

/-- A fault with a wording is said before the run ends. -/
theorem create_of_message {fault : Config.StarterFault} {message : Text}
    (h : Config.writeStarter place s.tree output force = .error fault)
    (hmessage : fault.message? = some message) :
    create place output force s = (s.say (.notCreated message) >>= fun s => .error s.fail) := by
  have hnotices : starterNotices place s.tree output force = [.notCreated message] := by
    simp only [starterNotices, h, hmessage, Option.map_some, Option.toList_some]
  rw [create_eq, h, hnotices, Session.sayAll_singleton]
  cases fault with
  | path unknown => cases hmessage
  | alreadyExists | file => rfl

/-- A fault is printed with the hint behind it if the word stands in the wording. -/
theorem create_eq_error {fault : Config.StarterFault} {message line : Text}
    (h : Config.writeStarter place s.tree output force = .error fault)
    (hmessage : fault.message? = some message)
    (hline : Console.printed (Notice.errorLine message) = .ok line) :
    create place output force s =
      .error (s.write .errors
        (line ++ if Text.contains existsWord message then forceHint else [])).fail := by
  have hsay : s.say (.notCreated message) = .ok (s.write .errors
      (line ++ if Text.contains existsWord message then forceHint else [])) := by
    have hlines : (Notice.notCreated message).lines = Notice.errorLine message ::
        if Text.contains existsWord message then
          [Notice.hintLine "Use --force to overwrite".toList] else [] := rfl
    rw [Session.say_eq_ok_iff, hlines]
    by_cases hword : Text.contains existsWord message = true
    · rw [if_pos hword, if_pos hword]
      refine ⟨[line, forceHint], .cons hline (.cons Console.printed_forceHint .nil), ?_⟩
      rw [List.flatten_cons, List.flatten_singleton]
      rfl
    · rw [if_neg hword, if_neg hword]
      refine ⟨[line], .cons hline .nil, ?_⟩
      rw [List.flatten_singleton, List.append_nil]
      rfl
  rw [create_of_message h hmessage, hsay]
  rfl

/-- A run that has written the starter file and cannot say so is silent. -/
theorem silent_of_writeStarter {path : Path} {after : FileTree}
    (h : Config.writeStarter place s.tree output force = .ok (path, after))
    (hcreate : create place output force s = .error outcome) :
    outcome.last.errors = s.errors := by
  simp only [create, h] at hcreate
  cases hline : Console.printed
      (Tone.success.apply ("Created config file: ".toList ++ path.written)) with
  | error unshown =>
    rw [Session.say_of_unprintable rfl hline] at hcreate
    obtain rfl := Except.error.inj hcreate
    rfl
  | ok line =>
    have hprinted : Session.PrintedAs (Notice.created path).lines [line] := .cons hline .nil
    rw [Session.say_eq_ok_iff.2 ⟨[line], hprinted, rfl⟩] at hcreate
    cases hcreate

/-- A run with a fault that cannot be shown is silent. -/
theorem silent_of_not_shown {fault : Config.StarterFault}
    (h : Config.writeStarter place s.tree output force = .error fault) (hshown : ¬Shown fault)
    (hcreate : create place output force s = .error outcome) :
    outcome.last.errors = s.errors := by
  cases hmessage : fault.message? with
  | none =>
    cases fault with
    | path unknown =>
      simp only [create, h] at hcreate
      obtain rfl := Except.error.inj hcreate
      rfl
    | alreadyExists path => cases hmessage
    | file path fault => cases hmessage
  | some message =>
    cases hline : Console.printed (Notice.errorLine message) with
    | ok line => exact absurd ⟨message, line, hmessage, hline⟩ hshown
    | error unshown =>
      rw [create_of_message h hmessage, Session.say_of_unprintable rfl hline] at hcreate
      obtain rfl := Except.error.inj hcreate
      rfl

/-- A run with a fault that can be shown suggests to force the starter file exactly if the word
stands in the wording. -/
theorem suggestsForce_iff_word {fault : Config.StarterFault} {message line : Text}
    (h : Config.writeStarter place s.tree output force = .error fault)
    (hmessage : fault.message? = some message)
    (hline : Console.printed (Notice.errorLine message) = .ok line)
    (hcreate : create place output force s = .error outcome) :
    SuggestsForce s outcome ↔ existsWord <:+: message := by
  obtain rfl := Except.error.inj ((create_eq_error h hmessage hline).symm.trans hcreate)
  rw [← Text.contains_iff_isInfix]
  by_cases hword : Text.contains existsWord message = true
  · refine iff_of_true ⟨line, ?_⟩ hword
    rw [if_pos hword, List.append_assoc]
    rfl
  · refine iff_of_false ?_ hword
    rintro ⟨t, ht⟩
    have hprinted : line = t ++ forceHint := by
      rw [if_neg hword, List.append_nil, List.append_assoc] at ht
      exact List.append_cancel_left ht
    cases fault with
    | path unknown => cases hmessage
    | alreadyExists path =>
      have htaken := (Config.infix_message_iff hmessage).2 (Or.inl ⟨path, rfl⟩)
      exact hword (Text.contains_iff_isInfix.2 htaken)
    | file path fault =>
      have hlast : (Notice.errorLine message).getLast? =
          some (Text.quoteFor fault.path.written) := by
        rw [Notice.errorLine, List.getLast?_append, List.getLast?_cons,
          Config.getLast?_message hmessage]
        rfl
      exact Console.ne_append_forceHint hlast (Text.quoteFor_cases _) hline t hprinted

/-- A run that fails to write a starter file suggests to force it if something stands at the path
and it is not forced, and also if the wording of another fault misleads.  It does so unless the
wording cannot be shown, and never else. -/
theorem suggestsForce_iff (h : create place output force s = .error outcome) :
    SuggestsForce s outcome ↔
      ∃ fault, Config.Obstacle place s.tree output force fault ∧ Shown fault ∧
        ((∃ path, fault = .alreadyExists path) ∨ Config.Misleading fault) := by
  simp only [Config.obstacle_iff]
  cases hstarter : Config.writeStarter place s.tree output force with
  | ok written =>
    refine iff_of_false (not_suggestsForce_of_silent (silent_of_writeStarter hstarter h)) ?_
    rintro ⟨fault, hfault, -⟩
    cases hfault
  | error fault =>
    constructor
    · intro hsuggests
      by_cases hshown : Shown fault
      · obtain ⟨message, line, hmessage, hline⟩ := hshown
        have hword := (suggestsForce_iff_word hstarter hmessage hline h).1 hsuggests
        exact ⟨fault, rfl, ⟨message, line, hmessage, hline⟩,
          (Config.infix_message_iff hmessage).1 hword⟩
      · exact absurd hsuggests
          (not_suggestsForce_of_silent (silent_of_not_shown hstarter hshown h))
    · rintro ⟨other, hother, ⟨message, line, hmessage, hline⟩, hcause⟩
      obtain rfl := Except.error.inj hother
      have hword := (Config.infix_message_iff hmessage).2 hcause
      exact (suggestsForce_iff_word hstarter hmessage hline h).2 hword

/-- The hint is given for a file that is there already. -/
theorem suggestsForce_for_file :
    let s : Session := { tree := ⟨[(["a.toml".toList], .file .empty)]⟩ }
    let outcome := (s.write .errors ("Error: ".toList ++
      "Config file already exists: /a.toml".toList ++ ['\n'] ++ forceHint)).fail
    create ⟨[], [], []⟩ (some "a.toml".toList) false s = .error outcome ∧ SuggestsForce s outcome := by
  intro s outcome
  have hplain : Plain "Config file already exists: /a.toml".toList := by decide
  have hline := Console.printed_errorLine (verbatim_of_plain (by decide) hplain)
  have hstarter : Config.writeStarter ⟨[], [], []⟩ s.tree (some "a.toml".toList) false =
      .error (.alreadyExists ["a.toml".toList]) := rfl
  have hcreate : create ⟨[], [], []⟩ (some "a.toml".toList) false s = .error outcome :=
    create_eq_error hstarter rfl hline
  exact ⟨hcreate, (suggestsForce_iff hcreate).2 ⟨_, Config.obstacle_iff.2 hstarter,
    ⟨_, _, rfl, hline⟩, Or.inl ⟨_, rfl⟩⟩⟩

/-- The hint is not only given if something stands at the path and it is not forced: it is given as
well if a file stands where the parent should. -/
theorem not_forall_suggestsForce :
    ¬∀ place s output force outcome, create place output force s = .error outcome →
      (SuggestsForce s outcome ↔ ∃ path, Config.resolvePath place output = .ok path ∧
        s.tree.exists_ path = true ∧ force = false) := by
  intro hall
  let s : Session := { tree := ⟨[(["f".toList], .file .empty)]⟩ }
  have hplain : Plain
      "Failed to write config file /f/x.toml: [Errno 17] File exists: '/f'".toList := by decide
  have hline := Console.printed_errorLine (verbatim_of_plain (by decide +kernel) hplain)
  have hstarter : Config.writeStarter ⟨[], [], []⟩ s.tree (some "f/x.toml".toList) false =
      .error (.file ["f".toList, "x.toml".toList] (.fileExists ["f".toList])) := rfl
  have hcreate := create_eq_error hstarter rfl hline
  have hsuggests := (suggestsForce_iff_word hstarter rfl hline hcreate).2 (by decide)
  obtain ⟨path, hpath, hexists, -⟩ := (hall _ _ _ _ _ hcreate).1 hsuggests
  obtain rfl := Except.ok.inj hpath
  exact absurd hexists (by decide)

/-! ## Whole runs -/

/-- If the steps of the command fail, its arguments are refused or the steps that write the starter
file fail. -/
theorem failure_of_runInit {rest : List Text} (hfail : (runInit place rest s).exitCode ≠ 0) :
    (∃ fault, InitRequest.read (s.tree.namesDirectory place) rest = .error fault ∧
        runInit place rest s = s.refuse fault) ∨
      ∃ output force, InitRequest.read (s.tree.namesDirectory place) rest =
          .ok (.write output force) ∧
        create place output force s = .error (runInit place rest s) := by
  unfold runInit at hfail ⊢
  cases hrequest : InitRequest.read (s.tree.namesDirectory place) rest with
  | error fault => exact Or.inl ⟨fault, rfl, rfl⟩
  | ok request =>
    rw [hrequest] at hfail
    cases request with
    | help | print => exact absurd rfl hfail
    | write output force =>
      refine Or.inr ⟨output, force, rfl, ?_⟩
      dsimp only at hfail ⊢
      cases hcreate : create place output force s with
      | error outcome => rfl
      | ok last =>
        rw [hcreate] at hfail
        exact absurd rfl hfail

/-- A run that is asked for a starter file and fails has failed before the command, or the arguments
of the command are refused, or the steps that write the file have failed on the files as they were
at first. -/
theorem failure_of_run {around : Surroundings} {tree : FileTree} {args rest : List Text}
    {invocation : Invocation} (hread : Request.read (tree.namesDirectory around.place) args =
      .ok (.command invocation .initConfig rest)) (hfail : (run around tree args).exitCode ≠ 0) :
    prepare around invocation { tree := tree } = .error (run around tree args) ∨
      ∃ c s, prepare around invocation { tree := tree } = .ok (c, s) ∧ s.tree = tree ∧
        ((∃ fault, InitRequest.read (tree.namesDirectory around.place) rest = .error fault ∧
            run around tree args = s.refuse fault) ∨
          ∃ output force, InitRequest.read (tree.namesDirectory around.place) rest =
              .ok (.write output force) ∧
            create around.place output force s = .error (run around tree args)) := by
  have hrun := run_of_command hread
  cases hprepare : prepare around invocation { tree := tree } with
  | error outcome =>
    rw [hprepare] at hrun
    exact Or.inl (congrArg _ hrun.symm)
  | ok done =>
    obtain ⟨c, s⟩ := done
    have htree : s.tree = tree := by
      obtain ⟨warnings, color, t, -, rfl⟩ := prepare_eq_ok hprepare
      rfl
    have hinit : run around tree args = runInit around.place rest s := by
      rw [hrun, hprepare]
      rfl
    rw [hinit] at hfail ⊢
    exact Or.inr ⟨c, s, rfl, htree, htree ▸ failure_of_runInit hfail⟩

end Program

end CardQuery
