import CardQuery.Console
import CardQuery.Invocation

/-!
# Sessions

The state of a run of the program and the way a run ends.  A step of a run either leads to the next
state or ends the run, and what was written up to then stays written.

Main results:

- `output_of_say` says that a notice for the stream of errors leaves the results as they are.
-/

namespace CardQuery

/-- The state of a run of the program. -/
structure Session where
  /-- What has been written to the stream of results. -/
  output : Text := []
  /-- What has been written to the stream of errors. -/
  errors : Text := []
  /-- The log of the compilation. -/
  log : List LogEntry := []
  /-- Whether messages are in colour. -/
  color : Bool := true
  /-- The files. -/
  tree : FileTree

/-- Why a run ends before it is done without saying so. -/
inductive Crash
  /-- The configuration file cannot be read. -/
  | load (fault : Config.LoadFault)
  /-- A path has no meaning. -/
  | path (fault : PathFault)
  /-- A message cannot be shown. -/
  | markup (fault : Markup.Fault)
  /-- A query has a part that cannot be read. -/
  | query (e : QueryError)
deriving DecidableEq, Repr

/-- How a run of the program ends. -/
structure Outcome where
  /-- The last state. -/
  last : Session
  /-- The exit code. -/
  exitCode : Nat := 0
  /-- Why the run ended early, if it did so without saying why. -/
  crash : Option Crash := none

namespace Session

/-- The session with a text written to a stream. -/
def write (s : Session) (channel : Channel) (t : Text) : Session :=
  match channel with
  | .output => { s with output := s.output ++ t }
  | .errors => { s with errors := s.errors ++ t }

/-- The end of a run by a crash. -/
def crash (s : Session) (why : Crash) : Outcome := ⟨s, 1, some why⟩

/-- The end of a run that refuses what it was asked for. -/
def fail (s : Session) : Outcome := ⟨s, 1, none⟩

/-- The end of a run by arguments that are refused. -/
def refuse (s : Session) (fault : UsageFault) : Outcome :=
  ⟨s.write .errors ("Error: ".toList ++ fault.message ++ ['\n']), 2, none⟩

/-- The end of a run that did what it was asked for. -/
def done (s : Session) : Outcome := ⟨s, 0, none⟩

/-- A step that writes what is printed, if it can be printed. -/
def put (s : Session) (channel : Channel) : Except Markup.Fault Text → Except Outcome Session
  | .ok t => .ok (s.write channel t)
  | .error fault => .error (s.crash (.markup fault))

/-- A step that writes lines of markup one by one. -/
def putLines (s : Session) (channel : Channel) : List Text → Except Outcome Session
  | [] => .ok s
  | line :: rest =>
    match s.put channel (Console.printed line) with
    | .error outcome => .error outcome
    | .ok s => s.putLines channel rest

/-- A step that gives a notice. -/
def say (s : Session) (n : Notice) : Except Outcome Session := s.putLines n.channel n.lines

/-- A step that gives notices one by one. -/
def sayAll (s : Session) : List Notice → Except Outcome Session
  | [] => .ok s
  | n :: rest =>
    match s.say n with
    | .error outcome => .error outcome
    | .ok s => s.sayAll rest

/-- The end of a run by steps that end it early or lead to a last state. -/
def finish : Except Outcome Session → Outcome
  | .error outcome => outcome
  | .ok s => s.done

/-- Lines that go to the stream of errors leave the results as they are. -/
theorem output_of_putLines_errors {s s' : Session} {lines : List Text}
    (h : s.putLines .errors lines = .ok s') : s'.output = s.output := by
  induction lines generalizing s with
  | nil =>
    cases h
    rfl
  | cons line rest ih =>
    unfold putLines put at h
    cases hprinted : Console.printed line with
    | error fault => simp [hprinted] at h
    | ok t =>
      simp only [hprinted] at h
      exact (ih h).trans rfl

/-- A notice for the stream of errors leaves the results as they are. -/
theorem output_of_say {s s' : Session} {n : Notice} (hchannel : n.channel = .errors)
    (h : s.say n = .ok s') : s'.output = s.output := by
  rw [say, hchannel] at h
  exact output_of_putLines_errors h

end Session

end CardQuery
