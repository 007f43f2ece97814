import JobShell.Thread.Input

/-!
# A session, one line after the other

What a shell does that has no threads: it prompts, reads a line, runs the built-in command or the
program to its end, and starts again. Programs and `cd` do whatever they like with what a session
works on. An interpreter like this says what the outcome of a session is; how the threads of the
shell come to the same outcome is another matter.

Results:
1. `Session.Yields.unique`: a session has at most one outcome.
2. `Session.yields_again_iff`: a round without a launch leaves nothing but its surface.
-/

namespace JobShell

/-- What a session works on: the two streams that are written, what is still to be read, the
working directory and the files. -/
structure Surface (D F : Type) where
  out : Bytes := []
  err : Bytes := []
  unread : Source
  directory : D
  files : F

namespace Surface

variable {D F : Type}

def print (bs : Bytes) (v : Surface D F) : Surface D F := { v with out := v.out ++ bs }

def complain (bs : Bytes) (v : Surface D F) : Surface D F := { v with err := v.err ++ bs }

/-- Read once; behind the end there is only end of file. -/
def read (v : Surface D F) : ReadOutcome × Surface D F :=
  match v.unread with
  | [] => (.endOfFile, v)
  | outcome :: rest => (outcome, { v with unread := rest })

theorem print_nil (v : Surface D F) : v.print [] = v := by
  simp [print]

end Surface

/-- How the wait for a program ends: with its status, or with a failure that is no interruption. -/
inductive Ending
  | status (s : WaitStatus)
  | failed (e : Errno) (final : e ≠ .interrupted)

def Ending.reply : Ending → WaitReply
  | .status s => .status s
  | .failed e _ => .failed e

/-- What `cd` and the programs do. A program that cannot be started changes nothing. -/
structure Behaviour (D F : Type) where
  enter : Bytes → Surface D F → Except IoError Unit × Surface D F
  perform : Command → Surface D F → Except Errno (Ending × Surface D F)

/-- What a round comes to: the session is over, or the next round begins; a command may be launched
before. -/
inductive Round (D F : Type)
  | finished (result : Except Fault Unit) (v : Surface D F)
  | again (v : Surface D F)
  | launched (c : Command) (rest : Round D F)

namespace Session

variable {D F : Type} (b : Behaviour D F) (limits : Limits)

/-- After a program: a death by signal is followed by a newline, and a program that somebody else
waited for is done. -/
def conclude : Ending → Surface D F → Round D F
  | .status s, v => .again (if s.isDeath then v.print (Bytes.ofText "\n") else v)
  | .failed e _, v => if e = .noChild then .again v else .finished (.error (.launch (.wait e))) v

/-- Run a program to its end. -/
def attempt (c : Command) (v : Surface D F) : Round D F :=
  match b.perform c v with
  | .error e => .finished (.error (.launch (.fork e))) v
  | .ok (ending, v) => conclude ending v

def launch (c : Command) (v : Surface D F) : Round D F := .launched c (attempt b c v)

def refuse (message : String) (v : Surface D F) : Round D F :=
  .again (v.complain (textLine message))

def move (dir : Bytes) (v : Surface D F) : Round D F :=
  match b.enter dir v with
  | (.ok (), v) => .again v
  | (.error e, v) => refuse (CdError.ofIoError dir e).message v

/-- Run a command, or return the cursor if there is none. There are no jobs that `jobs` could
list. -/
def command (c : Command) (v : Surface D F) : Round D F :=
  match c.argv with
  | [] => .again (v.print (Bytes.ofText "\r"))
  | program :: arguments =>
      if program = Bytes.ofText "exit" then .finished (.ok ()) v
      else if program = Bytes.ofText "jobs" then .again v
      else if program = Bytes.ofText "cd" then
        match directoryArgument arguments with
        | .ok dir => move b dir v
        | .error e => refuse e.message v
      else launch b c v

/-- Do what a line says. -/
def obey (v : Surface D F) : Line → Round D F
  | .tooLong => refuse ParseError.argumentTooLong.message v
  | .endOfFile => .finished (.ok ()) (v.print (Bytes.ofText "\n"))
  | .text bytes =>
      match Command.parse limits.token bytes with
      | .error e => refuse e.message v
      | .ok c => command b c v

/-- Read the rest of a line and do what it says. -/
def readOn (r : LineReader) (v : Surface D F) : Round D F :=
  match r.run v.unread with
  | (.ok l, rest) => obey b limits { v with unread := rest } l
  | (.error e, rest) => .finished (.error (.input e)) { v with unread := rest }

/-- Prompt, read a line and do what it says. -/
def round (v : Surface D F) : Round D F :=
  readOn b limits (.start limits.line) (v.print (Bytes.ofText "$ "))

/-- `Yields b limits x outcome launched`: from the round `x` on the session launches the given
commands, and then it has the given outcome, or is still under way. -/
inductive Yields :
    Round D F → Option (Except Fault Unit × Surface D F) → List Command → Prop
  | pause {x : Round D F} : Yields x none []
  | finished {result : Except Fault Unit} {v : Surface D F} :
      Yields (.finished result v) (some (result, v)) []
  | again {v : Surface D F} {outcome : Option (Except Fault Unit × Surface D F)}
      {commands : List Command} :
      Yields (round b limits v) outcome commands → Yields (.again v) outcome commands
  | launched {c : Command} {x : Round D F}
      {outcome : Option (Except Fault Unit × Surface D F)} {commands : List Command} :
      Yields x outcome commands → Yields (.launched c x) outcome (c :: commands)

/-- The session that begins with `v` launches the given commands and ends with the given result. -/
def Ends (v : Surface D F) (result : Except Fault Unit) (last : Surface D F)
    (commands : List Command) : Prop :=
  Yields b limits (round b limits v) (some (result, last)) commands

/-- From a round on no background command is launched. -/
def StaysForeground (x : Round D F) : Prop :=
  ∀ commands, Yields b limits x none commands → ∀ c ∈ commands, c.background = false

/-- No line of the session launches a background command. -/
def IsForeground (v : Surface D F) : Prop := StaysForeground b limits (round b limits v)

variable {b limits} {x : Round D F} {v : Surface D F}
  {outcome : Option (Except Fault Unit × Surface D F)} {commands : List Command}

theorem yields_again_iff :
    Yields b limits (.again v) outcome commands ↔
      Yields b limits (round b limits v) outcome commands := by
  constructor
  · intro yields
    cases yields with
    | pause => exact .pause
    | again rest => exact rest
  · exact .again

theorem IsForeground.again (foreground : IsForeground b limits v) :
    StaysForeground b limits (.again v) := fun commands yields =>
  foreground commands (yields_again_iff.1 yields)

theorem Yields.unique {first second : Except Fault Unit × Surface D F} {others : List Command}
    (yields : Yields b limits x (some first) commands)
    (also : Yields b limits x (some second) others) : second = first ∧ others = commands := by
  generalize ended : some first = outcome at yields
  induction yields generalizing others with
  | pause => cases ended
  | finished =>
      cases ended
      cases also
      exact ⟨rfl, rfl⟩
  | again _ ih =>
      cases also with
      | again rest => exact ih rest ended
  | launched _ ih =>
      cases also with
      | launched rest =>
          obtain ⟨same, launches⟩ := ih rest ended
          exact ⟨same, by rw [launches]⟩

end Session

end JobShell
