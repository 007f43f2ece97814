import JobShell.Jobs.Reap
import JobShell.Thread.Input

/-!
# The signal thread

All threads keep all signals blocked, and this one takes them one at a time. An interrupt or a
stop typed at the prompt gets a new prompt, and only a new line while a command runs. SIGCHLD
starts a pass over the registry and reports what it finds. SIGUSR1 ends the thread, but only once
the exit flag is set.
-/

namespace JobShell.Thread

/-- What the signal thread is about to do. -/
inductive Signals
  | awaiting
  /-- Answer an interrupt or a stop from the keyboard. -/
  | redrawing
  | reaping (r : Reap)
  | reporting (report : JobReport) (rest : List JobReport)
  /-- Look at the exit flag after SIGUSR1. -/
  | checkingExit
deriving DecidableEq, Repr

namespace Signals

def start : Signals := .awaiting

def accept (s : Signal) : Signals :=
  if s = Signal.int ∨ s = Signal.tstp then .redrawing
  else if s = Signal.chld then .reaping .start
  else if s = Signal.usr1 then .checkingExit
  else .awaiting

/-- Go on after waiting for a signal. -/
def afterWait : Except Errno Signal → Status Signals (Except Errno Unit)
  | .ok s => .running (accept s)
  | .error e => if e = .interrupted then .running .awaiting else .ended (.error e)

/-- Go on with the reports that are left. -/
def report : List JobReport → Signals
  | [] => .awaiting
  | r :: rest => .reporting r rest

/-- Go on with a pass, or after it. -/
def afterReap : Reap.Progress → Status Signals (Except Errno Unit)
  | .running r => .running (.reaping r)
  | .ended reports => .running (report reports)

def turn : Signals → Turn Signals (Except Errno Unit)
  | .awaiting => ⟨.awaitSignal, fun reply => afterWait reply⟩
  | .redrawing =>
      ⟨.printByOccupancy [Bytes.ofText "\n" ++ Input.prompt] [Bytes.ofText "\n"], fun _ =>
        .running .awaiting⟩
  | .reaping r => r.turn.embed afterReap
  | .reporting r rest =>
      ⟨.printByOccupancy [textLine r.text, Input.prompt] [textLine r.text], fun _ =>
        .running (report rest)⟩
  | .checkingExit =>
      ⟨.isExiting, fun exiting => if exiting then .ended (.ok ()) else .running .awaiting⟩

end Signals

end JobShell.Thread
