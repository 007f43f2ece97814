import JobShell.Thread.Execution
import JobShell.Thread.Signals
import JobShell.Thread.Supervisor

/-!
# The shell as a whole

Four threads share a slot, an exit flag and a registry, and work on a world: everything outside
the shell. `Shell.step` lets one thread make its call; it gives nothing where the thread has to
wait or has ended. Every order in which the threads may take their steps is a sequence of such
steps.

Results:
1. `Shared.answer_of_prints`: what the calls that write to standard output do.
-/

namespace JobShell

/-- What the system does for the shell. An operation that gives nothing has to wait. -/
structure World (W : Type) where
  print : Bytes → W → W
  complain : Bytes → W → W
  readByte : W → Option (ReadOutcome × W)
  changeDirectory : Bytes → W → Except IoError Unit × W
  fork : Command → W → Except Errno Pid × W
  blockSignals : W → W
  waitFor : Pid → WaitOptions → W → Option (WaitReply × W)
  /-- Make room for the entry of another job. -/
  reserve : W → Except RegistrationError Unit × W
  raiseChild : W → W
  awaitSignal : W → Option (Except Errno Signal × W)
  sendStop : W → Except Errno Unit × W

/-- What the threads share. -/
structure Shared (W : Type) where
  slot : Slot := .empty
  exiting : Bool := false
  jobs : Registry := {}
  world : W

namespace Shared

variable {W : Type}

/-- The reply to a call, and what is shared afterwards; nothing if the caller has to wait. The
ends of threads are not shared, so the calls that wait for them are not answered here. -/
def answer (world : World W) (s : Shared W) : (c : Call) → Option (c.Reply × Shared W)
  | .offer r =>
      match s.slot.offer r with
      | .ok slot => some (.ok (), { s with slot })
      | .error e => some (.error e, s)
  | .awaitVacancy => if s.slot.isBusy then none else some ((), s)
  | .awaitRequest => s.slot.take?.map fun (r, slot) => (r, { s with slot })
  | .release => some ((), { s with slot := s.slot.release })
  | .isExiting => some (s.exiting, s)
  | .setExiting => some ((), { s with exiting := true })
  | .track pid name =>
      match world.reserve s.world with
      | (.ok (), w) => some (.ok (), { s with jobs := s.jobs.insert pid name, world := w })
      | (.error e, w) => some (.error e, { s with world := w })
  | .untrack pid => some (s.jobs.contains pid, { s with jobs := s.jobs.remove pid })
  | .trackedPids => some (s.jobs.pids, s)
  | .forgetJobs => some (s.jobs.size, { s with jobs := s.jobs.clear })
  | .printJobs => some ((), { s with world := world.print s.jobs.listing s.world })
  | .print bs => some ((), { s with world := world.print bs s.world })
  | .printByOccupancy vacant occupied =>
      some ((), { s with
        world := world.print (if s.slot.isBusy then occupied else vacant).flatten s.world })
  | .complain bs => some ((), { s with world := world.complain bs s.world })
  | .readByte => (world.readByte s.world).map fun (r, w) => (r, { s with world := w })
  | .changeDirectory dir =>
      let (r, w) := world.changeDirectory dir s.world
      some (r, { s with world := w })
  | .fork c =>
      let (r, w) := world.fork c s.world
      some (r, { s with world := w })
  | .blockSignals => some ((), { s with world := world.blockSignals s.world })
  | .waitFor pid options =>
      (world.waitFor pid options s.world).map fun (r, w) => (r, { s with world := w })
  | .raiseChild => some ((), { s with world := world.raiseChild s.world })
  | .awaitSignal => (world.awaitSignal s.world).map fun (r, w) => (r, { s with world := w })
  | .sendStop =>
      let (r, w) := world.sendStop s.world
      some (r, { s with world := w })
  | .joinInput | .joinExecution | .joinSignals => none

/-- A call that writes to standard output writes `Call.output`, and that is all it does. -/
theorem answer_of_prints {c : Call} (prints : c.prints = true) (world : World W) (s : Shared W) :
    (s.answer world c).map (·.2) =
      some { s with world := world.print (c.output s.slot s.jobs) s.world } := by
  cases c with
  | print | printJobs | printByOccupancy => rfl
  | _ => cases prints

/-- Let a thread make its call, if it is on its way and need not wait. -/
def advance {σ ρ : Type} (world : World W) (turn : σ → Thread.Turn σ ρ)
    (t : Thread.Status σ ρ) (s : Shared W) : Option (Thread.Status σ ρ × Shared W) :=
  match t with
  | .ended _ => none
  | .running state =>
      (s.answer world (turn state).call).map fun (reply, s) => ((turn state).resume reply, s)

end Shared

/-- The threads of the shell. -/
inductive ThreadId
  | input
  | execution
  | signals
  | supervisor
deriving DecidableEq, Repr

open Thread in
/-- The shell: its threads and what they share. -/
structure Shell (W : Type) where
  limits : Limits := {}
  shared : Shared W
  input : Status Input (Except Fault Unit) := .running .start
  execution : Status Execution (Except LaunchError Unit) := .running .start
  signals : Status Signals (Except Errno Unit) := .running .start
  supervisor : Status Supervisor (Except Fault Unit × Nat) := .running .start

namespace Shell

open Thread

variable {W : Type}

/-- The result of a thread that has ended. -/
def endOf {σ ρ : Type} : Status σ ρ → Option ρ
  | .ended result => some result
  | .running _ => none

/-- The reply to a call of the supervisor, which may wait for the ends of the other threads. -/
def answerSupervisor (world : World W) (s : Shell W) :
    (c : Call) → Option (c.Reply × Shared W)
  | .joinInput => (endOf s.input).map fun result => (result, s.shared)
  | .joinExecution => (endOf s.execution).map fun result => (result, s.shared)
  | .joinSignals => (endOf s.signals).map fun result => (result, s.shared)
  | c => s.shared.answer world c

/-- One step of one thread. -/
def step (world : World W) (s : Shell W) : ThreadId → Option (Shell W)
  | .input =>
      (s.shared.advance world (Input.turn s.limits) s.input).map fun (input, shared) =>
        { s with input, shared }
  | .execution =>
      (s.shared.advance world Execution.turn s.execution).map fun (execution, shared) =>
        { s with execution, shared }
  | .signals =>
      (s.shared.advance world Signals.turn s.signals).map fun (signals, shared) =>
        { s with signals, shared }
  | .supervisor =>
      match s.supervisor with
      | .ended _ => none
      | .running state =>
          (s.answerSupervisor world state.turn.call).map fun (reply, shared) =>
            { s with supervisor := state.turn.resume reply, shared }

/-- The result of the shell and the number of jobs that were left, once it has ended. -/
def result? (s : Shell W) : Option (Except Fault Unit × Nat) := endOf s.supervisor

/-- The order in which threads are asked for a step when nothing else decides. -/
def threads : List ThreadId := [.signals, .execution, .input, .supervisor]

/-- Let the first thread that can take a step take one. -/
def stepAny (world : World W) (s : Shell W) : Option (Shell W) :=
  threads.findSome? (s.step world)

/-- The call that a thread is about to make. -/
def call? (s : Shell W) : ThreadId → Option Call
  | .input =>
      match s.input with
      | .running i => some (i.turn s.limits).call
      | .ended _ => none
  | .execution =>
      match s.execution with
      | .running x => some x.turn.call
      | .ended _ => none
  | .signals =>
      match s.signals with
      | .running g => some g.turn.call
      | .ended _ => none
  | .supervisor =>
      match s.supervisor with
      | .running v => some v.turn.call
      | .ended _ => none

/-- What a thread is about to write with the slot locked, write by write. -/
def pieces (s : Shell W) (thread : ThreadId) : List Bytes :=
  match s.call? thread with
  | some c => c.pieces s.shared.slot
  | none => []

end Shell

end JobShell
