import JobShell.Fault
import JobShell.Jobs
import JobShell.Line
import JobShell.WaitStatus

/-!
# What a thread asks for

The threads of the shell are machines that do nothing by themselves: in each of its states a
thread has one call to make and a way to go on from the reply. All that threads share, and all
that the system does for them, is behind these calls, and each call is one atomic step.

Results:
1. `Call.output_of_locksSlot`: what a call writes with the slot locked.
-/

namespace JobShell

/-- How to wait for a child. -/
structure WaitOptions where
  /-- Come back at once if there is nothing to report. -/
  noHang : Bool := false
  /-- Report stops as well as ends. -/
  untraced : Bool := false
deriving DecidableEq, Repr

/-- What waiting for a child comes to. -/
inductive WaitReply
  | status (s : WaitStatus)
  | notReady
  | failed (e : Errno)
deriving DecidableEq, Repr

namespace WaitReply

def isNoChild : WaitReply → Bool
  | .failed e => e = .noChild
  | _ => false

def wasInterrupted : WaitReply → Bool
  | .failed e => e = .interrupted
  | _ => false

end WaitReply

/-- The calls of the shell's threads. -/
inductive Call
  /-- Put a request into the slot. -/
  | offer (r : Request)
  /-- Wait until the slot is empty. -/
  | awaitVacancy
  /-- Wait for a request and take it. -/
  | awaitRequest
  /-- Empty the slot. -/
  | release
  /-- Look at the exit flag. -/
  | isExiting
  /-- Set the exit flag. -/
  | setExiting
  /-- Add a job to the registry. -/
  | track (pid : Pid) (name : String)
  /-- Take a job out of the registry; the reply tells whether it was there. -/
  | untrack (pid : Pid)
  /-- The processes in the registry, the most recent first. -/
  | trackedPids
  /-- Forget all jobs; the reply is how many there were. -/
  | forgetJobs
  /-- Write the list of jobs to standard output. -/
  | printJobs
  /-- Write to standard output. -/
  | print (bs : Bytes)
  /-- Write to standard output while the slot is held, the first texts if it is empty and the
  second if it is occupied. -/
  | printByOccupancy (vacant occupied : List Bytes)
  /-- Write to standard error. -/
  | complain (bs : Bytes)
  /-- Read one byte of input. -/
  | readByte
  /-- Change the working directory. -/
  | changeDirectory (dir : Bytes)
  /-- Start a child that becomes the command. -/
  | fork (c : Command)
  /-- Block all signals in the calling thread. -/
  | blockSignals
  /-- Wait for a child. -/
  | waitFor (pid : Pid) (options : WaitOptions)
  /-- Send SIGCHLD to the shell itself. -/
  | raiseChild
  /-- Wait for a signal and take it. -/
  | awaitSignal
  /-- Send SIGUSR1 to the signal thread. -/
  | sendStop
  /-- Wait for the end of the input thread. -/
  | joinInput
  /-- Wait for the end of the execution thread. -/
  | joinExecution
  /-- Wait for the end of the signal thread. -/
  | joinSignals
deriving DecidableEq, Repr

/-- The replies to a call. -/
@[reducible] def Call.Reply : Call → Type
  | .offer _ => Except HandoffError Unit
  | .awaitRequest => Request
  | .isExiting => Bool
  | .track .. => Except RegistrationError Unit
  | .untrack _ => Bool
  | .trackedPids => List Pid
  | .forgetJobs => Nat
  | .readByte => ReadOutcome
  | .changeDirectory _ => Except IoError Unit
  | .fork _ => Except Errno Pid
  | .waitFor .. => WaitReply
  | .awaitSignal => Except Errno Signal
  | .sendStop => Except Errno Unit
  | .joinInput => Except Fault Unit
  | .joinExecution => Except LaunchError Unit
  | .joinSignals => Except Errno Unit
  | .awaitVacancy | .release | .setExiting | .printJobs | .print _ | .printByOccupancy ..
  | .complain _ | .blockSignals | .raiseChild => Unit

namespace Call

/-- Whether a call is made with the slot locked. -/
def locksSlot : Call → Bool
  | .offer _ | .awaitVacancy | .awaitRequest | .release | .printByOccupancy .. => true
  | _ => false

/-- Whether a call writes to standard output. -/
def prints : Call → Bool
  | .print _ | .printJobs | .printByOccupancy .. => true
  | _ => false

/-- What a call writes to standard output with the slot locked, write by write. -/
def pieces (slot : Slot) : Call → List Bytes
  | .printByOccupancy vacant occupied => if slot.isBusy then occupied else vacant
  | _ => []

/-- What a call writes to standard output. -/
def output (slot : Slot) (jobs : Registry) : Call → Bytes
  | .print bs => bs
  | .printJobs => jobs.listing
  | .printByOccupancy vacant occupied => (if slot.isBusy then occupied else vacant).flatten
  | _ => []

theorem output_of_locksSlot {c : Call} (locks : c.locksSlot = true) (slot : Slot)
    (jobs : Registry) : c.output slot jobs = (c.pieces slot).flatten := by
  cases c <;> first | rfl | cases locks

end Call

namespace Thread

/-- A thread on its way or at its end. -/
inductive Status (σ ρ : Type)
  | running (state : σ)
  | ended (result : ρ)
deriving Repr

/-- The call that a thread makes in some state, and how it goes on from each reply. -/
structure Turn (σ ρ : Type) where
  call : Call
  resume : call.Reply → Status σ ρ

namespace Turn

/-- The turn of a thread that holds another one inside. -/
def embed {σ τ ρ π : Type} (t : Turn σ ρ) (f : Status σ ρ → Status τ π) : Turn τ π where
  call := t.call
  resume reply := f (t.resume reply)

end Turn

end Thread

/-- A line of text on its way out. -/
def textLine (s : String) : Bytes := Bytes.ofText (s ++ "\n")

end JobShell
