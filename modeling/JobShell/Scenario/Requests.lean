import JobShell.Scenario.Launches
import JobShell.Thread.Execution

/-!
# Handing requests to the execution thread

The execution thread runs by itself; requests are offered to it one after another, each when the
slot is empty again.
-/

namespace JobShell.Scenario

open Machine
open Thread (Status Execution)

/-- What a request comes to. -/
inductive RequestAnswer
  | done
  | refused (e : ParseError)
  | busy
deriving DecidableEq, Repr

/-- The execution thread and what it shares. -/
structure Requests where
  maxToken : Nat := 255
  shared : Shared Machine
  thread : Status Execution (Except LaunchError Unit) := .running .start

namespace Requests

def step (r : Requests) : Option Requests :=
  match r.shared.advance Machine.world Execution.turn r.thread with
  | some (thread, shared) => some { r with thread, shared }
  | none =>
      (Launches.moveOn r.shared.world).map fun m =>
        { r with shared := { r.shared with world := m } }

/-- Go on until a condition holds or nothing moves. -/
def runUntil (done : Requests → Bool) : (fuel : Nat) → Requests → Requests
  | 0, r => r
  | fuel + 1, r =>
      if done r then r
      else match r.step with
        | none => r
        | some r => runUntil done fuel r

def isVacant (r : Requests) : Bool := !r.shared.slot.isBusy

def hasEnded (r : Requests) : Bool := (Shell.endOf r.thread).isSome

/-- Offer a request and wait until the slot is empty again. -/
def offer (r : Requests) (request : Request) : RequestAnswer × Requests :=
  match r.shared.slot.offer request with
  | .error _ => (.busy, r)
  | .ok slot =>
      (.done, runUntil isVacant Play.patience { r with shared := { r.shared with slot } })

/-- What is seen after a request. -/
structure RequestSeen where
  answer : RequestAnswer
  busy : Bool
  /-- Standard output so far. -/
  output : Bytes
deriving DecidableEq, Repr

def seen (r : Requests) (answer : RequestAnswer) : RequestSeen :=
  ⟨answer, r.shared.slot.isBusy, r.shared.world.stdout⟩

/-- Offer one request after another; a missing line is a shutdown, which is the last request. After
a request that finds the exit flag set nothing more is offered. -/
def offerAll : List (Option Bytes) → Requests → List RequestSeen × Requests
  | [], r => ([], r)
  | none :: _, r =>
      let (answer, r) := r.offer .shutdown
      ([r.seen answer], r)
  | some line :: rest, r =>
      match Command.parse r.maxToken line with
      | .error e =>
          let (others, after) := offerAll rest r
          (r.seen (.refused e) :: others, after)
      | .ok c =>
          let (answer, r) := r.offer (.run c)
          if r.shared.exiting then ([r.seen answer], r)
          else
            let (others, after) := offerAll rest r
            (r.seen answer :: others, after)

end Requests

/-- What is seen of a whole scenario of requests. -/
structure RequestsSeen where
  steps : List Requests.RequestSeen
  result : Option (Except LaunchError Unit)
  exiting : Bool
  stdout : Bytes
  stderr : Bytes
  files : Except Errno (List FileTree.Found)

def Host.requests (h : Host) (maxToken : Nat) (exiting : Bool) (lines : List (Option Bytes)) :
    RequestsSeen :=
  let start : Requests := {
    maxToken, shared := { exiting, world := h.boot.setMask h.shellPid .full } }
  let (steps, r) := Requests.offerAll lines start
  let r := r.runUntil Requests.hasEnded Play.patience
  -- Without a shutdown among the requests the thread is told to leave now.
  let r := if r.hasEnded then r else (r.offer .shutdown).2.runUntil Requests.hasEnded Play.patience
  { steps
    result := Shell.endOf r.thread
    exiting := r.shared.exiting
    stdout := r.shared.world.stdout
    stderr := r.shared.world.stderr
    files := r.shared.world.tree.inventory h.scratch }

end JobShell.Scenario
