import JobShell.Command.Parser
import JobShell.Handoff.Monitor

/-!
# Trying the hand-off

Requests are offered and helper threads wait on one hand-off. A helper that has to wait is asked
for its answer later, the oldest one first.
-/

namespace JobShell.Scenario

/-- One operation on a hand-off. -/
inductive HandoffAction
  | ready (line : Option Bytes)
  | await (w : Wait)
  /-- Ask the oldest helper that waits for its answer. -/
  | join
  | release
  | setExit
  | requestShutdown
  | look
deriving DecidableEq, Repr

inductive HandoffAnswer
  | done
  | awaited (a : Awaited)
  /-- The helper waits. -/
  | blocked
  | nobodyWaits
  | stillBlocked
  | refused (e : ParseError)
  | busy (e : HandoffError)
deriving DecidableEq, Repr

/-- A hand-off, the exit flag, and the helpers that had to wait, oldest first, with the answers of
those that have come back since. -/
structure Handoffs where
  maxToken : Nat := 255
  monitor : Monitor := {}
  exiting : Bool := false
  helpers : List Nat := []
  answers : List (Nat × Awaited) := []
  next : Nat := 0
deriving DecidableEq, Repr

namespace Handoffs

/-- Let notified helpers look at the slot. -/
def settle (h : Handoffs) : Handoffs :=
  let (answers, monitor) := h.monitor.settle
  { h with monitor, answers := h.answers ++ answers }

def offer (h : Handoffs) (r : Request) : HandoffAnswer × Handoffs :=
  match h.monitor.offer r with
  | .ok monitor => (.done, { h with monitor })
  | .error e => (.busy e, h)

/-- Set the exit flag and wake whoever waits for a request, unless that was done before. -/
def requestShutdown (h : Handoffs) : Handoffs :=
  if h.exiting then h else ({ h with exiting := true }.offer .shutdown).2

def act (h : Handoffs) : HandoffAction → HandoffAnswer × Handoffs
  | .ready none => h.offer .shutdown
  | .ready (some line) =>
      match Command.parse h.maxToken line with
      | .ok c => h.offer (.run c)
      | .error e => (.refused e, h)
  | .await w =>
      match h.monitor.enter h.next w with
      | (some answer, monitor) => (.awaited answer, { h with monitor, next := h.next + 1 })
      | (none, monitor) =>
          (.blocked, { h with monitor, next := h.next + 1, helpers := h.helpers ++ [h.next] })
  | .join =>
      match h.helpers with
      | [] => (.nobodyWaits, h)
      | helper :: rest =>
          let h := { h with helpers := rest }
          match h.answers.lookup helper with
          | some answer => (.awaited answer, h)
          | none => (.stillBlocked, h)
  | .release => (.done, { h with monitor := h.monitor.release })
  | .setExit => (.done, { h with exiting := true })
  | .requestShutdown => (.done, h.requestShutdown)
  | .look => (.done, h)

/-- An answer with the occupancy of the slot and the exit flag after it. -/
structure Seen where
  answer : HandoffAnswer
  busy : Bool
  exiting : Bool
deriving DecidableEq, Repr

def perform : List HandoffAction → Handoffs → List Seen
  | [], _ => []
  | a :: rest, h =>
      let (answer, h) := h.act a
      let h := h.settle
      ⟨answer, h.monitor.slot.isBusy, h.exiting⟩ :: perform rest h

end Handoffs

end JobShell.Scenario
