import JobShell.Handoff

/-!
# The hand-off among many threads

A thread that finds the slot in the wrong state goes to sleep. Every change of the slot that can
matter to a sleeper notifies all of them; a thread that is woken looks at the slot again, and goes
back to sleep if it still has to wait. A thread may also wake without having been notified.
-/

namespace JobShell

/-- What a thread waits for. -/
inductive Wait
  | request
  | vacancy
deriving DecidableEq, Repr

/-- What a thread that waited comes back with. -/
inductive Awaited
  | request (r : Request)
  | vacancy
deriving DecidableEq, Repr

/-- A thread asleep on the slot. -/
structure Sleeper where
  thread : Nat
  wait : Wait
  notified : Bool := false
deriving DecidableEq, Repr

/-- The slot and the threads asleep on it, the one that came first in front. -/
structure Monitor where
  slot : Slot := .empty
  asleep : List Sleeper := []
deriving DecidableEq, Repr

namespace Monitor

/-- What a thread gets at once, if it need not wait. -/
def poll (m : Monitor) : Wait → Option (Awaited × Monitor)
  | .request => m.slot.take?.map fun (r, slot) => (.request r, { m with slot })
  | .vacancy => if m.slot.isBusy then none else some (.vacancy, m)

def notifyAll (m : Monitor) : Monitor :=
  { m with asleep := m.asleep.map ({ · with notified := true }) }

def offer (m : Monitor) (r : Request) : Except HandoffError Monitor :=
  (m.slot.offer r).map fun slot => ({ m with slot } : Monitor).notifyAll

def release (m : Monitor) : Monitor :=
  ({ m with slot := m.slot.release } : Monitor).notifyAll

/-- A thread starts to wait: it gets its answer or falls asleep. -/
def enter (m : Monitor) (thread : Nat) (w : Wait) : Option Awaited × Monitor :=
  match m.poll w with
  | some (answer, m) => (some answer, m)
  | none => (none, { m with asleep := m.asleep ++ [{ thread, wait := w }] })

/-- A sleeper wakes and looks at the slot again. -/
def wake (m : Monitor) (s : Sleeper) : Option Awaited × Monitor :=
  match m.poll s.wait with
  | some (answer, after) => (some answer, { after with asleep := m.asleep.erase s })
  | none =>
      (none, { m with
        asleep := m.asleep.map fun t => if t = s then { t with notified := false } else t })

/-- Wake the given sleepers one after another and note who got what. -/
def wakeEach (m : Monitor) : List Sleeper → List (Nat × Awaited) × Monitor
  | [] => ([], m)
  | s :: rest =>
      let (answer, m) := m.wake s
      let (answers, m) := m.wakeEach rest
      ((answer.map fun a => (s.thread, a)).toList ++ answers, m)

/-- Let all notified threads look at the slot, the one that came first before the others. -/
def settle (m : Monitor) : List (Nat × Awaited) × Monitor :=
  m.wakeEach (m.asleep.filter (·.notified))

end Monitor

end JobShell
