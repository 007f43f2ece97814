import JobShell.Command

/-!
# The hand-off

The thread that reads commands and the thread that runs them meet in one slot. A request is
offered while the slot is empty, taken once, and the slot stays occupied until it is released.

Results:
1. `Slot.offer_eq_ok_iff`: an offer succeeds exactly on the empty slot.
-/

namespace JobShell

/-- What is handed over. -/
inductive Request
  | run (c : Command)
  | shutdown
deriving DecidableEq, Repr

inductive Slot
  | empty
  | ready (r : Request)
  | running
deriving DecidableEq, Repr

/-- An offer came while the slot was occupied. -/
inductive HandoffError
  | slotBusy
deriving DecidableEq, Repr

def HandoffError.message : HandoffError → String
  | .slotBusy => "command slot is still in use"

namespace Slot

def isBusy : Slot → Bool
  | .empty => false
  | _ => true

def offer (slot : Slot) (r : Request) : Except HandoffError Slot :=
  match slot with
  | .empty => .ok (.ready r)
  | _ => .error .slotBusy

def take? : Slot → Option (Request × Slot)
  | .ready r => some (r, .running)
  | _ => none

def release (_ : Slot) : Slot := .empty

theorem offer_eq_ok_iff {slot after : Slot} {r : Request} :
    slot.offer r = .ok after ↔ slot = .empty ∧ after = .ready r := by
  cases slot <;> simp [offer, eq_comm]

theorem isBusy_eq_false_iff {slot : Slot} : slot.isBusy = false ↔ slot = .empty := by
  cases slot <;> simp [isBusy]

end Slot

end JobShell
