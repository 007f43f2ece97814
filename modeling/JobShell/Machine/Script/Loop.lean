import JobShell.Machine.Script.State

/-!
# Loops of scripts

The body of a loop is run once for each round. A command in it can leave the loop, and loops around
it, or start the next round.
-/

namespace JobShell.Machine.Loop

open Running

/-- How the body of a loop ended. -/
inductive RoundEnd
  | again
  | stop
deriving DecidableEq, Repr

/-- Run a part of a loop once; the status is that of the last command. -/
def round (act : Running Nat) : Running (Nat × RoundEnd) :=
  tryCatch (do return (← act, .again)) fun
    | .leaveLoops (n + 2) => throw (.leaveLoops (n + 1))
    | .leaveLoops _ => do return ((← get).status, .stop)
    | .nextRound (n + 2) => throw (.nextRound (n + 1))
    | .nextRound _ => do return ((← get).status, .again)
    | leave => throw leave

/-- Run something within one more loop. -/
def inLoop (act : Running Nat) : Running Nat := do
  modify fun s => { s with loops := s.loops + 1 }
  finally_ act (modify fun s => { s with loops := s.loops - 1 })

/-- Run the body for each item. -/
def runEach (name : Bytes) (body : Running Nat) : List Bytes → (status : Nat) → Running Nat
  | [], status => return status
  | item :: rest, _ => do
      assign name item
      match ← round body with
      | (status, .again) => runEach name body rest status
      | (status, .stop) => return status

/-- Run the body while the success of the condition is as wanted. -/
def runWhile (success : Bool) (condition body : Running Nat) :
    (fuel : Nat) → (status : Nat) → Running Nat
  | 0, status => return status
  | fuel + 1, status => do
      match ← round condition with
      | (_, .stop) => return status
      | (held, .again) =>
          if (held = 0) ≠ success then return status
          match ← round body with
          | (status, .again) => runWhile success condition body fuel status
          | (status, .stop) => return status

end JobShell.Machine.Loop
