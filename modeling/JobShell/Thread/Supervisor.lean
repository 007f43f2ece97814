import JobShell.Thread.Call

/-!
# The supervisor

It waits for the input thread, makes sure that the execution thread leaves, waits for it, stops
the signal thread and forgets the jobs that are left. Of several failures the execution thread's
is reported first, then the input thread's, then the signal thread's.

Results:
1. `Supervisor.outcome_ok_iff`: the shell ends well exactly if all three threads did.
-/

namespace JobShell.Thread

/-- What the supervisor is about to do, with the results that it has so far. -/
inductive Supervisor
  | joiningInput
  | looking (input : Except Fault Unit)
  | settingExit (input : Except Fault Unit)
  | offeringShutdown (input : Except Fault Unit)
  | joiningExecution (input : Except Fault Unit)
  | closing (input : Except Fault Unit) (execution : Except LaunchError Unit)
  | stopping (input : Except Fault Unit) (execution : Except LaunchError Unit)
  | joiningSignals (input : Except Fault Unit) (execution : Except LaunchError Unit)
  | forgetting (result : Except Fault Unit)

namespace Supervisor

def start : Supervisor := .joiningInput

/-- The first failure in the order of precedence. -/
def outcome (input : Except Fault Unit) (execution : Except LaunchError Unit)
    (signals : Except Fault Unit) : Except Fault Unit :=
  match execution, input with
  | .error e, _ => .error (.launch e)
  | .ok (), .error e => .error e
  | .ok (), .ok () => signals

/-- At its end the supervisor has the result of the shell and the number of jobs that were left. -/
def turn : Supervisor → Turn Supervisor (Except Fault Unit × Nat)
  | .joiningInput => ⟨.joinInput, fun input => .running (.looking input)⟩
  | .looking input =>
      ⟨.isExiting, fun exiting =>
        .running (if exiting then .joiningExecution input else .settingExit input)⟩
  | .settingExit input => ⟨.setExiting, fun _ => .running (.offeringShutdown input)⟩
  | .offeringShutdown input => ⟨.offer .shutdown, fun _ => .running (.joiningExecution input)⟩
  | .joiningExecution input =>
      ⟨.joinExecution, fun execution => .running (.closing input execution)⟩
  | .closing input execution => ⟨.setExiting, fun _ => .running (.stopping input execution)⟩
  | .stopping input execution =>
      ⟨.sendStop, fun
        | .ok () => .running (.joiningSignals input execution)
        | .error e =>
            .running (.forgetting
              (outcome input execution (.error (SetupStep.stopSignalThread.fault e))))⟩
  | .joiningSignals input execution =>
      ⟨.joinSignals, fun signals =>
        .running (.forgetting
          (outcome input execution (signals.mapError fun e => SetupStep.waitForSignals.fault e)))⟩
  | .forgetting result => ⟨.forgetJobs, fun left => .ended (result, left)⟩

theorem outcome_ok_iff {input : Except Fault Unit} {execution : Except LaunchError Unit}
    {signals : Except Fault Unit} :
    outcome input execution signals = .ok () ↔
      input = .ok () ∧ execution = .ok () ∧ signals = .ok () := by
  unfold outcome
  split <;> simp_all

end Supervisor

end JobShell.Thread
