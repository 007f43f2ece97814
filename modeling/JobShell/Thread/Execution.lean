import JobShell.Launch

/-!
# The execution thread

It takes one request after another, launches the command, and empties the slot when the launch
returns. It ends at a shutdown request, at any request that it takes after the exit flag was set,
and at a launch that fails in the shell itself; such a failure sets the exit flag first, so that
the input thread does not go on.
-/

namespace JobShell.Thread

/-- What the execution thread is about to do. -/
inductive Execution
  | awaiting
  /-- Look at the exit flag before a launch. -/
  | deciding (c : Command)
  | launching (c : Command) (l : Launch)
  /-- Set the exit flag after a failed launch. -/
  | settingExit (e : LaunchError)
  /-- Empty the slot, and end if there is a result. -/
  | releasing (result : Option (Except LaunchError Unit))
deriving Repr

namespace Execution

def start : Execution := .awaiting

def accept : Request → Execution
  | .run c => .deciding c
  | .shutdown => .releasing (some (.ok ()))

/-- Go on with a launch, or after it. -/
def afterLaunch (c : Command) : Launch.Progress → Status Execution (Except LaunchError Unit)
  | .running l => .running (.launching c l)
  | .ended (.ok _) => .running (.releasing none)
  | .ended (.error e) => .running (.settingExit e)

def turn : Execution → Turn Execution (Except LaunchError Unit)
  | .awaiting => ⟨.awaitRequest, fun r => .running (accept r)⟩
  | .deciding c =>
      ⟨.isExiting, fun exiting =>
        .running (if exiting then .releasing (some (.ok ())) else .launching c .start)⟩
  | .launching c l => (l.turn c).embed (afterLaunch c)
  | .settingExit e => ⟨.setExiting, fun _ => .running (.releasing (some (.error e)))⟩
  | .releasing none => ⟨.release, fun _ => .running .awaiting⟩
  | .releasing (some result) => ⟨.release, fun _ => .ended result⟩

end Execution

end JobShell.Thread
