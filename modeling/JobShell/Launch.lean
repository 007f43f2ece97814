import JobShell.Thread.Call

/-!
# Launching a command: the shell's half

The shell forks and blocks all signals. A background command is entered in the registry and
announced, and then SIGCHLD is raised, because the child may have ended before it was registered.
A foreground command is waited for; a death by signal leaves the cursor in the middle of a line,
so a newline follows.
-/

namespace JobShell

/-- What a launched command has come to when its launch returns. -/
inductive Launched
  | background (pid : Pid)
  /-- The status is missing if somebody else collected it. -/
  | foreground (pid : Pid) (status : Option WaitStatus)
deriving DecidableEq, Repr

/-- What the launch of a command is about to do. -/
inductive Launch
  | forking
  | shielding (pid : Pid)
  | registering (pid : Pid)
  | announcing (pid : Pid)
  | raising (pid : Pid)
  | waiting (pid : Pid)
  | endingLine (pid : Pid) (status : WaitStatus)
deriving Repr

namespace Launch

open Thread (Status Turn)

/-- A launch on its way, or its result. -/
abbrev Progress := Status Launch (Except LaunchError Launched)

def start : Launch := .forking

/-- Go on after a wait for the foreground child. -/
def afterWait (pid : Pid) : WaitReply → Progress
  | .status s =>
      if s.isDeath then .running (.endingLine pid s) else .ended (.ok (.foreground pid (some s)))
  | .notReady => .running (.waiting pid)
  | .failed e =>
      if e = .interrupted then .running (.waiting pid)
      else if e = .noChild then .ended (.ok (.foreground pid none))
      else .ended (.error (.wait e))

def turn (c : Command) : Launch → Turn Launch (Except LaunchError Launched)
  | .forking =>
      ⟨.fork c, fun
        | .ok pid => .running (.shielding pid)
        | .error e => .ended (.error (.fork e))⟩
  | .shielding pid =>
      ⟨.blockSignals, fun _ => .running (if c.background then .registering pid else .waiting pid)⟩
  | .registering pid =>
      ⟨.track pid c.name, fun
        | .ok () => .running (.announcing pid)
        | .error e => .ended (.error (.registration e))⟩
  | .announcing pid =>
      ⟨.print (Bytes.ofText (Registry.line pid c.name)), fun _ => .running (.raising pid)⟩
  | .raising pid => ⟨.raiseChild, fun _ => .ended (.ok (.background pid))⟩
  | .waiting pid => ⟨.waitFor pid {}, fun reply => afterWait pid reply⟩
  | .endingLine pid status =>
      ⟨.print (Bytes.ofText "\n"), fun _ => .ended (.ok (.foreground pid (some status)))⟩

end Launch

end JobShell
