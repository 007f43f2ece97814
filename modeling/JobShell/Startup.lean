import JobShell.Fault
import JobShell.Log
import JobShell.Options
import JobShell.Options.Help

/-!
# Starting the shell

The arguments decide whether there is anything to run at all. Before the threads start, all
signals are blocked and the shell takes its terminal: it leads a process group, and that group is
in the foreground.
-/

namespace JobShell

/-- What the system does for the shell before its threads start. -/
structure StartupWorld (W : Type) where
  blockSignals : W → Except Errno W
  isTerminal : W → Bool
  leadsGroup : W → Bool
  createGroup : W → Except Errno W
  isForeground : W → Bool
  takeForeground : W → Except Errno W

namespace Startup

variable {W : Type}

/-- Put the shell in charge of its terminal, if it has one. -/
def takeTerminal (world : StartupWorld W) (w : W) : Except Fault W := do
  if !world.isTerminal w then return w
  let w ← if world.leadsGroup w then pure w
    else (world.createGroup w).mapError SetupStep.createGroup.fault
  if world.isForeground w then return w
  (world.takeForeground w).mapError SetupStep.takeTerminal.fault

/-- All that comes before the threads. -/
def prepare (world : StartupWorld W) (w : W) : Except Fault W := do
  let w ← (world.blockSignals w).mapError SetupStep.blockSignals.fault
  takeTerminal world w

/-- What the arguments come to: a text for standard error with an exit code, or a run. -/
inductive Plan
  | say (text : String) (code : Nat)
  | run (limits : Limits)
deriving DecidableEq, Repr

def programName : String := "msh"

def versionText : String := programName ++ " version " ++ Help.version ++ "\n"

def plan (arguments : List String) : Plan :=
  match Options.parse arguments with
  | .error e => .say (programName ++ ": " ++ e.message ++ "\n" ++ Help.usage ++ "\n") 1
  | .ok o =>
      match o.action with
      | .help => .say (Help.long ++ "\n") 0
      | .version => .say versionText 0
      | .run => .run o.limits

/-- The last words of a shell that failed. -/
def faultText (f : Fault) : String := programName ++ ": " ++ f.message ++ "\n"

/-- The last words of a shell that has come to a result, or was killed before, and its exit code. -/
def farewell : Option (Except Fault Unit × Nat) → String × UInt32
  | some (.ok (), _) => ("", 0)
  | some (.error f, _) => (faultText f, 1)
  | none => ("", 1)

/-! ## The developer log -/

/-- A record of the main thread. -/
def record (message : String) : Log.Record where
  target := Log.developerTarget
  level := .info
  message
  thread := some "main"

def firstRecord : Log.Record := record "development logs are enabled"

def lastRecord (left : Nat) : Log.Record :=
  record ("shutting down, " ++ toString left ++ " background job(s) left running")

end Startup

end JobShell
