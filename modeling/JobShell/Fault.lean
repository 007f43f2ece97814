import JobShell.Handoff
import JobShell.Errno

/-!
# Why the shell stops

The failures that end the shell, each with its text.
-/

namespace JobShell

/-- The registry could not grow; there is no room for the entry of another job. -/
inductive RegistrationError
  | capacityOverflow
deriving DecidableEq, Repr

def RegistrationError.message : RegistrationError → String
  | .capacityOverflow =>
      "memory allocation failed because the computed capacity exceeded the collection's maximum"

/-- Why a launch failed in the shell itself; what fails in the child, the child reports. -/
inductive LaunchError
  | fork (e : Errno)
  | wait (e : Errno)
  | registration (e : RegistrationError)
deriving DecidableEq, Repr

def LaunchError.message : LaunchError → String
  | .fork e => "fork: " ++ e.message
  | .wait e => "waitpid: " ++ e.message
  | .registration e => "Could not allocate memory for job: " ++ e.message

/-- The steps of starting and stopping the shell that may fail. -/
inductive SetupStep
  | blockSignals
  | createGroup
  | takeTerminal
  | startThread
  | stopSignalThread
  | waitForSignals
deriving DecidableEq, Repr

def SetupStep.text : SetupStep → String
  | .blockSignals => "block signals"
  | .createGroup => "create a process group"
  | .takeTerminal => "take control of the terminal"
  | .startThread => "start a thread"
  | .stopSignalThread => "stop the signal thread"
  | .waitForSignals => "wait for signals"

/-- A failure that ends the shell. -/
inductive Fault
  | setup (what : String) (e : Errno)
  | launch (e : LaunchError)
  | handoff (e : HandoffError)
  | input (e : Errno)
  | options (message : String)
  | threadPanicked (name : String)
deriving DecidableEq, Repr

/-- The failure of a step of starting or stopping. -/
def SetupStep.fault (step : SetupStep) (e : Errno) : Fault := .setup step.text e

def Fault.message : Fault → String
  | .setup what e => "cannot " ++ what ++ ": " ++ e.message
  | .launch e => e.message
  | .handoff e => e.message
  | .input e => "cannot read input: " ++ e.message
  | .options message => message
  | .threadPanicked name => "the " ++ name ++ " thread panicked"

end JobShell
