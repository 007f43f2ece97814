import JobShell.Errno
import JobShell.Text.Lossy

/-!
# Changing the working directory

The built-in `cd` takes exactly one argument. A directory that is not there, or is no directory,
is refused in words of the shell; every other refusal carries the system's text.
-/

namespace JobShell

/-- Why `cd` left the working directory as it was. -/
inductive CdError
  | argumentCount
  | noSuchDirectory (dir : Bytes)
  | other (dir : Bytes) (e : IoError)
deriving DecidableEq, Repr

namespace CdError

def message : CdError → String
  | .argumentCount => "cd: one argument required"
  | .noSuchDirectory dir => "cd: " ++ Bytes.lossy dir ++ ": No such directory"
  | .other dir e => "cd: " ++ Bytes.lossy dir ++ ": " ++ e.message

def ofIoError (dir : Bytes) (e : IoError) : CdError :=
  if e = .os .noEntry ∨ e = .os .notDirectory then .noSuchDirectory dir else .other dir e

end CdError

/-- The directory to move to, if the arguments name one. -/
def directoryArgument : List Bytes → Except CdError Bytes
  | [dir] => .ok dir
  | _ => .error .argumentCount

end JobShell
