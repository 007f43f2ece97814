import JobShell.Scenario.Play

/-!
# The command line

The shell runs on a machine of its own: what is typed reaches its standard input, what it and its
children write is shown, and nothing outside that machine is touched.
-/

namespace JobShell.CommandLine

open Scenario

/-- What the machine has written to both outputs. -/
structure Shown where
  stdout : Bytes
  stderr : Bytes

def shown (p : Play) : Shown := ⟨p.machine.stdout, p.machine.stderr⟩

/-- What has been written since an earlier moment. -/
def Shown.since (now before : Shown) : Shown :=
  ⟨now.stdout.drop before.stdout.length, now.stderr.drop before.stderr.length⟩

/-- Go on until nothing moves or the longest wait is over. -/
def rest (p : Play) : Play :=
  p.playUntil (fun _ => false) (some (p.machine.clock + Play.waitingTime)) Play.patience

def showNew (before p : Play) : IO Unit := do
  let new := (shown p).since (shown before)
  let output ← IO.getStdout
  let errors ← IO.getStderr
  output.write ⟨new.stdout.toArray⟩
  output.flush
  errors.write ⟨new.stderr.toArray⟩

/-- Hand over standard input byte by byte until it ends or the shell does. -/
partial def converse (p : Play) : IO UInt32 := do
  if p.isOver then
    let (words, code) := Startup.farewell p.shell.result?
    (← IO.getStderr).putStr words
    return code
  let next := match (← (← IO.getStdin).read 1).toList with
    | [] => p.endInput.playUntil Play.isOver none Play.patience
    | bs => rest (p.write bs)
  showNew p next
  converse next

def run (arguments : List String) : IO UInt32 := do
  match Startup.plan arguments with
  | .say text code =>
      (← IO.getStderr).putStr text
      return UInt32.ofNat code
  | .run limits =>
      let host : Host := {}
      let start : Play := {
        shell := { limits, shared := { world := host.boot.setMask host.shellPid .full } }
        input := .pipe }
      let ready := start.settle
      showNew start ready
      converse ready

end JobShell.CommandLine

def main (arguments : List String) : IO UInt32 := JobShell.CommandLine.run arguments
