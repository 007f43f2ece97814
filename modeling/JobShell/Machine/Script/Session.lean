import JobShell.Machine.Script.Interpreter

/-!
# The interpreter of scripts as a program

The interpreter takes its commands from its arguments, from a file, or from standard input.
-/

namespace JobShell.Machine.Session

open Running

/-- Whether a name in the environment can be that of a variable that scripts take over. -/
def isImported (name : Bytes) : Bool := Word.isName name && name ≠ Bytes.ofText "IFS"

/-- The variables that scripts of the superuser start with, whatever the environment is. -/
def firstVariables : List (String × String) :=
  [("IFS", " \t\n"), ("OPTIND", "1"), ("PS1", "# "), ("PS2", "> "), ("PS4", "+ ")]

/-- Take over the environment, and find out about the process. -/
def prepare : Running Unit := do
  let environment ← sys .environment
  let pid ← sys .ownPid
  let parent ← sys .parentPid
  modify fun s =>
    let s := firstVariables.foldl (fun (s : ScriptState) (name, value) =>
      s.assign (Bytes.ofText name) (Bytes.ofText value)) { s with pid }
    let s := s.assign Program.pathVariable firstSearchPath
    let s := s.assign (Bytes.ofText "PPID") (Bytes.ofText (toString parent))
    environment.foldl (fun (s : ScriptState) (name, value) =>
      if isImported name then s.assign name value true else s) s
  let directory ← startDirectory
  modify ({ · with directory })
  assign currentName directory true
where
  /-- The directory that the environment names, if it is the working directory. -/
  startDirectory : Running Bytes := do
    match (← get).lookup currentName with
    | 47 :: rest =>
        match ← sys (.examine (47 :: rest) true), ← sys (.examine FileTree.dot true) with
        | .ok a, .ok b => if a.node = b.node then return 47 :: rest else physicalDirectory
        | _, _ => physicalDirectory
    | _ => physicalDirectory

/-- Run the commands of an open file. -/
def runOpen (fd : Nat) : Running Nat :=
  tryCatch
    (Interpreter.runLines Interpreter.patience {} { descriptor := some fd, shown := true }
      { text := [], final := false } 0) fun
    | .return _ => do return (← get).status
    | leave => throw leave

/-- Do what the arguments ask for. -/
def start (arguments : List Bytes) : Running Nat := do
  prepare
  let rest ← OptionLetter.read true arguments
  let name := (← get).name
  match rest.arguments with
  | [] =>
      if rest.commandText then failText "-c requires an argument"
      OptionLetter.turn 's' true
      runOpen 0
  | first :: others =>
      if rest.commandText then
        modify fun s => { s with
          name := others.headD name, positional := others.tail, catchesInterrupt := true }
        adjust Signal.int
        Interpreter.runText Interpreter.patience { last := !(← get).isOn 's' } first
      else if (← get).isOn 's' then
        modify ({ · with positional := rest.arguments })
        runOpen 0
      else
        let fd ← Redirect.openFile first .reading
        let copy ← sys (.keep fd)
        sys (.close fd)
        modify ({ · with name := first, positional := others, catchesInterrupt := true })
        adjust Signal.int
        runOpen (copy.toOption.getD fd)

/-- Run the interpreter under a name with some arguments. -/
def main (name : Bytes) (arguments : List Bytes) : Program Nat := do
  let act := Interpreter.endProcess Interpreter.patience (start arguments)
  match ← (act.run { name, line := 0 } : Program _) with
  | (.ok never, _) => return never.elim
  | (.error _, _) => return 2

end JobShell.Machine.Session
