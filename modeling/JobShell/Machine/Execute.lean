import JobShell.Machine.Descriptor
import JobShell.Machine.Utility.Table

/-!
# Becoming a program

A name without a slash is looked for along the search path of the process; a name with one is a
path. A file that starts with `#!` names its interpreter, and any other executable file is a script.
-/

namespace JobShell.Machine

/-! ## Scripts -/

namespace Script

/-- How much of a file is looked at to find its interpreter. -/
def headingSize : Nat := 256

/-- The words of a line without the blanks before them: the first one and what follows its blanks,
if there are any. -/
def nameAndArgument (line : Bytes) : Bytes × Option Bytes :=
  let line := line.dropWhile Bytes.isBlank
  let name := line.takeWhile (!Bytes.isBlank ·)
  let rest := line.drop name.length
  (name, if rest.isEmpty then none else some (rest.dropWhile Bytes.isBlank))

def trimEnd (line : Bytes) : Bytes := (line.reverse.dropWhile Bytes.isBlank).reverse

/-- The interpreter that a file names in its first line, with the one argument that can follow it.
A line that goes on behind the part that is looked at may lose a part of its argument, but not of
the name. A NUL byte ends the line and keeps the blanks before it. -/
def heading? (content : Bytes) : Option (Bytes × Option Bytes) :=
  match content.take headingSize with
  | 35 :: 33 :: start =>
      let text := start.takeWhile (· != 0)
      if text.contains Bytes.newline then
        let line := trimEnd (text.takeWhile (· != Bytes.newline))
        if line.isEmpty then none else some (nameAndArgument line)
      else if text.length < headingSize - 2 then some (nameAndArgument text)
      else if (text.dropWhile Bytes.isBlank).any Bytes.isBlank then
        some (nameAndArgument (trimEnd text.dropLast))
      else none
  | _ => none

end Script

/-! ## Images -/

/-- What a file is to be run as. -/
structure Image where
  utility : Utility
  argv : List Bytes
deriving DecidableEq, Repr

/-- How many files a chain of interpreters can have. -/
def imageDepth : Nat := 6

/-- Whether somebody can write to a file. -/
def isBeingWritten (m : Machine) (n : NodeId) : Bool :=
  m.isInUse fun o => o.channel = .node n && o.writable

/-- What a program can be read from at a path. -/
def runnable (m : Machine) (cwd : NodeId) (path : Bytes) : Except Errno NodeKind := do
  let n ← m.tree.resolve cwd path
  match m.tree.kind? n with
  | some (.utility u) => return .utility u
  | some (.file content) =>
      if !m.tree.allows n .execute then throw .accessDenied
      if m.isBeingWritten n then throw .textBusy
      return .file content
  | _ => throw .accessDenied

/-- What the file at a path is to be run as; `depth` bounds the chain of interpreters. -/
def imageAt (m : Machine) (cwd : NodeId) : (depth : Nat) → (path : Bytes) → (argv : List Bytes) →
    Except Errno Image
  | depth, path, argv => do
      let found ← m.runnable cwd path
      match depth with
      | 0 => throw .tooManyLinks
      | depth + 1 =>
          match found with
          | .utility u => return ⟨u, argv⟩
          | .file content =>
              match Script.heading? content with
              | some (interpreter, argument) =>
                  -- Without a name the interpreter is the working directory.
                  if interpreter.isEmpty then throw .accessDenied
                  imageAt m cwd depth interpreter
                    ([interpreter] ++ argument.toList ++ path :: argv.tail)
              | none => throw .execFormat
          | _ => throw .accessDenied

/-- The longest argument of a program, with the NUL byte behind it. -/
def argumentLimit : Nat := 131072

/-- What the file at a path is to be run as with some arguments. -/
def imageFor (m : Machine) (cwd : NodeId) (path : Bytes) (argv : List Bytes) :
    Except Errno Image := do
  discard <| m.runnable cwd path
  if argv.any fun argument => argumentLimit ≤ argument.length then throw .listTooLong
  m.imageAt cwd imageDepth path argv

/-- What the file at a path is to be run as, plain scripts included. -/
def imageOrScript (m : Machine) (cwd : NodeId) (path : Bytes) (argv : List Bytes) :
    Except Errno Image :=
  match m.imageFor cwd path argv with
  | .error e =>
      if e = .execFormat then
        m.imageFor cwd Program.plainInterpreter (Program.plainInterpreter :: path :: argv.tail)
      else .error e
  | found => found

/-- Try one directory after another. A file that may not be run is remembered while the search
goes on. The path of the file that was found is given with it. -/
def searchImage (m : Machine) (cwd : NodeId) (argv : List Bytes) (name : Bytes) :
    List Bytes → (denied : Bool) → Except Errno (Bytes × Image)
  | [], denied => .error (if denied then .accessDenied else .noEntry)
  | directory :: rest, denied =>
      let path := Program.inDirectory directory name
      match m.imageOrScript cwd path argv with
      | .ok image => .ok (path, image)
      | .error e =>
          if e = .accessDenied then searchImage m cwd argv name rest true
          else if e = .noEntry || e = .notDirectory then searchImage m cwd argv name rest denied
          else .error e

/-- What a command is to be run as. -/
def image (m : Machine) (cwd : NodeId) (searchPath : List Bytes) (argv : List Bytes) :
    Except Errno (Bytes × Image) :=
  let name := argv.headD []
  if name.isEmpty then .error .noEntry
  else if name.contains Bytes.slash then (m.imageOrScript cwd name argv).map (name, ·)
  else if FileTree.greatestName < name.length then .error .nameTooLong
  else m.searchImage cwd argv name searchPath false

/-- The part of a path behind its last slash. -/
def lastName (path : Bytes) : Bytes := (path.reverse.takeWhile (· != Bytes.slash)).reverse

/-- How much of its name the system keeps of a process. -/
def keptName : Nat := 15

/-- Let a process become a program. Its private descriptors, from 10 on, are closed, and what it
caught does again what it does by itself. -/
def become (m : Machine) (pid : Pid) (path : Bytes) (image : Image) (environment : Environment) :
    Machine :=
  m.update pid fun p => { p with
    files := p.files.filter (·.1 < 10)
    caught := [], arrived := [], interrupted := false
    environment
    name := (lastName path).take keptName
    task := .program (image.utility.program (image.argv.headD []) image.argv.tail) }

/-- Let a process become the program at a path. -/
def execute (m : Machine) (p : Process) (path : Bytes) (argv : List Bytes)
    (environment : Environment) : Except Errno Machine := do
  let image ← m.imageFor p.cwd path argv
  return m.become p.pid path image environment

/-- Let a process become the program that a command names. -/
def executeCommand (m : Machine) (p : Process) (argv : List Bytes) : Except Errno Machine := do
  let path := (p.environment.lookup Program.pathVariable).getD Program.plainSearchPath
  let (path, image) ← m.image p.cwd (Bytes.splitOn 58 path) argv
  return m.become p.pid path image p.environment

end JobShell.Machine
