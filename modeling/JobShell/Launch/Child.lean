import JobShell.Command
import JobShell.Errno
import JobShell.Signal

/-!
# Launching a command: the child's half

Between its birth and the program the child opens the files that the command names, output first,
joins a process group of its own if it is for the background, sets its signal mask and turns into
the program. Whatever fails ends the child with a message.
-/

namespace JobShell

/-- Why the child did not become the program. -/
inductive ChildFailure
  | redirection (path : Bytes) (e : IoError)
  | notFound (name : String)
  | refused (name : String) (e : IoError)
deriving DecidableEq, Repr

namespace ChildFailure

def message : ChildFailure → String
  | .redirection path e => Bytes.lossy path ++ ": " ++ e.message
  | .notFound name => name ++ ": command not found..."
  | .refused name e => name ++ ": " ++ e.message

/-- A program that the system could not run; a missing one has words of its own. -/
def ofIoError (name : String) (e : IoError) : ChildFailure :=
  if e = .os .noEntry then .notFound name else .refused name e

end ChildFailure

/-- What the child asks the system for. -/
inductive ChildCall
  /-- Open a file for standard output: empty, and private if it is new. -/
  | openOutput (path : Bytes)
  | openInput (path : Bytes)
  | joinOwnGroup
  | setMask (blocked : List Signal)
  /-- Become a program; the reply is why that failed. -/
  | execute (argv : List Bytes)
  | complain (message : String)
  | exit (code : Nat)
deriving DecidableEq, Repr

@[reducible] def ChildCall.Reply : ChildCall → Type
  | .openOutput _ | .openInput _ => Except IoError Unit
  | .joinOwnGroup | .setMask _ => Except Errno Unit
  | .execute _ => IoError
  | .complain _ | .exit _ => Unit

/-- What the child is about to do. -/
inductive ChildHalf
  | openingOutput (path : Bytes)
  | openingInput (path : Bytes)
  | grouping
  | masking
  | executing
  | complaining (failure : ChildFailure)
  | exiting
deriving DecidableEq, Repr

namespace ChildHalf

/-- The mode of an output file that the child creates. -/
def outputMode : Nat := 0o600

/-- The signals that a command starts with blocked: the shell answers the stop key itself, and a
background command must not feel the interrupt key. -/
def mask (c : Command) : List Signal :=
  if c.background then [Signal.tstp, Signal.int] else [Signal.tstp]

/-- Once the files are open. A NUL byte in a word keeps the program from being tried at all. -/
def prepared (c : Command) : ChildHalf :=
  if c.argv.any (·.contains 0) then
    .complaining (.refused c.name .nulInArgument)
  else if c.background then .grouping else .masking

/-- Once standard output is settled. -/
def outputOpened (c : Command) : ChildHalf :=
  match c.stdin with
  | some path => .openingInput path
  | none => prepared c

/-- With the program that the command names, all the files it names are opened. -/
def named (c : Command) : ChildHalf :=
  match c.stdout with
  | some path => .openingOutput path
  | none => outputOpened c

def start (c : Command) : ChildHalf :=
  match c.program with
  | some _ => named c
  | none => .complaining (.notFound c.name)

/-- Go on after an attempt to open a file. -/
def afterOpen (path : Bytes) (next : ChildHalf) : Except IoError Unit → ChildHalf
  | .ok () => next
  | .error e => .complaining (.redirection path e)

/-- Go on after a step on the way to the program. -/
def afterSetup (c : Command) (next : ChildHalf) : Except Errno Unit → ChildHalf
  | .ok () => next
  | .error e => .complaining (.ofIoError c.name (.os e))

/-- The call of the child in some state, and its state after the reply. -/
structure Turn where
  call : ChildCall
  resume : call.Reply → ChildHalf

def turn (c : Command) : ChildHalf → Turn
  | .openingOutput path => ⟨.openOutput path, fun reply => afterOpen path (outputOpened c) reply⟩
  | .openingInput path => ⟨.openInput path, fun reply => afterOpen path (prepared c) reply⟩
  | .grouping => ⟨.joinOwnGroup, fun reply => afterSetup c .masking reply⟩
  | .masking => ⟨.setMask (mask c), fun reply => afterSetup c .executing reply⟩
  | .executing => ⟨.execute c.argv, fun e => .complaining (.ofIoError c.name e)⟩
  | .complaining failure => ⟨.complain (failure.message ++ "\n"), fun _ => .exiting⟩
  | .exiting => ⟨.exit 1, fun _ => .exiting⟩

end ChildHalf

end JobShell
