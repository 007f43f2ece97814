import JobShell.Launch.Child
import JobShell.Machine.Program
import JobShell.Signal.Pending

/-!
# Processes

A process is what the system knows about it and the program that it runs. The shell itself is a
process too, but one that is moved from outside the machine.

Results:
1. `Process.descriptor?_install`: an installed descriptor is found again.
-/

namespace JobShell.Machine

inductive Life
  | running
  /-- Stopped, and whether the parent has been told. -/
  | stopped (s : Signal) (told : Bool)
  | ended (status : WaitStatus)
deriving DecidableEq, Repr

/-- What moves a process on. -/
inductive Task
  /-- Somebody outside the machine. -/
  | outside
  /-- The way from a fork of the shell to the command. -/
  | launched (c : Command) (h : ChildHalf)
  | program (p : Program Nat)

/-- The two ends of a pipe. -/
inductive PipeEnd
  | source
  | sink
deriving DecidableEq, Repr

/-- A named pipe that is being opened, until the other end is opened as well: the description that
is ready for it, the other end, and how often that had been opened before. -/
structure PendingOpen where
  opening : Nat
  awaited : PipeEnd
  seen : Nat
deriving DecidableEq, Repr

structure Process where
  pid : Pid
  parent : Pid
  group : Pid
  session : Pid
  name : Bytes := []
  cwd : NodeId
  /-- The open descriptors with the numbers of their descriptions. -/
  files : List (Nat × Nat) := []
  signals : SignalState := {}
  ignored : List Signal := []
  /-- The signals that the program handles itself. -/
  caught : List Signal := []
  /-- The caught signals that came and that the program has not asked for. -/
  arrived : List Signal := []
  /-- Whether a caught signal came since the program asked last. -/
  interrupted : Bool := false
  environment : Environment := []
  /-- The bits of a mode that new files do not get. -/
  umask : Nat := 0o022
  life : Life := .running
  /-- The signal that ends the process as soon as it runs. -/
  doom : Option Signal := none
  task : Task := .outside
  pendingOpen : Option PendingOpen := none

namespace Process

def isRunning (p : Process) : Bool := p.life = .running

/-- A mode without the bits that are masked. -/
def masked (p : Process) (mode : Nat) : Nat := mode &&& (0o7777 ^^^ p.umask)

/-- What a signal is meant to do. -/
def disposition (p : Process) (s : Signal) : Disposition :=
  if p.ignored.contains s then .ignore else if p.caught.contains s then .catch else .default

def dispose (p : Process) (s : Signal) (d : Disposition) : Process :=
  let p := { p with ignored := p.ignored.filter (· ≠ s), caught := p.caught.filter (· ≠ s) }
  match d with
  | .default => p
  | .ignore => { p with ignored := s :: p.ignored }
  | .catch => { p with caught := s :: p.caught }

def isStopped (p : Process) : Bool :=
  match p.life with
  | .stopped .. => true
  | _ => false

def isEnded (p : Process) : Bool :=
  match p.life with
  | .ended _ => true
  | _ => false

def descriptor? (p : Process) (fd : Nat) : Option Nat := p.files.lookup fd

def install (p : Process) (fd opening : Nat) : Process :=
  { p with files := (fd, opening) :: p.files.filter (·.1 ≠ fd) }

def drop (p : Process) (fd : Nat) : Process :=
  { p with files := p.files.filter (·.1 ≠ fd) }

/-- The first free descriptor from a number on. -/
def freeFrom (p : Process) (start : Nat) : Nat :=
  ((List.range (p.files.length + 1)).map (· + start)).find?
    (fun fd => (p.descriptor? fd).isNone) |>.getD (start + p.files.length)

/-- The descriptions that the process keeps in use. -/
def openings (p : Process) : List Nat :=
  p.files.map (·.2) ++ (p.pendingOpen.map (·.opening)).toList

theorem descriptor?_install (p : Process) (fd opening : Nat) :
    (p.install fd opening).descriptor? fd = some opening := by
  simp [install, descriptor?]

end Process

end JobShell.Machine
