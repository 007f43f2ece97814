import JobShell.Machine.Process
import JobShell.Machine.Terminal

/-!
# The state of the machine

The file tree, the open files, the pipes, the terminal, the processes and the clock.

Results:
1. `Machine.process?_update`: an update of a process shows in that process.
-/

namespace JobShell

open Machine

/-- What an open file description refers to. -/
inductive Machine.Channel
  | node (n : NodeId)
  | pipe (number : Nat)
  | terminal
  /-- One of the two texts that the machine keeps of what is written. -/
  | transcript (isError : Bool)
deriving DecidableEq, Repr

/-- An open file description. -/
structure Machine.Opening where
  channel : Channel
  offset : Nat := 0
  readable : Bool := false
  writable : Bool := false
  append : Bool := false
deriving DecidableEq, Repr

structure Machine.Pipe where
  content : Bytes := []
  /-- How often each end has been opened. -/
  sources : Nat := 0
  sinks : Nat := 0
  /-- Whether somebody outside the machine can still write to it. -/
  held : Bool := false
deriving DecidableEq, Repr

/-- The system calls that can be made to fail. -/
inductive Machine.Fallible
  | fork
  | wait
  | sigwait
  | sigmask
  | setpgid
  | chdir
  | kill
deriving DecidableEq, Repr

structure Machine where
  tree : FileTree
  openings : Array Opening := #[]
  pipes : Array Pipe := #[]
  terminal : Terminal := {}
  processes : List Process := []
  nextPid : Pid
  /-- The time in milliseconds. -/
  clock : Nat := 0
  /-- The steps that were taken. -/
  ticks : Nat := 0
  /-- The process of the shell. -/
  shell : Pid
  /-- Whether the shell's signal thread has been asked to stop. -/
  stopSent : Bool := false
  failures : List (Fallible × Errno) := []
  stdout : Bytes := []
  stderr : Bytes := []

namespace Machine

/-- A number that grows with time and with every new process; it dates files. -/
def stamp (m : Machine) : Nat := m.clock * 1000000 + m.nextPid.toNat % 1000000

def process? (m : Machine) (pid : Pid) : Option Process := m.processes.find? (·.pid = pid)

def update (m : Machine) (pid : Pid) (f : Process → Process) : Machine :=
  { m with
    processes := m.processes.map fun p => if p.pid = pid then { f p with pid := pid } else p }

def opening? (m : Machine) (n : Nat) : Option Opening := m.openings[n]?

def pipe (m : Machine) (n : Nat) : Pipe := m.pipes.getD n {}

def updatePipe (m : Machine) (n : Nat) (f : Pipe → Pipe) : Machine :=
  { m with pipes := m.pipes.modify n f }

def updateOpening (m : Machine) (n : Nat) (f : Opening → Opening) : Machine :=
  { m with openings := m.openings.modify n f }

/-- The error with which a call is made to fail. -/
def failure? (m : Machine) (call : Fallible) : Option Errno := m.failures.lookup call

/-- Make a description; the reply is its number. -/
def describe (m : Machine) (o : Opening) : Nat × Machine :=
  (m.openings.size, { m with openings := m.openings.push o })

/-- The description behind a descriptor of a process. -/
def described? (m : Machine) (pid : Pid) (fd : Nat) : Option (Nat × Opening) := do
  let p ← m.process? pid
  let n ← p.descriptor? fd
  let o ← m.opening? n
  return (n, o)

/-- Whether some process keeps a description in use that satisfies a condition. -/
def isInUse (m : Machine) (wanted : Opening → Bool) : Bool :=
  m.processes.any fun p => p.openings.any fun n => ((m.opening? n).map wanted).getD false

/-- Whether somebody can still write to a pipe. -/
def hasSink (m : Machine) (n : Nat) : Bool :=
  (m.pipe n).held || m.isInUse fun o => o.channel = .pipe n && o.writable

/-- Whether somebody can still read from a pipe. -/
def hasSource (m : Machine) (n : Nat) : Bool :=
  m.isInUse fun o => o.channel = .pipe n && o.readable

/-- Whether some process belongs to a group in a session. -/
def hasGroup (m : Machine) (group session : Pid) : Bool :=
  m.processes.any fun p => p.group = group && p.session = session

theorem process?_update {m : Machine} {pid : Pid} {p : Process} (f : Process → Process)
    (present : m.process? pid = some p) :
    (m.update pid f).process? pid = some { f p with pid := pid } := by
  simp only [process?, update] at present ⊢
  generalize m.processes = ps at present
  induction ps with
  | nil => simp at present
  | cons q rest ih =>
      by_cases same : q.pid = pid
      · simp_all
      · simp_all

end Machine

end JobShell
