import JobShell.Machine.Setup
import JobShell.Machine.World

/-!
# Hosts

A host is a machine with a furnished scratch directory and a process for the shell, whose standard
input is of a given kind. A further process stands for whoever started the shell.
-/

namespace JobShell.Scenario

open Machine

/-- What standard input is. -/
inductive InputKind
  | pipe
  | null
  | directory
  /-- A device that is open for writing only. -/
  | writeOnly
  | terminal
  /-- A terminal whose session is led by another process. -/
  | nestedTerminal
  /-- A terminal that controls another session. -/
  | foreignTerminal
deriving DecidableEq, Repr

namespace InputKind

/-- The path of the node behind standard input, if it is one. -/
def path? : InputKind → Option String
  | .null | .writeOnly => some "/dev/null"
  | .directory => some "/tmp"
  | _ => none

end InputKind

structure Host where
  setup : Setup := {}
  input : InputKind := .pipe
  /-- Whether everything written to standard output finds a full device. -/
  outputFull : Bool := false
  failures : List (Fallible × Errno) := []
  /-- Whether the shell ignores the ends of its children. -/
  ignoresChildren : Bool := false
deriving DecidableEq, Repr

namespace Host

/-- The process that started the shell. -/
def starter : Pid := 2718280

/-- The shell itself, or the leader of its session if that is another process. -/
def leader : Pid := 2718281

def shellPid (h : Host) : Pid := if h.input = .nestedTerminal then leader + 1 else leader

/-- The node at a path of the standard tree. -/
def nodeAt (t : FileTree) (path : String) : NodeId :=
  (t.resolve FileTree.root (Bytes.ofText path)).toOption.getD FileTree.root

/-- The descriptions behind the first three descriptors. -/
def openings (h : Host) (t : FileTree) : List Opening :=
  let input : Opening := match h.input.path? with
    | some path =>
        { channel := .node (nodeAt t path), readable := h.input ≠ .writeOnly
          writable := h.input = .writeOnly }
    | none =>
        if h.input = .pipe then { channel := .pipe 0, readable := true }
        else { channel := .terminal, readable := true, writable := true }
  let output : Opening := {
    channel := if h.outputFull then .node (nodeAt t "/dev/full") else .transcript false
    writable := true }
  [input, output, { channel := .transcript true, writable := true }]

/-- The session that the terminal controls, if it controls the shell's. -/
def session? (h : Host) : Option Pid :=
  if h.input = .terminal || h.input = .nestedTerminal then some leader else none

/-- The environment of the shell. -/
def environment : Environment :=
  [("PATH", "/usr/local/sbin:/usr/local/bin:/usr/sbin:/usr/bin:/sbin:/bin"), ("HOME", "/root"),
    ("LC_ALL", "C")].map fun (name, value) => (Bytes.ofText name, Bytes.ofText value)

/-- The signal that threads use among themselves; a shell with threads is not hurt by it. -/
def threadSignal : Signal := 33

/-- The process of the shell. -/
def shell (h : Host) (cwd : NodeId) : Process where
  pid := h.shellPid
  parent := if h.input = .nestedTerminal then leader else starter
  group := leader
  session := leader
  name := Bytes.ofText Startup.programName
  cwd
  files := [(0, 0), (1, 1), (2, 2)]
  ignored := if h.ignoresChildren then [Signal.chld] else []
  caught := [threadSignal]
  environment

/-- The processes around the shell, of which the first is the ancestor of all. -/
def company (h : Host) (cwd : NodeId) : List Process :=
  let first : Process := { pid := 1, parent := 0, group := 1, session := 1, cwd }
  let starter : Process := {
    pid := starter, parent := 1, group := starter, session := starter, cwd }
  let leader : Process := {
    pid := leader, parent := Host.starter, group := leader, session := leader, cwd }
  if h.input = .nestedTerminal then [first, starter, leader] else [first, starter]

/-- The machine before the shell has done anything. -/
def boot (h : Host) : Machine :=
  let (scratch, tree) := h.setup.tree
  { tree
    openings := (h.openings tree).toArray
    pipes := (({ sources := 1, sinks := 1, held := h.input = .pipe } : Pipe) ::
      h.setup.fifos.map fun _ => {}).toArray
    terminal := { session := h.session?, foreground := leader }
    processes := h.company scratch ++ [h.shell scratch]
    nextPid := h.shellPid + 1
    shell := h.shellPid
    failures := h.failures }

end Host

end JobShell.Scenario
