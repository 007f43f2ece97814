import JobShell.Scenario.Host
import JobShell.Scenario.Label

/-!
# Playing a scenario

The shell runs on a host while somebody types, sends signals and opens named pipes. After each
step everything runs until nothing can go on without the next step or without time passing.
-/

namespace JobShell.Scenario

open Machine

/-- What somebody does from outside. -/
inductive Action
  /-- Write to standard input, or type. -/
  | input (bs : Bytes)
  | endInput
  /-- Wait until the labelled standard output ends with a text. -/
  | await (text : Bytes)
  /-- Open a named pipe, write to it and close it. -/
  | gate (fifo data : Bytes)
  /-- Send a signal to the shell. -/
  | signal (s : Signal)
  /-- Send a signal to the shell's process group. -/
  | signalGroup (s : Signal)
deriving DecidableEq, Repr

/-- A shell on its host, and the answers to the waits so far. -/
structure Play where
  shell : Shell Machine
  input : InputKind
  labels : Labels := []
  waits : List Bool := []

namespace Play

def machine (p : Play) : Machine := p.shell.shared.world

def withMachine (p : Play) (m : Machine) : Play :=
  { p with shell := { p.shell with shared := { p.shell.shared with world := m } } }

/-- Whether the process of the shell is there and running. -/
def isShellRunning (p : Play) : Bool :=
  ((p.machine.process? p.machine.shell).map (·.isRunning)).getD false

/-- One step, of the shell if it can take one. -/
def step (p : Play) : Option Play :=
  let ofShell := if p.isShellRunning then p.shell.stepAny Machine.world else none
  match ofShell with
  | some shell => some { p with shell }
  | none => p.machine.step.map p.withMachine

/-- Go on until nothing moves, or until a condition holds. -/
def settleUntil (done : Play → Bool) : (fuel : Nat) → Play → Play
  | 0, p => p
  | fuel + 1, p =>
      if done p then p
      else match p.step with
        | none => p
        | some p => settleUntil done fuel p

/-- More steps than any scenario takes between two moments. -/
def patience : Nat := 10000000

def settle (p : Play) : Play := p.settleUntil (fun _ => false) patience

/-- Let time pass until the next process wakes, but not beyond a moment. -/
def passTime (p : Play) (latest : Option Nat) : Option Play := do
  let wake ← p.machine.nextWake?
  if (latest.map fun moment => decide (wake ≤ moment)).getD true then
    some (p.withMachine { p.machine with clock := wake })
  else none

/-- Settle, let time pass, and so on, until a condition holds or a moment has come. -/
def playUntil (done : Play → Bool) (latest : Option Nat) : (fuel : Nat) → Play → Play
  | 0, p => p
  | fuel + 1, p =>
      let p := p.settleUntil done patience
      if done p then p
      else match p.passTime latest with
        | some p => playUntil done latest fuel p
        | none =>
            match latest with
            | some moment => p.withMachine { p.machine with clock := max moment p.machine.clock }
            | none => p

/-- Standard output with its labels, and the numbers that have labels now. -/
def transcript (p : Play) : Bytes × Labels := p.labels.relabel p.machine.stdout

def endsWith (text : Bytes) (p : Play) : Bool := text.isSuffixOf p.transcript.1

/-! ## Actions -/

/-- How long somebody waits for a text or for the other end of a named pipe. -/
def waitingTime : Nat := 5000

/-- Type one byte at the terminal. -/
def typeByte (m : Machine) (b : UInt8) : Machine :=
  match m.terminal.type b with
  | (none, terminal) => { m with terminal }
  | (some s, terminal) =>
      let m := { m with terminal }
      m.postAll (m.members terminal.foreground) s

def write (p : Play) (bs : Bytes) : Play :=
  match p.input with
  | .pipe => p.withMachine (p.machine.updatePipe 0 fun q => { q with content := q.content ++ bs })
  | .terminal | .nestedTerminal | .foreignTerminal => p.withMachine (bs.foldl typeByte p.machine)
  | _ => p

def endInput (p : Play) : Play :=
  let m := p.machine.updatePipe 0 fun q => { q with held := false }
  p.withMachine { m with terminal := { m.terminal with hungUp := true } }

/-- The pipe behind a path below the scratch directory. -/
def pipeAt? (m : Machine) (scratch : NodeId) (path : Bytes) : Option Nat :=
  match m.tree.resolve scratch path with
  | .ok n =>
      match m.tree.kind? n with
      | some (.fifo number) => some number
      | _ => none
  | .error _ => none

/-- Open a named pipe for writing, which waits for a reader, write to it and close it. -/
def gate (scratch : NodeId) (fifo data : Bytes) (p : Play) : Play :=
  match pipeAt? p.machine scratch fifo with
  | none => p
  | some number =>
      let opened := p.withMachine (p.machine.updatePipe number fun q =>
        { q with sinks := q.sinks + 1, held := true })
      let ready := opened.playUntil (fun p => p.machine.hasSource number)
        (some (opened.machine.clock + waitingTime)) patience
      ready.withMachine (ready.machine.updatePipe number fun q =>
        { q with content := q.content ++ data, held := false })

/-- Send a signal from outside. -/
def send (target : Pid) (s : Signal) (p : Play) : Play :=
  p.withMachine (p.machine.kill Host.starter target s).2

def act (scratch : NodeId) (a : Action) (p : Play) : Play :=
  match a with
  | .input bs => (p.write bs).settle
  | .endInput => p.endInput.settle
  | .await text =>
      let p := p.playUntil (endsWith text) (some (p.machine.clock + waitingTime)) patience
      { p with waits := p.waits ++ [p.endsWith text] }
  | .gate fifo data => (p.gate scratch fifo data).settle
  | .signal s => (p.send p.machine.shell s).settle
  | .signalGroup s =>
      let group := ((p.machine.process? p.machine.shell).map (·.group)).getD p.machine.shell
      (p.send (-group) s).settle

/-- Whether the shell has ended, by itself or by a signal. -/
def isOver (p : Play) : Bool :=
  p.shell.result?.isSome ||
    ((p.machine.process? p.machine.shell).map (·.isEnded)).getD true

/-- Perform the actions, close standard input and wait for the end of the shell. -/
def perform (scratch : NodeId) (actions : List Action) (p : Play) : Play :=
  let p := actions.foldl (fun p a => p.act scratch a) p.settle
  p.endInput.playUntil isOver none patience

end Play

/-! ## A shell on a host -/

/-- What is seen of a shell that ran to its end. -/
structure Seen where
  stdout : Bytes
  stderr : Bytes
  waits : List Bool := []
  files : Except Errno (List FileTree.Found)
  /-- Where the shell was at its end. -/
  cwd : Except Errno Bytes
  /-- The result of the shell and the number of jobs that were left, if it came to an end. -/
  result : Option (Except Fault Unit × Nat) := none
  jobsLeft : Nat := 0

/-- The scratch directory of a host. -/
def Host.scratch (h : Host) : NodeId := h.setup.tree.1

def Play.seen (h : Host) (p : Play) : Seen where
  stdout := p.transcript.1
  stderr := p.machine.stderr
  waits := p.waits
  files := p.machine.tree.inventory h.scratch
  cwd := ((p.machine.process? p.machine.shell).map fun q => p.machine.tree.pathOf q.cwd).getD
    (.error .noEntry)
  result := p.shell.result?
  jobsLeft := p.shell.shared.jobs.size

/-- Run the threads of the shell on a host whose signals are already blocked. -/
def Host.runShell (h : Host) (limits : Limits) (actions : List Action) (m : Machine) : Seen :=
  let p : Play := { shell := { limits, shared := { world := m } }, input := h.input }
  (p.perform h.scratch actions).seen h

/-- Run the shell without its command line. -/
def Host.session (h : Host) (limits : Limits) (actions : List Action) : Seen :=
  h.runShell limits actions (h.boot.setMask h.shellPid .full)

/-- What is seen of a whole run from the command line. -/
structure CommandRun where
  code : Option Nat
  seen : Seen
  log : List Log.Record

/-- What is seen of a shell that ended before its threads started. The waits all failed. -/
def Host.earlyEnd (h : Host) (actions : List Action) (text : String) (m : Machine) : Seen :=
  let m := (m.write h.shellPid 2 (Bytes.ofText text)).2
  { stdout := m.stdout
    stderr := m.stderr
    waits := (actions.filter fun | .await _ => true | _ => false).map fun _ => false
    files := m.tree.inventory h.scratch
    cwd := .error .noEntry }

/-- Run the shell from its command line. -/
def Host.commandRun (h : Host) (arguments : List String) (actions : List Action) : CommandRun :=
  let m := h.boot
  match Startup.plan arguments with
  | .say text code => ⟨some code, h.earlyEnd actions text m, [Startup.firstRecord]⟩
  | .run limits =>
      match Startup.prepare Machine.startupWorld m with
      | .error f => ⟨some 1, h.earlyEnd actions (Startup.faultText f) m, [Startup.firstRecord]⟩
      | .ok m =>
          let seen := h.runShell limits actions m
          match seen.result with
          | none => ⟨none, seen, [Startup.firstRecord]⟩
          | some (result, left) =>
              let log := [Startup.firstRecord, Startup.lastRecord left]
              match result with
              | .ok () => ⟨some 0, seen, log⟩
              | .error f =>
                  let stderr := seen.stderr ++ Bytes.ofText (Startup.faultText f)
                  ⟨some 1, { seen with stderr }, log⟩

end JobShell.Scenario
