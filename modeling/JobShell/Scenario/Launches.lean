import JobShell.Scenario.Play

/-!
# Launching without a shell around it

Commands are launched and jobs collected one call at a time, without the threads of the shell.
Jobs are named by the order in which they were launched.
-/

namespace JobShell.Scenario

open Machine
open Thread (Status Turn)

/-- One step of a launch scenario. -/
inductive LaunchAction
  | run (line : Bytes)
  /-- Collect until a number of events has come. -/
  | reap (count : Nat)
  | reapNow
  | signal (job : Nat) (s : Signal)
  /-- Wait for the process of a job without regard to the registry. -/
  | collect (job : Nat)
  | forget (job : Nat)
  | gate (fifo data : Bytes)
  /-- Wait until a file has a content. -/
  | awaitFile (path content : Bytes)
  | moveTo (dir : Bytes)
deriving DecidableEq, Repr

/-- What a step comes to. -/
inductive LaunchAnswer
  | refused (e : ParseError)
  | failed (e : LaunchError)
  | foreground (status : Option WaitStatus)
  /-- A job in the background, and whether it leads a group of its own. -/
  | background (job : Nat) (ownGroup : Bool)
  | reports (rs : List (Bytes × JobEvent))
  | done
  | ioError (e : IoError)
  | collected (status : WaitStatus)
  | flag (b : Bool)
  /-- There is no such job. -/
  | noJob

/-- What is shared, with the jobs in the order of their launches. -/
structure Launches where
  maxToken : Nat := 255
  shared : Shared Machine
  jobs : List Pid := []

namespace Launches

def machine (l : Launches) : Machine := l.shared.world

/-- A text with labels for its numbers, those of the jobs first. -/
def labelled (l : Launches) (bs : Bytes) : Bytes :=
  (Labels.relabel (l.jobs.map (·.toNat)) bs).1

def withMachine (l : Launches) (m : Machine) : Launches :=
  { l with shared := { l.shared with world := m } }

/-- Let the machine go on until nothing moves or a condition holds. -/
def settleUntil (done : Machine → Bool) : (fuel : Nat) → Machine → Machine
  | 0, m => m
  | fuel + 1, m =>
      if done m then m
      else match m.step with
        | none => m
        | some m => settleUntil done fuel m

def settle (l : Launches) : Launches :=
  l.withMachine (settleUntil (fun _ => false) Play.patience l.machine)

/-- Let the machine take a step, or time pass. -/
def moveOn (m : Machine) : Option Machine :=
  m.step <|> (m.nextWake?.map fun wake => { m with clock := wake })

/-- Let the machine go on, and time pass, until a condition holds. -/
def moveUntil (done : Machine → Bool) : (fuel : Nat) → Machine → Machine
  | 0, m => m
  | fuel + 1, m =>
      if done m then m
      else match moveOn m with
        | none => m
        | some m => moveUntil done fuel m

/-- Make the calls of a thread until it ends; while a call waits, the machine goes on. -/
def drive {σ ρ : Type} (turn : σ → Turn σ ρ) :
    (fuel : Nat) → Status σ ρ → Shared Machine → Option ρ × Shared Machine
  | _, .ended result, s => (some result, s)
  | 0, .running _, s => (none, s)
  | fuel + 1, .running state, s =>
      match s.advance Machine.world turn (.running state) with
      | some (t, s) => drive turn fuel t s
      | none =>
          match moveOn s.world with
          | some m => drive turn fuel (.running state) { s with world := m }
          | none => (none, s)

/-- Whether a process leads its group. -/
def leadsGroup (m : Machine) (pid : Pid) : Bool :=
  ((m.process? pid).map fun p => decide (p.group = pid)).getD false

/-- Whether it is clear if a process leads its group: it does, or it has ended. -/
def isSettledOn (pid : Pid) (m : Machine) : Bool :=
  leadsGroup m pid || ((m.process? pid).map (·.isEnded)).getD true

def run (l : Launches) (line : Bytes) : LaunchAnswer × Launches :=
  match Command.parse l.maxToken line with
  | .error e => (.refused e, l)
  | .ok c =>
      match drive (Launch.turn c) Play.patience (.running Launch.start) l.shared with
      | (some (.ok (.foreground _ status)), shared) => (.foreground status, { l with shared })
      | (some (.ok (.background pid)), shared) =>
          let l := { l with shared, jobs := l.jobs ++ [pid] }
          let m := settleUntil (isSettledOn pid) Play.patience l.machine
          (.background l.jobs.length (leadsGroup m pid), l.withMachine m)
      | (some (.error e), shared) => (.failed e, { l with shared })
      | (none, shared) => (.foreground none, { l with shared })

/-- One pass over the registry. -/
def reapOnce (l : Launches) : List JobReport × Launches :=
  match drive Reap.turn Play.patience (.running Reap.start) l.shared with
  | (reports, shared) => (reports.getD [], { l with shared })

/-- Pass over the registry until enough events have come or nothing can come any more. -/
def reapUntil (count : Nat) : (fuel : Nat) → List JobReport → Launches → List JobReport × Launches
  | 0, found, l => (found, l)
  | fuel + 1, found, l =>
      if count ≤ found.length then (found, l)
      else
        let (reports, l) := l.reapOnce
        let found := found ++ reports
        if count ≤ found.length then (found, l)
        else match moveOn l.machine with
          | some m => reapUntil count fuel found (l.withMachine m)
          | none => (found, l)

/-- The reports with their labels, in the order of the jobs. -/
def shown (l : Launches) (reports : List JobReport) : LaunchAnswer :=
  .reports ((reports.mergeSort fun a b => l.jobs.idxOf a.pid ≤ l.jobs.idxOf b.pid).map fun r =>
    (l.labelled (Bytes.ofText r.text), r.event))

/-- Do something with the process of a job. -/
def withJob (l : Launches) (job : Nat) (f : Pid → LaunchAnswer × Launches) :
    LaunchAnswer × Launches :=
  match l.jobs[job - 1]? with
  | some pid => f pid
  | none => (.noJob, l)

/-- Wait for a process directly. -/
def collect (l : Launches) (pid : Pid) : LaunchAnswer × Launches :=
  let ready (m : Machine) : Bool := (m.waitFor m.shell pid {}).isSome
  let m := moveUntil ready Play.patience l.machine
  match m.waitFor m.shell pid {} with
  | some (.status s, m) => (.collected s, l.withMachine m)
  | some (.failed e, m) => (.ioError (.os e), l.withMachine m)
  | _ => (.done, l.withMachine m)

/-- The gate of a scenario without threads: the machine goes on until a reader is there. -/
def gate (l : Launches) (scratch : NodeId) (fifo data : Bytes) : Launches :=
  match Play.pipeAt? l.machine scratch fifo with
  | none => l
  | some number =>
      let m := l.machine.updatePipe number fun q => { q with sinks := q.sinks + 1, held := true }
      let m := moveUntil (·.hasSource number) Play.patience m
      l.withMachine (m.updatePipe number fun q =>
        { q with content := q.content ++ data, held := false })

def hasContent (scratch : NodeId) (path content : Bytes) (m : Machine) : Bool :=
  match m.tree.resolve scratch path with
  | .ok n => m.tree.content? n = some content
  | .error _ => false

/-- Actions that take no time, so that no process runs meanwhile. -/
def LaunchAction.isInstant : LaunchAction → Bool
  | .signal .. | .reapNow | .forget _ | .moveTo _ => true
  | _ => false

def act (scratch : NodeId) (a : LaunchAction) (l : Launches) : LaunchAnswer × Launches :=
  let l := if LaunchAction.isInstant a then l else l.withMachine l.machine.awakenAll
  match a with
  | .run line => l.run line
  | .reap count =>
      let (reports, l) := reapUntil count Play.patience [] l
      (l.shown reports, l)
  | .reapNow =>
      let (reports, l) := l.reapOnce
      (l.shown reports, l)
  | .signal job s =>
      l.withJob job fun pid =>
        match l.machine.kill l.machine.shell pid s with
        | (.ok (), _) => (.done, l.withMachine (l.machine.postLater pid s))
        | (.error e, _) => (.ioError (.os e), l)
  | .collect job => l.withJob job l.collect
  | .forget job =>
      l.withJob job fun pid =>
        (.flag (l.shared.jobs.contains pid),
          { l with shared := { l.shared with jobs := l.shared.jobs.remove pid } })
  | .gate fifo data => (.done, (l.gate scratch fifo data).settle)
  | .awaitFile path content =>
      let m := moveUntil (hasContent scratch path content) Play.patience l.machine
      (.flag (hasContent scratch path content m), l.withMachine m)
  | .moveTo dir =>
      match l.machine.changeDirectory l.machine.shell dir with
      | (.ok (), m) => (.done, l.withMachine m)
      | (.error e, m) => (.ioError e, l.withMachine m)

/-- What is seen after a step. -/
structure StepSeen where
  answer : LaunchAnswer
  /-- The labelled list of jobs. -/
  jobs : Bytes
  /-- The labelled standard output so far. -/
  output : Bytes

def perform (scratch : NodeId) : List LaunchAction → Launches → List StepSeen × Launches
  | [], l => ([], l)
  | a :: rest, l =>
      let (answer, l) := l.act scratch a
      let seen := ⟨answer, l.labelled l.shared.jobs.listing, l.labelled l.machine.stdout⟩
      let (others, l) := perform scratch rest l
      (seen :: others, l)

end Launches

/-- What is seen of a whole launch scenario. -/
structure LaunchesSeen where
  steps : List Launches.StepSeen
  stdout : Bytes
  stderr : Bytes
  files : Except Errno (List FileTree.Found)

/-- Perform the actions, and kill the jobs that are left. -/
def Host.launches (h : Host) (maxToken : Nat) (actions : List LaunchAction) : LaunchesSeen :=
  let (steps, l) := Launches.perform h.scratch actions { maxToken, shared := { world := h.boot } }
  let l := (l.withMachine (l.jobs.foldl
    (fun m pid => (m.kill m.shell pid Signal.kill).2) l.machine.awakenAll)).settle
  { steps
    stdout := l.labelled l.machine.stdout
    stderr := l.machine.stderr
    files := l.machine.tree.inventory h.scratch }

end JobShell.Scenario
