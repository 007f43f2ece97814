import JobShell.Machine.Execute

/-!
# Steps of the machine

A step lets the first process that need not wait make one system call. When all of them wait, time
goes on to the moment at which the first sleeper wakes. A process that never waits is put behind
the others now and then.
-/

namespace JobShell.Machine

/-- Add a child that is a copy of its parent, but for what it runs. -/
def spawn (m : Machine) (parent : Process) (task : Task) : Pid × Machine :=
  let child : Process := { parent with
    pid := m.nextPid, parent := parent.pid, life := .running, task
    signals := parent.signals.inherited, arrived := [], interrupted := false, pendingOpen := none }
  (m.nextPid, { m with processes := m.processes ++ [child], nextPid := m.nextPid + 1 })

def changeDirectory (m : Machine) (pid : Pid) (path : Bytes) : Except IoError Unit × Machine :=
  match m.failure? .chdir, m.process? pid with
  | some e, _ => (.error (if path.contains 0 then .nulInPath else .os e), m)
  | none, none => (.error (.os .noProcess), m)
  | none, some p =>
      match m.tree.changeDirectory p.cwd path with
      | .ok cwd => (.ok (), m.update pid fun p => { p with cwd })
      | .error e => (.error e, m)

/-- A change as a process asks for it: the bits of its mask are missing in what is made. -/
def maskedChange (p : Process) : TreeChange → TreeChange
  | .makeDirectory path mode => .makeDirectory path (p.masked mode)
  | .makePipe path mode => .makePipe path (p.masked mode)
  | c => c

/-- Change the tree, or report why it stays as it is. -/
def changeTree (m : Machine) (p : Process) (c : TreeChange) : Except Errno Unit × Machine :=
  match m.tree.apply p.cwd m.stamp m.pipes.size (maskedChange p c) with
  | .error e => (.error e, m)
  | .ok tree =>
      (.ok (), { m with
        tree
        pipes := match c with
          | .makePipe .. => m.pipes.push {}
          | _ => m.pipes })

/-- Lead a session of its own, without a terminal. -/
def newSession (m : Machine) (p : Process) : Except Errno Unit × Machine :=
  if m.processes.any fun q => q.group = p.pid then (.error .notPermitted, m)
  else (.ok (), m.update p.pid fun p => { p with group := p.pid, session := p.pid })

/-- Wait for a child, but not beyond a moment. -/
def waitUntil (m : Machine) (p : Process) (pid : Pid) (options : WaitOptions)
    (latest : Option Nat) : Option (Except Errno (Option WaitStatus)) × Machine :=
  match m.failure? .wait with
  | some e => (some (.error e), m)
  | none =>
      match m.waitFor p.pid pid options with
      | some (.status s, m) => (some (.ok (some s)), m)
      | some (.failed e, m) => (some (.error e), m)
      | some (.notReady, m) => (some (.ok none), m)
      | none =>
          match latest with
          | some moment => (if moment ≤ m.clock then some (.ok none) else none, m)
          | none => (none, m)

/-! ## System calls -/

/-- A reply that is there at once. -/
def replied {α : Type} (r : α × Machine) : Option α × Machine := (some r.1, r.2)

/-- The reply to a call, if the caller need not wait, and the machine afterwards. Forks and
executions are not answered here: they change what the caller runs. -/
def answer (m : Machine) (p : Process) : (c : SystemCall) → Option c.Reply × Machine
  | .openFile path mode => m.openFile p.pid path mode
  | .close fd => (some (), m.closeFile p.pid fd)
  | .duplicate source target => replied (m.duplicate p.pid source target)
  | .keep fd => replied (m.keep p.pid fd)
  | .pipe =>
      let (ends, m) := m.makePipe p.pid
      (some (.ok ends), m)
  | .read fd count => m.read p.pid fd count
  | .write fd bs => m.write p.pid fd bs
  | .seek fd origin offset => replied (m.seek p.pid fd origin offset)
  | .truncate fd size => replied (m.truncate p.pid fd size)
  | .isTerminal fd => (some (m.isTerminal p.pid fd), m)
  | .entries path => (some (m.tree.entries p.cwd path), m)
  | .examine path follow => (some (m.tree.examine p.cwd path follow), m)
  | .examineOpen fd => (some (m.examineOpen p.pid fd), m)
  | .readLink path => (some (m.tree.readLink p.cwd path), m)
  | .change c => replied (m.changeTree p c)
  | .fork => (some (.error .notPermitted), m)
  | .execute .. => (some .noEntry, m)
  | .wait pid options latest => m.waitUntil p pid options latest
  | .kill pid s =>
      match m.failure? .kill with
      | some e => (some (.error e), m)
      | none => replied (m.kill p.pid pid s)
  | .setMask blocked => (some (), m.setMask p.pid (SignalSet.ofList blocked))
  | .dispose s d => (some (), m.update p.pid (·.dispose s d))
  | .disposition s => (some (p.disposition s), m)
  | .takeSignals =>
      (some p.arrived, m.update p.pid fun p => { p with arrived := [], interrupted := false })
  | .clock => (some m.clock, m)
  | .sleepUntil time => (if time ≤ m.clock then some () else none, m)
  | .changeDirectory path =>
      match m.changeDirectory p.pid path with
      | (.ok (), m) => (some (.ok ()), m)
      | (.error e, m) => (some (.error (e.errno?.getD .invalid)), m)
  | .workingDirectory => (some (m.tree.pathOf p.cwd), m)
  | .setUmask umask => (some (), m.update p.pid fun p => { p with umask })
  | .umask => (some p.umask, m)
  | .environment => (some p.environment, m)
  | .ownPid => (some p.pid, m)
  | .parentPid => (some p.parent, m)
  | .joinGroup pid group => replied (m.joinGroup p.pid pid group)
  | .newSession => replied (m.newSession p)
  | .exit _ => (none, m)

def setTask (m : Machine) (pid : Pid) (task : Task) : Machine :=
  m.update pid fun p => { p with task }

/-- What a process comes to whose call has to wait: a caught signal interrupts it. Nothing comes
back if it goes on waiting as before. -/
def waitMore (before after : Machine) (p : Process) (c : SystemCall)
    (resume : c.Reply → Program Nat) : Option Machine :=
  match after.process? p.pid with
  | none => some after
  | some q =>
      match if q.isRunning && q.interrupted then c.interruption? else none with
      | some reply =>
          some (before.update p.pid fun p => { p with
            task := .program (resume reply), interrupted := false, pendingOpen := none })
      | none =>
          if !q.isRunning || (q.pendingOpen.isSome && p.pendingOpen.isNone) then some after
          else none

/-- One step of a program. A call that has to wait changes nothing but the first time that it
opens a named pipe or meets the terminal in the background. -/
def stepProgram (m : Machine) (p : Process) : Program Nat → Option Machine
  | .done code | .ask (.exit code) _ => some (m.finish p.pid (.exited (code % 256)))
  | .ask .fork resume =>
      match m.failure? .fork with
      | some e => some (m.setTask p.pid (.program (resume (.error e))))
      | none =>
          let (child, m) := m.spawn p (.program (resume (.ok none)))
          some (m.setTask p.pid (.program (resume (.ok (some child)))))
  | .ask (.execute path argv environment) resume =>
      match m.execute p path argv environment with
      | .ok m => some m
      | .error e => some (m.setTask p.pid (.program (resume e)))
  | .ask c resume =>
      match m.answer p c with
      | (some reply, after) =>
          -- A signal may have ended the process while its call was answered.
          match after.process? p.pid with
          | some q =>
              if q.isEnded then some after
              else some (after.setTask p.pid (.program (resume reply)))
          | none => some after
      | (none, after) => waitMore m after p c resume

/-! ## The way from a fork of the shell to the command -/

/-- Open a file for one of the first two descriptors. -/
def openOver (m : Machine) (pid : Pid) (target : Nat) (path : Bytes) (mode : OpenMode) :
    Option (Except IoError Unit) × Machine :=
  if path.contains 0 then (some (.error .nulInFileName), m)
  else match m.openFile pid path mode with
    | (none, m) => (none, m)
    | (some (.error e), m) => (some (.error (.os e)), m)
    | (some (.ok fd), m) =>
        let m := (m.duplicate pid fd target).2
        (some (.ok ()), if fd = target then m else m.closeFile pid fd)

/-- Move a launched child on. -/
def proceed (m : Machine) (pid : Pid) (c : Command) (h : ChildHalf) : Machine :=
  m.setTask pid (.launched c h)

def stepLaunched (m : Machine) (p : Process) (c : Command) (h : ChildHalf) : Option Machine :=
  let go (m : Machine) (h : ChildHalf) : Option Machine := some (m.proceed p.pid c h)
  let opened (reply : Option (Except IoError Unit) × Machine)
      (next : Except IoError Unit → ChildHalf) : Option Machine :=
    match reply with
    | (some result, m) => go m (next result)
    | (none, m) => if p.pendingOpen.isNone then some m else none
  match h.turn c with
  | ⟨.openOutput path, resume⟩ =>
      opened (m.openOver p.pid 1 path (.writing ChildHalf.outputMode)) resume
  | ⟨.openInput path, resume⟩ => opened (m.openOver p.pid 0 path .reading) resume
  | ⟨.joinOwnGroup, resume⟩ =>
      match m.failure? .setpgid with
      | some e => go m (resume (.error e))
      | none =>
          let (reply, m) := m.joinGroup p.pid 0 0
          go m (resume reply)
  | ⟨.setMask blocked, resume⟩ => go (m.setMask p.pid (SignalSet.ofList blocked)) (resume (.ok ()))
  | ⟨.execute argv, resume⟩ =>
      match m.executeCommand p argv with
      | .ok m => some m
      | .error e => go m (resume (.os e))
  | ⟨.complain message, resume⟩ =>
      match m.write p.pid 2 (Bytes.ofText message) with
      | (some _, m) => go m (resume ())
      | (none, _) => none
  | ⟨.exit code, _⟩ => some (m.finish p.pid (.exited code))

/-! ## The whole machine -/

/-- One step of a process; nothing if it has to wait, has stopped or has ended. -/
def stepProcess (m : Machine) (p : Process) : Option Machine :=
  if !p.isRunning then none
  else match p.task with
    | .outside => none
    | .launched c h => m.stepLaunched p c h
    | .program body => m.stepProgram p body

/-- After so many steps the first process in line goes to its end. -/
def stepsInARow : Nat := 1000

/-- Count a step. -/
def tick (m : Machine) : Machine :=
  let m := { m with ticks := m.ticks + 1 }
  if m.ticks % stepsInARow = 0 then
    { m with processes := m.processes.drop 1 ++ m.processes.take 1 }
  else m

/-- One step of the first process that can take one. -/
def step (m : Machine) : Option Machine := (m.processes.findSome? m.stepProcess).map tick

/-- The time at which a process wakes, if it sleeps or waits no longer than some time. -/
def wakeTime? (p : Process) : Option Nat :=
  match p.life, p.task with
  | .running, .program (.ask (.sleepUntil time) _) => some time
  | .running, .program (.ask (.wait _ _ (some time)) _) => some time
  | _, _ => none

/-- The next time at which some process wakes. -/
def nextWake? (m : Machine) : Option Nat := (m.processes.filterMap wakeTime?).min?

end JobShell.Machine
