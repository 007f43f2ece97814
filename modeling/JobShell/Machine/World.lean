import JobShell.Machine.Step
import JobShell.Shell
import JobShell.Startup

/-!
# The machine as the shell's world

What the shell asks for is done by its process on the machine.

Results:
1. `Machine.world_sendStop`: the signal thread takes a stop before any other signal.
2. `Machine.foreground_setForeground`: a group that was put into the foreground is found there.
-/

namespace JobShell.Machine

/-- Read one byte of the shell's input; nothing comes back while it has to wait. -/
def readByte (m : Machine) : Option (ReadOutcome × Machine) :=
  match m.read m.shell 0 1 with
  | (some (.ok (b :: _)), m) => some (.byte b, m)
  | (some (.ok []), m) => some (.endOfFile, m)
  | (some (.error e), m) => some (.failed e, m)
  | (none, _) => none

/-- Start a child of the shell on its way to a command. -/
def forkFor (c : Command) (m : Machine) : Except Errno Pid × Machine :=
  match m.failure? .fork, m.process? m.shell with
  | some e, _ => (.error e, m)
  | none, none => (.error .noProcess, m)
  | none, some p =>
      let (pid, m) := m.spawn p (.launched c (ChildHalf.start c))
      (.ok pid, m)

/-- Wait for a child of the shell. -/
def waitForShell (pid : Pid) (options : WaitOptions) (m : Machine) : Option (WaitReply × Machine) :=
  match m.failure? .wait with
  | some e => some (.failed e, m)
  | none => m.waitFor m.shell pid options

/-- Take a signal sent to the shell. What was sent to the signal thread itself comes first. -/
def awaitSignal (m : Machine) : Option (Except Errno Signal × Machine) :=
  match m.failure? .sigwait with
  | some e => some (.error e, m)
  | none =>
      if m.stopSent then some (.ok Signal.usr1, { m with stopSent := false })
      else do
        let p ← m.process? m.shell
        let (s, signals) ← p.signals.take? .full
        return (.ok s, m.update m.shell fun p => { p with signals })

def world : World Machine where
  print bs m := (m.write m.shell 1 bs).2
  complain bs m := (m.write m.shell 2 bs).2
  readByte := readByte
  changeDirectory dir m := m.changeDirectory m.shell dir
  fork := forkFor
  blockSignals m := m.setMask m.shell .full
  waitFor := waitForShell
  reserve m := (.ok (), m)
  raiseChild m :=
    match m.failure? .kill with
    | some _ => m
    | none => m.post m.shell Signal.chld
  awaitSignal := awaitSignal
  sendStop m := (.ok (), { m with stopSent := true })

theorem world_sendStop {m : Machine} (able : m.failure? .sigwait = none) :
    world.awaitSignal (world.sendStop m).2 =
      some (.ok Signal.usr1, { m with stopSent := false }) := by
  have able' : failure? { m with stopSent := true } .sigwait = none := able
  simp [world, awaitSignal, able']

/-! ## The terminal at the start -/

def leadsGroup (m : Machine) : Bool :=
  ((m.process? m.shell).map fun p => decide (p.group = m.shell)).getD false

/-- The terminal behind a descriptor, as far as it controls the session of the process. -/
def controlling (m : Machine) (pid : Pid) (fd : Nat) : Except Errno Terminal :=
  match m.process? pid, m.described? pid fd with
  | some p, some (_, o) =>
      if o.channel = .terminal && m.terminal.session = some p.session then .ok m.terminal
      else .error .notTerminal
  | _, _ => .error .badDescriptor

/-- The foreground group of the terminal behind a descriptor. -/
def foreground (m : Machine) (pid : Pid) (fd : Nat) : Except Errno Pid :=
  (m.controlling pid fd).map (·.foreground)

/-- Put a group into the foreground of the terminal behind a descriptor. -/
def setForeground (m : Machine) (pid : Pid) (fd : Nat) (group : Pid) : Except Errno Machine :=
  (m.controlling pid fd).map fun terminal =>
    { m with terminal := { terminal with foreground := group } }

def ownGroup (m : Machine) (pid : Pid) : Pid := ((m.process? pid).map (·.group)).getD pid

theorem foreground_setForeground {m after : Machine} {pid group : Pid} {fd : Nat}
    (taken : m.setForeground pid fd group = .ok after) : after.foreground pid fd = .ok group := by
  unfold setForeground at taken
  cases found : m.controlling pid fd with
  | error e => rw [found] at taken; cases taken
  | ok terminal =>
      rw [found] at taken
      cases taken
      unfold controlling at found
      split at found
      · next p n o present described =>
          split at found
          · next controls =>
              cases found
              simp only [process?] at present
              simp only [described?, process?, opening?] at described
              simp_all [foreground, controlling, described?, process?, opening?, Except.map]
          · cases found
      · cases found

def startupWorld : StartupWorld Machine where
  blockSignals m :=
    match m.failure? .sigmask with
    | some e => .error e
    | none => .ok (m.setMask m.shell .full)
  isTerminal m := m.isTerminal m.shell 0
  leadsGroup := leadsGroup
  createGroup m :=
    match m.failure? .setpgid with
    | some e => .error e
    | none =>
        match m.joinGroup m.shell 0 0 with
        | (.ok (), m) => .ok m
        | (.error e, _) => .error e
  isForeground m := (m.foreground m.shell 0).toOption = some (m.ownGroup m.shell)
  takeForeground m := m.setForeground m.shell 0 (m.ownGroup m.shell)

end JobShell.Machine
