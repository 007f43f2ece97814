import JobShell.Machine.State

/-!
# Delivering signals

What a signal does to a process: nothing, stop it, let it go on, or end it; one that the process
catches is kept for it. A parent learns about every change by SIGCHLD, and an ended child is kept
until its parent has asked for it, unless the parent ignores that signal. The signals of the
terminal do not stop the processes of a group that nobody in its session outside it could continue.
-/

namespace JobShell.Machine

/-- What a signal does to a process that does not block it. -/
inductive SignalEffect
  | nothing
  | stop
  | resume
  | finish
deriving DecidableEq, Repr

/-- The signals that do nothing unless somebody asks for them: SIGCHLD, SIGURG and SIGWINCH. -/
def idleSignals : List Signal := [Signal.chld, 23, Signal.winch]

def effect (s : Signal) : SignalEffect :=
  if s = Signal.cont then .resume
  else if Signal.stops.contains s then .stop
  else if idleSignals.contains s then .nothing
  else .finish

/-- Signals that can be neither blocked nor ignored. -/
def isUnstoppable (s : Signal) : Bool := s = Signal.kill || s = Signal.stop

/-- Keep a signal for a process, or drop it if the process ignores it. -/
def keepPending (m : Machine) (p : Process) (s : Signal) : Machine :=
  if p.ignored.contains s && !(decide (s ∈ p.signals.blocked)) then m
  else m.update p.pid fun p => { p with signals := p.signals.post s }

/-- Hand a signal that a process catches over to it. -/
def handOver (m : Machine) (pid : Pid) (s : Signal) : Machine :=
  m.update pid fun p => { p with
    arrived := if p.arrived.contains s then p.arrived else p.arrived ++ [s], interrupted := true }

/-- Tell a parent that a child has changed. -/
def notifyParent (m : Machine) (child : Process) : Machine :=
  match m.process? child.parent with
  | some parent =>
      if parent.ignored.contains Signal.chld then m
      else if decide (Signal.chld ∈ parent.signals.blocked) then m.keepPending parent Signal.chld
      else if parent.caught.contains Signal.chld then m.handOver parent.pid Signal.chld
      else m
  | none => m

/-- Whether a group has no member whose parent is in the same session but in another group. -/
def isOrphaned (m : Machine) (group : Pid) : Bool :=
  !m.processes.any fun p =>
    p.group = group && !p.isEnded && match m.process? p.parent with
      | some parent => !parent.isEnded && parent.session = p.session && parent.group ≠ group
      | none => false

/-- Whether nobody will ever ask for the status of a child. -/
def isUnwanted (m : Machine) (child : Process) : Bool :=
  match m.process? child.parent with
  | some parent => parent.isEnded || parent.ignored.contains Signal.chld
  | none => true

def remove (m : Machine) (pid : Pid) : Machine :=
  { m with processes := m.processes.filter (·.pid ≠ pid) }

/-- End a process: its files are closed, and its ended children, which nobody will ask for now,
are forgotten. -/
def finish (m : Machine) (pid : Pid) (status : WaitStatus) : Machine :=
  match m.process? pid with
  | none => m
  | some p =>
      if p.isEnded then m
      else
        let m := m.update pid fun p =>
          { p with life := .ended status, files := [], pendingOpen := none, task := .outside }
        let m := { m with processes := m.processes.filter fun q => !(q.parent = pid && q.isEnded) }
        if m.isUnwanted p then m.remove pid else m.notifyParent p

def stop (m : Machine) (p : Process) (s : Signal) : Machine :=
  if p.isStopped then m
  else (m.update p.pid fun p => { p with life := .stopped s false }).notifyParent p

/-- Let a signal act on a process that does not block it. -/
def act (m : Machine) (p : Process) (s : Signal) : Machine :=
  if isUnstoppable s then
    if s = Signal.stop then m.stop p s else m.finish p.pid (.killed s)
  else match p.disposition s with
    | .ignore => m
    | .catch => m.handOver p.pid s
    | .default =>
        match effect s with
        | .nothing | .resume => m
        | .stop => if m.isOrphaned p.group then m else m.stop p s
        | .finish => m.finish p.pid (.killed s)

/-- Let the pending signals that are not blocked act, as long as the process runs; `fuel` bounds
their number. -/
def deliverPending (pid : Pid) : (fuel : Nat) → Machine → Machine
  | 0, m => m
  | fuel + 1, m =>
      match m.process? pid with
      | none => m
      | some p =>
          if !p.isRunning then m
          else match p.signals.take? (SignalSet.full.diff p.signals.blocked) with
            | none => m
            | some (s, signals) =>
                let m := m.update pid fun p => { p with signals }
                deliverPending pid fuel (m.act { p with signals } s)

/-- Give a process a new mask; what it no longer blocks acts at once. -/
def setMask (m : Machine) (pid : Pid) (blocked : SignalSet) : Machine :=
  deliverPending pid 64 (m.update pid fun p =>
    { p with signals := { p.signals with blocked := blocked.blockable } })

/-- Let a stopped process go on. -/
def resume (m : Machine) (p : Process) : Machine :=
  if p.isStopped then
    deliverPending p.pid 64
      ((m.update p.pid fun p => { p with life := .running }).notifyParent p)
  else m

/-- A signal arrives at a process. -/
def post (m : Machine) (pid : Pid) (s : Signal) : Machine :=
  match m.process? pid with
  | none => m
  | some p =>
      if p.isEnded || s = 0 then m
      else
        let m := m.update pid fun p => { p with signals := p.signals.cancel s }
        let m := if s = Signal.cont then m.resume p else m
        if decide (s ∈ p.signals.blocked) && !isUnstoppable s then m.keepPending p s
        else if p.isStopped && s ≠ Signal.kill && s ≠ Signal.cont then m.keepPending p s
        else match m.process? pid with
          | none => m
          | some p => m.act p s

/-- Signals that leave an image of the process behind when they end it. -/
def imageSignals : List Signal := [3, 4, 5, 6, 7, 8, 11, 24, 25, 31]

/-- A signal arrives at a process that does not run at the moment. It waits until the process runs,
so that of several the first in order acts first. Only a signal that ends the process and finds
nothing waiting cannot be overtaken any more, and SIGKILL never is. -/
def postLater (m : Machine) (pid : Pid) (s : Signal) : Machine :=
  match m.process? pid with
  | none => m
  | some p =>
      if p.isEnded || s = 0 then m
      else
        let p := { p with signals := p.signals.cancel s }
        let m := m.update pid fun _ => p
        let m := if s = Signal.cont && p.isStopped then
            (m.update pid fun p => { p with life := .running }).notifyParent p
          else m
        let isBlocked := decide (s ∈ p.signals.blocked) && !isUnstoppable s
        let isIdle := (p.signals.take? (SignalSet.full.diff p.signals.blocked)).isNone
        let ends := p.disposition s = .default && effect s = .finish
        if s = Signal.kill then m.update pid fun p => { p with doom := p.doom <|> some s }
        else if !isBlocked && (p.disposition s = .ignore || (p.disposition s = .default &&
            (effect s = .nothing || effect s = .resume))) then m
        else if !isBlocked && ends && isIdle && !p.isStopped && !imageSignals.contains s then
          m.update pid fun p => { p with doom := p.doom <|> some s }
        else m.update pid fun p => { p with signals := p.signals.post s }

/-- Let what waited for a process to run act on it. -/
def awaken (m : Machine) (pid : Pid) : Machine :=
  match (m.process? pid).bind (·.doom) with
  | some s => m.finish pid (.killed s)
  | none => deliverPending pid 64 m

def awakenAll (m : Machine) : Machine :=
  m.processes.foldl (fun m p => m.awaken p.pid) m

def postAll (m : Machine) (pids : List Pid) (s : Signal) : Machine :=
  pids.foldl (fun m pid => m.post pid s) m

def members (m : Machine) (group : Pid) : List Pid :=
  (m.processes.filter (·.group = group)).map (·.pid)

/-- The processes that a target of `kill` means, seen from a process. -/
def targets (m : Machine) (sender target : Pid) : List Pid :=
  if 0 < target then ((m.process? target).map (·.pid)).toList
  else if target = 0 then ((m.process? sender).map fun p => m.members p.group).getD []
  else if target = -1 then (m.processes.map (·.pid)).filter (· ≠ sender)
  else m.members (-target)

/-- Send a signal. A target that does not exist is reported before a number that is no signal. -/
def kill (m : Machine) (sender target : Pid) (s : Signal) : Except Errno Unit × Machine :=
  match m.targets sender target with
  | [] => (.error .noProcess, m)
  | pids =>
      if 0 ≤ s ∧ s ≤ 64 then (.ok (), m.postAll pids s) else (.error .invalid, m)

/-! ## Groups and children -/

/-- The group of a process; 0 means the asking process itself. -/
def groupOf (m : Machine) (asker pid : Pid) : Except Errno Pid :=
  match m.process? (if pid = 0 then asker else pid) with
  | some p => .ok p.group
  | none => .error .noProcess

/-- Move a process into a group of its session; zeros mean the asking process and a group of its
own. -/
def joinGroup (m : Machine) (asker pid group : Pid) : Except Errno Unit × Machine :=
  let pid := if pid = 0 then asker else pid
  let group := if group = 0 then pid else group
  if group < 0 then (.error .invalid, m)
  else match m.process? pid with
    | none => (.error .noProcess, m)
    | some p =>
        if pid ≠ asker && p.parent ≠ asker then (.error .noProcess, m)
        else if p.session = pid || (group ≠ pid && !m.hasGroup group p.session) then
          (.error .notPermitted, m)
        else (.ok (), m.update pid fun p => { p with group })

/-- The least number there is, which names no group. -/
def leastPid : Pid := -2147483648

/-- Ask for a change of a child; nothing comes back if the parent has to wait. -/
def waitFor (m : Machine) (parent pid : Pid) (options : WaitOptions) :
    Option (WaitReply × Machine) :=
  match m.process? pid with
  | none => some (.failed (if pid = leastPid then .noProcess else .noChild), m)
  | some p =>
      if p.parent ≠ parent then some (.failed .noChild, m)
      else match p.life with
        | .ended status => some (.status status, m.remove pid)
        | .stopped s false =>
            if options.untraced then
              some (.status (.stopped s), m.update pid fun p => { p with life := .stopped s true })
            else if options.noHang then some (.notReady, m) else none
        | _ => if options.noHang then some (.notReady, m) else none

end JobShell.Machine
