import JobShell.Scenario.Host

/-!
# Single system calls

Calls that a process makes about itself, about others and about its descriptors, on a host where
it leads neither its session nor its group.
-/

namespace JobShell.Scenario

open Machine

/-- A call about processes; without a target `kill` means the caller itself. -/
inductive ProcessCall
  | kill (target : Option Pid) (s : Signal)
  | joinGroup (pid group : Pid)
  | groupOf (pid : Pid)
  | wait (pid : Pid) (options : WaitOptions)
deriving DecidableEq, Repr

inductive ProcessReply
  | done
  /-- Whether a group is the caller's own. -/
  | group (own : Bool)
  | waited (reply : WaitReply)
  | failed (e : Errno)
deriving DecidableEq, Repr

namespace Calls

/-- The host of the calls. -/
def host : Host := { input := .nestedTerminal }

def caller : Pid := host.shellPid

def plainReply (m : Machine) : Except Errno Unit × Machine → ProcessReply × Machine
  | (.ok (), after) => (.done, after)
  | (.error e, _) => (.failed e, m)

def answer (m : Machine) : ProcessCall → ProcessReply × Machine
  | .kill target s => plainReply m (m.kill caller (target.getD caller) s)
  | .joinGroup pid group => plainReply m (m.joinGroup caller pid group)
  | .groupOf pid =>
      match m.groupOf caller pid with
      | .ok group => (.group (group = m.ownGroup caller), m)
      | .error e => (.failed e, m)
  | .wait pid options =>
      match m.waitFor caller pid options with
      | some (reply, m) => (.waited reply, m)
      | none => (.waited .notReady, m)

/-- The reply to a single call. -/
def run (c : ProcessCall) : ProcessReply := (answer host.boot c).1

/-- Whether a number can be that of a process. -/
def isValidPid (pid : Pid) : Bool := 0 < pid

/-! ## Descriptors and terminals -/

/-- What a descriptor refers to. -/
inductive DescriptorKind
  | closed
  | file
  | null
  | socket
  | pipe
  /-- A terminal that does not control the session of the process. -/
  | terminal
deriving DecidableEq, Repr

/-- What a process learns about a descriptor as a terminal: whether it is one, its foreground
group, and whether the process's own group can be put into the foreground. -/
structure TerminalFacts where
  isTerminal : Bool
  foreground : Except Errno Pid
  taken : Except Errno Unit
deriving Repr

def terminalFacts (kind : DescriptorKind) : TerminalFacts :=
  let h : Host := { input := match kind with
    | .terminal => .foreignTerminal
    | .pipe | .socket => .pipe
    | .closed | .file | .null => .null }
  let m := h.boot
  let fd := if kind = .closed then 3 else 0
  { isTerminal := m.isTerminal m.shell fd
    foreground := m.foreground m.shell fd
    taken := (m.setForeground m.shell fd (m.ownGroup m.shell)).map fun _ => () }

end Calls

end JobShell.Scenario
