import JobShell.Thread.Call

/-!
# Collecting the state changes of background jobs

One pass takes the processes of the registry and asks after each of them without waiting, the most
recent first. Jobs that are gone leave the registry; what is worth telling is noted in order.
Processes that are not registered are never asked after, so the status of a foreground command
stays with the thread that waits for it.
-/

namespace JobShell

/-- What happened to a job. -/
structure JobReport where
  pid : Pid
  event : JobEvent
deriving DecidableEq, Repr

namespace JobReport

/-- The report without its final newline; it starts on a line of its own. -/
def text (r : JobReport) : String := "\n[" ++ toString r.pid ++ "]+ " ++ r.event.text

end JobReport

/-- What a pass over the registry is about to do; the reports are those noted so far, the last one
first. -/
inductive Reap
  | listing
  | asking (pid : Pid) (rest : List Pid) (noted : List JobReport)
  /-- Take a job that is gone out of the registry; it is reported only if it was still there. -/
  | removing (report : JobReport) (rest : List Pid) (noted : List JobReport)
  /-- Take out a job that was collected elsewhere. -/
  | dropping (pid : Pid) (rest : List Pid) (noted : List JobReport)
deriving DecidableEq, Repr

namespace Reap

open Thread (Status Turn)

/-- A pass on its way, or its reports. -/
abbrev Progress := Status Reap (List JobReport)

def start : Reap := .listing

/-- Go on with the processes that are left. -/
def next (noted : List JobReport) : List Pid → Progress
  | [] => .ended noted.reverse
  | pid :: rest => .running (.asking pid rest noted)

/-- Go on after asking for a process. -/
def afterWait (pid : Pid) (rest : List Pid) (noted : List JobReport) : WaitReply → Progress
  | .status s =>
      match JobEvent.ofStatus? s with
      | none => next noted rest
      | some event =>
          if event.isFinal then .running (.removing ⟨pid, event⟩ rest noted)
          else next (⟨pid, event⟩ :: noted) rest
  | .notReady => next noted rest
  | .failed e =>
      if e = .noChild then .running (.dropping pid rest noted) else next noted rest

def turn : Reap → Turn Reap (List JobReport)
  | .listing => ⟨.trackedPids, fun pids => next [] pids⟩
  | .asking pid rest noted =>
      ⟨.waitFor pid { noHang := true, untraced := true }, fun reply =>
        afterWait pid rest noted reply⟩
  | .removing report rest noted =>
      ⟨.untrack report.pid, fun present =>
        next (if present then report :: noted else noted) rest⟩
  | .dropping pid rest noted => ⟨.untrack pid, fun _ => next noted rest⟩

end Reap

end JobShell
