import JobShell.Machine.Script.SignalName
import JobShell.Machine.Script.State

/-!
# Children and signals of scripts

How a script starts processes, waits for them and learns how they ended, and what it does about the
signals that come to it.
-/

namespace JobShell.Machine.Running

/-! ## Signals -/

/-- What a script wants a signal to do. -/
def wanted (s : ScriptState) (signal : Signal) : Disposition :=
  match s.trap? signal with
  | some [] => .ignore
  | some _ => .catch
  | none => if signal = Signal.int && s.isRoot && s.catchesInterrupt then .catch else .default

/-- Let a signal do what the script wants, unless it was ignored from the start. -/
def adjust (signal : Signal) : Running Unit := do
  let s ← get
  let mode ← match s.modes.lookup signal with
    | some mode => pure (mode.map some)
    | none => do
        if (← sys (.disposition signal)) = .ignore then pure none else pure (some none)
  let store (mode : Option Disposition) : Running Unit :=
    modify fun s => { s with modes := (signal, mode) :: s.modes.filter (·.1 ≠ signal) }
  match mode with
  | none => store none
  | some current =>
      let action := wanted s signal
      if current ≠ some action then
        sys (.dispose signal action)
        store (some action)

/-- Ignore a signal for good. -/
def ignore (signal : Signal) : Running Unit := do
  sys (.dispose signal .ignore)
  modify fun s => { s with modes := (signal, none) :: s.modes.filter (·.1 ≠ signal) }

/-- Die of an interrupt. -/
def dieOfInterrupt : Running Unit := do
  sys (.dispose Signal.int .default)
  sys (.setMask [])
  discard <| sys (.kill (← sys .ownPid) Signal.int)

/-- Ask for the signals that came, and keep them until they are dealt with. An interrupt about
which nothing is to be done ends the process. -/
def noteSignals : Running Unit := do
  let new ← sys .takeSignals
  if !new.isEmpty then
    modify fun s => { s with arrived := s.arrived ++ new }
    if new.contains Signal.int && ((← get).trap? Signal.int).isNone then dieOfInterrupt

/-! ## Children -/

/-- Forget what concerns the parent alone: a new process has no jobs, and what was run when
signals came is not run in it. A process that does nothing but list the traps still lists them. -/
def startChild (listsTraps : Bool) : Running Unit := do
  let s ← get
  let (held, kept) := s.traps.partition (!·.action.isEmpty)
  set { s with
    isRoot := false, jobs := [], arrived := [], traps := kept
    formerTraps := if listsTraps then some s.traps else none }
  held.forM fun t => if t.signal = 0 then pure () else adjust t.signal

/-- Start a process, in which no signal is blocked: nothing comes back in the child, its number in
the parent. -/
def fork : Running (Option Pid) := do
  match ← sys .fork with
  | .error _ => failText "Cannot fork"
  | .ok child =>
      sys (.setMask [])
      return child

/-- Run something in a process of its own, which has to end there; the reply is its number. -/
def inChild (listsTraps : Bool) (act : Running Empty) : Running Pid := do
  match ← fork with
  | some pid => return pid
  | none =>
      startChild listsTraps
      return (← act).elim

/-- The status that the end of a child gives. -/
def statusOf : WaitStatus → Nat
  | .exited code => code
  | .killed s | .stopped s => 128 + s.toNat
  | .unknown => 0

/-- Tell how a child ended, if a signal ended it that is worth telling about. -/
def tellDeath (status : WaitStatus) : Running Unit :=
  match status.endSignal? with
  | some s =>
      if s = Signal.int || s = Signal.pipe then return
      else lift (Program.complain (SignalName.text s.toNat ++ "\n"))
  | none => return

/-- Wait for a child to end, whatever signals come. -/
def awaitChild (pid : Pid) : (fuel : Nat) → Running (Option WaitStatus)
  | 0 => return none
  | fuel + 1 => do
      match ← sys (.wait pid {} none) with
      | .ok status => return status
      | .error e => if e = .interrupted then awaitChild pid fuel else return none

/-! ## Jobs -/

/-- What has become of the members of a job, as far as that is known at once. -/
def updated (j : ScriptJob) : Running ScriptJob := do
  let members ← j.members.mapM fun (pid, status) => do
    match status with
    | some status => return (pid, some status)
    | none =>
        match ← sys (.wait pid { noHang := true } none) with
        | .ok status => return (pid, status)
        | .error _ => return (pid, some (WaitStatus.exited 127))
  return { j with members }

/-- Learn which processes in the background have ended. -/
def reap : Running Unit := do
  if (← get).jobs.any (!·.isDone) then
    let jobs ← (← get).jobs.mapM updated
    modify fun s => { s with jobs }

/-- Wait for children in the foreground one after another; the status is that of the last one. -/
def awaitAll (pids : List Pid) : Running Nat := do
  let statuses ← pids.mapM fun pid => do
    let status ← awaitChild pid Program.patience
    status.forM tellDeath
    return (status.map statusOf).getD 127
  reap
  return statuses.getLast?.getD 0

/-- The first number that no job needs, and the jobs without the one that has it. A job that is done
and was waited for is needed no more. -/
def slot (jobs : List ScriptJob) : Nat × List ScriptJob :=
  let isFree (n : Nat) : Bool :=
    jobs.all fun j => j.number ≠ n || (j.isDone && j.waited)
  let n := ((List.range jobs.length).map (· + 1)).find? isFree |>.getD (jobs.length + 1)
  (n, jobs.filter (·.number ≠ n))

/-- Make room for a job that is about to be started. -/
def claim : Running Nat := do
  let (number, jobs) := slot (← get).jobs
  modify fun s => { s with jobs }
  return number

/-- Remember processes that were started in the background. -/
def remember (number : Nat) (pids : List Pid) : Running Unit :=
  modify fun s => { s with
    jobs := { number, members := pids.map (·, none) } :: s.jobs
    lastChild := pids.getLast? }

/-- The job that a word stands for. -/
def jobFor (word : Option Bytes) : Running ScriptJob := do
  let jobs := (← get).jobs
  let noSuch : Running ScriptJob := fail (Bytes.ofText "No such job: " ++ word.getD [])
  let current : Running ScriptJob :=
    match jobs with
    | j :: _ => return j
    | [] => failText "No current job"
  match word with
  | none => current
  | some (37 :: name) =>
      if name.isEmpty || name = [43] || name = [37] then current
      else if name = [45] then
        match jobs with
        | _ :: j :: _ => return j
        | _ => failText "No previous job"
      else match Bytes.decimal? name with
        | some n =>
            match jobs.find? (·.number = n) with
            | some j => return j
            | none => noSuch
        | none => noSuch
  | some _ => noSuch

/-! ## Waiting in a script -/

/-- Wait for the members of a job; the reply tells whether no signal came in between. -/
def awaitJob (j : ScriptJob) : Running Bool := do
  let rec await : List Pid → Running Bool
    | [] => return true
    | pid :: rest => do
        let known := ((← get).jobs.find? (·.number = j.number)).any fun j =>
          j.members.any fun (q, status) => q = pid && status.isSome
        if known then await rest
        else match ← sys (.wait pid {} none) with
          | .error e =>
              if e = .interrupted then
                noteSignals
                return false
              else await rest
          | .ok status =>
              modify fun s => { s with
                jobs := s.jobs.map fun j => { j with
                  members := j.members.map fun m => if m.1 = pid then (pid, status) else m } }
              await rest
  await (j.members.map (·.1))

/-- The status of a wait that a signal cut short. -/
def cutShort : Running Nat := do
  return 128 + ((← get).arrived.getLast?.getD 0).toNat

def markWaited (number : Nat) : Running Unit :=
  modify fun s => { s with
    jobs := s.jobs.map fun j => if j.number = number then { j with waited := true } else j }

/-- Wait for the jobs that words stand for; `status` is that of the one before. -/
def waitEach : List Bytes → (status : Nat) → Running Nat
  | [], status => return status
  | word :: rest, status => do
      let job ← if word.head? = some 37 then pure (some (← jobFor (some word)))
        else do
          let pid ← number word
          pure ((← get).jobs.find? fun j => j.last.1 = (pid : Int))
      match job with
      | none => waitEach rest status
      | some j =>
          let before := j.members.filter (·.2.isNone)
          if ← awaitJob j then
            let j := ((← get).jobs.find? (·.number = j.number)).getD j
            (j.members.filter fun m => before.any (·.1 = m.1)).forM fun m => m.2.forM tellDeath
            markWaited j.number
            waitEach rest ((j.last.2.map statusOf).getD 127)
          else cutShort

/-- Wait for all jobs. -/
def waitForJobs : List ScriptJob → Running Nat
  | [] => return 0
  | j :: rest => do
      if ← awaitJob j then
        markWaited j.number
        waitForJobs rest
      else cutShort

/-- What is shown of a job; `mark` tells its place among the others. -/
def jobLine (j : ScriptJob) (mark : String) (withPids : Bool) : Bytes :=
  let text := match j.last.2 with
    | none => "Running"
    | some (.exited 0) => "Done"
    | some (.exited code) => "Done(" ++ toString code ++ ")"
    | some (.killed s) => SignalName.text s.toNat
    | some _ => "Stopped"
  let front (body : String) : Bytes :=
    let line := Bytes.ofText body
    line ++ List.replicate (33 - line.length) Bytes.space
  let pids := j.members.map fun m => toString m.1 ++ " "
  let head := "[" ++ toString j.number ++ "] " ++ mark ++ " "
  if withPids then
    match pids with
    | first :: others =>
        front (head ++ first ++ text) ++ (others.map fun pid =>
          Bytes.ofText (" |\n" ++ String.ofList (List.replicate head.length ' ') ++ pid)).flatten ++
          [Bytes.newline]
    | [] => []
  else front (head ++ text) ++ [Bytes.newline]

/-- Show jobs, and forget those that are done. -/
def showJobs (letters : List Char) (words : List Bytes) : Running Nat := do
  reap
  let all := (← get).jobs
  let shown ← if words.isEmpty then pure all else words.mapM fun w => jobFor (some w)
  let line (j : ScriptJob) : Bytes :=
    let mark := if (all.head?.map (·.number)) = some j.number then "+"
      else if (all[1]?.map (·.number)) = some j.number then "-" else " "
    if letters.contains 'p' then
      Bytes.ofText (toString ((j.members.head?.map (·.1)).getD 0) ++ "\n")
    else jobLine j mark (letters.contains 'l')
  let status ← write (shown.map line).flatten
  if !letters.contains 'p' then
    modify fun s => { s with jobs := s.jobs.filter fun j =>
      !(j.isDone && shown.any (·.number = j.number)) }
  return status

/-! ## Sending signals -/

def killUsage : String :=
  "Usage: kill [-s sigspec | -signum | -sigspec] [pid | job]... or\nkill -l [exitstatus]"

/-- Send a signal to each process that is named. -/
def killEach (s : Signal) : List Bytes → (status : Nat) → Running Nat
  | [], status => return status
  | word :: rest, status => do
      let pid : Int ← match word with
        | 37 :: _ => do pure (-(((← jobFor (some word)).members.head?.map (·.1)).getD 0))
        | 45 :: digits => do pure (-((← number digits) : Int))
        | digits => do pure ((← number digits) : Int)
      match ← sys (.kill pid s) with
      | .ok () => killEach s rest status
      | .error e =>
          complainText (e.text ++ "\n")
          killEach s rest 1

/-- The names of all signals, or of one that a status tells. -/
def listSignals : List Bytes → Running Nat
  | [] => writeText ("0\n" ++ String.join
      (((List.range SignalName.greatest).map fun n => SignalName.ofNat (n + 1) ++ "\n")))
  | word :: _ => do
      let n ← number word
      let n := if 128 < n then n - 128 else n
      if 0 < n && n ≤ SignalName.greatest then writeText (SignalName.ofNat n ++ "\n")
      else fail (Bytes.ofText "invalid signal number or exit status: " ++ word)

/-- Send a signal that a word names. -/
def killBy (word : Bytes) (pids : List Bytes) : Running Nat := do
  match SignalName.number? 1 word with
  | none => fail (Bytes.ofText "invalid signal number or name: " ++ word)
  | some s => if pids.isEmpty then failText killUsage else killEach s pids 0

def runKill (arguments : List Bytes) : Running Nat := do
  let spec := match arguments with
    | (45 :: spec) :: rest => (SignalName.number? 1 spec).map fun n => (n, rest)
    | _ => none
  match spec with
  | some (s, pids) => if pids.isEmpty then failText killUsage else killEach s pids 0
  | none =>
      let (options, pids) ← options { plain := "l", valued := "s" } arguments
      if options.any (·.1 = 'l') then listSignals pids
      else match options.findRev? (·.1 = 's') with
        | some (_, word) => killBy word pids
        | none => if pids.isEmpty then failText killUsage else killEach Signal.term pids 0

end JobShell.Machine.Running
