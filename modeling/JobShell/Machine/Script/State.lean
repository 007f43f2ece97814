import JobShell.Machine.Numeral
import JobShell.Machine.Program
import JobShell.Machine.Script.Reader

/-!
# The state of a script

What a running script remembers, and the ways to leave a command early.
-/

namespace JobShell.Machine

/-- A variable: its value, if it has one, and whether programs see it and whether it can change. -/
structure Variable where
  value : Option Bytes := none
  exported : Bool := false
  readonly : Bool := false
deriving DecidableEq, Repr

/-- Processes in the background that were started together, with their ends as far as these are
known. -/
structure ScriptJob where
  number : Nat
  members : List (Pid × Option WaitStatus)
  /-- Whether somebody has waited for it. -/
  waited : Bool := false
deriving DecidableEq, Repr

namespace ScriptJob

def isDone (j : ScriptJob) : Bool := j.members.all (·.2.isSome)

/-- The process whose status counts. -/
def last (j : ScriptJob) : Pid × Option WaitStatus := j.members.getLast?.getD (0, none)

end ScriptJob

/-- A caught signal, or 0 for the end of the script, and what is run then; an empty text means that
the signal is ignored. -/
structure Trap where
  signal : Signal
  action : Bytes
deriving DecidableEq, Repr

/-- What a script remembers from one command to the next. -/
structure ScriptState where
  /-- The name under which messages are written. -/
  name : Bytes
  positional : List Bytes := []
  bindings : List (Bytes × Variable) := []
  /-- The functions, each with the line on which it starts. -/
  definitions : List (Bytes × Nat × Script) := []
  documents : Array Word := #[]
  aliases : List (Bytes × Bytes) := []
  /-- The programs that were found before. -/
  hashed : List (Bytes × Bytes) := []
  /-- The letters of the options that are on. -/
  options : List Char := []
  traps : List Trap := []
  /-- The traps of the process before, as long as they are still listed. -/
  formerTraps : Option (List Trap) := none
  /-- What is known to be done about signals; nothing is changed about a signal that was ignored
  when the script was started, for which there is no disposition. -/
  modes : List (Signal × Option Disposition) := []
  /-- Caught signals that have not been dealt with. -/
  arrived : List Signal := []
  /-- The status of the last command. -/
  status : Nat := 0
  /-- The status of the last command inside a word. -/
  innerStatus : Nat := 0
  /-- The status before a trap. -/
  statusBefore : Option Nat := none
  line : Nat := 1
  /-- The line on which the function starts that is being run, if there is one. -/
  functionLine : Option Nat := none
  /-- The command on whose behalf messages are written. -/
  command : Option Bytes := none
  pid : Pid := 0
  /-- The process in the background that was started last. -/
  lastChild : Option Pid := none
  jobs : List ScriptJob := []
  /-- How many loops are being run. -/
  loops : Nat := 0
  /-- How many functions are being run. -/
  depth : Nat := 0
  /-- What variables were before they became local, the last ones first. -/
  frames : List (List (Bytes × Option Variable)) := []
  /-- Whether the process is the one that was started to run the script. -/
  isRoot : Bool := true
  /-- Whether an interrupt waits until the command has ended. -/
  catchesInterrupt : Bool := false
  directory : Bytes := []
  /-- The next argument that `getopts` looks at, and how far it is in it. -/
  optionIndex : Nat := 1
  optionOffset : Nat := 0

namespace ScriptState

def binding? (s : ScriptState) (name : Bytes) : Option Variable := s.bindings.lookup name

/-- The value of a variable. -/
def lookup? (s : ScriptState) (name : Bytes) : Option Bytes :=
  (s.binding? name).bind (·.value)

/-- The line that a script sees, which is counted from the start of its function. -/
def shownLine (s : ScriptState) : Nat := s.line - (s.functionLine.getD 1 - 1)

def lookup (s : ScriptState) (name : Bytes) : Bytes := (s.lookup? name).getD []

/-- Let a name stand for a variable; names keep the order in which they came. -/
def bind (s : ScriptState) (name : Bytes) (v : Variable) : ScriptState :=
  { s with
    bindings := if s.bindings.any (·.1 = name)
      then s.bindings.map fun b => if b.1 = name then (name, v) else b
      else s.bindings ++ [(name, v)] }

def unbind (s : ScriptState) (name : Bytes) : ScriptState :=
  { s with bindings := s.bindings.filter (·.1 ≠ name) }

def isOn (s : ScriptState) (letter : Char) : Bool := s.options.contains letter

def optionIndexName : Bytes := Bytes.ofText "OPTIND"

/-- Give a variable a value. It is seen by programs if it was before, or if every variable is. -/
def assign (s : ScriptState) (name value : Bytes) (exported : Bool := false) : ScriptState :=
  let old := (s.binding? name).getD {}
  let s := s.bind name { old with
    value := some value, exported := old.exported || exported || s.isOn 'a' }
  if name = optionIndexName then
    { s with optionIndex := (Bytes.decimal? value).getD 1, optionOffset := 0 }
  else s

def isReadonly (s : ScriptState) (name : Bytes) : Bool :=
  ((s.binding? name).map (·.readonly)).getD false

/-- The place of a name among the variables that programs see. -/
def place (name : Bytes) : Nat :=
  (name.foldl (fun n b => n + b.toNat) ((name.headD 0).toNat * 16)) % 39

/-- What programs see of the variables. -/
def environment (s : ScriptState) : Environment :=
  (s.bindings.filterMap fun (name, v) =>
    if v.exported then v.value.map fun value => (name, value) else none).mergeSort
      fun a b => decide (place a.1 ≤ place b.1)

def trap? (s : ScriptState) (signal : Signal) : Option Bytes :=
  (s.traps.find? (·.signal = signal)).map (·.action)

/-- Whether something is run when a signal comes, or at the end. -/
def hasTraps (s : ScriptState) : Bool := s.traps.any (!·.action.isEmpty)

/-- The separators of fields. -/
def separators (s : ScriptState) : Bytes :=
  match s.binding? (Bytes.ofText "IFS") with
  | some { value := some text, .. } => text
  | _ => [Bytes.space, Bytes.tab, Bytes.newline]

end ScriptState

/-- A way to leave a command early. -/
inductive Leave
  /-- Something failed; it has been told. -/
  | failure
  /-- Leave the script with the status that was given, or that of the command before. -/
  | exit
  /-- Leave the script at once, with the status of the last command. -/
  | halt
  /-- Leave a number of loops. -/
  | leaveLoops (n : Nat)
  /-- Start the next round of a loop, leaving those inside it. -/
  | nextRound (n : Nat)
  /-- Leave a function, or a script that is read by another one; the flag tells whether a status was
  given. -/
  | return (given : Bool)
deriving DecidableEq, Repr

/-- A part of a script as it runs. -/
abbrev Running := ExceptT Leave (StateT ScriptState Program)

namespace Running

/-- Make a system call. -/
def sys (c : SystemCall) : Running c.Reply := ExceptT.lift (StateT.lift (Program.call c))

def lift {α : Type} (p : Program α) : Running α := ExceptT.lift (StateT.lift p)

def setStatus (n : Nat) : Running Unit := modify ({ · with status := n })

/-- Write a message behind the name of the script, the line and the command. -/
def complain (message : Bytes) : Running Unit := do
  let s ← get
  let command := (s.command.map fun name => name ++ Bytes.ofText ": ").getD []
  lift (Program.complainBytes
    (s.name ++ Bytes.ofText (": " ++ toString s.line ++ ": ") ++ command ++ message ++
      [Bytes.newline]))

def complainText (message : String) : Running Unit := complain (Bytes.ofText message)

/-- Write a message and give up the command. -/
def fail {α : Type} (message : Bytes) : Running α := do
  complain message
  setStatus 2
  throw .failure

def failText {α : Type} (message : String) : Running α := fail (Bytes.ofText message)

def illegalNumber {α : Type} (text : Bytes) : Running α :=
  fail (Bytes.ofText "Illegal number: " ++ text)

/-- Give a variable a value unless it must not change. -/
def assign (name value : Bytes) (exported : Bool := false) : Running Unit := do
  if (← get).isReadonly name then fail (name ++ Bytes.ofText ": is read only")
  else modify (·.assign name value exported)

/-- Do something, and something else behind it however it was left. -/
def finally_ {α : Type} (act : Running α) (after : Running Unit) : Running α := do
  let a ← tryCatch act fun leave => do
    after
    throw leave
  after
  return a

/-- Write to standard output on behalf of a command. -/
def write (out : Bytes) : Running Nat := do
  if out.isEmpty then return 0
  match ← sys (.write 1 out) with
  | .ok () => return 0
  | .error _ =>
      let name := (← get).command.getD []
      complain (name ++ Bytes.ofText ": I/O error")
      return 1

def writeText (s : String) : Running Nat := write (Bytes.ofText s)

/-- A whole number in decimal that is not negative. -/
def number (text : Bytes) : Running Nat := do
  match Numeral.number? true text with
  | some n => if 0 ≤ n && n ≤ 2147483647 then return n.toNat else illegalNumber text
  | none => illegalNumber text

/-! ## Options of commands -/

/-- The options that a command understands: those that stand alone and those with a value. -/
structure Letters where
  plain : String := ""
  valued : String := ""
deriving DecidableEq, Repr

/-- Read a group of options behind its hyphen, and the value of the last one if it takes one. -/
def optionGroup (l : Letters) : Bytes → List Bytes →
    Running (List (Char × Bytes) × List Bytes)
  | [], arguments => return ([], arguments)
  | b :: more, arguments => do
      let c := Char.ofNat b.toNat
      if l.plain.toList.contains c then
        let (others, arguments) ← optionGroup l more arguments
        return ((c, []) :: others, arguments)
      else if l.valued.toList.contains c then
        match more, arguments with
        | [], [] => fail (Bytes.ofText "No arg for -" ++ b :: Bytes.ofText " option")
        | [], value :: arguments => return ([(c, value)], arguments)
        | more, arguments => return ([(c, more)], arguments)
      else fail (Bytes.ofText "Illegal option -" ++ [b])

/-- Read the options in front of some arguments; `fuel` bounds the groups. -/
def optionsWithin (l : Letters) : (fuel : Nat) → List Bytes →
    Running (List (Char × Bytes) × List Bytes)
  | 0, arguments => return ([], arguments)
  | fuel + 1, arguments => do
      match arguments with
      | (45 :: b :: more) :: rest =>
          if b :: more = [45] then return ([], rest)
          let (found, rest) ← optionGroup l (b :: more) rest
          let (others, rest) ← optionsWithin l fuel rest
          return (found ++ others, rest)
      | _ => return ([], arguments)

/-- The options in front of some arguments, and the arguments behind them. -/
def options (l : Letters) (arguments : List Bytes) :
    Running (List (Char × Bytes) × List Bytes) :=
  optionsWithin l (arguments.length + 1) arguments

end Running

end JobShell.Machine
