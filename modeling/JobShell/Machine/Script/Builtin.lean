import JobShell.Machine.Printing
import JobShell.Machine.Script.Children
import JobShell.Machine.Script.Condition
import JobShell.Machine.Script.Directory
import JobShell.Machine.Script.Lookup
import JobShell.Machine.Script.OptionLetter
import JobShell.Machine.Script.Variables

/-!
# Commands that the interpreter runs itself

Each gives the status of the command. Those that run commands in turn belong to the interpreter.

Results:
1. The examples behind `symbolicMode?`: modes are changed as letters say.
-/

namespace JobShell.Machine

/-! ## Masks of modes -/

namespace ModeChange

/-- The bits of a class of users among the nine bits of a mode. -/
def classBits (b : UInt8) : Nat :=
  if b = 117 then 0o700 else if b = 103 then 0o070 else if b = 111 then 0o007
  else if b = 97 then 0o777 else 0

/-- The bits of a permission for all users. -/
def permissionBits (b : UInt8) : Nat :=
  if b = 114 then 0o444 else if b = 119 then 0o222 else if b = 120 then 0o111 else 0

def gather (bits : UInt8 → Nat) (letters : Bytes) : Nat :=
  letters.foldl (fun n b => n ||| bits b) 0

/-- Change a mode as one clause says: users, an operator, and permissions. -/
def clause? (mode : Nat) (text : Bytes) : Option Nat :=
  let isUser (b : UInt8) : Bool := classBits b ≠ 0
  let users := text.takeWhile isUser
  let who := if users.isEmpty then 0o777 else gather classBits users
  match text.drop users.length with
  | op :: letters =>
      if !letters.all (permissionBits · ≠ 0) then none
      else
        let bits := gather permissionBits letters &&& who
        if op = 43 then some (mode ||| bits)
        else if op = 45 then some (mode &&& (0o777 ^^^ bits))
        else if op = 61 then some ((mode &&& (0o777 ^^^ who)) ||| bits)
        else none
  | [] => none

/-- A mode that is changed by clauses between commas. -/
def symbolicMode? (mode : Nat) (text : Bytes) : Option Nat :=
  (Bytes.splitOn 44 text).foldlM clause? mode

example : symbolicMode? 0o644 (Bytes.ofText "u+x,g=rw") = some 0o764 := by decide
example : symbolicMode? 0o644 (Bytes.ofText "z") = none := by decide

/-- The bits of a class as letters. -/
def letters (bits : Nat) : String :=
  (if bits / 4 % 2 = 1 then "r" else "") ++ (if bits / 2 % 2 = 1 then "w" else "") ++
    (if bits % 2 = 1 then "x" else "")

def octal (n : Nat) : String := String.ofList (Nat.toDigits 8 n)

end ModeChange

namespace Running

open ModeChange in
def runUmask (arguments : List Bytes) : Running Nat := do
  let (options, words) ← options { plain := "S" } arguments
  let mask ← sys .umask
  let shown := 0o777 &&& (0o777 ^^^ mask)
  match words with
  | [] =>
      if options.isEmpty then
        let text := octal mask
        writeText (String.ofList (List.replicate (4 - text.length) '0') ++ text ++ "\n")
      else
        writeText ("u=" ++ letters (shown / 64 % 8) ++ ",g=" ++ letters (shown / 8 % 8) ++ ",o=" ++
          letters (shown % 8) ++ "\n")
  | word :: _ =>
      if (word.head?.map Bytes.isDigit).getD false then
        let (n, rest) := Numeral.digits 8 word
        if !rest.isEmpty || 0o7777 < n then illegalNumber word
        sys (.setUmask (n &&& 0o777))
        return 0
      else match symbolicMode? shown word with
        | some mode =>
            sys (.setUmask (0o777 ^^^ mode))
            return 0
        | none => fail (Bytes.ofText "Illegal mode: " ++ word)

def runUlimit (arguments : List Bytes) : Running Nat := do
  let (options, words) ← options { plain := "HSatfdscmlpnvwr" } arguments
  if !words.isEmpty then return 0
  else
    let letter := ((options.map (·.1)).filter fun c => c ≠ 'H' && c ≠ 'S').getLast?.getD 'f'
    writeText (if letter = 'c' then "0\n" else if letter = 's' then "8192\n"
      else if letter = 'n' then "1024\n" else "unlimited\n")

/-! ## Aliases, programs and traps -/

def runAlias (arguments : List Bytes) : Running Nat := do
  let s ← get
  let line (a : Bytes × Bytes) : Bytes := a.1 ++ 61 :: quoted a.2 ++ [Bytes.newline]
  if arguments.isEmpty then write (s.aliases.map line).flatten
  else
    let statuses ← arguments.mapM fun word => do
      let (name, value) := nameAndValue word
      match value, (← get).aliases.lookup word with
      | some value, _ =>
          modify fun s => { s with aliases := (name, value) :: s.aliases.filter (·.1 ≠ name) }
          return 0
      | none, some value => write (line (word, value))
      | none, none =>
          lift (Program.complainBytes
            (Bytes.ofText "alias: " ++ word ++ Bytes.ofText " not found\n"))
          return 1
    return statuses.foldl (· ||| ·) 0

def runUnalias (arguments : List Bytes) : Running Nat := do
  let (options, names) ← options { plain := "a" } arguments
  if !options.isEmpty then
    modify ({ · with aliases := [] })
    return 0
  else
    let statuses ← names.mapM fun name => do
      let known := (← get).aliases
      if (known.lookup name).isNone then
        lift (Program.complainBytes
          (Bytes.ofText "unalias: " ++ name ++ Bytes.ofText " not found\n"))
        return 1
      else
        modify ({ · with aliases := known.filter (·.1 ≠ name) })
        return 0
    return statuses.foldl (· ||| ·) 0

def runHash (arguments : List Bytes) : Running Nat := do
  let (options, names) ← options { plain := "rv" } arguments
  if options.any (·.1 = 'r') then
    modify ({ · with hashed := [] })
    return 0
  else if names.isEmpty then
    write ((← get).hashed.map fun (_, path) => path ++ [Bytes.newline]).flatten
  else
    let statuses ← names.mapM fun name => do
      match ← commandKind name true with
      | .program =>
          match ← findProgram name (← searchPath) with
          | .ok path =>
              modify fun s => { s with hashed := s.hashed.filter (·.1 ≠ name) ++ [(name, path)] }
              return 0
          | .error e =>
              complain (name ++ Bytes.ofText (": " ++ Redirect.reason "not found" e))
              return 1
      | _ => return 0
    return statuses.foldl (· ||| ·) 0

/-- Set what is run for some signals. -/
def setTraps (action : Option Bytes) : List Bytes → Running Nat
  | [] => return 0
  | word :: rest => do
      match SignalName.number? 0 word with
      | none =>
          complain (word ++ Bytes.ofText ": bad trap")
          return 1
      | some n =>
          let signal : Signal := n
          modify fun s =>
            let others := s.traps.filter (·.signal ≠ signal)
            { s with
              traps := match action with
                | some action => { signal, action } :: others
                | none => others
              formerTraps := none }
          if n ≠ 0 then adjust signal
          setTraps action rest

def runTrap (arguments : List Bytes) : Running Nat := do
  let (_, words) ← options {} arguments
  match words with
  | [] =>
      let s ← get
      let shown := (s.formerTraps.getD s.traps).mergeSort fun a b => decide (a.signal ≤ b.signal)
      write (shown.map fun t => Bytes.ofText "trap -- " ++ quoted t.action ++
        Bytes.ofText (" " ++ SignalName.ofNat t.signal.toNat ++ "\n")).flatten
  | [word] => setTraps none [word]
  | first :: rest =>
      if ((Bytes.decimal? first).bind fun _ => SignalName.number? 0 first).isSome then
        setTraps none words
      else setTraps (if first = [45] then none else some first) rest

/-! ## The other commands -/

def runPrintf (arguments : List Bytes) : Running Nat := do
  match (← options {} arguments).2 with
  | [] => failText "usage: printf format [arg ...]"
  | pattern :: arguments =>
      let f := Printing.format Printing.scriptDialect pattern arguments
      f.complaints.forM fun complaint =>
        match complaint with
        | .notNumeric word => complain (word ++ Bytes.ofText ": expected numeric value")
        | .notWhole word => complain (word ++ Bytes.ofText ": not completely converted")
        | .outOfRange word => complain (word ++ Bytes.ofText ": Numerical result out of range")
      match f.broken with
      | none =>
          let status ← write f.text
          return if f.complaints.isEmpty then status else 1
      | some (text, ended) =>
          complain (if ended then Bytes.ofText "missing format character"
            else text ++ Bytes.ofText ": invalid directive")
          discard <| write f.text
          setStatus 2
          throw .failure

def runTest (words : List Bytes) : Running Nat := do
  return if ← Condition.evaluate words then 0 else 1

/-- Leave a number of loops, or start the next round of one. -/
def runLoopExit (leave : Nat → Leave) (arguments : List Bytes) : Running Nat := do
  let n ← match arguments with
    | [] => pure 1
    | word :: _ => do
        let n ← number word
        if n = 0 then illegalNumber word else pure n
  let n := min n (← get).loops
  if n = 0 then return 0
  else
    setStatus 0
    throw (leave n)

def runShift (arguments : List Bytes) : Running Nat := do
  let n ← match arguments with
    | [] => pure 1
    | word :: _ => number word
  let s ← get
  if s.positional.length < n then failText "can't shift that many"
  else
    set { s with positional := s.positional.drop n, optionIndex := 1, optionOffset := 0 }
    return 0

def runSet (arguments : List Bytes) : Running Nat := do
  if arguments.isEmpty then showVariables [] (·.value.isSome)
  else
    let rest ← OptionLetter.read false arguments
    if rest.replaces || !rest.arguments.isEmpty then
      modify ({ · with positional := rest.arguments, optionIndex := 1, optionOffset := 0 })
    return 0

def runReturn (arguments : List Bytes) : Running Nat := do
  match arguments with
  | [] => throw (.return false)
  | word :: _ =>
      setStatus (← number word)
      throw (.return true)

def runExit (arguments : List Bytes) : Running Nat := do
  match arguments with
  | [] => throw .exit
  | word :: _ =>
      let n ← number word
      modify ({ · with statusBefore := some n })
      throw .exit

/-- Move a job between foreground and background, which takes jobs of a terminal. -/
def runMove (arguments : List Bytes) : Running Nat := do
  let (_, words) ← options {} arguments
  let j ← jobFor words.head?
  let name := words.head?.getD (Bytes.ofText ("%" ++ toString j.number))
  fail (Bytes.ofText "job " ++ name ++ Bytes.ofText " not created under job control")

/-- Run a command that runs no other ones. -/
def runBuiltin (b : ScriptBuiltin) (arguments : List Bytes) : Running Nat := do
  match b with
  | .colon | .true | .eval | .source | .exec | .command => return 0
  | .false => return 1
  | .echo => write (Printing.scriptEchoText arguments)
  | .printf => runPrintf arguments
  | .test => runTest arguments
  | .bracket =>
      if (arguments.getLast?.bind (·.head?)) = some 93 then runTest arguments.dropLast
      else failText "missing ]"
  | .cd => runCd arguments
  | .pwd => runPwd arguments
  | .read => runRead arguments
  | .getopts => runGetopts arguments
  | .export => runMark "export" true false arguments
  | .readonly => runMark "readonly" false true arguments
  | .local => runLocal arguments
  | .unset => runUnset arguments
  | .set => runSet arguments
  | .shift => runShift arguments
  | .trap => runTrap arguments
  | .alias => runAlias arguments
  | .unalias => runUnalias arguments
  | .hash => runHash arguments
  | .type => describeEach (← searchPath) arguments 0
  | .umask => runUmask arguments
  | .ulimit => runUlimit arguments
  | .times => writeText "0m0.000000s 0m0.000000s\n0m0.000000s 0m0.000000s\n"
  | .kill => runKill arguments
  | .wait =>
      let (_, words) ← options {} arguments
      if words.isEmpty then waitForJobs (← get).jobs else waitEach words 127
  | .jobs =>
      let (letters, words) ← options { plain := "lp" } arguments
      showJobs (letters.map (·.1)) words
  | .toForeground | .toBackground => runMove arguments
  | .leave => runLoopExit .leaveLoops arguments
  | .next => runLoopExit .nextRound arguments
  | .return => runReturn arguments
  | .exit => runExit arguments

end Running

end JobShell.Machine
