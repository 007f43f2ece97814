import JobShell.Machine.Decimal
import JobShell.Machine.Printing
import JobShell.Machine.Script.SignalName
import JobShell.Machine.Utility.Report

/-!
# Utilities that run other programs

`env`, `nohup`, `setsid`, `timeout`, `nice` and `xargs`, each of which changes something before it
becomes or starts another program, and `sleep`, which waits.

Results:
1. The examples at the end: intervals with and without fraction and unit, and items.
-/

namespace JobShell.Machine.Wrapping

open Program Report

/-! ## Intervals -/

/-- The factors of the units of time. -/
def unit? (b : UInt8) : Option Nat :=
  [((115 : UInt8), 1), (109, 60), (104, 3600), (100, 86400)].lookup b

/-- More milliseconds than anybody waits. -/
def endless : Nat := 1000000000000000

/-- A number of seconds, possibly with a fraction and a unit, in milliseconds. -/
def milliseconds? (word : Bytes) : Option Nat :=
  let (number, factor) := match word.getLast?.bind unit? with
    | some factor => (word.dropLast, factor)
    | none => (word, 1)
  let text := Bytes.ofText
  if [text "inf", text "infinity"].contains (number.map fun b => b ||| 32) then some endless
  else
    let value : Option Decimal := match number with
      | 48 :: 120 :: rest =>
          let (n, after) := Numeral.digits 16 rest
          if after.isEmpty && !rest.isEmpty then some { above := n } else none
      | number => Decimal.ofText? number
    value.bind fun x =>
      if x.negative && x.above ≠ 0 then none
      else some (min endless (Decimal.nearest (x.above * 1000 * factor) x.below))

def invalidInterval (word : Bytes) : Bytes :=
  Bytes.ofText "invalid time interval " ++ Quoting.plain word

/-- Sleep for as long as all arguments together say. -/
def sleep (c : Caller) (arguments : List Bytes) : Program Nat :=
  c.withArguments {} arguments fun a => do
    if a.operands.isEmpty then c.refuseText "missing operand"
    else
      match a.operands.filter fun w => (milliseconds? w).isNone with
      | [] =>
          let now ← call .clock
          call (.sleepUntil (now + (a.operands.filterMap milliseconds?).foldl Nat.add 0))
          return 0
      | wrong =>
          wrong.forM fun w => c.say (invalidInterval w)
          c.sayHelp
          return c.failure

/-! ## Becoming another program -/

/-- The exit code for a program that cannot be run. -/
def missingCode (e : Errno) : Nat := if e = .noEntry then 127 else 126

/-- Become the program that some words name, or tell why not. -/
def become (c : Caller) (what : String) (argv : List Bytes) (environment : Environment) :
    Program Nat := do
  let e ← executeNamed argv environment
  discard <| c.fail what (Quoting.plain (argv.headD [])) e
  return missingCode e

def named (name value : Bytes) : Bytes := name ++ 61 :: value

/-- Change an environment as an assignment says. -/
def assigned (environment : Environment) (setting : Bytes) : Environment :=
  let name := setting.takeWhile (· ≠ 61)
  let value := setting.drop (name.length + 1)
  if environment.any (·.1 = name) then
    environment.map fun (n, v) => if n = name then (n, value) else (n, v)
  else environment ++ [(name, value)]

def envOptions : OptionTable where
  plain := "i0v"
  valued := "uC"
  words := [("ignore-environment", 'i'), ("null", '0'), ("unset", 'u'), ("chdir", 'C'),
    ("debug", 'v')]
  ordered := true

def env (c : Caller) (arguments : List Bytes) : Program Nat :=
  c.withArguments envOptions arguments fun a => do
    let (bare, operands) := match a.operands with
      | [45] :: rest => (true, rest)
      | rest => (a.has 'i', rest)
    let start ← if bare then pure [] else call .environment
    let unset := a.options.filterMap fun (letter, name) => if letter = 'u' then some name else none
    let start := start.filter fun (name, _) => !unset.contains name
    let settings := operands.takeWhile (·.contains 61)
    let environment := settings.foldl assigned start
    let argv := operands.drop settings.length
    let moved ← match a.value? 'C' with
      | none => pure (.ok ())
      | some directory => call (.changeDirectory directory)
    if a.has '0' && !argv.isEmpty then
      return ← c.refuseText "cannot specify --null (-0) with command"
    match moved, argv with
    | .error e, _ =>
        discard <| c.fail "cannot change directory to " (Quoting.shell ((a.value? 'C').getD [])) e
        return c.failure
    | .ok (), [] =>
        let ending : Bytes := if a.has '0' then [0] else [Bytes.newline]
        c.finish (environment.flatMap fun (name, value) => named name value ++ ending)
    | .ok (), argv => become c "" argv environment

/-- An adjustment that is an option of its own, such as `-5` or `--5`, is spelled out. -/
def spellAdjustment : List Bytes → List Bytes
  | (45 :: rest) :: others =>
      let body := match rest with
        | 45 :: digits | 43 :: digits => digits
        | digits => digits
      if (body.head?.map Bytes.isDigit).getD false then [45, 110] :: rest :: others
      else (45 :: rest) :: others
  | arguments => arguments

def nice (c : Caller) (arguments : List Bytes) : Program Nat :=
  c.withArguments { valued := "n", words := [("adjustment", 'n')], ordered := true }
    (spellAdjustment arguments) fun a => do
      if let some n := (a.value? 'n').filter fun n => (Numeral.number? true n).isNone then
        return ← c.abort (Bytes.ofText "invalid adjustment " ++ Quoting.plain n)
      match a.operands with
      | [] =>
          if a.has 'n' then c.refuseText "a command must be given with an adjustment"
          else c.finish (Bytes.ofText "0\n")
      | argv => become c "" argv (← call .environment)

/-- Point a descriptor to a file. -/
def point (fd : Nat) (file : Bytes) (mode : OpenMode) : Program (Except Errno Unit) := do
  match ← call (.openFile file mode) with
  | .error e => return .error e
  | .ok opened =>
      if opened ≠ fd then
        discard <| call (.duplicate opened fd)
        call (.close opened)
      return .ok ()

def emptyDevice : Bytes := Bytes.ofText "/dev/null"

def nohup (c : Caller) (arguments : List Bytes) : Program Nat :=
  c.withArguments { ordered := true } arguments fun a => do
    if a.operands.isEmpty then c.refuseText "missing operand"
    else
      let input ← call (.isTerminal 0)
      let output ← call (.isTerminal 1)
      let errors ← call (.isTerminal 2)
      if input then discard <| point 0 emptyDevice { writable := true }
      if input && !output && !errors then c.sayText "ignoring input"
      if output then
        c.sayText
          ((if input then "ignoring input and " else "") ++ "appending output to 'nohup.out'")
        discard <| point 1 (Bytes.ofText "nohup.out") (.appending 0o600)
      if errors then
        if !output then
          c.sayText
            ((if input then "ignoring input and " else "") ++ "redirecting stderr to stdout")
        discard <| call (.duplicate 1 2)
      call (.dispose Signal.hup .ignore)
      become c "failed to run command " a.operands (← call .environment)

def setsid (c : Caller) (arguments : List Bytes) : Program Nat :=
  c.withArguments {
      plain := "cfw", words := [("ctty", 'c'), ("fork", 'f'), ("wait", 'w')], ordered := true }
    arguments fun a => do
      if a.operands.isEmpty then c.refuseText "no command specified"
      else
        let run : Program Nat := do
          discard <| call .newSession
          let e ← executeNamed a.operands (← call .environment)
          c.say (Bytes.ofText "failed to execute " ++ a.operands.headD [] ++
            Bytes.ofText (": " ++ e.text))
          return missingCode e
        let tried ← if a.has 'f' then pure (.error .notPermitted) else call .newSession
        match tried with
        | .ok () => run
        | .error _ =>
            -- The leader of a group cannot lead a session, but a child can.
            match ← call .fork with
            | .error e => c.abort (Bytes.ofText ("fork: " ++ e.text))
            | .ok none => run
            | .ok (some pid) =>
                if !a.has 'w' then return 0
                match ← call (.wait pid {} none) with
                | .ok (some (.exited code)) => return code
                | _ => return c.failure

/-! ## Starting other programs -/

/-- The exit code that tells how a child ended. -/
def codeOf : WaitStatus → Nat
  | .exited code => code
  | .killed s | .stopped s => 128 + s.toNat
  | .unknown => 0

def timeoutOptions : OptionTable where
  plain := "vφπ"
  valued := "sk"
  words := [("signal", 's'), ("kill-after", 'k'), ("foreground", 'φ'), ("preserve-status", 'π'),
    ("verbose", 'v')]
  ordered := true

/-- Send a signal to a child and to those of its group; `telling` holds what is said about it. -/
def sendAll (telling : Program Unit) (foreground : Bool) (pid : Pid) (s : Signal) :
    Program Unit := do
  telling
  discard <| call (.kill pid s)
  if !foreground then
    call (.dispose s .ignore)
    discard <| call (.kill 0 s)
  if s ≠ Signal.kill && s ≠ Signal.cont then
    discard <| call (.kill pid Signal.cont)
    if !foreground then
      call (.dispose Signal.cont .ignore)
      discard <| call (.kill 0 Signal.cont)

/-- Wait for a child for some time, if the time is not 0; nothing comes back if it has not ended. -/
def waitFor (pid : Pid) (time : Nat) : Program (Option WaitStatus) := do
  let now ← call .clock
  match ← call (.wait pid {} (if time = 0 then none else some (now + time))) with
  | .ok status => return status
  | .error _ => return none

def timeout (c : Caller) (arguments : List Bytes) : Program Nat :=
  c.withArguments timeoutOptions arguments fun a => do
    let signal := match a.value? 's' with
      | some word => SignalName.number? 1
          (if (Bytes.ofText "SIG").isPrefixOf word then word.drop 3 else word)
      | none => some 15
    let patience := match a.value? 'k' with
      | some word => milliseconds? word
      | none => some 0
    match signal, patience, a.operands with
    | none, _, _ =>
        c.refuse (Quoting.plain ((a.value? 's').getD []) ++ Bytes.ofText ": invalid signal")
    | _, none, _ => c.refuse (invalidInterval ((a.value? 'k').getD []))
    | some signal, some patience, time :: command :: words =>
        match milliseconds? time with
        | none => c.refuse (invalidInterval time)
        | some time =>
            let own ← call .ownPid
            let foreground := a.has 'φ'
            if !foreground then discard <| call (.joinGroup own own)
            [Signal.ttin, Signal.ttou].forM fun s => call (.dispose s .ignore)
            match ← call .fork with
            | .error e => c.abort (Bytes.ofText ("fork system call failed: " ++ e.text))
            | .ok none =>
                [Signal.ttin, Signal.ttou].forM fun s => call (.dispose s .default)
                become c "failed to run command " (command :: words) (← call .environment)
            | .ok (some pid) =>
                let telling (s : Signal) : Program Unit := do
                  if a.has 'v' then
                    c.say (Bytes.ofText ("sending signal " ++ SignalName.ofNat s.toNat) ++
                      Bytes.ofText " to command " ++ Quoting.shell command)
                match ← waitFor pid time with
                | some (.killed s) =>
                    -- What killed the child is passed on.
                    call (.dispose s .default)
                    discard <| call (.kill own s)
                    return 128 + s.toNat
                | some status => return codeOf status
                | none =>
                    sendAll (telling signal) foreground pid signal
                    let first ← waitFor pid patience
                    let last ← match first with
                      | some status => pure (some status)
                      | none => do
                          sendAll (telling Signal.kill) foreground pid Signal.kill
                          waitFor pid 0
                    if a.has 'π' then return (last.map codeOf).getD 124
                    return if first.isNone then 137 else 124
    | _, _, _ => do
        c.sayHelp
        return c.failure

/-! ## Items -/

/-- How far the reader of items has come. -/
structure ItemReader where
  /-- The items so far, the last one first. -/
  items : List Bytes := []
  /-- The item at hand, its last byte first. -/
  current : Option Bytes := none
  quote : Option UInt8 := none
  escaped : Bool := false
deriving DecidableEq, Repr

namespace ItemReader

def put (r : ItemReader) (b : UInt8) : ItemReader :=
  { r with current := some (b :: r.current.getD []), escaped := false }

def close (r : ItemReader) : ItemReader :=
  match r.current with
  | some item => { r with items := item.reverse :: r.items, current := none }
  | none => r

/-- Take a byte; blanks stand between items, quotes and backslashes keep them. -/
def step (r : ItemReader) (b : UInt8) : ItemReader :=
  if r.escaped then r.put b
  else match r.quote with
    | some q => if b = q then { r with quote := none } else r.put b
    | none =>
        if b = 92 then { r with escaped := true, current := some (r.current.getD []) }
        else if b = 39 || b = 34 then
          { r with quote := some b, current := some (r.current.getD []) }
        else if Bytes.isBlank b || b = Bytes.newline then r.close
        else r.put b

end ItemReader

/-- The items in a text, or the kind of quotes that is not closed. -/
def items (text : Bytes) : Except Bytes (List Bytes) :=
  let r := text.foldl ItemReader.step {}
  match r.quote with
  | some q => .error (Bytes.ofText (if q = 39 then "single" else "double"))
  | none => .ok r.close.items.reverse

/-- Whole lines as items, without the blanks in front. -/
def lineItems (text : Bytes) : List Bytes :=
  ((Bytes.splitOn Bytes.newline text).map (·.dropWhile Bytes.isBlank)).filter (!·.isEmpty)

/-- Cut a list into parts of a size; `fuel` bounds their number. -/
def parts {α : Type} (size : Nat) : (fuel : Nat) → List α → List (List α)
  | 0, _ => []
  | fuel + 1, xs => if xs.isEmpty then [] else xs.take size :: parts size fuel (xs.drop size)

/-- Replace a text by another one; `fuel` bounds the steps. -/
def replaced (old new : Bytes) : (fuel : Nat) → Bytes → Bytes
  | 0, text => text
  | fuel + 1, text =>
      if !old.isEmpty && old.isPrefixOf text then
        new ++ replaced old new fuel (text.drop old.length)
      else match text with
        | [] => []
        | b :: rest => b :: replaced old new fuel rest

/-- Run commands one after another; the reply is the exit code for all of them. -/
def runEach (c : Caller) (tell : Bool) : List (List Bytes) → (code : Nat) → Program Nat
  | [], code => return code
  | argv :: rest, code => do
      if tell then complainBytes ([Bytes.space].intercalate argv ++ [Bytes.newline])
      match ← call .fork with
      | .error e => c.abort (Bytes.ofText ("cannot fork: " ++ e.text))
      | .ok none =>
          discard <| point 0 emptyDevice .reading
          let e ← executeNamed argv (← call .environment)
          c.say (argv.headD [] ++ Bytes.ofText (": " ++ e.text))
          exit (missingCode e)
      | .ok (some pid) =>
          match ← call (.wait pid {} none) with
          | .ok (some (.exited 0)) => runEach c tell rest code
          | .ok (some (.exited 126)) => return 126
          | .ok (some (.exited 127)) => return 127
          | .ok (some (.exited 255)) =>
              c.say (argv.headD [] ++ Bytes.ofText ": exited with status 255; aborting")
              return 124
          | .ok (some (.killed s)) =>
              c.say (argv.headD [] ++ Bytes.ofText (": terminated by signal " ++ toString s.toNat))
              return 125
          | _ => runEach c tell rest 123

/-- Items in groups as lines give them: `size` lines that are not empty make a group, and a line
that ends in a blank goes on in the next one. -/
def lineGroups (size : Nat) (text : Bytes) : Except Bytes (List (List Bytes)) := do
  let joined := (Bytes.splitOn Bytes.newline text).foldr (fun l (ls : List Bytes) =>
    match ls with
    | next :: rest =>
        if (l.getLast?.map Bytes.isBlank).getD false then (l ++ next) :: rest else l :: ls
    | [] => [l]) []
  let found ← joined.mapM items
  let found := found.filter (!·.isEmpty)
  return (parts size found.length found).map List.flatten

/-- The items in front of the one that stands for the end. -/
def beforeEnd (mark : Option Bytes) (found : List Bytes) : List Bytes :=
  match mark with
  | none => found
  | some mark => found.takeWhile (· ≠ mark)

def xargsOptions : OptionTable where
  plain := "0rtx"
  valued := "nILdsEPa"
  open_ := "il"
  words := [("null", '0'), ("no-run-if-empty", 'r'), ("verbose", 't'), ("max-args", 'n'),
    ("max-lines", 'l'), ("replace", 'i'), ("delimiter", 'd'), ("max-procs", 'P'),
    ("arg-file", 'a'), ("exit", 'x')]
  ordered := true

/-- What is wrong with a number, if something is: it must be at least 1. -/
def countFault? (letter : Char) (value : Bytes) : Option Bytes :=
  let option := Bytes.ofText (" for -" ++ String.singleton letter ++ " option")
  match Bytes.decimal? value with
  | none => some (Bytes.ofText "invalid number \"" ++ value ++ 34 :: option)
  | some 0 => some (Bytes.ofText "value " ++ value ++ option ++ Bytes.ofText " should be >= 1")
  | some _ => none

/-- The commands that are to be run for the items in a text. -/
def commands (a : Arguments) (text : Bytes) : Except Bytes (List (List Bytes)) := do
  let command := if a.operands.isEmpty then [Bytes.ofText "echo"] else a.operands
  let cutAt (b : UInt8) : List Bytes :=
    let found := Bytes.splitOn b text
    if found.getLast? = some [] then found.dropLast else found
  let delimiter := if a.has '0' then some 0
    else (a.value? 'd').map fun d => (Printing.unescape { octal := true } d).bytes.headD 0
  let mark := if a.has 'I' then a.value? 'I'
    else (a.value? 'i').map fun mark => if mark.isEmpty then Bytes.ofText "\x7b\x7d" else mark
  let lines := if a.has 'L' then a.value? 'L'
    else (a.value? 'l').map fun value => if value.isEmpty then [49] else value
  match mark, lines.bind Bytes.decimal?, delimiter with
  | some mark, _, _ =>
      let found := match delimiter with
        | some b => cutAt b
        | none => lineItems text
      return found.map fun item =>
        command.map fun word => replaced mark item (word.length + 1) word
  | none, some size, none =>
      let groups ← lineGroups size text
      let groups := if groups.isEmpty && !a.has 'r' then [[]] else groups
      return groups.map (command ++ ·)
  | none, _, _ =>
      let found ← match delimiter with
        | some b => .ok (cutAt b)
        | none => items text
      let found := beforeEnd (a.value? 'E') found
      let size := max 1 (((a.value? 'n').bind Bytes.decimal?).getD found.length)
      let groups := parts size found.length found
      let groups := if groups.isEmpty && !a.has 'r' then [[]] else groups
      return groups.map (command ++ ·)

def xargs (c : Caller) (arguments : List Bytes) : Program Nat :=
  c.withArguments xargsOptions arguments fun a => do
    let fault := ['n', 'L'].findSome? fun letter => (a.value? letter).bind (countFault? letter)
    if let some fault := fault then return ← c.refuse fault
    match ← readWhole ((a.value? 'a').getD standardInput) with
    | .notOpened e =>
        discard <| c.fail "Cannot open input file "
          (Quoting.shell ((a.value? 'a').getD standardInput)) e
        return c.failure
    | .notRead e => c.abort (Bytes.ofText e.text)
    | .content text =>
        match commands a text with
        | .ok all => runEach c (a.has 't') all 0
        | .error quote =>
            c.abort (Bytes.ofText "unmatched " ++ quote ++
              Bytes.ofText
                " quote; by default quotes are special to xargs unless you use the -0 option")

/-! ## Examples -/

/-- The length of an interval. -/
def interval (s : String) : Option Nat := milliseconds? (Bytes.ofText s)

example : interval "30" = some 30000 := by decide +kernel
example : interval ".25" = some 250 := by decide +kernel
example : interval "1.5m" = some 90000 := by decide +kernel
example : interval "1e-2" = some 10 := by decide +kernel
example : (items (Bytes.ofText "a 'b c'\n\\d")).toOption =
    some (["a", "b c", "d"].map Bytes.ofText) := by decide +kernel

end JobShell.Machine.Wrapping
