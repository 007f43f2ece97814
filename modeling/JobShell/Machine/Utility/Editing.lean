import JobShell.Machine.Utility.EditScript
import JobShell.Machine.Utility.Report

/-!
# The stream editor

The utility `sed`: an editing script runs over one line after another. What it writes is a function
of its script and of its input.

Results:
1. The examples at the end: scripts and what they make of a text.
-/

namespace JobShell.Machine.Edit

open Program Report

/-! ## The state of an edit -/

/-- A line of some file, and whether it ended in a newline. -/
structure Line where
  text : Bytes
  ended : Bool := true
  file : Bytes := standardInput
deriving DecidableEq, Repr

/-- How the input comes. -/
structure Settings where
  silent : Bool := false
  /-- How wide lines with escapes are. -/
  width : Nat := 70
  /-- What the files hold that the script reads. -/
  sources : List (Bytes × Bytes) := []

structure State where
  input : List Line
  number : Nat := 0
  /-- The text at hand, and whether its line ended in a newline. -/
  pattern : Bytes := []
  ended : Bool := true
  file : Bytes := []
  held : Bytes := []
  /-- What is written when the cycle ends. -/
  appended : List Bytes := []
  /-- What has been written, the last part first. -/
  parts : List Bytes := []
  /-- What goes to files, the last part first. -/
  stored : List (Bytes × Bytes) := []
  replaced : Bool := false
  /-- The commands whose spans are open, with the lines that end them, if they are known. -/
  open_ : List (Nat × Option Nat) := []
  /-- The expression that was used last. -/
  last : Option Regex := none
  /-- Whether a newline is owed in front of what is written next. -/
  owed : Bool := false
  code : Option Nat := none

namespace State

def put (s : State) (bs : Bytes) : State :=
  if s.owed then { s with parts := bs :: [Bytes.newline] :: s.parts, owed := false }
  else { s with parts := bs :: s.parts }

/-- Write a line; the newline of a last line without one is owed. -/
def putLine (s : State) (text : Bytes) (ended : Bool := true) : State :=
  if ended then s.put (text ++ [Bytes.newline])
  else { s.put text with owed := true }

def isLast (s : State) : Bool := s.input.isEmpty

/-- The end of a cycle: the text is written, and what was kept for now. -/
def flush (s : State) (silent : Bool) : State :=
  let s := if silent then s else s.putLine s.pattern s.ended
  { s.appended.foldl put s with appended := [] }

/-- Take the next line. -/
def take? (s : State) : Option State :=
  match s.input with
  | [] => none
  | line :: input =>
      some { s with input, number := s.number + 1, pattern := line.text, ended := line.ended
                    file := line.file }

end State

/-! ## Addresses -/

/-- The match of an expression, or of the one used last. -/
def matchOf (s : State) (r : Option Regex) (folding : Bool) (start : Nat) :
    Option Regex.Match × State :=
  match r <|> s.last with
  | none => (none, s)
  | some r => (r.find? s.pattern.toArray { folding } start, { s with last := some r })

def fits (s : State) : Address → Bool × State
  | .line n => (s.number = n, s)
  | .last => (s.isLast, s)
  | .every first step =>
      (if step = 0 then s.number = first else first ≤ s.number && (s.number - first) % step = 0, s)
  | .fits r folding =>
      let (m, s) := matchOf s r folding 0
      (m.isSome, s)

def closeSpan (s : State) (place : Nat) : State :=
  { s with open_ := s.open_.filter (·.1 ≠ place) }

/-- Whether a command is for the line at hand. -/
def reaches (s : State) (place : Nat) (r : Reach) : Bool × State :=
  let (found, s) := match r.first, r.second with
    | none, _ => (true, s)
    | some first, none => fits s first
    | some first, some second =>
        match s.open_.lookup place with
        | some (some stop) =>
            if s.number < stop then (true, s) else (s.number = stop, closeSpan s place)
        | some none =>
            let (ends, s) := match second with
              | .at_ a => fits s a
              | _ => (true, s)
            (true, if ends then closeSpan s place else s)
        | none =>
            let fromStart := first = .line 0 && s.number = 1
            let (begins, s) := if fromStart then (true, s) else fits s first
            if !begins then (false, s)
            else
              let until_ (stop : Option Nat) : State := { s with open_ := (place, stop) :: s.open_ }
              match second with
              | .after 0 => (true, s)
              | .after n => (true, until_ (some (s.number + n)))
              | .multiple n =>
                  if n = 0 || s.number % n = 0 then (true, s)
                  else (true, until_ (some ((s.number / n + 1) * n)))
              | .at_ (.line n) => (true, if n ≤ s.number then s else until_ (some n))
              | .at_ a =>
                  if fromStart then
                    let (ends, s) := fits s a
                    (true, if ends then s else { s with open_ := (place, none) :: s.open_ })
                  else (true, until_ none)
  (found != r.negated, s)

/-! ## Replacing -/

def lowerByte (b : UInt8) : UInt8 := if 65 ≤ b && b ≤ 90 then b + 32 else b

def upperByte (b : UInt8) : UInt8 := if 97 ≤ b && b ≤ 122 then b - 32 else b

/-- A text in the case that is wanted: of its first byte, and of all. -/
def cased (all once : CaseChange) (bs : Bytes) : Bytes :=
  let change (c : CaseChange) (b : UInt8) : UInt8 :=
    match c with
    | .upper | .upperNext => upperByte b
    | .lower | .lowerNext => lowerByte b
    | .none => b
  match bs.map (change all), bs with
  | _ :: rest, first :: _ => (if once = .none then change all first else change once first) :: rest
  | _, _ => []

/-- Fill a replacement for a match. -/
def filled (text : Array UInt8) (m : Regex.Match) : (all once : CaseChange) → List Piece → Bytes
  | _, _, [] => []
  | all, once, p :: rest =>
      let put (bs : Bytes) : Bytes :=
        cased all once bs ++ filled text m all (if bs.isEmpty then once else .none) rest
      match p with
      | .text bs => put bs
      | .group n => put (m.part text n)
      | .case c =>
          match c with
          | .upperNext | .lowerNext => filled text m all c rest
          | _ => filled text m c .none rest

/-- Replace matches from a position on; `count` is the number of the next match, and `after` the
end of the last one. The reply tells whether anything was replaced. -/
def replaced (text : Array UInt8) (r : Regex) (u : Substitution) :
    (fuel : Nat) → (position count : Nat) → (after : Option Nat) → Bytes × Bool
  | 0, position, _, _ => (Regex.part text position text.size, false)
  | fuel + 1, position, count, after =>
      match r.find? text { folding := u.folding } position with
      | none => (Regex.part text position text.size, false)
      | some m =>
          let front := Regex.part text position m.start
          let step : Bytes := (text[m.start]?).toList
          if m.stop = m.start && after = some m.start then
            -- An empty match right behind another one does not count.
            if m.start < text.size then
              let (rest, changed) := replaced text r u fuel (m.start + 1) count none
              (front ++ step ++ rest, changed)
            else (front, false)
          else
            let isMeant := u.nth ≤ count
            let shown := if isMeant then filled text m .none .none u.replacement
              else m.part text 0
            if isMeant && !u.all then
              (front ++ shown ++ Regex.part text m.stop text.size, true)
            else if m.stop = m.start then
              if m.start < text.size then
                let (rest, changed) := replaced text r u fuel (m.start + 1) (count + 1) none
                (front ++ shown ++ step ++ rest, changed || isMeant)
              else (front ++ shown, isMeant)
            else
              let (rest, changed) := replaced text r u fuel m.stop (count + 1) (some m.stop)
              (front ++ shown ++ rest, changed || isMeant)

/-- Write to a file, or to standard output under its name. -/
def store (s : State) (file text : Bytes) : State :=
  if file = Bytes.ofText "/dev/stdout" then s.putLine text
  else { s with stored := (file, text ++ [Bytes.newline]) :: s.stored }

def substitute (s : State) (u : Substitution) : State :=
  match u.pattern <|> s.last with
  | none => s
  | some r =>
      let text := s.pattern.toArray
      let (new, changed) := replaced text r u (2 * text.size + 2) 0 1 none
      let s := { s with last := some r }
      if !changed then s
      else
        let s := { s with pattern := new, replaced := true }
        let s := if u.print then s.putLine new else s
        match u.file with
        | some file => store s file new
        | none => s

/-- A text with escapes for all that cannot be shown, and a mark at its end. Lines of a width end in
a backslash. -/
def exposed (width : Nat) (bs : Bytes) : Bytes :=
  let (out, _) := bs.foldl (fun (out, column) b =>
    let shown := if b = 92 then [92, 92]
      else if Quoting.isPrintable b then [b]
      else Quoting.escaped b
    if 0 < width && width - 1 < column + shown.length then
      (shown :: [92, Bytes.newline] :: out, shown.length)
    else (shown :: out, column + shown.length)) (([] : List Bytes), 0)
  out.reverse.flatten ++ [36]

/-! ## Commands -/

/-- Where an edit goes on. -/
inductive Onward
  | to (place : Nat)
  /-- The end of the cycle. -/
  | cycle
  /-- The next cycle, without writing the text at hand. -/
  | restart (readsNext : Bool)
  | finish

/-- Put a text behind another one on a line of its own. -/
def joinLines (a b : Bytes) : Bytes := a ++ Bytes.newline :: b

/-- The first line of the text at hand. -/
def firstLine (s : State) : Bytes := s.pattern.takeWhile (· ≠ Bytes.newline)

/-- The place of a label. -/
def labelPlace (script : Array Command) (name : Bytes) : Nat :=
  (script.findIdx? fun c => c.action = .label name).getD script.size

/-- Do what one command says. -/
def obey (script : Array Command) (w : Settings) (s : State) (place : Nat) (c : Command) :
    Onward × State :=
  let next : Onward := .to (place + 1)
  match c.action with
  | .block _ | .close | .label _ => (next, s)
  | .branch always whenReplaced name =>
      let jumps := always || s.replaced = whenReplaced
      let s := if always then s else { s with replaced := false }
      let target : Onward := if name.isEmpty then .cycle else .to (labelPlace script name)
      (if jumps then target else next, s)
  | .append text => (next, { s with appended := s.appended ++ [text] })
  | .insert text => (next, s.put text)
  | .change text =>
      let isInside := c.reach.second.isSome && !c.reach.negated &&
        (s.open_.lookup place).isSome
      (.restart true, if isInside then s else s.put text)
  | .delete => (.restart true, s)
  | .deleteFirst =>
      if s.pattern.contains Bytes.newline then
        (.restart false, { s with pattern := s.pattern.drop ((firstLine s).length + 1) })
      else (.restart true, s)
  | .print => (next, s.putLine s.pattern s.ended)
  | .printFirst => (next, s.putLine (firstLine s))
  | .number => (next, s.putLine (Bytes.ofNat s.number))
  | .show_ width => (next, s.putLine (exposed (width.getD w.width) s.pattern))
  | .file => (next, s.putLine s.file)
  | .next =>
      if s.isLast then (.finish, s.flush w.silent)
      else
        let s := s.flush w.silent
        (next, (s.take?).getD s)
  | .nextAppended =>
      if s.isLast then (.finish, s.flush w.silent)
      else
        let old := s.pattern
        let s := s.flush true
        match s.take? with
        | some s => (next, { s with pattern := joinLines old s.pattern })
        | none => (.finish, s)
  | .hold => (next, { s with held := s.pattern })
  | .holdAppended => (next, { s with held := joinLines s.held s.pattern })
  | .get => (next, { s with pattern := s.held })
  | .getAppended => (next, { s with pattern := joinLines s.pattern s.held })
  | .exchange => (next, { s with pattern := s.held, held := s.pattern })
  | .clear => (next, { s with pattern := [] })
  | .quit code silent =>
      (.finish, { (if silent then s else s.flush w.silent) with code := some code })
  | .readFile file =>
      match w.sources.lookup file with
      | some text => (next, { s with appended := s.appended ++ [text] })
      | none => (next, s)
  | .writeFile file => (next, store s file s.pattern)
  | .substitute u => (next, substitute s u)
  | .translate source target =>
      let table := source.zip target
      (next, { s with pattern := s.pattern.map fun b => (table.lookup b).getD b })

/-- Begin the next cycle, if there is another line. -/
def begin? (s : State) : Option State := ({ s with replaced := false } : State).take?

/-- Run a script from a place on; `fuel` bounds the commands. -/
def run (script : Array Command) (w : Settings) : (fuel place : Nat) → State → State
  | 0, _, s => s
  | fuel + 1, place, s =>
      match script[place]? with
      | none =>
          match begin? (s.flush w.silent) with
          | some s => run script w fuel 0 s
          | none => s.flush w.silent
      | some c =>
          let (isMeant, s) := reaches s place c.reach
          if !isMeant then
            match c.action with
            | .block stop => run script w fuel (stop + 1) s
            | _ => run script w fuel (place + 1) s
          else
            match obey script w s place c with
            | (.to place, s) => run script w fuel place s
            | (.cycle, s) => run script w fuel script.size s
            | (.finish, s) => s
            | (.restart readsNext, s) =>
                let s := s.flush true
                if !readsNext then run script w fuel 0 s
                else match begin? s with
                  | some s => run script w fuel 0 s
                  | none => s

/-- The lines of a file. -/
def linesOf (file text : Bytes) : List Line :=
  match (Bytes.splitOn Bytes.newline text).reverse with
  | [] => []
  | last :: lines =>
      lines.reverse.map (fun text => { text, file }) ++
        (if last.isEmpty then [] else [{ text := last, ended := false, file }])

/-- Run a script over some lines, with something held from before. -/
def edit (script : List Command) (w : Settings) (held : Bytes) (input : List Line) : State :=
  match begin? { input, held } with
  | some s => run script.toArray w patience 0 s
  | none => { input, held }

/-! ## The utility -/

def options : OptionTable where
  plain := "nErsuz"
  valued := "efl"
  open_ := "i"
  words := [("quiet", 'n'), ("silent", 'n'), ("regexp-extended", 'E'), ("expression", 'e'),
    ("file", 'f'), ("in-place", 'i'), ("separate", 's'), ("unbuffered", 'u'), ("line-length", 'l'),
    ("null-data", 'z')]

/-- The files that a script reads. -/
def sourcesOf (script : List Command) : List Bytes :=
  (script.filterMap fun c => match c.action with
    | .readFile file => some file
    | _ => none).eraseDups

/-- The files that a script writes. -/
def sinksOf (script : List Command) : List Bytes :=
  ((script.filterMap fun c => match c.action with
    | .writeFile file => some file
    | .substitute u => u.file
    | _ => none).filter (· ≠ Bytes.ofText "/dev/stdout")).eraseDups

/-- Read the files that are there. -/
def readPresent : List Bytes → Program (List (Bytes × Bytes))
  | [] => return []
  | file :: rest => do
      match ← readWhole file with
      | .content text => return (file, text) :: (← readPresent rest)
      | _ => readPresent rest

/-- Make a file hold a text. -/
def writeWhole (c : Caller) (file text : Bytes) : Program Bool := do
  match ← call (.openFile file (.writing 0o666)) with
  | .error e => c.fail "couldn't open file " file e
  | .ok fd =>
      discard <| call (.write fd text)
      call (.close fd)
      return true

/-- What reading the files comes to: their lines, whether all could be opened, and whether reading
broke off. -/
structure Gathered where
  files : List (Bytes × List Line) := []
  good : Bool := true
  broken : Bool := false

/-- The lines of files one after another, those that cannot be opened being reported. -/
def gather (c : Caller) : List Bytes → Program Gathered
  | [] => return {}
  | file :: rest => do
      match ← readWhole file with
      | .content text =>
          let others ← gather c rest
          return { others with files := (file, linesOf file text) :: others.files }
      | .notOpened e =>
          discard <| c.fail "can't read " file e
          return { ← gather c rest with good := false }
      | .notRead e =>
          let name := if file = standardInput then Bytes.ofText "stdin" else file
          discard <| c.fail "read error on " name e
          return { broken := true }

/-- Lines of several files as one input: what is not the last one ends. -/
def chained (files : List (List Line)) : List Line :=
  let lines := files.flatten
  lines.dropLast.map (fun l => { l with ended := true }) ++ lines.getLast?.toList

/-- Run a script over one input after another, whose lines are counted anew. -/
def editEach (script : List Command) (w : Settings) : (held : Bytes) → List (List Line) → List State
  | _, [] => []
  | held, lines :: rest =>
      let s := edit script w held lines
      s :: (if s.code.isSome then [] else editEach script w s.held rest)

/-- Put the results of edits into the files. -/
def storeEach (c : Caller) (suffix : Bytes) : List ((Bytes × List Line) × State) → Program Unit
  | [] => return
  | ((file, lines), s) :: rest => do
      if !suffix.isEmpty then
        let old := lines.flatMap fun l => l.text ++ (if l.ended then [Bytes.newline] else [])
        discard <| writeWhole c (file ++ suffix) old
      discard <| writeWhole c file s.parts.reverse.flatten
      storeEach c suffix rest

/-- The script that the arguments give, and the files that are left; or a file that cannot be
read. -/
def scriptText (a : Arguments) :
    Program (Except (Bytes × Errno) (Option (Bytes × List Bytes))) := do
  let rec parts : List (Char × Bytes) → ExceptT (Bytes × Errno) Program (List Bytes)
    | [] => return []
    | (letter, value) :: rest => do
        if letter = 'e' then return value :: (← parts rest)
        else if letter = 'f' then
          match ← ExceptT.lift (readWhole value) with
          | .content text =>
              let text := if text.getLast? = some Bytes.newline then text.dropLast else text
              return text :: (← parts rest)
          | .notOpened e | .notRead e => throw (value, e)
        else parts rest
  match ← (parts a.options).run with
  | .error e => return .error e
  | .ok [] =>
      return .ok (match a.operands with
        | [] => none
        | first :: rest => some (first, rest))
  | .ok found => return .ok (some ([Bytes.newline].intercalate found, a.operands))

/-- Show how the utility is used. -/
def sayUsage (c : Caller) : Program Nat := do
  complain "Usage: sed [OPTION]... \x7bscript-only-if-no-other-script\x7d [input-file]...\n"
  return c.failure

/-- Run a script over the files that the operands name. -/
def runScript (c : Caller) (a : Arguments) (script : List Command) (silent : Bool)
    (operands : List Bytes) : Program Nat := do
  let w : Settings := {
    silent, width := ((a.value? 'l').bind Bytes.decimal?).getD 70
    sources := ← readPresent (sourcesOf script) }
  let g ← gather c (sources operands)
  let inPlace := a.has 'i'
  let inputs := g.files.map (·.2)
  let states := if inPlace || a.has 's' then editEach script w [] inputs
    else [edit script w [] (chained inputs)]
  let rec storeAll : List Bytes → Program Unit
    | [] => return
    | file :: rest => do
        let all := states.flatMap fun s => s.stored.reverse
        discard <| writeWhole c file ((all.filter (·.1 = file)).flatMap (·.2))
        storeAll rest
  storeAll (sinksOf script)
  if inPlace then storeEach c ((a.value? 'i').getD []) (g.files.zip states)
  let out := if inPlace then [] else states.flatMap fun s => s.parts.reverse.flatten
  let code := (states.findSome? (·.code)).getD
    (if g.broken || (inPlace && !g.good) then 4 else if g.good then 0 else 2)
  c.finish out code

def sed (c : Caller) (arguments : List Bytes) : Program Nat := do
  match Arguments.read options {} arguments with
  | .error e =>
      c.say e
      sayUsage c
  | .ok a =>
      match ← scriptText a with
      | .error (file, e) =>
          discard <| c.fail "couldn't open file " file e
          return c.failure
      | .ok none => sayUsage c
      | .ok (some (text, operands)) =>
          -- A first line of `#n` asks for silence.
          let silent := a.has 'n' || text = Bytes.ofText "#n" ||
            (Bytes.ofText "#n\n").isPrefixOf text
          match script? (a.has 'E' || a.has 'r') text with
          | .ok script => runScript c a script silent operands
          | .error e =>
              let lead := match e.place with
                | some n => "-e expression #1, char " ++ toString n ++ ": "
                | none => ""
              c.abort (Bytes.ofText (lead ++ e.message))

/-! ## Examples -/

/-- What a script makes of a text. -/
def edited (script text : String) : Option Bytes :=
  ((script? false (Bytes.ofText script)).toOption).map fun found =>
    let s := match begin? { input := linesOf [] (Bytes.ofText text) } with
      | some s => run found.toArray {} 100 0 s
      | none => { input := [] }
    s.parts.reverse.flatten

example : edited "s/x*/-/g" "abxc" = some (Bytes.ofText "-a-b-c-") := by decide +kernel
example : edited "2,3d" "1\n2\n3\n4\n" = some (Bytes.ofText "1\n4\n") := by decide +kernel
example : edited "s/\\(.\\)\\(.\\)/\\2\\U\\1/" "ab" = some (Bytes.ofText "bA") := by decide +kernel
example : edited "$!\x7bh;d\x7d;G" "1\n2\n" = some (Bytes.ofText "2\n1\n") := by decide +kernel

end JobShell.Machine.Edit
