import JobShell.Machine.Decimal
import JobShell.Machine.Utility.Stream

/-!
# Utilities that copy

`cat`, `tee` and `dd`: what they read they write, as it is or with marks in it.

Results:
1. The examples at the end: sizes with suffixes.
-/

namespace JobShell.Machine.Copying

open Program Report

/-! ## Cat -/

/-- What is shown besides the text itself. -/
structure Marks where
  numbers : Bool := false
  /-- Only lines that are not empty are numbered. -/
  fullOnly : Bool := false
  ends : Bool := false
  tabs : Bool := false
  controls : Bool := false
  /-- Of empty lines in a row, the first alone is shown. -/
  squeezed : Bool := false
deriving DecidableEq, Repr

/-- Where the output is: the next number, and how many newlines came in a row, with one at the
start. -/
structure Position where
  next : Nat := 1
  newlines : Nat := 1
deriving DecidableEq, Repr

/-- A number in a column. -/
def column (width n : Nat) : Bytes :=
  let digits := Bytes.ofNat n
  List.replicate (width - digits.length) Bytes.space ++ digits

/-- A byte as it is shown. -/
def shown (m : Marks) (b : UInt8) : Bytes :=
  if b = Bytes.tab then if m.tabs then [94, 73] else [b]
  else if !m.controls then [b]
  else
    let low := b &&& 127
    let front : Bytes := if b < 128 then [] else [77, 45]
    front ++ (if low < 32 then [94, low + 64] else if low = 127 then [94, 63] else [low])

/-- Write one byte. -/
def mark (m : Marks) (p : Position) (b : UInt8) : Bytes × Position :=
  let number := column 6 p.next ++ [Bytes.tab]
  let atStart := 0 < p.newlines
  if b = Bytes.newline then
    if m.squeezed && 2 ≤ p.newlines then ([], p)
    else
      let isNumbered := atStart && m.numbers && !m.fullOnly
      ((if isNumbered then number else []) ++ (if m.ends then [36, b] else [b]),
        { next := if isNumbered then p.next + 1 else p.next, newlines := p.newlines + 1 })
  else
    let isNumbered := atStart && m.numbers
    ((if isNumbered then number else []) ++ shown m b,
      { next := if isNumbered then p.next + 1 else p.next, newlines := 0 })

def catOptions : OptionTable where
  plain := "AbeEnstTuv"
  words := [("show-all", 'A'), ("number-nonblank", 'b'), ("show-ends", 'E'), ("number", 'n'),
    ("squeeze-blank", 's'), ("show-tabs", 'T'), ("show-nonprinting", 'v')]

/-- Whether a source is the very file that is being written, with something still to be read. -/
def isOwnOutput (fd : Nat) : Program Bool := do
  match ← call (.examineOpen 1), ← call (.examineOpen fd) with
  | .ok out, .ok input =>
      return out.kind = .regular && input.kind = .regular && out.node = input.node && 0 < input.size
  | _, _ => return false

/-- Copy one source after another; the reply tells whether all could be copied. -/
def catEach (c : Caller) (f : Filter Position) : List Bytes → Position → (good : Bool) →
    Program (Option Bool)
  | [], _, good => return some good
  | source :: rest, p, good => do
      match ← openSource source with
      | .error e =>
          let _ ← c.fail "" (Quoting.named source) e
          catEach c f rest p false
      | .ok fd =>
          if ← isOwnOutput fd then
            c.say (Quoting.named source ++ Bytes.ofText ": input file is output file")
            closeSource source fd
            catEach c f rest p false
          else
            match ← pump c f fd p with
            | none => return none
            | some (p, failure) =>
                reportReading c "" (Quoting.named source) (Bytes.ofText "closing standard input")
                  source failure
                closeSource source fd
                catEach c f rest p (good && failure.isNone)

def cat (c : Caller) (arguments : List Bytes) : Program Nat :=
  c.withArguments catOptions arguments fun a => do
    let all := a.has 'A'
    let m : Marks := {
      numbers := a.has 'n' || a.has 'b'
      fullOnly := a.has 'b'
      ends := all || a.has 'E' || a.has 'e'
      tabs := all || a.has 'T' || a.has 't'
      controls := all || a.has 'v' || a.has 'e' || a.has 't'
      squeezed := a.has 's' }
    let f : Filter Position :=
      if m = {} then { feed := fun p chunk => (chunk, p) } else Filter.ofBytes (mark m)
    match ← catEach c f (sources a.operands) {} true with
    | some true => return 0
    | _ => return c.failure

/-! ## Tee -/

/-- Write to all that still take something; those that fail are reported. -/
def writeEach (c : Caller) (chunk : Bytes) : List (Bytes × Nat) → Program (List (Bytes × Nat))
  | [] => return []
  | (name, fd) :: rest => do
      match ← call (.write fd chunk) with
      | .ok () => return (name, fd) :: (← writeEach c chunk rest)
      | .error e =>
          let _ ← c.fail "" (Quoting.named name) e
          writeEach c chunk rest

def openEach (c : Caller) (mode : OpenMode) : List Bytes → Program (List (Bytes × Nat) × Bool)
  | [] => return ([], true)
  | file :: rest => do
      match ← call (.openFile file mode) with
      | .ok fd =>
          let (others, good) ← openEach c mode rest
          return ((file, fd) :: others, good)
      | .error e =>
          let _ ← c.fail "" (Quoting.named file) e
          let (others, _) ← openEach c mode rest
          return (others, false)

def tee (c : Caller) (arguments : List Bytes) : Program Nat :=
  c.withArguments { plain := "aip", words := [("append", 'a'), ("ignore-interrupts", 'i')] }
    arguments fun a => do
      if a.has 'i' then call (.dispose Signal.int .ignore)
      let mode : OpenMode := if a.has 'a' then .appending 0o666 else .writing 0o666
      let (files, good) ← openEach c mode a.operands
      let all := (Bytes.ofText "standard output", 1) :: files
      let step (outs : List (Bytes × Nat)) : Program (List (Bytes × Nat) ⊕ Bool) := do
        if outs.isEmpty then return .inr false
        match ← call (.read 0 65536) with
        | .ok [] => return .inr (outs.length = all.length)
        | .ok chunk => return .inl (← writeEach c chunk outs)
        | .error e =>
            reportReading c "" (Bytes.ofText "read error") (Bytes.ofText "standard input")
              standardInput (some e)
            return .inr false
      let written ← iterate step false patience all
      return if good && written then 0 else c.failure

/-! ## Dd -/

/-- What a suffix multiplies by. -/
def factor? (text : String) : Option Nat :=
  [("", 1), ("c", 1), ("w", 2), ("b", 512), ("kB", 1000), ("k", 1024), ("K", 1024), ("KiB", 1024),
    ("MB", 1000000), ("M", 1048576), ("xM", 1048576), ("MiB", 1048576), ("GB", 1000000000),
    ("G", 1073741824), ("GiB", 1073741824)].lookup text

/-- A number with a suffix. -/
def size? (bs : Bytes) : Option Nat :=
  let digits := bs.takeWhile Bytes.isDigit
  match Bytes.decimal? digits with
  | none => none
  | some n =>
      let letters := String.ofList ((bs.drop digits.length).map fun b => Char.ofNat b.toNat)
      (factor? letters).map (n * ·)

/-- A product of numbers with suffixes. -/
def product? (bs : Bytes) : Option Nat :=
  (Bytes.splitOn 120 bs).foldlM (fun n part => (size? part).map (n * ·)) 1

example : size? (Bytes.ofText "2k") = some 2048 := by decide
example : size? (Bytes.ofText "x") = none := by decide

/-- The settings of a copy in blocks. -/
structure BlockCopy where
  inputSize : Nat := 512
  outputSize : Nat := 512
  count : Option Nat := none
  skip : Nat := 0
  seek : Nat := 0
  input : Option Bytes := none
  output : Option Bytes := none
  conversions : List Bytes := []
  /-- How much is told at the end: `none`, `noxfer`, or all. -/
  status : Bytes := []
deriving DecidableEq, Repr

namespace BlockCopy

def converts (b : BlockCopy) (word : String) : Bool := b.conversions.contains (Bytes.ofText word)

def conversionNames : List String :=
  ["notrunc", "sync", "ucase", "lcase", "noerror", "fsync", "fdatasync", "swab", "excl", "nocreat"]

/-- Set what an operand says. -/
def set (b : BlockCopy) (operand : Bytes) : Except Bytes BlockCopy := do
  let key := operand.takeWhile (· ≠ 61)
  let value := operand.drop (key.length + 1)
  let unknown : Except Bytes BlockCopy :=
    .error (Bytes.ofText "unrecognized operand " ++ Quoting.plain operand)
  let number : Except Bytes Nat :=
    match product? value with
    | some n => .ok n
    | none => .error (Bytes.ofText "invalid number: " ++ Quoting.plain value)
  let positive : Except Bytes Nat := do
    let n ← number
    if n = 0 then .error (Bytes.ofText "invalid number: " ++ Quoting.plain value) else .ok n
  if key.length = operand.length then unknown
  else match String.ofList (key.map fun b => Char.ofNat b.toNat) with
    | "if" => return { b with input := some value }
    | "of" => return { b with output := some value }
    | "bs" =>
        let n ← positive
        return { b with inputSize := n, outputSize := n }
    | "ibs" => return { b with inputSize := ← positive }
    | "obs" => return { b with outputSize := ← positive }
    | "cbs" =>
        discard positive
        return b
    | "count" => return { b with count := some (← number) }
    | "skip" | "iseek" => return { b with skip := ← number }
    | "seek" | "oseek" => return { b with seek := ← number }
    | "conv" =>
        let words := Bytes.splitOn 44 value
        match words.find? fun w => !conversionNames.any fun n => Bytes.ofText n = w with
        | some word => .error (Bytes.ofText "invalid conversion: " ++ Quoting.plain word)
        | none => return { b with conversions := b.conversions ++ words }
    | "status" =>
        if [Bytes.ofText "none", Bytes.ofText "noxfer", Bytes.ofText "progress"].contains value then
          return { b with status := value }
        else .error (Bytes.ofText "invalid status level: " ++ Quoting.plain value)
    | "iflag" | "oflag" => return b
    | _ => unknown

def read (b : BlockCopy) : List Bytes → Except Bytes BlockCopy
  | [] => .ok b
  | operand :: rest => do (← b.set operand).read rest

/-- The name of a source or a sink in messages. -/
def inputName (b : BlockCopy) : Bytes := b.input.getD (Bytes.ofText "standard input")

def outputName (b : BlockCopy) : Bytes := b.output.getD (Bytes.ofText "standard output")

/-- Convert a block. -/
def convert (b : BlockCopy) (block : Bytes) : Bytes :=
  let block := if b.converts "sync" then
    block ++ List.replicate (b.inputSize - block.length) 0 else block
  if b.converts "ucase" then block.map fun x => if 97 ≤ x && x ≤ 122 then x - 32 else x
  else if b.converts "lcase" then block.map fun x => if 65 ≤ x && x ≤ 90 then x + 32 else x
  else block

end BlockCopy

/-- How many blocks were read and written, whole and in part, and how many bytes. -/
structure Tally where
  wholeIn : Nat := 0
  partIn : Nat := 0
  wholeOut : Nat := 0
  partOut : Nat := 0
  bytes : Nat := 0
  good : Bool := true
deriving DecidableEq, Repr

namespace Tally

def written (t : Tally) (b : BlockCopy) (size : Nat) : Tally :=
  let t := { t with bytes := t.bytes + size }
  if size = b.outputSize then { t with wholeOut := t.wholeOut + 1 }
  else { t with partOut := t.partOut + 1 }

/-- What is told at the end, but for the speed. -/
def text (t : Tally) : String :=
  toString t.wholeIn ++ "+" ++ toString t.partIn ++ " records in\n" ++
    toString t.wholeOut ++ "+" ++ toString t.partOut ++ " records out\n"

end Tally

/-- Copy block after block. Input in blocks of one size is written as it is read; else it is
gathered into blocks of the other size. -/
def copyBlocks (c : Caller) (b : BlockCopy) (input output : Nat) : Program Tally :=
  let write (t : Tally) (block : Bytes) : Program (Option Tally) := do
    if block.isEmpty then return some t
    match ← call (.write output block) with
    | .ok () => return some (t.written b block.length)
    | .error e =>
        let _ ← c.fail "error writing " (Quoting.shell b.outputName) e
        return none
  let last (t : Tally) (pending : Bytes) : Program Tally := do
    return (← write t pending).getD { t with good := false }
  iterate (fun ((t, pending) : Tally × Bytes) => do
    if b.count = some (t.wholeIn + t.partIn) then return .inr (← last t pending)
    match ← call (.read input b.inputSize) with
    | .error e =>
        let _ ← c.fail "error reading " (Quoting.shell b.inputName) e
        return .inr { (← last t pending) with good := false }
    | .ok [] => return .inr (← last t pending)
    | .ok block =>
        let t := if block.length = b.inputSize then { t with wholeIn := t.wholeIn + 1 }
          else { t with partIn := t.partIn + 1 }
        let block := b.convert block
        if b.inputSize = b.outputSize then
          match ← write t block with
          | some t => return .inl (t, [])
          | none => return .inr { t with good := false }
        else
          let gathered := pending ++ block
          if gathered.length < b.outputSize then return .inl (t, gathered)
          else
            match ← write t (gathered.take b.outputSize) with
            | some t => return .inl (t, gathered.drop b.outputSize)
            | none => return .inr { t with good := false }) {} patience ({}, [])

/-- Pass over blocks of the input. -/
def skipBlocks (size : Nat) (fd : Nat) : (count : Nat) → Program Unit
  | 0 => return
  | count + 1 => do
      match ← call (.read fd size) with
      | .ok (_ :: _) => skipBlocks size fd count
      | _ => return

/-- Open the files of a copy; nothing comes back if that fails. -/
def openBoth (c : Caller) (b : BlockCopy) : Program (Option (Nat × Nat)) := do
  let input ← match b.input with
    | none => pure (.ok 0)
    | some file => call (.openFile file .reading)
  match input with
  | .error e =>
      let _ ← c.fail "failed to open " (Quoting.shell b.inputName) e
      return none
  | .ok input =>
      match b.output with
      | none => return some (input, 1)
      | some file =>
          let keeps := b.converts "notrunc" || 0 < b.seek
          match ← call (.openFile file
              { writable := true, truncate := !keeps, exclusive := b.converts "excl"
                create := if b.converts "nocreat" then none else some 0o666 }) with
          | .ok output =>
              if !b.converts "notrunc" && 0 < b.seek then
                discard <| call (.truncate output (b.seek * b.outputSize))
              return some (input, output)
          | .error e =>
              let _ ← c.fail "failed to open " (Quoting.shell file) e
              return none

def dd (c : Caller) (arguments : List Bytes) : Program Nat := do
  let operands := if arguments.head? = some (Bytes.ofText "--") then arguments.tail else arguments
  match BlockCopy.read {} operands with
  | .error message =>
      if (Bytes.ofText "unrecognized").isPrefixOf message ||
          (Bytes.ofText "invalid conversion").isPrefixOf message ||
          (Bytes.ofText "invalid status").isPrefixOf message then c.refuse message
      else c.abort message
  | .ok b =>
      match ← openBoth c b with
      | none => return c.failure
      | some (input, output) =>
          if 0 < b.skip then
            match ← call (.seek input .current (b.skip * b.inputSize : Nat)) with
            | .ok _ => pure ()
            | .error _ => skipBlocks b.inputSize input b.skip
          if 0 < b.seek then discard <| call (.seek output .current (b.seek * b.outputSize : Nat))
          let t ← copyBlocks c b input output
          if b.status ≠ Bytes.ofText "none" then
            complain t.text
            if b.status ≠ Bytes.ofText "noxfer" then
              complain (toString t.bytes ++ (if t.bytes = 1 then " byte" else " bytes") ++
                " copied, 0 s, 0 B/s\n")
          return if t.good then 0 else c.failure

end JobShell.Machine.Copying
