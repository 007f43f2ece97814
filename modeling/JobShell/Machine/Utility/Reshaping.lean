import JobShell.Machine.Lines
import JobShell.Machine.Utility.Copying

/-!
# Reshaping lines

Utilities that go from line to line: `uniq`, `rev`, `nl`, `tac` and `fold`.
-/

namespace JobShell.Machine.Reshaping

open Program Report

def newline : Bytes := [Bytes.newline]

/-- A whole number in decimal as a value of an option. -/
def number? (bs : Bytes) : Option Nat := Bytes.decimal? bs

/-! ## Repeated lines -/

structure Uniqueness where
  counted : Bool := false
  repeatedOnly : Bool := false
  uniqueOnly : Bool := false
  allRepeated : Bool := false
  ignoreCase : Bool := false
  fields : Nat := 0
  bytes : Nat := 0
  width : Option Nat := none
deriving DecidableEq, Repr

/-- Pass over fields, each behind its blanks. -/
def passFields : (count : Nat) → Bytes → Bytes
  | 0, line => line
  | count + 1, line =>
      passFields count ((line.dropWhile Bytes.isBlank).dropWhile (!Bytes.isBlank ·))

def lower (b : UInt8) : UInt8 := if 65 ≤ b && b ≤ 90 then b + 32 else b

/-- The part of a line that is compared. -/
def Uniqueness.key (u : Uniqueness) (line : Bytes) : Bytes :=
  let rest := (passFields u.fields line).drop u.bytes
  let rest := match u.width with
    | some width => rest.take width
    | none => rest
  if u.ignoreCase then rest.map lower else rest

/-- What is written about a line that came so many times. -/
def Uniqueness.show_ (u : Uniqueness) (line : Bytes) (count : Nat) : Bytes :=
  if (u.repeatedOnly && count = 1) || (u.uniqueOnly && 1 < count) then []
  else (if u.counted then Copying.column 7 count ++ [Bytes.space] else []) ++ line ++ newline

/-- The line at hand and how often it came. -/
abbrev Run := Option (Bytes × Nat)

def Uniqueness.step (u : Uniqueness) (run : Run) (line : Bytes) : Bytes × Run :=
  match run with
  | none => ([], some (line, 1))
  | some (first, count) =>
      if u.key first = u.key line then
        let out := if u.allRepeated then
            (if count = 1 then first ++ newline else []) ++ line ++ newline
          else []
        (out, some (first, count + 1))
      else (if u.allRepeated then [] else u.show_ first count, some (line, 1))

def Uniqueness.filter (u : Uniqueness) : Filter (Run × Bytes) :=
  Filter.ofLines (fun run line _ => u.step run line) (fun run =>
    match run with
    | some (line, count) => if u.allRepeated then [] else u.show_ line count
    | none => [])

def uniqOptions : OptionTable where
  plain := "cdDuiz"
  valued := "fsw"
  words := [("count", 'c'), ("repeated", 'd'), ("all-repeated", 'D'), ("unique", 'u'),
    ("ignore-case", 'i'), ("skip-fields", 'f'), ("skip-chars", 's'), ("check-chars", 'w'),
    ("zero-terminated", 'z')]

def uniq (c : Caller) (arguments : List Bytes) : Program Nat :=
  c.withArguments uniqOptions arguments fun a =>
    c.withOperands 2 a.operands do
      let wrong (letter : Char) : Bool := (a.value? letter).any fun v => (number? v).isNone
      let value (letter : Char) : Nat := ((a.value? letter).bind number?).getD 0
      let complaint (what : String) (letter : Char) : Program Nat :=
        c.abort ((a.value? letter).getD [] ++ Bytes.ofText (": invalid number of " ++ what))
      if wrong 'f' then complaint "fields to skip" 'f'
      else if wrong 's' then complaint "bytes to skip" 's'
      else if wrong 'w' then complaint "bytes to compare" 'w'
      else
        let u : Uniqueness := {
          counted := a.has 'c', repeatedOnly := a.has 'd', uniqueOnly := a.has 'u'
          allRepeated := a.has 'D', ignoreCase := a.has 'i', fields := value 'f', bytes := value 's'
          width := (a.value? 'w').bind number? }
        let opened ← match a.operands[1]? with
          | none => pure (Except.ok ())
          | some file => do
              if file = standardInput then pure (Except.ok ())
              else match ← call (.openFile file (.writing 0o666)) with
                | .ok fd =>
                    let moved ← call (.duplicate fd 1)
                    call (.close fd)
                    pure moved
                | .error e => pure (Except.error e)
        match opened with
        | .error e =>
            let _ ← c.fail "" (Quoting.named ((a.operands[1]?).getD [])) e
            return c.failure
        | .ok () =>
            filter c u.filter (none, []) (a.operands.take 1)
              { cannotRead := fun file => Bytes.ofText "error reading " ++ Quoting.shell file
                closing := [] }

/-! ## Reversing -/

def rev (c : Caller) (arguments : List Bytes) : Program Nat :=
  c.withArguments {} arguments fun a =>
    let f : Filter (Unit × Bytes) := Filter.ofLines fun s line ended =>
      (line.reverse ++ (if ended then newline else []), s)
    let m : Complaints := {
      cannotOpen := fun file => Bytes.ofText "cannot open " ++ file
      cannotRead := fun file => file }
    filter c f ((), []) a.operands m

/-- The lines of a text in reverse; the last line keeps its end as it is. -/
def reversed (text : Bytes) : Bytes :=
  let lines := Bytes.splitOn Bytes.newline text
  let ended := lines.dropLast.map (· ++ newline)
  let last := lines.getLast?.getD []
  (last :: ended.reverse).flatten

/-- Show each source in reverse. -/
def tacEach (c : Caller) : List Bytes → Program Bool
  | [] => return true
  | file :: rest => do
      let good ← match ← readWhole file with
        | .content text => c.emit (reversed text)
        | .notOpened e =>
            c.fail "failed to open " (Quoting.shell file ++ Bytes.ofText " for reading") e
        | .notRead e => c.fail "" (Quoting.named file ++ Bytes.ofText ": read error") e
      let others ← tacEach c rest
      return good && others

def tac (c : Caller) (arguments : List Bytes) : Program Nat :=
  c.withArguments { plain := "br", valued := "s" } arguments fun a => do
    return if ← tacEach c (sources a.operands) then 0 else c.failure

/-! ## Numbering -/

structure Numbering where
  all : Bool := false
  none_ : Bool := false
  width : Nat := 6
  separator : Bytes := [Bytes.tab]
  step : Nat := 1
  /-- `ln`, `rn` or `rz`. -/
  layout : Bytes := Bytes.ofText "rn"
deriving DecidableEq, Repr

def Numbering.number (n : Numbering) (value : Int) : Bytes :=
  let digits := Bytes.ofText (toString value)
  let missing := n.width - digits.length
  if n.layout = Bytes.ofText "ln" then digits ++ List.replicate missing Bytes.space
  else if n.layout = Bytes.ofText "rz" then List.replicate missing 48 ++ digits
  else List.replicate missing Bytes.space ++ digits

def nl (c : Caller) (arguments : List Bytes) : Program Nat :=
  c.withArguments { plain := "p", valued := "bdfhilnsvw" } arguments fun a =>
    let style := (a.value? 'b').getD [116]
    let n : Numbering := {
      all := style = [97], none_ := style = [110]
      width := ((a.value? 'w').bind number?).getD 6
      separator := (a.value? 's').getD [Bytes.tab]
      step := ((a.value? 'i').bind number?).getD 1
      layout := (a.value? 'n').getD (Bytes.ofText "rn") }
    let start := ((a.value? 'v').bind (Numeral.number? true)).getD 1
    let f : Filter (Int × Bytes) := Filter.ofLines fun (next : Int) line _ =>
      if !n.none_ && (n.all || !line.isEmpty) then
        (n.number next ++ n.separator ++ line ++ newline, next + n.step)
      else
        (List.replicate (n.width + n.separator.length) Bytes.space ++ line ++ newline, next)
    filter c f (start, []) a.operands

/-! ## Folding -/

/-- Break a line so that no part is longer than a width; `fuel` bounds the parts. -/
def broken (width : Nat) (atBlanks : Bool) : (fuel : Nat) → Bytes → List Bytes
  | 0, line => [line]
  | fuel + 1, line =>
      if line.length ≤ width then [line]
      else
        let front := line.take width
        let front := if atBlanks && front.any Bytes.isBlank then
            (front.reverse.dropWhile (!Bytes.isBlank ·)).reverse
          else front
        front :: broken width atBlanks fuel (line.drop front.length)

def fold (c : Caller) (arguments : List Bytes) : Program Nat :=
  c.withArguments { plain := "bs", valued := "w", words := [("bytes", 'b'), ("spaces", 's'),
      ("width", 'w')] } arguments fun a => do
    match ((a.value? 'w').map number?).getD (some 80) with
    | some (width + 1) =>
        let f : Filter (Unit × Bytes) := Filter.ofLines fun s line ended =>
          (newline.intercalate (broken (width + 1) (a.has 's') line.length line) ++
            (if ended then newline else []), s)
        filter c f ((), []) a.operands
    | _ => c.abort (Bytes.ofText "invalid number of columns: " ++
        Quoting.plain ((a.value? 'w').getD []))

end JobShell.Machine.Reshaping
