import JobShell.Machine.Printing
import JobShell.Machine.Utility.Report

/-!
# Utilities that write what they are told

`echo`, `printf`, `yes`, `seq`, `pwd`, `id`, `whoami`, `printenv`, `tty` and `uname`.

Results:
1. The examples at the end: sequences.
-/

namespace JobShell.Machine.Writing

open Program Report

def echo (c : Caller) (arguments : List Bytes) : Program Nat :=
  c.finish (Printing.echoText arguments)

/-! ## Formats -/

/-- How the utility `printf` understands formats. -/
def dialect : Printing.Dialect where
  escapes := { octal := true, cuts := true, hexadecimal := true, quotes := true }
  argumentEscapes := {
    octal := true, zeroLed := true, cuts := true, hexadecimal := true, quotes := true }
  letters := Bytes.ofText "bcsdiouxXeEfFgGq"
  modifiers := Bytes.ofText "hlLjtz"
  bits := 64
  quote := Quoting.needed

def complaint : Printing.Complaint → Bytes
  | .notNumeric word => Quoting.plain word ++ Bytes.ofText ": expected a numeric value"
  | .notWhole word => Quoting.plain word ++ Bytes.ofText ": value not completely converted"
  | .outOfRange word => Quoting.plain word ++ Bytes.ofText ": Numerical result out of range"

def printf (c : Caller) (arguments : List Bytes) : Program Nat :=
  match if arguments.head? = some (Bytes.ofText "--") then arguments.tail else arguments with
  | [] => c.refuseText "missing operand"
  | pattern :: arguments => do
      let f := Printing.format dialect pattern arguments
      f.complaints.forM fun x => c.say (complaint x)
      let good ← c.emit f.text
      match f.broken with
      | some (text, _) =>
          c.say (text ++ Bytes.ofText ": invalid conversion specification")
          return c.failure
      | none =>
          -- A format that takes no arguments leaves them all.
          let extra := if f.cut || f.arguments.length < arguments.length then none
            else f.arguments.head?
          match extra with
          | some word =>
              c.say (Bytes.ofText "warning: ignoring excess arguments, starting with " ++
                Quoting.plain word)
          | none => pure ()
          return if good && f.complaints.isEmpty then 0 else c.failure

/-! ## Repeating -/

/-- How much `yes` writes at a time. -/
def repeatedSize : Nat := 8192

/-- Write the same line until nobody takes it. -/
def yes (c : Caller) (arguments : List Bytes) : Program Nat :=
  c.withArguments {} arguments fun a => do
    let words := if a.operands.isEmpty then [121] else Printing.joined a.operands
    let line := words ++ [Bytes.newline]
    let chunk := (List.replicate (max 1 (repeatedSize / line.length)) line).flatten
    iterate (fun (_ : Unit) => do
      match ← call (.write 1 chunk) with
      | .ok () => return .inl ()
      | .error e =>
          c.sayText ("standard output: " ++ e.text)
          return .inr c.failure) c.failure patience ()

/-! ## Sequences -/

/-- A number with some digits behind its point, as a multiple of the last of them. -/
structure Scaled where
  value : Int
  places : Nat
deriving DecidableEq, Repr

def Scaled.rescale (places : Nat) (s : Scaled) : Int :=
  s.value * Decimal.tenTo (places - s.places)

def scaled? (word : Bytes) : Option Scaled := do
  let d ← Decimal.ofText? word
  let places := if word.contains 101 || word.contains 69 then (Bytes.ofNat d.below).length - 1
    else ((word.dropWhile (· ≠ 46)).drop 1).length
  let size := d.above * Decimal.tenTo places / d.below
  return ⟨if d.negative then -(size : Int) else size, places⟩

def scaledText (places : Nat) (n : Int) : Bytes :=
  (if n < 0 then [45] else []) ++ Decimal.pointed places n.natAbs

/-- Fill a number up to a width with zeros behind its sign. -/
def widened (width : Nat) (text : Bytes) : Bytes :=
  let sign := text.takeWhile (· = 45)
  let body := text.drop sign.length
  sign ++ List.replicate (width - sign.length - body.length) 48 ++ body

/-- The numbers from one to another in steps; `fuel` bounds how many there are. -/
def steps (step last : Int) : (fuel : Nat) → Int → List Int
  | 0, _ => []
  | fuel + 1, n =>
      if (0 < step && last < n) || (step < 0 && n < last) then []
      else n :: steps step last fuel (n + step)

def seqOptions : OptionTable where
  plain := "w"
  valued := "sf"
  words := [("equal-width", 'w'), ("separator", 's'), ("format", 'f')]
  ordered := true

/-- Whether a word is a negative number rather than an option. -/
def isNegative (word : Bytes) : Bool :=
  match word with
  | 45 :: b :: _ => Bytes.isDigit b || b = 46
  | _ => false

/-- Whether an argument is an option whose value is the next argument. -/
def awaitsValue (word : Bytes) : Bool :=
  ["-s", "-ws", "-f", "-wf", "--separator", "--format"].any fun text => Bytes.ofText text = word

/-- Arguments with the mark that ends options in front of a negative number that stands where an
option could. -/
def guarded : List Bytes → List Bytes
  | [] => []
  | word :: rest =>
      if isNegative word then Bytes.ofText "--" :: word :: rest
      else if word.length < 2 || word.head? ≠ some 45 || word = Bytes.ofText "--" then word :: rest
      else if awaitsValue word then
        match rest with
        | [] => [word]
        | value :: rest => word :: value :: guarded rest
      else word :: guarded rest

/-- What is wrong with the form in which numbers are to be written, if something is: it must have
one place for a number. -/
def formatFault? (pattern : Bytes) : Option Bytes :=
  let shown := Bytes.ofText "format " ++ Quoting.plain pattern
  let rec places : (fuel : Nat) → Bytes → Nat × Option Bytes
    | 0, _ | _, [] => (0, none)
    | fuel + 1, 37 :: 37 :: rest => places fuel rest
    | fuel + 1, 37 :: rest =>
        let after := rest.dropWhile (Bytes.ofText "-+#0 '").contains
        let after := after.dropWhile Bytes.isDigit
        let after := if after.head? = some 46 then after.tail.dropWhile Bytes.isDigit else after
        let after := if after.head? = some 76 then after.tail else after
        match after with
        | [] => (1, some (Bytes.ofText " ends in %"))
        | b :: rest =>
            if (Bytes.ofText "efgaEFGA").contains b then
              let (more, wrong) := places fuel rest
              (more + 1, wrong)
            else (1, some (Bytes.ofText " has unknown %" ++ b :: Bytes.ofText " directive"))
    | fuel + 1, _ :: rest => places fuel rest
  match places pattern.length pattern with
  | (_, some wrong) => some (shown ++ wrong)
  | (0, none) => some (shown ++ Bytes.ofText " has no % directive")
  | (1, none) => none
  | (_, none) => some (shown ++ Bytes.ofText " has too many % directives")

def seq (c : Caller) (arguments : List Bytes) : Program Nat :=
  c.withArguments seqOptions (guarded arguments) fun a => do
    let between := (a.value? 's').getD [Bytes.newline]
    let show_ (first step last : Scaled) : Program Nat := do
      if step.value = 0 then
        c.refuse (Bytes.ofText "invalid Zero increment value: " ++
          Quoting.plain (a.operands[1]?.getD []))
      else
        let places := max first.places step.places
        let all := max places last.places
        let unit : Int := Decimal.tenTo (all - places)
        let from_ := first.rescale all
        let by_ := step.rescale all
        let final := last.rescale all
        let numbers := steps by_ final (((final - from_).natAbs / by_.natAbs) + 1) from_
        let texts := numbers.map fun n => scaledText places (n / unit)
        let width := max (scaledText places (from_ / unit)).length
          (scaledText places (final / unit)).length
        let texts := match a.value? 'f' with
          | some pattern => texts.map fun text => (Printing.format dialect pattern [text]).text
          | none => if a.has 'w' then texts.map (widened width) else texts
        c.finish (if texts.isEmpty then [] else between.intercalate texts ++ [Bytes.newline])
    match a.operands with
    | [] => return ← c.refuseText "missing operand"
    | _ :: _ :: _ :: extra :: _ =>
        return ← c.refuse (Bytes.ofText "extra operand " ++ Quoting.plain extra)
    | _ => pure ()
    if let some fault := (a.value? 'f').bind formatFault? then return ← c.abort fault
    if a.has 'f' && a.has 'w' then
      return ← c.refuseText "format string may not be specified when printing equal width strings"
    match a.operands.find? fun w => (scaled? w).isNone with
    | some word =>
        c.refuse (Bytes.ofText "invalid floating point argument: " ++ Quoting.plain word)
    | none =>
        match a.operands.filterMap scaled? with
        | [first, step, last] => show_ first step last
        | [first, last] => show_ first ⟨1, 0⟩ last
        | last => show_ ⟨1, 0⟩ ⟨1, 0⟩ (last.headD ⟨1, 0⟩)

/-! ## Where and who -/

def pwd (c : Caller) (arguments : List Bytes) : Program Nat :=
  c.withArguments { plain := "LP", words := [("logical", 'L'), ("physical", 'P')] } arguments
    fun a => do
      if !a.operands.isEmpty then c.sayText "ignoring non-option arguments"
      match ← call .workingDirectory with
      | .ok path => c.finish (path ++ [Bytes.newline])
      | .error e => c.abort (Bytes.ofText
          ("cannot find directory entry in '..' with matching i-node: " ++ e.text))

/-- The one user there is. -/
def id (c : Caller) (arguments : List Bytes) : Program Nat :=
  c.withArguments {
      plain := "ugnrG"
      words := [("user", 'u'), ("group", 'g'), ("groups", 'G'), ("name", 'n'), ("real", 'r')] }
    arguments fun a =>
      let number := a.has 'u' || a.has 'g' || a.has 'G'
      c.finish (Bytes.ofText
        (if !number then "uid=0(root) gid=0(root) groups=0(root)\n"
        else if a.has 'n' then "root\n" else "0\n"))

def whoami (c : Caller) (arguments : List Bytes) : Program Nat :=
  c.withArguments {} arguments fun a =>
    c.withOperands 0 a.operands (c.finish (Bytes.ofText "root\n"))

/-- The variables of the environment, or the values of some of them. -/
def printenv (c : Caller) (arguments : List Bytes) : Program Nat :=
  c.withArguments { plain := "0", words := [("null", '0')], ordered := true } arguments fun a => do
    let environment ← call .environment
    let ending : Bytes := if a.has '0' then [0] else [Bytes.newline]
    if a.operands.isEmpty then
      c.finish (environment.flatMap fun (name, value) => name ++ 61 :: value ++ ending)
    else
      let values := a.operands.filterMap fun name => environment.lookup name
      c.finish (values.flatMap (· ++ ending)) (if values.length = a.operands.length then 0 else 1)

/-- Whether standard input is a terminal, and which. -/
def tty (c : Caller) (arguments : List Bytes) : Program Nat :=
  c.withArguments { plain := "s", words := [("silent", 's'), ("quiet", 's')] } arguments fun a =>
    c.withOperands 0 a.operands do
      if ← call (.isTerminal 0) then
        if a.has 's' then return 0 else c.finish (Bytes.ofText "/dev/tty\n")
      else if a.has 's' then return 1
      else c.finish (Bytes.ofText "not a tty\n") 1

def uname (c : Caller) (arguments : List Bytes) : Program Nat :=
  c.withArguments { plain := "asnrvmpio", words := [("kernel-name", 's'), ("machine", 'm'),
    ("operating-system", 'o')] } arguments fun a =>
    c.withOperands 0 a.operands do
      let shown (letters : List Char) (text : String) : List String :=
        if letters.any a.has then [text] else []
      let words := (if a.options.isEmpty then ["Linux"] else shown ['s', 'a'] "Linux") ++
        shown ['m', 'a'] "x86_64" ++ shown ['p', 'i'] "unknown" ++ shown ['o', 'a'] "GNU/Linux"
      c.finish (Bytes.ofText (" ".intercalate words ++ "\n"))

/-! ## Examples -/

example : steps 2 7 10 1 = [1, 3, 5, 7] := by decide

end JobShell.Machine.Writing
