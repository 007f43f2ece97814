import JobShell.Machine.Decimal
import JobShell.Machine.Lines
import JobShell.Machine.Printing
import JobShell.Machine.Regex.Parser
import JobShell.Machine.Utility.Report

/-!
# Records and fields

The utility `awk`, as far as its programs are rules of patterns and simple actions: every line is a
record, and its words are fields. Values are numbers, texts, or texts that were read and may be
numbers.

Results:
1. The examples at the end: rules and what they make of a text.
-/

namespace JobShell.Machine.Records

open Program Report

/-! ## Values -/

/-- A number as a quotient. -/
structure Number where
  above : Int
  below : Nat := 1
deriving DecidableEq, Repr

namespace Number

def ofDecimal (d : Decimal) : Number := ⟨if d.negative then -(d.above : Int) else d.above, d.below⟩

def toDecimal (n : Number) : Decimal :=
  { negative := n.above < 0, above := n.above.natAbs, below := n.below }

def add (a b : Number) : Number := ⟨a.above * b.below + b.above * a.below, a.below * b.below⟩
def neg (a : Number) : Number := ⟨-a.above, a.below⟩
def mul (a b : Number) : Number := ⟨a.above * b.above, a.below * b.below⟩

/-- A quotient of numbers; dividing by zero gives zero. -/
def div (a b : Number) : Number :=
  if b.above = 0 then ⟨0, 1⟩
  else ⟨a.above * b.below * (if b.above < 0 then -1 else 1), a.below * b.above.natAbs⟩

/-- The whole part of a number. -/
def whole (a : Number) : Int := a.above.tdiv a.below

def compare (a b : Number) : Ordering := Ord.compare (a.above * b.below) (b.above * a.below)

/-- A number as it is shown: whole, or with six digits. -/
def text (n : Number) : Bytes :=
  if n.above % n.below = 0 then Bytes.ofText (toString (n.above / n.below))
  else (if n.above < 0 then [45] else []) ++ n.toDecimal.general 6 false

end Number

inductive Value
  | number (n : Number)
  | text (bs : Bytes)
  /-- A text that was read. -/
  | input (bs : Bytes)
deriving DecidableEq, Repr

namespace Value

def bytes : Value → Bytes
  | .number n => n.text
  | .text bs | .input bs => bs

def toNumber : Value → Number
  | .number n => n
  | .text bs | .input bs => .ofDecimal (Decimal.leading bs).1

/-- The number that a value is, if it is one as a whole. -/
def number? : Value → Option Number
  | .number n => some n
  | .text _ => none
  | .input bs =>
      let trimmed := (bs.reverse.dropWhile Numeral.isSpace).reverse
      (Decimal.ofText? trimmed).map .ofDecimal

def isTrue (v : Value) : Bool :=
  match v, v.number? with
  | _, some n => n.above ≠ 0
  | v, none => !v.bytes.isEmpty

def compare (a b : Value) : Ordering :=
  match a.number?, b.number? with
  | some x, some y => x.compare y
  | _, _ =>
      let s := a.bytes
      let t := b.bytes
      if s = t then .eq else if Bytes.le s t then .lt else .gt

def ofBool (b : Bool) : Value := .number ⟨if b then 1 else 0, 1⟩

end Value

/-! ## Programs -/

inductive Operator
  | add | sub | mul | div | mod
  | less | atMost | equal | unequal | atLeast | greater
  | join | and | or
deriving DecidableEq, Repr

inductive Expression
  | value (v : Value)
  | fits (r : Regex)
  | variable_ (name : Bytes)
  | field (index : Expression)
  | binary (op : Operator) (a b : Expression)
  | matched (text : Expression) (r : Expression) (negated : Bool)
  | not (e : Expression)
  | negated (e : Expression)
  | assign (target value : Expression)
  | call (name : Bytes) (a b c : Expression)
deriving DecidableEq, Repr

inductive Statement
  | print (es : List Expression)
  | format (es : List Expression)
  | evaluate (e : Expression)
  | next
  | exit
deriving DecidableEq, Repr

/-- When the statements of a rule are run. -/
inductive Moment
  | atStart
  | atEnd
  | always
  | when (e : Expression)
deriving DecidableEq, Repr

structure Rule where
  moment : Moment
  statements : List Statement
deriving DecidableEq, Repr

/-! ## Reading programs -/

inductive Token
  | number (n : Number)
  | text (bs : Bytes)
  | regex (bs : Bytes)
  | name (bs : Bytes)
  | sign (s : String)
  | newline
deriving DecidableEq, Repr

def isNameStart (b : UInt8) : Bool := Regex.isWordByte b && !Bytes.isDigit b

/-- Whether a slash behind a token divides. -/
def endsOperand : Option Token → Bool
  | some (.number _) | some (.text _) | some (.name _) | some (.sign ")") | some (.sign "$") => true
  | _ => false

def signs : List String :=
  ["==", "!=", "<=", ">=", "&&", "||", "!~", "+=", "-=", "*=", "/=", "\x7b", "\x7d", "(", ")", ",",
    ";", "+", "-", "*", "/", "%", "<", ">", "!", "~", "$", "="]

/-- A text up to a delimiter that is not escaped, and what follows it; `fuel` bounds the bytes. -/
def upTo (delimiter : UInt8) : (fuel : Nat) → Bytes → Option (Bytes × Bytes)
  | 0, _ => none
  | fuel + 1, text =>
      match text with
      | [] => none
      | 92 :: b :: rest =>
          (upTo delimiter fuel rest).map fun (found, rest) =>
            ((if b = delimiter then [b] else [92, b]) ++ found, rest)
      | b :: rest =>
          if b = delimiter then some ([], rest)
          else (upTo delimiter fuel rest).map fun (found, rest) => (b :: found, rest)

/-- Cut a program into tokens; `fuel` bounds their number. -/
def tokens : (fuel : Nat) → (last : Option Token) → Bytes → Option (List Token)
  | 0, _, _ => none
  | fuel + 1, last, text =>
      let go (t : Token) (rest : Bytes) : Option (List Token) :=
        (tokens fuel (some t) rest).map (t :: ·)
      match text with
      | [] => some []
      | b :: rest =>
          if Bytes.isBlank b then tokens fuel last rest
          else if b = 10 then go .newline rest
          else if b = 35 then tokens fuel last (rest.dropWhile (· ≠ 10))
          else if b = 34 then
            (upTo 34 (rest.length + 1) rest).bind fun (found, rest) =>
              go (.text (Printing.unescape { octal := true } found).bytes) rest
          else if b = 47 && !endsOperand last then
            (upTo 47 (rest.length + 1) rest).bind fun (found, rest) => go (.regex found) rest
          else if Bytes.isDigit b || (b = 46 && (rest.head?.map Bytes.isDigit).getD false) then
            let (d, rest) := Decimal.leading text
            go (.number (.ofDecimal d)) rest
          else if isNameStart b then
            let name := text.takeWhile Regex.isWordByte
            go (.name name) (text.drop name.length)
          else match signs.find? fun s => (Bytes.ofText s).isPrefixOf text with
            | some s => go (.sign s) (text.drop s.length)
            | none => none

abbrev Reading := StateT (List Token) Option

def peek : Reading (Option Token) := do return (← get).head?

def advance : Reading Unit := modify List.tail

/-- Take a token if it is the next one. -/
def takes (t : Token) : Reading Bool := do
  if (← peek) = some t then
    advance
    return true
  else return false

def expect (s : String) : Reading Unit := do if !(← takes (.sign s)) then failure

/-- Operators of two operands, from the loosest level to the tightest. -/
def levels : List (List (String × Operator)) :=
  [[("||", .or)], [("&&", .and)],
    [("<", .less), ("<=", .atMost), ("==", .equal), ("!=", .unequal), (">=", .atLeast),
      (">", .greater)],
    [], [("+", .add), ("-", .sub)], [("*", .mul), ("/", .div), ("%", .mod)]]

/-- Whether an operand can start with a token. -/
def startsOperand : Option Token → Bool
  | some (.number _) | some (.text _) | some (.name _) | some (.sign "$") | some (.sign "(")
  | some (.sign "!") | some (.sign "-") => true
  | _ => false

def pattern (bs : Bytes) : Reading Regex :=
  match Regex.parse? { extended := true, controls := true } bs with
  | .ok r => return r
  | .error _ => failure

mutual

def expression : (fuel : Nat) → Reading Expression
  | 0 => failure
  | fuel + 1 => do
      let first ← matching fuel
      let assigned (op : Option Operator) : Reading Expression := do
        advance
        let value ← expression fuel
        return .assign first (match op with
          | some op => .binary op first value
          | none => value)
      match ← peek with
      | some (.sign "=") => assigned none
      | some (.sign "+=") => assigned (some .add)
      | some (.sign "-=") => assigned (some .sub)
      | some (.sign "*=") => assigned (some .mul)
      | some (.sign "/=") => assigned (some .div)
      | _ => return first

/-- A match of a text with an expression. -/
def matching : (fuel : Nat) → Reading Expression
  | 0 => failure
  | fuel + 1 => do
      let first ← level fuel levels
      if ← takes (.sign "~") then return .matched first (← level fuel levels) false
      else if ← takes (.sign "!~") then return .matched first (← level fuel levels) true
      else return first

def level : (fuel : Nat) → List (List (String × Operator)) → Reading Expression
  | 0, _ => failure
  | fuel + 1, [] => unary fuel
  | fuel + 1, ops :: tighter => do others fuel ops tighter (← level fuel tighter)

/-- What follows an operand on one level; a level without operators joins texts. -/
def others : (fuel : Nat) → List (String × Operator) → List (List (String × Operator)) →
    Expression → Reading Expression
  | 0, _, _, a => return a
  | fuel + 1, ops, tighter, a => do
      let next ← peek
      if ops.isEmpty then
        if startsOperand next && next ≠ some (.sign "-") then
          others fuel ops tighter (.binary .join a (← level fuel tighter))
        else return a
      else match next with
        | some (.sign s) =>
            match ops.lookup s with
            | some op =>
                advance
                others fuel ops tighter (.binary op a (← level fuel tighter))
            | none => return a
        | _ => return a

def unary : (fuel : Nat) → Reading Expression
  | 0 => failure
  | fuel + 1 => do
      match ← peek with
      | some (.sign "!") =>
          advance
          return .not (← unary fuel)
      | some (.sign "-") =>
          advance
          return .negated (← unary fuel)
      | some (.sign "$") =>
          advance
          return .field (← unary fuel)
      | some (.sign "(") =>
          advance
          let e ← expression fuel
          expect ")"
          return e
      | some (.number n) =>
          advance
          return .value (.number n)
      | some (.text bs) =>
          advance
          return .value (.text bs)
      | some (.regex bs) =>
          advance
          return .fits (← pattern bs)
      | some (.name name) =>
          advance
          if ← takes (.sign "(") then
            let nothing := Expression.value (.text [])
            let arguments ← if ← takes (.sign ")") then pure [] else do
              let found ← expressions fuel
              expect ")"
              pure found
            return .call name (arguments[0]?.getD (.field (.value (.number ⟨0, 1⟩))))
              (arguments[1]?.getD nothing) (arguments[2]?.getD nothing)
          else if name = Bytes.ofText "length" then
            return .call name (.field (.value (.number ⟨0, 1⟩))) (.value (.text []))
              (.value (.text []))
          else return .variable_ name
      | _ => failure

/-- Expressions with commas between them. -/
def expressions : (fuel : Nat) → Reading (List Expression)
  | 0 => failure
  | fuel + 1 => do
      let first ← expression fuel
      if ← takes (.sign ",") then return first :: (← expressions fuel) else return [first]

end

/-- Whether a statement ends in front of a token. -/
def endsStatement : Option Token → Bool
  | none | some .newline | some (.sign ";") | some (.sign "\x7d") => true
  | _ => false

def statement (fuel : Nat) : Reading Statement := do
  let arguments : Reading (List Expression) := do
    if endsStatement (← peek) then return [] else expressions fuel
  let isName (text : String) : Reading Bool := takes (.name (Bytes.ofText text))
  if ← isName "print" then return .print (← arguments)
  else if ← isName "printf" then return .format (← arguments)
  else if ← isName "next" then return .next
  else if ← isName "exit" then
    discard arguments
    return .exit
  else return .evaluate (← expression fuel)

/-- Statements up to a closing brace; `fuel` bounds their number. -/
def statements : (fuel : Nat) → Reading (List Statement)
  | 0 => failure
  | fuel + 1 => do
      if (← takes .newline) || (← takes (.sign ";")) then statements fuel
      else if ← takes (.sign "\x7d") then return []
      else
        let first ← statement fuel
        if !endsStatement (← peek) then failure
        return first :: (← statements fuel)

/-- The rules of a program; `fuel` bounds their number. -/
def rules : (fuel : Nat) → Reading (List Rule)
  | 0 => failure
  | fuel + 1 => do
      match ← peek with
      | none => return []
      | some .newline | some (.sign ";") =>
          advance
          rules fuel
      | some t =>
          let moment ← if t = .sign "\x7b" then pure .always
            else if t = .name (Bytes.ofText "BEGIN") then do
              advance
              pure .atStart
            else if t = .name (Bytes.ofText "END") then do
              advance
              pure .atEnd
            else do pure (.when (← expression fuel))
          let body ← if ← takes (.sign "\x7b") then statements fuel else pure [.print []]
          return { moment, statements := body } :: (← rules fuel)

/-- Read a program. -/
def program? (text : Bytes) : Option (List Rule) := do
  let all ← tokens (text.length + 1) none text
  let (found, _) ← (rules (16 * all.length + 16)).run all
  return found

/-! ## Running programs -/

structure State where
  record : Bytes := []
  fields : List Bytes := []
  bindings : List (Bytes × Value)
  /-- What has been written, the last part first. -/
  parts : List Bytes := []
  /-- Whether the record at hand is done with, and whether all are. -/
  passed : Bool := false
  ended : Bool := false

namespace State

def variable_ (s : State) (name : String) : Value :=
  (s.bindings.lookup (Bytes.ofText name)).getD (.input [])

def set (s : State) (name : Bytes) (v : Value) : State :=
  { s with bindings := (name, v) :: s.bindings.filter (·.1 ≠ name) }

/-- Cut a record into its fields. -/
def split (s : State) (record : Bytes) : List Bytes :=
  match (s.variable_ "FS").bytes with
  | [32] => (Bytes.splitOn Bytes.space (record.map fun b =>
      if Bytes.isBlank b || b = 10 then Bytes.space else b)).filter (!·.isEmpty)
  | [b] => if record.isEmpty then [] else Bytes.splitOn b record
  | _ => [record]

def count (s : State) (n : Nat) : State := s.set (Bytes.ofText "NF") (.number ⟨n, 1⟩)

/-- Make a text the record at hand. -/
def take (s : State) (record : Bytes) : State :=
  let fields := s.split record
  { s with record, fields }.count fields.length

def field (s : State) (n : Nat) : Value :=
  if n = 0 then .input s.record else .input ((s.fields[n - 1]?).getD [])

/-- Give a field a new text; the record follows. -/
def setField (s : State) (n : Nat) (text : Bytes) : State :=
  if n = 0 then s.take text
  else
    let fields := s.fields ++ List.replicate (n - s.fields.length) []
    let fields := fields.set (n - 1) text
    { s with fields, record := (s.variable_ "OFS").bytes.intercalate fields }.count fields.length

end State

def matches? (r : Regex) (text : Bytes) : Bool := (r.find? text.toArray).isSome

/-- A part of a text, whose places count from 1. -/
def portion (text : Bytes) (start : Int) (count : Option Int) : Bytes :=
  let stop : Int := match count with
    | some n => start + n
    | none => (text.length : Int) + 1
  let first : Int := max 1 start
  (text.drop (first - 1).toNat).take (stop - first).toNat

def called (name : Bytes) (a b c : Value) : Value :=
  let text := a.bytes
  let change (f : UInt8 → UInt8) : Value := .text (text.map f)
  match String.ofList (name.map fun b => Char.ofNat b.toNat) with
  | "length" => .number ⟨text.length, 1⟩
  | "int" => .number ⟨a.toNumber.whole, 1⟩
  | "toupper" => change fun b => if 97 ≤ b && b ≤ 122 then b - 32 else b
  | "tolower" => change fun b => if 65 ≤ b && b ≤ 90 then b + 32 else b
  | "substr" =>
      .text (portion text b.toNumber.whole
        (if c = .text [] then none else some c.toNumber.whole))
  | "index" =>
      let part := b.bytes
      let found := (List.range (text.length + 1)).find? fun i => part.isPrefixOf (text.drop i)
      .number ⟨((found.map Nat.succ).getD 0 : Nat), 1⟩
  | _ => .text []

def applied (op : Operator) (a b : Value) : Value :=
  let x := a.toNumber
  let y := b.toNumber
  match op with
  | .add => .number (x.add y)
  | .sub => .number (x.add y.neg)
  | .mul => .number (x.mul y)
  | .div => .number (x.div y)
  | .mod => .number (x.add (y.mul ⟨(x.div y).whole, 1⟩).neg)
  | .less => .ofBool (a.compare b = .lt)
  | .atMost => .ofBool (a.compare b ≠ .gt)
  | .equal => .ofBool (a.compare b = .eq)
  | .unequal => .ofBool (a.compare b ≠ .eq)
  | .atLeast => .ofBool (a.compare b ≠ .lt)
  | .greater => .ofBool (a.compare b = .gt)
  | .join => .text (a.bytes ++ b.bytes)
  | .and => .ofBool (a.isTrue && b.isTrue)
  | .or => .ofBool (a.isTrue || b.isTrue)

/-- The value of an expression. -/
def evaluate : Expression → StateM State Value
  | .value v => return v
  | .fits r => do return .ofBool (matches? r (← get).record)
  | .variable_ name => do return ((← get).bindings.lookup name).getD (.input [])
  | .field index => do
      let n := (← evaluate index).toNumber.whole
      return (← get).field n.toNat
  | .binary op a b => do
      let x ← evaluate a
      if (op = .and && !x.isTrue) || (op = .or && x.isTrue) then return .ofBool x.isTrue
      return applied op x (← evaluate b)
  | .matched text r negated => do
      let bytes := (← evaluate text).bytes
      let found ← match r with
        | .fits r => pure (matches? r bytes)
        | other => do
            let pattern := (← evaluate other).bytes
            pure (match Regex.parse? { extended := true } pattern with
              | .ok r => matches? r bytes
              | .error _ => false)
      return .ofBool (found != negated)
  | .not e => do return .ofBool !(← evaluate e).isTrue
  | .negated e => do return .number (← evaluate e).toNumber.neg
  | .assign target value => do
      let v ← evaluate value
      match target with
      | .variable_ name => modify (·.set name v)
      | .field index =>
          let n := (← evaluate index).toNumber.whole
          modify (·.setField n.toNat v.bytes)
      | _ => pure ()
      return v
  | .call name a b c => do
      let x ← evaluate a
      let y ← evaluate b
      let z ← evaluate c
      return called name x y z

def put (bs : Bytes) : StateM State Unit := modify fun s => { s with parts := bs :: s.parts }

def obey : Statement → StateM State Unit
  | .print es => do
      let values ← es.mapM evaluate
      let s ← get
      let texts := if values.isEmpty then [s.record] else values.map (·.bytes)
      put ((s.variable_ "OFS").bytes.intercalate texts ++ (s.variable_ "ORS").bytes)
  | .format es => do
      let values ← es.mapM evaluate
      match values with
      | [] => return
      | pattern :: rest =>
          put (Printing.format Printing.scriptDialect pattern.bytes (rest.map (·.bytes))).text
  | .evaluate e => discard <| evaluate e
  | .next => modify ({ · with passed := true })
  | .exit => modify ({ · with passed := true, ended := true })

/-- Run statements until the record is done with. -/
def obeyAll : List Statement → StateM State Unit
  | [] => return
  | first :: rest => do
      obey first
      if !(← get).passed then obeyAll rest

/-- Run the rules that apply to the record at hand. -/
def applyRules : List Rule → StateM State Unit
  | [] => return
  | r :: rest => do
      let applies ← match r.moment with
        | .always => pure true
        | .when e => do pure (← evaluate e).isTrue
        | _ => pure false
      if applies then obeyAll r.statements
      if !(← get).passed then applyRules rest

def applyRecords (rs : List Rule) : (number : Nat) → List Bytes → StateM State Unit
  | _, [] => return
  | number, record :: rest => do
      if (← get).ended then return
      modify fun s =>
        ({ s with passed := false }.set (Bytes.ofText "NR") (.number ⟨number, 1⟩)).take record
      applyRules rs
      applyRecords rs (number + 1) rest

def firstVariables (separator : Bytes) : List (Bytes × Value) :=
  [("OFS", " "), ("ORS", "\n"), ("NR", "0"), ("NF", "0")].map (fun (name, value) =>
    (Bytes.ofText name, Value.input (Bytes.ofText value))) ++
    [(Bytes.ofText "FS", .text separator)]

/-- What a program writes for some records. -/
def run (rs : List Rule) (bindings : List (Bytes × Value)) (records : List Bytes) : Bytes :=
  let at_ (m : Moment) : StateM State Unit := do
    modify ({ · with passed := false })
    obeyAll ((rs.filter (·.moment = m)).flatMap (·.statements))
  let act : StateM State Unit := do
    at_ .atStart
    applyRecords rs 1 records
    at_ .atEnd
  (act.run { bindings }).2.parts.reverse.flatten

/-- The variables that options set. -/
def givenVariables (a : Arguments) : List (Bytes × Value) :=
  a.options.filterMap fun (letter, setting) =>
    let name := setting.takeWhile (· ≠ 61)
    if letter = 'v' then some (name, .input (setting.drop (name.length + 1))) else none

def awk (c : Caller) (arguments : List Bytes) : Program Nat :=
  c.withArguments { valued := "Fvf", ordered := true } arguments fun a => do
    let separator := (Printing.unescape {} ((a.value? 'F').getD [Bytes.space])).bytes
    match a.operands with
    | [] =>
        complain "Usage: awk [options] 'program' [file ...]\n"
        return c.failure
    | text :: files =>
        match program? text with
        | none => c.abort (Bytes.ofText "syntax error at source line 1")
        | some rs =>
            let reads := rs.any (·.moment ≠ .atStart)
            let (contents, good) ← if reads then readEach c (sources files) else pure ([], true)
            let records := contents.flatMap fun (_, text) => Lines.ofBytes text
            c.finish (run rs (givenVariables a ++ firstVariables separator) records)
              (if good then 0 else 2)

/-! ## Examples -/

/-- What a program makes of a text. -/
def made (program text : String) : Option Bytes :=
  (program? (Bytes.ofText program)).map fun rs =>
    run rs (firstVariables [Bytes.space]) (Lines.ofBytes (Bytes.ofText text))

example : made "1" "a\nb\n" = some (Bytes.ofText "a\nb\n") := by decide +kernel
example : made "\x7bprint $2, NR\x7d" "a b\nc d\n" = some (Bytes.ofText "b 1\nd 2\n") := by
  decide +kernel
example : made "/b/" "a\nb\n" = some (Bytes.ofText "b\n") := by decide +kernel
example : made "\x7bs += $1\x7d END \x7bprint s / 2\x7d" "1\n2\n" =
    some (Bytes.ofText "1.5\n") := by
  decide +kernel

end JobShell.Machine.Records
