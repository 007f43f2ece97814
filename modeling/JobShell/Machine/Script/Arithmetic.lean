import JobShell.Machine.Numeral
import JobShell.Machine.Script

/-!
# Arithmetic

Expressions over 64-bit numbers: the operators of C without those that count up and down, and
assignments to variables. What a condition leaves out is read but not worked out.

Results:
1. The examples at the end: precedence, conditions, and what cannot be read.
-/

namespace JobShell.Machine

/-- Why an expression has no value. -/
inductive ArithmeticError
  | malformed (what : String)
  /-- The text is no number. -/
  | badNumber (text : Bytes)
deriving DecidableEq, Repr

/-- What is said about an expression that has no value. -/
def ArithmeticError.message (expression : Bytes) : ArithmeticError → Bytes
  | .malformed what =>
      Bytes.ofText ("arithmetic expression: " ++ what ++ ": \"") ++ expression ++ [34]
  | .badNumber text => Bytes.ofText "Illegal number: " ++ text

namespace Arithmetic

open Numeral

/-! ## Tokens -/

inductive Lexeme
  | number (n : Int)
  | name (text : Bytes)
  | operator (text : String)
  /-- A byte that means nothing. -/
  | stray
deriving DecidableEq, Repr

/-- The operators, the longer ones first. -/
def operators : List String :=
  ["<<=", ">>=", "==", "!=", "<=", ">=", "<<", ">>", "&&", "||", "*=", "/=", "%=", "+=", "-=", "&=",
    "^=", "|=", "<", ">", "*", "/", "%", "+", "-", "&", "^", "|", "=", "!", "~", "?", ":", "(", ")"]

/-- Cut an expression into lexemes; `fuel` bounds their number. -/
def lexemes : (fuel : Nat) → Bytes → List Lexeme
  | 0, _ => []
  | fuel + 1, bs =>
      match bs with
      | [] => []
      | b :: rest =>
          if b = 32 || b = 9 || b = 10 then lexemes fuel rest
          else if Bytes.isDigit b then
            let (n, rest) := prefixed bs
            .number (clamp n) :: lexemes fuel rest
          else if Word.isNameStart b then
            .name (bs.takeWhile Word.isNameByte) :: lexemes fuel (bs.dropWhile Word.isNameByte)
          else match operators.find? fun op => (Bytes.ofText op).isPrefixOf bs with
            | some op => .operator op :: lexemes fuel (bs.drop op.utf8ByteSize)
            | none => [.stray]

/-! ## Values -/

/-- What is left to read, and the variables: what they were before, and what they got, the last
first. -/
structure Calculation where
  left : List Lexeme
  value : Bytes → Bytes
  assigned : List (Bytes × Int) := []

abbrev Calculator := StateT Calculation (Except ArithmeticError)

def refuse {α : Type} (what : String) : Calculator α := throw (.malformed what)

def front : Calculator (Option Lexeme) := do return (← get).left.head?

def advance : Calculator Unit := modify fun c => { c with left := c.left.tail }

/-- The value of a variable. -/
def valueOf (name : Bytes) : Calculator Int := do
  let c ← get
  match c.assigned.lookup name with
  | some n => return n
  | none =>
      match number? false (c.value name) with
      | some n => return n
      | none => throw (.badNumber (c.value name))

/-- How tightly binary operators bind; the least number binds most. -/
def binaryRank? : String → Option Nat
  | "*" | "/" | "%" => some 0
  | "+" | "-" => some 1
  | "<<" | ">>" => some 2
  | "<" | "<=" | ">" | ">=" => some 3
  | "==" | "!=" => some 4
  | "&" => some 5
  | "^" => some 6
  | "|" => some 7
  | _ => none

/-- A rank behind all others. -/
def lastRank : Nat := 8

def truth (b : Bool) : Int := if b then 1 else 0

/-- The result of a binary operator; numbers wrap around. -/
def apply (op : String) (a b : Int) : Calculator Int := do
  let x := Int64.ofInt a
  let y := Int64.ofInt b
  match op with
  | "*" => return (x * y).toInt
  | "/" => if b = 0 then refuse "division by zero" else return (x / y).toInt
  | "%" => if b = 0 then refuse "division by zero" else return (x % y).toInt
  | "+" => return (x + y).toInt
  | "-" => return (x - y).toInt
  | "<<" => return (x <<< y).toInt
  | ">>" => return (x >>> y).toInt
  | "<" => return truth (a < b)
  | "<=" => return truth (a ≤ b)
  | ">" => return truth (b < a)
  | ">=" => return truth (b ≤ a)
  | "==" => return truth (a = b)
  | "!=" => return truth (a ≠ b)
  | "&" => return (x &&& y).toInt
  | "^" => return (x ^^^ y).toInt
  | _ => return (x ||| y).toInt

/-- The operator in an assignment: none for a plain one. -/
def assignment? (op : String) : Option (Option String) :=
  if op = "=" then some none
  else [("*=", "*"), ("/=", "/"), ("%=", "%"), ("+=", "+"), ("-=", "-"), ("<<=", "<<"),
    (">>=", ">>"), ("&=", "&"), ("^=", "^"), ("|=", "|")].lookup op |>.map some

mutual

/-- An assignment or a condition; in a part that is left out nothing is looked up or assigned. -/
def assignment (idle : Bool) : (fuel : Nat) → Calculator Int
  | 0 => refuse "expecting primary"
  | fuel + 1 => do
      match (← get).left with
      | .name name :: .operator op :: _ =>
          match assignment? op with
          | none => condition idle fuel
          | some how =>
              advance
              advance
              let given ← assignment idle fuel
              if idle then return given
              let n ← match how with
                | none => pure given
                | some op => do apply op (← valueOf name) given
              modify fun c => { c with assigned := (name, n) :: c.assigned }
              return n
      | _ => condition idle fuel

def condition (idle : Bool) : (fuel : Nat) → Calculator Int
  | 0 => refuse "expecting primary"
  | fuel + 1 => do
      let a ← disjunction idle fuel
      if (← front) ≠ some (.operator "?") then return a
      advance
      let b ← assignment (idle || a = 0) fuel
      if (← front) ≠ some (.operator ":") then refuse "expecting ':'"
      advance
      let c ← condition (idle || a ≠ 0) fuel
      return if a ≠ 0 then b else c

def disjunction (idle : Bool) : (fuel : Nat) → Calculator Int
  | 0 => refuse "expecting primary"
  | fuel + 1 => do
      let a ← conjunction idle fuel
      if (← front) ≠ some (.operator "||") then return a
      advance
      let b ← disjunction (idle || a ≠ 0) fuel
      return truth (a ≠ 0 || b ≠ 0)

def conjunction (idle : Bool) : (fuel : Nat) → Calculator Int
  | 0 => refuse "expecting primary"
  | fuel + 1 => do
      let a ← primary idle fuel
      let a ← binary idle lastRank a fuel
      if (← front) ≠ some (.operator "&&") then return a
      advance
      let b ← conjunction (idle || a = 0) fuel
      return truth (a ≠ 0 && b ≠ 0)

/-- Binary operators behind an operand, as far as they bind more tightly than a rank. -/
def binary (idle : Bool) (rank : Nat) (a : Int) : (fuel : Nat) → Calculator Int
  | 0 => refuse "expecting primary"
  | fuel + 1 => do
      match ← front with
      | some (.operator op) =>
          match binaryRank? op with
          | none => return a
          | some r =>
              if rank ≤ r then return a
              advance
              let b ← primary idle fuel
              let b ← binary idle r b fuel
              let n ← if idle then pure b else apply op a b
              binary idle rank n fuel
      | _ => return a

def primary (idle : Bool) : (fuel : Nat) → Calculator Int
  | 0 => refuse "expecting primary"
  | fuel + 1 => do
      let t ← front
      advance
      match t with
      | some (.number n) => return n
      | some (.name name) => if idle then return 0 else valueOf name
      | some (.operator "(") =>
          let n ← assignment idle fuel
          if (← front) ≠ some (.operator ")") then refuse "expecting ')'"
          advance
          return n
      | some (.operator "+") => primary idle fuel
      | some (.operator "-") => return (-(Int64.ofInt (← primary idle fuel))).toInt
      | some (.operator "!") => return truth ((← primary idle fuel) = 0)
      | some (.operator "~") => return (~~~(Int64.ofInt (← primary idle fuel))).toInt
      | _ => refuse "expecting primary"

end

/-- The value of an expression, and the variables that it assigns, the last one first. -/
def evaluate (value : Bytes → Bytes) (expression : Bytes) :
    Except ArithmeticError (Int × List (Bytes × Int)) := do
  let left := lexemes (expression.length + 1) expression
  let (n, c) ← (assignment false (8 * left.length + 8)).run { left, value }
  if c.left.isEmpty then return (n, c.assigned) else throw (.malformed "expecting EOF")

/-- What an expression without variables comes to. -/
def plainValue (s : String) : Option Int :=
  ((evaluate (fun _ => []) (Bytes.ofText s)).map (·.1)).toOption

/-- Why an expression without variables has no value. -/
def plainFault (s : String) : Option ArithmeticError :=
  match evaluate (fun _ => []) (Bytes.ofText s) with
  | .ok _ => none
  | .error e => some e

example : plainValue "2*3+4%3" = some 7 := by decide +kernel
example : plainValue "1 ? 2 : 3 / 0" = some 2 := by decide +kernel
example : plainFault "1+" = some (.malformed "expecting primary") := by decide +kernel
example : plainFault "1 2" = some (.malformed "expecting EOF") := by decide +kernel

end Arithmetic

end JobShell.Machine
