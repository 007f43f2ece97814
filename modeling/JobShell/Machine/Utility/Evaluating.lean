import JobShell.Machine.Regex.Parser
import JobShell.Machine.Utility.Report

/-!
# Expressions of words

The utility `expr`: every operator and every operand is a word of its own. Values are texts, and
some of them are numbers.

Results:
1. The examples at the end: what expressions come to.
-/

namespace JobShell.Machine.Evaluating

open Program Report

/-- Why an expression has no value. -/
inductive ExpressionError
  | missingAfter (word : Bytes)
  | missing
  | unexpected (word : Bytes)
  | expectedClosing (before : Bytes) (found : Option Bytes)
  | notInteger
  | divisionByZero
  | badPattern (e : Regex.PatternError)
deriving DecidableEq, Repr

def ExpressionError.message : ExpressionError → Bytes
  | .missingAfter word => Bytes.ofText "syntax error: missing argument after " ++ Quoting.plain word
  | .missing => Bytes.ofText "missing operand"
  | .unexpected word =>
      Bytes.ofText "syntax error: unexpected " ++
        (if word = [41] then Bytes.ofText "')'" else Bytes.ofText "argument " ++ Quoting.plain word)
  | .expectedClosing before none =>
      Bytes.ofText "syntax error: expecting ')' after " ++ Quoting.plain before
  | .expectedClosing _ (some word) =>
      Bytes.ofText "syntax error: expecting ')' instead of " ++ Quoting.plain word
  | .notInteger => Bytes.ofText "non-integer argument"
  | .divisionByZero => Bytes.ofText "division by zero"
  | .badPattern e => Bytes.ofText e.message

/-- An expression as it is read. -/
structure Reader where
  rest : List Bytes
  last : Bytes := []
deriving DecidableEq, Repr

abbrev Evaluation := StateT Reader (Except ExpressionError)

def peek : Evaluation (Option Bytes) := do return (← get).rest.head?

def take : Evaluation Bytes := do
  let s ← get
  match s.rest with
  | [] => throw (if s.last.isEmpty then .missing else .missingAfter s.last)
  | w :: rest =>
      set ({ rest, last := w } : Reader)
      return w

/-- Take one of some words. -/
def takeOne (words : List String) : Evaluation (Option String) := do
  match ← peek with
  | none => return none
  | some w =>
      match words.find? fun word => Bytes.ofText word = w with
      | none => return none
      | some word =>
          discard take
          return some word

/-! ## Values -/

/-- Whether a value counts as nothing: an empty text, or a zero. -/
def isNull (v : Bytes) : Bool :=
  let digits := if v.head? = some 45 && 1 < v.length then v.tail else v
  digits.all (· = 48)

/-- The number that a value is. -/
def integer? (v : Bytes) : Option Int :=
  match v with
  | 45 :: digits => (Bytes.decimal? digits).map fun n => -(n : Int)
  | _ => (Bytes.decimal? v).map Int.ofNat

def integer (v : Bytes) : Evaluation Int :=
  match integer? v with
  | some n => return n
  | none => throw .notInteger

def ofInt (n : Int) : Bytes := Bytes.ofText (toString n)

def truth (b : Bool) : Bytes := if b then [49] else [48]

def compared (op : String) (a b : Bytes) : Bool :=
  let order : Ordering := match integer? a, integer? b with
    | some x, some y => compare x y
    | _, _ => if a = b then .eq else if Bytes.le a b then .lt else .gt
  match op with
  | "<" => order = .lt
  | "<=" => order ≠ .gt
  | "!=" => order ≠ .eq
  | ">=" => order ≠ .lt
  | ">" => order = .gt
  | _ => order = .eq

/-- What an expression matches at the start of a text: its first group, or how much. -/
def matched (text pattern : Bytes) : Evaluation Bytes := do
  match Regex.parse? {} pattern with
  | .error e => throw (.badPattern e)
  | .ok r =>
      let bytes := text.toArray
      let grouped := 0 < Regex.groupCount r
      match r.matchAt? bytes {} 0 with
      | some m => return if grouped then m.part bytes 1 else Bytes.ofNat m.stop
      | none => return if grouped then [] else [48]

/-- The part of a text from a place on, counted from 1. -/
def portion (text : Bytes) (start count : Int) : Bytes :=
  if start < 1 || count < 1 then [] else (text.drop (start.toNat - 1)).take count.toNat

/-- Where the first of some bytes stands in a text, counted from 1. -/
def indexOf (text bytes : Bytes) : Nat :=
  ((text.findIdx? bytes.contains).map (· + 1)).getD 0

/-! ## Expressions -/

/-- The levels of operators from the loosest to the tightest. -/
def levels : List (List String) :=
  [["|"], ["&"], ["<", "<=", "=", "==", "!=", ">=", ">"], ["+", "-"], ["*", "/", "%"], [":"]]

def applied (op : String) (a b : Bytes) : Evaluation Bytes := do
  match op with
  | "|" => return if !isNull a then a else if isNull b then [48] else b
  | "&" => return if isNull a || isNull b then [48] else a
  | "+" => return ofInt ((← integer a) + (← integer b))
  | "-" => return ofInt ((← integer a) - (← integer b))
  | "*" => return ofInt ((← integer a) * (← integer b))
  | "/" | "%" => do
      let x ← integer a
      let y ← integer b
      if y = 0 then throw .divisionByZero
      return ofInt (if op = "/" then x.tdiv y else x.tmod y)
  | ":" => matched a b
  | op => return truth (compared op a b)

/-- Whether the right side of an operator has no say. -/
def isSettled (op : String) (a : Bytes) : Bool :=
  (op = "|" && !isNull a) || (op = "&" && isNull a)

mutual

/-- An expression whose operators come from some levels; `active` tells whether its value counts.
`fuel` bounds the words. -/
def expression : (fuel : Nat) → (active : Bool) → List (List String) → Evaluation Bytes
  | 0, _, _ => return []
  | fuel + 1, active, [] => operand fuel active
  | fuel + 1, active, ops :: tighter => do
      let first ← expression fuel active tighter
      others fuel active ops tighter first

/-- The operators of one level behind a value, with their right sides. -/
def others : (fuel : Nat) → (active : Bool) → List String → List (List String) → Bytes →
    Evaluation Bytes
  | 0, _, _, _, a => return a
  | fuel + 1, active, ops, tighter, a => do
      match ← takeOne ops with
      | none => return a
      | some op =>
          let b ← expression fuel (active && !isSettled op a) tighter
          let value ← if active then
              (if isSettled op a then pure (if op = "&" then [48] else a) else applied op a b)
            else pure a
          others fuel active ops tighter value

def operand : (fuel : Nat) → (active : Bool) → Evaluation Bytes
  | 0, _ => return []
  | fuel + 1, active => do
      let w ← take
      match String.ofList (w.map fun b => Char.ofNat b.toNat) with
      | "+" => take
      | "(" => do
          let value ← expression fuel active levels
          let last := (← get).last
          match ← peek with
          | none => throw (.expectedClosing last none)
          | some close =>
              if close ≠ [41] then throw (.expectedClosing last (some close))
              discard take
              return value
      | ")" => throw (.unexpected w)
      | "length" => do return Bytes.ofNat (← operand fuel active).length
      | "match" => do
          let text ← operand fuel active
          let pattern ← operand fuel active
          if active then matched text pattern else return []
      | "index" => do
          let text ← operand fuel active
          return Bytes.ofNat (indexOf text (← operand fuel active))
      | "substr" => do
          let text ← operand fuel active
          let start ← operand fuel active
          let count ← operand fuel active
          return match integer? start, integer? count with
            | some start, some count => portion text start count
            | _, _ => []
      | _ => return w

end

/-- The value of an expression. -/
def value? (words : List Bytes) : Except ExpressionError Bytes := do
  let (value, left) ← (expression (16 * words.length + 16) true levels).run { rest := words }
  match left.rest with
  | [] => return value
  | w :: _ => throw (.unexpected w)

def expr (c : Caller) (arguments : List Bytes) : Program Nat := do
  let words := if arguments.head? = some (Bytes.ofText "--") then arguments.tail else arguments
  if words.isEmpty then c.refuseText "missing operand"
  else match value? words with
    | .error e => c.abort e.message
    | .ok value => c.finish (value ++ [Bytes.newline]) (if isNull value then 1 else 0)

/-! ## Examples -/

/-- The value of an expression whose words stand between blanks. -/
def valueOf (text : String) : Option Bytes :=
  (value? (Bytes.splitOn Bytes.space (Bytes.ofText text))).toOption

example : valueOf "1 + 2 * 3" = some (Bytes.ofText "7") := by decide +kernel
example : valueOf "( 1 + 2 ) * -3" = some (Bytes.ofText "-9") := by decide +kernel
example : valueOf "abc : a\\(.\\)" = some (Bytes.ofText "b") := by decide +kernel
example : valueOf "0 | a" = some (Bytes.ofText "a") := by decide +kernel
example : valueOf "1 +" = none := by decide +kernel

end JobShell.Machine.Evaluating
