import JobShell.Machine.Numeral
import JobShell.Machine.Utility.Report

/-!
# Conditions of utilities

The utilities `test` and `[`: questions about files, texts and numbers, joined by `-a`, `-o`, `!`
and parentheses. How many words there are decides what the first ones mean.
-/

namespace JobShell.Machine.Testing

open Program Report

/-- Why a condition has no value. -/
inductive ConditionError
  | missingArgument
  | unaryExpected (word : Bytes)
  | binaryExpected (word : Bytes)
  | closingExpected (found : Option Bytes)
  | notInteger (word : Bytes)
  | noLength (operator : Bytes)
  | extra (word : Bytes)
  | missingBracket
deriving DecidableEq, Repr

/-- What is said about an error in a condition whose last word is given. -/
def ConditionError.message (last : Bytes) : ConditionError → Bytes
  | .missingArgument => Bytes.ofText "missing argument after " ++ Quoting.plain last
  | .unaryExpected word => Quoting.plain word ++ Bytes.ofText ": unary operator expected"
  | .binaryExpected word => Quoting.plain word ++ Bytes.ofText ": binary operator expected"
  | .closingExpected none => Bytes.ofText "')' expected"
  | .closingExpected (some word) => Bytes.ofText "')' expected, found " ++ Quoting.plain word
  | .notInteger word => Bytes.ofText "invalid integer " ++ Quoting.plain word
  | .noLength op => op ++ Bytes.ofText " does not accept -l"
  | .extra word => Bytes.ofText "extra argument " ++ Quoting.plain word
  | .missingBracket => Bytes.ofText "missing ']'"

/-- A condition as it is read: the words that are left. -/
abbrev Reading := StateT (List Bytes) (ExceptT ConditionError Program)

def ask (c : SystemCall) : Reading c.Reply := StateT.lift (ExceptT.lift (call c))

/-- The words that are left. -/
def left : Reading (List Bytes) := get

/-- Pass a word; if more are needed, some must be left. -/
def pass (more : Bool := false) : Reading Unit := do
  modify List.tail
  if more && (← left).isEmpty then throw .missingArgument

/-- Take a word off; one must be there. -/
def take : Reading Bytes := do
  match ← left with
  | [] => throw .missingArgument
  | w :: rest =>
      set rest
      return w

/-! ## Questions -/

def binaryOperators : List String :=
  ["=", "!=", "==", "-nt", "-ot", "-ef", "-eq", "-ne", "-lt", "-le", "-gt", "-ge"]

def isBinary (w : Bytes) : Bool := binaryOperators.any fun op => Bytes.ofText op = w

/-- Whether a word is a hyphen and one letter. -/
def looksUnary (w : Bytes) : Bool := w.head? = some Arguments.hyphen && w.length = 2

/-- What is known about a file, if it is there. -/
def facts? (path : Bytes) (follow : Bool := true) : Reading (Option FileFacts) := do
  return (← ask (.examine path follow)).toOption

/-- The number that a word is, blanks aside. -/
def number? (w : Bytes) : Option Int :=
  let text := w.dropWhile Numeral.isSpace
  let (negative, body) := match text with
    | 45 :: rest => (true, rest)
    | 43 :: rest => (false, rest)
    | rest => (false, rest)
  let (n, rest) := Numeral.digits 10 body
  if rest.length = body.length || !(rest.dropWhile Bytes.isBlank).isEmpty then none
  else some (if negative then -(n : Int) else n)

def number (w : Bytes) : Reading Int := do
  match number? w with
  | some n => return n
  | none => throw (.notInteger w)

/-- Answer the question about one word that stands in front. -/
def answerOne : Reading Bool := do
  let op ← take
  let about (holds : FileFacts → Bool) (follow : Bool := true) : Reading Bool := do
    return ((← facts? (← take) follow).map holds).getD false
  match String.ofList (op.tail.map fun b => Char.ofNat b.toNat) with
  | "e" => about fun _ => true
  | "f" => about (·.kind = .regular)
  | "d" => about (·.kind = .directory)
  | "c" => about (·.kind = .device)
  | "p" => about (·.kind = .fifo)
  | "h" | "L" => about (·.kind = .link) false
  | "s" => about (0 < ·.size)
  | "u" => about fun f => f.mode / 0o4000 % 2 = 1
  | "g" => about fun f => f.mode / 0o2000 % 2 = 1
  | "k" => about fun f => f.mode / 0o1000 % 2 = 1
  | "r" => about (·.allows .read)
  | "w" => about (·.allows .write)
  | "x" => about (·.allows .execute)
  | "O" | "G" | "N" => about fun _ => true
  | "b" | "S" => about fun _ => false
  | "n" => return !(← take).isEmpty
  | "z" => return (← take).isEmpty
  | "t" => do
      let n ← number (← take)
      if n < 0 then return false else ask (.isTerminal n.toNat)
  | _ => throw (.unaryExpected op)

/-- One side of a comparison. It can be `-l` and a word, which stands for the length of the word. -/
structure Side where
  word : Bytes
  isLength : Bool := false
deriving DecidableEq, Repr

/-- Take a side of a comparison off; `more` tells how many other words must be left behind it. -/
def takeSide (more : Nat) : Reading Side := do
  match ← left with
  | w :: v :: rest =>
      if w = Bytes.ofText "-l" && more ≤ rest.length then
        set rest
        return ⟨v, true⟩
      else return ⟨← take, false⟩
  | _ => return ⟨← take, false⟩

def Side.number (s : Side) : Reading Int :=
  if s.isLength then return s.word.length else Testing.number s.word

/-- Answer the question about two words that stands in front. -/
def answerTwo : Reading Bool := do
  let a ← takeSide 2
  let op ← take
  let b ← takeSide 0
  let wordsOnly (answer : Reading Bool) : Reading Bool :=
    if a.isLength || b.isLength then throw (.noLength op) else answer
  let numbers (holds : Int → Int → Bool) : Reading Bool := do
    let x ← a.number
    let y ← b.number
    return holds x y
  let files (holds : Option FileFacts → Option FileFacts → Bool) : Reading Bool := do
    let f ← facts? a.word
    let g ← facts? b.word
    return holds f g
  let isNewer (f g : Option FileFacts) : Bool :=
    match f, g with
    | some f, some g => decide (g.modified < f.modified)
    | f, _ => f.isSome
  match String.ofList (op.map fun b => Char.ofNat b.toNat) with
  | "!=" => return a.word ≠ b.word
  | "-eq" => numbers (· = ·)
  | "-ne" => numbers (· ≠ ·)
  | "-ge" => numbers (· ≥ ·)
  | "-gt" => numbers (· > ·)
  | "-le" => numbers (· ≤ ·)
  | "-lt" => numbers (· < ·)
  | "-nt" => wordsOnly (files isNewer)
  | "-ot" => wordsOnly (files fun f g => isNewer g f)
  | "-ef" => wordsOnly (files fun f g => f.isSome && f.map (·.node) = g.map (·.node))
  | _ => return a.word = b.word

/-! ## Conditions of few words -/

def one : Reading Bool := do return !(← take).isEmpty

def two : Reading Bool := do
  match ← left with
  | w :: _ =>
      if w = [33] then
        pass
        return !(← one)
      else if looksUnary w then answerOne
      else throw .missingArgument
  | [] => throw .missingArgument

/-- A condition of three words; `joined` reads one with `-a` or `-o` between two words. -/
def three (joined : Reading Bool) : Reading Bool := do
  match ← left with
  | a :: op :: b :: _ =>
      if isBinary op then answerTwo
      else if a = [33] then
        pass
        return !(← two)
      else if a = [40] && b = [41] then
        pass
        let answer ← one
        pass
        return answer
      else if op = Bytes.ofText "-a" || op = Bytes.ofText "-o" then joined
      else throw (.binaryExpected op)
  | _ => throw .missingArgument

/-- A condition of as many words; `joined` reads one by its operators. -/
def ofLength (joined : Reading Bool) : (count : Nat) → Reading Bool
  | 1 => one
  | 2 => two
  | 3 => three joined
  | 4 => do
      let words ← left
      if words.head? = some [33] then
        pass
        return !(← three joined)
      else if words.head? = some [40] && words[3]? = some [41] then
        pass
        let answer ← two
        pass
        return answer
      else joined
  | _ => joined

/-! ## Conditions with operators -/

/-- How many words stand up to a closing parenthesis; beyond four, all that are left. -/
def groupLength (words : List Bytes) : Nat :=
  let inner := (words.tail.takeWhile (· ≠ [41])).length + 1
  if 4 < inner then words.length else inner

mutual

/-- Conditions joined by `-o`. -/
def disjunction : (fuel : Nat) → Reading Bool
  | 0 => throw .missingArgument
  | fuel + 1 => do
      let a ← conjunction fuel
      if (← left).head? = some (Bytes.ofText "-o") then
        pass
        let b ← disjunction fuel
        return a || b
      else return a

/-- Conditions joined by `-a`. -/
def conjunction : (fuel : Nat) → Reading Bool
  | 0 => throw .missingArgument
  | fuel + 1 => do
      let a ← term fuel
      if (← left).head? = some (Bytes.ofText "-a") then
        pass
        let b ← conjunction fuel
        return a && b
      else return a

def term : (fuel : Nat) → Reading Bool
  | 0 => throw .missingArgument
  | fuel + 1 => do
      match ← left with
      | [] => throw .missingArgument
      | w :: rest =>
          if w = [33] then
            pass true
            return !(← term fuel)
          else if w = [40] then
            pass true
            let answer ← ofLength (disjunction fuel) (groupLength (← left))
            match ← left with
            | [] => throw (.closingExpected none)
            | close :: _ =>
                if close ≠ [41] then throw (.closingExpected (some close))
                pass
                return answer
          else if 3 ≤ rest.length && w = Bytes.ofText "-l" && isBinary (rest[1]?.getD []) then
            answerTwo
          else if 2 ≤ rest.length && isBinary (rest.headD []) then answerTwo
          else if looksUnary w then answerOne
          else one

end

/-- The value of a condition. -/
def decided (words : List Bytes) : Program (Except ConditionError Bool) :=
  if words.isEmpty then return .ok false
  else do
    let joined := disjunction (8 * words.length + 8)
    let reading : Reading Bool := do
      let answer ← ofLength joined words.length
      match ← left with
      | [] => return answer
      | w :: _ => throw (.extra w)
    return (← (reading.run words).run).map (·.1)

/-- The words of a condition in brackets, without the closing one. -/
def unbracket (words : List Bytes) : Except ConditionError (List Bytes) :=
  if words.getLast? = some (Bytes.ofText "]") then .ok words.dropLast else .error .missingBracket

/-- Evaluate a condition: 0 if it holds, 1 if not, 2 if it has no value. -/
def test (bracketed : Bool) (c : Caller) (arguments : List Bytes) : Program Nat := do
  let answer ← match if bracketed then unbracket arguments else .ok arguments with
    | .ok words => decided words
    | .error e => pure (.error e)
  match answer with
  | .ok answer => return if answer then 0 else 1
  | .error e =>
      let words := if bracketed then arguments.dropLast else arguments
      c.say (e.message (words.getLast?.getD []))
      return 2

end JobShell.Machine.Testing
