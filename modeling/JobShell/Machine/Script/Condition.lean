import JobShell.Machine.Numeral
import JobShell.Machine.Script.State

/-!
# Conditions of scripts

What `test` and `[` ask in a script: about files, texts and numbers, joined by `-a`, `-o`, `!` and
parentheses. A word is an operator or an operand by what stands around it.
-/

namespace JobShell.Machine.Condition

open Running

/-- What a word can be in a condition. -/
inductive Role
  | unary
  | binary
  | negation
  | conjunction
  | disjunction
  | opening
  | closing
  | operand
deriving DecidableEq, Repr

def unaryOperators : List String :=
  ["-r", "-w", "-x", "-e", "-f", "-d", "-c", "-b", "-p", "-u", "-g", "-k", "-s", "-h", "-t", "-z",
    "-n", "-O", "-G", "-L", "-S"]

def binaryOperators : List String :=
  ["=", "!=", "<", ">", "-eq", "-ne", "-ge", "-gt", "-le", "-lt", "-nt", "-ot", "-ef"]

/-- What a word is by itself. -/
def role (w : Bytes) : Role :=
  let isAmong (ops : List String) : Bool := ops.any fun op => Bytes.ofText op = w
  if isAmong unaryOperators then .unary
  else if isAmong binaryOperators then .binary
  else if w = [33] then .negation
  else if w = [40] then .opening
  else if w = [41] then .closing
  else if w = [45, 97] then .conjunction
  else if w = [45, 111] then .disjunction
  else .operand

/-- What the first of some words is; nothing if there are none. -/
def roleAt : List Bytes → Option Role
  | [] => none
  | w :: rest =>
      some <| match role w, rest with
        | .unary, [] => .operand
        | .unary, [_] => .unary
        | .unary, next :: _ => if role next = .binary then .operand else .unary
        | .opening, [] => .operand
        | r, _ => r

/-- A condition as it is read: the words that are left, the front one being the one that was looked
at last. -/
abbrev Reading := StateT (List Bytes) Running

def refuse {α : Type} (op : Bytes) (message : String) : Reading α :=
  StateT.lift (fail
    (if op.isEmpty then Bytes.ofText message else op ++ Bytes.ofText (": " ++ message)))

def number (w : Bytes) : Reading Int := do
  match Numeral.number? true w with
  | some n => return n
  | none => StateT.lift (illegalNumber w)

def ask (c : SystemCall) : Reading c.Reply := StateT.lift (sys c)

/-- What is known about a file, if it is there. -/
def facts? (path : Bytes) (follow : Bool := true) : Reading (Option FileFacts) := do
  return (← ask (.examine path follow)).toOption

/-- Whether a file can be used in some way. -/
def isUsable (f : FileFacts) (a : Access) : Bool := f.allows a

/-- Answer a question about one word. -/
def answerOne (op w : Bytes) : Reading Bool := do
  let about (holds : FileFacts → Bool) (follow : Bool := true) : Reading Bool := do
    return ((← facts? w follow).map holds).getD false
  match String.ofList (op.map fun b => Char.ofNat b.toNat) with
  | "-z" => return w.isEmpty
  | "-n" => return !w.isEmpty
  | "-t" => do
      let n ← number w
      if n < 0 then return false else ask (.isTerminal n.toNat)
  | "-e" => about fun _ => true
  | "-f" => about (·.kind = .regular)
  | "-d" => about (·.kind = .directory)
  | "-c" => about (·.kind = .device)
  | "-p" => about (·.kind = .fifo)
  | "-h" | "-L" => about (·.kind = .link) false
  | "-s" => about (0 < ·.size)
  | "-u" => about fun f => f.mode / 0o4000 % 2 = 1
  | "-g" => about fun f => f.mode / 0o2000 % 2 = 1
  | "-k" => about fun f => f.mode / 0o1000 % 2 = 1
  | "-r" => about (isUsable · .read)
  | "-w" => about (isUsable · .write)
  | "-x" => about (isUsable · .execute)
  | "-O" | "-G" => about fun _ => true
  | _ => return false

/-- Answer a question about two words. -/
def answerTwo (a op b : Bytes) : Reading Bool := do
  let numbers (holds : Int → Int → Bool) : Reading Bool := do
    let x ← number a
    let y ← number b
    return holds x y
  let times (holds : FileFacts → FileFacts → Bool) : Reading Bool := do
    match ← facts? a, ← facts? b with
    | some f, some g => return holds f g
    | _, _ => return false
  match String.ofList (op.map fun b => Char.ofNat b.toNat) with
  | "=" => return a = b
  | "!=" => return a ≠ b
  | "<" => return a ≠ b && Bytes.le a b
  | ">" => return !Bytes.le a b
  | "-eq" => numbers (· = ·)
  | "-ne" => numbers (· ≠ ·)
  | "-ge" => numbers (· ≥ ·)
  | "-gt" => numbers (· > ·)
  | "-le" => numbers (· ≤ ·)
  | "-lt" => numbers (· < ·)
  | "-nt" => times (·.modified > ·.modified)
  | "-ot" => times (·.modified < ·.modified)
  | "-ef" => times (·.node = ·.node)
  | _ => return false

/-- Go on to the next word. -/
def advance : Reading Unit := modify List.tail

/-- Go on to the next word and tell what it is. -/
def next : Reading (Option Role) := do
  advance
  return roleAt (← get)

/-- What the word behind the front one is. -/
def peek : Reading (Option Role) := do return roleAt (← get).tail

mutual

/-- Conditions joined by `-o`. The front word has the role `r`. -/
def disjunction : (fuel : Nat) → (r : Option Role) → Reading Bool
  | 0, _ => return false
  | fuel + 1, r => do
      let a ← conjunction fuel r
      if (← peek) = some .disjunction then
        advance
        let b ← disjunction fuel (← next)
        return a || b
      else return a

/-- Conditions joined by `-a`. -/
def conjunction : (fuel : Nat) → (r : Option Role) → Reading Bool
  | 0, _ => return false
  | fuel + 1, r => do
      let a ← negation fuel r
      if (← peek) = some .conjunction then
        advance
        let b ← conjunction fuel (← next)
        return a && b
      else return a

def negation : (fuel : Nat) → (r : Option Role) → Reading Bool
  | 0, _ => return false
  | fuel + 1, r => do
      if r = some .negation then
        match ← peek with
        | none => return !(← negation fuel none)
        | some r =>
            advance
            return !(← negation fuel (some r))
      else primary fuel r

def primary : (fuel : Nat) → (r : Option Role) → Reading Bool
  | 0, _ => return false
  | fuel + 1, r => do
      match r with
      | none => return false
      | some .opening =>
          let inner ← next
          if inner = some .closing then return false
          let answer ← disjunction fuel inner
          if (← next) = some .closing then return answer else refuse [] "closing paren expected"
      | some .unary =>
          let op := (← get).headD []
          advance
          match ← get with
          | [] => refuse op "argument expected"
          | w :: _ => answerOne op w
      | some _ =>
          if (← peek) = some .binary then
            let a := (← get).headD []
            advance
            let op := (← get).headD []
            advance
            match ← get with
            | [] => refuse op "argument expected"
            | b :: _ => answerTwo a op b
          else return !((← get).headD []).isEmpty

end

/-- Read a condition, the role of whose first word is given, to its end. -/
def whole (r : Option Role) : Reading Bool := do
  let answer ← disjunction (8 * (← get).length + 8) r
  match ← get with
  | w :: _ :: _ => refuse w "unexpected operator"
  | _ => return answer

/-- The value of a condition. Up to four words are read so that any word can be an operand. -/
def evaluate : List Bytes → Running Bool
  | [] => return false
  | words => do
      let plain : Running Bool := do
        return (← (whole (roleAt words)).run words).1
      match words with
      | [_, op, _] =>
          if role op = .binary then return (← (whole (some .operand)).run words).1
          else bracketed words plain
      | [_, _, _, _] => bracketed words plain
      | _ => plain
where
  /-- Take off parentheses around all words, or a negation in front. -/
  bracketed (words : List Bytes) (plain : Running Bool) : Running Bool := do
    match words with
    | first :: rest =>
        if first = [40] && rest.getLast? = some [41] then
          let inner := rest.dropLast
          return (← (whole (roleAt inner)).run inner).1
        else if first = [33] then
          match rest with
          | [_, op, _] =>
              if role op = .binary then return !(← (whole (some .operand)).run rest).1
              else return !(← (whole (roleAt rest)).run rest).1
          | _ => return !(← (whole (roleAt rest)).run rest).1
        else plain
    | [] => plain

end JobShell.Machine.Condition
