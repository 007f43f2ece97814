import JobShell.Machine.Utility.Copying
import JobShell.Machine.Utility.Dumping

/-!
# Comparing the bytes of files

`cmp` tells where two files differ first, or in all places.
-/

namespace JobShell.Machine.Comparing

open Program Report Dumping

/-! ## Comparing bytes -/

/-- The first place where two texts differ, with the line in which it lies; both count from 1. -/
inductive Difference
  | byte (place line : Nat)
  /-- The first text ends here, or the second one. -/
  | ends (first : Bool) (place line : Nat) (atLineEnd : Bool)
deriving DecidableEq, Repr

def difference? : (place line : Nat) → (lastNewline : Bool) → Bytes → Bytes → Option Difference
  | _, _, _, [], [] => none
  | place, line, atEnd, [], _ :: _ => some (.ends true place line atEnd)
  | place, line, atEnd, _ :: _, [] => some (.ends false place line atEnd)
  | place, line, _, a :: as, b :: bs =>
      if a = b then
        let isNewline := a = Bytes.newline
        difference? (place + 1) (if isNewline then line + 1 else line) isNewline as bs
      else some (.byte place line)

/-- All bytes in which two texts differ, with their places. -/
def differences : (place : Nat) → Bytes → Bytes → List (Nat × UInt8 × UInt8)
  | place, a :: as, b :: bs =>
      (if a = b then [] else [(place, a, b)]) ++ differences (place + 1) as bs
  | _, _, _ => []

/-- A byte in letters: a caret stands before a control byte, and `M-` before one above 127. -/
def caret (b : UInt8) : Bytes :=
  let high := if 128 ≤ b then [77, 45] else []
  let low := b &&& 127
  high ++ if low < 32 then [94, low + 64] else if low = 127 then [94, 63] else [low]

/-- A limit or a place with a suffix, as `cmp` reads it. -/
def bound? (text : Bytes) : Option Nat := Copying.size? text

/-- How many bytes are passed over in each file: two numbers with a colon between them, or one. -/
def skips? (text : Bytes) : Option (Nat × Nat) :=
  match Bytes.splitOn 58 text with
  | [both] => (bound? both).map fun n => (n, n)
  | [first, second] => do return (← bound? first, ← bound? second)
  | _ => none

/-- What `cmp` compares, and what it shows. -/
structure ByteComparison where
  first : Bytes
  second : Bytes
  all : Bool := false
  silent : Bool := false
  shown : Bool := false
deriving DecidableEq, Repr

namespace ByteComparison

/-- The line about one of all differences. -/
def differenceLine (k : ByteComparison) (width : Nat) (place : Nat) (x y : UInt8) : Bytes :=
  let octal (b : UInt8) : Bytes := leftPadded 3 (octalByte b)
  let padded (text : Bytes) : Bytes := text ++ List.replicate (4 - text.length) Bytes.space
  leftPadded width (Bytes.ofNat place) ++ Bytes.space :: octal x ++
    (if k.shown then Bytes.space :: padded (caret x) else []) ++ Bytes.space :: octal y ++
    (if k.shown then Bytes.space :: caret y else []) ++ [Bytes.newline]

/-- Compare two texts and tell how they differ. -/
def compare (k : ByteComparison) (c : Caller) (one two : Bytes) : Program Nat := do
  let text (s : String) : Bytes := Bytes.ofText s
  let tell (line : Bytes) : Program Unit := do
    if !k.silent then discard <| c.emit line
  let width := (Bytes.ofNat (min one.length two.length)).length
  let lines := if k.all then
      (differences 1 one two).flatMap fun (place, x, y) => k.differenceLine width place x y
    else []
  match difference? 1 1 true one two with
  | none => return 0
  | some (.byte place line) =>
      let bytes : Bytes := match one[place - 1]?, two[place - 1]? with
        | some x, some y => text " is " ++ leftPadded 3 (octalByte x) ++ Bytes.space :: caret x ++
            Bytes.space :: leftPadded 3 (octalByte y) ++ Bytes.space :: caret y
        | _, _ => []
      if !k.all then
        tell (k.first ++ [Bytes.space] ++ k.second ++
          text (" differ: " ++ (if k.shown then "byte " else "char ") ++ toString place ++
            ", line " ++ toString line) ++ (if k.shown then bytes else []) ++ [Bytes.newline])
      else
        -- With all differences shown, an early end is still told.
        let ended := if one.length < two.length then some (k.first, one.length)
          else if two.length < one.length then some (k.second, two.length) else none
        if let some (name, length) := ended then
          if !k.silent then
            c.say (text "EOF on " ++ name ++ text (" after byte " ++ toString length))
        tell lines
      return 1
  | some (.ends isFirst place line atLineEnd) =>
      let name := if isFirst then k.first else k.second
      let place := place - 1
      if !k.silent then
        c.say (text "EOF on " ++ name ++ text (if place = 0 then " which is empty"
          else " after byte " ++ toString place ++
            (if k.all then "" else if atLineEnd then ", line " ++ toString (line - 1)
            else ", in line " ++ toString line)))
      return 1

end ByteComparison

/-- Read both files; nothing comes back if one of them cannot be read. -/
def readBoth (c : Caller) (silent : Bool) (first second : Bytes) :
    Program (Option (Bytes × Bytes)) := do
  let one (file : Bytes) : Program (Option Bytes) := do
    match ← readWhole file with
    | .content bs => return some bs
    | .notOpened e | .notRead e =>
        if !silent then discard <| c.fail "" file e
        return none
  match ← one first with
  | none => return none
  | some a => return (← one second).map fun b => (a, b)

def cmp (c : Caller) (arguments : List Bytes) : Program Nat :=
  c.withArguments {
      plain := "slb", valued := "ni"
      words := [("silent", 's'), ("quiet", 's'), ("verbose", 'l'), ("print-bytes", 'b'),
        ("bytes", 'n'), ("ignore-initial", 'i')] } arguments
    fun a => do
      let text (s : String) : Bytes := Bytes.ofText s
      let invalid (option : String) (value : Bytes) : Program Nat :=
        c.refuse (text ("invalid --" ++ option ++ " value ") ++ Quoting.plain value)
      let limit := (a.value? 'n').map fun value => (value, bound? value)
      if let some (value, none) := limit then return ← invalid "bytes" value
      let start := (a.value? 'i').map fun value => (value, skips? value)
      if let some (value, none) := start then return ← invalid "ignore-initial" value
      if a.has 's' && a.has 'l' then
        return ← c.refuseText "options -l and -s are incompatible"
      match a.operands with
      | [] => c.refuse (text "missing operand after " ++ Quoting.plain c.name)
      | _ :: _ :: _ :: _ :: extra :: _ => c.refuse (text "extra operand " ++ Quoting.plain extra)
      | first :: rest =>
          let second := rest.headD standardInput
          let given := rest.tail
          if let some wrong := given.find? fun value => (bound? value).isNone then
            return ← invalid "ignore-initial" wrong
          let (skipOne, skipTwo) := (start.bind (·.2)).getD (0, 0)
          let skipOne := (given[0]?.bind bound?).getD skipOne
          let skipTwo := (given[1]?.bind bound?).getD skipTwo
          let part (skip : Nat) (bs : Bytes) : Bytes :=
            match limit.bind (·.2) with
            | some n => (bs.drop skip).take n
            | none => bs.drop skip
          let k : ByteComparison := {
            first, second, all := a.has 'l', silent := a.has 's', shown := a.has 'b' }
          if first = standardInput && second = standardInput then return 0
          match ← readBoth c k.silent first second with
          | none => return c.failure
          | some (one, two) => k.compare c (part skipOne one) (part skipTwo two)

end JobShell.Machine.Comparing
