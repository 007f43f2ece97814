import JobShell.Bytes
import JobShell.Signal

/-!
# The terminal

Typed bytes are gathered into lines. A line can be read once it is finished by a newline or by the
end-of-file key; the keys for signals empty the line instead, and others erase a part of it. A byte
behind the key that takes the next one literally stands for itself.

Results:
1. The examples at the end: words are erased from behind.
-/

namespace JobShell.Machine

structure Terminal where
  /-- The session that it controls. -/
  session : Option Int := none
  /-- The process group in the foreground. -/
  foreground : Int := 0
  /-- The lines that can be read; an empty one is an end of file. -/
  lines : List Bytes := []
  /-- The line that is being typed. -/
  typed : Bytes := []
  /-- Whether the next byte stands for itself. -/
  literal : Bool := false
  /-- Whether the other side is gone. -/
  hungUp : Bool := false
deriving DecidableEq, Repr

namespace Terminal

/-- The signals of keys: interrupt, quit and stop. -/
def keySignal? (b : UInt8) : Option Signal :=
  [((3 : UInt8), Signal.int), (28, Signal.quit), (26, Signal.tstp)].lookup b

def pushLine (t : Terminal) : Terminal := { t with lines := t.lines ++ [t.typed], typed := [] }

/-- How many bytes a line can have; of what is typed beyond it only the last byte is kept. -/
def greatestLine : Nat := 4096

def append (t : Terminal) (b : UInt8) : Terminal :=
  { t with
    literal := false
    typed := (if t.typed.length < greatestLine then t.typed else t.typed.dropLast) ++ [b] }

/-- The bytes of words: letters, also those of the upper half of Latin 1, digits and underscores. -/
def isWordByte (b : UInt8) : Bool :=
  (48 ≤ b && b ≤ 57) || (65 ≤ b && b ≤ 90) || (97 ≤ b && b ≤ 122) || b == 95 ||
    (192 ≤ b && b != 215 && b != 247)

/-- Erase the last word of a line that is given from its end, with all that stands behind it;
`started` tells whether a byte of the word was met. -/
def eraseWord : (started : Bool) → Bytes → Bytes
  | _, [] => []
  | started, b :: rest =>
      if isWordByte b then eraseWord true rest
      else if started then b :: rest
      else eraseWord false rest

/-- What a key does to the line. -/
inductive Key
  | erase
  | eraseLine
  | eraseWord
  | literally
  /-- Start and stop the output, or show the line again. -/
  | idle
  | endOfFile
  | newline
deriving DecidableEq, Repr

def key? (b : UInt8) : Option Key :=
  [((127 : UInt8), Key.erase), (21, .eraseLine), (23, .eraseWord), (22, .literally), (17, .idle),
    (19, .idle), (18, .idle), (4, .endOfFile), (10, .newline), (13, .newline)].lookup b

/-- Type a byte; the reply is the signal for the foreground group, if the byte is such a key. -/
def type (t : Terminal) (b : UInt8) : Option Signal × Terminal :=
  if t.literal then (none, t.append b)
  else match keySignal? b, key? b with
    | some s, _ => (some s, { t with lines := [], typed := [] })
    | none, none => (none, t.append b)
    | none, some key =>
        (none, match key with
          | .erase => { t with typed := t.typed.dropLast }
          | .eraseLine => { t with typed := [] }
          | .eraseWord => { t with typed := (eraseWord false t.typed.reverse).reverse }
          | .literally => { t with literal := true }
          | .idle => t
          | .endOfFile => t.pushLine
          | .newline => (t.append Bytes.newline).pushLine)

/-- Read up to a number of bytes; nothing comes back if the reader has to wait. -/
def read? (t : Terminal) (count : Nat) : Option (Bytes × Terminal) :=
  match t.lines with
  | [] => if t.hungUp then some ([], t) else none
  | line :: rest =>
      let kept := line.drop count
      some (line.take count, { t with lines := if kept.isEmpty then rest else kept :: rest })

example : eraseWord false (Bytes.ofText "ab cd  ").reverse = (Bytes.ofText "ab ").reverse := by
  decide

end Terminal

end JobShell.Machine
