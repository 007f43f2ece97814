import JobShell.Bytes

/-!
# Scripts

The commands that the machine's script interpreter runs. Words are kept as they were written, part
by part, because what a part stands for depends on its quotes and on the variables at the time. The
types of words are parametrised by that of commands, which stand inside words themselves.
-/

namespace JobShell.Machine

/-- What is done with the value of a parameter. The flags `emptyToo` tell whether an empty value
counts as none. -/
inductive ParameterAction
  | value
  | length
  /-- Take a word in place of a missing value. -/
  | fallback (emptyToo : Bool)
  /-- Take a word in place of a value. -/
  | alternative (emptyToo : Bool)
  /-- Complain about a missing value. -/
  | demand (emptyToo : Bool)
  /-- Give the variable a value if it has none. -/
  | assign (emptyToo : Bool)
  /-- Cut off the shortest, or the longest, part that a pattern matches. -/
  | trim (fromEnd longest : Bool)
  /-- Something that cannot be done. -/
  | bad
deriving DecidableEq, Repr

/-- A part of a word. -/
inductive WordPart (σ : Type) : Type
  | byte (b : UInt8) (quoted : Bool)
  /-- Quotes, which make a field even of nothing. -/
  | quotes
  | parameter (name : Bytes) (action : ParameterAction) (word : List (WordPart σ)) (quoted : Bool)
  /-- The output of a command. -/
  | command (c : σ) (quoted : Bool)
  /-- The value of an arithmetic expression. -/
  | arithmetic (expression : List (WordPart σ)) (quoted : Bool)

namespace WordPart

variable {σ : Type}

/-- A word of plain bytes. -/
def ofBytes (bs : Bytes) : List (WordPart σ) := bs.map (.byte · false)

/-- The text of a word that holds nothing but plain bytes. -/
def plain? (w : List (WordPart σ)) : Option Bytes :=
  w.mapM fun
    | .byte b false => some b
    | _ => none

/-- The text of a word without its quotes, as far as it does not depend on anything. -/
def text (w : List (WordPart σ)) : Bytes :=
  w.filterMap fun
    | .byte b _ => some b
    | _ => none

end WordPart

/-- What a redirection does to its descriptor. -/
inductive RedirectionKind
  | input
  | output
  /-- Write to a file even if it must not be overwritten. -/
  | clobber
  | append
  | both
  /-- Make it mean what another descriptor means. -/
  | duplicate
  /-- Read a text of the script itself; the number says which. -/
  | document (number : Nat)
deriving DecidableEq, Repr

structure ScriptRedirection (σ : Type) where
  descriptor : Nat
  kind : RedirectionKind
  target : List (WordPart σ) := []

/-- Assignments, words and redirections of a single command, with the line that it starts on. -/
structure SimpleCommand (σ : Type) where
  line : Nat
  assignments : List (Bytes × List (WordPart σ)) := []
  words : List (List (WordPart σ)) := []
  redirections : List (ScriptRedirection σ) := []

inductive Script
  | nothing
  | simple (c : SimpleCommand Script)
  | sequence (first second : Script)
  /-- The second command runs only if the first succeeded. -/
  | both (first second : Script)
  /-- The second command runs only if the first failed. -/
  | either (first second : Script)
  | inverted (body : Script)
  | choose (condition consequence : Script) (alternative : Option Script)
  /-- Run the body while the success of the condition is as given. -/
  | loop (success : Bool) (condition body : Script)
  /-- Run the body for each item. -/
  | each (line : Nat) (name : Bytes) (items : List (List (WordPart Script))) (body : Script)
  /-- Run the first branch one of whose patterns matches a word. -/
  | select (line : Nat) (word : List (WordPart Script))
      (branches : List (List (List (WordPart Script)) × Script))
  | group (line : Nat) (body : Script) (redirections : List (ScriptRedirection Script))
  /-- Run in a process of its own. -/
  | subshell (line : Nat) (body : Script) (redirections : List (ScriptRedirection Script))
  /-- Commands that run at the same time, each reading what the one before it writes. -/
  | piped (members : List Script)
  | background (line : Nat) (body : Script)
  /-- Give a name to a command. -/
  | define (line : Nat) (name : Bytes) (body : Script)

/-- A word of a script. -/
abbrev Word := List (WordPart Script)

/-- A redirection of a script. -/
abbrev Redirection := ScriptRedirection Script

namespace Word

def isNameStart (b : UInt8) : Bool := (65 ≤ b && b ≤ 90) || (97 ≤ b && b ≤ 122) || b == 95

def isNameByte (b : UInt8) : Bool := isNameStart b || Bytes.isDigit b

def isName (bs : Bytes) : Bool := (bs.head?.map isNameStart).getD false && bs.all isNameByte

/-- The variable and the value of a word that assigns one. -/
def assignment? (w : Word) : Option (Bytes × Word) :=
  let front := w.takeWhile fun
    | .byte b false => isNameByte b
    | _ => false
  match WordPart.plain? front, w.drop front.length with
  | some name, .byte 61 false :: value => if isName name then some (name, value) else none
  | _, _ => none

end Word

end JobShell.Machine
