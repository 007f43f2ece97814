import JobShell.Machine.Script

/-!
# Reading a script byte by byte

A reader works on what is left of a script and counts its lines. Where the script goes on in an
input that has not been read yet, a reader that meets its end asks for more. A backslash at the end
of a line joins it with the next one.
-/

namespace JobShell.Machine

/-- Why a script cannot be read. -/
structure ScriptError where
  line : Nat
  message : String
  /-- Whether more input could make the script whole. -/
  unfinished : Bool := false
deriving DecidableEq, Repr

namespace Script

/-- What is looked for in a word. -/
structure Checks where
  /-- Newlines in front of the word are skipped. -/
  newlines : Bool := false
  reserved : Bool := false
  aliases : Bool := false
  /-- The word ends a document: only quotes mean something in it. -/
  delimiter : Bool := false
deriving DecidableEq, Repr

/-- A redirection of which the target has not been read yet. -/
inductive RedirectionOperator
  | file (kind : RedirectionKind)
  | duplicate
  /-- A document, whose lines may lose the tabs in front. -/
  | document (strip : Bool)
deriving DecidableEq, Repr

inductive Token
  | endOfInput
  | newline
  | semicolon
  | background
  | both
  | either
  | pipe
  | opening
  | closing
  | endOfBranch
  | redirection (descriptor : Nat) (operator : RedirectionOperator)
  | word (w : Word)
  | reserved (text : String)

/-- A document whose lines have not been reached yet. -/
structure AwaitedDocument where
  /-- Where it will be kept. -/
  slot : Nat
  delimiter : Bytes
  strip : Bool
  /-- Whether parameters are replaced in it. -/
  expands : Bool
deriving DecidableEq, Repr

/-- An alias whose text is being read: it ends where so much is left. -/
structure ActiveAlias where
  name : Bytes
  left : Nat
  /-- Whether the word behind it can be an alias, too. -/
  continues : Bool
deriving DecidableEq, Repr

/-- How far a script has been read. -/
structure Scan where
  text : Bytes
  line : Nat := 1
  /-- Whether nothing follows the text. -/
  final : Bool := true
  checks : Checks := {}
  last : Token := .endOfInput
  /-- Whether the last token is to be read again. -/
  again : Bool := false
  awaited : List AwaitedDocument := []
  documents : Array Word := #[]
  aliases : List (Bytes × Bytes) := []
  active : List ActiveAlias := []

abbrev Reader := StateT Scan (Except ScriptError)

namespace Reader

/-- Refuse the script. -/
def fail {α : Type} (message : String) : Reader α := do
  throw { line := (← get).line, message }

/-- Ask for more input. -/
def askMore {α : Type} : Reader α := do
  throw { line := (← get).line, message := "", unfinished := true }

/-- Take the next byte; nothing is left at the end of the script. -/
def next? : Reader (Option UInt8) := do
  let s ← get
  match s.text with
  | b :: text =>
      set { s with text }
      return some b
  | [] => if s.final then return none else askMore

/-- Put a byte back. -/
def unread (b : Option UInt8) : Reader Unit :=
  match b with
  | some b => modify fun s => { s with text := b :: s.text }
  | none => return

def newLine : Reader Unit := modify fun s => { s with line := s.line + 1 }

end Reader

/-- Skip backslashes at line ends and what they hide. -/
def skipJoins : Bytes → (line : Nat) → Bytes × Nat
  | 92 :: 10 :: rest, line => skipJoins rest (line + 1)
  | bs, line => (bs, line)

namespace Reader

/-- Take the next byte, joining lines. -/
def nextJoined? : Reader (Option UInt8) := do
  let s ← get
  let (text, line) := skipJoins s.text s.line
  if text = [92] && !s.final then askMore
  else
    set { s with text, line }
    next?

end Reader

end Script

end JobShell.Machine
