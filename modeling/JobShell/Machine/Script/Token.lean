import JobShell.Machine.Script.Words

/-!
# Tokens of scripts

A script is cut into words, operators and newlines. Whether a word is reserved, or stands for
another text, depends on where it is met. The last token can be read again.
-/

namespace JobShell.Machine

namespace Script

open Reader

namespace Token

/-- The words that can be reserved. -/
def reservedWords : List String :=
  ["!", "case", "do", "done", "elif", "else", "esac", "fi", "for", "if", "in", "then", "until",
    "while", "\x7b", "\x7d"]

/-- How a message names a token. -/
def describe : Token → String
  | .endOfInput => "end of file"
  | .newline => "newline"
  | .semicolon => "\";\""
  | .background => "\"&\""
  | .both => "\"&&\""
  | .either => "\"||\""
  | .pipe => "\"|\""
  | .opening => "\"(\""
  | .closing => "\")\""
  | .endOfBranch => "\";;\""
  | .redirection .. => "redirection"
  | .word _ => "word"
  | .reserved text => "\"" ++ text ++ "\""

/-- Whether a token ends a list of commands that are inside something. -/
def endsList : Token → Bool
  | .endOfInput | .closing | .endOfBranch => true
  | .reserved text => ["do", "done", "elif", "else", "esac", "fi", "then", "\x7d"].contains text
  | _ => false

def isReserved (t : Token) (word : String) : Bool :=
  match t with
  | .reserved text => text = word
  | _ => false

/-- Skip blanks, joined lines and comments. -/
def skipBlanks : Bytes → (line : Nat) → Bytes × Nat
  | [], line => ([], line)
  | b :: rest, line =>
      if Bytes.isBlank b then skipBlanks rest line
      else if b = 92 && rest.head? = some Bytes.newline then skipBlanks rest.tail (line + 1)
      else if b = 35 then (rest.dropWhile (· != Bytes.newline), line)
      else (b :: rest, line)
termination_by bs => bs.length
decreasing_by
  · simp
  · simp only [List.length_cons, List.length_tail]; omega

/-- The operator that two bytes make, or the first one alone. -/
def paired (second : UInt8) (two one : Token) : Reader Token := do
  let b ← nextJoined?
  if b = some second then return two
  unread b
  return one

/-- The rest of a redirection behind its angle bracket. -/
def redirectionBehind (angle : UInt8) (descriptor : Option Nat) : Reader Token := do
  let b ← nextJoined?
  if angle = 62 then
    let made (operator : RedirectionOperator) : Token := .redirection (descriptor.getD 1) operator
    if b = some 62 then return made (.file .append)
    else if b = some 124 then return made (.file .clobber)
    else if b = some 38 then return made .duplicate
    else
      unread b
      return made (.file .output)
  else
    let made (operator : RedirectionOperator) : Token := .redirection (descriptor.getD 0) operator
    if b = some 60 then
      let c ← nextJoined?
      if c ≠ some 45 then unread c
      return made (.document (c = some 45))
    else if b = some 38 then return made .duplicate
    else if b = some 62 then return made (.file .both)
    else
      unread b
      return made (.file .input)

/-- A word, or a redirection with the digit in front of it. -/
def wordOrRedirection (nested : Nested) : Reader Token := do
  let w ← Script.word nested
  let b ← next?
  let angle := b.filter fun b => b = 60 || b = 62
  match angle, w with
  | some angle, [] => redirectionBehind angle none
  | some angle, [.byte digit false] =>
      if Bytes.isDigit digit then redirectionBehind angle (some (digit.toNat - 48))
      else
        unread b
        return .word w
  | _, _ =>
      unread b
      return .word w

/-- The next token without regard to reserved words. -/
def next (nested : Nested) : Reader Token := do
  let s ← get
  let (text, line) := skipBlanks s.text s.line
  set { s with text, line }
  let b ← nextJoined?
  match b with
  | none => return .endOfInput
  | some 10 =>
      newLine
      return .newline
  | some 38 => paired 38 .both .background
  | some 124 => paired 124 .either .pipe
  | some 59 => paired 59 .endOfBranch .semicolon
  | some 40 => return .opening
  | some 41 => return .closing
  | some b =>
      unread (some b)
      wordOrRedirection nested

/-- The reserved word that a word is. -/
def reserved? (w : Word) : Option String :=
  (WordPart.plain? w).bind fun text => reservedWords.find? fun r => Bytes.ofText r = text

end Token

/-- The alias that a word is, unless its text is being read already. -/
def aliasFor? (s : Scan) (w : Word) : Option (Bytes × Bytes) :=
  (WordPart.plain? w).bind fun name =>
    if s.active.any fun a => a.name = name && a.left ≤ s.text.length then none
    else (s.aliases.lookup name).map fun value => (name, value)

/-- Whether an alias that lets the next one follow ended between two positions. -/
def continuesAlias (before after : Scan) : Bool :=
  before.active.any fun a =>
    a.continues && a.left ≤ before.text.length && after.text.length < a.left

/-- Put the text of an alias in front of what is left. -/
def Scan.expandAlias (s : Scan) (name value : Bytes) : Scan :=
  { s with
    text := value ++ s.text
    active := { name, left := s.text.length
                continues := (value.getLast?.map Bytes.isBlank).getD false } :: s.active }

/-- Read newlines and the documents behind them until something else comes. -/
def skipNewlines (nested : Nested) : (fuel : Nat) → Token → Reader Token
  | fuel + 1, .newline => do
      awaitedDocuments nested
      skipNewlines nested fuel (← Token.next nested)
  | _, t => return t

/-- Read a token as it is meant where the checks of the scan apply; `fuel` bounds the aliases. -/
def readToken (nested : Nested) : (fuel : Nat) → (checks : Checks) → Reader Token
  | 0, _ => return .endOfInput
  | fuel + 1, checks => do
      let before ← get
      let t ← if before.again then do
          set { before with again := false }
          pure before.last
        else Token.next nested
      let t ← if checks.newlines then skipNewlines nested ((← get).text.length + 2) t else pure t
      let after ← get
      let checks := { checks with aliases := checks.aliases || continuesAlias before after }
      let finish (t : Token) : Reader Token := do
        modify fun s => { s with last := t, checks := {} }
        return t
      match t with
      | .word w =>
          match if checks.reserved then Token.reserved? w else none with
          | some text => finish (.reserved text)
          | none =>
              match if checks.aliases then aliasFor? after w else none with
              | some (name, value) =>
                  set (after.expandAlias name value)
                  readToken nested fuel checks
              | none => finish t
      | t => finish t

/-- How many aliases can follow each other. -/
def aliasLimit : Nat := 1000

/-- Read the next token. -/
def token (nested : Nested) : Reader Token := do readToken nested aliasLimit (← get).checks

/-- Let the last token be read again. -/
def again : Reader Unit := modify fun s => { s with again := true }

def expectNext (checks : Checks) : Reader Unit := modify fun s => { s with checks }

/-- Refuse the last token. -/
def unexpected {α : Type} (expecting : Option Token := none) : Reader α := do
  let found := (← get).last.describe ++ " unexpected"
  fail (match expecting with
    | some t => found ++ " (expecting " ++ t.describe ++ ")"
    | none => found)

end Script

end JobShell.Machine
