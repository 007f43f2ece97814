import JobShell.Machine.Script.Reader

/-!
# Reading the words of a script

A word goes on to a blank or an operator outside of its quotes and braces. What stands behind a
dollar sign is read part by part: parameters with what is done to them, commands, and arithmetic.
Commands are read by a reader that is given, because words stand inside commands and commands
inside words.
-/

namespace JobShell.Machine.Script

open Reader

/-- What surrounds a part of a word. -/
inductive Around
  /-- No quotes; `braced` tells whether a brace ends the part. -/
  | plain (braced : Bool)
  /-- Double quotes, or a document; `inner` tells whether quotes were opened behind a brace. -/
  | double (braced inner document : Bool)
  /-- Arithmetic, within so many parentheses. -/
  | arithmetic (depth : Nat)
deriving DecidableEq, Repr

namespace Around

/-- Whether what parameters give here is kept together. -/
def isQuoted : Around → Bool
  | .plain _ => false
  | _ => true

/-- What surrounds the word of a parameter that is met here. -/
def within (a : Around) : Around :=
  match a with
  | .plain _ => .plain true
  | .double _ _ document => .double true false document
  | .arithmetic _ => .double true false false

/-- Whether a backslash stays in front of a byte. -/
def keepsBackslash (a : Around) (b : UInt8) : Bool :=
  let always := b = 92 || b = 96 || b = 36
  match a with
  | .plain _ => false
  | .double braced _ document =>
      !always && (b ≠ 34 || (document && !braced)) && (b ≠ 125 || !braced)
  | .arithmetic _ => !always && b ≠ 34

end Around

/-- How commands inside words are read. -/
structure Nested where
  /-- The commands up to a closing parenthesis. -/
  enclosed : Reader Script
  /-- The commands of a text. -/
  whole : Reader Script

/-- Bytes that end a word that is not quoted. -/
def endsWord (b : UInt8) : Bool := (Bytes.ofText " \t\n<>();&|").contains b

def specialParameters : Bytes := Bytes.ofText "?$#@*!-0123456789"

/-- Take the bytes that satisfy a condition; `fuel` bounds their number. -/
def takeWhile (fits : UInt8 → Bool) : (fuel : Nat) → Reader Bytes
  | 0 => return []
  | fuel + 1 => do
      let b ← nextJoined?
      match b.filter fits with
      | some b => return b :: (← takeWhile fits fuel)
      | none =>
          unread b
          return []

/-- The rest of a name, which is not bounded by anything else. -/
def restOf (fits : UInt8 → Bool) : Reader Bytes := do takeWhile fits ((← get).text.length + 1)

/-- Read single quotes to their end. -/
def single (quotedAs : Bool) : (fuel : Nat) → Word → Reader Word
  | 0, w => return w
  | fuel + 1, w => do
      match ← next? with
      | none => fail "Unterminated quoted string"
      | some 39 => return w
      | some b =>
          if b = Bytes.newline then newLine
          single quotedAs fuel (.byte b quotedAs :: w)

/-- The text between backquotes, without the backslashes that protect it. -/
def backquoted (a : Around) : (fuel : Nat) → Bytes → Reader Bytes
  | 0, acc => return acc.reverse
  | fuel + 1, acc => do
      match ← nextJoined? with
      | none => fail "EOF in backquote substitution"
      | some 96 => return acc.reverse
      | some 92 =>
          match ← next? with
          | none => fail "EOF in backquote substitution"
          | some b =>
              let bare := b = 92 || b = 96 || b = 36 || (a.isQuoted && b = 34)
              backquoted a fuel (if bare then b :: acc else b :: 92 :: acc)
      | some b =>
          if b = Bytes.newline then newLine
          backquoted a fuel (b :: acc)

/-- Read the commands of a text of its own. -/
def reread (nested : Nested) (text : Bytes) : Reader Script := do
  let s ← get
  set { s with text, line := 1, final := true, checks := {}, again := false, awaited := [],
               active := [] }
  let c ← nested.whole
  let inner ← get
  set { s with documents := inner.documents }
  return c

/-- Read commands that stand inside a word. -/
def enclosed (nested : Nested) : Reader Script := do
  let s ← get
  set { s with checks := {}, again := false, awaited := [] }
  let c ← nested.enclosed
  modify fun inner => { inner with
    checks := s.checks, last := s.last, again := false, awaited := s.awaited }
  return c

/-- The name of a parameter in braces and what is done to it as far as the name tells: nothing, or
its length is asked for, or it cannot be read. -/
def bracedName : Reader (Bytes × Option ParameterAction) := do
  match ← nextJoined? with
  | none => return ([], some .bad)
  | some b =>
      if Word.isNameStart b then return (b :: (← restOf Word.isNameByte), none)
      else if Bytes.isDigit b then return (b :: (← restOf Bytes.isDigit), none)
      else if b = 125 then
        unread b
        return ([], some .bad)
      else if b = 35 then
        let c ← nextJoined?
        match c with
        | none => return ([b], none)
        | some d =>
            if Word.isNameStart d then return (d :: (← restOf Word.isNameByte), some .length)
            else if Bytes.isDigit d then return ([d], some .length)
            else
              let after ← nextJoined?
              unread after
              if d = 125 || after ≠ some 125 then
                unread d
                return ([b], none)
              else if specialParameters.contains d then return ([d], some .length)
              else return ([], some .bad)
      else if specialParameters.contains b then return ([b], none)
      else return ([], some .bad)

/-- What is done to a parameter in braces behind its name; the flag tells whether a closing brace
has been read already. -/
def bracedAction : Reader (ParameterAction × Bool) := do
  let plainAction (b : Option UInt8) (emptyToo : Bool) : ParameterAction × Bool :=
    match b with
    | some 125 => (.value, !emptyToo)
    | some 45 => (.fallback emptyToo, false)
    | some 43 => (.alternative emptyToo, false)
    | some 63 => (.demand emptyToo, false)
    | some 61 => (.assign emptyToo, false)
    | _ => (.bad, false)
  match ← nextJoined? with
  | some 58 => return plainAction (← nextJoined?) true
  | some 37 =>
      let b ← nextJoined?
      if b ≠ some 37 then unread b
      return (.trim true (b = some 37), false)
  | some 35 =>
      let b ← nextJoined?
      if b ≠ some 35 then unread b
      return (.trim false (b = some 35), false)
  | b => return plainAction b false

mutual

/-- What stands behind a dollar sign, if it means anything. -/
def dollar (nested : Nested) (a : Around) : (fuel : Nat) → Reader (WordPart Script)
  | 0 => return .byte 36 a.isQuoted
  | fuel + 1 => do
      let literal (b : Option UInt8) : Reader (WordPart Script) := do
        unread b
        return .byte 36 a.isQuoted
      let b ← nextJoined?
      match b with
      | none => literal none
      | some 40 =>
          match ← nextJoined? with
          | some 40 => return .arithmetic (← parts nested (.arithmetic 0) fuel []) a.isQuoted
          | c =>
              unread c
              return .command (← enclosed nested) a.isQuoted
      | some 123 =>
          let (name, early) ← bracedName
          let (action, closed) ← match early with
            | some action => pure (action, false)
            | none => bracedAction
          if closed then return .parameter name action [] a.isQuoted
          let around := match action with
            | .trim .. => .plain true
            | _ => a.within
          return .parameter name action (← parts nested around fuel []) a.isQuoted
      | some c =>
          if Word.isNameStart c then
            return .parameter (c :: (← restOf Word.isNameByte)) .value [] a.isQuoted
          else if specialParameters.contains c then return .parameter [c] .value [] a.isQuoted
          else literal b

/-- Read the parts of a word, the last one first, to the end of what surrounds them; `fuel` bounds
their number. -/
def parts (nested : Nested) (a : Around) : (fuel : Nat) → Word → Reader Word
  | 0, w => return w.reverse
  | fuel + 1, w => do
      let delimiter := (← get).checks.delimiter
      let put (b : UInt8) : Reader Word := parts nested a fuel (.byte b a.isQuoted :: w)
      let b ← nextJoined?
      match b with
      | none =>
          match a with
          | .plain false => return w.reverse
          | .plain true => fail "Missing '\x7d'"
          | .double braced _ document =>
              if !document then fail "Unterminated quoted string"
              else if braced then fail "Missing '\x7d'"
              else return w.reverse
          | .arithmetic _ => fail "Missing '))'"
      | some 92 =>
          match ← next? with
          | none => parts nested a fuel (.byte 92 true :: w)
          | some c =>
              let w := if a.keepsBackslash c then .byte 92 true :: w else w
              parts nested a fuel (.byte c true :: w)
      | some 36 =>
          if delimiter then put 36
          else do parts nested a fuel ((← dollar nested a fuel) :: w)
      | some 96 =>
          if delimiter then parts nested a fuel (.byte 96 true :: w)
          else
            let text ← backquoted a ((← get).text.length + 1) []
            parts nested a fuel (.command (← reread nested text) a.isQuoted :: w)
      | some c =>
          match a with
          | .plain braced =>
              if c = 39 then
                parts nested a fuel (← single true ((← get).text.length + 1) (.quotes :: w))
              else if c = 34 then
                let inner ← parts nested (.double false false false) fuel []
                parts nested a fuel (.quotes :: inner.reverse ++ .quotes :: w)
              else if braced then
                if c = 125 then return w.reverse
                if c = Bytes.newline then newLine
                put c
              else if endsWord c then
                unread b
                return w.reverse
              else put c
          | .double braced inner document =>
              if c = 34 then
                if braced then
                  let w := if document then w else .quotes :: w
                  parts nested (.double braced (!inner) document) fuel w
                else if document then put c
                else return w.reverse
              else if c = 125 && braced && !inner then return w.reverse
              else
                if c = Bytes.newline then newLine
                put c
          | .arithmetic depth =>
              if c = 40 then parts nested (.arithmetic (depth + 1)) fuel (.byte c true :: w)
              else if c = 41 then
                match depth with
                | depth + 1 => parts nested (.arithmetic depth) fuel (.byte c true :: w)
                | 0 =>
                    match ← nextJoined? with
                    | some 41 => return w.reverse
                    | other =>
                        unread other
                        put c
              else
                if c = Bytes.newline then newLine
                put c

end

/-- More parts than a text can have. -/
def enough : Reader Nat := do return 2 * (← get).text.length + 8

/-- A word that starts here. -/
def word (nested : Nested) : Reader Word := do parts nested (.plain false) (← enough) []

/-- Whether a word holds quotes. -/
def isQuotedWord (w : Word) : Bool :=
  w.any fun
    | .quotes | .byte _ true => true
    | _ => false

/-! ## Documents -/

/-- Whether a line ends in a backslash that joins it with the next one. -/
def joinsNext (line : Bytes) : Bool := (line.reverse.takeWhile (· = 92)).length % 2 = 1

/-- The lines of a document up to its delimiter, what follows them, and how many lines that were;
nothing if the delimiter is missing. `fuel` bounds the lines. -/
def documentLines (d : AwaitedDocument) : (fuel : Nat) → (joined : Bool) → (taken : Bytes) →
    (lines : Nat) → Bytes → Bytes × Bytes × Nat × Bool
  | 0, _, taken, lines, rest => (taken, rest, lines, false)
  | fuel + 1, joined, taken, lines, rest =>
      let rest := if d.strip && !joined then rest.dropWhile (· = Bytes.tab) else rest
      let line := rest.takeWhile (· != Bytes.newline)
      let after := rest.drop line.length
      if !joined && line = d.delimiter then (taken, after.drop 1, lines + 1, true)
      else match after with
        | [] => (taken ++ line, [], lines, false)
        | _ :: after =>
            documentLines d fuel (d.expands && joinsNext line) (taken ++ line ++ [Bytes.newline])
              (lines + 1) after

/-- Read one document. -/
def document (nested : Nested) (d : AwaitedDocument) : Reader Unit := do
  let s ← get
  let (text, rest, lines, found) := documentLines d (s.text.length + 1) false [] 0 s.text
  if !found && !s.final then askMore
  let content ← if d.expands then do
      set { s with text, final := true, checks := {}, active := [] }
      parts nested (.double false false true) (← enough) []
    else pure (text.map (.byte · true))
  let inner ← get
  set { s with
    text := rest, line := s.line + lines
    documents := inner.documents.setIfInBounds d.slot content }

/-- Read the documents that are awaited. -/
def awaitedDocuments (nested : Nested) : Reader Unit := do
  let awaited := (← get).awaited
  modify fun s => { s with awaited := [] }
  awaited.forM (document nested)

end JobShell.Machine.Script
