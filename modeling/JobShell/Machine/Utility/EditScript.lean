import JobShell.Machine.Regex.Parser

/-!
# Scripts of the stream editor

The commands of an editing script with the lines that they are for. A script is read as a flat list;
a block knows where it ends.

Results:
1. The examples at the end: scripts that can be read, and what is wrong with others.
-/

namespace JobShell.Machine.Edit

/-- What a line has to be. -/
inductive Address
  | line (n : Nat)
  | last
  /-- Every so many lines from one on. -/
  | every (first step : Nat)
  /-- A line that matches; without an expression, the one that was used last. -/
  | fits (r : Option Regex) (folding : Bool)
deriving DecidableEq, Repr

/-- Where a span of lines ends. -/
inductive SpanEnd
  | at_ (a : Address)
  | after (count : Nat)
  | multiple (n : Nat)
deriving DecidableEq, Repr

/-- The lines that a command is for. -/
structure Reach where
  first : Option Address := none
  second : Option SpanEnd := none
  negated : Bool := false
deriving DecidableEq, Repr

/-- How the case of a replacement changes. -/
inductive CaseChange
  | upper | lower | upperNext | lowerNext | none
deriving DecidableEq, Repr

/-- A part of a replacement. -/
inductive Piece
  | text (bs : Bytes)
  | group (n : Nat)
  | case (c : CaseChange)
deriving DecidableEq, Repr

structure Substitution where
  pattern : Option Regex
  folding : Bool := false
  replacement : List Piece
  all : Bool := false
  /-- The first match that is replaced. -/
  nth : Nat := 1
  print : Bool := false
  file : Option Bytes := none
deriving DecidableEq, Repr

inductive Action
  /-- A block, and the place behind it. -/
  | block (stop : Nat)
  | close
  | label (name : Bytes)
  | branch (always : Bool) (whenReplaced : Bool) (name : Bytes)
  | append (text : Bytes)
  | insert (text : Bytes)
  | change (text : Bytes)
  | delete
  | deleteFirst
  | print
  | printFirst
  | number
  /-- Show the text with escapes, in lines of some width. -/
  | show_ (width : Option Nat)
  | file
  | next
  | nextAppended
  | hold
  | holdAppended
  | get
  | getAppended
  | exchange
  | clear
  | quit (code : Nat) (silent : Bool)
  | readFile (file : Bytes)
  | writeFile (file : Bytes)
  | substitute (s : Substitution)
  | translate (source target : Bytes)
deriving DecidableEq, Repr

structure Command where
  reach : Reach := {}
  action : Action
deriving DecidableEq, Repr

/-- What is wrong with a script, and how many bytes had been read when it was found, unless it is
the script as a whole. -/
structure ScriptError where
  message : String
  place : Option Nat
deriving DecidableEq, Repr

/-- A script as it is read. -/
structure Reader where
  rest : Bytes
  total : Nat
deriving DecidableEq, Repr

abbrev Reading := StateT Reader (Except ScriptError)

/-- How many bytes have been read. -/
def place : Reading Nat := do
  let s ← get
  return s.total - s.rest.length

def refuse {α : Type} (message : String) : Reading α := do throw { message, place := ← place }

def peek : Reading (Option UInt8) := do return (← get).rest.head?

def advance (count : Nat := 1) : Reading Unit :=
  modify fun s => { s with rest := s.rest.drop count }

/-- Read while bytes pass a test. -/
def readWhile (p : UInt8 → Bool) : Reading Bytes := do
  let found := (← get).rest.takeWhile p
  advance found.length
  return found

def skipBlanks : Reading Unit := discard <| readWhile Bytes.isBlank

def readNumber : Reading (Option Nat) := do return Bytes.decimal? (← readWhile Bytes.isDigit)

/-- How long the rest of a bracket is, its end included; nothing if it has no end. `fuel` bounds the
members. -/
def bracketLength : (fuel : Nat) → (first : Bool) → Bytes → Option Nat
  | 0, _, _ => none
  | fuel + 1, first, text =>
      match text with
      | [] => none
      | 91 :: kind :: rest =>
          if (Bytes.ofText ":.=").contains kind then
            let name := rest.takeWhile (· ≠ kind)
            match rest.drop name.length with
            | _ :: 93 :: rest => (bracketLength fuel false rest).map (· + name.length + 4)
            | _ => none
          else (bracketLength fuel false (kind :: rest)).map (· + 1)
      | b :: rest =>
          if b = 93 && !first then some 1
          else if b = 10 then none
          else (bracketLength fuel (first && b = 94) rest).map (· + 1)

/-- Read up to a delimiter, which may be escaped; in expressions brackets hide it. Nothing comes
back if it is not there. `fuel` bounds the bytes. -/
def delimited (delimiter : UInt8) (isPattern : Bool) : (fuel : Nat) → Bytes → Option (Bytes × Bytes)
  | 0, _ => none
  | fuel + 1, text =>
      let keep (front rest : Bytes) : Option (Bytes × Bytes) :=
        (delimited delimiter isPattern fuel rest).map fun (found, rest) => (front ++ found, rest)
      match text with
      | [] => none
      | 92 :: b :: rest =>
          if b = delimiter then keep [b] rest
          else if b = 110 && isPattern then keep [92, 110] rest
          else keep [92, b] rest
      | b :: rest =>
          if b = delimiter then some ([], rest)
          else if b = 10 then none
          else if b = 91 && isPattern then
            match bracketLength (rest.length + 1) true rest with
            | some n => keep (b :: rest.take n) (rest.drop n)
            | none => none
          else keep [b] rest

def readDelimited (delimiter : UInt8) (isPattern : Bool) (missing : String) : Reading Bytes := do
  let s ← get
  match delimited delimiter isPattern (s.rest.length + 1) s.rest with
  | some (found, rest) =>
      set { s with rest }
      return found
  | none =>
      set { s with rest := [] }
      refuse missing

def readPattern (extended folding : Bool) (text : Bytes) : Reading (Option Regex) := do
  if text.isEmpty then return none
  match Regex.parse? { extended, folding, strict := true, controls := true } text with
  | .ok r => return some r
  | .error e => refuse e.message

/-! ## Addresses -/

def readAddress (extended : Bool) : Reading (Option Address) := do
  match ← peek with
  | none => return none
  | some b =>
      if Bytes.isDigit b then
        let n := (← readNumber).getD 0
        if (← peek) = some 126 then
          advance
          return some (.every n ((← readNumber).getD 0))
        return some (.line n)
      else if b = 36 then
        advance
        return some .last
      else if b = 47 || b = 92 then
        if b = 92 then advance
        let delimiter := (← peek).getD 47
        advance
        let text ← readDelimited delimiter true "unterminated address regex"
        let folding := (← peek) = some 73
        if folding then advance
        return some (.fits (← readPattern extended folding text) folding)
      else return none

def readEnd (extended : Bool) : Reading SpanEnd := do
  match ← peek with
  | some 43 =>
      advance
      return .after ((← readNumber).getD 0)
  | some 126 =>
      advance
      return .multiple ((← readNumber).getD 0)
  | _ =>
      match ← readAddress extended with
      | some a => return .at_ a
      | none =>
          advance
          refuse "unexpected \x60,'"

def readReach (extended : Bool) : Reading Reach := do
  let first ← readAddress extended
  skipBlanks
  let second ← if first.isSome && (← peek) = some 44 then do
      advance
      skipBlanks
      pure (some (← readEnd extended))
    else pure none
  let zero := first = some (.line 0) && !(match second with
    | some (.at_ (.fits ..)) => true
    | _ => false)
  if zero then
    advance
    refuse "invalid usage of line address 0"
  skipBlanks
  let negated := (← peek) = some 33
  if negated then
    advance
    skipBlanks
    if (← peek) = some 33 then
      advance
      refuse "multiple \x60!'s"
  return { first, second, negated }

/-! ## Commands -/

/-- Nothing but the end of a command may follow. -/
def readEndOfCommand : Reading Unit := do
  skipBlanks
  match ← peek with
  | none => return
  | some b =>
      if b = 10 || b = 59 then advance
      else if b = 125 || b = 35 then return
      else
        advance
        refuse "extra characters after command"

/-- The text behind a command that takes one: from the next line, or from this one. -/
def unescapedText : Bytes → Bytes
  | 92 :: b :: rest => b :: unescapedText rest
  | b :: rest => b :: unescapedText rest
  | [] => []

/-- A text up to the first newline that is not escaped; `fuel` bounds the bytes. -/
def textLine : (fuel : Nat) → Bytes → Bytes × Bytes
  | 0, text => ([], text)
  | fuel + 1, text =>
      match text with
      | [] => ([], [])
      | 92 :: b :: rest =>
          let (found, rest) := textLine fuel rest
          (92 :: b :: found, rest)
      | b :: rest =>
          if b = 10 then ([], rest)
          else
            let (found, rest) := textLine fuel rest
            (b :: found, rest)

def readText : Reading Bytes := do
  skipBlanks
  let missing := "expected \\ after \x60a', \x60c' or \x60i'"
  if (← peek).isNone then refuse missing
  if (← peek) = some 92 then
    advance
    -- Blanks behind the backslash belong to the text, unless the line ends there.
    let blanks := (← get).rest.takeWhile Bytes.isBlank
    if (← get).rest[blanks.length]? = some 10 then advance (blanks.length + 1)
    if (← peek).isNone then refuse missing
  let s ← get
  let (found, rest) := textLine (s.rest.length + 1) s.rest
  set { s with rest }
  return unescapedText found ++ [10]

/-- A name up to the end of the line. -/
def readName (ends : UInt8 → Bool) : Reading Bytes := do
  skipBlanks
  readWhile fun b => !ends b

/-- The pieces of a replacement; `fuel` bounds their number. -/
def pieces : (fuel : Nat) → Bytes → List Piece
  | 0, _ => []
  | fuel + 1, text =>
      let one (p : Piece) (rest : Bytes) : List Piece := p :: pieces fuel rest
      match text with
      | [] => []
      | 92 :: b :: rest =>
          if Bytes.isDigit b then one (.group (b.toNat - 48)) rest
          else match Char.ofNat b.toNat with
            | 'L' => one (.case .lower) rest
            | 'U' => one (.case .upper) rest
            | 'l' => one (.case .lowerNext) rest
            | 'u' => one (.case .upperNext) rest
            | 'E' => one (.case .none) rest
            | _ => one (.text [(Regex.control? b).getD b]) rest
      | b :: rest => one (if b = 38 then .group 0 else .text [b]) rest

/-- The flags behind a substitution; `counted` tells whether a number was among those before.
`fuel` bounds their number. -/
def readFlags (s : Substitution) (counted : Bool) : (fuel : Nat) → Reading Substitution
  | 0 => return s
  | fuel + 1 => do
      match ← peek with
      | none => return s
      | some b =>
          match Char.ofNat b.toNat with
          | 'g' =>
              advance
              if s.all then refuse "multiple \x60g' options to \x60s' command"
              readFlags { s with all := true } counted fuel
          | 'p' =>
              advance
              if s.print then refuse "multiple \x60p' options to \x60s' command"
              readFlags { s with print := true } counted fuel
          | 'i' | 'I' =>
              advance
              readFlags { s with folding := true } counted fuel
          | 'm' | 'M' | 'e' =>
              advance
              readFlags s counted fuel
          | 'w' =>
              advance
              let name ← readName (· = 10)
              return { s with file := some name }
          | _ =>
              if Bytes.isDigit b then
                let n := (← readNumber).getD 0
                if n = 0 then refuse "number option to \x60s' command may not be zero"
                if counted then refuse "multiple number options to \x60s' command"
                readFlags { s with nth := n } true fuel
              else if b = 10 || b = 59 || b = 125 || b = 35 || Bytes.isBlank b then return s
              else
                advance
                refuse "unknown option to \x60s'"

def readSubstitution (extended : Bool) : Reading Action := do
  let delimiter := (← peek).getD 47
  let missing := "unterminated \x60s' command"
  if (← peek).isNone then refuse missing
  advance
  let text ← readDelimited delimiter true missing
  let replacement ← readDelimited delimiter false missing
  let parts := pieces (replacement.length + 1) replacement
  let s ← readFlags { pattern := none, replacement := parts } false ((← get).rest.length + 1)
  let pattern ← readPattern extended s.folding text
  let greatest := (parts.map fun
    | .group n => n
    | _ => 0).foldl max 0
  if pattern.any fun r => decide (Regex.groupCount r < greatest) then
    refuse ("invalid reference \\" ++ toString greatest ++ " on \x60s' command's RHS")
  readEndOfCommand
  return .substitute { s with pattern }

def readTranslation : Reading Action := do
  let delimiter := (← peek).getD 47
  let missing := "unterminated \x60y' command"
  if (← peek).isNone then refuse missing
  advance
  let rec plain : Bytes → Bytes
    | 92 :: b :: rest => (if b = 110 then 10 else b) :: plain rest
    | b :: rest => b :: plain rest
    | [] => []
  let source := plain (← readDelimited delimiter false missing)
  let target := plain (← readDelimited delimiter false missing)
  if source.length ≠ target.length then refuse "strings for \x60y' command are different lengths"
  readEndOfCommand
  return .translate source target

/-- The rest of a command behind its letter; blocks get their ends later. -/
def readAction (extended : Bool) (letter : UInt8) : Reading Action := do
  let plain (a : Action) : Reading Action := do
    readEndOfCommand
    return a
  let isNameEnd (b : UInt8) : Bool := b = 10 || b = 59
  match Char.ofNat letter.toNat with
  | '\x7b' => return .block 0
  | '\x7d' => plain .close
  | 'd' => plain .delete
  | 'D' => plain .deleteFirst
  | 'p' => plain .print
  | 'P' => plain .printFirst
  | '=' => plain .number
  | 'l' =>
      skipBlanks
      plain (.show_ (← readNumber))
  | 'F' => plain .file
  | 'n' => plain .next
  | 'N' => plain .nextAppended
  | 'h' => plain .hold
  | 'H' => plain .holdAppended
  | 'g' => plain .get
  | 'G' => plain .getAppended
  | 'x' => plain .exchange
  | 'z' => plain .clear
  | 'q' | 'Q' =>
      skipBlanks
      let code := (← readNumber).getD 0
      plain (.quit code (letter = 81))
  | 'a' => return .append (← readText)
  | 'i' => return .insert (← readText)
  | 'c' => return .change (← readText)
  | 'r' | 'w' =>
      let name ← readName (· = 10)
      if name.isEmpty then refuse "missing filename in r/R/w/W commands"
      return if letter = 114 then .readFile name else .writeFile name
  | 'b' | 't' | 'T' =>
      let name ← readName isNameEnd
      return .branch (letter = 98) (letter = 116) ((name.reverse.dropWhile Bytes.isBlank).reverse)
  | ':' =>
      let name ← readName isNameEnd
      if name.isEmpty then refuse "\":\" lacks a label"
      return .label name
  | 's' => readSubstitution extended
  | 'y' => readTranslation
  | _ => refuse ("unknown command: \x60" ++ String.singleton (Char.ofNat letter.toNat) ++ "'")

/-- Read the commands of a script; `fuel` bounds their number. -/
def readCommands (extended : Bool) : (fuel : Nat) → (open_ : List Nat) → List Command →
    Reading (List Command)
  | 0, _, found => return found
  | fuel + 1, open_, found => do
      discard <| readWhile fun b => b = 59 || b = 10 || Bytes.isBlank b
      match ← peek with
      | none =>
          if open_.isEmpty then return found
          throw { message := "unmatched \x60\x7b'", place := some 0 }
      | some 35 =>
          discard <| readWhile (· ≠ 10)
          readCommands extended fuel open_ found
      | some _ =>
          let reach ← readReach extended
          match ← peek with
          | none => refuse "missing command"
          | some letter =>
              advance
              if letter = 58 && reach.first.isSome then refuse ": doesn't want any addresses"
              if letter = 125 && reach.first.isSome then refuse "\x7d doesn't want any addresses"
              let action ← readAction extended letter
              match action, open_ with
              | .close, [] => refuse "unexpected \x60\x7d'"
              | .close, start :: open_ =>
                  let stop := found.length
                  let found := found.modify start fun c => { c with action := .block stop }
                  readCommands extended fuel open_ (found ++ [{ reach, action }])
              | .block _, open_ =>
                  readCommands extended fuel (found.length :: open_) (found ++ [{ reach, action }])
              | _, open_ => readCommands extended fuel open_ (found ++ [{ reach, action }])

/-- Read a script. -/
def script? (extended : Bool) (text : Bytes) : Except ScriptError (List Command) := do
  let (found, _) ← (readCommands extended (text.length + 1) [] []).run
    { rest := text, total := text.length }
  let labels := found.filterMap fun c => match c.action with
    | .label name => some name
    | _ => none
  match found.findSome? fun c => match c.action with
    | .branch _ _ name => if name.isEmpty || labels.contains name then none else some name
    | _ => none with
  | some name =>
      throw {
        message := "can't find label for jump to \x60" ++
          String.ofList (name.map fun b => Char.ofNat b.toNat) ++ "'", place := none }
  | none => return found

/-! ## Examples -/

/-- What is wrong with a script, if anything. -/
def wrong? (text : String) : Option (String × Option Nat) :=
  match script? false (Bytes.ofText text) with
  | .ok _ => none
  | .error e => some (e.message, e.place)

example : wrong? "1,3\x7bs/a/b/g;p\x7d;$!d" = none := by decide +kernel
example : wrong? "s/a/b" = some ("unterminated \x60s' command", some 5) := by decide +kernel
example : wrong? "k" = some ("unknown command: \x60k'", some 1) := by decide +kernel
example : wrong? "pp" = some ("extra characters after command", some 2) := by decide +kernel

end JobShell.Machine.Edit
