import JobShell.Machine.Script.Token

/-!
# Reading commands

A script is read one line of commands at a time, so that what a line does happens before the next
one is read. A line that ends inside a command goes on with the next one.

Results:
1. The examples at the end: a line of two commands, a line that asks for more, and one that cannot
   be read.
-/

namespace JobShell.Machine.Script

open Reader

/-- What a list of commands stands for. -/
inductive ListKind
  /-- One line of a script. -/
  | line
  /-- Commands inside something; there is at least one. -/
  | body
  /-- Commands inside something; there may be none. -/
  | loose
deriving DecidableEq, Repr

/-- Commands whose names cannot be given to something else. -/
def specialNames : List String :=
  [".", ":", "break", "continue", "eval", "exec", "exit", "export", "local", "readonly", "return",
    "set", "shift", "times", "trap", "unset"]

def mayBeDefined (name : Bytes) : Bool :=
  Word.isName name && !specialNames.any fun special => Bytes.ofText special = name

/-- The word of a pattern. -/
def patternOf : Token → Word
  | .word w => w
  | .reserved text => WordPart.ofBytes (Bytes.ofText text)
  | _ => []

/-- All arguments, as they stand in a loop without a list. -/
def allArguments : Word := [.quotes, .parameter [64] .value [] true, .quotes]

/-- Where a word is looked at for what it means. -/
def commandPlace : Checks := { reserved := true, aliases := true }

/-- The same behind any number of newlines. -/
def freshPlace : Checks := { newlines := true, reserved := true, aliases := true }

/-- Take a certain token. -/
def expect (nested : Nested) (wanted : Token) (found : Token → Bool) : Reader Unit := do
  if !found (← token nested) then unexpected (some wanted)

def expectReserved (nested : Nested) (text : String) : Reader Unit :=
  expect nested (.reserved text) (·.isReserved text)

/-- The target of a redirection. -/
def redirectionTarget (nested : Nested) (descriptor : Nat) (operator : RedirectionOperator) :
    Reader Redirection := do
  let wordNext : Reader Word := do
    match ← token nested with
    | .word w => return w
    | _ => unexpected
  match operator with
  | .file kind =>
      let target ← wordNext
      return { descriptor, kind, target }
  | .duplicate =>
      let target ← wordNext
      return { descriptor, kind := .duplicate, target }
  | .document strip =>
      expectNext { delimiter := true }
      let w ← wordNext
      let s ← get
      let slot := s.documents.size
      let d : AwaitedDocument :=
        { slot, delimiter := WordPart.text w, strip, expands := !isQuotedWord w }
      set { s with documents := s.documents.push [], awaited := s.awaited ++ [d] }
      return { descriptor, kind := .document slot }

/-- Redirections behind a compound command; `fuel` bounds their number. -/
def redirections (nested : Nested) : (fuel : Nat) → Reader (List Redirection)
  | 0 => return []
  | fuel + 1 => do
      match ← token nested with
      | .redirection descriptor operator =>
          let r ← redirectionTarget nested descriptor operator
          return r :: (← redirections nested fuel)
      | _ =>
          again
          return []

/-- Words up to something else; `fuel` bounds their number. -/
def wordList (nested : Nested) : (fuel : Nat) → Reader (List Word)
  | 0 => return []
  | fuel + 1 => do
      match ← token nested with
      | .word w => return w :: (← wordList nested fuel)
      | _ => return []

/-- The patterns of a branch, of which the first has been read, and the token behind them. -/
def patterns (nested : Nested) : (fuel : Nat) → Token → Reader (List Word × Token)
  | 0, t => return ([patternOf t], t)
  | fuel + 1, t => do
      match ← token nested with
      | .pipe =>
          let (others, last) ← patterns nested fuel (← token nested)
          return (patternOf t :: others, last)
      | last => return ([patternOf t], last)

/-- The words and redirections of a simple command, unless it turns out to define a name; `fuel`
bounds their number. -/
def simpleCommand (nested : Nested) : (fuel : Nat) → SimpleCommand Script →
    Reader (SimpleCommand Script × Option Bytes)
  | 0, c => return (c, none)
  | fuel + 1, c => do
      expectNext { aliases := c.words.isEmpty }
      match ← token nested with
      | .word w =>
          match if c.words.isEmpty then Word.assignment? w else none with
          | some a => simpleCommand nested fuel { c with assignments := c.assignments ++ [a] }
          | none => simpleCommand nested fuel { c with words := c.words ++ [w] }
      | .redirection descriptor operator =>
          let r ← redirectionTarget nested descriptor operator
          simpleCommand nested fuel { c with redirections := c.redirections ++ [r] }
      | .opening =>
          match c with
          | { words := [name], assignments := [], redirections := [], .. } =>
              expect nested .closing (fun | .closing => true | _ => false)
              let name := (WordPart.plain? name).getD []
              if mayBeDefined name then return (c, some name) else fail "Bad function name"
          | _ =>
              again
              return (c, none)
      | _ =>
          again
          return (c, none)

/-- More tokens than a text can have. -/
def tokenBound : Reader Nat := do return (← get).text.length + 2

mutual

/-- A list of commands; nothing if the script ends in front of a line. -/
def list : (fuel : Nat) → ListKind → Reader (Option Script)
  | 0, _ => unexpected
  | fuel + 1, kind => listFrom fuel kind none

/-- The rest of a list behind the commands that were read. -/
def listFrom : (fuel : Nat) → ListKind → Option Script → Reader (Option Script)
  | 0, _, _ => unexpected
  | fuel + 1, kind, done => do
      let inside := kind ≠ .line
      expectNext { newlines := inside, reserved := true, aliases := true }
      let close (done : Option Script) : Reader (Option Script) := do
        awaitedDocuments (nestedIn fuel)
        modify fun s => { s with last := .endOfInput, again := true }
        return if inside then some (done.getD .nothing) else done
      let t ← token (nestedIn fuel)
      match t with
      | .newline =>
          awaitedDocuments (nestedIn fuel)
          return some (done.getD .nothing)
      | .endOfInput => close done
      | t =>
          again
          if t.endsList && inside && (kind = .loose || done.isSome) then
            return some (done.getD .nothing)
          let line := (← get).line
          let c ← andOr fuel
          let t ← token (nestedIn fuel)
          let c := match t with
            | .background => .background line c
            | _ => c
          let done := match done with
            | some before => Script.sequence before c
            | none => c
          match t with
          | .endOfInput => close (some done)
          | .newline =>
              again
              listFrom fuel kind (some done)
          | .background | .semicolon => listFrom fuel kind (some done)
          | _ =>
              if !inside then unexpected
              again
              return some done

/-- The reader of commands inside words. -/
def nestedIn : (fuel : Nat) → Nested
  | 0 => { enclosed := unexpected, whole := unexpected }
  | fuel + 1 => {
      enclosed := do
        let c ← list fuel .loose
        expect (nestedIn fuel) .closing (fun | .closing => true | _ => false)
        return c.getD .nothing
      whole := do return (← list fuel .loose).getD .nothing }

/-- Pipelines joined by `&&` and `||`, from left to right. -/
def andOr : (fuel : Nat) → Reader Script
  | 0 => unexpected
  | fuel + 1 => do andOrFrom fuel (← pipeline fuel)

def andOrFrom : (fuel : Nat) → Script → Reader Script
  | 0, _ => unexpected
  | fuel + 1, first => do
      match ← token (nestedIn fuel) with
      | .both =>
          expectNext freshPlace
          andOrFrom fuel (.both first (← pipeline fuel))
      | .either =>
          expectNext freshPlace
          andOrFrom fuel (.either first (← pipeline fuel))
      | _ =>
          again
          return first

def pipeline : (fuel : Nat) → Reader Script
  | 0 => unexpected
  | fuel + 1 => do
      let negated := (← token (nestedIn fuel)).isReserved "!"
      if negated then expectNext commandPlace else again
      let first ← command fuel
      let body ← match ← token (nestedIn fuel) with
        | .pipe => do pure (.piped (first :: (← members fuel)))
        | _ => do
            again
            pure first
      return if negated then .inverted body else body

/-- The members of a pipeline behind the first one. -/
def members : (fuel : Nat) → Reader (List Script)
  | 0 => unexpected
  | fuel + 1 => do
      expectNext freshPlace
      let c ← command fuel
      match ← token (nestedIn fuel) with
      | .pipe => return c :: (← members fuel)
      | _ =>
          again
          return [c]

/-- A compound command with its redirections, or a simple command. -/
def command : (fuel : Nat) → Reader Script
  | 0 => unexpected
  | fuel + 1 => do
      let line := (← get).line
      match ← token (nestedIn fuel) with
      | .word _ | .redirection .. =>
          again
          let start : SimpleCommand Script := { line := (← get).line }
          match ← simpleCommand (nestedIn fuel) (← tokenBound) start with
          | (c, none) => return .simple c
          | (_, some name) =>
              let line := (← get).line
              expectNext freshPlace
              return .define line name (← command fuel)
      | .opening =>
          let body ← list fuel .body
          expect (nestedIn fuel) .closing (fun | .closing => true | _ => false)
          return .subshell line (body.getD .nothing) (← redirectionsBehind fuel)
      | .reserved word =>
          let body ← compound fuel line word
          let rs ← redirectionsBehind fuel
          return if rs.isEmpty then body else .group line body rs
      | _ => unexpected

def redirectionsBehind : (fuel : Nat) → Reader (List Redirection)
  | 0 => unexpected
  | fuel + 1 => do
      expectNext commandPlace
      redirections (nestedIn fuel) (← tokenBound)

/-- Commands inside something. -/
def body : (fuel : Nat) → Reader Script
  | 0 => unexpected
  | fuel + 1 => do return (← list fuel .body).getD .nothing

/-- The rest of a compound command behind the reserved word that opens it. -/
def compound : (fuel : Nat) → (line : Nat) → String → Reader Script
  | 0, _, _ => unexpected
  | fuel + 1, line, word => do
      let nested := nestedIn fuel
      match word with
      | "if" => choice fuel
      | "while" | "until" =>
          let condition ← body fuel
          expectReserved nested "do"
          let c ← body fuel
          expectReserved nested "done"
          return .loop (word = "while") condition c
      | "for" =>
          let name ← match ← token nested with
            | .word w => pure ((WordPart.plain? w).getD [])
            | _ => pure []
          if !Word.isName name then fail "Bad for loop variable"
          expectNext freshPlace
          let items ← match ← token nested with
            | .reserved "in" => do
                let items ← wordList nested (← tokenBound)
                match (← get).last with
                | .newline | .semicolon => pure items
                | _ => unexpected
            | .semicolon => pure [allArguments]
            | _ => do
                again
                pure [allArguments]
          expectNext freshPlace
          expectReserved nested "do"
          let c ← body fuel
          expectReserved nested "done"
          return .each line name items c
      | "case" =>
          let w ← match ← token nested with
            | .word w => pure w
            | _ => unexpected (some (.word []))
          expectNext freshPlace
          expectReserved nested "in"
          return .select line w (← branches fuel)
      | "\x7b" =>
          let c ← body fuel
          expectReserved nested "\x7d"
          return c
      | _ => unexpected

/-- What follows `if` or `elif`, up to and with `fi`. -/
def choice : (fuel : Nat) → Reader Script
  | 0 => unexpected
  | fuel + 1 => do
      let nested := nestedIn fuel
      let condition ← body fuel
      expectReserved nested "then"
      let consequence ← body fuel
      match ← token nested with
      | .reserved "elif" => return .choose condition consequence (some (← choice fuel))
      | .reserved "else" =>
          let alternative ← body fuel
          expectReserved nested "fi"
          return .choose condition consequence (some alternative)
      | _ =>
          again
          expectReserved nested "fi"
          return .choose condition consequence none

/-- The branches of a selection, up to and with `esac`. -/
def branches : (fuel : Nat) → Reader (List (List Word × Script))
  | 0 => unexpected
  | fuel + 1 => do
      let nested := nestedIn fuel
      expectNext { newlines := true, reserved := true }
      let t ← token nested
      if t.isReserved "esac" then return []
      let t ← match t with
        | .opening => token nested
        | t => pure t
      let (fits, last) ← patterns nested (← tokenBound) t
      match last with
      | .closing => pure ()
      | _ => unexpected (some .closing)
      let c ← list fuel .loose
      let branch := (fits, c.getD .nothing)
      expectNext { newlines := true, reserved := true }
      match ← token nested with
      | .reserved "esac" => return [branch]
      | .endOfBranch => return branch :: (← branches fuel)
      | _ => unexpected (some .endOfBranch)

end

/-- More steps than reading a text takes. -/
def stepBound (s : Scan) : Nat := 1000000 + 16 * s.text.length

/-- A line of a script, and how far it goes. -/
structure ReadLine where
  /-- The commands; nothing at the end of the script. -/
  script : Option Script
  after : Scan

/-- Whether the line was ended by the end of the script. -/
def ReadLine.isLast (l : ReadLine) : Bool :=
  l.after.again && match l.after.last with
    | .endOfInput => true
    | _ => false

/-- Read the next line of commands. -/
def readLine (s : Scan) : Except ScriptError ReadLine := do
  let (script, after) ← (list (stepBound s) .line).run { s with again := false, checks := {} }
  return { script, after }

/-- What a line comes to: how many bytes are left behind it, or why it cannot be read. -/
def summary (final : Bool) (text : String) : Except ScriptError Nat :=
  (readLine { text := Bytes.ofText text, final }).map (·.after.text.length)

/-- The message about a text that cannot be read; it is empty where only more is needed. -/
def complaint (final : Bool) (text : String) : Option String :=
  match summary final text with
  | .ok _ => none
  | .error e => some e.message

example : (summary true "a; b\nc").toOption = some 1 := by decide +kernel
example : complaint false "if a\n" = some "" := by decide +kernel
example : complaint true "fi" = some "\"fi\" unexpected" := by decide +kernel

end JobShell.Machine.Script
