import JobShell.Machine.Utility.Copying

/-!
# The first and the last part of files

`head` and `tail` show so many lines or bytes from one end of each file, or all but so many.
-/

namespace JobShell.Machine.Portion

open Program Report

/-- What is shown of a file. -/
structure Part where
  bytes : Bool := false
  count : Nat := 10
  /-- Whether the count tells what is left out: at the end by `head`, at the start by `tail`. -/
  rest : Bool := false
deriving DecidableEq, Repr

/-- Up to a number of lines from the front of a text, and how many lines are still wanted. -/
def takeLines : (left : Nat) → Bytes → Bytes × Nat
  | 0, _ => ([], 0)
  | left + 1, [] => ([], left + 1)
  | left + 1, b :: rest =>
      let (text, left) := takeLines (if b = Bytes.newline then left else left + 1) rest
      (b :: text, left)

/-- How many lines a text has, the last one counting even without a newline. -/
def lineCount (text : Bytes) : Nat :=
  text.count Bytes.newline +
    (if text.isEmpty || text.getLast? = some Bytes.newline then 0 else 1)

/-- A text without its first lines. -/
def dropLines (n : Nat) (text : Bytes) : Bytes := text.drop (takeLines n text).1.length

def lastLines (n : Nat) (text : Bytes) : Bytes := dropLines (lineCount text - n) text

/-- The end of a text that is shown. -/
def Part.atEnd (p : Part) (text : Bytes) : Bytes :=
  match p.bytes, p.rest with
  | true, false => text.drop (text.length - p.count)
  | true, true => text.drop (p.count - 1)
  | false, false => lastLines p.count text
  | false, true => dropLines (p.count - 1) text

/-- The start of a text without its end. -/
def Part.withoutEnd (p : Part) (text : Bytes) : Bytes :=
  if p.bytes then text.take (text.length - p.count)
  else (takeLines (lineCount text - p.count) text).1

/-! ## Showing parts of files -/

/-- How much of a file is read at a time. -/
def blockSize : Nat := 8192

/-- Show the start of an open file. What was read too much is left to be read again. The reply
tells why the file could not be read, or nothing if the output could not be written. -/
def showStart (c : Caller) (p : Part) (fd : Nat) : Program (Option (Option Errno)) :=
  iterate (fun (left : Nat) => do
    if left = 0 then return .inr (some none)
    match ← call (.read fd (if p.bytes then min left blockSize else blockSize)) with
    | .error e => return .inr (some (some e))
    | .ok [] => return .inr (some none)
    | .ok chunk =>
        let (out, left) := if p.bytes then (chunk, left - chunk.length) else takeLines left chunk
        if out.length < chunk.length then
          discard <| call (.seek fd .current ((out.length : Int) - chunk.length))
        if ← c.emit out then return .inl left else return .inr none) none patience p.count

/-- Show what a function leaves of an open file. -/
def showSome (c : Caller) (choose : Bytes → Bytes) (fd : Nat) :
    Program (Option (Option Errno)) := do
  match ← readRest fd patience [] with
  | .error e => return some (some e)
  | .ok text => return if ← c.emit (choose text) then some none else none

/-- How a source is called in headings and messages. -/
def title (source : Bytes) : Bytes :=
  if source = standardInput then Bytes.ofText "standard input" else source

/-- Show a part of one file after another, each behind a heading if that is wanted. The reply
tells whether all could be shown. -/
def showEach (c : Caller) (headed : Bool) (show_ : Nat → Program (Option (Option Errno))) :
    List Bytes → (first : Bool) → Program Bool
  | [], _ => return true
  | source :: rest, first => do
      match ← openSource source with
      | .error e =>
          let _ ← c.fail "cannot open " (Quoting.shell source ++ Bytes.ofText " for reading") e
          let _ ← showEach c headed show_ rest first
          return false
      | .ok fd =>
          let heading := if headed then
              (if first then [] else [Bytes.newline]) ++ Bytes.ofText "==> " ++ title source ++
                Bytes.ofText " <==\n"
            else []
          if !(← c.emit heading) then return false
          match ← show_ fd with
          | none => return false
          | some failure =>
              reportReading c "error reading " (Quoting.shell (title source)) standardInput source
                failure
              closeSource source fd
              let others ← showEach c headed show_ rest false
              return others && failure.isNone

/-! ## Arguments -/

/-- A count with a suffix. -/
def count? (bs : Bytes) : Option Nat := Copying.size? bs

/-- Letters in front of the arguments, as options of their own. -/
def asOption (letter : Char) (value : Bytes) (rest : List Bytes) : List Bytes :=
  (Arguments.hyphen :: [letter.toNat.toUInt8]) :: value :: rest

/-- The letters behind a count without an option letter, in front of the other arguments. The last
one with a meaning tells what is counted. -/
def spellLetters (digits : Bytes) : (unit : Option UInt8) → Bytes → List Bytes →
    Except Bytes (List Bytes)
  | none, [], rest => .ok (asOption 'n' digits rest)
  | some unit, [], rest => .ok (asOption 'c' (digits ++ if unit = 99 then [] else [unit]) rest)
  | unit, b :: letters, rest =>
      if b = 108 then spellLetters digits none letters rest
      else if [98, 99, 107, 109].contains b then spellLetters digits (some b) letters rest
      else if [113, 118, 122].contains b then
        spellLetters digits unit letters ([Arguments.hyphen, b] :: rest)
      else .error (Bytes.ofText "invalid trailing option -- " ++ [b])

/-- A count of the first lines, written as an option of its own such as `-5`, is spelled out. -/
def spellFront : List Bytes → Except Bytes (List Bytes)
  | (45 :: more) :: rest =>
      let digits := more.takeWhile Bytes.isDigit
      if digits.isEmpty then .ok ((45 :: more) :: rest)
      else spellLetters digits none (more.drop digits.length) rest
  | arguments => .ok arguments

/-- Whether a count of the last lines can stand as an option of its own in front of these
arguments. -/
def allowsShort : List Bytes → Bool
  | [] => true
  | [file] => file.head? ≠ some Arguments.hyphen || file.length = 1
  | dashes :: rest => dashes = Bytes.ofText "--" && rest.length ≤ 1

/-- A count of the last lines written as an option of its own, such as `-5` or `+5`, is spelled
out. -/
def spellBack : List Bytes → Except Bytes (List Bytes)
  | (sign :: more) :: rest =>
      let digits := more.takeWhile Bytes.isDigit
      let letters := more.drop digits.length
      let unit := letters.head?.filter [98, 99, 108].contains
      let after := if unit.isSome then letters.tail else letters
      let isCount := sign = 43 || (sign = 45 && !digits.isEmpty)
      if isCount && allowsShort rest && (after.isEmpty || after = [102]) then
        let first : List Bytes := if after.isEmpty then [] else [[Arguments.hyphen, 102]]
        let value := (if sign = 43 then [43] else []) ++
          (if digits.isEmpty then Bytes.ofText "10" else digits) ++
          (if unit = some 98 then [98] else [])
        .ok (first ++ asOption (if unit = some 98 || unit = some 99 then 'c' else 'n') value rest)
      else if sign = 45 && !digits.isEmpty then
        .error (Bytes.ofText "option used in invalid context -- " ++ digits.take 1)
      else .ok ((sign :: more) :: rest)
  | arguments => .ok arguments

def options : OptionTable where
  plain := "qvzfF"
  valued := "nc"
  words := [("lines", 'n'), ("bytes", 'c'), ("quiet", 'q'), ("silent", 'q'), ("verbose", 'v'),
    ("zero-terminated", 'z'), ("follow", 'f')]

/-- What the arguments ask for; `sign` marks a count of what is left out. -/
def part (sign : UInt8) (a : Arguments) : Except Bytes Part :=
  match a.options.findRev? fun o => o.1 = 'n' || o.1 = 'c' with
  | none => .ok {}
  | some (letter, value) =>
      let bytes := letter = 'c'
      let rest := value.head? = some sign
      let digits := match value with
        | 43 :: digits | 45 :: digits => digits
        | digits => digits
      match count? digits with
      | some count => .ok { bytes, count, rest }
      | none =>
          let unit := if bytes then "bytes" else "lines"
          .error (Bytes.ofText ("invalid number of " ++ unit ++ ": ") ++ Quoting.shell value)

def isHeaded (a : Arguments) : Bool :=
  match a.last? "qv" with
  | some letter => letter = 'v'
  | none => 1 < a.operands.length

def head (c : Caller) (arguments : List Bytes) : Program Nat :=
  match spellFront arguments with
  | .error message => c.refuse message
  | .ok arguments => c.withArguments options arguments fun a => do
      match part 45 a with
      | .error message => c.abort message
      | .ok p =>
          let show_ := if p.rest then showSome c p.withoutEnd else showStart c p
          return if ← showEach c (isHeaded a) show_ (sources a.operands) true then 0 else c.failure

def tail (c : Caller) (arguments : List Bytes) : Program Nat :=
  match spellBack arguments with
  | .error message => c.abort message
  | .ok arguments => c.withArguments options arguments fun a => do
      match part 43 a with
      | .error message => c.abort message
      | .ok p =>
          let good ← showEach c (isHeaded a) (showSome c p.atEnd) (sources a.operands) true
          if a.has 'f' || a.has 'F' then call (.sleepUntil ((← call .clock) + 1000000000000))
          return if good then 0 else c.failure

end JobShell.Machine.Portion
