import JobShell.Machine.Utility.Copying

/-!
# Counting

`wc` counts the lines, words and bytes of files. The columns are as wide as the sizes of the files
need, or wide if some file has no size of its own.
-/

namespace JobShell.Machine.Counting

open Program Report

/-- What was counted so far. -/
structure Counts where
  lines : Nat := 0
  words : Nat := 0
  bytes : Nat := 0
  /-- The length of the longest line, and of the line at hand. -/
  longest : Nat := 0
  current : Nat := 0
  /-- Whether the last byte belongs to a word. -/
  inWord : Bool := false
deriving DecidableEq, Repr

def isSpace (b : UInt8) : Bool := b == 32 || (9 ≤ b && b ≤ 13)

namespace Counts

def step (c : Counts) (b : UInt8) : Counts :=
  let c := { c with bytes := c.bytes + 1 }
  if b = Bytes.newline || b = 13 || b = 12 then
    { c with
      lines := if b = Bytes.newline then c.lines + 1 else c.lines
      longest := max c.longest c.current, current := 0, inWord := false }
  else if b = Bytes.tab then { c with current := c.current + 8 - c.current % 8, inWord := false }
  else if isSpace b then
    { c with current := if b = 32 then c.current + 1 else c.current, inWord := false }
  else if Quoting.isPrintable b then
    { c with
      current := c.current + 1
      words := if c.inWord then c.words else c.words + 1
      inWord := true }
  else c

def closed (c : Counts) : Counts := { c with longest := max c.longest c.current }

def plus (a b : Counts) : Counts where
  lines := a.lines + b.lines
  words := a.words + b.words
  bytes := a.bytes + b.bytes
  longest := max a.longest b.longest

end Counts

/-- What is to be shown. -/
structure Shown where
  lines : Bool
  words : Bool
  characters : Bool
  bytes : Bool
  longest : Bool
deriving DecidableEq, Repr

namespace Shown

def numbers (s : Shown) (c : Counts) : List Nat :=
  (if s.lines then [c.lines] else []) ++ (if s.words then [c.words] else []) ++
    (if s.characters then [c.bytes] else []) ++ (if s.bytes then [c.bytes] else []) ++
    (if s.longest then [c.longest] else [])

def line (s : Shown) (width : Nat) (c : Counts) (file : Bytes) : Bytes :=
  [Bytes.space].intercalate ((s.numbers c).map (Copying.column width)) ++
    (if file.isEmpty then [] else Bytes.space :: file) ++ [Bytes.newline]

end Shown

/-- How wide the columns are. -/
def width (s : Shown) (files : List Bytes) : Program Nat := do
  let look (file : Bytes) : Program (Except Errno FileFacts) :=
    if file = standardInput then call (.examineOpen 0) else call (.examine file true)
  if files.length = 1 && (s.numbers {}).length = 1 then return 1
  else
    let known := (← files.mapM look).filterMap Except.toOption
    let sizes := known.map fun f => if f.kind = .regular then f.size else 0
    let least := if known.any (·.kind ≠ .regular) then 7 else 1
    return max least (Bytes.ofNat (sizes.foldl (· + ·) 0)).length

def counter : Filter Counts where
  feed c chunk := ([], chunk.foldl Counts.step c)

/-- Count one file after another; the total and whether all went well come back, or nothing if the
output could not be written. -/
def countEach (c : Caller) (s : Shown) (width : Nat) (named : Bool) :
    List Bytes → (total : Counts) → (good : Bool) → Program (Option (Counts × Bool))
  | [], total, good => return some (total, good)
  | file :: rest, total, good => do
      match ← openSource file with
      | .error e =>
          let _ ← c.fail "" (Quoting.named file) e
          countEach c s width named rest total false
      | .ok fd =>
          match ← pump c counter fd {} with
          | none => return none
          | some (counts, failure) =>
              let shown := if file = standardInput then
                Bytes.ofText "'standard input'" else Quoting.named file
              reportReading c "" shown standardInput file failure
              closeSource file fd
              let counts := counts.closed
              if ← c.emit (s.line width counts (if named then file else [])) then
                countEach c s width named rest (total.plus counts) (good && failure.isNone)
              else return none

def wc (c : Caller) (arguments : List Bytes) : Program Nat :=
  c.withArguments { plain := "clLmw", words := [("bytes", 'c'), ("chars", 'm'), ("lines", 'l'),
      ("words", 'w'), ("max-line-length", 'L')] } arguments fun a => do
    let all := a.options.isEmpty
    let s : Shown := { lines := all || a.has 'l', words := all || a.has 'w', characters := a.has 'm'
                       bytes := all || a.has 'c', longest := a.has 'L' }
    let files := sources a.operands
    let width ← width s files
    match ← countEach c s width (!a.operands.isEmpty) files {} true with
    | none => return c.failure
    | some (total, good) =>
        let out := if 1 < files.length then s.line width total (Bytes.ofText "total") else []
        c.finish out (if good then 0 else c.failure)

end JobShell.Machine.Counting
