import JobShell.Machine.Lines
import JobShell.Machine.Regex.Parser
import JobShell.Machine.Utility.Files
import JobShell.Machine.Utility.Stream

/-!
# Searching lines

The utility `grep`: lines that match a pattern, or how many there are, or in which files.
-/

namespace JobShell.Machine.Searching

open Program Report

/-! ## What is searched -/

/-- What is looked for in a line. -/
structure Query where
  patterns : List Regex
  folding : Bool := false
  inverted : Bool := false
  wholeLines : Bool := false
  wholeWords : Bool := false
deriving DecidableEq, Repr

/-- The first match in a line from a position on. -/
def Query.find? (q : Query) (text : Array UInt8) (start : Nat := 0) : Option Regex.Match :=
  let isWordAt (i : Nat) : Bool := (text[i]?).any Regex.isWordByte
  let admits (start stop : Nat) : Bool :=
    (!q.wholeLines || (start = 0 && stop = text.size)) &&
      (!q.wholeWords || (!(0 < start && isWordAt (start - 1)) && !isWordAt stop))
  let s : Regex.Search := { folding := q.folding, admits }
  (q.patterns.filterMap fun r => r.find? text s start).foldl (fun best m =>
    match best with
    | none => some m
    | some b =>
        if m.start < b.start || (m.start = b.start && b.stop < m.stop) then some m else best) none

/-- Whether a line is selected. -/
def Query.chooses (q : Query) (line : Bytes) : Bool := (q.find? line.toArray).isSome != q.inverted

/-- The matches in a line, one behind the other; `fuel` bounds their number. -/
def Query.all (q : Query) (text : Array UInt8) : (fuel start : Nat) → List Regex.Match
  | 0, _ => []
  | fuel + 1, start =>
      match q.find? text start with
      | none => []
      | some m =>
          if m.stop = m.start then
            if m.stop < text.size then q.all text fuel (m.stop + 1) else []
          else m :: q.all text fuel m.stop

/-! ## What is shown -/

/-- What is shown of each file. -/
inductive Shown
  | lines
  | matches
  | count
  | namesWith
  | namesWithout
  | nothing
deriving DecidableEq, Repr

structure View where
  shown : Shown := .lines
  named : Bool := false
  numbered : Bool := false
  offsets : Bool := false
  before : Nat := 0
  after : Nat := 0
  /-- Whether groups of lines that belong together are kept apart. -/
  grouped : Bool := false
  /-- How many lines are selected at most. -/
  most : Option Nat := none
  /-- How standard input is called. -/
  input : Bytes := Bytes.ofText "(standard input)"
  /-- Whether all files count as texts. -/
  texts : Bool := false
  silent : Bool := false
  ending : Bytes := [Bytes.newline]
deriving DecidableEq, Repr

/-- How far the search in a file has come. -/
structure Progress where
  number : Nat := 0
  offset : Nat := 0
  selected : Nat := 0
  /-- The lines in front that may still be shown, the last one first. -/
  held : List (Nat × Nat × Bytes) := []
  /-- How many lines behind the last selected one are still to be shown. -/
  owed : Nat := 0
  /-- Whether anything has been shown, and which line of this file was shown last. -/
  started : Bool := false
  lastShown : Option Nat := none
  binary : Bool := false
  /-- What waits to be written, its last part first. -/
  waiting : List Bytes := []
  waitingSize : Nat := 0

/-- How much is written at a time. -/
def outputSize : Nat := 4096

def View.lead (v : View) (file : Bytes) (sign : UInt8) (number offset : Nat) : Bytes :=
  (if v.named then file ++ [sign] else []) ++
    (if v.numbered then Bytes.ofNat number ++ [sign] else []) ++
    (if v.offsets then Bytes.ofNat offset ++ [sign] else [])

def Progress.put (p : Progress) (bs : Bytes) : Progress :=
  { p with waiting := bs :: p.waiting, waitingSize := p.waitingSize + bs.length }

/-- Show one line, behind a mark if lines were left out in front of it. -/
def View.show_ (v : View) (file : Bytes) (sign : UInt8) (p : Progress) (number offset : Nat)
    (body : Bytes) : Progress :=
  let gap := v.grouped && p.started && p.lastShown.map (· + 1) ≠ some number
  let p := if gap then p.put (Bytes.ofText "--\n") else p
  { p.put (v.lead file sign number offset ++ body ++ [Bytes.newline]) with
    started := true, lastShown := some number }

/-- Search one line. -/
def step (q : Query) (v : View) (file : Bytes) (p : Progress) (line : Bytes) : Progress :=
  let number := p.number + 1
  let offset := p.offset
  let p := { p with number, offset := p.offset + line.length + 1 }
  let chosen := q.chooses line
  let shows := !p.binary
  if chosen then
    let p := { p with selected := p.selected + 1 }
    match v.shown with
    | .lines =>
        if !shows then { p with owed := v.after, held := [] }
        else
          let p := p.held.reverse.foldl
            (fun p (number, offset, line) => v.show_ file 45 p number offset line) p
          { v.show_ file 58 p number offset line with owed := v.after, held := [] }
    | .matches =>
        if !shows || q.inverted then p
        else
          let text := line.toArray
          (q.all text (text.size + 1) 0).foldl (fun p m =>
            p.put (v.lead file 58 number (offset + m.start) ++ m.part text 0 ++ [Bytes.newline])) p
    | _ => p
  else if v.shown ≠ .lines || !shows then p
  else if 0 < p.owed then { v.show_ file 45 p number offset line with owed := p.owed - 1 }
  else { p with held := (((number, offset, line) :: p.held).take v.before) }

/-- Whether a search needs no more lines. -/
def isDone (v : View) (p : Progress) : Bool :=
  let enough := v.most.any fun n => decide (n ≤ p.selected)
  (enough && p.owed = 0) ||
    (0 < p.selected && (v.shown = .namesWith || v.shown = .namesWithout || v.shown = .nothing ||
      (p.binary && v.shown ≠ .count)))

/-- A search in a file as a filter. -/
def searcher (q : Query) (v : View) (file : Bytes) : Filter (Progress × Bytes) :=
  let base : Filter (Progress × Bytes) := Filter.ofLines (fun p line _ =>
    let enough := v.most.any fun n => decide (n ≤ p.selected)
    if enough then
      if 0 < p.owed && !q.chooses line then ([], step q v file p line)
      else ([], { p with owed := 0 })
    else ([], step q v file p line)) (fun _ => []) (isDone v)
  let flush (least : Nat) (s : Progress × Bytes) : Bytes × (Progress × Bytes) :=
    let (p, pending) := s
    if least ≤ p.waitingSize then
      (p.waiting.reverse.flatten, ({ p with waiting := [], waitingSize := 0 }, pending))
    else ([], s)
  { base with
    feed := fun (p, pending) chunk =>
      let binary := p.binary || (!v.texts && chunk.contains 0)
      flush outputSize (base.feed ({ p with binary }, pending) chunk).2
    endFile := fun s => flush 0 (base.endFile s).2
    appetite := 32768 }

/-- What the search in a file comes to: how many lines were selected, whether the file could be
read, and whether any line of this file or of those before it was shown. -/
structure Outcome where
  count : Nat
  good : Bool
  started : Bool

/-- Search one file. Nothing comes back if the output cannot be written. -/
def searchOne (c : Caller) (q : Query) (v : View) (started : Bool) (file : Bytes) :
    Program (Option Outcome) := do
  let shownName := if file = standardInput then v.input else file
  let complainOf (e : Errno) : Program Unit := do
    if !v.silent then discard <| c.fail "" shownName e
  match ← openSource file with
  | .error e =>
      complainOf e
      return some ⟨0, false, started⟩
  | .ok fd =>
      let f := searcher q v shownName
      match ← pump c f fd ({ started }, []) with
      | none => return none
      | some (s, failure) =>
          match failure with
          | some e => complainOf e
          | none => pure ()
          closeSource file fd
          let (out, (p, _)) := f.endFile s
          let line (bs : Bytes) : Bytes := (if v.named then shownName ++ [58] else []) ++ bs ++
            [Bytes.newline]
          let last := match v.shown with
            | .count => if failure.isSome then [] else line (Bytes.ofNat p.selected)
            | .namesWith => if 0 < p.selected then shownName ++ v.ending else []
            | .namesWithout =>
                if p.selected = 0 && failure.isNone then shownName ++ v.ending else []
            | .lines | .matches | .nothing => []
          if !(← c.emit (out ++ last)) then return none
          if p.binary && 0 < p.selected && (v.shown = .lines || v.shown = .matches) then
            c.say (shownName ++ Bytes.ofText ": binary file matches")
          return some ⟨p.selected, failure.isNone, p.started⟩

/-- Search one file after another; `found` tells whether something was found, `good` whether all
files could be read, and `started` whether a line was shown. -/
def searchEach (c : Caller) (q : Query) (v : View) : List Bytes → (found good started : Bool) →
    Program Nat
  | [], found, good, _ => return if !good then c.failure else if found then 0 else 1
  | file :: rest, found, good, started => do
      match ← searchOne c q v started file with
      | none => return c.failure
      | some o =>
          let hit := if v.shown = .namesWithout then o.count = 0 && o.good else 0 < o.count
          if v.shown = .nothing && hit then return 0
          searchEach c q v rest (found || hit) (good && o.good) o.started

/-! ## Arguments -/

/-- The files at and below a path; `depth` bounds the nesting. -/
def filesBelow : (depth : Nat) → Bytes → Program (List Bytes)
  | 0, _ => return []
  | depth + 1, path => do
      match ← call (.examine path false) with
      | .ok facts =>
          if facts.kind = .directory then
            match ← call (.entries path) with
            | .error _ => return [path]
            | .ok names => below depth (names.map (Files.within path))
          else if facts.kind = .regular then return [path] else return []
      | .error _ => return [path]
where
  below (depth : Nat) : List Bytes → Program (List Bytes)
    | [] => return []
    | path :: rest => do return (← filesBelow depth path) ++ (← below depth rest)

def options : OptionTable where
  plain := "EFGPivwxclLqsnHhobarRzyTUu"
  valued := "efmABC"
  open_ := "χ"
  words := [("extended-regexp", 'E'), ("fixed-strings", 'F'), ("basic-regexp", 'G'),
    ("ignore-case", 'i'), ("invert-match", 'v'), ("word-regexp", 'w'), ("line-regexp", 'x'),
    ("count", 'c'), ("files-with-matches", 'l'), ("files-without-match", 'L'), ("quiet", 'q'),
    ("silent", 'q'), ("no-messages", 's'), ("line-number", 'n'), ("with-filename", 'H'),
    ("no-filename", 'h'), ("only-matching", 'o'), ("byte-offset", 'b'), ("text", 'a'),
    ("recursive", 'r'), ("regexp", 'e'), ("file", 'f'), ("max-count", 'm'),
    ("after-context", 'A'), ("before-context", 'B'), ("context", 'C'), ("color", 'χ')]

/-- Show how the utility is used. -/
def sayUsage (c : Caller) : Program Nat := do
  complain "Usage: grep [OPTION]... PATTERNS [FILE]...\n"
  c.sayHelp
  return c.failure

/-- How the patterns are written, unless they are plain texts. -/
def dialect? (a : Arguments) (folding : Bool) : Option Regex.Dialect :=
  match a.last? "EFG" with
  | some 'F' => none
  | letter => some { extended := letter = some 'E', folding }

/-- The expression that a line of the patterns stands for. -/
def patternOf (a : Arguments) (folding : Bool) (text : Bytes) : Except Regex.PatternError Regex :=
  match dialect? a folding with
  | none => .ok (Regex.literal (text.map (Regex.folded folding)))
  | some d => Regex.parse? d text

/-- The lines of the patterns, and the files; nothing if there are no patterns. -/
def patternLines (c : Caller) (a : Arguments) :
    Program (Option (List Bytes × List Bytes) × Bool) := do
  let given := a.options.filterMap fun (letter, value) =>
    if letter = 'e' then some (Bytes.splitOn Bytes.newline value) else none
  let files := a.options.filterMap fun (letter, value) => if letter = 'f' then some value else none
  if given.isEmpty && files.isEmpty then
    match a.operands with
    | [] => return (none, true)
    | first :: rest => return (some (Bytes.splitOn Bytes.newline first, rest), true)
  let (contents, good) ← readEach c files
  let read := contents.flatMap fun (_, text) => Lines.ofBytes text
  return (some (given.flatten ++ read, a.operands), good)

/-- A number of lines given with an option. -/
def lineCount (a : Arguments) (letter : Char) : Except Bytes (Option Nat) :=
  match a.value? letter with
  | none => .ok none
  | some text =>
      match Bytes.decimal? text with
      | some n => .ok (some n)
      | none => .error (text ++ Bytes.ofText ": invalid context length argument")

def view (a : Arguments) (named : Bool) : Except Bytes View := do
  let around ← lineCount a 'C'
  let before ← lineCount a 'B'
  let after ← lineCount a 'A'
  let most ← match a.value? 'm' with
    | none => .ok none
    | some text =>
        match Numeral.number? true text with
        | some n => .ok (if n < 0 then none else some n.toNat)
        | none => .error (Bytes.ofText "invalid max count")
  let shown : Shown := if a.has 'q' then .nothing
    else match a.last? "lL" with
      | some 'l' => .namesWith
      | some _ => .namesWithout
      | none => if a.has 'c' then .count else if a.has 'o' then .matches else .lines
  return {
    shown, most, numbered := a.has 'n', offsets := a.has 'b', silent := a.has 's'
    named := (named || a.has 'H') && a.last? "Hh" ≠ some 'h', texts := a.has 'a'
    grouped := (before <|> after <|> around).isSome
    before := (before <|> around).getD 0, after := (after <|> around).getD 0 }

/-- Search with arguments that have been read. -/
def search (c : Caller) (a : Arguments) : Program Nat := do
  match ← patternLines c a with
  | (_, false) => return c.failure
  | (none, true) => sayUsage c
  | (some (texts, files), true) =>
      let folding := a.has 'i' || a.has 'y'
      let recursive := a.has 'r' || a.has 'R'
      match texts.mapM (patternOf a folding), view a (recursive || 1 < files.length) with
      | .error e, _ => c.abort (Bytes.ofText e.message)
      | _, .error e => c.abort e
      | .ok patterns, .ok v =>
          let doubts := (dialect? a folding).toList.flatMap fun d =>
            texts.flatMap (Regex.doubtful d)
          doubts.forM fun sign => c.sayText ("warning: " ++ sign ++ " at start of expression")
          let q : Query := {
            patterns, folding, inverted := a.has 'v', wholeLines := a.has 'x'
            wholeWords := a.has 'w' }
          let files := if !files.isEmpty then files
            else [if recursive then FileTree.dot else standardInput]
          let files ← if !recursive then pure files
            else filesBelow.below Files.greatestDepth files
          if v.most = some 0 then return 1
          searchEach c q v files false true false

/-- The signal of a bad access to memory. -/
def badAccess : Signal := 11

def grep (c : Caller) (arguments : List Bytes) : Program Nat := do
  -- A handler for overflows of the stack is in place while patterns are read.
  call (.dispose badAccess .catch)
  match Arguments.read options {} arguments with
  | .error e =>
      c.say e
      sayUsage c
  | .ok a => search c a

/-- The utilities `egrep` and `fgrep`: the same with an option. -/
def grepAs (letter : Char) (c : Caller) (arguments : List Bytes) : Program Nat :=
  grep { c with name := Bytes.ofText "grep" }
    (Bytes.ofText ("-" ++ String.singleton letter) :: arguments)

end JobShell.Machine.Searching
