import JobShell.Machine.Script.Pattern
import JobShell.Machine.Utility.FileMode
import JobShell.Machine.Utility.Listing

/-!
# Finding files

`find` walks through directories and puts every file it meets to a wish: tests and actions that are
joined by operators. A wish without an action prints the files that fulfil it.

Results:
1. The examples at the end: how wishes are read.
-/

namespace JobShell.Machine.Finding

open Program Report Files

/-! ## Wishes -/

/-- How a number is compared with a wanted one. -/
inductive Bound
  | exactly (n : Nat)
  | above (n : Nat)
  | below (n : Nat)
deriving DecidableEq, Repr

def Bound.holds : Bound → Nat → Bool
  | .exactly n, m => m = n
  | .above n, m => n < m
  | .below n, m => m < n

/-- Which bits of a mode are wanted. -/
inductive ModeTest
  | exactly (bits : Nat)
  | all (bits : Nat)
  | any (bits : Nat)
deriving DecidableEq, Repr

def ModeTest.holds : ModeTest → Nat → Bool
  | .exactly bits, mode => mode = bits
  | .all bits, mode => mode &&& bits = bits
  | .any bits, mode => bits = 0 || mode &&& bits ≠ 0

/-- What is asked about a file that is found, and what is done with it. -/
inductive Wish
  | name (anyCase : Bool) (pattern : Bytes)
  | path (anyCase : Bool) (pattern : Bytes)
  | kinds (letters : List UInt8)
  | empty
  | size (unit : Nat) (bound : Bound)
  | mode (test : ModeTest)
  | newer (file : Bytes)
  | sameAs (file : Bytes)
  /-- How old the content is, in units of so many milliseconds. -/
  | age (unit : Nat) (bound : Bound)
  | links (bound : Bound)
  | owner (bound : Bound)
  | usable (access : Access)
  | constant (answer : Bool)
  | print (ending : UInt8)
  | printf (format : Bytes)
  | run (words : List Bytes)
  | gather (words : List Bytes)
  | delete
  | prune
  | quit
  | not (w : Wish)
  | and (a b : Wish)
  | or (a b : Wish)
  /-- Both, the second one giving the answer. -/
  | both (a b : Wish)
deriving DecidableEq, Repr

/-- Whether a wish says itself what is done with the files. -/
def Wish.acts : Wish → Bool
  | .print _ | .printf _ | .run _ | .gather _ | .delete => true
  | .not w => w.acts
  | .and a b | .or a b | .both a b => a.acts || b.acts
  | _ => false

/-- The files that a wish compares others with. -/
def Wish.references : Wish → List Bytes
  | .newer file | .sameAs file => [file]
  | .not w => w.references
  | .and a b | .or a b | .both a b => a.references ++ b.references
  | _ => []

/-! ## Reading wishes -/

/-- A search: how deep it goes, and where a directory stands among what is in it. -/
structure Search where
  least : Nat := 0
  most : Nat := greatestDepth
  /-- Whether what is in a directory comes before it. -/
  depthFirst : Bool := false
deriving DecidableEq, Repr

/-- How far the reader of wishes has come. -/
structure Progress where
  words : List Bytes
  search : Search := {}
deriving DecidableEq, Repr

abbrev Reading := StateT Progress (Except Bytes)

def text (s : String) : Bytes := Bytes.ofText s

/-- In the quotes that messages about expressions have. -/
def oldQuoted (word : Bytes) : Bytes := 96 :: word ++ [39]

def next? : Reading (Option Bytes) := do return (← get).words.head?

def skip : Reading Unit := modify fun p => { p with words := p.words.tail }

/-- The argument of a test. -/
def argument (test : Bytes) : Reading Bytes := do
  match ← next? with
  | some word =>
      skip
      return word
  | none => throw (text "missing argument to " ++ oldQuoted test)

def invalid {α : Type} (test value : Bytes) : Reading α :=
  throw (text "invalid argument " ++ oldQuoted value ++ text " to " ++ oldQuoted test)

/-- A number with a sign that tells how it is compared. -/
def bound? (value : Bytes) : Option Bound :=
  match value with
  | 43 :: digits => (Bytes.decimal? digits).map .above
  | 45 :: digits => (Bytes.decimal? digits).map .below
  | digits => (Bytes.decimal? digits).map .exactly

def bound (test : Bytes) : Reading Bound := do
  let value ← argument test
  match bound? value with
  | some b => return b
  | none => invalid test value

/-- The sizes of the units in which files are measured. -/
def sizeUnit? (letter : UInt8) : Option Nat :=
  [((98 : UInt8), 512), (99, 1), (119, 2), (107, 1024), (77, 1048576),
    (71, 1073741824)].lookup letter

def size (test : Bytes) : Reading Wish := do
  let value ← argument test
  let (number, unit) := match value.getLast?.bind sizeUnit? with
    | some unit => (value.dropLast, unit)
    | none => (value, 512)
  match bound? number with
  | some b => return .size unit b
  | none =>
      match value.getLast? with
      | some letter =>
          if Bytes.isDigit letter then invalid test value
          else throw (text "invalid -size type " ++ oldQuoted [letter])
      | none => throw (text "invalid null argument to -size")

def modeTest (test : Bytes) : Reading Wish := do
  let value ← argument test
  let (make, mode) : (Nat → ModeTest) × Bytes := match value with
    | 45 :: mode => (.all, mode)
    | 47 :: mode => (.any, mode)
    | mode => (.exactly, mode)
  match FileMode.change? 0 0 false mode with
  | some bits => return .mode (make bits)
  | none => throw (text "invalid mode " ++ Quoting.plain value)

/-- The letters of the kinds of files. -/
def kindLetters : Bytes := Bytes.ofText "bcdflpsD"

def kinds (test : Bytes) : Reading Wish := do
  let value ← argument test
  let parts := Bytes.splitOn 44 value
  if value.isEmpty then throw (text "Arguments to -type should contain at least one letter")
  for part in parts do
    match part with
    | [] =>
        throw (text
          "Last file type in list argument to -type is missing, i.e., list is ending on: ','")
    | letter :: more =>
        if !kindLetters.contains letter then
          throw (text "Unknown argument to -type: " ++ [letter])
        if !more.isEmpty then throw (text "Must separate multiple arguments to -type using: ','")
  return .kinds parts.flatten

/-- How deep the search goes. -/
def depth (test : Bytes) (set_ : Search → Nat → Search) : Reading Wish := do
  let value ← argument test
  match Bytes.decimal? value with
  | some n =>
      modify fun p => { p with search := set_ p.search n }
      return .constant true
  | none =>
      throw (text "Expected a positive decimal integer argument to " ++ test ++ text ", but got " ++
        Quoting.plain value)

/-- What stands for the file in a command. -/
def mark : Bytes := Bytes.ofText "\x7b\x7d"

/-- The words of a command up to its end, and whether it is to be run once for many files. -/
def command (test : Bytes) : List Bytes → (before : List Bytes) → Except Bytes (Wish × List Bytes)
  | [], _ => .error (text "missing argument to " ++ oldQuoted test)
  | word :: rest, before =>
      if word = [59] then
        if before.isEmpty then
          .error (text "invalid argument " ++ oldQuoted word ++ text " to " ++ oldQuoted test)
        else .ok (.run before.reverse, rest)
      else if word = [43] && before.head? = some mark then
        .ok (.gather before.tail.reverse, rest)
      else command test rest (word :: before)

/-- One test or action behind its name. -/
def single (test : Bytes) : Reading Wish := do
  let minute := 60000
  let day := 86400000
  match String.ofList (test.map fun b => Char.ofNat b.toNat) with
  | "-name" => return .name false (← argument test)
  | "-iname" => return .name true (← argument test)
  | "-path" | "-wholename" => return .path false (← argument test)
  | "-ipath" => return .path true (← argument test)
  | "-type" => kinds test
  | "-empty" => return .empty
  | "-size" => size test
  | "-perm" => modeTest test
  | "-newer" => return .newer (← argument test)
  | "-samefile" => return .sameAs (← argument test)
  | "-mtime" | "-atime" | "-ctime" => return .age day (← bound test)
  | "-mmin" | "-amin" | "-cmin" => return .age minute (← bound test)
  | "-links" => return .links (← bound test)
  | "-uid" | "-gid" => return .owner (← bound test)
  | "-user" => do
      let value ← argument test
      if value = text "root" then return .constant true
      match Bytes.decimal? value with
      | some n => return .owner (.exactly n)
      | none => throw (Quoting.plain value ++ text " is not the name of a known user")
  | "-readable" => return .usable .read
  | "-writable" => return .usable .write
  | "-executable" => return .usable .execute
  | "-true" => return .constant true
  | "-false" | "-nouser" | "-nogroup" => return .constant false
  | "-maxdepth" => depth test fun s n => { s with most := n }
  | "-mindepth" => depth test fun s n => { s with least := n }
  | "-depth" | "-d" => do
      modify fun p => { p with search := { p.search with depthFirst := true } }
      return .constant true
  | "-xdev" | "-mount" | "-daystart" | "-noleaf" => return .constant true
  | "-print" => return .print Bytes.newline
  | "-print0" => return .print 0
  | "-printf" => return .printf (← argument test)
  | "-exec" | "-execdir" => do
      let (wish, rest) ← (command test (← get).words [] : Except _ _)
      modify fun p => { p with words := rest }
      return wish
  | "-delete" => do
      modify fun p => { p with search := { p.search with depthFirst := true } }
      return .delete
  | "-prune" => return .prune
  | "-quit" => return .quit
  | _ =>
      if test.head? = some Arguments.hyphen then
        throw (text "unknown predicate " ++ oldQuoted test)
      else throw (text "paths must precede expression: " ++ oldQuoted test)

def isAnd (word : Bytes) : Bool := word = text "-a" || word = text "-and"

def isOr (word : Bytes) : Bool := word = text "-o" || word = text "-or"

def isBinary (word : Bytes) : Bool := isAnd word || isOr word || word = [44]

def isNot (word : Bytes) : Bool := word = [33] || word = text "-not"

def isClosing (word : Bytes) : Bool := word = [41]

/-- Read what stands behind an operator; something has to. -/
def behind (operator : Bytes) (wish : Reading Wish) : Reading Wish := do
  match ← next? with
  | none => throw (text "expected an expression after " ++ Quoting.plain operator)
  | some _ => wish

mutual

/-- A test, an action, a negation, or a wish in parentheses. -/
def factor : (fuel : Nat) → Reading Wish
  | 0 => return .constant true
  | fuel + 1 => do
      match ← next? with
      | none => return .constant true
      | some word =>
          if isBinary word then
            throw (text "invalid expression; you have used a binary operator '" ++ word ++
              text "' with nothing before it.")
          skip
          if isNot word then return .not (← behind word (factor fuel))
          else if word = [40] then
            if (← next?).any isClosing then
              throw (text "invalid expression; empty parentheses are not allowed.")
            let inner ← list fuel
            match ← next? with
            | some _ =>
                skip
                return inner
            | none => throw (text "invalid expression; I was expecting to find a ')' somewhere but "
                ++ text "did not see one.")
          else if isClosing word then throw (text "you have too many ')'")
          else single word

/-- Wishes that all have to be fulfilled. -/
def conjunction : (fuel : Nat) → Reading Wish
  | 0 => return .constant true
  | fuel + 1 => do
      let first ← factor fuel
      match ← next? with
      | none => return first
      | some word =>
          if isAnd word then
            skip
            return .and first (← behind word (conjunction fuel))
          else if isBinary word || isClosing word then return first
          else return .and first (← conjunction fuel)

/-- Wishes one of which has to be fulfilled. -/
def disjunction : (fuel : Nat) → Reading Wish
  | 0 => return .constant true
  | fuel + 1 => do
      let first ← conjunction fuel
      match ← next? with
      | some word =>
          if isOr word then
            skip
            return .or first (← behind word (disjunction fuel))
          else return first
      | none => return first

/-- Wishes one after another. -/
def list : (fuel : Nat) → Reading Wish
  | 0 => return .constant true
  | fuel + 1 => do
      let first ← disjunction fuel
      match ← next? with
      | some word =>
          if word = [44] then
            skip
            return .both first (← behind word (list fuel))
          else return first
      | none => return first

end

/-- The search and the wish that some words describe. -/
def readWish (words : List Bytes) : Except Bytes (Wish × Search) :=
  if words.isEmpty then .ok (.print Bytes.newline, {})
  else match (list (4 * words.length + 4)).run { words } with
    | .error e => .error e
    | .ok (w, p) =>
        if !p.words.isEmpty then .error (text "you have too many ')'")
        else .ok (if w.acts then w else .and w (.print Bytes.newline), p.search)

/-! ## Looking -/

/-- What has come of a search so far. -/
structure Outcome where
  good : Bool := true
  /-- Whether the search is over, and whether the directory at hand is passed over. -/
  stopped : Bool := false
  pruned : Bool := false
  /-- Commands with the files that they are to be run for. -/
  gathered : List (List Bytes × List Bytes) := []
deriving DecidableEq, Repr

abbrev Looking := StateT Outcome Program

def perform {α : Type} (p : Program α) : Looking α := StateT.lift p

def failed : Looking Unit := modify fun o => { o with good := false }

/-- A file that was found. -/
structure Found where
  path : Bytes
  facts : FileFacts
  depth : Nat
  /-- The place where the search began. -/
  start : Bytes
deriving DecidableEq, Repr

/-- What a letter in a format stands for. -/
def Found.field (f : Found) (letter : UInt8) : Bytes :=
  let name := lastPart f.path
  match Char.ofNat letter.toNat with
  | 'p' => f.path
  | 'f' => name
  | 'h' =>
      let front := f.path.take (f.path.length - name.length)
      if front.isEmpty then FileTree.dot else front.dropLast
  | 'P' => (f.path.drop f.start.length).dropWhile (· = Bytes.slash)
  | 'H' => f.start
  | 'd' => Bytes.ofNat f.depth
  | 's' => Bytes.ofNat f.facts.size
  | 'm' => text (Listing.octal f.facts.mode)
  | 'M' => text (Listing.modeLetters f.facts)
  | 'y' =>
      let letter := Listing.kindLetter f.facts.kind
      [(if letter = '-' then 'f' else letter).toNat.toUInt8]
  | 'n' => Bytes.ofNat f.facts.names
  | 'i' => Bytes.ofNat (f.facts.node + 1)
  | 'u' | 'g' => text "root"
  | 'U' | 'G' => [48]
  | '%' => [37]
  | _ => [37, letter]

def Found.fill (f : Found) : Bytes → Bytes
  | 37 :: letter :: rest => f.field letter ++ f.fill rest
  | b :: rest => b :: f.fill rest
  | [] => []

/-- Run a command and tell whether it ended well. -/
def runCommand (c : Caller) (words : List Bytes) : Program Bool := do
  match ← call .fork with
  | .error e => c.fail "" (text "cannot fork") e
  | .ok none =>
      let e ← executeNamed words (← call .environment)
      discard <| c.fail "" (Quoting.plain (words.headD [])) e
      exit 1
  | .ok (some pid) =>
      match ← call (.wait pid {} none) with
      | .ok (some (.exited 0)) => return true
      | _ => return false

/-- Put a path in the place of every mark in a word; `fuel` bounds the steps. -/
def replaced (path : Bytes) : (fuel : Nat) → Bytes → Bytes
  | 0, word => word
  | _, [] => []
  | fuel + 1, b :: rest =>
      if mark.isPrefixOf (b :: rest) then path ++ replaced path fuel (rest.drop 1)
      else b :: replaced path fuel rest

/-- Whether a text fits a pattern. -/
def fits (anyCase : Bool) (pattern name : Bytes) : Bool :=
  let lower (b : UInt8) : UInt8 := if anyCase && 65 ≤ b && b ≤ 90 then b + 32 else b
  Glyph.fits (Glyph.ofBytes false (pattern.map lower)) (name.map lower)

/-- Whether a file fulfils a wish; what a wish makes happen happens. -/
def Wish.holds (c : Caller) (s : Search) (f : Found) : Wish → Looking Bool
  | .name anyCase pattern => return fits anyCase pattern (lastPart f.path)
  | .path anyCase pattern => return fits anyCase pattern f.path
  | .kinds letters =>
      let own := Listing.kindLetter f.facts.kind
      return letters.any fun b => b.toNat = (if own = '-' then 'f' else own).toNat
  | .empty => do
      match f.facts.kind with
      | .regular => return f.facts.size = 0
      | .directory => return (← perform (call (.entries f.path))).toOption = some []
      | _ => return false
  | .size unit b => return b.holds ((f.facts.size + unit - 1) / unit)
  | .mode test => return test.holds f.facts.mode
  | .newer file => do
      match ← perform (call (.examine file true)) with
      | .ok other => return other.modified < f.facts.modified
      | .error _ => return false
  | .sameAs file => do
      match ← perform (call (.examine file false)) with
      | .ok other => return other.node = f.facts.node
      | .error _ => return false
  | .age unit b => return b.holds (((← perform (call .clock)) - f.facts.modified) / unit)
  | .links b => return b.holds f.facts.names
  | .owner b => return b.holds 0
  | .usable access =>
      return access ≠ .execute || f.facts.kind = .directory || f.facts.allows .execute
  | .constant answer => return answer
  | .print ending => perform (c.emit (f.path ++ [ending]))
  | .printf format =>
      perform (c.emit (f.fill (Printing.unescape { octal := true, cuts := true } format).bytes))
  | .run words =>
      perform (runCommand c (words.map fun word => replaced f.path (word.length + 1) word))
  | .gather words => do
      modify fun o =>
        if o.gathered.any (·.1 = words) then
          { o with gathered := o.gathered.map fun (w, paths) =>
              if w = words then (w, paths ++ [f.path]) else (w, paths) }
        else { o with gathered := o.gathered ++ [(words, [f.path])] }
      return true
  | .delete => do
      if f.path = FileTree.dot then return true
      let t : TreeChange :=
        if f.facts.kind = .directory then .removeDirectory f.path else .removeFile f.path
      let good ← perform (attemptChange c "cannot delete " (Quoting.plain f.path) t)
      if !good then failed
      return good
  | .prune => do
      if !s.depthFirst then modify fun o => { o with pruned := true }
      return true
  | .quit => do
      modify fun o => { o with stopped := true }
      return true
  | .not w => do return !(← w.holds c s f)
  | .and a b => do
      let first ← a.holds c s f
      if first && !(← get).stopped then b.holds c s f else return false
  | .or a b => do
      let first ← a.holds c s f
      if first || (← get).stopped then return first else b.holds c s f
  | .both a b => do
      discard <| a.holds c s f
      if (← get).stopped then return false else b.holds c s f

/-- Visit a file and everything below it; `left` bounds how much deeper the search goes. -/
def visit (c : Caller) (s : Search) (w : Wish) (follow : Bool) (start : Bytes) :
    (left : Nat) → (depth : Nat) → Bytes → Looking Unit
  | left, depth, path => do
      if (← get).stopped then return
      let known ← match ← perform (call (.examine path follow)) with
        | .ok facts => pure (.ok facts)
        | .error _ => perform (call (.examine path false))
      match known with
      | .error e =>
          discard <| perform (c.fail "" (Quoting.plain path) e)
          failed
      | .ok facts =>
          let look : Looking Unit := do
            modify fun o => { o with pruned := false }
            if s.least ≤ depth then discard <| w.holds c s { path, facts, depth, start }
          if !s.depthFirst then look
          match left with
          | 0 => pure ()
          | left + 1 =>
              let o ← get
              if facts.kind = .directory && !o.pruned && !o.stopped then
                match ← perform (call (.entries path)) with
                | .error e =>
                    discard <| perform (c.fail "" (Quoting.plain path) e)
                    failed
                | .ok names =>
                    names.forM fun name =>
                      visit c s w follow start left (depth + 1) (within path name)
          if s.depthFirst then look

/-- Whether a word is a place to start at, rather than a part of a wish. -/
def isPlace (word : Bytes) : Bool :=
  !(word.head? = some Arguments.hyphen && 1 < word.length) &&
    !([[33], [40], [41], [44]].contains word)

def find (c : Caller) (arguments : List Bytes) : Program Nat := do
  let isLinkOption (a : Bytes) : Bool := a = text "-H" || a = text "-L" || a = text "-P"
  let linkOptions := arguments.takeWhile isLinkOption
  let arguments := arguments.drop linkOptions.length
  let follow := linkOptions.getLast? = some (text "-L")
  let places := arguments.takeWhile isPlace
  match readWish (arguments.drop places.length) with
  | .error e => c.abort e
  | .ok (w, s) =>
      let missing ← w.references.filterMapM fun file => do
        match ← call (.examine file true) with
        | .ok _ => return none
        | .error e => return some (file, e)
      if let (file, e) :: _ := missing then
        discard <| c.fail "" (Quoting.plain file) e
        return c.failure
      let places := if places.isEmpty then [FileTree.dot] else places
      let ((), o) ← (places.forM fun place => visit c s w follow place s.most 0 place).run {}
      let ran ← onEach (fun (words, paths) => runCommand c (words ++ paths)) o.gathered
      return if o.good && ran then 0 else c.failure

/-! ## Examples -/

/-- The wish that some words describe. -/
def wish (words : List String) : Option Wish := (readWish (words.map text)).toOption.map (·.1)

example : wish ["-name", "a", "-print"] =
    some (.and (.name false (text "a")) (.print Bytes.newline)) := by decide +kernel
example : wish ["!", "-empty", "-o", "-delete"] =
    some (.or (.not .empty) .delete) := by decide +kernel
example : wish ["(", "-empty"] = none := by decide +kernel

end JobShell.Machine.Finding
