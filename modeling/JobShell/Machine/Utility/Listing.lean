import JobShell.Machine.Printing
import JobShell.Machine.Utility.Calendar
import JobShell.Machine.Utility.Files
import JobShell.Machine.Utility.NameGrid

/-!
# Utilities that look at files

`ls`, which lists names in some layout, and `stat`.
-/

namespace JobShell.Machine.Listing

open Program Report Files

/-! ## Kinds and modes -/

/-- The letter of a kind of file. -/
def kindLetter : FileKind → Char
  | .regular => '-'
  | .directory => 'd'
  | .link => 'l'
  | .fifo => 'p'
  | .device => 'c'

/-- The bits by which the system tells the kinds apart. -/
def kindBits : FileKind → Nat
  | .regular => 0o100000
  | .directory => 0o040000
  | .link => 0o120000
  | .fifo => 0o010000
  | .device => 0o020000

/-- A mode in letters. -/
def modeLetters (facts : FileFacts) : String :=
  let part (shift : Nat) (special : Char) (marked : Bool) : List Char :=
    let bits := (facts.mode >>> shift) % 8
    [if bits / 4 = 1 then 'r' else '-', if bits / 2 % 2 = 1 then 'w' else '-',
      if marked then (if bits % 2 = 1 then special else special.toUpper)
      else if bits % 2 = 1 then 'x' else '-']
  String.ofList (kindLetter facts.kind :: part 6 's' (facts.mode / 0o4000 % 2 = 1) ++
    part 3 's' (facts.mode / 0o2000 % 2 = 1) ++ part 0 't' (facts.mode / 0o1000 % 2 = 1))

def octal (n : Nat) : String := String.ofList (Nat.toDigits 8 n)

/-! ## Directories -/

/-- How names are laid out. -/
inductive Layout
  | lines
  | long
  | grid (order : NameGrid.Order)
  | running
deriving DecidableEq, Repr

/-- How names are quoted. -/
inductive Quotes
  | none
  /-- Question marks stand for what cannot be shown. -/
  | marks
  | double
  | bare
deriving DecidableEq, Repr

/-- What is shown of directories, and how. -/
structure View where
  layout : Layout := .lines
  quotes : Quotes := .none
  /-- The length of lines with several names; zero is no limit. -/
  limit : Nat := 80
  hidden : Bool := false
  dots : Bool := false
  reversed : Bool := false
  byTime : Bool := false
  bySize : Bool := false
  recursive : Bool := false
  asIs : Bool := false
  marks : Bool := false
  slashes : Bool := false
  numbered : Bool := false
  owner : Bool := true
  group : Bool := true
  now : Nat := 0
deriving DecidableEq, Repr

/-- The names in a directory that are shown: those with a leading dot only on demand. -/
def View.visible (v : View) (names : List Bytes) : List Bytes :=
  (if v.dots then [FileTree.dot, FileTree.dotDot] else []) ++
    names.filter fun name => v.hidden || v.dots || name.head? ≠ some 46

/-- A name with what is known about its file. -/
structure Entry where
  name : Bytes
  facts : FileFacts
  /-- Where a link leads. -/
  target : Bytes := []
deriving DecidableEq, Repr

/-- Entries in the order in which they are shown. -/
def View.sorted (v : View) (entries : List Entry) : List Entry :=
  let byName := entries.mergeSort fun a b => Bytes.le a.name b.name
  let sorted := if v.bySize then byName.mergeSort fun a b => b.facts.size ≤ a.facts.size
    else if v.byTime then byName.mergeSort fun a b => b.facts.modified ≤ a.facts.modified
    else byName
  if v.reversed then sorted.reverse else sorted

/-- The mark behind a name. -/
def View.mark (v : View) (facts : FileFacts) : Bytes :=
  if !v.marks then if v.slashes && facts.kind = .directory then [Bytes.slash] else []
  else match facts.kind with
    | .directory => [Bytes.slash]
    | .link => if v.layout = .long then [] else [64]
    | .fifo => [124]
    | .regular => if facts.mode &&& 0o111 ≠ 0 then [42] else []
    | .device => []

/-- A name in its quotes. -/
def View.quoted (v : View) (name : Bytes) : Bytes :=
  match v.quotes with
  | .none => name
  | .marks => name.map fun b => if Quoting.isPrintable b then b else 63
  | .double => Quoting.double name
  | .bare => Quoting.bare [Bytes.space] name

/-- The name of a directory in front of its entries. -/
def View.heading (v : View) (directory : Bytes) : Bytes :=
  let shown := if v.quotes = .bare then Quoting.bare [58] directory else v.quoted directory
  shown ++ [58, Bytes.newline]

def View.shown (v : View) (entry : Entry) : Bytes := v.quoted entry.name ++ v.mark entry.facts

/-- When a file was changed: the time of day if that was in the last half of a year, otherwise the
year. -/
def View.date (v : View) (facts : FileFacts) : Bytes :=
  let halfYear := 15778476
  let now := v.now / 1000
  let then_ := facts.modified / 1000
  Calendar.Moment.text { seconds := then_ } <|
    if then_ ≤ now && now < then_ + halfYear then "%b %e %H:%M" else "%b %e  %Y"

/-- Text behind blanks, in at least so many columns. -/
def flush (width : Nat) (text : Bytes) : Bytes :=
  List.replicate (width - text.length) Bytes.space ++ text

/-- Entries on lines with what is known about their files. -/
def View.longLines (v : View) (entries : List Entry) : Bytes :=
  let widest (f : FileFacts → Nat) : Nat :=
    (entries.map fun e => (Bytes.ofNat (f e.facts)).length).foldl max 0
  let names := widest (·.names)
  let sizes := widest (·.size)
  let user := Bytes.ofText (if v.numbered then "0" else "root")
  let owners := (if v.owner then [user] else []) ++ if v.group then [user] else []
  entries.flatMap fun e =>
    let parts := [Bytes.ofText (modeLetters e.facts), flush names (Bytes.ofNat e.facts.names)] ++
      owners ++ [flush sizes (Bytes.ofNat e.facts.size), v.date e.facts, v.shown e]
    let target := if e.facts.kind = .link then Bytes.ofText " -> " ++ v.quoted e.target else []
    [Bytes.space].intercalate parts ++ target ++ [Bytes.newline]

/-- Entries in the layout of a view. -/
def View.text (v : View) (entries : List Entry) : Bytes :=
  let names := entries.map v.shown
  match v.layout with
  | .lines => names.flatMap (· ++ [Bytes.newline])
  | .long => v.longLines entries
  | .running => NameGrid.running v.limit [44] names
  | .grid order =>
      if v.limit = 0 then NameGrid.running 0 [Bytes.space] names
      else NameGrid.text order v.limit names

/-- The space that a file takes, in kilobytes. -/
def kilobytes (facts : FileFacts) : Nat :=
  if facts.kind = .link then 0 else (facts.size + 4095) / 4096 * 4

/-- What is known about a file under some name. -/
def View.entry (v : View) (path name : Bytes) (follow : Bool) : Program (Except Errno Entry) := do
  match ← call (.examine path follow) with
  | .error e => return .error e
  | .ok facts =>
      let target ← if v.layout = .long && facts.kind = .link then
          pure ((← call (.readLink path)).toOption.getD [])
        else pure []
      return .ok { name, facts, target }

/-- What is known about the files in a directory. -/
def View.entriesOf (v : View) (directory : Bytes) : List Bytes → Program (List Entry)
  | [] => return []
  | name :: rest => do
      match ← v.entry (within directory name) name false with
      | .ok entry => return entry :: (← v.entriesOf directory rest)
      | .error _ => v.entriesOf directory rest

/-- List directories; `depth` bounds the nesting. The reply holds a text for each of them. -/
def listEach (c : Caller) (v : View) (headed : Bool) :
    (depth : Nat) → List Bytes → Program (List Bytes × Bool)
  | _, [] => return ([], true)
  | 0, _ => return ([], true)
  | depth + 1, directory :: rest => do
      match ← call (.entries directory) with
      | .error e =>
          discard <| c.fail "cannot open directory " (Quoting.shell directory) e
          let (others, _) ← listEach c v headed (depth + 1) rest
          return (others, false)
      | .ok names =>
          let entries := v.sorted (← v.entriesOf directory (v.visible names))
          let heading := if headed then v.heading directory else []
          let total := if v.layout = .long then
              Bytes.ofText "total " ++
                Bytes.ofNat ((entries.map fun e => kilobytes e.facts).foldl (· + ·) 0) ++
                [Bytes.newline]
            else []
          let inner := if v.recursive then entries.filterMap fun e =>
              if e.facts.kind = .directory && e.name ≠ FileTree.dot && e.name ≠ FileTree.dotDot then
                some (within directory e.name) else none
            else []
          let (below, good) ← listEach c v headed depth inner
          let (others, alsoGood) ← listEach c v headed (depth + 1) rest
          return ((heading ++ total ++ v.text entries) :: below ++ others, good && alsoGood)

/-- The files that operands name, and whether all are there. A link to a directory counts as a
directory, unless marks or long lines are to be shown. -/
def lookUp (c : Caller) (v : View) : List Bytes → Program (List Entry × Bool)
  | [] => return ([], true)
  | operand :: rest => do
      let follow := !v.asIs && !v.marks && v.layout ≠ .long
      let known ← match ← v.entry operand operand follow with
        | .ok entry => pure (.ok entry)
        | .error _ => v.entry operand operand false
      match known with
      | .ok entry =>
          let (others, good) ← lookUp c v rest
          return (entry :: others, good)
      | .error e =>
          discard <| c.fail "cannot access " (Quoting.shell operand) e
          let (others, _) ← lookUp c v rest
          return (others, false)

def lsOptions : OptionTable where
  plain := "1aAdFprtSlRUCxhniHLGgoscuqbQNkmf"
  valued := "Iw"
  open_ := "χφ"
  words := [("all", 'a'), ("almost-all", 'A'), ("directory", 'd'), ("recursive", 'R'),
    ("reverse", 'r'), ("classify", 'φ'), ("color", 'χ'), ("escape", 'b'), ("quote-name", 'Q'),
    ("hide-control-chars", 'q'), ("literal", 'N'), ("no-group", 'G'), ("numeric-uid-gid", 'n'),
    ("width", 'w')]

/-- The layout that an option asks for. One name on a line is no other layout than long lines. -/
def Layout.adjust (l : Layout) : Char → Layout
  | 'C' => .grid .downward
  | 'x' => .grid .across
  | 'm' => .running
  | 'l' | 'g' | 'n' | 'o' => .long
  | '1' => if l = .long then .long else .lines
  | _ => l

def Quotes.adjust (q : Quotes) : Char → Quotes
  | 'Q' => .double
  | 'b' => .bare
  | 'q' => .marks
  | 'N' => .none
  | _ => q

/-- List the operands, in some layout and quotes unless options ask for others. -/
def ls (base : View) (c : Caller) (arguments : List Bytes) : Program Nat :=
  c.withArguments lsOptions arguments fun a => do
    let letters := a.options.map (·.1)
    let layout := letters.foldl Layout.adjust base.layout
    let v : View := {
      layout
      quotes := letters.foldl Quotes.adjust base.quotes
      limit := ((a.value? 'w').bind Bytes.decimal?).getD base.limit
      hidden := a.has 'A' || a.has 'a', dots := a.last? "aA" = some 'a', reversed := a.has 'r'
      byTime := a.last? "tS" = some 't', bySize := a.last? "tS" = some 'S'
      recursive := a.has 'R' && !a.has 'd', asIs := a.has 'd', marks := a.has 'F' || a.has 'φ'
      slashes := a.has 'p', numbered := a.has 'n', owner := !a.has 'g'
      group := !a.has 'o' && !a.has 'G', now := ← if layout = .long then call .clock else pure 0 }
    if let some word := (a.value? 'w').filter fun w => (Bytes.decimal? w).isNone then
      return ← c.abort (Bytes.ofText "invalid line width: " ++ Quoting.shell word)
    let operands := if a.operands.isEmpty then [FileTree.dot] else a.operands
    let (entries, good) ← lookUp c v operands
    let (directories, files) := entries.partition fun e => e.facts.kind = .directory && !v.asIs
    let (texts, alsoGood) ← listEach c v (v.recursive || 1 < operands.length) greatestDepth
      ((v.sorted directories).map (·.name))
    let first := if files.isEmpty then [] else [v.text (v.sorted files)]
    let done ← c.emit ([Bytes.newline].intercalate (first ++ texts))
    return if good && alsoGood && done then 0 else c.failure

/-! ## Facts -/

/-- What a letter in a format stands for, for a file under some name. -/
def fact (name : Bytes) (facts : FileFacts) (target : Bytes) (letter : UInt8) : Bytes :=
  let blocks := (facts.size + 4095) / 4096 * 8
  let text (s : String) : Bytes := Bytes.ofText s
  match Char.ofNat letter.toNat with
  | 'n' => name
  | 'N' => Quoting.shell name ++
      (if facts.kind = .link then text " -> " ++ Quoting.shell target else [])
  | 's' => Bytes.ofNat facts.size
  | 'F' => text (kindName facts)
  | 'a' => text (octal facts.mode)
  | 'A' => text (modeLetters facts)
  | 'f' => text (String.ofList (Nat.toDigits 16 (kindBits facts.kind + facts.mode)))
  | 'h' => Bytes.ofNat facts.names
  | 'i' => Bytes.ofNat (facts.node + 1)
  | 'u' | 'g' => text "0"
  | 'U' | 'G' => text "root"
  | 'b' => Bytes.ofNat blocks
  | 'B' => text "512"
  | 'o' => text "4096"
  | 'Y' => Bytes.ofNat (facts.modified / 1000)
  | '%' => [37]
  | _ => text "?"

/-- Fill a format with the facts about a file. -/
def factsText (name : Bytes) (facts : FileFacts) (target : Bytes) : Bytes → Bytes
  | 37 :: letter :: rest => fact name facts target letter ++ factsText name facts target rest
  | b :: rest => b :: factsText name facts target rest
  | [] => []

def stat (c : Caller) (arguments : List Bytes) : Program Nat :=
  c.withArguments {
      plain := "Lt", valued := "cπ"
      words := [("format", 'c'), ("printf", 'π'), ("dereference", 'L'), ("terse", 't')] } arguments
    fun a =>
      let plain := Bytes.ofText "%n: %F, %s bytes, mode %a"
      let (format, ending) : Bytes × Bytes := match a.value? 'π' with
        | some format => ((Printing.unescape { octal := true } format).bytes, [])
        | none => ((a.value? 'c').getD plain, [Bytes.newline])
      forOperands c a.operands fun path => do
        match ← call (.examine path (a.has 'L')) with
        | .error e => c.fail "cannot statx " (Quoting.shell path) e
        | .ok facts =>
            let target := (← call (.readLink path)).toOption.getD []
            c.emit (factsText path facts target format ++ ending)

end JobShell.Machine.Listing
