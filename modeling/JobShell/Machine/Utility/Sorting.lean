import JobShell.Machine.Decimal
import JobShell.Machine.Lines
import JobShell.Machine.Utility.Report

/-!
# Sorting

`sort` puts lines in order by keys: parts of the lines that are compared as texts, as numbers or in
other ways. Lines whose keys are equal are compared as a whole, unless that is turned off.
-/

namespace JobShell.Machine.Sorting

open Program Report

/-- How two texts are compared. -/
inductive Comparison
  | text
  | number
  | fraction
  | size
  | month
  | version
deriving DecidableEq, Repr

/-- A way to compare: how, what is passed over, and in which direction. -/
structure Ordering_ where
  comparison : Comparison := .text
  ignoreCase : Bool := false
  /-- Only blanks, letters and digits count. -/
  dictionary : Bool := false
  printable : Bool := false
  skipStart : Bool := false
  skipEnd : Bool := false
  reverse : Bool := false
deriving DecidableEq, Repr

/-- A part of the line: the fields to pass over and the bytes to pass over, at its start and at
its end. -/
structure Key where
  field : Nat := 0
  byte : Nat := 0
  last : Option (Nat × Nat) := none
  ordering : Ordering_ := {}
deriving DecidableEq, Repr

/-! ## Parts of lines -/

/-- Pass over fields; `ending` tells whether to stop in front of the last separator. -/
def passFields (separator : Option UInt8) (ending : Bool) : (count : Nat) → Bytes → Nat
  | 0, _ => 0
  | count + 1, text =>
      let size := match separator with
        | some s =>
            let field := (text.takeWhile (· ≠ s)).length
            if field < text.length && !(ending && count = 0) then field + 1 else field
        | none =>
            let blanks := (text.takeWhile Bytes.isBlank).length
            blanks + ((text.drop blanks).takeWhile (!Bytes.isBlank ·)).length
      size + passFields separator ending count (text.drop size)

def passBlanks (skip : Bool) (text : Bytes) (at_ : Nat) : Nat :=
  if skip then at_ + ((text.drop at_).takeWhile Bytes.isBlank).length else at_

/-- The part of a line that a key names. -/
def Key.part (separator : Option UInt8) (k : Key) (line : Bytes) : Bytes :=
  let start := passBlanks k.ordering.skipStart line (passFields separator false k.field line)
  let start := min line.length (start + k.byte)
  let stop := match k.last with
    | none => line.length
    | some (field, 0) => passFields separator true (field + 1) line
    | some (field, byte) =>
        let at_ := passBlanks k.ordering.skipEnd line (passFields separator false field line)
        min line.length (at_ + byte)
  (line.take stop).drop start

/-! ## Comparisons -/

/-- The number at the front of a text: its sign, its whole part, and the digits behind the point. -/
def leadingNumber (text : Bytes) : Bool × Nat × Bytes :=
  let text := text.dropWhile Bytes.isBlank
  let negative := text.head? = some 45
  let text := if negative then text.tail else text
  let whole := text.takeWhile Bytes.isDigit
  let part := match text.drop whole.length with
    | 46 :: rest => ((rest.takeWhile Bytes.isDigit).reverse.dropWhile (· = 48)).reverse
    | _ => []
  (negative, (Bytes.decimal? whole).getD 0, part)

def compareBytes (a b : Bytes) : Ordering :=
  if a = b then .eq else if Bytes.le a b then .lt else .gt

def compareNumbers (a b : Bytes) : Ordering :=
  let (aNegative, aWhole, aPart) := leadingNumber a
  let (bNegative, bWhole, bPart) := leadingNumber b
  let isZero (whole : Nat) (part : Bytes) : Bool := whole = 0 && part.isEmpty
  let aNegative := aNegative && !isZero aWhole aPart
  let bNegative := bNegative && !isZero bWhole bPart
  let sizes := (compare aWhole bWhole).then (compareBytes aPart bPart)
  match aNegative, bNegative with
  | true, false => .lt
  | false, true => .gt
  | false, false => sizes
  | true, true => sizes.swap

/-- The rank of the suffix behind a number. -/
def suffixRank (text : Bytes) : Int :=
  let body := text.dropWhile Bytes.isBlank
  let negative := body.head? = some 45
  let body := if negative then body.tail else body
  let suffix := (body.dropWhile fun b => Bytes.isDigit b || b = 46).headD 0
  let place := (Bytes.ofText "KMGTPEZY").idxOf? (if suffix = 107 then 75 else suffix)
  let rank : Nat := (place.map (· + 1)).getD 0
  if negative then -(rank : Int) else (rank : Int)

def compareFractions (a b : Bytes) : Ordering :=
  let (x, xRest) := Decimal.leading a
  let (y, yRest) := Decimal.leading b
  let signed (d : Decimal) : Int := if d.negative then -(d.above : Int) else d.above
  let xNone := xRest.length == a.length
  let yNone := yRest.length == b.length
  if xNone && yNone then .eq
  else if xNone then .lt
  else if yNone then .gt
  else compare (signed x * y.below) (signed y * x.below)

def upper (b : UInt8) : UInt8 := if 97 ≤ b && b ≤ 122 then b - 32 else b

def monthNames : List String :=
  ["JAN", "FEB", "MAR", "APR", "MAY", "JUN", "JUL", "AUG", "SEP", "OCT", "NOV", "DEC"]

/-- The number of the month that a text starts with, or 0. -/
def month (text : Bytes) : Nat :=
  let name := ((text.dropWhile Bytes.isBlank).take 3).map upper
  ((monthNames.findIdx? fun m => Bytes.ofText m = name).map (· + 1)).getD 0

/-- The rank of a byte outside of numbers: a tilde stands even before the end of a text, a digit
with it, and a letter before any other byte. -/
def versionRank : Option UInt8 → Int
  | none => -1
  | some b =>
      if b = 126 then -2
      else if Bytes.isDigit b then 0
      else if (65 ≤ b && b ≤ 90) || (97 ≤ b && b ≤ 122) then b.toNat
      else b.toNat + 256

/-- Compare the parts in front of the next numbers. -/
def compareOutside (a b : Bytes) : Ordering :=
  match a, b with
  | x :: as, y :: bs =>
      if Bytes.isDigit x && Bytes.isDigit y then .eq
      else (compare (versionRank (some x)) (versionRank (some y))).then (compareOutside as bs)
  | [], y :: _ => if Bytes.isDigit y then .eq else compare (versionRank none) (versionRank (some y))
  | x :: _, [] => if Bytes.isDigit x then .eq else compare (versionRank (some x)) (versionRank none)
  | [], [] => .eq

/-- Compare texts in which runs of digits count as numbers; `fuel` bounds the runs. -/
def compareRuns : (fuel : Nat) → Bytes → Bytes → Ordering
  | 0, _, _ => .eq
  | fuel + 1, a, b =>
      if a.isEmpty && b.isEmpty then .eq
      else
        let (n, aRest) := Numeral.digits 10 (a.dropWhile (!Bytes.isDigit ·))
        let (m, bRest) := Numeral.digits 10 (b.dropWhile (!Bytes.isDigit ·))
        ((compareOutside a b).then (compare n m)).then (compareRuns fuel aRest bRest)

/-- A name without its endings, such as `.tar.gz`; `fuel` bounds how many there are. -/
def withoutEndings : (fuel : Nat) → Bytes → Bytes
  | 0, name => name
  | fuel + 1, name =>
      let isLetter (b : UInt8) : Bool := (65 ≤ b && b ≤ 90) || (97 ≤ b && b ≤ 122) || b = 126
      let ending := name.reverse.takeWhile fun b => isLetter b || Bytes.isDigit b
      let front := name.take (name.length - ending.length - 1)
      if (ending.getLast?.map isLetter).getD false && !front.isEmpty
          && name[front.length]? = some 46 then
        withoutEndings fuel front
      else name

/-- Compare names as versions: the empty one first, then hidden ones. Endings count only where the
rest is equal. -/
def compareVersions (a b : Bytes) : Ordering :=
  let rank (text : Bytes) : Nat :=
    if text.isEmpty then 0
    else if text = [46] then 1
    else if text = [46, 46] then 2
    else if text.head? = some 46 then 3
    else 4
  let runs (x y : Bytes) : Ordering := compareRuns (a.length + b.length + 1) x y
  ((compare (rank a) (rank b)).then
    (runs (withoutEndings a.length a) (withoutEndings b.length b))).then (runs a b)

example : compareVersions (Bytes.ofText "a2") (Bytes.ofText "a10") = .lt := by decide
example : compareVersions (Bytes.ofText "a-1.txt") (Bytes.ofText "a.txt") = .gt := by decide

def isWordByte (b : UInt8) : Bool :=
  Bytes.isBlank b || Bytes.isDigit b || (65 ≤ b && b ≤ 90) || (97 ≤ b && b ≤ 122)

def Ordering_.compareTexts (o : Ordering_) (a b : Bytes) : Ordering :=
  let kept (text : Bytes) : Bytes :=
    let text := if o.dictionary then text.filter isWordByte else text
    let text := if o.printable then text.filter Quoting.isPrintable else text
    if o.ignoreCase then text.map upper else text
  let result := match o.comparison with
    | .text => compareBytes (kept a) (kept b)
    | .number => compareNumbers a b
    | .fraction => compareFractions a b
    | .size => (compare (suffixRank a) (suffixRank b)).then (compareNumbers a b)
    | .month => compare (month a) (month b)
    | .version => compareVersions a b
  if o.reverse then result.swap else result

/-- All that says how lines are put in order. -/
structure Plan where
  keys : List Key := []
  separator : Option UInt8 := none
  /-- Whether lines with equal keys are left in their order. -/
  stable : Bool := false
  unique : Bool := false
  reverse : Bool := false
deriving DecidableEq, Repr

def Plan.compareKeys (p : Plan) (a b : Bytes) : Ordering :=
  p.keys.foldl (fun result k =>
    result.then (k.ordering.compareTexts (k.part p.separator a) (k.part p.separator b))) .eq

def Plan.compareLines (p : Plan) (a b : Bytes) : Ordering :=
  let byKeys := p.compareKeys a b
  if !p.keys.isEmpty && (p.stable || p.unique) then byKeys
  else byKeys.then (if p.reverse then compareBytes b a else compareBytes a b)

/-- Of neighbours that count as equal, the first. -/
def dropRepeats (same : Bytes → Bytes → Bool) : List Bytes → List Bytes
  | [] => []
  | l :: rest => l :: (dropRepeats same rest).dropWhile (same l)

/-- Lines without repeats, if repeats are to be left out. -/
def Plan.kept (p : Plan) (ls : List Bytes) : List Bytes :=
  if p.unique then dropRepeats (fun a b => p.compareLines a b = .eq) ls else ls

def Plan.sorted (p : Plan) (ls : List Bytes) : List Bytes :=
  p.kept (ls.mergeSort fun a b => (p.compareLines a b).isLE)

/-- The lines of several files, each of which is in order already, as one file in order. -/
def Plan.merged (p : Plan) (files : List (List Bytes)) : List Bytes :=
  p.kept (files.foldl (fun all ls => List.merge all ls fun a b => (p.compareLines a b).isLE) [])

/-- The number of the first line that comes before the one in front of it, and that line. -/
def Plan.disorder? (p : Plan) : (number : Nat) → List Bytes → Option (Nat × Bytes)
  | number, a :: b :: rest =>
      let wrong := p.compareLines a b = .gt || (p.unique && p.compareLines a b = .eq)
      if wrong then some (number + 1, b) else p.disorder? (number + 1) (b :: rest)
  | _, _ => none

/-! ## Arguments -/

/-- Set what a letter says about an ordering. -/
def Ordering_.set (o : Ordering_) (letter : Char) (atStart : Bool) : Option Ordering_ :=
  match letter with
  | 'b' => some (if atStart then { o with skipStart := true } else { o with skipEnd := true })
  | 'n' => some { o with comparison := .number }
  | 'g' => some { o with comparison := .fraction }
  | 'h' => some { o with comparison := .size }
  | 'M' => some { o with comparison := .month }
  | 'V' => some { o with comparison := .version }
  | 'f' => some { o with ignoreCase := true }
  | 'd' => some { o with dictionary := true }
  | 'i' => some { o with printable := true }
  | 'r' => some { o with reverse := true }
  | _ => none

/-- A place in a line: a field, perhaps a byte, and letters. -/
def place (text : Bytes) : Option (Nat × Option Nat × Bytes) :=
  let (field, rest) := Numeral.digits 10 text
  if rest.length = text.length then none
  else match rest with
    | 46 :: more =>
        let (byte, rest) := Numeral.digits 10 more
        if rest.length = more.length then none else some (field, some byte, rest)
    | rest => some (field, none, rest)

def setAll (o : Ordering_) (atStart : Bool) (letters : Bytes) : Option Ordering_ :=
  letters.foldlM (fun (o : Ordering_) b => o.set (Char.ofNat b.toNat) atStart) o

/-- A key as it is written. -/
def key (text : Bytes) : Except Bytes Key :=
  let wrong (what : String) : Except Bytes Key :=
    .error (Bytes.ofText (what ++ ": invalid field specification ") ++ Quoting.plain text)
  let parts := Bytes.splitOn 44 text
  let first := parts.headD []
  match place first with
  | none => .error (Bytes.ofText "invalid number at field start: invalid count at start of " ++
      Quoting.plain text)
  | some (0, _, _) => wrong "field number is zero"
  | some (_, some 0, _) => wrong "character offset is zero"
  | some (field + 1, byte, letters) =>
      match setAll {} true letters with
      | none => wrong "stray character in field spec"
      | some ordering =>
          let k : Key := { field, byte := (byte.getD 1) - 1, ordering }
          match parts.tail with
          | [] => .ok k
          | second :: _ =>
              match place second with
              | none =>
                  .error (Bytes.ofText "invalid number after ',': invalid count at start of " ++
                    Quoting.plain second)
              | some (0, _, _) => wrong "field number is zero"
              | some (field + 1, byte, letters) =>
                  match setAll ordering false letters with
                  | none => wrong "stray character in field spec"
                  | some ordering => .ok { k with last := some (field, byte.getD 0), ordering }

def options : OptionTable where
  plain := "bdfgiMhnRrVcCmsuz"
  valued := "koStTρ"
  words := [("ignore-leading-blanks", 'b'), ("dictionary-order", 'd'), ("ignore-case", 'f'),
    ("general-numeric-sort", 'g'), ("ignore-nonprinting", 'i'), ("month-sort", 'M'),
    ("human-numeric-sort", 'h'), ("numeric-sort", 'n'), ("random-sort", 'R'), ("reverse", 'r'),
    ("version-sort", 'V'), ("check", 'c'), ("key", 'k'), ("merge", 'm'), ("output", 'o'),
    ("stable", 's'), ("buffer-size", 'S'), ("field-separator", 't'), ("temporary-directory", 'T'),
    ("parallel", 'ρ'), ("unique", 'u'), ("zero-terminated", 'z')]

/-- The plan that the arguments describe. -/
def plan (a : Arguments) : Except Bytes Plan := do
  let own := a.options.foldl (fun (o : Ordering_) (letter, _) =>
    let o := (o.set letter true).getD o
    if letter = 'b' then { o with skipEnd := true } else o) {}
  let keys ← (a.options.filter (·.1 = 'k')).mapM fun (_, text) => key text
  let keys := keys.map fun k => if k.ordering = {} then { k with ordering := own } else k
  let keys := if keys.isEmpty && ({ own with reverse := false } : Ordering_) ≠ {} then
    [({ ordering := own } : Key)] else keys
  let separator ← match a.value? 't' with
    | none => pure none
    | some [b] => pure (some b)
    | some [] => .error (Bytes.ofText "empty tab")
    | some text =>
        if text = [92, 48] then pure (some 0)
        else .error (Bytes.ofText "multi-character tab " ++ Quoting.plain text)
  return { keys, separator, stable := a.has 's', unique := a.has 'u', reverse := own.reverse }

/-- The lines of each input; nothing comes back if one of them cannot be read. -/
def inputs (c : Caller) : List Bytes → Program (Option (List (List Bytes)))
  | [] => return some []
  | file :: rest => do
      match ← readWhole file with
      | .content bs => return (← inputs c rest).map (Lines.ofBytes bs :: ·)
      | .notOpened e =>
          let _ ← c.fail "cannot read: " (Quoting.named file) e
          return none
      | .notRead e =>
          let _ ← c.fail "read failed: " (Quoting.named file) e
          return none

/-- Whether all inputs can be opened; the first one that cannot is reported. -/
def areReadable (c : Caller) : List Bytes → Program Bool
  | [] => return true
  | file :: rest => do
      match ← openSource file with
      | .ok fd =>
          closeSource file fd
          areReadable c rest
      | .error e => c.fail "cannot read: " (Quoting.named file) e

/-- Write the result to a file, or to standard output. -/
def store (c : Caller) (target : Option Bytes) (out : Bytes) : Program Nat := do
  match target with
  | none =>
      if out.isEmpty then return 0
      match ← call (.write 1 out) with
      | .ok () => return 0
      | .error e =>
          let _ ← c.fail "fflush failed: " (Bytes.ofText "'standard output'") e
          c.abort (Bytes.ofText "write error")
  | some file =>
      match ← call (.openFile file (.writing 0o666)) with
      | .error e =>
          let _ ← c.fail "open failed: " (Quoting.named file) e
          return c.failure
      | .ok fd =>
          match ← call (.write fd out) with
          | .ok () => return 0
          | .error e =>
              let _ ← c.fail "write failed: " (Quoting.named file) e
              return c.failure

def sort (c : Caller) (arguments : List Bytes) : Program Nat :=
  c.withArguments options arguments fun a => do
    match plan a with
    | .error message => c.abort message
    | .ok p =>
        let files := sources a.operands
        if !(← areReadable c files) then return c.failure
        match ← inputs c files with
        | none => return c.failure
        | some parts =>
            match a.last? "cC" with
            | some letter =>
                match p.disorder? 1 parts.flatten with
                | none => return 0
                | some (number, line) =>
                    if letter = 'c' then
                      c.say (files.headD [] ++
                        Bytes.ofText (":" ++ toString number ++ ": disorder: ") ++ line)
                    return 1
            | none =>
                let result := if a.has 'm' then p.merged parts else p.sorted parts.flatten
                store c (a.value? 'o') (Lines.toBytes result)

end JobShell.Machine.Sorting
