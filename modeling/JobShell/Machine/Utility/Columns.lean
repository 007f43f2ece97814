import JobShell.Machine.Script.Pattern
import JobShell.Machine.Utility.Reshaping

/-!
# Columns

Utilities that take lines apart and put them together: `cut`, `paste`, `comm` and `tr`.

Results:
1. The examples at the end: sets of bytes.
-/

namespace JobShell.Machine.Columns

open Program Report

def newline : Bytes := [Bytes.newline]

/-! ## Cutting -/

/-- Numbers from one to another, or to no end. -/
structure Range where
  first : Nat
  last : Option Nat
deriving DecidableEq, Repr

def Range.holds (r : Range) (n : Nat) : Bool :=
  r.first ≤ n && (match r.last with
    | some last => n ≤ last
    | none => true)

/-- Why a list of ranges cannot be used. -/
inductive RangeError
  | fromZero
  | decreasing
  | invalid (text : Bytes)
  | noEndpoint
deriving DecidableEq, Repr

def range? (text : Bytes) : Except RangeError Range :=
  let number (digits : Bytes) : Except RangeError Nat :=
    match Bytes.decimal? digits with
    | some 0 => .error .fromZero
    | some n => .ok n
    | none => .error (.invalid text)
  let first := text.takeWhile (· ≠ 45)
  match text.drop first.length with
  | [] =>
      if text.isEmpty then .error .fromZero
      else do
        let n ← number text
        return ⟨n, some n⟩
  | _ :: last =>
      if first.isEmpty && last.isEmpty then .error .noEndpoint
      else do
        let n ← if first.isEmpty then .ok 1 else number first
        let m ← if last.isEmpty then .ok none else (number last).map some
        if m.any fun m => decide (m < n) then .error .decreasing else return ⟨n, m⟩

def ranges? (text : Bytes) : Except RangeError (List Range) :=
  (Bytes.splitOn 44 (text.map fun b => if Bytes.isBlank b then 44 else b)).mapM range?

structure Cut where
  ranges : List Range
  fields : Bool
  complement : Bool
  delimiter : UInt8
  /-- What stands between the parts that are shown. -/
  between : Option Bytes
  /-- Whether lines without delimiters are left out. -/
  delimitedOnly : Bool
deriving DecidableEq, Repr

namespace Cut

def isChosen (c : Cut) (n : Nat) : Bool := c.ranges.any (·.holds n) != c.complement

/-- The parts of a line that are shown; nothing if the line is left out. -/
def apply (c : Cut) (line : Bytes) : Option Bytes :=
  if c.fields then
    let parts := Bytes.splitOn c.delimiter line
    if parts.length = 1 then if c.delimitedOnly then none else some line
    else some ((c.between.getD [c.delimiter]).intercalate
      ((parts.zipIdx 1).filterMap fun (part, n) => if c.isChosen n then some part else none))
  else
    let chosen := (line.zipIdx 1).filter fun (_, n) => c.isChosen n
    match c.between with
    | none => some (chosen.map (·.1))
    | some between =>
        -- Bytes next to each other stay together, if one range holds them.
        let starts := c.ranges.map (·.first)
        some (chosen.zipIdx.flatMap fun ((b, n), i) =>
          let joins := 0 < i && (line.length < n - 1 || (c.isChosen (n - 1) && !starts.contains n))
          if i = 0 || joins then [b] else between ++ [b])

end Cut

def cutOptions : OptionTable where
  plain := "nszκ"
  valued := "bcfdω"
  words := [("bytes", 'b'), ("characters", 'c'), ("fields", 'f'), ("delimiter", 'd'),
    ("only-delimited", 's'), ("complement", 'κ'), ("output-delimiter", 'ω'),
    ("zero-terminated", 'z')]

def cut (c : Caller) (arguments : List Bytes) : Program Nat :=
  c.withArguments cutOptions arguments fun a => do
    let lists := a.options.filter fun o => o.1 = 'b' || o.1 = 'c' || o.1 = 'f'
    let delimiter := (a.value? 'd').getD [Bytes.tab]
    match lists with
    | [] => c.refuseText "you must specify a list of bytes, characters, or fields"
    | [(letter, text)] =>
        let fields := letter = 'f'
        if 1 < delimiter.length then c.refuseText "the delimiter must be a single character"
        else if !fields && a.has 'd' then
          c.refuseText "an input delimiter may be specified only when operating on fields"
        else if !fields && a.has 's' then
          c.refuseText ("suppressing non-delimited lines makes sense\n\tonly when operating on " ++
            "fields")
        else match ranges? text with
          | .error .fromZero =>
              c.refuseText (if fields then "fields are numbered from 1"
                else "byte/character positions are numbered from 1")
          | .error .decreasing => c.refuseText "invalid decreasing range"
          | .error .noEndpoint => c.refuseText "invalid range with no endpoint: -"
          | .error (.invalid text) =>
              c.refuse (Bytes.ofText (if fields then "invalid field value "
                else "invalid byte/character position ") ++ Quoting.plain text)
          | .ok ranges =>
              let plan : Cut := {
                ranges, fields, complement := a.has 'κ', delimiter := delimiter.headD 0
                between := a.value? 'ω', delimitedOnly := a.has 's' }
              let f : Filter (Unit × Bytes) := Filter.ofLines fun s line _ =>
                (((plan.apply line).map (· ++ newline)).getD [], s)
              filter c f ((), []) a.operands
    | _ => c.refuseText "only one list may be specified"

/-! ## Pasting -/

/-- The delimiters in a list with escapes; an empty one joins without anything. -/
def delimiters : Bytes → List Bytes
  | [] => []
  | 92 :: b :: rest =>
      (if b = 110 then [10] else if b = 116 then [9] else if b = 48 then [] else [b]) ::
        delimiters rest
  | b :: rest => [b] :: delimiters rest

/-- Join parts with one delimiter after another. -/
def joined (all : List Bytes) : List Bytes → List Bytes → Bytes
  | _, [] => []
  | _, [part] => part
  | [], part :: rest => part ++ (match all with
      | [] => joined all [] rest
      | d :: ds => d ++ joined all ds rest)
  | d :: ds, part :: rest => part ++ d ++ joined all ds rest

/-- Put the lines of files next to each other; `fuel` bounds the lines. -/
def parallel (ds : List Bytes) : (fuel : Nat) → List (List Bytes) → Bytes
  | 0, _ => []
  | fuel + 1, files =>
      if files.all (·.isEmpty) then []
      else joined ds ds (files.map fun ls => ls.headD []) ++ newline ++
        parallel ds fuel (files.map List.tail)

/-- Share the lines of standard input among the operands that name it. -/
def shares (count : Nat) (lines : List Bytes) (i : Nat) : List Bytes :=
  lines.zipIdx.filterMap fun (line, n) => if n % count = i then some line else none

def paste (c : Caller) (arguments : List Bytes) : Program Nat :=
  c.withArguments { plain := "sz", valued := "d", words := [("serial", 's'), ("delimiters", 'd')] }
    arguments fun a => do
      let files := sources a.operands
      let ds := delimiters ((a.value? 'd').getD [Bytes.tab])
      let ds := if ds.isEmpty then [[]] else ds
      let distinct := files.eraseDups
      let (contents, good) ← readEach c distinct
      if !good && !a.has 's' then return c.failure
      let linesOf (file : Bytes) : List Bytes := Lines.ofBytes ((contents.lookup file).getD [])
      let inputs := files.filter (· = standardInput)
      if a.has 's' then
        let shown := files.filter fun f => (contents.lookup f).isSome
        c.finish (shown.flatMap fun f => joined ds ds (linesOf f) ++ newline)
          (if good then 0 else c.failure)
      else
        let lists := files.zipIdx.map fun (f, i) =>
          if f = standardInput then
            let before := ((files.take i).filter (· = standardInput)).length
            shares inputs.length (linesOf f) before
          else linesOf f
        let longest := (lists.map List.length).foldl max 0
        c.finish (parallel ds longest lists)

/-! ## Comparing sorted files -/

/-- The lines of two sorted files: those of the first alone, of the second alone, and of both. -/
def merged : (fuel : Nat) → List Bytes → List Bytes → List (Nat × Bytes)
  | 0, _, _ => []
  | fuel + 1, as, bs =>
      match as, bs with
      | [], [] => []
      | a :: as, [] => (1, a) :: merged fuel as []
      | [], b :: bs => (2, b) :: merged fuel [] bs
      | a :: as, b :: bs =>
          if a = b then (3, a) :: merged fuel as bs
          else if Bytes.le a b then (1, a) :: merged fuel as (b :: bs)
          else (2, b) :: merged fuel (a :: as) bs

def isSorted (ls : List Bytes) : Bool := (ls.zip ls.tail).all fun (a, b) => Bytes.le a b

def comm (c : Caller) (arguments : List Bytes) : Program Nat :=
  c.withArguments { plain := "123z", valued := "ω", words := [("output-delimiter", 'ω')] }
    arguments fun a => do
      match a.operands with
      | [] => c.refuseText "missing operand"
      | [one] => c.refuse (Bytes.ofText "missing operand after " ++ Quoting.plain one)
      | first :: second :: extra =>
          c.withOperands 0 extra do
            let (contents, good) ← readEach c [first, second]
            if !good then return c.failure
            let linesOf (i : Nat) : List Bytes := Lines.ofBytes ((contents[i]?.map (·.2)).getD [])
            let as := linesOf 0
            let bs := linesOf 1
            let found := merged (as.length + bs.length) as bs
            let isHidden (column : Nat) : Bool :=
              (column = 1 && a.has '1') || (column = 2 && a.has '2') || (column = 3 && a.has '3')
            let between := (a.value? 'ω').getD [Bytes.tab]
            let line (entry : Nat × Bytes) : Bytes :=
              let (column, text) := entry
              if isHidden column then []
              else ((List.range (column - 1)).flatMap fun i =>
                if isHidden (i + 1) then [] else between) ++ text ++ newline
            let unpaired := found.any (·.1 ≠ 3)
            let disordered := unpaired && (!isSorted as || !isSorted bs)
            let good ← c.emit (found.flatMap line)
            if unpaired && !isSorted as then c.sayText "file 1 is not in sorted order"
            if unpaired && !isSorted bs then c.sayText "file 2 is not in sorted order"
            if disordered then c.sayText "input is not in sorted order"
            return if good && !disordered then 0 else c.failure

/-! ## Translating bytes -/

/-- Why a set of bytes cannot be read. -/
inductive SetError
  | reversed (text : Bytes)
  | badClass (name : Bytes)
deriving DecidableEq, Repr

def byteRange (a b : UInt8) : Bytes :=
  (List.range (b.toNat + 1 - a.toNat)).map fun n => UInt8.ofNat (a.toNat + n)

def classBytes? (name : Bytes) : Option Bytes :=
  (Glyph.classes.find? fun (text, _) => Bytes.ofText text = name).map fun (_, fits) =>
    (byteRange 0 255).filter fits

/-- One byte of a set, which may be escaped, and what follows it. -/
def setByte : Bytes → Option (UInt8 × Bytes)
  | [] => none
  | [b] => some (b, [])
  | 92 :: c :: rest =>
      let isOctal (b : UInt8) : Bool := 48 ≤ b && b ≤ 55
      if isOctal c then
        let digits := c :: (rest.take 2).takeWhile isOctal
        some (UInt8.ofNat (Numeral.digits 8 digits).1, rest.drop (digits.length - 1))
      else
        let b := (([((97 : UInt8), (7 : UInt8)), (98, 8), (102, 12), (110, 10), (114, 13), (116, 9),
          (118, 11)].lookup c)).getD c
        some (b, rest)
  | b :: rest => some (b, rest)

/-- A part of a set: bytes, or a byte that fills up what is missing. -/
inductive SetPart
  | bytes (bs : Bytes)
  | fill (b : UInt8)
deriving DecidableEq, Repr

/-- The parts of a set; `fuel` bounds their number. -/
def setParts : (fuel : Nat) → Bytes → Except SetError (List SetPart)
  | 0, _ => .ok []
  | fuel + 1, text =>
      let name := (text.drop 2).takeWhile (· ≠ 58)
      let afterName := text.drop (2 + name.length)
      match text with
      | [] => .ok []
      | 91 :: 58 :: _ =>
          if (Bytes.ofText ":]").isPrefixOf afterName then
            match classBytes? name with
            | some bs => do return .bytes bs :: (← setParts fuel (afterName.drop 2))
            | none => .error (.badClass name)
          else do return .bytes [91] :: (← setParts fuel text.tail)
      | 91 :: 61 :: b :: 61 :: 93 :: rest => do return .bytes [b] :: (← setParts fuel rest)
      | 91 :: b :: 42 :: rest =>
          let digits := rest.takeWhile Bytes.isDigit
          match rest.drop digits.length with
          | 93 :: rest =>
              let count := if digits.head? = some 48 then (Numeral.digits 8 digits).1
                else (Bytes.decimal? digits).getD 0
              let part : SetPart := if count = 0 then .fill b else .bytes (List.replicate count b)
              do return part :: (← setParts fuel rest)
          | _ => do return .bytes [91] :: (← setParts fuel text.tail)
      | text =>
          match setByte text with
          | none => .ok []
          | some (a, rest) =>
              match rest with
              | 45 :: more =>
                  match setByte more with
                  | none => do return .bytes [a] :: (← setParts fuel rest)
                  | some (b, rest) =>
                      if b < a then .error (.reversed (text.take (text.length - rest.length)))
                      else do return .bytes (byteRange a b) :: (← setParts fuel rest)
              | rest => do return .bytes [a] :: (← setParts fuel rest)

/-- The bytes of a set, filled up to a size if it says so. -/
def setBytes (size : Nat) (parts : List SetPart) : Bytes :=
  let plain := (parts.map fun
    | .bytes bs => bs.length
    | .fill _ => 0).foldl (· + ·) 0
  parts.flatMap fun
    | .bytes bs => bs
    | .fill b => List.replicate (size - plain) b

def set? (size : Nat) (text : Bytes) : Except SetError Bytes :=
  (setParts (text.length + 1) text).map (setBytes size)

/-- What is done with each byte: whether it is dropped, what it becomes, and whether of those like
it in a row the first alone stays. -/
structure Translation where
  drops : UInt8 → Bool
  becomes : UInt8 → UInt8
  squeezes : UInt8 → Bool

def Translation.step (t : Translation) (last : Option UInt8) (b : UInt8) :
    Bytes × Option UInt8 :=
  if t.drops b then ([], last)
  else
    let b := t.becomes b
    if t.squeezes b && last = some b then ([], last) else ([b], some b)

/-- The bytes that stand in a set, or those that do not. -/
def chosen (complement : Bool) (set : Bytes) : Bytes :=
  if complement then (byteRange 0 255).filter (!set.contains ·) else set

def trOptions : OptionTable where
  plain := "cCdst"
  words := [("complement", 'c'), ("delete", 'd'), ("squeeze-repeats", 's'), ("truncate-set1", 't')]
  ordered := true

/-- The translation that some options and sets describe. -/
def translation (a : Arguments) (first : Bytes) (second : Option Bytes) :
    Except SetError Translation := do
  let one := chosen (a.has 'c' || a.has 'C') (← set? 0 first)
  let two ← match second with
    | some text => set? one.length text
    | none => .ok []
  let nothing (_ : UInt8) : Bool := false
  if a.has 'd' then
    return { drops := one.contains, becomes := id
             squeezes := if a.has 's' then two.contains else nothing }
  else if second.isNone then
    return { drops := nothing, becomes := id, squeezes := one.contains }
  else
    let one := if a.has 't' then one.take two.length else one
    let two := two ++ List.replicate (one.length - two.length) (two.getLast?.getD 0)
    let table := (one.zip two).reverse
    return { drops := nothing, becomes := fun b => (table.lookup b).getD b
             squeezes := if a.has 's' then two.contains else nothing }

def tr (c : Caller) (arguments : List Bytes) : Program Nat :=
  c.withArguments trOptions arguments fun a => do
    let needed := if a.has 'd' = a.has 's' then 2 else 1
    let most := if a.has 'd' && !a.has 's' then 1 else 2
    match a.operands with
    | [] => c.refuseText "missing operand"
    | first :: rest =>
        if rest.isEmpty && needed = 2 then
          c.say (Bytes.ofText "missing operand after " ++ Quoting.plain first)
          complain (if a.has 'd' then
              "Two strings must be given when both deleting and squeezing repeats.\n"
            else "Two strings must be given when translating.\n")
          c.sayHelp
          return c.failure
        else if most < a.operands.length then
          c.say (Bytes.ofText "extra operand " ++ Quoting.plain ((a.operands[most]?).getD []))
          if a.operands.length = 2 then
            complain "Only one string may be given when deleting without squeezing repeats.\n"
          c.sayHelp
          return c.failure
        else match translation a first rest.head? with
          | .error (.reversed text) =>
              c.abort (Bytes.ofText "range-endpoints of " ++ Quoting.plain text ++
                Bytes.ofText " are in reverse collating sequence order")
          | .error (.badClass name) =>
              c.abort (Bytes.ofText "invalid character class " ++ Quoting.plain name)
          | .ok t =>
              if rest.head? = some [] && !a.has 't' && !a.has 'd' then
                c.abort (Bytes.ofText "when not truncating set1, string2 must be non-empty")
              else
                filter c (Filter.ofBytes t.step) none []
                  { cannotRead := fun _ => Bytes.ofText "read error", closing := [] }

/-- The bytes of a set that can be read. -/
def setText (s : String) : Bytes := ((set? 0 (Bytes.ofText s)).toOption).getD []

example : setText "a-e" = Bytes.ofText "abcde" := by decide +kernel
example : setText "[:digit:]x" = Bytes.ofText "0123456789x" := by decide +kernel
example : setText "[a*3]b" = Bytes.ofText "aaab" := by decide +kernel

end JobShell.Machine.Columns
