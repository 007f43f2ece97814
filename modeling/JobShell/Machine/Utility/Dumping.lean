import JobShell.Machine.Utility.Copying

/-!
# Showing every byte of a file

`od` shows bytes as characters or as numbers, in columns behind their place in the file.

Results:
1. The examples at the end: how bytes are shown.
-/

namespace JobShell.Machine.Dumping

open Program Report

def octalByte (b : UInt8) : Bytes := Bytes.ofText (String.ofList (Nat.toDigits 8 b.toNat))

def leftPadded (width : Nat) (text : Bytes) : Bytes :=
  List.replicate (width - text.length) Bytes.space ++ text

/-! ## Showing bytes -/

/-- How a group of bytes is shown. -/
inductive Rendering
  | character
  | named
  | number (letter : Char)
deriving DecidableEq, Repr

/-- A column of a dump: how, and how many bytes at a time. -/
structure Column where
  rendering : Rendering
  size : Nat := 1
  /-- Whether the bytes follow as characters. -/
  traced : Bool := false
deriving DecidableEq, Repr

namespace Column

/-- The width of a field. -/
def width (c : Column) : Nat :=
  match c.rendering with
  | .character | .named => 3
  | .number letter =>
      let greatest := Nat.pow 256 c.size
      match letter with
      | 'o' => (Nat.toDigits 8 (greatest - 1)).length
      | 'x' => 2 * c.size
      | 'u' => (Nat.toDigits 10 (greatest - 1)).length
      | _ => (Nat.toDigits 10 (greatest / 2)).length + 1

def controlNames : List String :=
  ["nul", "soh", "stx", "etx", "eot", "enq", "ack", "bel", "bs", "ht", "nl", "vt", "ff", "cr", "so",
    "si", "dle", "dc1", "dc2", "dc3", "dc4", "nak", "syn", "etb", "can", "em", "sub", "esc", "fs",
    "gs", "rs", "us", "sp"]

def zeros (width : Nat) (text : Bytes) : Bytes :=
  List.replicate (width - text.length) 48 ++ text

/-- The text of a group of bytes, the lowest byte first. -/
def text (c : Column) (group : Bytes) : Bytes :=
  let n := group.foldr (fun b n => 256 * n + b.toNat) 0
  let first := group.headD 0
  match c.rendering with
  | .named =>
      let low := first &&& 127
      if low = 127 then Bytes.ofText "del"
      else match controlNames[low.toNat]? with
        | some name => Bytes.ofText name
        | none => [low]
  | .character =>
      if first = 0 then Bytes.ofText "\\0"
      else match Quoting.escapeLetter? first with
        | some letter => [92, letter]
        | none => if Quoting.isPrintable first then [first] else zeros 3 (octalByte first)
  | .number letter =>
      let digits (base : Nat) : Bytes := Bytes.ofText (String.ofList (Nat.toDigits base n))
      match letter with
      | 'o' => zeros c.width (digits 8)
      | 'x' => zeros c.width (digits 16)
      | 'u' => digits 10
      | _ =>
          let whole := Nat.pow 256 c.size
          if 2 * n < whole then digits 10 else 45 :: Bytes.ofNat (whole - n)

end Column

/-- The groups of some size in a line; the last one is filled up with zeros. -/
def groups (size : Nat) : (fuel : Nat) → Bytes → List Bytes
  | 0, _ => []
  | fuel + 1, bs =>
      if bs.isEmpty then []
      else
        let group := bs.take size
        (group ++ List.replicate (size - group.length) 0) :: groups size fuel (bs.drop size)

/-- One line of a dump for one column, padded so that columns of all widths fit. -/
def columnText (lineSize widest : Nat) (c : Column) (line : Bytes) : Bytes :=
  let count := lineSize / c.size
  let pad := widest - count * (c.width + 1)
  let shown := ((groups c.size count line).zipIdx).flatMap fun (group, i) =>
    let extra := pad * (count - i) / count - pad * (count - i - 1) / count
    leftPadded (c.width + 1 + extra) (c.text group)
  if !c.traced then shown
  else shown ++ List.replicate (widest - shown.length + 2) Bytes.space ++
    62 :: line.map (fun b => if Quoting.isPrintable b then b else 46) ++ [60]

/-- What is dumped, and how. -/
structure Dump where
  columns : List Column
  base : Option Nat := some 8
  all : Bool := false
  /-- How many bytes there are in a line. -/
  lineSize : Nat := 16

namespace Dump

def address (d : Dump) (n : Nat) : Bytes :=
  match d.base with
  | none => []
  | some base => Column.zeros (if base = 16 then 6 else 7)
      (Bytes.ofText (String.ofList (Nat.toDigits base n)))

def line (d : Dump) (place : Nat) (bytes : Bytes) : Bytes :=
  let widest := (d.columns.map fun c => d.lineSize / c.size * (c.width + 1)).foldl max 0
  let address := d.address place
  (d.columns.zipIdx).flatMap fun (c, i) =>
    (if i = 0 then address else List.replicate address.length Bytes.space) ++
      columnText d.lineSize widest c bytes ++ [Bytes.newline]

/-- The lines of a dump; `last` is the line before, and `same` tells whether a mark stands for lines
like it. -/
def lines (d : Dump) : (fuel place : Nat) → (last : Option Bytes) → (same : Bool) → Bytes → Bytes
  | 0, _, _, _, _ => []
  | fuel + 1, place, last, same, bs =>
      if bs.isEmpty then (if d.base.isNone then [] else d.address place ++ [Bytes.newline])
      else
        let bytes := bs.take d.lineSize
        let rest := bs.drop d.lineSize
        if !d.all && last = some bytes then
          (if same then [] else [42, Bytes.newline]) ++
            lines d fuel (place + bytes.length) last true rest
        else d.line place bytes ++ lines d fuel (place + bytes.length) (some bytes) false rest

end Dump

/-- The columns that a type string names; `whole` is the string from its start. -/
def columns (whole : Bytes) : (fuel : Nat) → Bytes → Except Bytes (List Column)
  | 0, _ => .ok []
  | fuel + 1, text =>
      let string := Bytes.ofText "type string " ++ Quoting.plain whole
      let withColumn (c : Column) (rest : Bytes) : Except Bytes (List Column) :=
        let (c, rest) := match rest with
          | 122 :: rest => ({ c with traced := true }, rest)
          | rest => (c, rest)
        (columns whole fuel rest).map (c :: ·)
      match text with
      | [] => .ok []
      | letter :: rest =>
          match Char.ofNat letter.toNat with
          | 'a' => withColumn { rendering := .named } rest
          | 'c' => withColumn { rendering := .character } rest
          | shown =>
              if !(['d', 'o', 'u', 'x'].contains shown) then
                .error (Bytes.ofText "invalid character '" ++ letter ::
                  Bytes.ofText "' in " ++ string)
              else
                let digits := rest.takeWhile Bytes.isDigit
                let after := rest.drop digits.length
                let (size, after) := match Bytes.decimal? digits, after with
                  | some n, after => (n, after)
                  | none, 67 :: after => (1, after)
                  | none, 83 :: after => (2, after)
                  | none, 73 :: after => (4, after)
                  | none, 76 :: after => (8, after)
                  | none, after => (4, after)
                if !([1, 2, 4, 8].contains size) then
                  .error (Bytes.ofText "invalid " ++ string ++ Bytes.ofText
                    (";\nthis system doesn't provide a " ++ toString size ++ "-byte integral type"))
                else withColumn { rendering := .number shown, size } after

/-- The columns that an option stands for. -/
def columnsOf (option : Char × Bytes) : Except Bytes (List Column) :=
  let number (letter : Char) (size : Nat) : Except Bytes (List Column) :=
    .ok [{ rendering := .number letter, size }]
  match option.1 with
  | 't' => columns option.2 (option.2.length + 1) option.2
  | 'a' => .ok [{ rendering := .named }]
  | 'c' => .ok [{ rendering := .character }]
  | 'b' => number 'o' 1
  | 'd' => number 'u' 2
  | 'o' => number 'o' 2
  | 's' => number 'd' 2
  | 'x' => number 'x' 2
  | 'i' => number 'd' 4
  | 'l' => number 'd' 8
  | _ => .ok []

/-- The base of the places that a letter names. -/
def base? (letter : Bytes) : Option (Option Nat) :=
  match letter with
  | [110] => some none
  | [100] => some (some 10)
  | [120] => some (some 16)
  | [111] => some (some 8)
  | _ => none

/-- A count, which can be octal or hexadecimal, or have a suffix. -/
def count? (text : Bytes) : Option Nat :=
  match Numeral.unbounded false text with
  | (.ofNat n, []) => some n
  | _ => Copying.size? text

def od (c : Caller) (arguments : List Bytes) : Program Nat :=
  c.withArguments {
      plain := "abcdosxilv", valued := "AtNj", open_ := "w"
      words := [("address-radix", 'A'), ("format", 't'), ("read-bytes", 'N'), ("skip-bytes", 'j'),
        ("output-duplicates", 'v'), ("width", 'w')] } arguments fun a => do
    let text (s : String) : Bytes := Bytes.ofText s
    let radix := (a.value? 'A').getD [111]
    let widths := (a.value? 'w').map fun value => if value.isEmpty then text "32" else value
    match base? radix, a.options.mapM columnsOf with
    | none, _ =>
        c.abort (text "invalid output address radix '" ++ radix ++
          text "'; it must be one character from [doxn]")
    | _, .error message => c.abort message
    | some base, .ok found =>
        let numbers := [('j', a.value? 'j'), ('N', a.value? 'N'), ('w', widths)]
        let wrong? := numbers.find? fun (_, value) =>
          (value.map fun value => (count? value).isNone).getD false
        if let some (letter, value) := wrong? then
          return ← c.abort (text ("invalid -" ++ String.singleton letter ++ " argument ") ++
            Quoting.plain (value.getD []))
        let columns := if found.flatten.isEmpty then [{ rendering := .number 'o', size := 2 }]
          else found.flatten
        let widest := (columns.map (·.size)).foldl max 1
        let wanted := (widths.bind count?).getD 16
        let lineSize := if 0 < wanted && wanted % widest = 0 then wanted else widest
        if lineSize ≠ wanted then
          c.sayText ("warning: invalid width " ++ toString wanted ++ "; using " ++
            toString lineSize ++ " instead")
        let (contents, good) ← readEach c (sources a.operands)
        let content := contents.flatMap (·.2)
        let skipped := ((a.value? 'j').bind count?).getD 0
        let opened ← (sources a.operands).anyM fun file => do
          return file = standardInput || (← call (.examine file true)).toOption.isSome
        if !opened then return c.failure
        if content.length < skipped then
          return ← c.abort (text "cannot skip past end of combined input")
        let left := content.drop skipped
        let left := match (a.value? 'N').bind count? with
          | some n => left.take n
          | none => left
        let d : Dump := { columns, base, all := a.has 'v', lineSize }
        c.finish (d.lines (left.length + 1) skipped none false left) (if good then 0 else c.failure)

/-! ## Examples -/

/-- The first line of a dump. -/
def dumped (type : String) (text : String) : Bytes :=
  let found := (columns (Bytes.ofText type) 9 (Bytes.ofText type)).toOption
  ({ columns := found.getD [] } : Dump).line 0 (Bytes.ofText text)

example : dumped "c" "x y\n" = Bytes.ofText "0000000   x       y  \\n\n" := by decide +kernel
example : dumped "x1" "ab" = Bytes.ofText "0000000 61 62\n" := by decide +kernel
example : dumped "o2" "abc" = Bytes.ofText "0000000 061141 000143\n" := by decide +kernel

end JobShell.Machine.Dumping
