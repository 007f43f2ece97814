import JobShell.Machine.Decimal

/-!
# Printing words

What `echo` and `printf` write: backslash escapes, and formats that are filled with arguments
and used again while arguments are left.

Results:
1. The examples at the end: how formats are filled.
-/

namespace JobShell.Machine.Printing

def backslash : UInt8 := 92

/-! ## Escapes -/

/-- The escapes that mean something besides those of a single letter. -/
structure Escapes where
  /-- Up to three octal digits behind the backslash. -/
  octal : Bool := false
  /-- Up to three octal digits behind a zero. -/
  zeroLed : Bool := false
  /-- A `c` ends all output. -/
  cuts : Bool := false
  /-- Up to two hexadecimal digits behind an `x`. -/
  hexadecimal : Bool := false
  /-- Double quotes. -/
  quotes : Bool := false
deriving DecidableEq, Repr

/-- A text with its escapes expanded, and whether it was cut off. -/
structure Unescaped where
  bytes : Bytes := []
  cut : Bool := false
deriving DecidableEq, Repr

def Unescaped.before (b : UInt8) (u : Unescaped) : Unescaped := { u with bytes := b :: u.bytes }

/-- The byte that a letter behind a backslash stands for. -/
def letter? (e : Escapes) (b : UInt8) : Option UInt8 :=
  ([((97 : UInt8), (7 : UInt8)), (98, 8), (102, 12), (110, 10), (114, 13), (116, 9), (118, 11),
    (92, 92), (101, 27)] ++ (if e.quotes then [(34, 34)] else [])).lookup b

def isOctal (b : UInt8) : Bool := 48 ≤ b && b ≤ 55

def isHexadecimal (b : UInt8) : Bool :=
  (Numeral.digitValue? b).any fun d => decide (d < 16)

/-- The byte that digits to a base stand for. -/
def byteOf (base : Nat) (digits : Bytes) : UInt8 := UInt8.ofNat (Numeral.digits base digits).1

/-- Expand the escapes of a text. -/
def unescape (e : Escapes) : Bytes → Unescaped
  | [] => {}
  | [b] => { bytes := [b] }
  | b :: c :: rest =>
      if b ≠ backslash then (unescape e (c :: rest)).before b
      else if c = 99 && e.cuts then { cut := true }
      else match letter? e c with
        | some d => (unescape e rest).before d
        | none =>
            if e.zeroLed && c = 48 then
              let digits := (rest.take 3).takeWhile isOctal
              (unescape e (rest.drop digits.length)).before (byteOf 8 digits)
            else if e.octal && isOctal c then
              let digits := c :: (rest.take 2).takeWhile isOctal
              (unescape e (rest.drop (digits.length - 1))).before (byteOf 8 digits)
            else if e.hexadecimal && c = 120 && (rest.head?.map isHexadecimal).getD false then
              let digits := (rest.take 2).takeWhile isHexadecimal
              (unescape e (rest.drop digits.length)).before (byteOf 16 digits)
            else ((unescape e rest).before c).before b
termination_by bs => bs.length
decreasing_by all_goals simp only [List.length_cons, List.length_drop]; omega

/-! ## Formats -/

/-- The width or the precision of a conversion. -/
inductive Amount
  | given (n : Nat)
  | fromArgument
deriving DecidableEq, Repr

/-- One conversion of a format. -/
structure Conversion where
  flags : Bytes := []
  width : Option Amount := none
  precision : Option Amount := none
  letter : UInt8
deriving DecidableEq, Repr

inductive FormatPiece
  | literal (b : UInt8)
  | convert (c : Conversion)
  /-- Something that is no conversion, and whether the format ends in it. -/
  | broken (text : Bytes) (ended : Bool)
  /-- The end of all output. -/
  | cut
deriving DecidableEq, Repr

/-- How a program understands formats. -/
structure Dialect where
  escapes : Escapes
  argumentEscapes : Escapes
  letters : Bytes
  /-- What may stand in front of the letter of a conversion and means nothing. -/
  modifiers : Bytes := []
  /-- How many binary digits fractions keep. -/
  bits : Nat
  /-- How words are quoted. -/
  quote : Bytes → Bytes := id

def amount (bs : Bytes) : Option Amount × Bytes :=
  match bs with
  | 42 :: rest => (some .fromArgument, rest)
  | _ =>
      let digits := bs.takeWhile Bytes.isDigit
      ((Bytes.decimal? digits).map .given, bs.drop digits.length)

/-- Read one conversion behind its percent sign. -/
def readConversion (letters modifiers : Bytes) (bs : Bytes) : FormatPiece × Bytes :=
  let flags := bs.takeWhile (Bytes.ofText "-0+ #").contains
  let (width, rest) := amount (bs.drop flags.length)
  let (precision, rest) := match rest with
    | 46 :: rest =>
        let (precision, rest) := amount rest
        (some (precision.getD (.given 0)), rest)
    | rest => (none, rest)
  let rest := rest.dropWhile modifiers.contains
  match rest with
  | letter :: after =>
      if letters.contains letter then (.convert { flags, width, precision, letter }, after)
      else (.broken (37 :: bs.take (bs.length - after.length)) false, after)
  | [] => (.broken (37 :: bs) true, [])

/-- The pieces of a format whose escapes are still in place; `fuel` bounds their number. -/
def readFormat (d : Dialect) : (fuel : Nat) → Bytes → List FormatPiece
  | 0, _ => []
  | fuel + 1, bs =>
      match bs with
      | [] => []
      | 37 :: 37 :: rest => .literal 37 :: readFormat d fuel rest
      | 37 :: rest =>
          let (piece, rest) := readConversion d.letters d.modifiers rest
          piece :: readFormat d fuel rest
      | b :: rest =>
          let chunk := b :: rest.takeWhile (· != 37)
          let u := unescape d.escapes chunk
          u.bytes.map .literal ++
            (if u.cut then [.cut] else readFormat d fuel (rest.dropWhile (· != 37)))

/-! ## Filling -/

/-- What is wrong with an argument for a number. -/
inductive Complaint
  | notNumeric (word : Bytes)
  | notWhole (word : Bytes)
  | outOfRange (word : Bytes)
deriving DecidableEq, Repr

/-- The digits of a number to a base of at most 16. -/
def digits (upper : Bool) (base n : Nat) : Bytes :=
  (Nat.toDigits base n).map fun c =>
    UInt8.ofNat ((if upper then c.toUpper else c).toNat)

/-- What a format has come to. -/
structure Filled where
  /-- The text so far, its last part first. -/
  parts : List Bytes := []
  arguments : List Bytes := []
  complaints : List Complaint := []
  cut : Bool := false
  /-- A conversion that cannot be done, and whether the format ends in it. -/
  broken : Option (Bytes × Bool) := none
deriving DecidableEq, Repr

namespace Filled

def text (f : Filled) : Bytes := f.parts.reverse.flatten

def put (f : Filled) (bs : Bytes) : Filled := { f with parts := bs :: f.parts }

def complain (f : Filled) (c : Complaint) : Filled :=
  { f with complaints := f.complaints ++ [c] }

/-- Take the next argument, or nothing if there is none. -/
def take (f : Filled) : Bytes × Filled :=
  (f.arguments.headD [], { f with arguments := f.arguments.tail })

/-- Check how much of an argument was read. -/
def check (f : Filled) (word rest : Bytes) (inRange : Bool) : Filled :=
  if !rest.isEmpty then
    f.complain (if rest.length = word.length then .notNumeric word else .notWhole word)
  else if !inRange then f.complain (.outOfRange word)
  else f

def greatestUnsigned : Nat := 18446744073709551615

/-- The next argument as a number. -/
def takeNumber (f : Filled) (signed : Bool) : Int × Filled :=
  let (word, f) := f.take
  match word with
  | 34 :: b :: _ | 39 :: b :: _ => (b.toNat, f)
  | _ =>
      let (n, rest) := Numeral.unbounded false word
      if signed then
        let kept := Numeral.clamp n
        (kept, f.check word rest (kept = n))
      else
        let inRange := n.natAbs ≤ greatestUnsigned
        (if inRange then n else greatestUnsigned, f.check word rest inRange)

/-- The next argument as a fraction. -/
def takeFraction (f : Filled) (bits : Nat) : Decimal × Filled :=
  let (word, f) := f.take
  match word with
  | 34 :: b :: _ | 39 :: b :: _ => ({ above := b.toNat }, f)
  | _ =>
      let (x, rest) := Decimal.leading word
      (x.rounded bits, f.check word rest true)

/-- The value of a width or a precision. -/
def takeAmount (f : Filled) : Option Amount → Option Int × Filled
  | none => (none, f)
  | some (.given n) => (some n, f)
  | some .fromArgument =>
      let (n, f) := f.takeNumber true
      (some n, f)

end Filled

/-- How a value is laid out: its flags, its width and its precision. -/
structure Layout where
  flags : Bytes
  width : Nat
  precision : Option Nat
deriving DecidableEq, Repr

namespace Layout

def has (l : Layout) (flag : Char) : Bool := l.flags.any fun b => b.toNat == flag.toNat

def pad (l : Layout) (text : Bytes) : Bytes :=
  let missing := List.replicate (l.width - text.length) Bytes.space
  if l.has '-' then text ++ missing else missing ++ text

/-- A number behind its sign, filled up with zeros if that is asked for. -/
def signed (l : Layout) (sign body : Bytes) (zeros : Bool) : Bytes :=
  if zeros && l.has '0' && !l.has '-' then
    sign ++ List.replicate (l.width - sign.length - body.length) 48 ++ body
  else l.pad (sign ++ body)

def sign (l : Layout) (negative : Bool) : Bytes :=
  if negative then [45] else if l.has '+' then [43] else if l.has ' ' then [Bytes.space] else []

def number (l : Layout) (letter : UInt8) (n : Int) : Bytes :=
  let isSigned := letter = 100 || letter = 105
  let base := if letter = 111 then 8 else if letter = 120 || letter = 88 then 16 else 10
  -- A negative number without a sign is shown modulo 2 to the 64.
  let size := if isSigned then n.natAbs else (n % (Filled.greatestUnsigned + 1)).toNat
  let body := if l.precision = some 0 && size = 0 then [] else digits (letter = 88) base size
  let body := List.replicate (l.precision.getD 0 - body.length) 48 ++ body
  let body := if l.has '#' && base = 8 && body.head? ≠ some 48 then 48 :: body else body
  let front := if isSigned then l.sign (n < 0)
    else if l.has '#' && base = 16 && size ≠ 0 then [48, letter] else []
  l.signed front body l.precision.isNone

def fraction (l : Layout) (letter : UInt8) (x : Decimal) : Bytes :=
  let places := l.precision.getD 6
  let small := letter ||| 32
  let body := if small = 102 then x.fixed places
    else if small = 101 then x.scientific places
    else x.general places (l.has '#')
  let body := if letter = small then body else body.map fun b => if b = 101 then 69 else b
  l.signed (l.sign x.negative) body true

end Layout

/-- Fill one conversion. -/
def Filled.convert (d : Dialect) (f : Filled) (c : Conversion) : Filled :=
  let (width, f) := f.takeAmount c.width
  let (precision, f) := f.takeAmount c.precision
  let left := width.any fun n => decide (n < 0)
  let l : Layout := {
    flags := if left then 45 :: c.flags else c.flags
    width := (width.getD 0).natAbs
    precision := precision.bind fun n => if n < 0 then none else some n.toNat }
  let shown (word : Bytes) : Bytes := l.pad (word.take (l.precision.getD word.length))
  if c.letter = 115 then
    let (word, f) := f.take
    f.put (shown word)
  else if c.letter = 98 then
    let (word, f) := f.take
    let u := unescape d.argumentEscapes word
    { f.put (shown u.bytes) with cut := u.cut }
  else if c.letter = 113 then
    let (word, f) := f.take
    f.put (shown (d.quote word))
  else if c.letter = 99 then
    let (word, f) := f.take
    f.put (l.pad [word.headD 0])
  else if (Bytes.ofText "diouxX").contains c.letter then
    let (n, f) := f.takeNumber (c.letter = 100 || c.letter = 105)
    f.put (l.number c.letter n)
  else
    let (x, f) := f.takeFraction d.bits
    f.put (l.fraction c.letter x)

def Filled.fill (d : Dialect) (f : Filled) : List FormatPiece → Filled
  | [] => f
  | piece :: rest =>
      if f.cut then f
      else match piece with
        | .literal b => (f.put [b]).fill d rest
        | .convert c => (f.convert d c).fill d rest
        | .broken text ended => { f with broken := some (text, ended), cut := true }
        | .cut => { f with cut := true }

/-- Fill a format again and again while it uses up arguments. -/
def Filled.refill (d : Dialect) (pieces : List FormatPiece) : (fuel : Nat) → Filled → Filled
  | 0, f => f
  | fuel + 1, f =>
      let after := f.fill d pieces
      if after.cut || after.arguments.isEmpty || after.arguments.length = f.arguments.length then
        after
      else Filled.refill d pieces fuel after

def format (d : Dialect) (pattern : Bytes) (arguments : List Bytes) : Filled :=
  Filled.refill d (readFormat d (pattern.length + 1) pattern) (arguments.length + 1) { arguments }

/-! ## Echo -/

def joined (words : List Bytes) : Bytes := [Bytes.space].intercalate words

/-- The letters that an option of `echo` may consist of. -/
def isEchoOption (argument : Bytes) : Bool :=
  argument.head? = some 45 && 1 < argument.length &&
    argument.tail.all (Bytes.ofText "neE").contains

/-- The text of `echo` as a program of its own: escapes stay unless `-e` asks for them. -/
def echoText (arguments : List Bytes) : Bytes :=
  let options := (arguments.takeWhile isEchoOption).flatten
  let words := joined (arguments.dropWhile isEchoOption)
  let escapes := (options.filter (Bytes.ofText "eE").contains).getLast? = some 101
  let u := if escapes then
      unescape { octal := true, zeroLed := true, cuts := true, hexadecimal := true } words
    else { bytes := words }
  if u.cut || options.contains 110 then u.bytes else u.bytes ++ [Bytes.newline]

/-- The text of `echo` as a command of a script: escapes are always expanded, and only `-n` is an
option. -/
def scriptEchoText (arguments : List Bytes) : Bytes :=
  let quiet := arguments.head? = some (Bytes.ofText "-n")
  let u := unescape { octal := true, zeroLed := true, cuts := true }
    (joined (if quiet then arguments.tail else arguments))
  if u.cut || quiet then u.bytes else u.bytes ++ [Bytes.newline]

/-! ## Examples -/

/-- How scripts understand formats. -/
def scriptDialect : Dialect where
  escapes := { octal := true }
  argumentEscapes := { octal := true, zeroLed := true, cuts := true }
  letters := Bytes.ofText "bcsdiouxXeEfFgG"
  bits := 53

/-- The text of a format in a script. -/
def scriptText (pattern : String) (arguments : List String) : Bytes :=
  (format scriptDialect (Bytes.ofText pattern) (arguments.map Bytes.ofText)).text

example : scriptText "%s-" ["a", "b"] = Bytes.ofText "a-b-" := by decide +kernel
example : scriptText "%04d|%-3s|%x" ["7", "a", "255"] = Bytes.ofText "0007|a  |ff" := by
  decide +kernel
example : scriptText "%*s" ["3", "a"] = Bytes.ofText "  a" := by decide +kernel

end JobShell.Machine.Printing
