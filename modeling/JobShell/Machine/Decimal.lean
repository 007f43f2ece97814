import JobShell.Machine.Numeral

/-!
# Decimal fractions

Fractions as programs read, keep and show them: a numeral is read exactly, rounded to as many
binary digits as a machine number has, and shown with decimal digits that are rounded in turn. Both
roundings go to the nearest value, and to the even one in the middle.

Results:
1. The examples at the end: how fractions are shown.
-/

namespace JobShell.Machine

/-- A fraction: its sign, and its size as one number over another. -/
structure Decimal where
  negative : Bool := false
  above : Nat
  below : Nat := 1
deriving DecidableEq, Repr

namespace Decimal

def tenTo (n : Nat) : Nat := Nat.pow 10 n

/-! ## Reading -/

/-- The number behind a letter for a power of ten, with its sign, and what follows it. -/
def powerOfTen? (bs : Bytes) : Option (Int × Bytes) :=
  let (negative, body) := match bs with
    | 45 :: rest => (true, rest)
    | 43 :: rest => (false, rest)
    | rest => (false, rest)
  let (n, rest) := Numeral.digits 10 body
  if rest.length = body.length then none
  else some (if negative then -(n : Int) else n, rest)

/-- The fraction at the front of a text, behind blanks and a sign, and what follows it. Without
digits nothing is taken. -/
def leading (bs : Bytes) : Decimal × Bytes :=
  let text := bs.dropWhile Numeral.isSpace
  let (negative, body) := match text with
    | 45 :: rest => (true, rest)
    | 43 :: rest => (false, rest)
    | rest => (false, rest)
  let whole := body.takeWhile Bytes.isDigit
  let afterWhole := body.drop whole.length
  let (part, rest) := match afterWhole with
    | 46 :: rest =>
        let part := rest.takeWhile Bytes.isDigit
        if whole.isEmpty && part.isEmpty then ([], afterWhole) else (part, rest.drop part.length)
    | rest => ([], rest)
  if whole.isEmpty && part.isEmpty then ({ above := 0 }, bs)
  else
    let n := (Numeral.digits 10 (whole ++ part)).1
    let (power, rest) := match rest with
      | e :: after =>
          if e = 101 || e = 69 then (powerOfTen? after).getD (0, rest) else (0, rest)
      | [] => (0, [])
    let power := max (-5000) (min 5000 (power - part.length))
    if 0 ≤ power then ({ negative, above := n * tenTo power.toNat }, rest)
    else ({ negative, above := n, below := tenTo (-power).toNat }, rest)

/-- The fraction that a whole text is. -/
def ofText? (bs : Bytes) : Option Decimal :=
  let (d, rest) := leading bs
  if rest.length = bs.length || !rest.isEmpty then none else some d

/-! ## Rounding -/

/-- The nearest number to a quotient; the even one in the middle. -/
def nearest (n d : Nat) : Nat :=
  let q := n / d
  let twice := 2 * (n % d)
  if twice < d then q else if d < twice then q + 1 else if q % 2 = 0 then q else q + 1

/-- Shift a quotient by binary places. -/
def shifted (n d : Nat) (places : Int) : Nat × Nat :=
  if 0 ≤ places then (n <<< places.toNat, d) else (n, d <<< (-places).toNat)

/-- Round to a number of binary digits. -/
def rounded (bits : Nat) (x : Decimal) : Decimal :=
  if x.above = 0 || x.below = 0 then x
  else
    let guess : Int := bits - 1 - (x.above.log2 - x.below.log2 : Int)
    -- The guess may be too small by one.
    let (n, d) := shifted x.above x.below guess
    let places := if n < d <<< (bits - 1) then guess + 1 else guess
    let (n, d) := shifted x.above x.below places
    let (above, below) := shifted (nearest n d) 1 (-places)
    { x with above, below }

/-! ## Showing -/

def digitText (n : Nat) : Bytes := Bytes.ofNat n

/-- A number with a point in front of its last digits. -/
def pointed (places n : Nat) : Bytes :=
  let text := digitText n
  let text := List.replicate (places + 1 - text.length) 48 ++ text
  if places = 0 then text
  else text.take (text.length - places) ++ 46 :: text.drop (text.length - places)

/-- With a fixed number of digits behind the point. -/
def fixed (places : Nat) (x : Decimal) : Bytes :=
  pointed places (nearest (x.above * tenTo places) x.below)

/-- The power of ten of the first digit. -/
def magnitude (x : Decimal) : Int :=
  if x.above = 0 then 0
  else
    let guess : Int := (digitText x.above).length - (digitText x.below).length
    let (n, d) := if 0 ≤ guess then (x.above, x.below * tenTo guess.toNat)
      else (x.above * tenTo (-guess).toNat, x.below)
    if n < d then guess - 1 else guess

/-- The digits of a fraction with one in front of the point, and its power of ten. -/
def mantissa (places : Nat) (x : Decimal) : Nat × Int :=
  let power := x.magnitude
  let shift : Int := places - power
  let n := if 0 ≤ shift then nearest (x.above * tenTo shift.toNat) x.below
    else nearest x.above (x.below * tenTo (-shift).toNat)
  if n = tenTo (places + 1) then (tenTo places, power + 1) else (n, power)

/-- With a power of ten behind it. -/
def scientific (places : Nat) (x : Decimal) : Bytes :=
  let (n, power) := mantissa places x
  let size := digitText power.natAbs
  pointed places n ++ [101, if power < 0 then 45 else 43] ++
    List.replicate (2 - size.length) 48 ++ size

/-- Without the zeros at the end of what stands behind the point. -/
def shortened (text : Bytes) : Bytes :=
  let front := text.takeWhile (· ≠ 101)
  if front.contains 46 then
    let bare := (front.reverse.dropWhile (· = 48)).reverse
    (if bare.getLast? = some 46 then bare.dropLast else bare) ++ text.drop front.length
  else text

/-- With a number of digits, in the form that is shorter. -/
def general (count : Nat) (whole : Bool) (x : Decimal) : Bytes :=
  let count := max 1 count
  let power := (mantissa (count - 1) x).2
  let text := if -4 ≤ power && power < count then fixed (count - 1 - power).toNat x
    else scientific (count - 1) x
  if whole then text else shortened text

/-- What is shown of a numeral. -/
def shown (show_ : Decimal → Bytes) (s : String) : Bytes :=
  show_ ((leading (Bytes.ofText s)).1.rounded 53)

example : shown (fixed 2) "3.14159" = Bytes.ofText "3.14" := by decide +kernel
example : shown (fixed 2) "2.675" = Bytes.ofText "2.67" := by decide +kernel
example : shown (scientific 3) "12345" = Bytes.ofText "1.234e+04" := by decide +kernel
example : shown (general 6 false) "0.0001" = Bytes.ofText "0.0001" := by decide +kernel
example : shown (general 6 false) "1e10" = Bytes.ofText "1e+10" := by decide +kernel

end Decimal

end JobShell.Machine
