import JobShell.Bytes

/-!
# Numerals

Whole numbers as programs read them: behind blanks and a sign, in decimal or with a base of their
own, and within 64 bits.
-/

namespace JobShell.Machine.Numeral

def isSpace (b : UInt8) : Bool := b == 32 || (9 ≤ b && b ≤ 13)

def digitValue? (b : UInt8) : Option Nat :=
  if Bytes.isDigit b then some (b.toNat - 48)
  else if 97 ≤ b && b ≤ 122 then some (b.toNat - 87)
  else if 65 ≤ b && b ≤ 90 then some (b.toNat - 55)
  else none

/-- The digits to a base at the front of a text: their value, and what follows them. -/
def digits (base : Nat) (bs : Bytes) : Nat × Bytes :=
  let front := bs.takeWhile fun b => (digitValue? b).any fun d => decide (d < base)
  (front.foldl (fun n b => base * n + (digitValue? b).getD 0) 0, bs.drop front.length)

/-- A number whose first bytes tell its base: `0x` for 16, `0` for 8. -/
def prefixed (bs : Bytes) : Nat × Bytes :=
  match bs with
  | 48 :: x :: d :: rest =>
      if (x = 120 || x = 88) && (digitValue? d).any fun n => decide (n < 16) then
        digits 16 (d :: rest)
      else digits 8 bs
  | 48 :: _ => digits 8 bs
  | _ => digits 10 bs

def least : Int := -9223372036854775808
def greatest : Int := 9223372036854775807

def clamp (n : Int) : Int := max least (min greatest n)

/-- The number at the front of a text, behind blanks and a sign, and what follows it. Without
digits nothing is taken. -/
def unbounded (decimal : Bool) (bs : Bytes) : Int × Bytes :=
  let text := bs.dropWhile isSpace
  let (negative, body) := match text with
    | 45 :: rest => (true, rest)
    | 43 :: rest => (false, rest)
    | rest => (false, rest)
  let (n, rest) := if decimal then digits 10 body else prefixed body
  if rest.length = body.length then (0, bs)
  else (if negative then -(n : Int) else n, rest)

/-- The same, kept within 64 bits. -/
def leading (decimal : Bool) (bs : Bytes) : Int × Bytes :=
  let (n, rest) := unbounded decimal bs
  (clamp n, rest)

/-- The number that a whole text is; blanks may stand around it, and no text at all is 0 unless
the number has to be decimal. -/
def number? (decimal : Bool) (bs : Bytes) : Option Int :=
  let (n, rest) := leading decimal bs
  if decimal && rest.length = bs.length then none
  else if (rest.dropWhile isSpace).isEmpty then some n
  else none

end JobShell.Machine.Numeral
