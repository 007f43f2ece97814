import JobShell.Bytes

/-!
# Names in messages

How programs show names and other words in their messages: in quotes that a shell could read, or
in plain quotes with escapes.

Results:
1. The examples at the end: which quotes are chosen.
-/

namespace JobShell.Machine.Quoting

def isPrintable (b : UInt8) : Bool := 32 ≤ b && b ≤ 126

/-- The letter by which a byte is escaped, if there is one. -/
def escapeLetter? (b : UInt8) : Option UInt8 :=
  [((7 : UInt8), (97 : UInt8)), (8, 98), (12, 102), (10, 110), (13, 114), (9, 116),
    (11, 118)].lookup b

/-- A byte that cannot be shown as it is, behind a backslash. -/
def escaped (b : UInt8) : Bytes :=
  match escapeLetter? b with
  | some letter => [92, letter]
  | none => [92, 48 + b / 64, 48 + b / 8 % 8, 48 + b % 8]

/-- Within plain quotes, where quotes and backslashes are escaped, too. -/
def plain (bs : Bytes) : Bytes :=
  39 :: (bs.flatMap fun b =>
    if b = 39 || b = 92 then [92, b] else if isPrintable b then [b] else escaped b) ++ [39]

/-- Within double quotes, in the same way. -/
def double (bs : Bytes) : Bytes :=
  34 :: (bs.flatMap fun b =>
    if b = 34 || b = 92 then [92, b] else if isPrintable b then [b] else escaped b) ++ [34]

/-- Without quotes, but with a backslash before itself and before some other bytes. -/
def bare (others : Bytes) (bs : Bytes) : Bytes :=
  bs.flatMap fun b =>
    if b = 92 || others.contains b then [92, b] else if isPrintable b then [b] else escaped b

/-! ## For a shell -/

/-- Whether a byte means the same in both kinds of quotes; braces do if they are all there is. -/
def isCompatible (first alone : Bool) (b : UInt8) : Bool :=
  (48 ≤ b && b ≤ 57) || (65 ≤ b && b ≤ 90) || (97 ≤ b && b ≤ 122) ||
    (Bytes.ofText "%+,-./:]_ '").contains b || (first && (Bytes.ofText "#~").contains b) ||
    (alone && (Bytes.ofText "\x7b\x7d").contains b)

def allCompatible (bs : Bytes) : Bool :=
  bs.zipIdx.all fun (b, i) => isCompatible (i = 0) (bs.length = 1) b

/-- The body of a text in single quotes; `outside` tells whether it stands in quotes for escapes. -/
def body : (outside : Bool) → Bytes → Bytes
  | _, [] => [39]
  | outside, b :: rest =>
      if b = 39 then 39 :: 92 :: 39 :: 39 :: body false rest
      else if isPrintable b then (if outside then [39, 39] else []) ++ b :: body false rest
      else (if outside then [] else [39, 36, 39]) ++ escaped b ++ body true rest

/-- In quotes that a shell can read. -/
def shell (bs : Bytes) : Bytes :=
  if bs.contains 39 && allCompatible bs then 34 :: bs ++ [34]
  else 39 :: body false bs

/-- Whether a byte means something to a shell. -/
def isSpecial (first alone : Bool) (b : UInt8) : Bool :=
  !isPrintable b || (Bytes.ofText " !\"$&()*;<=>[^`|'?\\").contains b ||
    (first && (Bytes.ofText "#~").contains b) ||
    (alone && (Bytes.ofText "\x7b\x7d").contains b)

/-- In quotes only if a shell would need them. -/
def needed (bs : Bytes) : Bytes :=
  if bs.isEmpty || bs.zipIdx.any (fun (b, i) => isSpecial (i = 0) (bs.length = 1) b) then shell bs
  else bs

/-- The same for a name in front of a colon, where colons need quotes, too. -/
def named (bs : Bytes) : Bytes := if bs.contains 58 then shell bs else needed bs

/-- How a text is quoted for a shell. -/
def shellText (s : String) : Bytes := shell (Bytes.ofText s)

example : shellText "x" = Bytes.ofText "'x'" := by decide +kernel
example : shellText "a'b" = Bytes.ofText "\"a'b\"" := by decide +kernel
example : shellText "é" = Bytes.ofText "''$'\\303\\251'" := by decide +kernel
example : shellText "d/é" = Bytes.ofText "'d/'$'\\303\\251'" := by decide +kernel

end JobShell.Machine.Quoting
