import JobShell.Machine.Numeral

/-!
# Modes in words

The mode of a file as it is given to utilities: in octal digits, or as changes like `u+x,go-w`.

Results:
1. The examples at the end: changes of a mode.
-/

namespace JobShell.Machine.FileMode

/-- The bits of those whom the letters in front of a change name, with their special bits. -/
def whose (b : UInt8) : Nat :=
  match Char.ofNat b.toNat with
  | 'u' => 0o4700
  | 'g' => 0o2070
  | 'o' => 0o1007
  | _ => 0o7777

/-- The bits that the letters behind a change name, in a file with some mode. -/
def bitsOf (mode : Nat) (isDirectory : Bool) (b : UInt8) : Option Nat :=
  let copied (shift : Nat) : Nat := (mode >>> shift) % 8 * 0o111
  match Char.ofNat b.toNat with
  | 'r' => some 0o444
  | 'w' => some 0o222
  | 'x' => some 0o111
  | 'X' => some (if isDirectory || mode &&& 0o111 ≠ 0 then 0o111 else 0)
  | 's' => some 0o6000
  | 't' => some 0o1000
  | 'u' => some (copied 6)
  | 'g' => some (copied 3)
  | 'o' => some (copied 0)
  | _ => none

/-- Make the changes for one group of letters; `fuel` bounds their number. -/
def changeFor (who : Nat) (isDirectory : Bool) : (fuel : Nat) → (mode : Nat) → Bytes → Option Nat
  | 0, _, _ => none
  | fuel + 1, mode, text =>
      match text with
      | [] => some mode
      | op :: rest =>
          let letters := rest.takeWhile fun b => !(Bytes.ofText "+-=").contains b
          let after := rest.drop letters.length
          match letters.mapM (bitsOf mode isDirectory) with
          | none => none
          | some parts =>
              let bits := parts.foldl (· ||| ·) 0 &&& who
              match Char.ofNat op.toNat with
              | '+' => changeFor who isDirectory fuel (mode ||| bits) after
              | '-' => changeFor who isDirectory fuel (mode &&& (0o7777 ^^^ bits)) after
              | '=' =>
                  changeFor who isDirectory fuel ((mode &&& (0o7777 ^^^ who)) ||| bits) after
              | _ => none

/-- The mode that a text makes of another one. Changes without letters in front leave out the bits
of the mask. -/
def change? (umask mode : Nat) (isDirectory : Bool) (text : Bytes) : Option Nat :=
  if !text.isEmpty && text.all fun b => 48 ≤ b && b ≤ 55 then
    let n := (Numeral.digits 8 text).1
    if n ≤ 0o7777 then some n else none
  else
    (Bytes.splitOn 44 text).foldlM (fun mode clause =>
      let who := clause.takeWhile (Bytes.ofText "ugoa").contains
      let rest := clause.drop who.length
      let reach := if who.isEmpty then 0o7777 ^^^ umask
        else (who.map whose).foldl (· ||| ·) 0
      if rest.isEmpty then none else changeFor reach isDirectory (rest.length + 1) mode rest) mode

example : change? 0o22 0o644 false (Bytes.ofText "u+x") = some 0o744 := by decide +kernel
example : change? 0o22 0o644 false (Bytes.ofText "go=,+x") = some 0o711 := by decide +kernel
example : change? 0o22 0o644 false (Bytes.ofText "a-r+z") = none := by decide +kernel

end JobShell.Machine.FileMode
