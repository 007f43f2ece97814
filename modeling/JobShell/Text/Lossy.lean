import JobShell.Bytes

/-!
# Bytes as text

Names of programs and files are arbitrary bytes, and messages are texts. `Bytes.lossy` reads
UTF-8 and puts one U+FFFD in place of every maximal ill-formed part: a lead byte together with
the continuation bytes that may still follow it.

Results:
1. `Bytes.resume_length_le`: reading a character never lengthens what is left, so the decoder
   ends.
-/

namespace JobShell.Bytes

/-- How many continuation bytes follow a lead byte, and the least and the greatest value that the
first of them may take. Overlong forms, surrogates and code points above U+10FFFF are excluded
by these bounds. -/
def lead? (b : UInt8) : Option (Nat × UInt8 × UInt8) :=
  if b < 0xC2 then none
  else if b ≤ 0xDF then some (1, 0x80, 0xBF)
  else if b = 0xE0 then some (2, 0xA0, 0xBF)
  else if b = 0xED then some (2, 0x80, 0x9F)
  else if b ≤ 0xEF then some (2, 0x80, 0xBF)
  else if b = 0xF0 then some (3, 0x90, 0xBF)
  else if b ≤ 0xF3 then some (3, 0x80, 0xBF)
  else if b = 0xF4 then some (3, 0x80, 0x8F)
  else none

/-- The bits of the code point that a lead byte carries. -/
def leadBits (more : Nat) (b : UInt8) : Nat :=
  b.toNat % (1 <<< (6 - more))

/-- Read the `more` continuation bytes that are missing, the first of them between `lo` and
`hi`. The first byte that does not fit is left for the next character. -/
def resume : (more : Nat) → (lo hi : UInt8) → (code : Nat) → Bytes → Char × Bytes
  | 0, _, _, code, rest => (Char.ofNat code, rest)
  | _ + 1, _, _, _, [] => ('\uFFFD', [])
  | more + 1, lo, hi, code, b :: rest =>
      if lo ≤ b ∧ b ≤ hi then resume more 0x80 0xBF (code * 64 + b.toNat % 64) rest
      else ('\uFFFD', b :: rest)

theorem resume_length_le (more : Nat) (lo hi : UInt8) (code : Nat) (bs : Bytes) :
    (resume more lo hi code bs).2.length ≤ bs.length := by
  induction bs generalizing more lo hi code with
  | nil => cases more <;> simp [resume]
  | cons b rest ih =>
      cases more with
      | zero => simp [resume]
      | succ more =>
          unfold resume
          split
          · exact Nat.le_succ_of_le (ih ..)
          · simp

/-- The characters of a byte string, U+FFFD in place of every maximal ill-formed part. -/
def lossyChars : Bytes → List Char
  | [] => []
  | b :: rest =>
      if b < 0x80 then Char.ofNat b.toNat :: lossyChars rest
      else match lead? b with
        | none => '\uFFFD' :: lossyChars rest
        | some (more, lo, hi) =>
            (resume more lo hi (leadBits more b) rest).1 ::
              lossyChars (resume more lo hi (leadBits more b) rest).2
termination_by bs => bs.length
decreasing_by
  all_goals simp only [List.length_cons]
  · omega
  · omega
  · exact Nat.lt_succ_of_le (resume_length_le ..)

/-- The text of a byte string for messages. -/
def lossy (bs : Bytes) : String := String.ofList (lossyChars bs)

/-! ## Cut forms -/

/-- A cut three-byte form is one part, `ff` and `fe` are one each, and every byte of a surrogate
is a part of its own. -/
example : lossyChars [0xE2, 0x82] = ['\uFFFD'] := by cbv
example : lossyChars [0xFF, 0xFE] = ['\uFFFD', '\uFFFD'] := by cbv
example : lossyChars [0xED, 0xA0, 0x80] = ['\uFFFD', '\uFFFD', '\uFFFD'] := by cbv
example : lossyChars [0xF0, 0x9F, 0x98, 0x80, 0x41] = ['😀', 'A'] := by cbv

end JobShell.Bytes
