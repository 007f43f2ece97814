import JobShell.Signal

/-!
# Wait statuses

The status of a child, as the system packs it into 32 bits: the low seven bits hold the signal
that ended it, the next byte the exit code or the signal that stopped it. Three tests read these
bits, each without a look at the others.

Results:
1. `WaitStatus.Packed.isExit_iff`, `WaitStatus.Packed.isDeath_iff`, `WaitStatus.Packed.isStop_iff`:
   what each test says of the bits as numbers.
-/

namespace JobShell

/-- What a wait status says about the child. -/
inductive WaitStatus
  | exited (code : Nat)
  | killed (signal : Signal)
  | stopped (signal : Signal)
  | unknown
deriving DecidableEq, Repr

namespace WaitStatus

/-- The 32 bits of a packed status as a number. -/
def bits (raw : Int32) : Nat := raw.toUInt32.toNat

/-! ## The packed form -/

namespace Packed

/-- After an exit the seven low bits are 0. -/
def isExit (raw : Int32) : Bool := raw &&& 0x7f == 0

/-- Bits 8 to 15: the exit code or the stop signal. The shift keeps the sign. -/
def highByte (raw : Int32) : Int32 := (raw >>> 8) &&& 0xff

def exitCode? (raw : Int32) : Option Int32 := if isExit raw then some (highByte raw) else none

/-- After a death by a signal the seven low bits are neither 0 nor all ones: one more than they
are, taken as a signed byte, is at least 2. -/
def isDeath (raw : Int32) : Bool := 2 ≤ ((raw &&& 0x7f) + 1).toInt8

def endSignal? (raw : Int32) : Option Int32 := if isDeath raw then some (raw &&& 0x7f) else none

def isStop (raw : Int32) : Bool := raw &&& 0xff == 0x7f

def stopSignal? (raw : Int32) : Option Int32 := if isStop raw then some (highByte raw) else none

end Packed

/-- Read a packed status: the first of the three tests that holds decides. -/
def decode (raw : Int32) : WaitStatus :=
  match Packed.exitCode? raw with
  | some code => .exited code.toNatClampNeg
  | none =>
      match Packed.endSignal? raw with
      | some signal => .killed signal.toInt
      | none =>
          match Packed.stopSignal? raw with
          | some signal => .stopped signal.toInt
          | none => .unknown

def exitCode? : WaitStatus → Option Nat
  | .exited code => some code
  | _ => none

def endSignal? : WaitStatus → Option Signal
  | .killed signal => some signal
  | _ => none

def stopSignal? : WaitStatus → Option Signal
  | .stopped signal => some signal
  | _ => none

def isExit (s : WaitStatus) : Bool := s.exitCode?.isSome
def isDeath (s : WaitStatus) : Bool := s.endSignal?.isSome
def isStop (s : WaitStatus) : Bool := s.stopSignal?.isSome

/-- The status in one word for logs. -/
def describe : WaitStatus → String
  | .exited code => "ExitStatus(" ++ toString code ++ ")"
  | .killed signal => "TermSignal(" ++ signal.describe ++ ")"
  | .stopped signal => "StopSignal(" ++ signal.describe ++ ")"
  | .unknown => "Unknown"

/-! ## The bits as numbers -/

/-- Bits 8 to 15. -/
def codeByte (raw : Int32) : Nat := bits raw / 256 % 256

/-- Bits 0 to 6. -/
def endBits (raw : Int32) : Nat := bits raw % 128

def lowByte (raw : Int32) : Nat := bits raw % 256

theorem bits_lt (raw : Int32) : bits raw < UInt32.size := raw.toBitVec.isLt

theorem bits_and (a b : Int32) : bits (a &&& b) = bits a &&& bits b := by
  have words : bits (a &&& b) = (a &&& b).toBitVec.toNat := rfl
  rw [words, Int32.toBitVec_and, BitVec.toNat_and]
  rfl

theorem bits_and_low (raw : Int32) : bits (raw &&& 0x7f) = endBits raw := by
  rw [bits_and]
  exact Nat.and_two_pow_sub_one_eq_mod (bits raw) 7

theorem bits_and_byte (raw : Int32) : bits (raw &&& 0xff) = lowByte raw := by
  rw [bits_and]
  exact Nat.and_two_pow_sub_one_eq_mod (bits raw) 8

/-- The bits that the shift brings in from the sign are masked away. -/
theorem bits_highByte (raw : Int32) : bits (Packed.highByte raw) = codeByte raw := by
  have shifted : bits (raw >>> 8) = (raw.toBitVec.sshiftRight 8).toNat := rfl
  have word : raw.toBitVec.toNat = bits raw := rfl
  have fits := bits_lt raw
  rw [Packed.highByte, bits_and_byte, lowByte, shifted, BitVec.toNat_sshiftRight, codeByte, word]
  simp only [Nat.shiftRight_eq_div_pow]
  split <;> omega

theorem toInt_of_bits_lt {raw : Int32} (small : bits raw < 256) : raw.toInt = bits raw := by
  have word : raw.toBitVec.toNat = bits raw := rfl
  exact BitVec.toInt_eq_toNat_of_lt (by omega)

theorem toInt_and_low (raw : Int32) : (raw &&& 0x7f).toInt = endBits raw := by
  have small : bits (raw &&& 0x7f) < 256 := by
    rw [bits_and_low, endBits]
    omega
  rw [toInt_of_bits_lt small, bits_and_low]

theorem toInt_and_byte (raw : Int32) : (raw &&& 0xff).toInt = lowByte raw := by
  have small : bits (raw &&& 0xff) < 256 := by
    rw [bits_and_byte]
    exact Nat.mod_lt _ (by decide)
  rw [toInt_of_bits_lt small, bits_and_byte]

theorem toInt_highByte (raw : Int32) : (Packed.highByte raw).toInt = codeByte raw := by
  have small : bits (Packed.highByte raw) < 256 := by
    rw [bits_highByte]
    exact Nat.mod_lt _ (by decide)
  rw [toInt_of_bits_lt small, bits_highByte]

namespace Packed

theorem isExit_iff {raw : Int32} : isExit raw = true ↔ endBits raw = 0 := by
  rw [isExit, beq_iff_eq, ← Int32.toInt_inj, toInt_and_low]
  exact Int.natCast_eq_zero

theorem isDeath_iff {raw : Int32} :
    isDeath raw = true ↔ 1 ≤ endBits raw ∧ endBits raw ≤ 126 := by
  have small : endBits raw < 128 := Nat.mod_lt _ (by decide)
  have one : (1 : Int32).toInt = 1 := rfl
  have two : (2 : Int8).toInt = 2 := rfl
  rw [isDeath, decide_eq_true_iff, Int8.le_iff_toInt_le, Int32.toInt_toInt8, Int32.toInt_add,
    toInt_and_low, one, two]
  simp only [Int.bmod]
  omega

theorem isStop_iff {raw : Int32} : isStop raw = true ↔ lowByte raw = 127 := by
  rw [isStop, beq_iff_eq, ← Int32.toInt_inj, toInt_and_byte]
  exact Int.ofNat_inj

end Packed

end WaitStatus

/-- A state change of a background job worth telling the user about. -/
inductive JobEvent
  | done
  | exit (code : Nat)
  | killed
  | stopped
deriving DecidableEq, Repr

namespace JobEvent

def ofStatus? : WaitStatus → Option JobEvent
  | .exited code => some (if code = 0 then .done else .exit code)
  | .killed _ => some .killed
  | .stopped _ => some .stopped
  | .unknown => none

/-- Whether the job is gone for good. -/
def isFinal : JobEvent → Bool
  | .stopped => false
  | _ => true

def text : JobEvent → String
  | .done => "Done"
  | .exit code => "Exit " ++ toString code
  | .killed => "Killed"
  | .stopped => "Stopped"

end JobEvent

end JobShell
