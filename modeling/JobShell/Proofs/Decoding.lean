import JobShell.WaitStatus
import Mathlib.Algebra.Group.Nat.Defs

/-!
# Statuses are read in one way only

Three tests read a packed status, and each of them looks at its own bits. They never hold
together, and none of them holds exactly if the eight low bits are all ones. So it does not matter
in which order they are made: the event that the user is told of and the word that goes to the log
follow from the one test that holds.

Results:
1. `WaitStatus.Packed.outcome`: how the tests come out together.
2. `WaitStatus.describe_injective`: the word for the log tells all.
3. `statuses_decode`: what is read from a status, and that it is what was packed.
-/

namespace JobShell

/-! ## Texts -/

/-- A decimal stands for one number only. -/
theorem eq_of_repr {m n : Nat} (same : m.repr = n.repr) : m = n := by
  have read := congrArg (fun s : String => Nat.ofDigitChars 10 s.toList 0) same
  simpa only [Nat.toList_repr, Nat.ofDigitChars_toDigits (show 1 < 10 by decide) (Nat.le_refl 10)]
    using read

theorem repr_ne_negative (m n : Nat) : m.repr ≠ "-" ++ n.repr := by
  intro same
  have sign : '-' ∈ Nat.toDigits 10 m := by
    rw [← Nat.toList_repr, same, String.toList_append]
    exact List.mem_append_left _ (by decide)
  exact absurd (Nat.isDigit_of_mem_toDigits (by decide) (by decide) sign) (by decide)

theorem eq_of_repr_int {a b : Int} (same : a.repr = b.repr) : a = b := by
  rw [Int.repr_eq_if, Int.repr_eq_if] at same
  split at same <;> split at same
  · have := eq_of_repr same
    omega
  · exact absurd same (repr_ne_negative _ _)
  · exact absurd same.symm (repr_ne_negative _ _)
  · have := eq_of_repr (String.append_right_inj _ |>.1 same)
    omega

namespace Signal

/-- No text but that of an unnamed signal starts with a small letter. -/
theorem ne_of_mem_names {s t : Signal} {name : String} (known : (s, name) ∈ names) :
    name ≠ "unknown signal #" ++ toString t := by
  intro same
  have first : name.toList.head? = some 'u' := by
    rw [same, String.toList_append]
    rfl
  have capital : ∀ entry ∈ names, entry.2.toList.head? ≠ some 'u' := by decide
  exact capital _ known first

theorem mem_names_of_name? {s : Signal} {name : String} (known : s.name? = some name) :
    (s, name) ∈ names := by
  obtain ⟨front, back, split, _⟩ := List.lookup_eq_some_iff.1 known
  rw [split]
  exact List.mem_append_right _ List.mem_cons_self

theorem describe_injective {s t : Signal} (same : s.describe = t.describe) : s = t := by
  unfold describe at same
  cases known : s.name? with
  | none =>
      cases other : t.name? with
      | none =>
          rw [known, other, Option.getD_none, Option.getD_none, String.append_right_inj] at same
          exact eq_of_repr_int same
      | some name =>
          rw [known, other] at same
          exact absurd same.symm (ne_of_mem_names (mem_names_of_name? other))
  | some name =>
      cases other : t.name? with
      | none =>
          rw [known, other] at same
          exact absurd same (ne_of_mem_names (mem_names_of_name? known))
      | some other_ =>
          rw [known, other] at same
          have apart : ∀ a ∈ names, ∀ b ∈ names, a.2 = b.2 → a.1 = b.1 := by decide
          exact apart _ (mem_names_of_name? known) _ (mem_names_of_name? other) same

end Signal

namespace WaitStatus

theorem describe_injective {s t : WaitStatus} (same : s.describe = t.describe) : s = t := by
  cases s <;> cases t <;> simp [describe, ← String.toList_inj] at same ⊢
  case exited.exited code other => exact eq_of_repr (String.toList_inj.1 (by simpa using same))
  case killed.killed => exact Signal.describe_injective (String.toList_inj.1 same)
  case stopped.stopped => exact Signal.describe_injective (String.toList_inj.1 same)

namespace Packed

variable {raw : Int32}

theorem lowByte_eq_iff : lowByte raw = 255 ↔ raw &&& 0xff = 0xff := by
  rw [← Int32.toInt_inj, toInt_and_byte]
  exact Int.ofNat_inj.symm

/-- How the three tests come out together. -/
inductive Outcome (raw : Int32) : Prop
  | exit (code : Int32) : 0 ≤ code → code ≤ 255 → exitCode? raw = some code →
      endSignal? raw = none → stopSignal? raw = none → raw &&& 0xff ≠ 0xff → Outcome raw
  | death (signal : Int32) : 1 ≤ signal → signal ≤ 126 → exitCode? raw = none →
      endSignal? raw = some signal → stopSignal? raw = none → raw &&& 0xff ≠ 0xff → Outcome raw
  | stop (signal : Int32) : exitCode? raw = none → endSignal? raw = none →
      stopSignal? raw = some signal → raw &&& 0xff ≠ 0xff → Outcome raw
  | nothing : exitCode? raw = none → endSignal? raw = none → stopSignal? raw = none →
      raw &&& 0xff = 0xff → Outcome raw

theorem highByte_mem (raw : Int32) : 0 ≤ highByte raw ∧ highByte raw ≤ 255 := by
  have small : codeByte raw < 256 := Nat.mod_lt _ (by decide)
  have zero : (0 : Int32).toInt = 0 := rfl
  have last : (255 : Int32).toInt = 255 := rfl
  rw [Int32.le_iff_toInt_le, Int32.le_iff_toInt_le, toInt_highByte]
  omega

theorem and_low_mem (death : isDeath raw = true) : 1 ≤ raw &&& 0x7f ∧ raw &&& 0x7f ≤ 126 := by
  have one : (1 : Int32).toInt = 1 := rfl
  have last : (126 : Int32).toInt = 126 := rfl
  rw [isDeath_iff] at death
  rw [Int32.le_iff_toInt_le, Int32.le_iff_toInt_le, toInt_and_low]
  omega

theorem outcome (raw : Int32) : Outcome raw := by
  have low : endBits raw = lowByte raw % 128 := by
    rw [endBits, lowByte]
    omega
  have byte : lowByte raw < 256 := Nat.mod_lt _ (by decide)
  have exit := @isExit_iff raw
  have death := @isDeath_iff raw
  have stop := @isStop_iff raw
  have code := highByte_mem raw
  cases e : isExit raw <;> cases d : isDeath raw <;> cases s : isStop raw <;>
    simp only [e, d, s, Bool.false_eq_true, true_iff, false_iff] at exit death stop
  case true.false.false =>
    exact .exit _ code.1 code.2 (if_pos e) (by simp [endSignal?, d]) (by simp [stopSignal?, s])
      (mt lowByte_eq_iff.2 (by omega))
  case false.true.false =>
    obtain ⟨least, most⟩ := and_low_mem d
    exact .death _ least most (by simp [exitCode?, e]) (if_pos d) (by simp [stopSignal?, s])
      (mt lowByte_eq_iff.2 (by omega))
  case false.false.true =>
    exact .stop _ (by simp [exitCode?, e]) (by simp [endSignal?, d]) (if_pos s)
      (mt lowByte_eq_iff.2 (by omega))
  case false.false.false =>
    exact .nothing (by simp [exitCode?, e]) (by simp [endSignal?, d]) (by simp [stopSignal?, s])
      (lowByte_eq_iff.1 (by omega))
  all_goals omega

/-! What each test reads can be told from the decoded status. -/

theorem exitCode?_eq (raw : Int32) : exitCode? raw = (decode raw).exitCode?.map .ofNat := by
  cases outcome raw with
  | exit code least _ reads =>
      simp [decode, WaitStatus.exitCode?, reads, Int32.ofNat_toNatClampNeg code least]
  | death | stop | nothing => simp [decode, WaitStatus.exitCode?, *]

theorem endSignal?_eq (raw : Int32) : endSignal? raw = (decode raw).endSignal?.map .ofInt := by
  cases outcome raw <;> simp [decode, WaitStatus.endSignal?, *]

theorem stopSignal?_eq (raw : Int32) : stopSignal? raw = (decode raw).stopSignal?.map .ofInt := by
  cases outcome raw <;> simp [decode, WaitStatus.stopSignal?, *]

theorem decode_eq_iff {other : Int32} :
    decode raw = decode other ↔ exitCode? raw = exitCode? other ∧
      endSignal? raw = endSignal? other ∧ stopSignal? raw = stopSignal? other := by
  constructor
  · intro same
    rw [exitCode?_eq raw, endSignal?_eq raw, stopSignal?_eq raw, same]
    exact ⟨(exitCode?_eq other).symm, (endSignal?_eq other).symm, (stopSignal?_eq other).symm⟩
  · rintro ⟨code, death, stop⟩
    rw [decode, code, death, stop]
    rfl

end Packed

/-! ## The bits above the sixteenth -/

theorem bits_or (a b : Int32) : bits (a ||| b) = bits a ||| bits b := by
  have words : bits (a ||| b) = (a ||| b).toBitVec.toNat := rfl
  rw [words, Int32.toBitVec_or, BitVec.toNat_or]
  rfl

theorem bits_shiftLeft_byte (a : Int32) : bits (a <<< 8) = bits a * 256 % 2 ^ 32 := by
  have words : bits (a <<< 8) = (a.toBitVec <<< 8).toNat := rfl
  rw [words, BitVec.toNat_shiftLeft, Nat.shiftLeft_eq]
  rfl

theorem bits_high_or (high low : Int32) :
    bits (high <<< 16 ||| low) % 2 ^ 16 = bits low % 2 ^ 16 := by
  have words : bits (high <<< 16) = (high.toBitVec <<< 16).toNat := rfl
  have none : bits (high <<< 16) % 2 ^ 16 = 0 := by
    rw [words, BitVec.toNat_shiftLeft, Nat.shiftLeft_eq]
    omega
  rw [bits_or, Nat.or_mod_two_pow, none, Nat.zero_or]

variable {raw high code signal : Int32}

theorem bits_of_small (least : 0 ≤ code.toInt) (most : code.toInt ≤ 255) :
    code.toInt = bits code ∧ bits code < 256 := by
  have number : code.toInt = code.toBitVec.toInt := rfl
  have word : code.toBitVec.toNat = bits code := rfl
  have fits := bits_lt code
  rw [BitVec.toInt_eq_toNat_cond, word] at number
  split at number <;> omega

namespace Packed

theorem exitCode?_of_exited (least : 0 ≤ code) (most : code ≤ 255)
    (packed : raw = high <<< 16 ||| code <<< 8) : exitCode? raw = some code := by
  obtain ⟨number, small⟩ :=
    bits_of_small (Int32.le_iff_toInt_le.1 least) (Int32.le_iff_toInt_le.1 most)
  have low := bits_high_or high (code <<< 8)
  rw [← packed, bits_shiftLeft_byte] at low
  have exit : isExit raw = true := by
    rw [isExit_iff, endBits]
    omega
  have byte : highByte raw = code := by
    rw [← Int32.toInt_inj, toInt_highByte, number, codeByte]
    omega
  rw [exitCode?, if_pos exit, byte]

theorem stopSignal?_of_stopped (least : 0 ≤ signal) (most : signal ≤ 255)
    (packed : raw = high <<< 16 ||| (signal <<< 8 ||| 0x7f)) : stopSignal? raw = some signal := by
  obtain ⟨number, small⟩ :=
    bits_of_small (Int32.le_iff_toInt_le.1 least) (Int32.le_iff_toInt_le.1 most)
  have mark : bits 0x7f = 127 := rfl
  have sum : bits (signal <<< 8 ||| 0x7f) = 2 ^ 8 * bits signal + 127 := by
    rw [Nat.two_pow_add_eq_or_of_lt (by decide), bits_or, mark, bits_shiftLeft_byte,
      Nat.mod_eq_of_lt (by omega), Nat.mul_comm]
  have low := bits_high_or high (signal <<< 8 ||| 0x7f)
  rw [← packed, sum] at low
  have stop : isStop raw = true := by
    rw [isStop_iff, lowByte]
    omega
  have byte : highByte raw = signal := by
    rw [← Int32.toInt_inj, toInt_highByte, number, codeByte]
    omega
  rw [stopSignal?, if_pos stop, byte]

/-- The core mark is the eighth bit, and no bit of a signal. -/
theorem endSignal?_of_died {core : Bool} (least : 1 ≤ signal) (most : signal ≤ 126)
    (packed : raw = high <<< 16 ||| (signal ||| if core then 0x80 else 0)) :
    endSignal? raw = some signal := by
  have least : 1 ≤ signal.toInt := Int32.le_iff_toInt_le.1 least
  have most : signal.toInt ≤ 126 := Int32.le_iff_toInt_le.1 most
  obtain ⟨number, small⟩ := bits_of_small (by omega) (by omega : signal.toInt ≤ 255)
  have sum : bits (signal ||| if core then 0x80 else 0) % 128 = bits signal := by
    have mark : bits (if core then 0x80 else 0) % 2 ^ 7 = 0 := by
      cases core <;> rfl
    rw [bits_or, Nat.or_mod_two_pow (n := 7), mark, Nat.or_zero]
    omega
  have low := bits_high_or high (signal ||| if core then 0x80 else 0)
  rw [← packed] at low
  have ended : endBits raw = bits signal := by
    rw [endBits]
    omega
  have death : isDeath raw = true := by
    rw [isDeath_iff]
    omega
  have same : raw &&& 0x7f = signal := by
    rw [← Int32.toInt_inj, toInt_and_low, number, ended]
  rw [endSignal?, if_pos death, same]

/-- At most one of the three tests finds something, and it is in its bounds. -/
structure FindsOne (raw : Int32) : Prop where
  atMostOne : [exitCode? raw, endSignal? raw, stopSignal? raw].countP Option.isSome ≤ 1
  nothing_iff : exitCode? raw = none ∧ endSignal? raw = none ∧ stopSignal? raw = none ↔
    raw &&& 0xff = 0xff
  codes : ∀ code, exitCode? raw = some code → 0 ≤ code ∧ code ≤ 255
  signals : ∀ signal, endSignal? raw = some signal → 1 ≤ signal ∧ signal ≤ 126

/-- The event that the user is told of follows from what is found. -/
structure TellsEvent (raw : Int32) : Prop where
  nothing_iff : JobEvent.ofStatus? (decode raw) = none ↔ raw &&& 0xff = 0xff
  done_iff : JobEvent.ofStatus? (decode raw) = some .done ↔ exitCode? raw = some 0
  exit_iff : ∀ n : Nat, JobEvent.ofStatus? (decode raw) = some (.exit n) ↔
    n ≠ 0 ∧ (exitCode? raw).map Int32.toInt = some (n : Int)
  killed_iff : JobEvent.ofStatus? (decode raw) = some .killed ↔ (endSignal? raw).isSome = true
  stopped_iff : JobEvent.ofStatus? (decode raw) = some .stopped ↔ (stopSignal? raw).isSome = true
  /-- An event is final if the child is gone. -/
  final_iff : ∀ event, JobEvent.ofStatus? (decode raw) = some event →
    (event.isFinal = true ↔ (exitCode? raw).isSome = true ∨ (endSignal? raw).isSome = true)

/-- The word for the log names what is found, with its number, and tells statuses apart whenever a
test does. -/
structure TellsWord (raw : Int32) : Prop where
  exited : ∀ code, exitCode? raw = some code →
    (decode raw).describe = "ExitStatus(" ++ toString code.toInt ++ ")"
  killed : ∀ signal, endSignal? raw = some signal →
    (decode raw).describe = "TermSignal(" ++ Signal.describe signal.toInt ++ ")"
  stopped : ∀ signal, stopSignal? raw = some signal →
    (decode raw).describe = "StopSignal(" ++ Signal.describe signal.toInt ++ ")"
  nothing : raw &&& 0xff = 0xff → (decode raw).describe = "Unknown"
  same_iff : ∀ other, (decode raw).describe = (decode other).describe ↔
    exitCode? raw = exitCode? other ∧ endSignal? raw = endSignal? other ∧
      stopSignal? raw = stopSignal? other

/-- How the system packs a status, with anything at all above the sixteenth bit, and what is read
from it then. -/
structure Undone (raw : Int32) : Prop where
  exited : ∀ high code : Int32, 0 ≤ code → code ≤ 255 → raw = high <<< 16 ||| code <<< 8 →
    exitCode? raw = some code
  died : ∀ (high signal : Int32) (core : Bool), 1 ≤ signal → signal ≤ 126 →
    raw = high <<< 16 ||| (signal ||| if core then 0x80 else 0) → endSignal? raw = some signal
  stopped : ∀ high signal : Int32, 0 ≤ signal → signal ≤ 255 →
    raw = high <<< 16 ||| (signal <<< 8 ||| 0x7f) → stopSignal? raw = some signal

theorem findsOne (raw : Int32) : FindsOne raw := by
  cases outcome raw with
  | exit code least most reads _ _ mark =>
      refine ⟨by simp [*], by simp [*], ?_, by simp [*]⟩
      simpa [reads] using ⟨least, most⟩
  | death signal least most _ reads _ mark =>
      refine ⟨by simp [*], by simp [*], by simp [*], ?_⟩
      simpa [reads] using ⟨least, most⟩
  | stop | nothing => exact ⟨by simp [*], by simp [*], by simp [*], by simp [*]⟩

theorem toNat_of_exitCode? {code : Int32} (reads : exitCode? raw = some code) :
    (code.toNatClampNeg : Int) = code.toInt :=
  Int.toNat_of_nonneg (Int32.le_iff_toInt_le.1 ((findsOne raw).codes code reads).1)

theorem tellsEvent (raw : Int32) : TellsEvent raw := by
  cases outcome raw with
  | exit code _ _ reads _ _ mark =>
      have number := toNat_of_exitCode? reads
      have zero : code.toNatClampNeg = 0 ↔ code = 0 := by
        rw [← Int32.toInt_inj, ← number]
        exact Int.natCast_eq_zero.symm
      have event : JobEvent.ofStatus? (decode raw) =
          some (if code = 0 then .done else .exit code.toNatClampNeg) := by
        simp only [decode, reads, JobEvent.ofStatus?, zero]
      have exits : ∀ n : Nat, JobEvent.ofStatus? (decode raw) = some (.exit n) ↔
          n ≠ 0 ∧ (exitCode? raw).map Int32.toInt = some (n : Int) := by
        intro n
        rw [event, reads, Option.map_some, ← number]
        by_cases none : code = 0
        · have := zero.2 none
          rw [if_pos none]
          simp only [Option.some.injEq, Int.natCast_inj, reduceCtorEq, false_iff]
          omega
        · have := mt zero.1 none
          rw [if_neg none]
          simp only [Option.some.injEq, JobEvent.exit.injEq]
          omega
      by_cases none : code = 0 <;>
        exact ⟨by simp [*], by simp [*], exits, by simp [*], by simp [*],
          by simp [*, JobEvent.isFinal]⟩
  | death | stop | nothing =>
      constructor <;> simp [*, decode, JobEvent.ofStatus?, JobEvent.isFinal]

theorem tellsWord (raw : Int32) : TellsWord raw where
  exited code reads := by
    rw [← toNat_of_exitCode? reads]
    simp only [decode, reads, describe]
    rfl
  killed signal reads := by
    cases outcome raw <;> simp_all [decode, describe]
  stopped signal reads := by
    cases outcome raw <;> simp_all [decode, describe]
  nothing mark := by
    cases outcome raw <;> simp_all [decode, describe]
  same_iff other :=
    ⟨fun same => decode_eq_iff.1 (describe_injective same),
      fun same => congrArg describe (decode_eq_iff.2 same)⟩

end Packed

end WaitStatus

open WaitStatus.Packed in
/-- Whatever its 32 bits are, a status is read in one way, and as it was packed. -/
theorem statuses_decode (raw : Int32) :
    FindsOne raw ∧ TellsEvent raw ∧ TellsWord raw ∧ Undone raw :=
  ⟨findsOne raw, tellsEvent raw, tellsWord raw, fun _ _ => exitCode?_of_exited,
    fun _ _ _ => endSignal?_of_died, fun _ _ => stopSignal?_of_stopped⟩

end JobShell
