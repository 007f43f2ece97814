import JobShell.Proofs.Arguments
import Mathlib.Data.List.Induction

/-!
# Lengths are read exactly

A length is read digit by digit in a word of 64 bits, and the first digit that the word has no room
for ends the reading. That refuses nothing that would fit in the end: a number does not get
smaller when a digit is put behind it, so what is too large at some digit stays too large. Hence a
text is accepted if and only if the number that it writes is a length, however many digits there
are and however many of them are zeros in front, and the limit is that very number.

Results:
1. `Length.push?_eq_some_iff`: one digit is read without wrap-around.
2. `Length.ofDigits?_eq_some_iff`: so are many.
3. `Length.ofText?_eq_some_iff`, `Length.ofText?_eq_none_iff`: what is accepted, what it is read
   as, and what is refused.
4. `lengths_read_exactly`: the same for a text given to an option in any spelling.
-/

namespace JobShell

namespace Length

/-- `Digits s n`: the text `s` is decimal digits, one or more, and their value is `n`. -/
structure Digits (s : String) (n : Nat) : Prop where
  filled : s ≠ ""
  digits : ∀ c ∈ s.toList, c.isDigit = true
  value : n = Nat.ofDigitChars 10 s.toList 0

/-- `Writes s n`: the text `s` writes the number `n`, with or without a plus sign. -/
inductive Writes : String → Nat → Prop
  | plain {s : String} {n : Nat} : Digits s n → Writes s n
  | signed {s : String} {n : Nat} : Digits s n → Writes ("+" ++ s) n

/-- The numbers that a length may be. -/
def Fits (n : Nat) : Prop := 0 < n ∧ n < 2 ^ 64

instance (n : Nat) : Decidable (Fits n) := inferInstanceAs (Decidable (0 < n ∧ n < 2 ^ 64))

variable {c : Char} {n m : UInt64} {s : String}

theorem toNat_digit (digit : c.isDigit = true) :
    (UInt64.ofNat (c.toNat - 48)).toNat = c.toNat - 48 := by
  have bound : c.toNat ≤ 57 := (Char.isDigit_iff_toNat.1 digit).2
  exact UInt64.toNat_ofNat_of_lt' (show _ < 2 ^ 64 by omega)

theorem digitValue?_eq_some_iff {d : UInt64} :
    digitValue? c = some d ↔ c.isDigit = true ∧ d.toNat = c.toNat - 48 := by
  have range : ('0' ≤ c ∧ c ≤ '9') ↔ c.isDigit = true := by simp [Char.isDigit, Char.le_def]
  simp only [digitValue?, range, Option.ite_none_right_eq_some, Option.some.injEq]
  refine and_congr_right fun digit => ?_
  rw [← UInt64.toNat_inj, toNat_digit digit, eq_comm]

/-- The bound on the number in front of a digit is exact. -/
theorem le_room_iff {d : UInt64} :
    n ≤ (UInt64.ofNat greatest - d) / 10 ↔ 10 * n.toNat + d.toNat < 2 ^ 64 := by
  have top : (UInt64.ofNat greatest).toNat = 2 ^ 64 - 1 := by decide
  have word : d.toNat < 2 ^ 64 := d.toNat_lt
  have below : d ≤ UInt64.ofNat greatest := by
    rw [UInt64.le_iff_toNat_le, top]
    omega
  rw [UInt64.le_iff_toNat_le, UInt64.toNat_div, UInt64.toNat_sub_of_le _ _ below, top]
  show n.toNat ≤ (2 ^ 64 - 1 - d.toNat) / 10 ↔ _
  omega

/-- Within the bound nothing wraps around. -/
theorem toNat_pushed {d : UInt64} (fits : 10 * n.toNat + d.toNat < 2 ^ 64) :
    (10 * n + d).toNat = 10 * n.toNat + d.toNat := by
  rw [UInt64.toNat_add, UInt64.toNat_mul]
  show (10 * n.toNat % 2 ^ 64 + d.toNat) % 2 ^ 64 = _
  omega

/-- A character is read if it is a digit and a word holds the number with that digit behind it.
The equation says the latter too, since `m` is a word. -/
theorem push?_eq_some_iff :
    push? n c = some m ↔ c.isDigit = true ∧ m.toNat = 10 * n.toNat + (c.toNat - 48) := by
  rw [push?, Option.bind_eq_some_iff]
  constructor
  · rintro ⟨d, isDigit, pushed⟩
    obtain ⟨digit, value⟩ := digitValue?_eq_some_iff.1 isDigit
    obtain ⟨room, same⟩ := Option.ite_none_right_eq_some.1 pushed
    refine ⟨digit, ?_⟩
    rw [← Option.some.inj same, toNat_pushed (le_room_iff.1 room), value]
  · rintro ⟨digit, value⟩
    have word : m.toNat < 2 ^ 64 := m.toNat_lt
    rw [value, ← toNat_digit digit] at word
    refine ⟨_, digitValue?_eq_some_iff.2 ⟨digit, toNat_digit digit⟩, ?_⟩
    rw [if_pos (le_room_iff.2 word), Option.some.injEq, ← UInt64.toNat_inj, toNat_pushed word,
      toNat_digit digit, value]

/-- Digits are read as the number that they write, and refused if it takes more than 64 bits. -/
theorem ofDigits?_eq_some_iff {cs : List Char} :
    ofDigits? cs = some m ↔
      (∀ c ∈ cs, c.isDigit = true) ∧ m.toNat = Nat.ofDigitChars 10 cs 0 := by
  induction cs using List.reverseRecOn generalizing m with
  | nil =>
      have start : ofDigits? [] = some 0 := rfl
      rw [start, Option.some.injEq, ← UInt64.toNat_inj, eq_comm]
      simp
  | append_singleton cs c ih =>
      have step : ofDigits? (cs ++ [c]) = (ofDigits? cs).bind (push? · c) := by
        simp [ofDigits?, List.foldlM_append]
      have value : Nat.ofDigitChars 10 (cs ++ [c]) 0 =
          10 * Nat.ofDigitChars 10 cs 0 + (c.toNat - 48) := by
        rw [Nat.ofDigitChars_append, Nat.ofDigitChars_cons, Nat.ofDigitChars_nil]
        rfl
      rw [step, value, Option.bind_eq_some_iff]
      simp only [ih, push?_eq_some_iff, List.forall_mem_append, List.forall_mem_singleton]
      constructor
      · rintro ⟨n, ⟨digits, front⟩, digit, whole⟩
        exact ⟨⟨digits, digit⟩, front ▸ whole⟩
      · rintro ⟨⟨digits, digit⟩, whole⟩
        -- The front is no larger than the whole, so a word holds it too.
        have word : m.toNat < 2 ^ 64 := m.toNat_lt
        have front : (UInt64.ofNat (Nat.ofDigitChars 10 cs 0)).toNat = Nat.ofDigitChars 10 cs 0 :=
          UInt64.toNat_ofNat_of_lt' (show _ < 2 ^ 64 by omega)
        exact ⟨_, ⟨digits, front⟩, digit, by rw [front, whole]⟩

theorem unsigned?_eq_some_iff : unsigned? s.toList = some m ↔ Digits s m.toNat := by
  have filled : s ≠ "" ↔ s.toList ≠ [] := not_congr String.toList_eq_nil_iff.symm
  cases spelled : s.toList with
  | nil => exact ⟨nofun, fun written => absurd spelled (filled.1 written.filled)⟩
  | cons c cs =>
      rw [unsigned?, ← spelled, ofDigits?_eq_some_iff]
      · refine ⟨fun ⟨digits, value⟩ => ⟨?_, digits, value⟩, fun w => ⟨w.digits, w.value⟩⟩
        rw [filled, spelled]
        exact List.cons_ne_nil c cs
      · exact List.cons_ne_nil c cs

/-- Behind the sign, if there is one, stand the digits. -/
theorem exists_digits (s : String) :
    ∃ t : String, (∀ n, Writes s n ↔ Digits t n) ∧
      ofText? s = (unsigned? t.toList).bind fun n => if 0 < n then some n.toNat else none := by
  by_cases signed : ∃ rest, s.toList = '+' :: rest
  · obtain ⟨rest, spelled⟩ := signed
    obtain rfl : s = "+" ++ String.ofList rest := String.toList_injective (by simp [spelled])
    refine ⟨String.ofList rest, fun n => ⟨fun written => ?_, .signed⟩, ?_⟩
    · generalize same : "+" ++ String.ofList rest = s at written spelled
      cases written with
      | plain digits => exact absurd (digits.digits '+' (by simp [spelled])) (by decide)
      | signed digits =>
          obtain rfl := (String.append_right_inj _).1 same
          exact digits
    · simp [ofText?]
  · refine ⟨s, fun n => ⟨fun written => ?_, .plain⟩, ?_⟩
    · cases written with
      | plain digits => exact digits
      | @signed t => exact absurd ⟨t.toList, by simp⟩ signed
    · rw [ofText?]
      split
      · next rest spelled => exact absurd ⟨rest, spelled⟩ signed
      · rfl

/-- A text writes one number at most. -/
theorem Writes.unique {a b : Nat} (first : Writes s a) (second : Writes s b) : a = b := by
  obtain ⟨t, digits, _⟩ := exists_digits s
  rw [((digits a).1 first).value, ((digits b).1 second).value]

/-- Nothing else may stand in a number, neither another sign nor a blank nor a letter. -/
theorem Writes.digit_or_sign {n : Nat} (written : Writes s n) :
    ∀ c ∈ s.toList, c.isDigit = true ∨ c = '+' := by
  intro c mem
  cases written with
  | plain digits => exact .inl (digits.digits c mem)
  | signed digits =>
      rw [String.toList_append, List.mem_append] at mem
      rcases mem with sign | digit
      · exact .inr (List.mem_singleton.1 sign)
      · exact .inl (digits.digits c digit)

/-- A text is read as the number that it writes, if that is a length. -/
theorem ofText?_eq_some_iff {n : Nat} : ofText? s = some n ↔ Writes s n ∧ Fits n := by
  obtain ⟨t, digits, read⟩ := exists_digits s
  rw [read, digits, Option.bind_eq_some_iff]
  simp only [unsigned?_eq_some_iff]
  constructor
  · rintro ⟨m, written, accepted⟩
    obtain ⟨positive, same⟩ := Option.ite_none_right_eq_some.1 accepted
    obtain rfl := Option.some.inj same
    exact ⟨written, UInt64.lt_iff_toNat_lt.1 positive, m.toNat_lt⟩
  · rintro ⟨written, positive, word⟩
    have same : (UInt64.ofNat n).toNat = n := UInt64.toNat_ofNat_of_lt' word
    refine ⟨UInt64.ofNat n, same.symm ▸ written, ?_⟩
    rw [if_pos (UInt64.lt_iff_toNat_lt.2 (same.symm ▸ positive)), same]

/-- The texts that are refused. -/
theorem ofText?_eq_none_iff :
    ofText? s = none ↔ (∀ n, ¬ Writes s n) ∨ ∃ n, Writes s n ∧ ¬ Fits n := by
  constructor
  · intro unread
    by_cases written : ∃ n, Writes s n
    · obtain ⟨n, written⟩ := written
      refine .inr ⟨n, written, fun fits => ?_⟩
      cases unread.symm.trans (ofText?_eq_some_iff.2 ⟨written, fits⟩)
    · exact .inl (not_exists.1 written)
  · refine fun other => Option.eq_none_iff_forall_ne_some.2 fun n read => ?_
    obtain ⟨writes, fits⟩ := ofText?_eq_some_iff.1 read
    rcases other with unwritten | ⟨m, written, outside⟩
    · exact unwritten n writes
    · exact outside (written.unique writes ▸ fits)

/-- What a number is printed as writes that number. -/
theorem writes_toString (n : Nat) : Writes (toString n) n := by
  rw [Nat.toString_eq_repr]
  refine .plain ⟨Nat.repr_ne_empty, fun c mem => ?_, ?_⟩
  · rw [Nat.toList_repr] at mem
    exact Nat.isDigit_of_mem_toDigits (by decide) (by decide) mem
  · rw [Nat.toList_repr, Nat.ofDigitChars_toDigits (by decide) (by decide)]

end Length

open Options Length

/-- `l.Given s fs words`: the arguments `words` ask for the flags `fs` and give the text `s` to the
option `l`. -/
inductive LengthOption.Given (l : LengthOption) (s : String) : List Flag → List String → Prop
  | assigned : Given l s [] [l.assigned s]
  | behindName : Given l s [] ["--" ++ l.longName, s]
  | behindLetter (fs : List Flag) :
      Given l s fs ["-" ++ Flag.group fs ++ l.letter.toString, s]
  | joined (fs : List Flag) :
      s ≠ "" → Given l s fs ["-" ++ Flag.group fs ++ l.letter.toString ++ s]

variable {l : LengthOption} {s : String} {fs : List Flag} {words : List String}

/-- In all spellings it is the same: the flags are set, then the length is read. -/
theorem LengthOption.Given.parseFrom_append (given : l.Given s fs words) (o : Options)
    (rest : List String) :
    parseFrom o (words ++ rest) =
      (o.apply (fs.map .flag)).setLength l s >>= (parseFrom · rest) := by
  cases given with
  | assigned => exact parseFrom_assigned o l s rest
  | behindName => exact parseFrom_behind (.longName l) o s rest
  | behindLetter => exact parseFrom_behind (.groupName fs l) o s rest
  | joined _ filled =>
      rw [List.singleton_append, parseFrom, readAll, List.foldlM_cons, String.append_assoc,
        read_letter, if_neg filled]
      cases (o.apply (fs.map .flag)).setLength l s <;> rfl

/-- How the text `s` is read as the length `l` on top of the options `o`, where `read rest` is what
the arguments come to if `rest` follows the text. -/
structure ReadsExactly (l : LengthOption) (s : String) (o : Options)
    (read : List String → Except OptionError Options) : Prop where
  /-- The text is accepted if it writes a length and not otherwise, and the limit is what it
  writes. -/
  accepted_iff : ∀ after,
    read [] = .ok after ↔ ∃ n, Writes s n ∧ Fits n ∧ after = o.set (.length l n)
  /-- Whatever follows is read on top of that limit. -/
  resumed : ∀ n rest, Writes s n → Fits n → read rest = parseFrom (o.set (.length l n)) rest
  /-- A text that writes no number, or a number that is no length, leaves no options whatever
  follows, and the message quotes it as it is. -/
  refused : ((∀ n, ¬ Writes s n) ∨ ∃ n, Writes s n ∧ ¬ Fits n) → ∀ rest,
    (read rest).mapError OptionError.message =
      .error ("invalid length '" ++ s ++ "' for '" ++ l.letter.toString ++ "'")
  /-- A length that is printed is read back as it was. -/
  printed : ∀ n rest, s = toString n → Fits n →
    read rest = parseFrom (o.set (.length l n)) rest

/-- Behind arguments that are accepted, a text that is given to a length in any spelling is read as
the number that it writes, from 1 to the last one of 64 bits, or refused. -/
theorem lengths_read_exactly (given : l.Given s fs words) {p : List String} {o : Options}
    (accepted : parse p = .ok o) :
    ReadsExactly l s (o.apply (fs.map .flag)) fun rest => parse (p ++ words ++ rest) := by
  have reads (rest : List String) : parse (p ++ words ++ rest) =
      (o.apply (fs.map .flag)).setLength l s >>= (parseFrom · rest) := by
    rw [List.append_assoc, parse_append_of_ok accepted, given.parseFrom_append]
  have resumed (n : Nat) (rest : List String) (writes : Writes s n) (fits : Fits n) :
      parse (p ++ words ++ rest) =
        parseFrom ((o.apply (fs.map .flag)).set (.length l n)) rest := by
    rw [reads, setLength_eq_ok (ofText?_eq_some_iff.2 ⟨writes, fits⟩)]
    rfl
  have refused (unread : ofText? s = none) (rest : List String) :
      parse (p ++ words ++ rest) = .error (.invalidLength s l) := by
    rw [reads, setLength_eq_error unread]
    rfl
  refine ⟨fun after => ⟨fun read => ?_, ?_⟩, resumed, fun other rest => ?_, ?_⟩
  · cases known : ofText? s with
    | none => cases (refused known []).symm.trans read
    | some n =>
        obtain ⟨writes, fits⟩ := ofText?_eq_some_iff.1 known
        exact ⟨n, writes, fits, Except.ok.inj (read.symm.trans (resumed n [] writes fits))⟩
  · rintro ⟨n, writes, fits, rfl⟩
    exact resumed n [] writes fits
  · show (parse (p ++ words ++ rest)).mapError _ = _
    rw [refused (ofText?_eq_none_iff.2 other)]
    rfl
  · rintro n rest rfl fits
    exact resumed n rest (writes_toString n) fits

/-- Zeros in front and a sign do no harm to the greatest length, the number after it is refused in
its own words, and so is a text with a minus sign. -/
theorem lengths_read_exactly_around_greatest :
    parse ["-h", "-l5"] = .ok { action := .help, limits := { line := 5 } } ∧
      LengthOption.token.Given "+00000000000000000000000018446744073709551615" [.version]
        ["-Vt+00000000000000000000000018446744073709551615"] ∧
      parse ["-h", "-l5", "-Vt+00000000000000000000000018446744073709551615"] =
        .ok { action := .version, limits := { line := 5, token := 18446744073709551615 } } ∧
      LengthOption.line.Given "18446744073709551616" []
        ["--max-line-length=18446744073709551616"] ∧
      (parse ["-h", "-l5", "--max-line-length=18446744073709551616", "-V"]).mapError
        OptionError.message = .error "invalid length '18446744073709551616' for 'l'" ∧
      LengthOption.line.Given "-5" [] ["-l", "-5"] ∧
      (parse ["-h", "-l5", "-l", "-5", "-V"]).mapError OptionError.message =
        .error "invalid length '-5' for 'l'" := by
  have accepted : parse ["-h", "-l5"] = .ok { action := .help, limits := { line := 5 } } := by
    decide
  have padded : LengthOption.token.Given "+00000000000000000000000018446744073709551615" [.version]
      ["-Vt+00000000000000000000000018446744073709551615"] := .joined [.version] (by decide)
  have beyond : LengthOption.line.Given "18446744073709551616" []
      ["--max-line-length=18446744073709551616"] := .assigned
  have negative : LengthOption.line.Given "-5" [] ["-l", "-5"] := .behindLetter []
  refine ⟨accepted, padded, ?_, beyond, ?_, negative, ?_⟩
  · have greatest : Writes ("+" ++ "00000000000000000000000018446744073709551615")
        18446744073709551615 := .signed ⟨by decide, List.all_eq_true.1 (by decide), by decide⟩
    exact ((lengths_read_exactly padded accepted).accepted_iff _).2
      ⟨_, greatest, by decide, rfl⟩
  · have next : Writes "18446744073709551616" 18446744073709551616 :=
      .plain ⟨by decide, List.all_eq_true.1 (by decide), by decide⟩
    exact (lengths_read_exactly beyond accepted).refused (.inr ⟨_, next, by decide⟩) ["-V"]
  · have unwritten : ∀ n, ¬ Writes "-5" n := by
      intro n written
      rcases written.digit_or_sign '-' (by decide) with digit | sign
      · exact absurd digit (by decide)
      · exact absurd sign (by decide)
    exact (lengths_read_exactly negative accepted).refused (.inl unwritten) ["-V"]

end JobShell
