import JobShell.Bytes

/-!
# Labels for job numbers

Numbers of processes differ from run to run. In a transcript each number in brackets is replaced
by a label that tells only which number it was, in the order of their first appearance.
-/

namespace JobShell.Scenario

/-- The numbers that have labels, in the order of their first appearance. -/
abbrev Labels := List Nat

namespace Labels

def intern (labels : Labels) (n : Nat) : Labels :=
  if labels.contains n then labels else labels ++ [n]

/-- The label of a number. -/
def label (labels : Labels) (n : Nat) : Bytes := Bytes.ofText ("J" ++ toString (labels.idxOf n + 1))

/-- Greater numbers are left alone. -/
def greatest : Nat := 2147483647

def openBracket : UInt8 := 91
def closeBracket : UInt8 := 93

/-- A number behind an opening bracket, closed by a bracket, and what follows it. -/
def bracketed? (bs : Bytes) : Option (Nat × Bytes) :=
  let digits := bs.takeWhile Bytes.isDigit
  match Bytes.decimal? digits, bs.drop digits.length with
  | some n, 93 :: rest => if n ≤ greatest then some (n, rest) else none
  | _, _ => none

theorem bracketed?_length {bs rest : Bytes} {n : Nat} (found : bracketed? bs = some (n, rest)) :
    rest.length < bs.length := by
  unfold bracketed? at found
  simp only at found
  split at found
  · next n' rest' _ dropped =>
      split at found
      · cases found
        have := congrArg List.length dropped
        simp only [List.length_drop, List.length_cons] at this
        omega
      · cases found
  · cases found

/-- Replace the numbers in brackets by labels. -/
def relabel (labels : Labels) : Bytes → Bytes × Labels
  | [] => ([], labels)
  | b :: rest =>
      if b = openBracket then
        match _found : bracketed? rest with
        | some (n, after) =>
            let labels := labels.intern n
            let (text, final) := relabel labels after
            (openBracket :: labels.label n ++ closeBracket :: text, final)
        | none =>
            let (text, labels) := relabel labels rest
            (b :: text, labels)
      else
        let (text, labels) := relabel labels rest
        (b :: text, labels)
termination_by bs => bs.length
decreasing_by
  · have := bracketed?_length ‹_›
    simp only [List.length_cons]
    omega
  · simp
  · simp

end Labels

end JobShell.Scenario
