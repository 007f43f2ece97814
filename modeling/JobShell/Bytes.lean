/-!
# Byte strings

What a shell reads and writes is bytes; texts of its own are strings. This module holds the
passage from one to the other and the few splits that the rest of the library needs.

Results:
1. `Bytes.ofText_append`: the bytes of a concatenation are the concatenation of the bytes.
2. `Bytes.splitOn_intercalate`: cutting at a separator loses nothing.
-/

namespace JobShell

/-- A byte string. -/
abbrev Bytes := List UInt8

namespace Bytes

/-- The UTF-8 encoding of a text. -/
def ofText (s : String) : Bytes := s.toUTF8.data.toList

theorem ofText_append (s t : String) : ofText (s ++ t) = ofText s ++ ofText t := by
  simp [ofText]

def newline : UInt8 := 10
def space : UInt8 := 32
def tab : UInt8 := 9
def slash : UInt8 := 47

/-- A blank separates the words of a command line. -/
def isBlank (b : UInt8) : Bool := b == space || b == tab

def isDigit (b : UInt8) : Bool := 48 ≤ b && b ≤ 57

/-- The parts between the occurrences of `sep`, empty ones included. -/
def splitOn (sep : UInt8) : Bytes → List Bytes
  | [] => [[]]
  | b :: rest =>
      if b = sep then [] :: splitOn sep rest
      else match splitOn sep rest with
        | [] => [[b]]
        | part :: parts => (b :: part) :: parts

/-- The value of a non-empty run of decimal digits. -/
def decimal? (bs : Bytes) : Option Nat :=
  if bs.isEmpty || !bs.all isDigit then none
  else some (bs.foldl (fun n b => 10 * n + (b.toNat - 48)) 0)

/-- Whether one byte string comes before another, or equals it, byte by byte. -/
def le : Bytes → Bytes → Bool
  | [], _ => true
  | _ :: _, [] => false
  | a :: as, b :: bs => a < b || (a == b && le as bs)

def ofNat (n : Nat) : Bytes := ofText (toString n)

theorem splitOn_ne_nil (sep : UInt8) (bs : Bytes) : splitOn sep bs ≠ [] := by
  cases bs with
  | nil => simp [splitOn]
  | cons b rest =>
      unfold splitOn
      split
      · simp
      · split <;> simp

theorem splitOn_intercalate (sep : UInt8) (bs : Bytes) :
    [sep].intercalate (splitOn sep bs) = bs := by
  induction bs with
  | nil => rfl
  | cons b rest ih =>
      rw [splitOn]
      split
      · next h =>
          cases hs : splitOn sep rest with
          | nil => exact absurd hs (splitOn_ne_nil sep rest)
          | cons part parts => rw [hs] at ih; subst h; simp [List.intercalate, ← ih]
      · cases hs : splitOn sep rest with
        | nil => exact absurd hs (splitOn_ne_nil sep rest)
        | cons part parts =>
            rw [hs] at ih
            cases parts <;> simp_all [List.intercalate, List.intersperse]

end Bytes

end JobShell
