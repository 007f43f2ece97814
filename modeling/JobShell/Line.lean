import JobShell.Bytes
import JobShell.Errno

/-!
# Reading lines

Lines are read one byte at a time, so nothing behind a newline is taken from those who read next.
A line that outgrows its limit is dropped up to its newline.

Results:
1. `LineReader.run_interrupted`: an interrupted read changes nothing.
-/

namespace JobShell

/-- What one read of one byte comes to. -/
inductive ReadOutcome
  | byte (b : UInt8)
  | endOfFile
  | failed (e : Errno)
deriving DecidableEq, Repr

/-- What is to come from a reader; behind its end there is only end of file. -/
abbrev Source := List ReadOutcome

def Source.ofBytes (bs : Bytes) : Source := bs.map .byte

/-- One line of input. -/
inductive Line
  | text (bytes : Bytes)
  | tooLong
  | endOfFile
deriving DecidableEq, Repr

/-- A line half read: the bytes so far, last one first, with the number of bytes that still fit;
or a line too long, of which the rest is dropped. -/
inductive LineReader
  | collecting (reversed : Bytes) (room : Nat)
  | discarding
deriving DecidableEq, Repr

/-- What a reader makes of one outcome. -/
inductive LineProgress
  | more (r : LineReader)
  | line (l : Line)
  | failed (e : Errno)
deriving DecidableEq, Repr

namespace LineReader

def start (maxLen : Nat) : LineReader := .collecting [] maxLen

/-- The line if the input ends here; a last line needs no newline. -/
def atEnd : LineReader → Line
  | .collecting [] _ => .endOfFile
  | .collecting reversed _ => .text reversed.reverse
  | .discarding => .tooLong

def feed (r : LineReader) : ReadOutcome → LineProgress
  | .endOfFile => .line r.atEnd
  | .failed e => if e = .interrupted then .more r else .failed e
  | .byte b =>
      match r with
      | .collecting reversed room =>
          if b = Bytes.newline then .line (.text reversed.reverse)
          else match room with
            | 0 => .more .discarding
            | room + 1 => .more (.collecting (b :: reversed) room)
      | .discarding => if b = Bytes.newline then .line .tooLong else .more .discarding

/-- Read on to the end of the line, and give back what is left of the source. -/
def run (r : LineReader) : Source → Except Errno Line × Source
  | [] => (.ok r.atEnd, [])
  | outcome :: rest =>
      match r.feed outcome with
      | .more r => run r rest
      | .line l => (.ok l, rest)
      | .failed e => (.error e, rest)

theorem run_interrupted (r : LineReader) (rest : Source) :
    r.run (.failed .interrupted :: rest) = r.run rest := by
  simp [run, feed]

end LineReader

/-- Read one line of at most `maxLen` bytes. -/
def readLine (maxLen : Nat) (source : Source) : Except Errno Line × Source :=
  (LineReader.start maxLen).run source

end JobShell
