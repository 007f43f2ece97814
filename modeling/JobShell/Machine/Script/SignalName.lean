import JobShell.Bytes
import JobShell.Signal

/-!
# Names of signals

The names by which scripts know signals, without the three letters in front, and the texts of the
signals that end processes.

Results:
1. The examples at the end: names are read in either case, and numbers as they are.
-/

namespace JobShell.Machine.SignalName

/-- The names of the signals from 0, which stands for the end of a script, to 31. -/
def plain : List String :=
  ["EXIT", "HUP", "INT", "QUIT", "ILL", "TRAP", "ABRT", "BUS", "FPE", "KILL", "USR1", "SEGV",
    "USR2", "PIPE", "ALRM", "TERM", "STKFLT", "CHLD", "CONT", "STOP", "TSTP", "TTIN", "TTOU", "URG",
    "XCPU", "XFSZ", "VTALRM", "PROF", "WINCH", "IO", "PWR", "SYS"]

def greatest : Nat := 64

/-- The name of a signal; signals without one are called by their number. -/
def ofNat (n : Nat) : String :=
  match plain[n]? with
  | some name => name
  | none =>
      if n < 34 then toString n
      else if n = 34 then "RTMIN"
      else if n < 50 then "RTMIN+" ++ toString (n - 34)
      else if n < greatest then "RTMAX-" ++ toString (greatest - n)
      else "RTMAX"

def upper (b : UInt8) : UInt8 := if 97 ≤ b && b ≤ 122 then b - 32 else b

/-- The signal that a word stands for, by number or by name; names below `least` do not count. -/
def number? (least : Nat) (word : Bytes) : Option Nat :=
  match Bytes.decimal? word with
  | some n => if n ≤ greatest then some n else none
  | none =>
      ((List.range (greatest + 1)).drop least).find? fun n =>
        Bytes.ofText (ofNat n) = word.map upper

/-- The texts of the signals from 1 to 31. -/
def texts : List String :=
  ["Hangup", "Interrupt", "Quit", "Illegal instruction", "Trace/breakpoint trap", "Aborted",
    "Bus error", "Floating point exception", "Killed", "User defined signal 1",
    "Segmentation fault", "User defined signal 2", "Broken pipe", "Alarm clock", "Terminated",
    "Stack fault", "Child exited", "Continued", "Stopped (signal)", "Stopped",
    "Stopped (tty input)", "Stopped (tty output)", "Urgent I/O condition",
    "CPU time limit exceeded", "File size limit exceeded", "Virtual timer expired",
    "Profiling timer expired", "Window changed", "I/O possible", "Power failure", "Bad system call"]

def text (n : Nat) : String :=
  match if n = 0 then none else texts[n - 1]? with
  | some text => text
  | none =>
      if 34 ≤ n && n ≤ greatest then "Real-time signal " ++ toString (n - 34)
      else "Unknown signal " ++ toString n

example : number? 1 (Bytes.ofText "term") = some 15 := by decide +kernel
example : number? 1 (Bytes.ofText "SIGTERM") = none := by decide +kernel
example : number? 1 (Bytes.ofText "9") = some 9 := by decide +kernel

end JobShell.Machine.SignalName
