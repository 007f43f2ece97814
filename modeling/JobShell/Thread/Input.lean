import JobShell.Command.Parser
import JobShell.Directory
import JobShell.Options
import JobShell.Thread.Call

/-!
# The input thread

It prompts, reads a line, runs built-in commands itself and hands over all others, one at a time:
after an offer it does nothing until the slot is empty again. It ends at `exit`, at the end of the
input, at a read error, or when it finds the exit flag set; unless somebody set the flag before,
it sets it and wakes the execution thread.

Results:
1. `Builtin.isSome_ofCommand?_iff`: which commands are the thread's own.
-/

namespace JobShell.Thread

/-- The commands that the input thread runs itself. -/
inductive Builtin
  | exit
  | jobs
  | cd
deriving DecidableEq, Repr

namespace Builtin

def ofCommand? (c : Command) : Option Builtin :=
  match c.program with
  | none => none
  | some program =>
      if program = Bytes.ofText "exit" then some .exit
      else if program = Bytes.ofText "jobs" then some .jobs
      else if program = Bytes.ofText "cd" then some .cd
      else none

theorem isSome_ofCommand?_iff {c : Command} :
    (ofCommand? c).isSome = true ↔ c.argv.head? ∈
      [some (Bytes.ofText "exit"), some (Bytes.ofText "jobs"), some (Bytes.ofText "cd")] := by
  rw [ofCommand?, Command.program]
  cases c.argv.head? with
  | none => simp
  | some program =>
      dsimp only
      repeat' split
      all_goals simp [*]

theorem ofCommand?_eq_exit_iff {c : Command} :
    ofCommand? c = some .exit ↔ c.argv.head? = some (Bytes.ofText "exit") := by
  rw [ofCommand?, Command.program]
  cases c.argv.head? with
  | none => simp
  | some program =>
      dsimp only
      repeat' split
      all_goals simp_all

end Builtin

/-- What the input thread is about to do. -/
inductive Input
  /-- Look at the exit flag before the next line. -/
  | looking
  | prompting
  | reading (r : LineReader)
  /-- Write a diagnostic, then go on with the next line. -/
  | complaining (message : String)
  /-- Return the cursor after a blank line. -/
  | blank
  | listing
  | moving (dir : Bytes)
  | offering (c : Command)
  | waiting
  /-- Finish the line of the last prompt at the end of the input. -/
  | endingInput
  /-- Look at the exit flag before leaving. -/
  | leaving (result : Except Fault Unit)
  | settingExit (result : Except Fault Unit)
  | offeringShutdown (result : Except Fault Unit)

namespace Input

def start : Input := .looking

def prompt : Bytes := Bytes.ofText "$ "

/-- What to do about a command that is not blank. -/
def dispatch (c : Command) : Input :=
  match Builtin.ofCommand? c with
  | some .exit => .leaving (.ok ())
  | some .jobs => .listing
  | some .cd =>
      match directoryArgument c.arguments with
      | .ok dir => .moving dir
      | .error e => .complaining e.message
  | none => .offering c

/-- What to do about a line. -/
def accept (maxToken : Nat) : Line → Input
  | .tooLong => .complaining ParseError.argumentTooLong.message
  | .endOfFile => .endingInput
  | .text bytes =>
      match Command.parse maxToken bytes with
      | .error e => .complaining e.message
      | .ok c => if c.isBlank then .blank else dispatch c

/-- Go on reading after one byte. -/
def readOn (maxToken : Nat) (r : LineReader) (outcome : ReadOutcome) : Input :=
  match r.feed outcome with
  | .more r => .reading r
  | .line l => accept maxToken l
  | .failed e => .leaving (.error (.input e))

def turn (limits : Limits) : Input → Turn Input (Except Fault Unit)
  | .looking =>
      ⟨.isExiting, fun exiting => .running (if exiting then .leaving (.ok ()) else .prompting)⟩
  | .prompting =>
      ⟨.printByOccupancy [prompt] [prompt], fun _ => .running (.reading (.start limits.line))⟩
  | .reading r => ⟨.readByte, fun outcome => .running (readOn limits.token r outcome)⟩
  | .complaining message => ⟨.complain (textLine message), fun _ => .running .looking⟩
  | .blank => ⟨.print (Bytes.ofText "\r"), fun _ => .running .looking⟩
  | .listing => ⟨.printJobs, fun _ => .running .looking⟩
  | .moving dir =>
      ⟨.changeDirectory dir, fun
        | .ok () => .running .looking
        | .error e => .running (.complaining (CdError.ofIoError dir e).message)⟩
  | .offering c =>
      ⟨.offer (.run c), fun
        | .ok () => .running .waiting
        | .error e => .running (.leaving (.error (.handoff e)))⟩
  | .waiting => ⟨.awaitVacancy, fun _ => .running .looking⟩
  | .endingInput => ⟨.print (Bytes.ofText "\n"), fun _ => .running (.leaving (.ok ()))⟩
  | .leaving result =>
      ⟨.isExiting, fun exiting =>
        if exiting then .ended result else .running (.settingExit result)⟩
  | .settingExit result => ⟨.setExiting, fun _ => .running (.offeringShutdown result)⟩
  | .offeringShutdown result =>
      ⟨.offer .shutdown, fun
        | .ok () => .ended result
        | .error e => .ended (.error (.handoff e))⟩

end Input

end JobShell.Thread
