import JobShell.Machine.Program
import JobShell.Machine.Utility.Arguments

/-!
# What utilities say

Messages stand behind the name under which a utility was called. A utility reads its arguments,
writes its output, and ends with an exit code.
-/

namespace JobShell.Machine.Report

open Program

/-- A utility as it was called. -/
structure Caller where
  name : Bytes
  /-- The exit code of a failure. -/
  failure : Nat := 1
  /-- Whether the name also stands in front of the line that tells where help can be found. -/
  namesHelp : Bool := false

namespace Caller

/-- Write a message. -/
def say (c : Caller) (message : Bytes) : Program Unit :=
  complainBytes (c.name ++ Bytes.ofText ": " ++ message ++ [Bytes.newline])

def sayText (c : Caller) (message : String) : Program Unit := c.say (Bytes.ofText message)

/-- Write where help can be found. -/
def sayHelp (c : Caller) : Program Unit :=
  complainBytes ((if c.namesHelp then c.name ++ Bytes.ofText ": " else []) ++
    Bytes.ofText "Try '" ++ c.name ++ Bytes.ofText " --help' for more information.\n")

/-- Refuse the arguments. -/
def refuse (c : Caller) (message : Bytes) : Program Nat := do
  c.say message
  c.sayHelp
  return c.failure

def refuseText (c : Caller) (message : String) : Program Nat := c.refuse (Bytes.ofText message)

/-- Say something and end with a failure. -/
def abort (c : Caller) (message : Bytes) : Program Nat := do
  c.say message
  return c.failure

/-- Report a failure about a file; the reply is always false. -/
def fail (c : Caller) (what : String) (shown : Bytes) (e : Errno) : Program Bool := do
  c.say (Bytes.ofText what ++ shown ++ Bytes.ofText (": " ++ e.text))
  return false

/-- Read the arguments and go on with them. -/
def withArguments (c : Caller) (t : OptionTable) (arguments : List Bytes)
    (go : Arguments → Program Nat) : Program Nat :=
  match Arguments.read t {} arguments with
  | .ok a => go a
  | .error e => c.refuse e

/-- Refuse operands where none are taken, or more than some number. -/
def withOperands (c : Caller) (most : Nat) (operands : List Bytes) (go : Program Nat) :
    Program Nat :=
  match operands.drop most with
  | [] => go
  | extra :: _ => c.refuse (Bytes.ofText "extra operand " ++ Quoting.plain extra)

/-- Write a part of the output; the reply tells whether it could be written. -/
def emit (c : Caller) (out : Bytes) : Program Bool := do
  if out.isEmpty then return true
  match ← call (.write 1 out) with
  | .ok () => return true
  | .error e =>
      c.sayText ("write error: " ++ e.text)
      return false

/-- Write all output and end. -/
def finish (c : Caller) (out : Bytes) (code : Nat := 0) : Program Nat := do
  return if ← c.emit out then code else c.failure

end Caller

/-- Do something with each operand; the reply tells whether all went well. -/
def onEach {α : Type} (act : α → Program Bool) : List α → Program Bool
  | [] => return true
  | a :: rest => do
      let good ← act a
      let others ← onEach act rest
      return good && others

/-- Make a call about a file and report its failure. -/
def attempt (c : Caller) (what : String) (shown : Bytes) (act : Program (Except Errno Unit)) :
    Program Bool := do
  match ← act with
  | .ok () => return true
  | .error e => c.fail what shown e

/-! ## Reading whole files -/

/-- How much of a file is read at a time. -/
def blockSize : Nat := 131072

/-- All that is left in an open file; `fuel` bounds the parts. -/
def readRest (fd : Nat) : (fuel : Nat) → List Bytes → Program (Except Errno Bytes)
  | 0, parts => return .ok parts.reverse.flatten
  | fuel + 1, parts => do
      match ← call (.read fd blockSize) with
      | .error e => return .error e
      | .ok [] => return .ok parts.reverse.flatten
      | .ok part => readRest fd fuel (part :: parts)

/-- How standard input is called among operands. -/
def standardInput : Bytes := [Arguments.hyphen]

/-- Open a file, or take standard input. -/
def openSource (file : Bytes) : Program (Except Errno Nat) :=
  if file = standardInput then return .ok 0 else call (.openFile file .reading)

def closeSource (file : Bytes) (fd : Nat) : Program Unit :=
  if file = standardInput then return else call (.close fd)

/-- Report why a source could not be read, if it could not. That standard input is not open is told
a second time, under the label, when it is to be closed. -/
def reportReading (c : Caller) (what : String) (shown label source : Bytes)
    (failure : Option Errno) : Program Unit := do
  match failure with
  | none => return
  | some e =>
      discard <| c.fail what shown e
      if source = standardInput && !label.isEmpty && e = .badDescriptor then
        discard <| c.fail "" label e

/-- What became of reading a file. -/
inductive Whole
  | content (bs : Bytes)
  | notOpened (e : Errno)
  | notRead (e : Errno)
deriving DecidableEq, Repr

/-- Read a whole file, or all of standard input. -/
def readWhole (file : Bytes) : Program Whole := do
  match ← openSource file with
  | .error e => return .notOpened e
  | .ok fd =>
      let content ← readRest fd patience []
      closeSource file fd
      return match content with
        | .ok bs => .content bs
        | .error e => .notRead e

/-- Read whole files and go on with what is in them; those that cannot be read are reported, and the
reply tells whether there were none. -/
def readEach (c : Caller) : List Bytes → Program (List (Bytes × Bytes) × Bool)
  | [] => return ([], true)
  | file :: rest => do
      match ← readWhole file with
      | .content bs =>
          let (others, good) ← readEach c rest
          return ((file, bs) :: others, good)
      | .notOpened e | .notRead e =>
          let _ ← c.fail "" (Quoting.named file) e
          let (others, _) ← readEach c rest
          return (others, false)

/-- The first byte of a line of standard input, which is read to its end; `fuel` bounds its
length. -/
def readAnswer : (fuel : Nat) → Program (Option UInt8)
  | 0 => return none
  | fuel + 1 => do
      match ← call (.read 0 1) with
      | .ok [b] =>
          if b = Bytes.newline then return none
          discard <| readAnswer fuel
          return some b
      | _ => return none

/-- Ask whether to go on; only a line that starts with `y` or `Y` says so. -/
def confirm (c : Caller) (question : Bytes) : Program Bool := do
  complainBytes (c.name ++ Bytes.ofText ": " ++ question ++ Bytes.ofText "? ")
  let answer ← readAnswer patience
  return answer = some 121 || answer = some 89

/-- The files that are named, or standard input. -/
def sources (operands : List Bytes) : List Bytes :=
  if operands.isEmpty then [standardInput] else operands

end JobShell.Machine.Report
