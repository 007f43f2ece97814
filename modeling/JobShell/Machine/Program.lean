import JobShell.Launch
import JobShell.Machine.FileTree.Change

/-!
# Programs and their system calls

A program of the machine is a tree: either it has ended with a result, or it asks the system for
something and goes on from the reply. Programs are put together with `do`.

Results:
1. `Program.bind_done`, `Program.bind_assoc`: programs form a monad.
-/

namespace JobShell.Machine

/-- How to open a file. -/
structure OpenMode where
  readable : Bool := false
  writable : Bool := false
  append : Bool := false
  truncate : Bool := false
  /-- Whether the file must not be there yet. -/
  exclusive : Bool := false
  /-- The mode of the file that is made if there is none. -/
  create : Option Nat := none
deriving DecidableEq, Repr

namespace OpenMode

def reading : OpenMode := { readable := true }

/-- Empty the file, or make it with the given mode. -/
def writing (mode : Nat) : OpenMode := { writable := true, truncate := true, create := some mode }

def appending (mode : Nat) : OpenMode := { writable := true, append := true, create := some mode }

end OpenMode

/-- From where an offset counts. -/
inductive SeekOrigin
  | start
  | current
  | end
deriving DecidableEq, Repr

/-- What a process wants a signal to do. -/
inductive Disposition
  | default
  | ignore
  /-- Keep it until the process asks for the signals that came. -/
  | catch
deriving DecidableEq, Repr

/-- The environment of a process. -/
abbrev Environment := List (Bytes × Bytes)

/-- What a program asks the system for. -/
inductive SystemCall
  | openFile (path : Bytes) (mode : OpenMode)
  | close (fd : Nat)
  /-- Make one descriptor mean what another one means. -/
  | duplicate (source target : Nat)
  /-- Copy a descriptor to the first free one from 10 on. -/
  | keep (fd : Nat)
  /-- Make a pipe; the reply is its end to read from and its end to write to. -/
  | pipe
  | read (fd count : Nat)
  | write (fd : Nat) (bs : Bytes)
  /-- Move in an open file; the reply is the new offset. -/
  | seek (fd : Nat) (origin : SeekOrigin) (offset : Int)
  /-- Cut an open file, or lengthen it with zeros. -/
  | truncate (fd size : Nat)
  | isTerminal (fd : Nat)
  | entries (path : Bytes)
  | examine (path : Bytes) (follow : Bool)
  | examineOpen (fd : Nat)
  | readLink (path : Bytes)
  | change (c : TreeChange)
  /-- The reply is the child in the parent, and nothing in the child. -/
  | fork
  /-- Become the program at a path. -/
  | execute (path : Bytes) (argv : List Bytes) (environment : Environment)
  /-- Wait for a child, but not beyond a moment. -/
  | wait (pid : Pid) (options : WaitOptions) (latest : Option Nat)
  | kill (pid : Pid) (s : Signal)
  | setMask (blocked : List Signal)
  | dispose (s : Signal) (d : Disposition)
  | disposition (s : Signal)
  /-- The caught signals that came since they were asked for last. -/
  | takeSignals
  | clock
  | sleepUntil (time : Nat)
  | changeDirectory (path : Bytes)
  | workingDirectory
  | setUmask (mask : Nat)
  | umask
  | environment
  | ownPid
  | parentPid
  | joinGroup (pid group : Pid)
  /-- Lead a session of its own. -/
  | newSession
  /-- End with an exit code. -/
  | exit (code : Nat)
deriving DecidableEq, Repr

@[reducible] def SystemCall.Reply : SystemCall → Type
  | .openFile .. | .keep _ | .seek .. => Except Errno Nat
  | .close _ | .sleepUntil _ | .setMask _ | .dispose .. | .setUmask _ => Unit
  | .duplicate .. | .write .. | .kill .. | .changeDirectory _ | .change _ | .truncate ..
  | .joinGroup .. | .newSession => Except Errno Unit
  | .read .. | .readLink _ | .workingDirectory => Except Errno Bytes
  | .fork => Except Errno (Option Pid)
  | .pipe => Except Errno (Nat × Nat)
  | .execute .. => Errno
  | .wait .. => Except Errno (Option WaitStatus)
  | .clock | .umask => Nat
  | .entries _ => Except Errno (List Bytes)
  | .examine .. | .examineOpen _ => Except Errno FileFacts
  | .isTerminal _ => Bool
  | .disposition _ => Disposition
  | .takeSignals => List Signal
  | .environment => Environment
  | .ownPid | .parentPid => Pid
  | .exit _ => Empty

/-- The reply to a call that waits when a caught signal comes, if signals interrupt it. -/
def SystemCall.interruption? : (c : SystemCall) → Option c.Reply
  | .openFile .. => some (.error .interrupted)
  | .read .. => some (.error .interrupted)
  | .wait .. => some (.error .interrupted)
  | _ => none

/-- A program with a result of type `α`. -/
inductive Program (α : Type) : Type
  | done (a : α)
  | ask (c : SystemCall) (resume : c.Reply → Program α)

namespace Program

variable {α β γ : Type}

/-- Go on with another program when this one has ended. -/
def bind : Program α → (α → Program β) → Program β
  | done a, f => f a
  | ask c resume, f => ask c fun reply => (resume reply).bind f

instance : Monad Program where
  pure := done
  bind := bind

/-- The program that makes one call. -/
def call (c : SystemCall) : Program c.Reply := ask c done

theorem bind_done (p : Program α) : p.bind done = p := by
  induction p with
  | done a => rfl
  | ask c resume ih => simp [bind, ih]

theorem bind_assoc (p : Program α) (f : α → Program β) (g : β → Program γ) :
    (p.bind f).bind g = p.bind fun a => (f a).bind g := by
  induction p with
  | done a => rfl
  | ask c resume ih => simp [bind, ih]

/-- Repeat a step until it gives a result, `fuel` times at most. -/
def iterate {σ : Type} (step : σ → Program (σ ⊕ α)) (tired : α) : (fuel : Nat) → σ → Program α
  | 0, _ => .done tired
  | fuel + 1, s =>
      (step s).bind fun
        | .inl s => iterate step tired fuel s
        | .inr a => .done a

/-- More steps than any program of the machine takes. -/
def patience : Nat := 1000000

/-- End at once. -/
def exit {α : Type} (code : Nat) : Program α := .ask (.exit code) Empty.elim

/-- Write a text to standard error. -/
def complain (s : String) : Program Unit := do
  discard <| call (.write 2 (Bytes.ofText s))

/-- Write bytes to standard error. -/
def complainBytes (bs : Bytes) : Program Unit := do
  discard <| call (.write 2 bs)

/-! ## Finding programs -/

/-- The directories in which programs are looked for when the environment does not say. -/
def plainSearchPath : Bytes := Bytes.ofText "/bin:/usr/bin"

/-- The variable of the environment that holds the search path. -/
def pathVariable : Bytes := Bytes.ofText "PATH"

/-- The interpreter of scripts that name none. -/
def plainInterpreter : Bytes := Bytes.ofText "/bin/sh"

/-- Become the program at a path; a file that is no program is run as a script. -/
def executeAt (path : Bytes) (argv : List Bytes) (environment : Environment) : Program Errno := do
  let e ← call (.execute path argv environment)
  if e = .execFormat then
    call (.execute plainInterpreter (plainInterpreter :: path :: argv.tail) environment)
  else return e

/-- The path of a name in a directory of a search path; no directory is the working directory. -/
def inDirectory (directory name : Bytes) : Bytes :=
  if directory.isEmpty then name
  else if directory.getLast? = some Bytes.slash then directory ++ name
  else directory ++ Bytes.slash :: name

/-- Try one directory after another. That a program may not be run is remembered while the search
goes on. -/
def executeIn (argv : List Bytes) (environment : Environment) :
    List Bytes → (denied : Bool) → Program Errno
  | [], denied => return if denied then .accessDenied else .noEntry
  | directory :: rest, denied => do
      let e ← executeAt (inDirectory directory (argv.headD [])) argv environment
      if e = .accessDenied then executeIn argv environment rest true
      else if e = .noEntry || e = .notDirectory then executeIn argv environment rest denied
      else return e

/-- Become the program with a name, which is looked for along the search path if it holds no
slash. -/
def executeNamed (argv : List Bytes) (environment : Environment) : Program Errno := do
  let name := argv.headD []
  if name.isEmpty then return .noEntry
  else if name.contains Bytes.slash then executeAt name argv environment
  else if FileTree.greatestName < name.length then return .nameTooLong
  else
    let path := (environment.lookup pathVariable).getD plainSearchPath
    executeIn argv environment (Bytes.splitOn 58 path) false

end Program

end JobShell.Machine
