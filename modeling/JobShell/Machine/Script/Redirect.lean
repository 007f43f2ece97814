import JobShell.Machine.Script.Expansion

/-!
# Redirections in scripts

The targets of redirections are expanded first; then the redirections are made from left to right.
Those of a command that the interpreter runs itself are undone afterwards.
-/

namespace JobShell.Machine.Redirect

open Running Expansion

/-- What a descriptor meant before: a copy of it, if it meant anything. -/
structure Saved where
  descriptor : Nat
  copy : Option Nat
deriving DecidableEq, Repr

/-- A redirection whose target is known. -/
inductive Target
  | file (kind : RedirectionKind) (path : Bytes)
  | descriptor (source : Nat)
  | nothing
  | document (number : Nat)
deriving DecidableEq, Repr

/-- The mode that a script asks for when it makes a file. -/
def newMode : Nat := 0o666

/-- Expand the target of a redirection. -/
def target (run : Substitute) (r : Redirection) : Running (Nat × Target) := do
  match r.kind with
  | .document number => return (r.descriptor, .document number)
  | .duplicate =>
      let text ← single run r.target
      match text, Bytes.decimal? text with
      | [45], _ => return (r.descriptor, .nothing)
      | [_], some n => return (r.descriptor, .descriptor n)
      | _, _ => failText "Syntax error: Bad fd number"
  | kind => return (r.descriptor, .file kind (← single run r.target))

/-! ## Opening -/

/-- Why something could not be done with a file, where `missing` says that there is none. -/
def reason (missing : String) (e : Errno) : String :=
  if e = .noEntry || e = .notDirectory then missing else e.text

def cannotOpen {α : Type} (path : Bytes) (mode : OpenMode) (e : Errno) : Running α :=
  let (verb, missing) : String × String :=
    if mode.create.isSome then ("create", "Directory nonexistent") else ("open", "No such file")
  fail (Bytes.ofText ("cannot " ++ verb ++ " ") ++ path ++ Bytes.ofText (": " ++ reason missing e))

def openFile (path : Bytes) (mode : OpenMode) : Running Nat := do
  match ← sys (.openFile path mode) with
  | .ok fd => return fd
  | .error e => cannotOpen path mode e

/-- Open a file for output that must not be overwritten. -/
def openUnclobbered (path : Bytes) : Running Nat := do
  match ← sys (.examine path true) with
  | .error _ => openFile path { writable := true, exclusive := true, create := some newMode }
  | .ok facts =>
      if facts.kind = .regular then cannotOpen path (.writing newMode) .alreadyExists
      else openFile path { writable := true }

/-- Open a file for a redirection. -/
def openFor (kind : RedirectionKind) (path : Bytes) : Running Nat := do
  match kind with
  | .output =>
      if (← get).isOn 'C' then openUnclobbered path else openFile path (.writing newMode)
  | .clobber => openFile path (.writing newMode)
  | .append => openFile path (.appending newMode)
  | .both => openFile path { readable := true, writable := true, create := some newMode }
  | _ => openFile path .reading

/-- The longest document that is written to its pipe before the command is run. -/
def documentLimit : Nat := 4096

/-- Let a document be read from a pipe. -/
def openDocument (run : Substitute) (number : Nat) : Running Nat := do
  let text ← document run ((← get).documents[number]?.getD [])
  match ← sys .pipe with
  | .error _ => failText "Pipe call failed"
  | .ok (source, sink) =>
      if text.length ≤ documentLimit then discard <| sys (.write sink text)
      else match ← sys .fork with
        | .ok none =>
            sys (.close source)
            [Signal.hup, Signal.int, Signal.quit, Signal.tstp].forM fun s =>
              sys (.dispose s .ignore)
            discard <| sys (.write sink text)
            lift (Program.exit 0)
        | _ => sys (.setMask [])
      sys (.close sink)
      return source

/-- The descriptor that another one is to mean, if it is to mean any. -/
def opened (run : Substitute) : Target → Running (Option Nat)
  | .file kind path => return some (← openFor kind path)
  | .descriptor source => return some source
  | .nothing => return none
  | .document number => return some (← openDocument run number)

/-! ## Making and undoing -/

/-- Keep what a descriptor means, unless that has been done. -/
def keep (descriptor : Nat) (saved : List Saved) : Running (List Saved) := do
  if saved.any (·.descriptor = descriptor) then return saved
  else
    let copy ← sys (.keep descriptor)
    sys (.close descriptor)
    return ⟨descriptor, copy.toOption⟩ :: saved

/-- Let a descriptor mean what another one means, and close that one if it was opened for this. -/
def install (descriptor : Nat) (t : Target) (source : Option Nat) : Running Unit := do
  match source, t with
  | none, _ => sys (.close descriptor)
  | some source, .descriptor _ =>
      match ← sys (.duplicate source descriptor) with
      | .ok () => return
      | .error e => failText (toString source ++ ": " ++ e.text)
  | some source, _ =>
      if source ≠ descriptor then
        discard <| sys (.duplicate source descriptor)
        sys (.close source)

/-- Make one redirection. What the descriptor meant before is kept if it is to be undone. -/
def make (run : Substitute) (undone : Bool) (saved : List Saved) (descriptor : Nat) (t : Target) :
    Running (List Saved × Bool) := do
  if t = .descriptor descriptor then return (saved, true)
  let source? : Option (Option Nat) ← tryCatch (do return some (← opened run t)) fun
    | .failure => return none
    | leave => throw leave
  match source? with
  | none => return (saved, false)
  | some source =>
      let saved ← if !undone then pure saved
        else if source = some descriptor then
          pure (if saved.any (·.descriptor = descriptor) then saved
            else ⟨descriptor, none⟩ :: saved)
        else keep descriptor saved
      let made ← tryCatch (do install descriptor t source; return true) fun
        | .failure => return false
        | leave => throw leave
      return (saved, made)

/-- Make redirections one after another; the reply tells what to put back, the last one first, and
whether all were made. -/
def makeAll (run : Substitute) (undone : Bool) : List (Nat × Target) → List Saved →
    Running (List Saved × Bool)
  | [], saved => return (saved, true)
  | (descriptor, t) :: rest, saved => do
      let (saved, made) ← make run undone saved descriptor t
      if made then makeAll run undone rest saved else return (saved, false)

/-- Put a descriptor back. -/
def restore (s : Saved) : Running Unit := do
  match s.copy with
  | none => sys (.close s.descriptor)
  | some copy =>
      discard <| sys (.duplicate copy s.descriptor)
      sys (.close copy)

/-- Let a redirection stay. -/
def forget (s : Saved) : Running Unit := do
  match s.copy with
  | none => return
  | some copy => sys (.close copy)

/-- Run something under redirections, which are undone afterwards. If they cannot be made, it is
not run. -/
def withRedirections (run : Substitute) (rs : List Redirection) (act : Running Nat)
    (otherwise : Running Nat) : Running Nat := do
  if rs.isEmpty then act
  else
    let targets ← rs.mapM (target run)
    let (saved, made) ← makeAll run true targets []
    finally_ (if made then act else otherwise) (saved.forM restore)

end JobShell.Machine.Redirect
