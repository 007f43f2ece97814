import JobShell.Machine.Setup
import JobShell.Shell

/-!
# Rehearsing the input thread

The input thread reads from a script, and a consumer that starts no programs takes what it hands
over. The consumer enters background commands in the registry, and may set the exit flag just
before it releases the slot after a given number of requests.
-/

namespace JobShell.Rehearsal

open Thread (Status Turn)
open Machine (FileTree NodeId)

/-- The world of a rehearsal: a script to read, a tree to move in, and what was written. -/
structure Stage where
  source : Source
  /-- How many bytes were read. -/
  consumed : Nat := 0
  tree : FileTree
  cwd : NodeId
  stdout : Bytes := []
  stderr : Bytes := []

namespace Stage

def readByte (s : Stage) : ReadOutcome × Stage :=
  match s.source with
  | [] => (.endOfFile, s)
  | .byte b :: rest => (.byte b, { s with source := rest, consumed := s.consumed + 1 })
  | outcome :: rest => (outcome, { s with source := rest })

def changeDirectory (s : Stage) (dir : Bytes) : Except IoError Unit × Stage :=
  match s.tree.changeDirectory s.cwd dir with
  | .ok cwd => (.ok (), { s with cwd })
  | .error e => (.error e, s)

/-- Nothing runs on a stage, and no signal comes. -/
def world : World Stage where
  print bs s := { s with stdout := s.stdout ++ bs }
  complain bs s := { s with stderr := s.stderr ++ bs }
  readByte s := some s.readByte
  changeDirectory dir s := s.changeDirectory dir
  fork _ s := (.error ⟨11⟩, s)
  blockSignals s := s
  waitFor _ _ s := some (.failed .noChild, s)
  reserve s := (.ok (), s)
  raiseChild s := s
  awaitSignal _ := none
  sendStop s := (.ok (), s)

end Stage

/-- What the consumer is about to do, with the number of requests it took before. -/
inductive Consumer
  | awaiting (taken : Nat)
  | deciding (taken : Nat) (r : Request)
  | settingExit
  | releasing (taken : Nat)
  | leaving
deriving DecidableEq, Repr

namespace Consumer

/-- The processes that the consumer makes up: the first request gets number 1001. -/
def pidOf (taken : Nat) : Pid := 1000 + taken

/-- Go on once a request needs nothing more; `last` is the number of the request before whose
release the exit flag is set. -/
def afterTask (last : Option Nat) (taken : Nat) : Consumer :=
  if last = some taken then .settingExit else .releasing taken

def turn (last : Option Nat) : Consumer → Turn Consumer Unit
  | .awaiting taken => ⟨.awaitRequest, fun r => .running (.deciding (taken + 1) r)⟩
  | .deciding taken (.run c) =>
      if c.background then
        ⟨.track (pidOf taken) c.name, fun _ => .running (afterTask last taken)⟩
      else ⟨.isExiting, fun _ => .running (afterTask last taken)⟩
  | .deciding taken .shutdown =>
      ⟨.isExiting, fun _ => .running (if last = some taken then .settingExit else .leaving)⟩
  | .settingExit => ⟨.setExiting, fun _ => .running .leaving⟩
  | .releasing taken => ⟨.release, fun _ => .running (.awaiting taken)⟩
  | .leaving => ⟨.release, fun _ => .ended ()⟩

end Consumer

/-- A request as the consumer took it, with the lengths of what had been written by then. -/
structure Handed where
  request : Request
  stdout : Nat
  stderr : Nat
deriving DecidableEq, Repr

/-- A rehearsal on its way. -/
structure Scene where
  limits : Limits := {}
  /-- The request after which the exit flag is set. -/
  last : Option Nat := none
  shared : Shared Stage
  input : Status Thread.Input (Except Fault Unit) := .running .start
  consumer : Status Consumer Unit := .running (.awaiting 0)
  /-- The requests that were taken, the last one first. -/
  handed : List Handed := []

namespace Scene

def noteRequest (s : Scene) : Option Handed :=
  match s.consumer, s.shared.slot.take? with
  | .running (.awaiting _), some (request, _) =>
      some ⟨request, s.shared.world.stdout.length, s.shared.world.stderr.length⟩
  | _, _ => none

def stepConsumer (s : Scene) : Option Scene :=
  (s.shared.advance Stage.world (Consumer.turn s.last) s.consumer).map fun (consumer, shared) =>
    { s with consumer, shared, handed := s.noteRequest.toList ++ s.handed }

def stepInput (s : Scene) : Option Scene :=
  (s.shared.advance Stage.world (Thread.Input.turn s.limits) s.input).map fun (input, shared) =>
    { s with input, shared }

/-- One step, of the consumer if it can take one. -/
def step (s : Scene) : Option Scene := s.stepConsumer <|> s.stepInput

/-- Go on until nobody can take a step. -/
def play : (fuel : Nat) → Scene → Scene
  | 0, s => s
  | fuel + 1, s =>
      match s.step with
      | none => s
      | some s => play fuel s

/-- Steps enough for any script: every read, and a few more for every line. -/
def fuelFor (s : Scene) : Nat := 20 * (s.shared.world.source.length + 4)

def run (s : Scene) : Scene := s.play s.fuelFor

end Scene

end JobShell.Rehearsal
