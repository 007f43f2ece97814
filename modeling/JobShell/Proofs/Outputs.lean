import JobShell.Log
import Mathlib.Data.List.Induction

/-!
# Loggers with failing outputs

A router hands records to its loggers one after the other, and each logger writes a line in pieces
to an output that may have little room. Once an output is full, every further write to it fails,
and the router does not hear of it. So a logger is on its own: what becomes of it is a function of
the events alone, and its output holds the front of all its lines, as long as its room allows. A
line that is cut ends what the output holds, since no room is left behind it.

Results:
1. `Router.run_eq_map`: the loggers of a router do not see each other.
2. `Logger.Served.handle`: what one event adds to what a logger has received.
3. `outputs_undisturbed`: what each logger of a router has received in the end.
-/

namespace JobShell.Log

/-- What a router is asked to do. -/
inductive Router.Event
  | record (r : Record)
  | flush
deriving DecidableEq, Repr

namespace Router

/-- The records among the events. -/
def Event.record? : Event → Option Record
  | .record r => some r
  | .flush => none

def handle (router : Router) : Event → Router
  | .record r => router.log r
  | .flush => router.flush

def run (router : Router) (events : List Event) : Router := events.foldl handle router

end Router

namespace Logger

/-- What a logger does by itself when its router is asked to do something. -/
def handle (l : Logger) : Router.Event → Logger
  | .record r => if l.covers r.target then l.write r else l
  | .flush => l.flush

def run (l : Logger) (events : List Router.Event) : Logger := events.foldl handle l

/-- The lines of the records that a logger covers, as one text. -/
def lines (l : Logger) (events : List Router.Event) : Bytes :=
  ((events.filterMap (·.record?)).filter fun r => l.covers r.target).flatMap l.style.line

end Logger

theorem Router.run_eq_map (router : Router) (events : List Router.Event) :
    router.run events = router.map (·.run events) := by
  induction events generalizing router with
  | nil => exact (List.map_id' router).symm
  | cons event events ih =>
      have first : router.handle event = router.map (·.handle event) := by
        cases event with
        | record r => exact router.log_eq_map r
        | flush => rfl
      rw [Router.run, List.foldl_cons, ← Router.run, ih, first, List.map_map]
      rfl

namespace Logger

variable {l mid : Logger} {events : List Router.Event}

theorem lines_concat_record (l : Logger) (events : List Router.Event) (r : Record) :
    l.lines (events ++ [.record r]) =
      l.lines events ++ if l.covers r.target then l.style.line r else [] := by
  by_cases covers : l.covers r.target <;> simp [lines, Router.Event.record?, covers]

theorem lines_concat_flush (l : Logger) (events : List Router.Event) :
    l.lines (events ++ [.flush]) = l.lines events := by
  simp [lines, Router.Event.record?]

theorem count_concat_record (events : List Router.Event) (r : Record) :
    List.count .flush (events ++ [.record r]) = events.count .flush := by
  simp

/-- `l.Served events after`: by `events`, and by nothing else, `l` has become `after`. -/
structure Served (l : Logger) (events : List Router.Event) (after : Logger) : Prop where
  scope : after.scope = l.scope
  style : after.style = l.style
  room : after.writer.room = l.writer.room.map (· - l.writer.roomFor (l.lines events).length)
  taken : after.writer.taken = l.writer.taken ++ l.writer.accept (l.lines events)
  flushes : after.writer.flushes = l.writer.flushes + events.count .flush

namespace Served

theorem nil (l : Logger) : l.Served [] l := by
  have none : l.writer.Wrote (l.lines []) (.ok ()) l.writer := .nil _
  exact ⟨rfl, rfl, none.room, none.taken, rfl⟩

theorem write (served : l.Served events mid) (r : Record) (covers : l.covers r.target = true) :
    l.Served (events ++ [.record r]) (mid.write r) := by
  have wrote := mid.writer.wrote_writeAll ((mid.style.pieces r).map Bytes.ofText)
  have line : ((mid.style.pieces r).map Bytes.ofText).flatten = l.style.line r := by
    rw [LineStyle.line, served.style]
  rw [line] at wrote
  have lines : l.lines (events ++ [.record r]) = l.lines events ++ l.style.line r := by
    rw [lines_concat_record, if_pos covers]
  refine ⟨served.scope, served.style, ?_, ?_, ?_⟩
  · rw [lines, List.length_append, ← Writer.room_add served.room]
    exact wrote.room
  · rw [lines, Writer.accept_append served.room, ← List.append_assoc, ← served.taken]
    exact wrote.taken
  · rw [count_concat_record, ← served.flushes]
    exact wrote.flushes

theorem handle (served : l.Served events mid) (event : Router.Event) :
    l.Served (events ++ [event]) (mid.handle event) := by
  cases event with
  | record r =>
      have same : mid.covers r.target = l.covers r.target := by
        rw [covers, served.scope, covers]
      rw [Logger.handle, same]
      split
      · next covers => exact served.write r covers
      · next elsewhere =>
          have lines : l.lines (events ++ [.record r]) = l.lines events := by
            rw [lines_concat_record, if_neg elsewhere, List.append_nil]
          refine ⟨served.scope, served.style, lines ▸ served.room, lines ▸ served.taken, ?_⟩
          rw [count_concat_record, served.flushes]
  | flush =>
      have lines := lines_concat_flush l events
      refine ⟨served.scope, served.style, lines ▸ served.room, ?_, ?_⟩
      · rw [lines, ← served.taken]
        exact Writer.taken_flush _
      · rw [List.count_append, List.count_singleton_self, ← Nat.add_assoc, ← served.flushes]
        exact Writer.flushes_flush _

theorem run (l : Logger) (events : List Router.Event) : l.Served events (l.run events) := by
  induction events using List.reverseRecOn with
  | nil => exact .nil l
  | append_singleton events event ih =>
      rw [Logger.run, List.foldl_append]
      exact ih.handle event

end Served

end Logger

/-! ## The lines -/

theorem LineStyle.line_lead (text : String) (r : Record) :
    (lead text).line r = Bytes.ofText (text ++ r.message ++ "\n") := by
  simp [line, pieces, Bytes.ofText_append]

theorem LineStyle.line_levelAndThread (r : Record) :
    levelAndThread.line r = Bytes.ofText
      (r.level.column ++ " [" ++ r.thread.getD "main" ++ "] " ++ r.message ++ "\n") := by
  simp [line, pieces, Bytes.ofText_append]

/-- A level's name is followed by blanks up to five characters. -/
theorem Level.column_eq (level : Level) :
    ∃ blanks, level.column = level.text ++ "".pushn ' ' blanks ∧ level.column.length = 5 := by
  refine ⟨_, rfl, ?_⟩
  cases level <;> decide

/-- What came of some events at the place of a logger in a router. -/
structure Undisturbed (router : Router) (events : List Router.Event) (i : Fin router.length) :
    Prop where
  /-- The front of all its lines, behind what it had received before. -/
  received : ((router.run events)[i.val]?).map (·.writer.taken) =
    some ((router.get i).writer.taken ++ (router.get i).writer.room.elim
      ((router.get i).lines events) (((router.get i).lines events).take ·))
  flushed : ((router.run events)[i.val]?).map (·.writer.flushes) =
    some ((router.get i).writer.flushes + events.count .flush)
  /-- It is as if there were no other loggers. -/
  alone : (router.run events)[i.val]? = (Router.run [router.get i] events)[0]?

theorem undisturbed (router : Router) (events : List Router.Event) (i : Fin router.length) :
    Undisturbed router events i := by
  have served := Logger.Served.run (router.get i) events
  have at_ : (router.run events)[i.val]? = some ((router.get i).run events) := by
    rw [router.run_eq_map, List.getElem?_map, List.getElem?_eq_getElem i.isLt]
    rfl
  have front := served.taken
  rw [Writer.accept_eq] at front
  refine ⟨?_, ?_, ?_⟩
  · rw [at_]
    exact congrArg some front
  · rw [at_]
    exact congrArg some served.flushes
  · rw [at_, Router.run_eq_map]
    rfl

/-- Whatever the other loggers' outputs do, each logger's output gets the front of all the lines
for it, as long as its room allows, and every flush. -/
theorem outputs_undisturbed :
    (∀ (router : Router) events i, Undisturbed router events i) ∧
      (∀ text (r : Record),
        (LineStyle.lead text).line r = Bytes.ofText (text ++ r.message ++ "\n")) ∧
      (∀ r : Record, LineStyle.levelAndThread.line r = Bytes.ofText
        (r.level.column ++ " [" ++ r.thread.getD "main" ++ "] " ++ r.message ++ "\n")) ∧
      ∀ level : Level, ∃ blanks,
        level.column = level.text ++ "".pushn ' ' blanks ∧ level.column.length = 5 :=
  ⟨undisturbed, LineStyle.line_lead, LineStyle.line_levelAndThread, Level.column_eq⟩

end JobShell.Log
