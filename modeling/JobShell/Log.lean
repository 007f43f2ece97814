import JobShell.Output

/-!
# Log records

A router hands each record to the loggers whose scope covers the record's target. A scope covers a
target that is the scope itself or lies below it, segment by segment: `a` covers `a` and `a::b`,
and not `ab`.

Results:
1. `Router.mem_recipients_iff`: a record is for the loggers that cover its target.
2. `Router.deliveries_dispatch`: which loggers it is handed to, one after the other.
3. `Router.log_eq_map`: what a record changes, logger by logger.
-/

namespace JobShell.Log

inductive Level
  | error
  | warn
  | info
  | debug
  | trace
deriving DecidableEq, Repr

namespace Level

/-- The rank of a level: a greater one is less urgent, and 0 stands for no level at all. -/
def rank : Level → Nat
  | .error => 1
  | .warn => 2
  | .info => 3
  | .debug => 4
  | .trace => 5

def text : Level → String
  | .error => "ERROR"
  | .warn => "WARN"
  | .info => "INFO"
  | .debug => "DEBUG"
  | .trace => "TRACE"

/-- The level in a column of five characters. -/
def column (l : Level) : String := l.text ++ "".pushn ' ' (5 - l.text.length)

end Level

structure Record where
  target : String
  level : Level
  message : String
  /-- The thread that logs, unless it has no name. -/
  thread : Option String := none
deriving DecidableEq, Repr

/-- What stands in front of a message. -/
inductive LineStyle
  | lead (text : String)
  | levelAndThread
deriving DecidableEq, Repr

namespace LineStyle

/-- The pieces in which a line is written. -/
def pieces (a : LineStyle) (r : Record) : List String :=
  match a with
  | .lead text => [text, r.message, "\n"]
  | .levelAndThread =>
      [r.level.column, " [", r.thread.getD "main", "] ", r.message, "\n"]

/-- The whole line of a record. -/
def line (a : LineStyle) (r : Record) : Bytes :=
  ((a.pieces r).map Bytes.ofText).flatten

end LineStyle

structure Logger where
  /-- The scope with its final `::`, as characters. -/
  scope : List Char
  style : LineStyle
  writer : Writer := {}
deriving Repr

namespace Logger

def separator : List Char := [':', ':']

/-- A scope, closed by `::` unless it is already. -/
def closeScope (target : List Char) : List Char :=
  if separator.isSuffixOf target then target else target ++ separator

/-- Whether a record with this target is for a logger with this scope. -/
def coversTarget (scope target : List Char) : Bool :=
  target == scope.dropLast.dropLast || scope.isPrefixOf target

def covers (l : Logger) (target : String) : Bool := coversTarget l.scope target.toList

def create (target : String) (style : LineStyle) (room : Option Nat := none) : Logger where
  scope := closeScope target.toList
  style
  writer := { room }

/-- Write a record's line as far as it fits; a failure is nobody else's concern. -/
def write (l : Logger) (r : Record) : Logger :=
  { l with writer := (l.writer.writeAll ((l.style.pieces r).map Bytes.ofText)).2 }

def flush (l : Logger) : Logger := { l with writer := l.writer.flush }

end Logger

/-- A record that the logger at a place was handed. -/
structure Delivery where
  place : Nat
  record : Record
deriving DecidableEq, Repr

/-- The loggers in the order of their registration. -/
abbrev Router := List Logger

namespace Router

/-- Add a logger behind those that are there. -/
def register (router : Router) (l : Logger) : Router := router ++ [l]

/-- The loggers that records with a target are for, by their places. -/
def recipients (router : Router) (target : String) : List Nat :=
  (List.range router.length).filter fun i => router[i]?.any (·.covers target)

/-- Hand a record to the logger at a place, behind the deliveries that were made before. -/
def deliver (r : Record) (done : Router × List Delivery) (i : Nat) : Router × List Delivery :=
  (done.1.modify i (·.write r), done.2 ++ [⟨i, r⟩])

/-- Hand a record to one logger after the other. Yields the deliveries in the order in which they
were made. -/
def dispatch (router : Router) (r : Record) : Router × List Delivery :=
  (router.recipients r.target).foldl (deliver r) (router, [])

/-- The loggers behind a record. -/
def log (router : Router) (r : Record) : Router := (router.dispatch r).1

def flush (router : Router) : Router := router.map (·.flush)

theorem mem_recipients_iff {router : Router} {target : String} {i : Nat} :
    i ∈ router.recipients target ↔ ∃ l, router[i]? = some l ∧ l.covers target = true := by
  simp only [recipients, List.mem_filter, List.mem_range, Option.any_eq_true]
  constructor
  · rintro ⟨_, l, at_, covers⟩
    exact ⟨l, at_, covers⟩
  · rintro ⟨l, at_, covers⟩
    exact ⟨(List.getElem?_eq_some_iff.1 at_).1, l, at_, covers⟩

theorem pairwise_recipients (router : Router) (target : String) :
    (router.recipients target).Pairwise (· < ·) :=
  List.pairwise_lt_range.filter _

/-- Every place of the list is handed the record, in its turn. -/
theorem deliveries_foldl (r : Record) (places : List Nat) (done : Router × List Delivery) :
    (places.foldl (deliver r) done).2 = done.2 ++ places.map (⟨·, r⟩) := by
  induction places generalizing done with
  | nil => exact (List.append_nil _).symm
  | cons i places ih => rw [List.foldl_cons, ih, deliver, List.append_assoc]; rfl

theorem deliveries_dispatch (router : Router) (r : Record) :
    (router.dispatch r).2 = (router.recipients r.target).map (⟨·, r⟩) :=
  deliveries_foldl r _ _

/-- No logger is handed the record twice if no place occurs twice. -/
theorem getElem?_foldl_deliver (r : Record) (i : Nat) {places : List Nat} (once : places.Nodup)
    (done : Router × List Delivery) :
    (places.foldl (deliver r) done).1[i]? =
      done.1[i]?.map fun l => if i ∈ places then l.write r else l := by
  induction places generalizing done with
  | nil => simp
  | cons j places ih =>
      obtain ⟨first, once⟩ := List.nodup_cons.1 once
      rw [List.foldl_cons, ih once, deliver, List.getElem?_modify]
      by_cases same : j = i
      · subst same
        cases done.1[j]? <;> simp [first]
      · simp [same, Ne.symm same]

/-- A logger changes with a record if it covers the target, and in no other way. -/
theorem log_eq_map (router : Router) (r : Record) :
    router.log r = router.map fun l => if l.covers r.target then l.write r else l := by
  refine List.ext_getElem? fun i => ?_
  have once := (pairwise_recipients router r.target).imp Nat.ne_of_lt
  rw [log, dispatch, getElem?_foldl_deliver r i once, List.getElem?_map]
  cases at_ : router[i]? with
  | none => rfl
  | some l => simp [mem_recipients_iff, at_]

end Router

/-- Whether a level is let through under the greatest rank that is wanted. -/
def enabled (greatest : Nat) (l : Level) : Bool := l.rank ≤ greatest

/-- The target of messages for the user. -/
def userTarget : String := "msh::user"

/-- The target of messages for developers. -/
def developerTarget : String := "msh::dev"

/-- The router for messages to the user, each behind the given text. -/
def userRouter (text : String) : Router := Router.register [] (.create userTarget (.lead text))

end JobShell.Log
