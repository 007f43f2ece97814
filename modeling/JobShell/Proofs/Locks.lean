import JobShell.Launch.Child
import JobShell.Proofs.Prompt
import Mathlib.Logic.Function.Basic
import Mathlib.Logic.Relation

/-!
# The locks of the shell

The slot, the exit flag, the registry, standard output and standard error each have a lock. Here a
call is not one step but the way through it: the thread takes the locks that the call needs, writes
what is to be written under them, does what the call is for and gives the locks back, and the other
threads take their steps in between. A thread that finds the slot not as it waits for it gives the
lock back and sleeps; it may wake at any time, and then begins its call again.

What a thread holds can be read off the motions that it has still ahead: it is what it gives back
without taking it first. So the order in which locks are taken is a property of the ways through
the calls, and the invariant says for each thread that it is on one of them. The fork needs no
lock. While it is made the execution thread serves a request, so the input thread waits for the
vacancy, and it is the only one that ever takes the lock of standard error.

Results:
1. `Call.isOrderly_route`: on its way through a call a thread takes locks in order.
2. `Locked.Run.shell`, `Locked.Run.of_moves`: with the locks the threads do what they do
   without them.
3. `Locked.Kept.step`: every step of every thread keeps what is known of the owners.
4. `locks_in_order`: nobody waits in a circle, and whenever a command is forked its child finds the
   lock of standard error free.
-/

namespace JobShell

open Thread (Input Execution Signals Supervisor Status)

/-! ## The way through a call -/

inductive Lock
  | slot
  | exitFlag
  /-- The lock of standard output. -/
  | output
  /-- The lock of the registry. -/
  | jobs
  /-- The lock of standard error. -/
  | errors
deriving DecidableEq, Repr

namespace Lock

/-- The locks that a thread may hold while it waits for this one. -/
def below : Lock → List Lock
  | .slot | .exitFlag | .errors => []
  | .output => [.slot]
  | .jobs => [.slot, .output]

/-- How many locks come before. -/
def rank (l : Lock) : Nat := l.below.length

theorem rank_lt {l m : Lock} (earlier : l ∈ m.below) : l.rank < m.rank := by
  cases l <;> cases m <;> revert earlier <;> decide

end Lock

/-- What a thread does on its way through a call. -/
inductive Motion
  | take (l : Lock)
  | write (bs : Bytes)
  /-- Do what the call is for. -/
  | perform
  | give (l : Lock)
deriving DecidableEq, Repr

namespace Motion

/-- The locks that are held with these motions ahead. -/
def due : List Motion → List Lock
  | [] => []
  | .take l :: rest => (due rest).filter (· ≠ l)
  | .give l :: rest => l :: due rest
  | .write _ :: rest | .perform :: rest => due rest

/-- A lock is taken only if it is not held and all that are held come before it, and nothing is
given back twice. -/
def IsOrderly : List Motion → Prop
  | [] => True
  | .take l :: rest => l ∈ due rest ∧ (∀ m ∈ due (.take l :: rest), m ∈ l.below) ∧ IsOrderly rest
  | .give l :: rest => l ∉ due rest ∧ IsOrderly rest
  | .write _ :: rest | .perform :: rest => IsOrderly rest

theorem IsOrderly.tail {m : Motion} {rest : List Motion} (orderly : IsOrderly (m :: rest)) :
    IsOrderly rest := by
  cases m with
  | take l => exact orderly.2.2
  | give l => exact orderly.2
  | write | perform => exact orderly

theorem IsOrderly.suffix {ms rest : List Motion} (orderly : IsOrderly ms) (part : rest <:+ ms) :
    IsOrderly rest := by
  induction ms with
  | nil => exact List.suffix_nil.1 part ▸ orderly
  | cons m ms ih =>
      rcases List.suffix_cons_iff.1 part with rfl | part
      · exact orderly
      · exact ih orderly.tail part

theorem give_mem_of_mem_due {l : Lock} {ms : List Motion} (held : l ∈ due ms) : .give l ∈ ms := by
  induction ms with
  | nil => cases held
  | cons m ms ih =>
      cases m with
      | take l' => exact .tail _ (ih (List.mem_filter.1 held).1)
      | give l' =>
          rcases List.mem_cons.1 held with rfl | held
          · exact .head _
          · exact .tail _ (ih held)
      | write | perform => exact .tail _ (ih held)

end Motion

namespace Call

open Motion (due IsOrderly)

/-- The locks under which a call is performed, in the order in which they are taken. -/
def locks : Call → List Lock
  | .offer _ | .awaitVacancy | .awaitRequest | .release | .printByOccupancy .. => [.slot]
  | .isExiting | .setExiting => [.exitFlag]
  | .track .. | .untrack _ | .trackedPids | .forgetJobs => [.jobs]
  | .print _ => [.output]
  | .printJobs => [.output, .jobs]
  | .complain _ => [.errors]
  | _ => []

/-- What is written, write by write, once the slot has been looked at. -/
def writes (pieces : List Bytes) : Call → List Motion
  | .printByOccupancy .. => pieces.flatMap fun bs => [.take .output, .write bs, .give .output]
  | _ => []

/-- The way to the call itself. -/
def approach (pieces : List Bytes) (c : Call) : List Motion :=
  c.locks.map .take ++ c.writes pieces

/-- The way back. -/
def retreat (c : Call) : List Motion := c.locks.reverse.map .give

/-- The way through a call. -/
def route (pieces : List Bytes) (c : Call) : List Motion :=
  c.approach pieces ++ .perform :: c.retreat

variable {c : Call} {pieces : List Bytes} {rest : List Motion}

theorem orderly_writes (pieces : List Bytes) (c : Call) (orderly : IsOrderly rest)
    (held : due rest = [.slot]) :
    IsOrderly (c.writes pieces ++ rest) ∧ due (c.writes pieces ++ rest) = [.slot] := by
  cases c with
  | printByOccupancy vacant occupied =>
      induction pieces with
      | nil => exact ⟨orderly, held⟩
      | cons bs pieces ih =>
          obtain ⟨orderly, held⟩ := ih
          simp only [writes] at orderly held
          simp [writes, IsOrderly, due, orderly, held, Lock.below]
  | _ => exact ⟨orderly, held⟩

/-- Locks are taken in order, and at the end nothing is held. -/
theorem isOrderly_route (pieces : List Bytes) (c : Call) :
    IsOrderly (c.route pieces) ∧ due (c.route pieces) = [] := by
  cases c with
  | printByOccupancy vacant occupied =>
      have back : IsOrderly [.perform, .give .slot] := by simp [IsOrderly, due]
      obtain ⟨orderly, held⟩ := orderly_writes pieces (.printByOccupancy vacant occupied) back rfl
      simp [route, approach, retreat, locks, IsOrderly, due, orderly, held]
  | _ => simp [route, approach, retreat, locks, writes, IsOrderly, due, Lock.below]

theorem perform_not_mem_approach (pieces : List Bytes) (c : Call) :
    .perform ∉ c.approach pieces := by
  cases c <;> simp [approach, locks, writes]

theorem perform_not_mem_retreat (c : Call) : .perform ∉ c.retreat := by
  simp [retreat]

/-- What is ahead once the call has been performed. -/
theorem eq_retreat (part : .perform :: rest <:+ c.route pieces) : rest = c.retreat := by
  obtain ⟨front, same⟩ := part
  have split := (List.append_cons_inj_of_notMem (perform_not_mem_approach pieces c)
    (perform_not_mem_retreat c)).1 same.symm
  exact split.2.2.symm

theorem suffix_retreat (part : rest <:+ c.route pieces) (performed : .perform ∉ rest) :
    rest <:+ c.retreat := by
  have whole : .perform :: c.retreat <:+ c.route pieces := List.suffix_append ..
  rcases List.suffix_or_suffix_of_suffix part whole with inside | inside
  · rcases List.suffix_cons_iff.1 inside with rfl | later
    · exact absurd (.head _) performed
    · exact later
  · exact absurd (inside.subset (.head _)) performed

theorem due_retreat (c : Call) : due c.retreat = c.locks.reverse := by
  cases c <;> rfl

/-- The lock of standard error is taken for complaints only. -/
theorem complains_of_give (gives : .give .errors ∈ c.route pieces) : ∃ bs, c = .complain bs := by
  cases c with
  | complain bs => exact ⟨bs, rfl⟩
  | _ => simp [route, approach, retreat, locks, writes] at gives

/-- The thread that alone makes calls of a kind, where there is one. -/
def maker? : Call → Option ThreadId
  | .complain _ => some .input
  | .fork _ => some .execution
  | _ => none

theorem writes_eq_nil (free : c.locksSlot = false) : c.writes pieces = [] := by
  cases c <;> first | rfl | cases free

theorem locks_of_locksSlot (locks : c.locksSlot = true) : c.locks = [.slot] := by
  cases c <;> first | rfl | cases locks

end Call

/-! ## Who owns what -/

/-- Where a thread stands with its calls. -/
inductive Place
  /-- Between two calls. -/
  | idle
  /-- On its way through a call, with these motions ahead. -/
  | within (c : Call) (rest : List Motion)
  /-- Asleep until the slot changes. -/
  | asleep
deriving Repr

namespace Place

/-- A call is over when nothing is ahead. -/
def after (c : Call) : List Motion → Place
  | [] => .idle
  | rest => .within c rest

/-- The locks that a thread at this place holds. -/
def due : Place → List Lock
  | .within _ rest => Motion.due rest
  | .idle | .asleep => []

theorem due_after (c : Call) (rest : List Motion) : (after c rest).due = Motion.due rest := by
  cases rest <;> rfl

theorem after_eq_within {c d : Call} {rest ms : List Motion} (at_ : after c rest = .within d ms) :
    d = c ∧ ms = rest ∧ rest ≠ [] := by
  cases rest with
  | nil => cases at_
  | cons m rest =>
      cases at_
      exact ⟨rfl, rfl, nofun⟩

end Place

theorem Thread.Input.readOn_ne_waiting (maxToken : Nat) (r : LineReader) (outcome : ReadOutcome) :
    readOn maxToken r outcome ≠ .waiting := by
  unfold readOn accept dispatch
  repeat' split
  all_goals exact nofun

namespace Shell

variable {W : Type} {world : World W} {s later : Shell W} {e : Event} {t : ThreadId} {c : Call}

/-- The shell after a call that is performed as the last thing under its locks. What is written
with the slot locked has been written before. -/
def performed (s : Shell W) (c : Call) (later : Shell W) : Shell W :=
  if c.locksSlot then later.withWorld s.shared.world else later

theorem exists_performed_eq (s : Shell W) (c : Call) (later : Shell W) :
    ∃ w, s.performed c later = later.withWorld w := by
  rw [performed]
  split
  · exact ⟨_, rfl⟩
  · exact ⟨later.shared.world, rfl⟩

theorem call?_withWorld (s : Shell W) (w : W) (t : ThreadId) :
    (s.withWorld w).call? t = s.call? t := by
  cases t <;> rfl

theorem Moves.world_eq (moves : s.Moves world e later) (silent : ∀ bs w, world.print bs w = w)
    (locks : e.call.locksSlot = true) : later.shared.world = s.shared.world := by
  have does := moves.does
  obtain ⟨thread, call, reply⟩ := e
  cases call with
  | offer | awaitVacancy | awaitRequest | release => exact does
  | printByOccupancy =>
      obtain ⟨bs, written⟩ := does
      exact written.trans (silent bs _)
  | _ => cases locks

/-- What is known of a thread that has performed a call and has not given back all its locks. -/
structure LeftBy (s : Shell W) (t : ThreadId) (c : Call) : Prop where
  complained : ∀ {bs}, c = .complain bs → t = .input ∧ s.input = .running .looking
  /-- An offer that was accepted is not taken before the lock is given back. -/
  offered : t = .input → s.input = .running .waiting →
    c.locks = [.slot] ∧ ∃ r, s.shared.slot = .ready r

/-- The input thread comes to wait for a vacancy by an offer that was accepted. -/
theorem ready_of_waiting {i : Input} {reply shared}
    (answered : s.shared.answer world (i.turn s.limits).call = some (reply, shared))
    (waits : (i.turn s.limits).resume reply = .running .waiting) :
    (i.turn s.limits).call.locks = [.slot] ∧ ∃ r, shared.slot = .ready r := by
  cases i with
  | offering c =>
      simp only [Input.turn, Shared.answer] at answered
      split at answered
      · next slot accepted =>
          cases answered
          exact ⟨rfl, .run c, (Slot.offer_eq_ok_iff.1 accepted).2⟩
      · cases answered
        cases waits
  | reading r => exact absurd (Status.running.inj waits) (Input.readOn_ne_waiting _ r _)
  | looking | leaving | moving | offeringShutdown => cases reply <;> cases waits
  | _ => cases waits

theorem maker_of_call? {u : ThreadId} (next : s.call? t = some c) (made : c.maker? = some u) :
    t = u := by
  cases atCall_of_call? next with
  | @input i => cases i <;> cases made; rfl
  | @execution x =>
      cases x with
      | launching c l => cases l <;> cases made; rfl
      | releasing result => cases result <;> cases made
      | _ => cases made
  | @signals g =>
      cases g with
      | reaping r => cases r <;> cases made
      | _ => cases made
  | @supervisor v => cases v <;> cases made

theorem input_of_complain {bs : Bytes} (next : s.call? t = some (.complain bs)) :
    t = .input ∧ ∃ message, s.input = .running (.complaining message) := by
  obtain rfl := maker_of_call? next rfl
  refine ⟨rfl, ?_⟩
  generalize made : Call.complain bs = c at next
  cases atCall_of_call? next with
  | @input i at_ =>
      cases i with
      | complaining message => exact ⟨message, at_⟩
      | _ => cases made

theorem execution_of_fork {command : Command} (next : s.call? t = some (.fork command)) :
    t = .execution ∧ s.execution = .running (.launching command .forking) := by
  obtain rfl := maker_of_call? next rfl
  refine ⟨rfl, ?_⟩
  generalize made : Call.fork command = c at next
  cases atCall_of_call? next with
  | @execution x at_ =>
      cases x with
      | launching c l => cases l <;> cases made; exact at_
      | releasing result => cases result <;> cases made
      | _ => cases made

theorem LeftBy.of_moves (moves : s.Moves world e later) : later.LeftBy e.thread e.call := by
  constructor
  · intro bs complains
    obtain ⟨own, message, waits⟩ := input_of_complain (complains ▸ moves.call?_eq)
    cases moves with
    | input at_ =>
        cases at_.symm.trans waits
        exact ⟨rfl, rfl⟩
    | execution | signals | supervisor => cases own
  · intro own waits
    cases moves with
    | input at_ answered => exact ready_of_waiting answered waits
    | execution | signals | supervisor => cases own

theorem LeftBy.of_ne {u : ThreadId} (left : s.LeftBy u c) (moves : s.Moves world e later)
    (other : e.thread ≠ u) (slotKept : c.locks = [.slot] → later.shared.slot = s.shared.slot) :
    later.LeftBy u c where
  complained complains := by
    obtain ⟨rfl, at_⟩ := left.complained complains
    exact ⟨rfl, (moves.input_eq other).trans at_⟩
  offered own waits := by
    subst own
    obtain ⟨locks, r, ready⟩ := left.offered rfl ((moves.input_eq other).symm.trans waits)
    exact ⟨locks, r, (slotKept locks).trans ready⟩

theorem LeftBy.withWorld (left : s.LeftBy t c) (w : W) : (s.withWorld w).LeftBy t c :=
  ⟨left.complained, left.offered⟩

end Shell

/-- The shell, who owns each of its locks, and where the threads stand. -/
structure Locked (W : Type) where
  shell : Shell W
  owner : Lock → Option ThreadId := fun _ => none
  place : ThreadId → Place := fun _ => .idle

namespace Locked

variable {W : Type}

def boot (limits : Limits) (w : W) : Locked W := { shell := .boot limits w }

/-- `g.Stands t c ms`: a thread is in a call, or about to begin it, with some motions ahead. What
it writes with the slot locked is settled once it has the lock. -/
inductive Stands (g : Locked W) (t : ThreadId) : Call → List Motion → Prop
  | idle {c : Call} :
      g.place t = .idle → g.shell.call? t = some c → Stands g t c (c.route (g.shell.pieces t))
  | within {c : Call} {ms : List Motion} : g.place t = .within c ms → Stands g t c ms

def put (g : Locked W) (t : ThreadId) (p : Place) : Locked W :=
  { g with place := Function.update g.place t p }

def grant (g : Locked W) (l : Lock) (owner : Option ThreadId) : Locked W :=
  { g with owner := Function.update g.owner l owner }

/-- `g.Steps world t after`: a thread takes one step. -/
inductive Steps (world : World W) (g : Locked W) (t : ThreadId) : Locked W → Prop
  | take {c : Call} {l : Lock} {rest : List Motion} :
      g.Stands t c (.take l :: rest) → g.owner l = none →
      Steps world g t ((g.grant l (some t)).put t (.after c rest))
  | write {c : Call} {bs : Bytes} {rest : List Motion} :
      g.Stands t c (.write bs :: rest) →
      Steps world g t
        { g.put t (.after c rest) with
          shell := g.shell.withWorld (world.print bs g.shell.shared.world) }
  | perform {c : Call} {rest : List Motion} {e : Event} {later : Shell W} :
      g.Stands t c (.perform :: rest) → e.thread = t → g.shell.Moves world e later →
      Steps world g t { g.put t (.after c rest) with shell := g.shell.performed c later }
  /-- The slot is not as the thread waits for it. -/
  | sleep {c : Call} {rest : List Motion} :
      g.Stands t c (.perform :: rest) → c = .awaitVacancy ∨ c = .awaitRequest →
      (∀ {e later}, g.shell.Moves world e later → e.thread ≠ t) →
      Steps world g t ((g.grant .slot none).put t .asleep)
  | give {c : Call} {l : Lock} {rest : List Motion} :
      g.Stands t c (.give l :: rest) → Steps world g t ((g.grant l none).put t (.after c rest))
  /-- A sleeper wakes, notified or not, and begins its call again. -/
  | wake : g.place t = .asleep → Steps world g t (g.put t .idle)

/-- A run of the shell with its locks. -/
inductive Run (world : World W) (outside : W → W → Prop) (g : Locked W) : Locked W → Prop
  | start : Run world outside g g
  | step {now after : Locked W} {t : ThreadId} :
      Run world outside g now → now.Steps world t after → Run world outside g after
  | outside {now : Locked W} {w : W} :
      Run world outside g now → outside now.shell.shared.world w →
      Run world outside g { now with shell := now.shell.withWorld w }

/-- A thread is about to take a lock. -/
def Awaits (g : Locked W) (t : ThreadId) (l : Lock) : Prop :=
  ∃ c rest, g.Stands t c (.take l :: rest)

/-- A thread waits for a lock that another one owns. -/
def WaitsFor (g : Locked W) (t u : ThreadId) : Prop :=
  ∃ l, g.Awaits t l ∧ g.owner l = some u

variable {world : World W} {outside : W → W → Prop} {first g after : Locked W} {t u : ThreadId}
  {c : Call} {l : Lock} {rest ms : List Motion}

/-- With the locks the threads do nothing that they would not do without them: what they write is a
change of the world, from whichever side it comes. -/
theorem Run.shell (run : Run world outside first g) :
    ∃ t, JobShell.Run world (fun _ _ => True) first.shell t g.shell := by
  induction run with
  | start => exact ⟨[], .start⟩
  | @step now after t _ steps ih =>
      obtain ⟨t, run⟩ := ih
      cases steps with
      | take | sleep | give | wake => exact ⟨t, run⟩
      | write => exact ⟨t, run.outside trivial⟩
      | @perform c _ e later _ _ moves =>
          obtain ⟨w, same⟩ := now.shell.exists_performed_eq c later
          refine ⟨t ++ [e], ?_⟩
          show JobShell.Run _ _ _ _ (now.shell.performed c later)
          rw [same]
          exact (run.move moves).outside trivial
  | outside _ _ ih =>
      obtain ⟨t, run⟩ := ih
      exact ⟨t, run.outside trivial⟩

/-! ## What is known of the owners -/

/-- What is known of a thread within a call. -/
structure OnWay (s : Shell W) (t : ThreadId) (c : Call) (rest : List Motion) : Prop where
  part : ∃ pieces, rest <:+ c.route pieces
  begun : rest ≠ []
  ahead : .perform ∈ rest → s.call? t = some c
  behind : .perform ∉ rest → s.LeftBy t c

theorem OnWay.withWorld {s : Shell W} (way : OnWay s t c rest) (w : W) :
    OnWay (s.withWorld w) t c rest where
  part := way.part
  begun := way.begun
  ahead ahead := (Shell.call?_withWorld s w t).trans (way.ahead ahead)
  behind performed := (way.behind performed).withWorld w

/-- Every thread is on its way through a call or holds nothing, and a lock belongs to the thread
that is to give it back. -/
structure Kept (g : Locked W) : Prop where
  owned : ∀ {l t}, g.owner l = some t ↔ l ∈ (g.place t).due
  way : ∀ {t c rest}, g.place t = .within c rest → OnWay g.shell t c rest

theorem Kept.boot (limits : Limits) (w : W) : (boot limits w).Kept where
  owned := ⟨nofun, nofun⟩
  way := nofun

namespace Kept

theorem part (kept : g.Kept) (stands : g.Stands t c ms) : ∃ pieces, ms <:+ c.route pieces := by
  cases stands with
  | idle => exact ⟨_, List.suffix_rfl⟩
  | within at_ => exact (kept.way at_).part

theorem isOrderly (kept : g.Kept) (stands : g.Stands t c ms) : Motion.IsOrderly ms := by
  obtain ⟨pieces, part⟩ := kept.part stands
  exact (c.isOrderly_route pieces).1.suffix part

theorem call?_eq (kept : g.Kept) (stands : g.Stands t c ms) (ahead : .perform ∈ ms) :
    g.shell.call? t = some c := by
  cases stands with
  | idle _ next => exact next
  | within at_ => exact (kept.way at_).ahead ahead

theorem owned_iff (kept : g.Kept) (stands : g.Stands t c ms) :
    g.owner l = some t ↔ l ∈ Motion.due ms := by
  rw [kept.owned]
  cases stands with
  | idle at_ => rw [at_, (c.isOrderly_route _).2, Place.due]
  | within at_ => rw [at_, Place.due]

theorem owner_at_call (kept : g.Kept) (stands : g.Stands t c (.perform :: rest)) :
    g.owner l = some t ↔ l ∈ c.locks := by
  obtain ⟨pieces, part⟩ := kept.part stands
  rw [kept.owned_iff stands, Motion.due, Call.eq_retreat part, Call.due_retreat, List.mem_reverse]

theorem owner_of_performed (kept : g.Kept) (at_ : g.place t = .within c rest)
    (performed : .perform ∉ rest) (locks : c.locks = [.slot]) : g.owner .slot = some t := by
  obtain ⟨⟨pieces, part⟩, begun, _, _⟩ := kept.way at_
  have back := Call.suffix_retreat part performed
  rw [Call.retreat, locks] at back
  rcases List.suffix_cons_iff.1 back with same | later
  · rw [kept.owned, at_, same]
    exact List.mem_singleton_self _
  · exact absurd (List.suffix_nil.1 later) begun

/-- What a thread has ahead after a motion that is not the call itself. -/
theorem goesOn {m : Motion} (kept : g.Kept) (stands : g.Stands t c (m :: rest))
    (other : m ≠ .perform) (begun : rest ≠ []) : OnWay g.shell t c rest where
  part := by
    obtain ⟨pieces, part⟩ := kept.part stands
    exact ⟨pieces, (List.suffix_cons m rest).trans part⟩
  begun := begun
  ahead ahead := kept.call?_eq stands (.tail _ ahead)
  behind performed := by
    have none : .perform ∉ m :: rest := List.not_mem_cons_of_ne_of_not_mem other.symm performed
    generalize whole : m :: rest = ms at stands none
    cases stands with
    | idle => exact absurd (List.mem_append_right _ (.head _)) none
    | within at_ => exact (kept.way at_).behind none

/-- A step of one thread: it has to be said what is known of that thread afterwards, that the
others keep their locks, and that they are still on their ways. -/
theorem turn {s : Shell W} {owner : Lock → Option ThreadId} {p : Place} (kept : g.Kept)
    (own : ∀ {l}, owner l = some t ↔ l ∈ p.due)
    (others : ∀ {l u}, u ≠ t → (owner l = some u ↔ g.owner l = some u))
    (way : ∀ {c rest}, p = .within c rest → OnWay s t c rest)
    (ways : ∀ {u c rest}, u ≠ t → g.place u = .within c rest → OnWay s u c rest) :
    Kept { shell := s, owner, place := Function.update g.place t p } where
  owned {l u} := by
    by_cases same : u = t
    · subst same
      simpa using own
    · simpa [same] using (others same).trans kept.owned
  way {u c rest} at_ := by
    by_cases same : u = t
    · subst same
      exact way (by simpa using at_)
    · exact ways same (by simpa [same] using at_)

theorem take (kept : g.Kept) (stands : g.Stands t c (.take l :: rest)) (free : g.owner l = none) :
    ((g.grant l (some t)).put t (.after c rest)).Kept := by
  have orderly := kept.isOrderly stands
  refine kept.turn (fun {m} => ?_) (fun {m u} other => ?_) (fun at_ => ?_) fun _ => kept.way
  · show Function.update g.owner l (some t) m = some t ↔ _
    rw [Place.due_after]
    by_cases same : m = l
    · subst same
      simpa using orderly.1
    · rw [Function.update_of_ne same, kept.owned_iff stands]
      simp [Motion.due, same]
  · show Function.update g.owner l (some t) m = some u ↔ _
    by_cases same : m = l
    · subst same
      simp [free, other.symm]
    · rw [Function.update_of_ne same]
  · obtain ⟨rfl, rfl, begun⟩ := Place.after_eq_within at_
    exact kept.goesOn stands nofun begun

/-- A thread gives back a lock of its own. -/
theorem giveBack {p : Place} (kept : g.Kept) (mine : g.owner l = some t)
    (left : ∀ {m}, m ∈ p.due ↔ m ≠ l ∧ g.owner m = some t)
    (way : ∀ {c rest}, p = .within c rest → OnWay g.shell t c rest) :
    ((g.grant l none).put t p).Kept := by
  refine kept.turn (fun {m} => ?_) (fun {m u} other => ?_) way fun _ => kept.way
  · show Function.update g.owner l none m = some t ↔ _
    rw [left]
    by_cases same : m = l <;> simp [same]
  · show Function.update g.owner l none m = some u ↔ _
    by_cases same : m = l
    · subst same
      simp [mine, other.symm]
    · rw [Function.update_of_ne same]

theorem give (kept : g.Kept) (stands : g.Stands t c (.give l :: rest)) :
    ((g.grant l none).put t (.after c rest)).Kept := by
  have orderly := kept.isOrderly stands
  refine kept.giveBack ((kept.owned_iff stands).2 (.head _)) (fun {m} => ?_) fun at_ => ?_
  · rw [Place.due_after, kept.owned_iff stands, Motion.due, List.mem_cons]
    constructor
    · intro held
      exact ⟨fun same => orderly.1 (same ▸ held), .inr held⟩
    · rintro ⟨other, same | held⟩
      · exact absurd same other
      · exact held
  · obtain ⟨rfl, rfl, begun⟩ := Place.after_eq_within at_
    exact kept.goesOn stands nofun begun

theorem sleep (kept : g.Kept) (stands : g.Stands t c (.perform :: rest))
    (sleeps : c = .awaitVacancy ∨ c = .awaitRequest) :
    ((g.grant .slot none).put t .asleep).Kept := by
  have locks : c.locks = [.slot] := by rcases sleeps with rfl | rfl <;> rfl
  have held {m : Lock} : g.owner m = some t ↔ m = .slot := by
    rw [kept.owner_at_call stands, locks, List.mem_singleton]
  exact kept.giveBack (held.2 rfl) (by simp [Place.due, held]) nofun

theorem write {bs : Bytes} (kept : g.Kept) (stands : g.Stands t c (.write bs :: rest)) (w : W) :
    Kept { g.put t (.after c rest) with shell := g.shell.withWorld w } := by
  refine kept.turn (fun {m} => ?_) (fun _ => Iff.rfl) (fun at_ => ?_) fun _ at_ =>
    (kept.way at_).withWorld w
  · rw [Place.due_after]
    exact (kept.owned_iff stands :)
  · obtain ⟨rfl, rfl, begun⟩ := Place.after_eq_within at_
    exact (kept.goesOn stands nofun begun).withWorld w

theorem wake (kept : g.Kept) (at_ : g.place t = .asleep) : (g.put t .idle).Kept := by
  refine kept.turn (fun {m} => ?_) (fun _ => Iff.rfl) nofun fun _ => kept.way
  rw [kept.owned, at_, Place.due, Place.due]

theorem perform {e : Event} {later : Shell W} (kept : g.Kept)
    (stands : g.Stands e.thread c (.perform :: rest)) (moves : g.shell.Moves world e later)
    (w : W) :
    Kept { g.put e.thread (.after c rest) with shell := later.withWorld w } := by
  obtain ⟨pieces, part⟩ := kept.part stands
  have back := Call.eq_retreat part
  have made : c = e.call :=
    Option.some.inj ((kept.call?_eq stands (.head _)).symm.trans moves.call?_eq)
  have performed : .perform ∉ rest := back ▸ Call.perform_not_mem_retreat c
  refine kept.turn (fun {m} => ?_) (fun _ => Iff.rfl) (fun at_ => ?_) fun {u d ms} other at_ => ?_
  · rw [Place.due_after]
    exact (kept.owned_iff stands :)
  · obtain ⟨rfl, rfl, begun⟩ := Place.after_eq_within at_
    refine ⟨⟨pieces, (List.suffix_cons ..).trans part⟩, begun, fun ahead => absurd ahead performed,
      fun _ => ?_⟩
    rw [made]
    exact (Shell.LeftBy.of_moves moves).withWorld w
  · have way := kept.way at_
    refine ⟨way.part, way.begun, fun ahead => ?_, fun performed => ?_⟩
    · exact (moves.call?_of_ne other.symm).trans (way.ahead ahead)
    · refine ((way.behind performed).of_ne moves other.symm fun locks => ?_).withWorld w
      -- the other thread holds the slot, so this call is not about the slot
      refine moves.slot_eq (Call.concernsSlot_of_not_locksSlot (Bool.eq_false_iff.2 fun both => ?_))
      have mine : g.owner .slot = some e.thread := by
        rw [kept.owner_at_call stands, made, Call.locks_of_locksSlot both]
        exact List.mem_singleton_self _
      have theirs := kept.owner_of_performed at_ performed locks
      exact other (Option.some.inj (theirs.symm.trans mine))

theorem step (kept : g.Kept) (steps : g.Steps world t after) : after.Kept := by
  cases steps with
  | take stands free => exact kept.take stands free
  | write stands => exact kept.write stands _
  | @perform c rest e later stands own moves =>
      subst own
      obtain ⟨w, same⟩ := g.shell.exists_performed_eq c later
      rw [same]
      exact kept.perform stands moves w
  | sleep stands sleeps => exact kept.sleep stands sleeps
  | give stands => exact kept.give stands
  | wake at_ => exact kept.wake at_

end Kept

theorem Run.kept {limits : Limits} {w : W} (run : Run world outside (boot limits w) g) :
    g.Kept := by
  induction run with
  | start => exact .boot limits w
  | step _ steps ih => exact ih.step steps
  | @outside now w _ _ ih => exact ⟨ih.owned, fun at_ => (ih.way at_).withWorld w⟩

/-! ## A whole call -/

/-- The shell while only one thread is in a call, with some motions ahead. -/
def along (s : Shell W) (t : ThreadId) (p : Place) (ms : List Motion) : Locked W where
  shell := s
  owner l := if l ∈ Motion.due ms then some t else none
  place := Function.update (fun _ => .idle) t p

section Along

variable {s later : Shell W} {p q : Place} {e : Event}

theorem along_idle (s : Shell W) (t : ThreadId) (ms : List Motion) (nothing : Motion.due ms = []) :
    along s t .idle ms = { shell := s } := by
  simp [along, nothing]

theorem place_along : (along s t p ms).place t = p := by
  simp [along]

/-- A lock changes hands as the motions ahead say. -/
theorem along_grant {owner : Option ThreadId}
    (now : owner = if l ∈ Motion.due rest then some t else none)
    (others : ∀ {m}, m ≠ l → (m ∈ Motion.due ms ↔ m ∈ Motion.due rest)) :
    ((along s t p ms).grant l owner).put t q = along s t q rest := by
  refine congrArg₂ (Locked.mk s) (funext fun m => ?_) (by simp [along, grant])
  by_cases same : m = l
  · subst same
    simp [along, grant, now]
  · simp [along, grant, same, others same]

theorem along_take (orderly : Motion.IsOrderly (.take l :: rest)) :
    ((along s t p (.take l :: rest)).grant l (some t)).put t q = along s t q rest :=
  along_grant (if_pos orderly.1).symm fun other => by simp [Motion.due, other]

theorem along_give (orderly : Motion.IsOrderly (.give l :: rest)) :
    ((along s t p (.give l :: rest)).grant l none).put t q = along s t q rest :=
  along_grant (if_neg orderly.1).symm fun other => by simp [Motion.due, other]

theorem along_put {m : Motion} (keeps : Motion.due (m :: rest) = Motion.due rest) :
    { (along s t p (m :: rest)).put t q with shell := later } = along later t q rest := by
  simp [along, put, keeps]

/-- What has been written after some motions. -/
def printed (world : World W) : List Motion → W → W
  | [], w => w
  | .write bs :: ms, w => printed world ms (world.print bs w)
  | _ :: ms, w => printed world ms w

theorem printed_approach (world : World W) (pieces : List Bytes) (c : Call) (w : W) :
    printed world (c.approach pieces) w = printed world (c.writes pieces) w := by
  rw [Call.approach]
  induction c.locks with
  | nil => rfl
  | cons l ls ih => exact ih

theorem printed_eq (silent : ∀ bs w, world.print bs w = w) (ms : List Motion) (w : W) :
    printed world ms w = w := by
  induction ms with
  | nil => rfl
  | cons m ms ih =>
      cases m with
      | write bs =>
          rw [printed, silent]
          exact ih
      | take | perform | give => exact ih

/-- A thread that nobody gets in the way of comes to the point where it performs its call. -/
theorem Run.reach (front back : List Motion)
    (run : Run world outside first (along s t p (front ++ .perform :: back)))
    (stands : (along s t p (front ++ .perform :: back)).Stands t c (front ++ .perform :: back))
    (orderly : Motion.IsOrderly (front ++ .perform :: back)) (before : .perform ∉ front) :
    ∃ q, Run world outside first
        (along (s.withWorld (printed world front s.shared.world)) t q (.perform :: back)) ∧
      (along (s.withWorld (printed world front s.shared.world)) t q (.perform :: back)).Stands t c
        (.perform :: back) := by
  induction front generalizing s p with
  | nil => exact ⟨p, run, stands⟩
  | cons m front ih =>
      rw [List.cons_append] at run stands orderly
      have within : Place.after c (front ++ .perform :: back) =
          .within c (front ++ .perform :: back) := by
        cases front <;> rfl
      have stands' {s : Shell W} : (along s t (.after c (front ++ .perform :: back))
          (front ++ .perform :: back)).Stands t c (front ++ .perform :: back) :=
        .within (place_along.trans within)
      obtain ⟨other, later⟩ := not_or.1 (List.mem_cons.not.1 before)
      cases m with
      | take l =>
          have taken := run.step (.take stands (if_neg (by simp [Motion.due])))
          rw [along_take orderly] at taken
          exact ih taken stands' orderly.tail later
      | write bs =>
          have written := run.step (.write stands)
          rw [along_put rfl] at written
          exact ih written stands' orderly.tail later
      | perform => exact absurd rfl other
      | give l =>
          have given := run.step (.give stands)
          rw [along_give orderly] at given
          exact ih given stands' orderly.tail later

theorem Run.leave {ls : List Lock} (run : Run world outside first
      (along s t (.after c (ls.map .give)) (ls.map .give)))
    (orderly : Motion.IsOrderly (ls.map .give)) : Run world outside first { shell := s } := by
  induction ls with
  | nil =>
      rw [← along_idle s t [] rfl]
      exact run
  | cons l ls ih =>
      have later := run.step (.give (.within place_along))
      rw [List.map_cons, along_give orderly] at later
      exact ih later orderly.tail

/-- The shell after a whole call; what is written with the slot locked is written piece by
piece. -/
def afterCall (world : World W) (s : Shell W) (e : Event) (later : Shell W) : Shell W :=
  if e.call.locksSlot then
    later.withWorld (printed world (e.call.writes (s.pieces e.thread)) s.shared.world)
  else later

theorem afterCall_eq (silent : ∀ bs w, world.print bs w = w) (moves : s.Moves world e later) :
    afterCall world s e later = later := by
  rw [afterCall]
  split
  · next locks =>
      rw [printed_eq silent, ← moves.world_eq silent locks]
      rfl
  · rfl

/-- While nobody holds a lock, the threads can do with the locks what they can do without them. -/
theorem Run.of_moves (run : Run world outside first { shell := s })
    (moves : s.Moves world e later) :
    Run world outside first { shell := afterCall world s e later } := by
  obtain ⟨orderly, nothing⟩ := e.call.isOrderly_route (s.pieces e.thread)
  have start : along s e.thread .idle (e.call.route (s.pieces e.thread)) = { shell := s } :=
    along_idle s e.thread _ nothing
  have stands : (along s e.thread .idle (e.call.route (s.pieces e.thread))).Stands e.thread e.call
      (e.call.route (s.pieces e.thread)) := .idle place_along moves.call?_eq
  obtain ⟨q, reached, stands⟩ := Run.reach (e.call.approach (s.pieces e.thread)) e.call.retreat
    (start ▸ run) stands orderly (Call.perform_not_mem_approach (s.pieces e.thread) e.call)
  rw [printed_approach] at reached stands
  have back : Motion.IsOrderly e.call.retreat := orderly.suffix
    ((List.suffix_cons .perform _).trans (List.suffix_append ..))
  rw [afterCall]
  cases locks : e.call.locksSlot with
  | true =>
      obtain ⟨v, moves'⟩ := moves.withWorld locks
        (printed world (e.call.writes (s.pieces e.thread)) s.shared.world)
      have performed := reached.step (.perform stands rfl moves')
      rw [along_put rfl, Shell.performed, locks] at performed
      exact performed.leave back
  | false =>
      have nothing : e.call.writes (s.pieces e.thread) = [] := Call.writes_eq_nil locks
      rw [nothing] at reached stands
      have performed := reached.step (.perform stands rfl moves)
      rw [along_put rfl, Shell.performed, locks] at performed
      exact performed.leave back

/-- Where writing leaves the world as it is, a whole schedule of calls can be followed. -/
theorem Run.play {order : List ThreadId} {u : Trace} (silent : ∀ bs w, world.print bs w = w)
    (run : Run world outside first { shell := s }) (played : s.play world order = some (u, later)) :
    Run world outside first { shell := later } := by
  induction order generalizing s u with
  | nil =>
      cases played
      exact run
  | cons thread order ih =>
      simp only [Shell.play] at played
      split at played
      · cases played
      · next e now acted =>
          obtain ⟨⟨u, last⟩, rest, same⟩ := Option.map_eq_some_iff.1 played
          cases same
          have moves : s.Moves world e now :=
            Shell.moves_iff_act.2 (Shell.thread_of_act acted ▸ acted)
          have moved := run.of_moves moves
          rw [afterCall_eq silent moves] at moved
          exact ih moved rest

end Along

/-! ## No circles -/

theorem Stands.unique {d : Call} {ns : List Motion} (stands : g.Stands t c ms)
    (other : g.Stands t d ns) : c = d ∧ ms = ns := by
  cases stands with
  | idle at_ next =>
      cases other with
      | idle _ next' =>
          cases next.symm.trans next'
          exact ⟨rfl, rfl⟩
      | within at_' => cases at_.symm.trans at_'
  | within at_ =>
      cases other with
      | idle at_' => cases at_.symm.trans at_'
      | within at_' =>
          cases at_.symm.trans at_'
          exact ⟨rfl, rfl⟩

theorem Awaits.unique {m : Lock} (awaits : g.Awaits t l) (other : g.Awaits t m) : l = m := by
  obtain ⟨_, _, stands⟩ := awaits
  obtain ⟨_, _, stands'⟩ := other
  cases (stands.unique stands').2
  rfl

namespace Kept

theorem below_of_awaits {m : Lock} (kept : g.Kept) (awaits : g.Awaits t l)
    (held : g.owner m = some t) : m ∈ l.below := by
  obtain ⟨_, _, stands⟩ := awaits
  exact (kept.isOrderly stands).2.1 m ((kept.owned_iff stands).1 held)

/-- Along a chain of threads that wait for each other the locks come later and later. -/
theorem rank_lt (kept : g.Kept) (chain : Relation.TransGen g.WaitsFor t u) (first : g.Awaits t l)
    {m : Lock} (last : g.Awaits u m) : l.rank < m.rank := by
  induction chain generalizing m with
  | single waits =>
      obtain ⟨l', awaits, held⟩ := waits
      cases first.unique awaits
      exact Lock.rank_lt (kept.below_of_awaits last held)
  | tail _ waits ih =>
      obtain ⟨l', awaits, held⟩ := waits
      exact (ih awaits).trans (Lock.rank_lt (kept.below_of_awaits last held))

theorem no_circle (kept : g.Kept) (t : ThreadId) : ¬ Relation.TransGen g.WaitsFor t t := by
  intro circle
  obtain ⟨_, ⟨l, awaits, _⟩, _⟩ := Relation.TransGen.head'_iff.1 circle
  exact Nat.lt_irrefl _ (kept.rank_lt circle awaits awaits)

end Kept

end Locked

/-! ## The fork -/

/-- The locks that the child takes for a call. -/
def ChildCall.locks : ChildCall → List Lock
  | .complain _ => [.errors]
  | _ => []

/-- How the shell is found by a thread that is about to fork. -/
structure Locked.IsForkable {W : Type} (g : Locked W) (t : ThreadId) : Prop where
  execution : t = .execution
  /-- Nothing that this thread holds is copied, and nobody holds the lock of standard error. -/
  bare : ∀ l, g.owner l ≠ some t
  errors : g.owner .errors = none
  /-- The input thread waits for the vacancy after the offer that is being served; it is before
  this wait, on its way into it or asleep. -/
  waiting : g.shell.input = .running .waiting
  serving : g.shell.shared.slot = .running
  within : ∀ {c rest}, g.place .input = .within c rest → c = .awaitVacancy ∧ .perform ∈ rest
  /-- In the copy that the child gets, all locks are free that it takes in any of its states. -/
  child : ∀ (c : Command) (half : ChildHalf), ∀ l ∈ (half.turn c).call.locks, g.owner l = none

/-- During a launch the input thread waits for the vacancy. -/
theorem Alternation.of_launching {i : Status Input (Except Fault Unit)} {c : Command} {l : Launch}
    {slot : Slot} {exiting : Bool}
    (alternation : Alternation i (.running (.launching c l)) slot exiting) :
    i = .running .waiting ∧ slot = .running := by
  cases alternation
  exact ⟨rfl, rfl⟩

namespace Locked

variable {W : Type} {g : Locked W} {t : ThreadId} {ms : List Motion}

theorem Kept.errors_free (kept : g.Kept) (waiting : g.shell.input = .running .waiting) :
    g.owner .errors = none := by
  refine Option.eq_none_iff_forall_ne_some.2 fun u held => ?_
  have due := kept.owned.1 held
  cases at_ : g.place u with
  | idle | asleep => rw [at_] at due; cases due
  | within c rest =>
      rw [at_] at due
      obtain ⟨⟨pieces, part⟩, _, ahead, behind⟩ := kept.way at_
      obtain ⟨bs, rfl⟩ := Call.complains_of_give (part.subset (Motion.give_mem_of_mem_due due))
      by_cases performed : Motion.perform ∈ rest
      · obtain ⟨_, message, other⟩ := Shell.input_of_complain (ahead performed)
        cases waiting.symm.trans other
      · obtain ⟨_, other⟩ := (behind performed).complained rfl
        cases waiting.symm.trans other

theorem Kept.isForkable {c : Command} (kept : g.Kept) (ordered : g.shell.Coordinated)
    (stands : g.Stands t (.fork c) ms) : g.IsForkable t := by
  have ahead : ms = [.perform] := by
    cases stands with
    | idle => rfl
    | within within =>
        obtain ⟨⟨_, part⟩, begun, _, _⟩ := kept.way within
        rcases List.suffix_cons_iff.1 part with same | later
        · exact same
        · exact absurd (List.suffix_nil.1 later) begun
  subst ahead
  obtain ⟨rfl, at_⟩ := Shell.execution_of_fork (kept.call?_eq stands (.head _))
  have alternation := ordered.alternation
  rw [at_] at alternation
  obtain ⟨waiting, running⟩ := alternation.of_launching
  have errors := kept.errors_free waiting
  refine ⟨rfl, fun l => ?_, errors, waiting, running, fun {d rest} within => ?_,
    fun c half l mem => ?_⟩
  · rw [Ne, kept.owned_iff stands]
    exact List.not_mem_nil
  · obtain ⟨_, _, ahead, behind⟩ := kept.way within
    by_cases performed : Motion.perform ∈ rest
    · refine ⟨?_, performed⟩
      have next := ahead performed
      simp only [Shell.call?, waiting] at next
      exact (Option.some.inj next).symm
    · obtain ⟨_, r, ready⟩ := (behind performed).offered rfl waiting
      cases running.symm.trans ready
  · cases half with
    | complaining failure =>
        cases List.mem_singleton.1 mem
        exact errors
    | _ => cases mem

end Locked

/-- What the locks are at one moment of a run. -/
structure Disciplined {W : Type} (g : Locked W) : Prop where
  /-- A thread that is to take a lock holds only locks that come before it. -/
  ordered : ∀ {t l m}, g.Awaits t l → g.owner m = some t → m ∈ l.below
  /-- No threads wait for each other in a circle. -/
  circles : ∀ t, ¬ Relation.TransGen g.WaitsFor t t
  /-- Between its calls and in its sleep a thread holds nothing. -/
  released : ∀ {t l}, g.place t = .idle ∨ g.place t = .asleep → g.owner l ≠ some t
  forks : ∀ {t c ms}, g.Stands t (.fork c) ms → g.IsForkable t

/-- In whatever order the threads take their steps, the locks are taken in order, and a child is
born only while it finds free what it needs for its message. -/
theorem locks_in_order {W : Type} {world : World W} {outside : W → W → Prop} {limits : Limits}
    {w : W} {g : Locked W} (run : Locked.Run world outside (Locked.boot limits w) g) :
    Disciplined g := by
  have kept := run.kept
  obtain ⟨t, shell⟩ := run.shell
  refine ⟨kept.below_of_awaits, kept.no_circle, fun {t l} at_ held => ?_,
    kept.isForkable shell.coordinated⟩
  have due := kept.owned.1 held
  rcases at_ with at_ | at_ <;>
  · rw [at_] at due
    cases due

/-- An interrupt comes while a command is on its way to its launch. As the signal thread has begun
to answer it, the child is born while that thread owns the slot and standard output. -/
theorem locks_in_order_of_interrupted : ∃ g : Locked Source,
    Locked.Run World.impatient (fun _ _ => False)
        (Locked.boot {} (.ofBytes (Bytes.ofText "a\n"))) g ∧
      g.owner .slot = some .signals ∧ g.owner .output = some .signals ∧
      g.IsForkable .execution := by
  let order : List ThreadId := List.replicate 5 .input ++ [.execution, .execution, .signals]
  have played :
      ((Shell.boot {} (Source.ofBytes (Bytes.ofText "a\n"))).play World.impatient order).any
        (fun (_, s) =>
          decide (s.call? .execution = some (.fork { argv := [Bytes.ofText "a"] })) &&
            decide (s.call? .signals = some (.printByOccupancy [Bytes.ofText "\n$ "] [[10]])) &&
              decide (s.pieces .signals = [[10]])) = true := by
    decide +kernel
  obtain ⟨⟨t, s⟩, reached, found⟩ := (Option.any_eq_true _ _).1 played
  simp only [Bool.and_eq_true, decide_eq_true_eq] at found
  obtain ⟨⟨forks, redraws⟩, pieces⟩ := found
  have called : Locked.Run World.impatient (fun _ _ => False)
      (Locked.boot {} (Source.ofBytes (Bytes.ofText "a\n"))) { shell := s } :=
    Locked.Run.play (fun _ _ => rfl) .start reached
  have stands := Locked.Stands.idle (g := { shell := s }) rfl redraws
  rw [pieces] at stands
  have locked := called.step (.take stands rfl)
  have run := locked.step (.take (.within (Function.update_self ..)) rfl)
  exact ⟨_, run, rfl, rfl, (locks_in_order run).forks (.idle rfl forks)⟩

end JobShell
