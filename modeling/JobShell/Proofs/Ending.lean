import JobShell.Proofs.Failures
import JobShell.Proofs.Refinement
import JobShell.Startup

/-!
# The end of the shell

Whatever makes the shell stop, its threads can always be brought to their ends: the input and the
execution thread have a few steps left, the supervisor then sends SIGUSR1, and the signal thread
comes to it after the signals before it. The result is the one failure that a thread has met with,
if there is one, and no job is left in the registry.

Results:
1. `Shell.Coordinated.may_halt`: the two loops can return.
2. `Shell.signals_may_end`: the signal thread comes to the SIGUSR1 that was sent.
3. `Run.closing`: what the supervisor makes of the results of the threads.
4. `failures_surface`: a failure stops the shell and is its result, and without one it ends well.
-/

namespace JobShell

open Thread (Input Execution Signals Supervisor Status)

/-- What the end of the signal thread relies on: SIGUSR1 can be sent to it and is then pending until
it is taken, waiting for signals does not fail, and asking for a child without waiting returns at
once. `backlog` bounds the number of signals that are taken before the SIGUSR1 that was sent, if one
was. -/
structure Steady {W : Type} (world : World W) (outside : W → W → Prop) (backlog : W → Option Nat) :
    Prop where
  sendStop : ∀ w, (world.sendStop w).1 = .ok () ∧ (backlog (world.sendStop w).2).isSome
  awaitSignal : ∀ w r after, world.awaitSignal w = some (r, after) →
    r = .ok Signal.usr1 ∨ (∀ e, r = .error e → e = .interrupted) ∧
      ∀ n, backlog w = some n → ∃ m, backlog after = some m ∧ m < n
  pending : ∀ w, (backlog w).isSome → (world.awaitSignal w).isSome
  print : ∀ bs w, backlog (world.print bs w) = backlog w
  ask : ∀ pid w, ∃ r after,
    world.waitFor pid { noHang := true, untraced := true } w = some (r, after) ∧
      backlog after = backlog w
  outside : ∀ w after, outside w after → (backlog w).isSome → (backlog after).isSome

/-- What the signal thread does between two waits leaves the signals as they are. -/
theorem Steady.backlog_of_does {W : Type} {world : World W} {outside : W → W → Prop}
    {backlog : W → Option Nat} {g : Signals} {w after : W}
    {reply : g.turn.call.Reply}
    (steady : Steady world outside backlog) (busy : g ≠ .awaiting)
    (does : world.Does g.turn.call reply w after) : backlog after = backlog w := by
  cases g with
  | awaiting => exact absurd rfl busy
  | redrawing | reporting =>
      obtain ⟨bs, rfl⟩ := does
      exact steady.print bs w
  | checkingExit =>
      cases does
      rfl
  | reaping r =>
      cases r with
      | asking pid rest noted =>
          obtain ⟨r, asked, found, same⟩ := steady.ask pid w
          rw [show world.waitFor pid { noHang := true, untraced := true } w = some (reply, after)
            from does] at found
          cases found
          exact same
      | listing | removing | dropping =>
          cases does
          rfl

theorem Steady.ok_of_ended {W : Type} {world : World W} {outside : W → W → Prop}
    {backlog : W → Option Nat} {g : Signals} {w after : W} {reply : g.turn.call.Reply}
    {r : Except Errno Unit} (steady : Steady world outside backlog)
    (does : world.Does g.turn.call reply w after) (ended : g.turn.resume reply = .ended r) :
    r = .ok () := by
  cases g with
  | redrawing | reporting => cases ended
  | reaping p =>
      replace ended : Signals.afterReap (p.turn.resume reply) = .ended r := ended
      unfold Signals.afterReap at ended
      split at ended <;> cases ended
  | checkingExit =>
      simp only [Signals.turn] at ended
      split at ended <;> cases ended
      rfl
  | awaiting =>
      cases reply with
      | ok signal => cases ended
      | error e =>
          rcases steady.awaitSignal _ _ _ does with failed | ⟨interrupted, _⟩
          · cases failed
          · rw [interrupted e rfl] at ended
            cases ended

namespace Shell

variable {W : Type} {world : World W}

/-! ## What the threads can come to -/

/-- By steps of its threads alone the shell may come to a state of a kind. -/
def MayReach (world : World W) (s : Shell W) (P : Shell W → Prop) : Prop :=
  ∃ u after, Run world (fun _ _ => False) s u after ∧ P after

/-- By steps of its threads alone the shell may end with a result. -/
def MayEnd (world : World W) (s : Shell W) (result : Except Fault Unit) : Prop :=
  s.MayReach world fun last => ∃ left, last.supervisor = .ended (result, left)

/-- The shell may come to its end with a result, and if it has ended it has no other. -/
def EndsWith (world : World W) (s : Shell W) (result : Except Fault Unit) : Prop :=
  s.MayEnd world result ∧ ∀ other left, s.supervisor = .ended (other, left) → other = result

namespace MayReach

variable {s mid : Shell W} {e : Event} {P Q : Shell W → Prop}

theorem here (holds : P s) : s.MayReach world P := ⟨[], s, .start, holds⟩

theorem move (moves : s.Moves world e mid) (rest : mid.MayReach world P) :
    s.MayReach world P := by
  obtain ⟨u, after, run, holds⟩ := rest
  exact ⟨[e] ++ u, after, Run.trans (.move .start moves) run, holds⟩

theorem bind (first : s.MayReach world P) (rest : ∀ mid, P mid → mid.MayReach world Q) :
    s.MayReach world Q := by
  obtain ⟨u, mid, run, holds⟩ := first
  obtain ⟨v, after, onward, last⟩ := rest mid holds
  exact ⟨u ++ v, after, run.trans onward, last⟩

theorem mono (reach : s.MayReach world P) (weaker : ∀ after, P after → Q after) :
    s.MayReach world Q :=
  reach.bind fun _ holds => here (weaker _ holds)

/-- What every step keeps holds where the threads come to. -/
theorem keep (reach : s.MayReach world P) (first : Q s)
    (moved : ∀ {s e after}, Q s → s.Moves world e after → Q after) :
    s.MayReach world fun after => P after ∧ Q after := by
  obtain ⟨u, after, run, holds⟩ := reach
  exact ⟨u, after, run, holds,
    run.invariant (P := fun _ s => Q s) first (fun kept moves => moved kept moves) nofun⟩

end MayReach

/-! ## The two loops -/

/-- Both loops have returned, and the other threads stand where they stood. -/
def Halts (r : Except Fault Unit) (x : Except LaunchError Unit) (s after : Shell W) : Prop :=
  after.input = .ended r ∧ after.execution = .ended x ∧
    after.signals = s.signals ∧ after.supervisor = s.supervisor

/-- The results that the two loops are on their way out with. -/
inductive Leaves (s : Shell W) : Except Fault Unit → Except LaunchError Unit → Prop
  | failed {f : LaunchError} :
      Execution.failure? s.execution = some f → Leaves s (.ok ()) (.error f)
  | stopped {r : Except Fault Unit} : Execution.failure? s.execution = none →
      Input.result? s.input = some r → Leaves s r (.ok ())
  | ending : s.input = .running .endingInput → Leaves s (.ok ()) (.ok ())

section Loops

variable {s : Shell W} {r : Except Fault Unit} {x : Except LaunchError Unit} {f : LaunchError}

theorem may_halt_of_ended (input : s.input = .ended r) (execution : s.execution = .ended x) :
    s.MayReach world (s.Halts r x) :=
  .here ⟨input, execution, rfl, rfl⟩

/-- After a failed launch the input thread leaves as soon as it looks at the flag. -/
theorem may_halt_of_failed (dismissed : Dismissed s.input) (execution : s.execution = .ended x)
    (slot : s.shared.slot = .empty) (exiting : s.shared.exiting = true) :
    s.MayReach world (s.Halts (.ok ()) x) := by
  have leaving (m : Shell W) (at_ : m.input = .running (.leaving (.ok ())))
      (halted : m.execution = .ended x) (set : m.shared.exiting = true) :
      m.MayReach world (m.Halts (.ok ()) x) := by
    refine .move (.input at_ rfl) (may_halt_of_ended (r := .ok ()) ?_ halted)
    simp only [Input.turn, set, if_true]
  have looking (m : Shell W) (at_ : m.input = .running .looking)
      (halted : m.execution = .ended x) (set : m.shared.exiting = true) :
      m.MayReach world (m.Halts (.ok ()) x) := by
    refine .move (.input at_ rfl) (leaving _ ?_ halted set)
    simp only [Input.turn, set, if_true]
  generalize at_ : s.input = i at dismissed
  cases dismissed with
  | ended => exact may_halt_of_ended at_ execution
  | leaving => exact leaving s at_ execution exiting
  | looking => exact looking s at_ execution exiting
  | waiting =>
      have answered : s.shared.answer world .awaitVacancy = some ((), s.shared) := by
        simp only [Shared.answer, slot, Slot.isBusy, Bool.false_eq_true, if_false]
      exact .move (.input at_ answered) (looking _ rfl execution exiting)

theorem may_halt_of_failing (input : s.input = .running .waiting)
    (execution : s.execution = .running (.releasing (some (.error f))))
    (exiting : s.shared.exiting = true) : s.MayReach world (s.Halts (.ok ()) (.error f)) := by
  refine .move (.execution execution rfl) (may_halt_of_failed ?_ rfl rfl exiting)
  show Dismissed s.input
  rw [input]
  exact .waiting

theorem may_halt_of_closing (input : s.input = .ended r)
    (execution : s.execution = .running (.releasing (some (.ok ())))) :
    s.MayReach world (s.Halts r (.ok ())) :=
  .move (.execution execution rfl) (may_halt_of_ended input rfl)

theorem may_halt_of_stopped (input : s.input = .ended r)
    (execution : s.execution = .running .awaiting) (slot : s.shared.slot = .ready .shutdown) :
    s.MayReach world (s.Halts r (.ok ())) := by
  have answered : s.shared.answer world .awaitRequest =
      some (Request.shutdown, { s.shared with slot := .running }) := by
    simp only [Shared.answer, slot, Slot.take?, Option.map_some]
  exact .move (.execution execution answered) (may_halt_of_closing input rfl)

theorem may_halt_of_stopping (input : s.input = .running (.offeringShutdown r))
    (execution : s.execution = .running .awaiting) (slot : s.shared.slot = .empty) :
    s.MayReach world (s.Halts r (.ok ())) := by
  have answered : s.shared.answer world (.offer .shutdown) =
      some (.ok (), { s.shared with slot := .ready .shutdown }) := by
    simp only [Shared.answer, slot, Slot.offer]
  exact .move (.input input answered) (may_halt_of_stopped rfl execution rfl)

/-- An input thread that finds the flag clear sets it and asks the execution thread to leave. -/
theorem may_halt_of_leaving (input : s.input = .running (.leaving r))
    (execution : s.execution = .running .awaiting) (slot : s.shared.slot = .empty)
    (exiting : s.shared.exiting = false) : s.MayReach world (s.Halts r (.ok ())) := by
  have goesOn : ((Input.leaving r).turn s.limits).resume s.shared.exiting =
      .running (.settingExit r) := by
    simp only [Input.turn, exiting, Bool.false_eq_true, if_false]
  refine .move (.input input rfl) (.move (.input goesOn rfl) ?_)
  exact may_halt_of_stopping rfl execution slot

theorem Coordinated.may_halt_of_failure (ordered : s.Coordinated)
    (failed : Execution.failure? s.execution = some f) :
    s.MayReach world (s.Halts (.ok ()) (.error f)) := by
  have alternation := ordered.alternation
  generalize input : s.input = i, execution : s.execution = y, slot : s.shared.slot = occupied,
    exiting : s.shared.exiting = flag at alternation failed
  cases alternation with
  | reading | offered | stopping | stopped | closing | closed => cases failed
  | @serving y serves =>
      cases y with
      | settingExit =>
          cases failed
          exact .move (.execution execution rfl) (may_halt_of_failing input rfl rfl)
      | releasing result =>
          cases result with
          | none => cases failed
          | some => exact absurd serves id
      | awaiting | deciding | launching => cases failed
  | failing =>
      cases failed
      exact may_halt_of_failing input execution exiting
  | failed dismissed =>
      cases failed
      exact may_halt_of_failed (input ▸ dismissed) execution slot exiting

theorem Coordinated.may_halt_of_result (ordered : s.Coordinated)
    (succeeds : Execution.failure? s.execution = none) (result : Input.result? s.input = some r) :
    s.MayReach world (s.Halts r (.ok ())) := by
  have alternation := ordered.alternation
  generalize input : s.input = i, execution : s.execution = y, slot : s.shared.slot = occupied,
    exiting : s.shared.exiting = flag at alternation succeeds result
  cases alternation with
  | offered | serving | failing => cases result
  | failed => cases succeeds
  | @reading i free =>
      cases i with
      | leaving =>
          cases result
          exact may_halt_of_leaving input execution slot exiting
      | settingExit =>
          cases result
          exact .move (.input input rfl) (may_halt_of_stopping rfl execution slot)
      | offeringShutdown => exact absurd free id
      | _ => cases result
  | stopping =>
      cases result
      exact may_halt_of_stopping input execution slot
  | stopped =>
      cases result
      exact may_halt_of_stopped input execution slot
  | closing =>
      cases result
      exact may_halt_of_closing input execution
  | closed =>
      cases result
      exact may_halt_of_ended input execution

/-- The end of the input is the first step of the way out. -/
theorem Coordinated.may_halt_of_ending (ordered : s.Coordinated)
    (input : s.input = .running .endingInput) :
    s.MayReach world (s.Halts (.ok ()) (.ok ())) := by
  have alternation := ordered.alternation
  rw [input] at alternation
  have moves : s.Moves world _ _ := .input input rfl
  refine .move moves (Coordinated.may_halt_of_result (ordered.moves moves) ?_ rfl)
  show Execution.failure? s.execution = none
  generalize s.execution = x, s.shared.slot = slot, s.shared.exiting = exiting at alternation ⊢
  cases alternation with
  | reading => rfl
  | failed dismissed => cases dismissed

theorem Coordinated.may_halt (ordered : s.Coordinated) (leaves : s.Leaves r x) :
    s.MayReach world (s.Halts r x) := by
  cases leaves with
  | failed failed => exact ordered.may_halt_of_failure failed
  | stopped succeeds result => exact ordered.may_halt_of_result succeeds result
  | ending input => exact ordered.may_halt_of_ending input

end Loops

/-! ## The signal thread -/

/-- The other threads and the exit flag are as they were. -/
structure Stands (s after : Shell W) : Prop where
  input : after.input = s.input
  execution : after.execution = s.execution
  supervisor : after.supervisor = s.supervisor
  exiting : after.shared.exiting = s.shared.exiting

theorem Stands.trans {s mid after : Shell W} (first : s.Stands mid) (second : mid.Stands after) :
    s.Stands after :=
  ⟨second.input.trans first.input, second.execution.trans first.execution,
    second.supervisor.trans first.supervisor, second.exiting.trans first.exiting⟩

/-- The signal thread waits for a signal, and as many are pending as before. -/
structure Rests (backlog : W → Option Nat) (s after : Shell W) : Prop where
  signals : after.signals = .running .awaiting
  stands : s.Stands after
  backlog : backlog after.shared.world = backlog s.shared.world

section Signals

variable {outside : W → W → Prop} {backlog : W → Option Nat} {s : Shell W} {g : Signals}

/-- Between two waits nothing holds the signal thread up. -/
theorem signals_may_move (steady : Steady world outside backlog)
    (at_ : s.signals = .running g) (busy : g ≠ .awaiting) :
    ∃ reply after, s.Moves world ⟨.signals, g.turn.call, reply⟩ after ∧
      after.signals = g.turn.resume reply ∧ s.Stands after ∧
      backlog after.shared.world = backlog s.shared.world := by
  have answers : ∃ reply shared, s.shared.answer world g.turn.call = some (reply, shared) := by
    cases g with
    | awaiting => exact absurd rfl busy
    | redrawing | reporting | checkingExit => exact ⟨_, _, rfl⟩
    | reaping r =>
        cases r with
        | listing | removing | dropping => exact ⟨_, _, rfl⟩
        | asking pid rest noted =>
            obtain ⟨r, asked, found, _⟩ := steady.ask pid s.shared.world
            refine ⟨r, { s.shared with world := asked }, ?_⟩
            simp only [Signals.turn, Thread.Turn.embed, Reap.turn, Shared.answer, found,
              Option.map_some]
  obtain ⟨reply, shared, answered⟩ := answers
  refine ⟨reply, _, .signals at_ answered, rfl, ⟨rfl, rfl, rfl, ?_⟩, ?_⟩
  · exact Shared.exiting_answer answered (Coordinated.signals_calls g).2
  · exact steady.backlog_of_does busy (Shared.does_answer answered)

/-- A step between two waits, and then what can be done from there. -/
theorem may_rest_of_move (steady : Steady world outside backlog)
    (at_ : s.signals = .running g) (busy : g ≠ .awaiting)
    (rest : ∀ reply (after : Shell W), after.signals = g.turn.resume reply →
      after.MayReach world (after.Rests backlog)) :
    s.MayReach world (s.Rests backlog) := by
  obtain ⟨reply, mid, moves, next, stands, same⟩ := signals_may_move steady at_ busy
  refine .move moves ((rest reply mid next).mono fun after rests => ?_)
  exact ⟨rests.signals, stands.trans rests.stands, rests.backlog.trans same⟩

theorem may_rest_of_report (steady : Steady world outside backlog) (reports : List JobReport)
    (at_ : s.signals = .running (Signals.report reports)) :
    s.MayReach world (s.Rests backlog) := by
  induction reports generalizing s with
  | nil => exact .here ⟨at_, ⟨rfl, rfl, rfl, rfl⟩, rfl⟩
  | cons r rest ih => exact may_rest_of_move steady at_ nofun fun _ after next => ih next

/-- A pass over the registry ends when all its processes have been asked for. -/
theorem may_rest_of_pass (steady : Steady world outside backlog) (noted : List JobReport)
    (rest : List Pid) (at_ : s.signals = Signals.afterReap (Reap.next noted rest)) :
    s.MayReach world (s.Rests backlog) := by
  induction rest generalizing s noted with
  | nil => exact may_rest_of_report steady _ at_
  | cons pid rest ih =>
      refine may_rest_of_move steady at_ nofun fun reply after next => ?_
      replace next : after.signals = Signals.afterReap (Reap.afterWait pid rest noted reply) := next
      unfold Reap.afterWait at next
      repeat' split at next
      · exact ih _ next
      · exact may_rest_of_move steady next nofun fun _ _ next => ih _ next
      · exact ih _ next
      · exact ih _ next
      · exact may_rest_of_move steady next nofun fun _ _ next => ih _ next
      · exact ih _ next

theorem may_rest (steady : Steady world outside backlog) (at_ : s.signals = .running g)
    (stays : g ≠ .checkingExit) : s.MayReach world (s.Rests backlog) := by
  cases g with
  | checkingExit => exact absurd rfl stays
  | awaiting => exact .here ⟨at_, ⟨rfl, rfl, rfl, rfl⟩, rfl⟩
  | redrawing =>
      exact may_rest_of_move steady at_ nofun fun _ _ next => may_rest_of_report steady [] next
  | reporting r rest => exact may_rest_of_report steady (r :: rest) at_
  | reaping r =>
      cases r with
      | listing =>
          exact may_rest_of_move steady at_ nofun fun _ _ next => may_rest_of_pass steady _ _ next
      | asking pid rest noted => exact may_rest_of_pass steady noted (pid :: rest) at_
      | removing report rest noted =>
          exact may_rest_of_move steady at_ nofun fun _ _ next => may_rest_of_pass steady _ _ next
      | dropping pid rest noted =>
          exact may_rest_of_move steady at_ nofun fun _ _ next => may_rest_of_pass steady _ _ next

/-- With the exit flag set the signal thread ends once a SIGUSR1 is pending. -/
theorem signals_may_end (steady : Steady world outside backlog) {n : Nat}
    (pending : backlog s.shared.world = some n) (exiting : s.shared.exiting = true)
    (at_ : s.signals = .running .awaiting) :
    s.MayReach world fun after => after.signals = .ended (.ok ()) ∧ s.Stands after := by
  induction n using Nat.strongRecOn generalizing s with
  | ind n ih =>
  have waits := steady.pending s.shared.world (by rw [pending]; rfl)
  obtain ⟨⟨r, w⟩, taken⟩ := Option.isSome_iff_exists.1 waits
  have answered : s.shared.answer world Signals.awaiting.turn.call =
      some (r, { s.shared with world := w }) := by
    simp only [Signals.turn, Shared.answer, taken, Option.map_some]
  -- after the signal there is one fewer before the SIGUSR1, and the thread is back for the next
  have later (m : Shell W) {k : Nat} (fewer : k < n) (left : backlog m.shared.world = some k)
      (stands : s.Stands m) {g : Signals} (next : m.signals = .running g)
      (other : g ≠ .checkingExit) :
      m.MayReach world fun after => after.signals = .ended (.ok ()) ∧ s.Stands after := by
    refine (may_rest steady next other).bind fun mid rests => ?_
    have reached := stands.trans rests.stands
    refine (ih k fewer (rests.backlog.trans left) (reached.exiting.trans exiting)
      rests.signals).mono fun after ends => ⟨ends.1, reached.trans ends.2⟩
  have stop (m : Shell W) (stands : s.Stands m) (next : m.signals = .running .checkingExit) :
      m.MayReach world fun after => after.signals = .ended (.ok ()) ∧ s.Stands after := by
    refine .move (.signals next rfl) (.here ⟨?_, stands.trans ⟨rfl, rfl, rfl, rfl⟩⟩)
    simp only [Signals.turn, stands.exiting.trans exiting, if_true]
  refine .move (.signals at_ answered) ?_
  rcases steady.awaitSignal _ _ _ taken with rfl | ⟨interrupted, decreases⟩
  · exact stop _ ⟨rfl, rfl, rfl, rfl⟩ rfl
  · obtain ⟨k, left, fewer⟩ := decreases n pending
    cases r with
    | ok signal =>
        by_cases stopping : Signals.accept signal = .checkingExit
        · exact stop _ ⟨rfl, rfl, rfl, rfl⟩ (congrArg Status.running stopping)
        · exact later _ fewer left ⟨rfl, rfl, rfl, rfl⟩ rfl stopping
    | error e =>
        rw [interrupted e rfl]
        exact later _ fewer left ⟨rfl, rfl, rfl, rfl⟩ rfl (g := .awaiting) (by decide)

end Signals

/-! ## The supervisor -/

/-- The result that the supervisor has is that of the two loops, and after its end no job is
registered. -/
def IsSettled (s : Shell W) : Prop :=
  match s.supervisor with
  | .running (.forgetting result) => s.HasOutcome result
  | .ended (result, _) => s.HasOutcome result ∧ s.shared.jobs.table = []
  | _ => True

/-- The signal thread ends well or is on its way to the SIGUSR1 that the supervisor sent. -/
structure Closing (backlog : W → Option Nat) (s : Shell W) : Prop where
  signals : ∀ r, s.signals = .ended r → r = .ok ()
  sent : ∀ r x, s.supervisor = .running (.joiningSignals r x) →
    (∃ y, s.signals = .ended y) ∨ s.signals = .running .checkingExit ∨
      (backlog s.shared.world).isSome
  settled : s.IsSettled

namespace Closing

variable {outside : W → W → Prop} {backlog : W → Option Nat} {s after : Shell W} {e : Event}

theorem boot (limits : Limits) (w : W) : (Shell.boot limits w).Closing backlog :=
  ⟨nofun, nofun, trivial⟩

/-- While one of the two loops runs the supervisor has not come to the signal thread. -/
theorem of_unfinished (closing : s.Closing backlog) (signals : after.signals = s.signals)
    (early : (∃ r, after.supervisor = .running (.looking r)) ∨
      (∃ r, after.supervisor = .running (.joiningExecution r)) ∨
      after.supervisor = .running .joiningInput) : after.Closing backlog := by
  refine ⟨fun r ended => closing.signals r (signals ▸ ended), fun r x joins => ?_, ?_⟩
  · rcases early with ⟨_, at_⟩ | ⟨_, at_⟩ | at_ <;>
    · rw [at_] at joins
      cases joins
  · unfold IsSettled
    rcases early with ⟨_, at_⟩ | ⟨_, at_⟩ | at_ <;>
    · rw [at_]
      trivial

/-- The signal thread registers nothing. -/
theorem jobless_of_signals {g : Signals} {reply} {shared : Shared W}
    (answered : s.shared.answer world g.turn.call = some (reply, shared))
    (none : s.shared.jobs.table = []) : shared.jobs.table = [] := by
  cases g with
  | reaping r =>
      cases r with
      | removing report rest noted | dropping pid rest noted =>
          cases answered
          simp [Registry.remove, none]
      | listing | asking => rwa [Shared.jobs_answer answered rfl]
  | _ => rwa [Shared.jobs_answer answered rfl]

theorem signals_moves {g : Signals} {reply shared} (closing : s.Closing backlog)
    (steady : Steady world outside backlog) (ordered : s.Coordinated)
    (at_ : s.signals = .running g)
    (answered : s.shared.answer world g.turn.call = some (reply, shared)) :
    Closing backlog { s with signals := g.turn.resume reply, shared } := by
  have does := Shared.does_answer answered
  refine ⟨fun r ended => steady.ok_of_ended does ended, fun r x joins => ?_, ?_⟩
  · have joined := closing.sent r x joins
    rw [at_] at joined
    rcases joined with ⟨_, ended⟩ | checks | pending
    · cases ended
    · cases checks
      have supervision := ordered.supervision
      have alternation := ordered.alternation
      rw [show s.supervisor = _ from joins] at supervision
      cases supervision with
      | joiningSignals input execution =>
          rw [input, execution] at alternation
          cases answered
          refine .inl ⟨.ok (), ?_⟩
          simp only [Signals.turn, alternation.of_ended.2, if_true]
    · by_cases waits : g = .awaiting
      · subst waits
        obtain ⟨n, left⟩ := Option.isSome_iff_exists.1 pending
        rcases steady.awaitSignal _ _ _ does with rfl | ⟨_, decreases⟩
        · exact .inr (.inl rfl)
        · obtain ⟨k, later, _⟩ := decreases n left
          exact .inr (.inr (Option.isSome_iff_exists.2 ⟨k, later⟩))
      · refine .inr (.inr ?_)
        show (backlog shared.world).isSome = true
        rwa [steady.backlog_of_does waits does]
  · have settled := closing.settled
    unfold IsSettled at settled ⊢
    generalize s.supervisor = v at settled
    split at settled
    · exact settled
    · exact ⟨settled.1, jobless_of_signals answered settled.2⟩
    · trivial

theorem supervisor_moves {v : Supervisor} {reply shared} (closing : s.Closing backlog)
    (steady : Steady world outside backlog) (ordered : s.Coordinated)
    (at_ : s.supervisor = .running v)
    (answered : s.answerSupervisor world v.turn.call = some (reply, shared)) :
    Closing backlog { s with supervisor := v.turn.resume reply, shared } := by
  have supervision := ordered.supervision
  rw [at_] at supervision
  cases supervision with
  | joiningInput => exact closing.of_unfinished rfl (.inl ⟨_, rfl⟩)
  | @looking r input =>
      have alternation := ordered.alternation
      rw [input] at alternation
      cases answered
      refine closing.of_unfinished rfl (.inr (.inl ⟨r, ?_⟩))
      simp only [Supervisor.turn, alternation.exiting_of_ended, if_true]
  | joiningExecution | closing => exact ⟨closing.signals, by rintro _ _ ⟨⟩, trivial⟩
  | stopping =>
      obtain ⟨sent, pending⟩ := steady.sendStop s.shared.world
      cases answered
      refine ⟨closing.signals, fun _ _ _ => .inr (.inr pending), ?_⟩
      simp only [IsSettled, Supervisor.turn, sent]
  | joiningSignals input execution =>
      simp only [Supervisor.turn, answerSupervisor, Option.map_eq_some_iff,
        endOf_eq_some_iff] at answered
      obtain ⟨_, found, same⟩ := answered
      cases same
      refine ⟨closing.signals, by rintro _ _ ⟨⟩, ⟨_, _, input, execution, ?_⟩⟩
      rw [closing.signals _ found]
      rfl
  | forgetting input execution =>
      have outcome := closing.settled
      simp only [IsSettled, at_] at outcome
      cases answered
      exact ⟨closing.signals, by rintro _ _ ⟨⟩, outcome, rfl⟩

theorem moves (closing : s.Closing backlog) (steady : Steady world outside backlog)
    (ordered : s.Coordinated) (moves : s.Moves world e after) : after.Closing backlog := by
  cases moves with
  | input at_ answered =>
      have supervision := ordered.supervision
      rw [at_] at supervision
      exact closing.of_unfinished rfl (.inr (.inr supervision.of_input_running))
  | execution at_ answered =>
      have supervision := ordered.supervision
      rw [at_] at supervision
      refine closing.of_unfinished rfl ?_
      generalize at_supervisor : s.supervisor = v at supervision
      cases supervision with
      | joiningInput => exact .inr (.inr rfl)
      | looking => exact .inl ⟨_, rfl⟩
      | joiningExecution => exact .inr (.inl ⟨_, rfl⟩)
      | closing _ ended | stopping _ ended | joiningSignals _ ended | forgetting _ ended
      | ended _ ended => cases ended
  | signals at_ answered => exact closing.signals_moves steady ordered at_ answered
  | supervisor at_ answered => exact closing.supervisor_moves steady ordered at_ answered

end Closing

/-- Both loops have returned, and what is left to do is the supervisor's and the signal thread's. -/
structure Halted (backlog : W → Option Nat) (r : Except Fault Unit) (x : Except LaunchError Unit)
    (s : Shell W) : Prop where
  ordered : s.Coordinated
  closing : s.Closing backlog
  input : s.input = .ended r
  execution : s.execution = .ended x

namespace Halted

variable {outside : W → W → Prop} {backlog : W → Option Nat} {s after : Shell W} {e : Event}
  {r : Except Fault Unit} {x : Except LaunchError Unit}

theorem moves (halted : s.Halted backlog r x) (steady : Steady world outside backlog)
    (moves : s.Moves world e after) : after.Halted backlog r x := by
  refine ⟨halted.ordered.moves moves, halted.closing.moves steady halted.ordered moves, ?_, ?_⟩
  · cases moves with
    | input at_ _ => exact absurd (at_.symm.trans halted.input) nofun
    | _ => exact halted.input
  · cases moves with
    | execution at_ _ => exact absurd (at_.symm.trans halted.execution) nofun
    | _ => exact halted.execution

theorem outcome_of_hasOutcome {result : Except Fault Unit} (halted : s.Halted backlog r x)
    (has : s.HasOutcome result) : result = Supervisor.outcome r x (.ok ()) := by
  obtain ⟨r', x', input, execution, outcome⟩ := has
  rw [halted.input] at input
  rw [halted.execution] at execution
  cases input
  cases execution
  exact outcome

theorem exiting (halted : s.Halted backlog r x) : s.shared.exiting = true := by
  have alternation := halted.ordered.alternation
  rw [halted.input] at alternation
  exact alternation.exiting_of_ended

theorem signals_may_end_of_checking (halted : s.Halted backlog r x)
    (checks : s.signals = .running .checkingExit) :
    s.MayReach world fun m => (∃ y, m.signals = .ended y) ∧ s.Stands m := by
  refine .move (.signals checks rfl) (.here ⟨⟨.ok (), ?_⟩, rfl, rfl, rfl, rfl⟩)
  simp only [Signals.turn, halted.exiting, if_true]

/-- A step of the supervisor, and then what can be done from there. -/
theorem may_end_of_move {v : Supervisor} {reply shared} (halted : s.Halted backlog r x)
    (steady : Steady world outside backlog) (at_ : s.supervisor = .running v)
    (answered : s.answerSupervisor world v.turn.call = some (reply, shared))
    (rest : ∀ after : Shell W, after.Halted backlog r x → after.supervisor = v.turn.resume reply →
      after.MayEnd world (Supervisor.outcome r x (.ok ()))) :
    s.MayEnd world (Supervisor.outcome r x (.ok ())) := by
  have moves : s.Moves world _ _ := .supervisor at_ answered
  exact .move moves (rest _ (halted.moves steady moves) rfl)

theorem may_end_of_forgetting {result : Except Fault Unit} (halted : s.Halted backlog r x)
    (steady : Steady world outside backlog)
    (at_ : s.supervisor = .running (.forgetting result)) :
    s.MayEnd world (Supervisor.outcome r x (.ok ())) := by
  refine halted.may_end_of_move steady at_ rfl fun after _ next =>
    .here ⟨s.shared.jobs.size, ?_⟩
  have settled := halted.closing.settled
  simp only [IsSettled, at_] at settled
  rw [← halted.outcome_of_hasOutcome settled]
  exact next

/-- The SIGUSR1 that was sent brings the signal thread to its end. -/
theorem may_end_of_joiningSignals (halted : s.Halted backlog r x)
    (steady : Steady world outside backlog)
    (at_ : s.supervisor = .running (.joiningSignals r x)) :
    s.MayEnd world (Supervisor.outcome r x (.ok ())) := by
  have join (m : Shell W) (halted : m.Halted backlog r x)
      (at_ : m.supervisor = .running (.joiningSignals r x)) {y : Except Errno Unit}
      (ended : m.signals = .ended y) : m.MayEnd world (Supervisor.outcome r x (.ok ())) := by
    have answered : m.answerSupervisor world .joinSignals = some (y, m.shared) := by
      simp only [answerSupervisor, ended, endOf, Option.map_some]
    exact halted.may_end_of_move steady at_ answered fun after later next =>
      later.may_end_of_forgetting steady next
  have comes : s.MayReach world fun m => (∃ y, m.signals = .ended y) ∧ s.Stands m := by
    rcases halted.closing.sent r x at_ with ended | checks | pending
    · exact .here ⟨ended, rfl, rfl, rfl, rfl⟩
    · exact halted.signals_may_end_of_checking checks
    · cases signals : s.signals with
      | ended y => exact .here ⟨⟨y, signals⟩, rfl, rfl, rfl, rfl⟩
      | running g =>
          by_cases checks : g = .checkingExit
          · exact halted.signals_may_end_of_checking (checks ▸ signals)
          · refine (may_rest steady signals checks).bind fun m rests => ?_
            obtain ⟨n, left⟩ := Option.isSome_iff_exists.1 pending
            refine (signals_may_end steady (rests.backlog.trans left)
              (rests.stands.exiting.trans halted.exiting) rests.signals).mono fun after ends => ?_
            exact ⟨⟨_, ends.1⟩, rests.stands.trans ends.2⟩
  refine (comes.keep halted fun halted moves => halted.moves steady moves).bind ?_
  rintro m ⟨⟨⟨y, ended⟩, stands⟩, later⟩
  exact join m later (stands.supervisor.trans at_) ended

theorem may_end_of_stopping (halted : s.Halted backlog r x)
    (steady : Steady world outside backlog) (at_ : s.supervisor = .running (.stopping r x)) :
    s.MayEnd world (Supervisor.outcome r x (.ok ())) := by
  refine halted.may_end_of_move steady at_ rfl fun after later next => ?_
  refine later.may_end_of_joiningSignals steady (next.trans ?_)
  simp only [Supervisor.turn, (steady.sendStop s.shared.world).1]

theorem may_end_of_closing (halted : s.Halted backlog r x)
    (steady : Steady world outside backlog) (at_ : s.supervisor = .running (.closing r x)) :
    s.MayEnd world (Supervisor.outcome r x (.ok ())) :=
  halted.may_end_of_move steady at_ rfl fun _ later next => later.may_end_of_stopping steady next

theorem may_end_of_joiningExecution (halted : s.Halted backlog r x)
    (steady : Steady world outside backlog)
    (at_ : s.supervisor = .running (.joiningExecution r)) :
    s.MayEnd world (Supervisor.outcome r x (.ok ())) := by
  have answered : s.answerSupervisor world .joinExecution = some (x, s.shared) := by
    simp only [answerSupervisor, halted.execution, endOf, Option.map_some]
  exact halted.may_end_of_move steady at_ answered fun _ later next =>
    later.may_end_of_closing steady next

theorem may_end_of_looking (halted : s.Halted backlog r x)
    (steady : Steady world outside backlog) (at_ : s.supervisor = .running (.looking r)) :
    s.MayEnd world (Supervisor.outcome r x (.ok ())) := by
  refine halted.may_end_of_move steady at_ rfl fun after later next => ?_
  refine later.may_end_of_joiningExecution steady (next.trans ?_)
  simp only [Supervisor.turn, halted.exiting, if_true]

theorem may_end_of_joiningInput (halted : s.Halted backlog r x)
    (steady : Steady world outside backlog) (at_ : s.supervisor = .running .joiningInput) :
    s.MayEnd world (Supervisor.outcome r x (.ok ())) := by
  have answered : s.answerSupervisor world .joinInput = some (r, s.shared) := by
    simp only [answerSupervisor, halted.input, endOf, Option.map_some]
  exact halted.may_end_of_move steady at_ answered fun _ later next =>
    later.may_end_of_looking steady next

theorem may_end (halted : s.Halted backlog r x) (steady : Steady world outside backlog) :
    s.MayEnd world (Supervisor.outcome r x (.ok ())) := by
  have supervision := halted.ordered.supervision
  rw [halted.input, halted.execution] at supervision
  generalize at_ : s.supervisor = v at supervision
  cases supervision with
  | joiningInput => exact halted.may_end_of_joiningInput steady at_
  | looking input =>
      cases input
      exact halted.may_end_of_looking steady at_
  | joiningExecution input =>
      cases input
      exact halted.may_end_of_joiningExecution steady at_
  | closing input execution =>
      cases input
      cases execution
      exact halted.may_end_of_closing steady at_
  | stopping input execution =>
      cases input
      cases execution
      exact halted.may_end_of_stopping steady at_
  | joiningSignals input execution =>
      cases input
      cases execution
      exact halted.may_end_of_joiningSignals steady at_
  | forgetting => exact halted.may_end_of_forgetting steady at_
  | ended =>
      have settled := halted.closing.settled
      simp only [IsSettled, at_] at settled
      rw [← halted.outcome_of_hasOutcome settled.1]
      exact .here ⟨_, at_⟩

end Halted

end Shell

/-! ## What the shell makes of failures -/

namespace Run

variable {W : Type} {world : World W} {outside : W → W → Prop} {backlog : W → Option Nat}
  {limits : Limits} {w : W} {t : Trace} {s : Shell W} {r : Except Fault Unit}
  {x : Except LaunchError Unit}

theorem closing (steady : Steady world outside backlog)
    (run : Run world outside (Shell.boot limits w) t s) : s.Closing backlog := by
  induction run with
  | start => exact .boot limits w
  | move run moves ih => exact ih.moves steady run.coordinated moves
  | outside run changes ih =>
      refine ⟨ih.signals, fun r x joins => ?_, ih.settled⟩
      rcases ih.sent r x joins with ended | checks | pending
      · exact .inl ended
      · exact .inr (.inl checks)
      · exact .inr (.inr (steady.outside _ _ changes pending))

/-- Once the two loops are on their way out, the shell may end with the outcome of their results. -/
theorem may_end (steady : Steady world outside backlog)
    (run : Run world outside (Shell.boot limits w) t s) (leaves : s.Leaves r x) :
    s.MayEnd world (Supervisor.outcome r x (.ok ())) := by
  have kept : s.Coordinated ∧ s.Closing backlog := ⟨run.coordinated, run.closing steady⟩
  refine ((run.coordinated.may_halt leaves).keep (Q := fun m => m.Coordinated ∧ m.Closing backlog)
    kept fun kept moves => ⟨kept.1.moves moves, kept.2.moves steady kept.1 moves⟩).bind ?_
  rintro m ⟨⟨input, execution, _, _⟩, ordered, closing⟩
  exact Shell.Halted.may_end ⟨ordered, closing, input, execution⟩ steady

/-- A shell that has ended has the outcome of what its two loops have come to. -/
theorem outcome_of_ended (steady : Steady world outside backlog)
    (run : Run world outside (Shell.boot limits w) t s) {result : Except Fault Unit} {left : Nat}
    (ended : s.supervisor = .ended (result, left)) :
    s.HasOutcome result ∧ s.shared.jobs.table = [] := by
  have settled := (run.closing steady).settled
  simpa only [Shell.IsSettled, ended] using settled

end Run

namespace Shell

variable {W : Type} {s : Shell W} {t : Trace} {result : Except Fault Unit}

theorem HasOutcome.of_failure {f : LaunchError} (has : s.HasOutcome result)
    (failed : Execution.failure? s.execution = some f) : result = .error (.launch f) := by
  obtain ⟨r, x, _, execution, rfl⟩ := has
  rw [execution] at failed
  cases x with
  | ok => cases failed
  | error e =>
      cases failed
      rfl

theorem HasOutcome.of_result {r : Except Fault Unit} (has : s.HasOutcome result)
    (succeeds : Execution.failure? s.execution = none)
    (carried : Input.result? s.input = some r) : result = r := by
  obtain ⟨r', x, input, execution, rfl⟩ := has
  rw [execution] at succeeds
  rw [input] at carried
  cases carried
  cases x with
  | error e => cases succeeds
  | ok => cases r <;> rfl

/-- What the input thread is on its way out with is no failure but that of a read. -/
theorem FailureBooks.result_cases {r : Except Fault Unit} (books : s.FailureBooks t)
    (carried : Input.result? s.input = some r) :
    r = .ok () ∧ t.readFailures = [] ∨ ∃ e, r = .error (.input e) ∧ t.readFailures = [e] := by
  have reads := books.reads
  generalize t.readFailures = es at reads
  cases reads with
  | nothing none =>
      rw [none] at carried
      cases carried
  | success ok =>
      rw [ok] at carried
      cases carried
      exact .inl ⟨rfl, rfl⟩
  | failure failed =>
      rw [failed] at carried
      cases carried
      exact .inr ⟨_, rfl, rfl⟩

end Shell

theorem Event.call_of_readFailure? {e : Event} {f : Errno} (fails : e.readFailure? = some f) :
    e.call = .readByte := by
  unfold readFailure? at fails
  split at fails
  · rfl
  · cases fails

/-- An input thread that reads no further line is on its way out. -/
theorem Thread.Input.hasStopped_cases {i : Status Input (Except Fault Unit)}
    (stopped : hasStopped i = true) : i = .running .endingInput ∨ ∃ r, result? i = some r := by
  unfold hasStopped at stopped
  split at stopped
  · exact .inl rfl
  · exact .inr ⟨_, rfl⟩
  · exact .inr ⟨_, rfl⟩
  · exact .inr ⟨_, rfl⟩
  · exact .inr ⟨_, rfl⟩
  · cases stopped

namespace Run

variable {W : Type} {world : World W} {outside : W → W → Prop} {backlog : W → Option Nat}
  {limits : Limits} {w : W} {t : Trace} {s : Shell W} {e : Event}

/-- A launch that failed leaves the input thread without a failure of its own. -/
theorem succeeds_of_read {f : Errno} (run : Run world outside (Shell.boot limits w) t s)
    (failed : Input.result? s.input = some (.error (.input f))) :
    Execution.failure? s.execution = none := by
  by_contra other
  obtain ⟨g, launched⟩ := Option.ne_none_iff_exists'.1 other
  cases run.coordinated.at_most_one_failure launched failed

theorem succeeds_of_none (run : Run world outside (Shell.boot limits w) t s)
    (none : t.launchFailures = []) : Execution.failure? s.execution = Option.none := by
  have launches := run.failureBooks.launches
  rw [none] at launches
  exact Option.toList_eq_nil_iff.1 launches.symm

theorem carried_of_none {r : Except Fault Unit} (run : Run world outside (Shell.boot limits w) t s)
    (none : t.readFailures = []) (carried : Input.result? s.input = some r) : r = .ok () := by
  rcases run.failureBooks.result_cases carried with ⟨ok, _⟩ | ⟨f, _, some⟩
  · exact ok
  · rw [none] at some
    cases some

theorem endsWith_of_launch {f : LaunchError} (steady : Steady world outside backlog)
    (run : Run world outside (Shell.boot limits w) t s) (mem : e ∈ t)
    (fails : e.launchFailure? = some f) : s.EndsWith world (.error (.launch f)) := by
  have failed := run.failure_of_mem mem fails
  refine ⟨run.may_end steady (.failed failed), fun result left ended => ?_⟩
  exact (run.outcome_of_ended steady ended).1.of_failure failed

theorem endsWith_of_read {f : Errno} (steady : Steady world outside backlog)
    (run : Run world outside (Shell.boot limits w) t s) (mem : e ∈ t)
    (fails : e.readFailure? = some f) : s.EndsWith world (.error (.input f)) := by
  have failed := run.result_of_mem mem fails
  have succeeds := run.succeeds_of_read failed
  refine ⟨run.may_end steady (.stopped succeeds failed), fun result left ended => ?_⟩
  exact (run.outcome_of_ended steady ended).1.of_result succeeds failed

theorem result_of_none {result : Except Fault Unit} {left : Nat}
    (steady : Steady world outside backlog) (run : Run world outside (Shell.boot limits w) t s)
    (noLaunch : t.launchFailures = []) (noRead : t.readFailures = [])
    (ended : s.supervisor = .ended (result, left)) : result = .ok () := by
  have has := (run.outcome_of_ended steady ended).1
  obtain ⟨r, x, input, _, _⟩ := id has
  have carried : Input.result? s.input = some r := by rw [input]; rfl
  exact (has.of_result (run.succeeds_of_none noLaunch) carried).trans
    (run.carried_of_none noRead carried)

theorem may_end_of_none (steady : Steady world outside backlog)
    (run : Run world outside (Shell.boot limits w) t s) (noLaunch : t.launchFailures = [])
    (noRead : t.readFailures = []) (stopped : Input.hasStopped s.input = true) :
    s.MayEnd world (.ok ()) := by
  rcases Input.hasStopped_cases stopped with ending | ⟨r, carried⟩
  · exact run.may_end steady (.ending ending)
  · have ends := run.may_end steady (.stopped (run.succeeds_of_none noLaunch) carried)
    rw [run.carried_of_none noRead carried] at ends
    exact ends

/-- When the input thread reads, everything that was offered has been launched. -/
theorem offered_of_reads {after : Shell W} (run : Run world outside (Shell.boot limits w) t s)
    (moves : s.Moves world e after) (reads : e.call = .readByte) :
    s.execution = .running .awaiting ∧ s.shared.slot = .empty ∧
      t.offered = t.launched.map Request.run := by
  obtain ⟨idle, vacant⟩ := run.coordinated.awaiting_of_reads moves reads
  refine ⟨idle, vacant, ?_⟩
  rw [run.offered_eq.2, run.taken_eq, vacant, idle]
  simp [Execution.held, Slot.pending]

theorem not_handoff {result : Except Fault Unit} (run : Run world outside (Shell.boot limits w) t s)
    (has : s.HasOutcome result) (e : HandoffError) : result ≠ .error (.handoff e) := by
  intro refused
  obtain ⟨r, x, input, _, rfl⟩ := has
  have carried : Input.result? s.input = some r := by rw [input]; rfl
  cases x with
  | error f => cases refused
  | ok =>
      rcases run.failureBooks.result_cases carried with ⟨rfl, _⟩ | ⟨f, rfl, _⟩ <;> cases refused

end Run

/-- What a shell whose signal thread can be stopped makes of failures. -/
structure StopsCleanly {W : Type} (world : World W) (t : Trace) (s : Shell W) : Prop where
  /-- The execution and the input thread do not both return a failure. -/
  one_failure : ∀ f e, s.execution = .ended (.error f) → s.input ≠ .ended (.error e)
  /-- After a failed launch the input thread only waits for the slot and looks at the flag, and
  nothing is launched. -/
  no_more : ∀ before e during f, t = before ++ e :: during → e.launchFailure? = some f →
    ∀ d ∈ during, (d.thread = .input → d.call = .awaitVacancy ∨ d.call = .isExiting) ∧
      ∀ c, d.call ≠ .fork c
  /-- A failed launch is what the shell ends with. -/
  of_launch : ∀ e ∈ t, ∀ f, e.launchFailure? = some f → s.EndsWith world (.error (.launch f))
  /-- When a read fails every command that was handed over has been launched, and no launch is
  under way. -/
  before_read : ∀ e after f, s.Moves world e after → e.readFailure? = some f →
    s.execution = .running .awaiting ∧ s.shared.slot = .empty ∧
      t.offered = t.launched.map .run
  /-- A failed read is what the shell ends with, and the execution thread returns no failure. -/
  of_read : ∀ e ∈ t, ∀ f, e.readFailure? = some f →
    (∀ x, s.execution = .ended x → x = .ok ()) ∧ s.EndsWith world (.error (.input f))
  /-- Without failures the shell ends well, with exit code 0, once the input thread reads no further
  line. -/
  of_none : t.launchFailures = [] → t.readFailures = [] →
    (∀ result left, s.supervisor = .ended (result, left) →
      result = .ok () ∧ (Startup.farewell s.result?).2 = 0) ∧
    (Input.hasStopped s.input = true → s.MayEnd world (.ok ()))
  /-- No job is registered when the shell has ended, and it has not failed to hand over. -/
  at_end : ∀ result left, s.supervisor = .ended (result, left) →
    s.shared.jobs.table = [] ∧ ∀ e, result ≠ .error (.handoff e)

/-- In every order of the steps, and whatever is read, launched and signalled. -/
theorem failures_surface {W : Type} {world : World W} {outside : W → W → Prop}
    {backlog : W → Option Nat} {limits : Limits} {w : W} {t : Trace} {s : Shell W}
    (steady : Steady world outside backlog)
    (run : Run world outside (Shell.boot limits w) t s) : StopsCleanly world t s where
  one_failure f e execution input := by
    have failed : Execution.failure? s.execution = some f := by rw [execution]; rfl
    have carried : Input.result? s.input = some (.error e) := by rw [input]; rfl
    cases run.coordinated.at_most_one_failure failed carried
  no_more := run.after_failed_launch
  of_launch _ mem _ fails := run.endsWith_of_launch steady mem fails
  before_read _ _ _ moves fails := run.offered_of_reads moves (Event.call_of_readFailure? fails)
  of_read e mem f fails := by
    refine ⟨fun x ended => ?_, run.endsWith_of_read steady mem fails⟩
    have succeeds := run.succeeds_of_read (run.result_of_mem mem fails)
    rw [ended] at succeeds
    cases x with
    | ok => rfl
    | error => cases succeeds
  of_none noLaunch noRead := by
    refine ⟨fun result left ended => ?_, run.may_end_of_none steady noLaunch noRead⟩
    have ok := run.result_of_none steady noLaunch noRead ended
    refine ⟨ok, ?_⟩
    rw [Shell.result?, ended, ok]
    rfl
  at_end result left ended := by
    obtain ⟨has, jobless⟩ := run.outcome_of_ended steady ended
    exact ⟨jobless, run.not_handoff has⟩

/-- What can still be read, and the signals that have come and are not yet taken. -/
structure Mailbox where
  input : Source
  signals : List Signal

/-- A world in which no process can be started, and in which signals are taken in their order. -/
def World.mailbox : World Mailbox where
  print _ m := m
  complain _ m := m
  readByte m :=
    match m.input with
    | [] => some (.endOfFile, m)
    | outcome :: rest => some (outcome, { m with input := rest })
  changeDirectory _ m := (.ok (), m)
  fork _ m := (.error .wouldBlock, m)
  blockSignals m := m
  waitFor _ _ m := some (.failed .noChild, m)
  reserve m := (.ok (), m)
  raiseChild m := { m with signals := m.signals ++ [.chld] }
  awaitSignal m :=
    match m.signals with
    | [] => none
    | signal :: rest => some (.ok signal, { m with signals := rest })
  sendStop m := (.ok (), { m with signals := m.signals ++ [.usr1] })

namespace Mailbox

/-- The number of signals that come before the first SIGUSR1. -/
def backlog (m : Mailbox) : Option Nat := m.signals.idxOf? Signal.usr1

/-- More signals come. -/
def Grows (m after : Mailbox) : Prop :=
  after.input = m.input ∧ ∃ more, after.signals = m.signals ++ more

theorem isSome_backlog {m : Mailbox} : m.backlog.isSome = true ↔ Signal.usr1 ∈ m.signals := by
  simp [backlog]

end Mailbox

theorem Steady.mailbox : Steady World.mailbox Mailbox.Grows Mailbox.backlog where
  sendStop m := ⟨rfl, Mailbox.isSome_backlog.2 (by simp [World.mailbox])⟩
  awaitSignal m r after taken := by
    obtain ⟨input, signals⟩ := m
    cases signals with
    | nil => cases taken
    | cons signal rest =>
        cases taken
        by_cases stops : signal = .usr1
        · exact .inl (congrArg Except.ok stops)
        · refine .inr ⟨nofun, fun n before => ?_⟩
          simp only [Mailbox.backlog, List.idxOf?_cons, beq_iff_eq, stops, if_false,
            Option.map_eq_some_iff] at before
          obtain ⟨k, later, rfl⟩ := before
          exact ⟨k, later, Nat.lt_succ_self k⟩
  pending m some := by
    have mem := Mailbox.isSome_backlog.1 some
    obtain ⟨input, signals⟩ := m
    cases signals with
    | nil => cases mem
    | cons => rfl
  print _ _ := rfl
  ask _ m := ⟨.failed .noChild, m, rfl, rfl⟩
  outside m after grows some := by
    obtain ⟨_, more, same⟩ := grows
    rw [Mailbox.isSome_backlog] at some ⊢
    rw [same]
    exact List.mem_append_left _ some

/-- A command cannot be started; a SIGUSR1 that came before was no reason to stop. -/
theorem failures_surface_of_failed_fork :
    ∃ t s, Run World.mailbox Mailbox.Grows
        (Shell.boot {} ⟨Source.ofBytes (Bytes.ofText "a\nb\n"), [.usr1]⟩) t s ∧
      t.launchFailures = [.fork .wouldBlock] ∧
      s.supervisor = .ended (.error (.launch (.fork .wouldBlock)), 0) ∧
      StopsCleanly World.mailbox t s := by
  let order : List ThreadId :=
    .replicate 2 .signals ++ .replicate 5 .input ++ .replicate 5 .execution ++
      .replicate 3 .input ++ .replicate 5 .supervisor ++ .replicate 2 .signals ++
      .replicate 2 .supervisor
  have played :
      ((Shell.boot {} ⟨Source.ofBytes (Bytes.ofText "a\nb\n"), [.usr1]⟩).play World.mailbox
        order).any (fun (t, s) => decide (t.launchFailures = [.fork .wouldBlock]) &&
          decide (s.result? = some (.error (.launch (.fork .wouldBlock)), 0))) = true := by
    decide +kernel
  obtain ⟨⟨t, s⟩, reached, found⟩ := (Option.any_eq_true _ _).1 played
  simp only [Bool.and_eq_true, decide_eq_true_eq] at found
  obtain ⟨failures, result⟩ := found
  have run : Run World.mailbox Mailbox.Grows _ ([] ++ t) s := Run.start.play reached
  exact ⟨t, s, run, failures, Shell.endOf_eq_some_iff.1 result,
    failures_surface Steady.mailbox run⟩

end JobShell
