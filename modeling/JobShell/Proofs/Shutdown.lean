import JobShell.Proofs.Wakeups

/-!
# Asking the execution thread to leave

If the input thread has gone without setting the exit flag, the supervisor sets it and offers a
shutdown; if the slot is occupied, it leaves it at that. An execution thread that has still to look
at the flag sees it and leaves. But one that has looked before and goes on to launch a command does
not look again. The offer is refused, the launch comes to its end, the slot is emptied, and now the
thread waits for a request while the supervisor waits for the thread.

Results:
1. `Thread.Execution.Step.of_answer`: all that a step of the execution thread can be.
2. `Shell.Asked.run`: what the steps of the execution thread keep is kept once the supervisor has
   asked.
3. `execution_leaves_unless_committed`: the thread leaves in three steps, or it is launching a
   command, and then it is left behind exactly if the launch succeeds.
4. `execution_left_behind`: that can happen.
-/

namespace JobShell

open Thread (Input Execution Signals Supervisor Status)

/-! ## The execution thread -/

namespace Thread.Execution

/-- One step of the execution thread: where it stands, the slot and the exit flag, its call, and
where all that stands afterwards. -/
inductive Step : Execution → Slot → Bool → Call →
    Status Execution (Except LaunchError Unit) → Slot → Bool → Prop
  | take {r : Request} {exiting : Bool} :
      Step .awaiting (.ready r) exiting .awaitRequest (.running (accept r)) .running exiting
  | leave {c : Command} {slot : Slot} :
      Step (.deciding c) slot true .isExiting (.running (.releasing (some (.ok ())))) slot true
  | decide {c : Command} {slot : Slot} :
      Step (.deciding c) slot false .isExiting (.running (.launching c .start)) slot false
  | launch {c : Command} {l : Launch} {call : Call} {p : Launch.Progress} {slot : Slot}
      {exiting : Bool} :
      call ≠ .release → call ≠ .setExiting →
      Step (.launching c l) slot exiting call (afterLaunch c p) slot exiting
  | fail {e : LaunchError} {slot : Slot} {exiting : Bool} :
      Step (.settingExit e) slot exiting .setExiting
        (.running (.releasing (some (.error e)))) slot true
  | release {slot : Slot} {exiting : Bool} :
      Step (.releasing none) slot exiting .release (.running .awaiting) .empty exiting
  | finish {result : Except LaunchError Unit} {slot : Slot} {exiting : Bool} :
      Step (.releasing (some result)) slot exiting .release (.ended result) .empty exiting

theorem Step.of_answer {W : Type} {world : World W} {shared after : Shared W} {x : Execution}
    {reply} (answered : shared.answer world x.turn.call = some (reply, after)) :
    Step x shared.slot shared.exiting x.turn.call (x.turn.resume reply) after.slot
      after.exiting := by
  obtain ⟨slot, exiting, jobs, w⟩ := shared
  cases x with
  | awaiting =>
      cases slot <;> cases answered
      exact .take
  | deciding c =>
      cases answered
      cases exiting with
      | true => exact .leave
      | false => exact .decide
  | launching c l =>
      have slotKept := Shared.slot_answer answered (Launch.concernsSlot_turn c l)
      have flagKept := Shared.exiting_answer answered (Launch.turn_ne_setExiting c l)
      rw [slotKept, flagKept]
      refine .launch ?_ (Launch.turn_ne_setExiting c l)
      cases l <;> exact nofun
  | settingExit e =>
      cases answered
      exact .fail
  | releasing result =>
      cases result <;> cases answered
      · exact .release
      · exact .finish

theorem Step.exiting_of {x : Execution} {slot slot' : Slot} {exiting exiting' : Bool} {call : Call}
    {y : Status Execution (Except LaunchError Unit)}
    (step : Step x slot exiting call y slot' exiting') (set : exiting = true) :
    exiting' = true := by
  cases step with
  | fail => rfl
  | _ => exact set

/-- How the slot can be found where the execution thread stands. -/
def Holds : Status Execution (Except LaunchError Unit) → Slot → Prop
  | .running .awaiting, slot => slot ≠ .running
  | .running _, slot => slot = .running
  | .ended _, _ => True

/-- The execution thread has a command in hand and looks at the exit flag no more before it comes
for another one. -/
def IsCommitted : Status Execution (Except LaunchError Unit) → Prop
  | .running (.launching ..) | .running (.releasing none) => True
  | _ => False

/-- On its way out, if the exit flag is set. -/
inductive Departs : Status Execution (Except LaunchError Unit) → Slot → Prop
  | called {r : Request} : Departs (.running .awaiting) (.ready r)
  | deciding {c : Command} : Departs (.running (.deciding c)) .running
  | failing {e : LaunchError} : Departs (.running (.settingExit e)) .running
  | leaving {result : Except LaunchError Unit} :
      Departs (.running (.releasing (some result))) .running
  | ended {result : Except LaunchError Unit} {slot : Slot} : Departs (.ended result) slot

/-- How many steps are left on the way out. -/
def stepsLeft : Status Execution (Except LaunchError Unit) → Nat
  | .running .awaiting => 3
  | .running (.deciding _) | .running (.settingExit _) => 2
  | .running (.releasing _) => 1
  | _ => 0

variable {x : Execution} {slot slot' : Slot} {exiting exiting' : Bool} {call : Call}
  {y : Status Execution (Except LaunchError Unit)}

theorem Holds.step (holds : Holds (.running x) slot)
    (step : Step x slot exiting call y slot' exiting') : Holds y slot' := by
  cases step with
  | @take r => cases r <;> rfl
  | leave | decide | fail => exact holds
  | @launch c _ _ p =>
      obtain ⟨z, goesOn, serves⟩ := isServing_afterLaunch (c := c) (p := p)
      rw [goesOn]
      cases z with
      | awaiting => exact absurd serves id
      | _ => exact holds
  | release => exact nofun
  | finish => trivial

theorem Departs.step (departs : Departs (.running x) slot)
    (step : Step x slot true call y slot' exiting') :
    Departs y slot' ∧ stepsLeft y < stepsLeft (.running x) := by
  cases departs with
  | @called r =>
      cases step
      cases r with
      | run c => exact ⟨.deciding, (by decide : 2 < 3)⟩
      | shutdown => exact ⟨.leaving, (by decide : 1 < 3)⟩
  | deciding | failing =>
      cases step
      exact ⟨.leaving, (by decide : 1 < 2)⟩
  | leaving =>
      cases step
      exact ⟨.ended, (by decide : 0 < 1)⟩

theorem Departs.stepsLeft_le (departs : Departs y slot) : stepsLeft y ≤ 3 := by
  cases departs <;> simp [stepsLeft]

theorem Departs.not_isCommitted (departs : Departs y slot) : ¬ IsCommitted y := by
  cases departs <;> exact id

/-- Whoever sets the exit flag is on its way out. -/
theorem Departs.of_step (holds : Holds (.running x) slot)
    (departs : exiting = true → Departs (.running x) slot)
    (step : Step x slot exiting call y slot' exiting') (set : exiting' = true) :
    Departs y slot' := by
  cases exiting with
  | true => exact ((departs rfl).step step).1
  | false =>
      cases step with
      | fail =>
          cases holds
          exact .leaving
      | take | decide | launch | release | finish => cases set

/-- After an offer, accepted or not, whoever is not committed is on its way out. -/
theorem Holds.of_offer {z : Status Execution (Except LaunchError Unit)} {r : Request}
    (holds : Holds z slot) (accepted : slot = .empty → slot' = .ready r)
    (refused : slot ≠ .empty → slot' = slot) :
    IsCommitted z ∧ slot' = .running ∨ ¬ IsCommitted z ∧ Departs z slot' := by
  cases z with
  | ended => exact .inr ⟨id, .ended⟩
  | running x =>
      cases x with
      | awaiting =>
          refine .inr ⟨id, ?_⟩
          cases slot with
          | empty => exact accepted rfl ▸ .called
          | ready => exact refused nofun ▸ .called
          | running => exact absurd rfl holds
      | deciding =>
          cases holds
          exact .inr ⟨id, refused nofun ▸ .deciding⟩
      | launching =>
          cases holds
          exact .inl ⟨trivial, refused nofun⟩
      | settingExit =>
          cases holds
          exact .inr ⟨id, refused nofun ▸ .failing⟩
      | releasing result =>
          cases holds
          cases result with
          | none => exact .inl ⟨trivial, refused nofun⟩
          | some => exact .inr ⟨id, refused nofun ▸ .leaving⟩

end Thread.Execution

/-! ## The supervisor -/

namespace Thread.Supervisor

/-- The supervisor has asked the execution thread to leave. -/
def HasAsked : Status Supervisor (Except Fault Unit × Nat) → Prop
  | .running .joiningInput | .running (.looking _) | .running (.settingExit _)
  | .running (.offeringShutdown _) => False
  | _ => True

variable {v : Supervisor}

theorem HasAsked.resume (asked : HasAsked (.running v)) (reply) :
    HasAsked (v.turn.resume reply) := by
  cases v with
  | joiningInput | looking | settingExit | offeringShutdown => exact absurd asked id
  | stopping => cases reply <;> trivial
  | _ => trivial

theorem HasAsked.resume_ne (asked : HasAsked (.running v)) (reply) (r : Except Fault Unit) :
    v.turn.resume reply ≠ .running (.joiningExecution r) := by
  cases v with
  | joiningInput | looking | settingExit | offeringShutdown => exact absurd asked id
  | stopping => cases reply <;> exact nofun
  | _ => exact nofun

theorem HasAsked.concernsSlot_turn (asked : HasAsked (.running v)) :
    v.turn.call.concernsSlot = false := by
  cases v with
  | offeringShutdown => exact absurd asked id
  | _ => rfl

end Thread.Supervisor

theorem Shared.slot_offered {W : Type} {world : World W} {s after : Shared W} {r : Request} {reply}
    (answered : s.answer world (.offer r) = some (reply, after)) :
    (s.slot = .empty → after.slot = .ready r) ∧ (s.slot ≠ .empty → after.slot = s.slot) := by
  obtain ⟨slot, exiting, jobs, w⟩ := s
  cases slot with
  | empty =>
      cases answered
      exact ⟨fun _ => rfl, fun full => absurd rfl full⟩
  | ready | running =>
      cases answered
      exact ⟨nofun, fun _ => rfl⟩

/-! ## The end of a launch -/

/-- Whether a thread has made a call. -/
def Trace.Shows (t : Trace) (thread : ThreadId) (c : Call) : Prop :=
  ∃ e ∈ t, e.thread = thread ∧ e.call = c

theorem Trace.shows_concat {t : Trace} {e : Event} {thread : ThreadId} {c : Call} :
    (t ++ [e]).Shows thread c ↔ t.Shows thread c ∨ e.thread = thread ∧ e.call = c := by
  simp [Shows, or_and_right, exists_or]

theorem Trace.shows_concat_of_ne {t : Trace} {e : Event} {thread : ThreadId} {c : Call}
    (other : e.thread ≠ thread) : (t ++ [e]).Shows thread c ↔ t.Shows thread c := by
  simp [shows_concat, other]

/-- What becomes of a thread that was committed, by what it has done since. -/
inductive Thread.Execution.Sequel (t : Trace) :
    Status Execution (Except LaunchError Unit) → Slot → Prop
  | committed {x : Status Execution (Except LaunchError Unit)} :
      IsCommitted x → ¬ t.Shows .execution .release → ¬ t.Shows .execution .setExiting →
      Sequel t x .running
  | failing {e : LaunchError} :
      ¬ t.Shows .execution .release → Sequel t (.running (.settingExit e)) .running
  | leaving {result : Except LaunchError Unit} :
      t.Shows .execution .setExiting → Sequel t (.running (.releasing (some result))) .running
  | ended {result : Except LaunchError Unit} {slot : Slot} :
      t.Shows .execution .setExiting → Sequel t (.ended result) slot
  | stranded : t.Shows .execution .release → ¬ t.Shows .execution .setExiting →
      Sequel t (.running .awaiting) .empty

namespace Thread.Execution.Sequel

variable {t : Trace} {e : Event} {x : Execution} {y : Status Execution (Except LaunchError Unit)}
  {slot slot' : Slot} {exiting : Bool}

theorem other (sequel : Sequel t y slot) (apart : e.thread ≠ .execution) :
    Sequel (t ++ [e]) y slot := by
  have same (c : Call) : (t ++ [e]).Shows .execution c ↔ t.Shows .execution c :=
    Trace.shows_concat_of_ne apart
  cases sequel with
  | committed still unreleased unset =>
      exact .committed still (mt (same _).1 unreleased) (mt (same _).1 unset)
  | failing unreleased => exact .failing (mt (same _).1 unreleased)
  | leaving set => exact .leaving ((same _).2 set)
  | ended set => exact .ended ((same _).2 set)
  | stranded released unset => exact .stranded ((same _).2 released) (mt (same _).1 unset)

theorem step (sequel : Sequel t (.running x) slot) (own : e.thread = .execution)
    (step : Step x slot true e.call y slot' exiting) : Sequel (t ++ [e]) y slot' := by
  have now (c : Call) : (t ++ [e]).Shows .execution c ↔ t.Shows .execution c ∨ e.call = c := by
    rw [Trace.shows_concat, and_iff_right own]
  generalize call : e.call = c at step
  cases sequel with
  | committed still unreleased unset =>
      cases step with
      | @launch _ _ _ p _ _ other quiet =>
          have unreleased : ¬ (t ++ [e]).Shows .execution .release :=
            fun shown => ((now _).1 shown).elim unreleased (call ▸ other)
          have unset : ¬ (t ++ [e]).Shows .execution .setExiting :=
            fun shown => ((now _).1 shown).elim unset (call ▸ quiet)
          cases p with
          | running => exact .committed trivial unreleased unset
          | ended result =>
              cases result with
              | ok => exact .committed trivial unreleased unset
              | error => exact .failing unreleased
      | release =>
          refine .stranded ((now _).2 (.inr call)) fun shown => ?_
          rcases (now _).1 shown with before | same
          · exact unset before
          · rw [call] at same
            cases same
      | _ => exact absurd still id
  | failing =>
      cases step
      exact .leaving ((now _).2 (.inr call))
  | leaving set =>
      cases step
      exact .ended ((now _).2 (.inl set))
  | stranded => cases step

theorem stranded_iff (sequel : Sequel t y slot) :
    (y = .running .awaiting ∧ slot = .empty) ↔
      t.Shows .execution .release ∧ ¬ t.Shows .execution .setExiting := by
  cases sequel with
  | committed still unreleased _ =>
      refine ⟨?_, fun shows => absurd shows.1 unreleased⟩
      rintro ⟨_, vacant⟩
      cases vacant
  | failing unreleased => exact ⟨nofun, fun shows => absurd shows.1 unreleased⟩
  | leaving set => exact ⟨nofun, fun shows => absurd set shows.2⟩
  | ended set => exact ⟨nofun, fun shows => absurd set shows.2⟩
  | stranded released unset => exact ⟨fun _ => ⟨released, unset⟩, fun _ => ⟨rfl, rfl⟩⟩

end Thread.Execution.Sequel

/-! ## The shell without its input thread -/

namespace Shell

variable {W : Type} {world : World W} {outside : W → W → Prop} {s after now : Shell W} {e : Event}
  {t : Trace}

/-- The input thread is gone, and the supervisor has asked the execution thread to leave. -/
structure Asked (s : Shell W) : Prop where
  halted : ∃ r, s.input = .ended r
  exiting : s.shared.exiting = true
  asked : Supervisor.HasAsked s.supervisor

namespace Asked

/-- Once the supervisor has asked, only the execution thread touches the slot. -/
theorem moves (asked : s.Asked) (moves : s.Moves world e after) :
    after.Asked ∧
      ((e.thread = .execution ∧ ∃ x, s.execution = .running x ∧
          Execution.Step x s.shared.slot true e.call after.execution after.shared.slot true) ∨
        e.thread ≠ .execution ∧ after.execution = s.execution ∧
          after.shared.slot = s.shared.slot) := by
  obtain ⟨⟨r, halted⟩, exiting, asked⟩ := asked
  have flag : after.shared.exiting = true := by
    by_cases sets : e.call = .setExiting
    · exact moves.exiting_of_setExiting sets
    · exact (moves.exiting_eq sets).trans exiting
  have kept := moves.slot_eq
  cases moves with
  | input at_ _ =>
      rw [halted] at at_
      cases at_
  | execution at_ answered =>
      have step := Execution.Step.of_answer answered
      rw [exiting, flag] at step
      exact ⟨⟨⟨r, halted⟩, flag, asked⟩, .inl ⟨rfl, _, at_, step⟩⟩
  | @signals g =>
      exact ⟨⟨⟨r, halted⟩, flag, asked⟩,
        .inr ⟨nofun, rfl, kept (Coordinated.signals_calls g).1⟩⟩
  | @supervisor v reply _ at_ _ =>
      rw [at_] at asked
      exact ⟨⟨⟨r, halted⟩, flag, asked.resume reply⟩,
        .inr ⟨nofun, rfl, kept asked.concernsSlot_turn⟩⟩

/-- What the steps of the execution thread keep, and the events of others do not concern, holds
from the moment at which the supervisor has asked. -/
theorem run {Q : Trace → Status Execution (Except LaunchError Unit) → Slot → Prop}
    (asked : s.Asked) (run : Run world outside s t now)
    (first : Q [] s.execution s.shared.slot)
    (own : ∀ {t e x slot y slot'}, e.thread = .execution → Q t (.running x) slot →
      Execution.Step x slot true e.call y slot' true → Q (t ++ [e]) y slot')
    (other : ∀ {t e x slot}, e.thread ≠ .execution → Q t x slot → Q (t ++ [e]) x slot) :
    now.Asked ∧ Q t now.execution now.shared.slot := by
  refine run.invariant (P := fun t now => now.Asked ∧ Q t now.execution now.shared.slot)
    ⟨asked, first⟩ ?_ ?_
  · rintro t now e after ⟨asked, holds⟩ moves
    obtain ⟨asked, ⟨thread, x, at_, step⟩ | ⟨thread, same, slot⟩⟩ := asked.moves moves
    · exact ⟨asked, own thread (at_ ▸ holds) step⟩
    · rw [same, slot]
      exact ⟨asked, other thread holds⟩
  · rintro t now w ⟨⟨halted, exiting, asked⟩, holds⟩ _
    exact ⟨⟨halted, exiting, asked⟩, holds⟩

theorem stays (asked : s.Asked) (run : Run world outside s t now) : now.Asked :=
  (asked.run (Q := fun _ _ _ => True) run trivial (fun _ _ _ => trivial) fun _ => id).1

/-- A thread on its way out stays on it, and takes three steps at most. -/
theorem departs (asked : s.Asked) (departs : Execution.Departs s.execution s.shared.slot)
    (run : Run world outside s t now) :
    Execution.Departs now.execution now.shared.slot ∧
      t.countP (·.thread = .execution) + Execution.stepsLeft now.execution ≤ 3 := by
  refine (asked.run (Q := fun t x slot => Execution.Departs x slot ∧
    t.countP (·.thread = .execution) + Execution.stepsLeft x ≤ 3) run ⟨departs, ?_⟩ ?_ ?_).2
  · simpa using departs.stepsLeft_le
  · rintro t e x slot y slot' own ⟨departs, few⟩ step
    obtain ⟨departs, fewer⟩ := departs.step step
    refine ⟨departs, ?_⟩
    rw [List.countP_append, List.countP_singleton, if_pos (decide_eq_true own)]
    omega
  · rintro t e x slot apart ⟨departs, few⟩
    refine ⟨departs, ?_⟩
    rw [List.countP_append, List.countP_singleton, if_neg (mt of_decide_eq_true apart)]
    exact few

/-- A committed thread goes on with its launch. -/
theorem sequel (asked : s.Asked) (committed : Execution.IsCommitted s.execution)
    (occupied : s.shared.slot = .running) (run : Run world outside s t now) :
    Execution.Sequel t now.execution now.shared.slot := by
  refine (asked.run run ?_ (fun own sequel step => sequel.step own step)
    fun apart sequel => sequel.other apart).2
  rw [occupied]
  exact .committed committed (fun ⟨_, mem, _⟩ => absurd mem List.not_mem_nil)
    fun ⟨_, mem, _⟩ => absurd mem List.not_mem_nil

/-- An execution thread that waits while nobody is left to make a request waits for ever. -/
theorem awaiting (asked : s.Asked) (awaiting : s.execution = .running .awaiting)
    (vacant : s.shared.slot = .empty) (run : Run world outside s t now) :
    now.execution = .running .awaiting ∧ now.shared.slot = .empty := by
  refine (asked.run (Q := fun _ x slot => x = .running .awaiting ∧ slot = .empty) run
    ⟨awaiting, vacant⟩ ?_ fun _ same => same).2
  rintro t e x slot y slot' own ⟨same, rfl⟩ step
  cases same
  cases step

end Asked

/-- How far the supervisor has come in asking. -/
inductive Asking (s : Shell W) : Prop
  | looking {r : Except Fault Unit} :
      s.supervisor = .running (.looking r) →
      (s.shared.exiting = true → Execution.Departs s.execution s.shared.slot) → Asking s
  | setting {r : Except Fault Unit} : s.supervisor = .running (.settingExit r) → Asking s
  | offering {r : Except Fault Unit} :
      s.supervisor = .running (.offeringShutdown r) → s.shared.exiting = true → Asking s

/-- The input thread is gone, and only the supervisor is left to make a request. -/
structure Deserted (s : Shell W) : Prop where
  halted : ∃ r, s.input = .ended r
  holds : Execution.Holds s.execution s.shared.slot
  asking : s.Asking

theorem hasAsked_moves (asked : Supervisor.HasAsked s.supervisor)
    (moves : s.Moves world e after) : Supervisor.HasAsked after.supervisor := by
  cases moves with
  | input | execution | signals => exact asked
  | supervisor at_ _ =>
      rw [at_] at asked
      exact asked.resume _

theorem not_hasAsked_of_returned {r : Except Fault Unit} (moves : s.Moves world e after)
    (own : e.thread = .supervisor) (returned : after.supervisor = .running (.joiningExecution r)) :
    ¬ Supervisor.HasAsked s.supervisor := by
  intro asked
  cases moves with
  | input | execution | signals => cases own
  | @supervisor v reply _ at_ _ =>
      rw [at_] at asked
      exact absurd returned (asked.resume_ne reply r)

namespace Deserted

theorem moves (deserted : s.Deserted) (moves : s.Moves world e after) :
    after.Deserted ∨ Supervisor.HasAsked after.supervisor := by
  obtain ⟨⟨r, halted⟩, holds, asking⟩ := deserted
  cases moves with
  | input at_ _ =>
      rw [halted] at at_
      cases at_
  | execution at_ answered =>
      have step := Execution.Step.of_answer answered
      rw [at_] at holds
      refine .inl ⟨⟨r, halted⟩, holds.step step, ?_⟩
      cases asking with
      | looking asks departs =>
          rw [at_] at departs
          exact .looking asks (.of_step holds departs step)
      | setting asks => exact .setting asks
      | offering asks exiting => exact .offering asks (step.exiting_of exiting)
  | @signals g _ shared _ answered =>
      have slotKept := Shared.slot_answer answered (Coordinated.signals_calls g).1
      have flagKept := Shared.exiting_answer answered (Coordinated.signals_calls g).2
      refine .inl ⟨⟨r, halted⟩, slotKept ▸ holds, ?_⟩
      cases asking with
      | looking asks departs => exact .looking asks (slotKept ▸ flagKept ▸ departs)
      | setting asks => exact .setting asks
      | offering asks exiting => exact .offering asks (flagKept.trans exiting)
  | supervisor at_ answered =>
      cases asking with
      | @looking v asks =>
          rw [asks] at at_
          cases at_
          cases answered
          cases s.shared.exiting with
          | true => exact .inr trivial
          | false => exact .inl ⟨⟨r, halted⟩, holds, .setting (r := v) rfl⟩
      | setting asks =>
          rw [asks] at at_
          cases at_
          cases answered
          exact .inl ⟨⟨r, halted⟩, holds, .offering rfl rfl⟩
      | offering asks =>
          rw [asks] at at_
          cases at_
          exact .inr trivial

theorem withWorld (deserted : s.Deserted) (w : W) : (s.withWorld w).Deserted := by
  obtain ⟨halted, holds, asking⟩ := deserted
  refine ⟨halted, holds, ?_⟩
  cases asking with
  | looking asks departs => exact .looking asks departs
  | setting asks => exact .setting asks
  | offering asks exiting => exact .offering asks exiting

theorem run (deserted : s.Deserted) (run : Run world outside s t now) :
    now.Deserted ∨ Supervisor.HasAsked now.supervisor :=
  run.invariant (P := fun _ now => now.Deserted ∨ Supervisor.HasAsked now.supervisor)
    (.inl deserted)
    (fun either moves =>
      either.elim (·.moves moves) fun asked => .inr (hasAsked_moves asked moves))
    (fun either _ => either.imp_left (·.withWorld _))

/-- When the supervisor has asked, the execution thread is committed or on its way out. -/
theorem returns {r : Except Fault Unit} (deserted : s.Deserted) (moves : s.Moves world e after)
    (own : e.thread = .supervisor) (returned : after.supervisor = .running (.joiningExecution r)) :
    after.Asked ∧ after.execution = s.execution ∧
      (Execution.IsCommitted s.execution ∧ after.shared.slot = .running ∨
        ¬ Execution.IsCommitted s.execution ∧
          Execution.Departs after.execution after.shared.slot) := by
  obtain ⟨halted, holds, asking⟩ := deserted
  have flag := moves.exiting_eq
  cases moves with
  | input | execution | signals => cases own
  | @supervisor _ reply shared at_ answered =>
      cases asking with
      | looking asks departs =>
          rw [asks] at at_
          cases at_
          cases answered
          cases exiting : s.shared.exiting with
          | true =>
              have departs := departs exiting
              exact ⟨⟨halted, exiting, trivial⟩, rfl, .inr ⟨departs.not_isCommitted, departs⟩⟩
          | false =>
              rw [exiting] at returned
              cases returned
      | setting asks =>
          rw [asks] at at_
          cases at_
          cases returned
      | offering asks exiting =>
          rw [asks] at at_
          cases at_
          have offered : s.shared.answer world (.offer .shutdown) = some (reply, shared) := answered
          obtain ⟨accepted, refused⟩ := Shared.slot_offered offered
          exact ⟨⟨halted, (flag nofun).trans exiting, trivial⟩, rfl,
            holds.of_offer accepted refused⟩

end Deserted

end Shell

/-! ## Left behind -/

namespace Monitored

variable {W : Type} {world : World W} {outside : W → W → Prop} {m asked now : Monitored W}
  {t : Trace} {e : Event}

theorem Stirs.moves (stirs : m.Stirs world [e] now) : m.shell.Moves world e now.shell := by
  cases stirs with
  | act _ moves | wake _ _ _ moves => exact moves

/-- The execution thread waits for a request, and none is there. -/
structure IsStranded (m : Monitored W) : Prop where
  awaiting : m.shell.execution = .running .awaiting
  vacant : m.shell.shared.slot = .empty

theorem IsStranded.not_canGoOn (stranded : m.IsStranded) : ¬ m.CanGoOn world .execution := by
  obtain ⟨awaiting, vacant⟩ := stranded
  rintro ⟨_, ⟨e, after, own, stirs⟩ | ⟨c, next, outside⟩⟩
  · have moves := stirs.moves
    generalize after.shell = later at moves
    cases moves with
    | execution at_ answered =>
        rw [awaiting] at at_
        cases at_
        simp [Execution.turn, Shared.answer, vacant, Slot.take?] at answered
    | input | signals | supervisor => cases own
  · simp only [Shell.call?, awaiting, Option.some.injEq] at next
    subst next
    cases outside

/-- The input thread is gone, and the supervisor is about to ask the execution thread to leave. -/
structure Unattended (m : Monitored W) : Prop where
  halted : ∃ r, m.shell.input = .ended r
  asks : ∃ r, m.shell.supervisor = .running (.looking r)
  clear : m.shell.shared.exiting = false
  /-- The slot is as it can be found where the execution thread stands. -/
  holds : Execution.Holds m.shell.execution m.shell.shared.slot
  attentive : m.Attentive

theorem Unattended.deserted (unattended : m.Unattended) : m.shell.Deserted := by
  obtain ⟨halted, ⟨r, asks⟩, clear, holds, _⟩ := unattended
  refine ⟨halted, holds, .looking asks fun exiting => ?_⟩
  rw [clear] at exiting
  cases exiting

/-- What becomes of the execution thread after the supervisor has asked it to leave. -/
structure LeavesUnlessCommitted (world : World W) (outside : W → W → Prop) (asked : Monitored W)
    (t : Trace) (now : Monitored W) : Prop where
  /-- It is left behind exactly if it was committed to a launch, and the launch has succeeded. -/
  stranded_iff : now.IsStranded ↔ Execution.IsCommitted asked.shell.execution ∧
    t.Shows .execution .release ∧ ¬ t.Shows .execution .setExiting
  /-- If it was not committed, it has at most three steps to take. -/
  soon_gone : ¬ Execution.IsCommitted asked.shell.execution →
    t.countP (·.thread = .execution) + Execution.stepsLeft now.shell.execution ≤ 3
  /-- If it is not left behind, it has ended or can go on. -/
  goes_on : ¬ now.IsStranded →
    (∃ result, now.shell.execution = .ended result) ∨ now.CanGoOn world .execution
  /-- If it is left behind, it is left behind for ever. -/
  for_ever : now.IsStranded → ∀ u last, Run world outside now u last →
    last.IsStranded ∧ ¬ last.CanGoOn world .execution

/-- The execution thread goes on unless it waits in vain. -/
theorem Attentive.ended_or_canGoOn (attentive : m.Attentive)
    (given : m.shell.execution = .running .awaiting → ∃ r, m.shell.shared.slot = .ready r) :
    (∃ result, m.shell.execution = .ended result) ∨ m.CanGoOn world .execution := by
  cases at_ : m.shell.execution with
  | ended result => exact .inl ⟨result, rfl⟩
  | running x =>
      refine .inr (attentive.execution_canGoOn at_ ?_)
      rintro rfl
      exact given at_

/-- Whoever is left behind once the supervisor has asked is left behind for ever. -/
theorem IsStranded.run (stranded : m.IsStranded) (deserted : m.shell.Asked)
    (run : Run world outside m t now) : now.IsStranded :=
  have ⟨awaiting, vacant⟩ := deserted.awaiting stranded.awaiting stranded.vacant run.shell
  ⟨awaiting, vacant⟩

namespace LeavesUnlessCommitted

theorem of_departs (deserted : asked.shell.Asked) (attentive : asked.Attentive)
    (uncommitted : ¬ Execution.IsCommitted asked.shell.execution)
    (departs : Execution.Departs asked.shell.execution asked.shell.shared.slot)
    (run : Run world outside asked t now) : asked.LeavesUnlessCommitted world outside t now := by
  obtain ⟨departs, few⟩ := deserted.departs departs run.shell
  have unstranded : ¬ now.IsStranded := by
    rintro ⟨awaiting, vacant⟩
    rw [awaiting, vacant] at departs
    cases departs
  have given (awaiting : now.shell.execution = .running .awaiting) :
      ∃ r, now.shell.shared.slot = .ready r := by
    rw [awaiting] at departs
    generalize now.shell.shared.slot = slot at departs ⊢
    cases departs
    exact ⟨_, rfl⟩
  exact {
    stranded_iff := ⟨fun stranded => absurd stranded unstranded, fun shows =>
      absurd shows.1 uncommitted⟩
    soon_gone := fun _ => few
    goes_on := fun _ => (attentive.run run).ended_or_canGoOn given
    for_ever := fun stranded => absurd stranded unstranded }

theorem of_committed (deserted : asked.shell.Asked) (attentive : asked.Attentive)
    (committed : Execution.IsCommitted asked.shell.execution)
    (occupied : asked.shell.shared.slot = .running)
    (run : Run world outside asked t now) : asked.LeavesUnlessCommitted world outside t now := by
  have sequel := deserted.sequel committed occupied run.shell
  have stranded_iff : now.IsStranded ↔
      t.Shows .execution .release ∧ ¬ t.Shows .execution .setExiting := by
    rw [← sequel.stranded_iff]
    exact ⟨fun ⟨awaiting, vacant⟩ => ⟨awaiting, vacant⟩, fun ⟨awaiting, vacant⟩ =>
      ⟨awaiting, vacant⟩⟩
  have given (unstranded : ¬ now.IsStranded) (awaiting : now.shell.execution = .running .awaiting) :
      ∃ r, now.shell.shared.slot = .ready r := by
    rw [awaiting] at sequel
    generalize vacant : now.shell.shared.slot = slot at sequel
    cases sequel with
    | committed still => exact absurd still id
    | stranded => exact absurd ⟨awaiting, vacant⟩ unstranded
  exact {
    stranded_iff := stranded_iff.trans (and_iff_right committed).symm
    soon_gone := fun uncommitted => absurd committed uncommitted
    goes_on := fun unstranded => (attentive.run run).ended_or_canGoOn (given unstranded)
    for_ever := fun stranded _ _ later =>
      have stranded := stranded.run (deserted.stays run.shell) later
      ⟨stranded, stranded.not_canGoOn⟩ }

end LeavesUnlessCommitted

end Monitored

/-- Whatever the execution thread is doing when the supervisor asks it to leave: it leaves unless it
is launching a command, and then unless the launch succeeds. -/
theorem execution_leaves_unless_committed {W : Type} {world : World W} {outside : W → W → Prop}
    {m before asked now : Monitored W} {s t : Trace} {e : Event} {r : Except Fault Unit}
    (unattended : m.Unattended) (first : Monitored.Run world outside m s before)
    (asks : before.Stirs world [e] asked) (own : e.thread = .supervisor)
    (returned : asked.shell.supervisor = .running (.joiningExecution r))
    (second : Monitored.Run world outside asked t now) :
    asked.LeavesUnlessCommitted world outside t now := by
  have attentive : asked.Attentive := (unattended.attentive.run first).stirs asks
  rcases unattended.deserted.run first.shell with deserted | asked
  · obtain ⟨deserted, same, ⟨committed, occupied⟩ | ⟨uncommitted, departs⟩⟩ :=
      deserted.returns asks.moves own returned
    · exact .of_committed deserted attentive (same ▸ committed) occupied second
    · exact .of_departs deserted attentive (same ▸ uncommitted) departs second
  · exact absurd asked (Shell.not_hasAsked_of_returned asks.moves own returned)

/-- A shell whose input thread has gone while a command was in hand. -/
def Monitored.abandoned (x : Execution) : Monitored Source where
  shell := {
    shared := { slot := .running, world := [] }
    input := .ended (.ok ())
    execution := .running x
    supervisor := .running (.looking (.ok ())) }

theorem Monitored.unattended_abandoned {x : Execution}
    (holds : Execution.Holds (.running x) .running) : (abandoned x).Unattended :=
  ⟨⟨_, rfl⟩, ⟨_, rfl⟩, rfl, holds, .of_nobody_asleep _⟩

/-- A thread that has not looked at the exit flag yet has ended after two steps. -/
theorem execution_leaves_unless_committed_of_deciding :
    ∃ asked t now, Monitored.LeavesUnlessCommitted World.still (fun _ _ => False) asked t now ∧
      asked.shell.execution = .running (.deciding { argv := [[97]] }) ∧
      now.shell.execution = .ended (.ok ()) := by
  have played : ∃ s before e asked t now,
      (Monitored.abandoned (.deciding { argv := [[97]] })).play World.still
        [.supervisor, .supervisor] = some (s, before) ∧
      before.turn World.still .supervisor = some ([e], asked) ∧ e.thread = .supervisor ∧
      asked.shell.supervisor = .running (.joiningExecution (.ok ())) ∧
      asked.play World.still [.execution, .execution] = some (t, now) ∧
      asked.shell.execution = .running (.deciding { argv := [[97]] }) ∧
      now.shell.execution = .ended (.ok ()) :=
    ⟨_, _, _, _, _, _, rfl, rfl, rfl, rfl, rfl, rfl, rfl⟩
  obtain ⟨s, before, e, asked, t, now, begun, asks, own, returned, followed, decides, ended⟩ :=
    played
  have unattended : (Monitored.abandoned (.deciding { argv := [[97]] })).Unattended :=
    Monitored.unattended_abandoned rfl
  have first : Monitored.Run World.still (fun _ _ => False) _ ([] ++ s) before :=
    Monitored.Run.start.play begun
  have second : Monitored.Run World.still (fun _ _ => False) asked ([] ++ t) now :=
    Monitored.Run.start.play followed
  exact ⟨asked, _, now, execution_leaves_unless_committed unattended first
    (Monitored.stirs_of_turn asks) own returned second, decides, ended⟩

/-- A thread that is launching a command when it is asked to leave waits for a request for ever
when the command has ended. -/
theorem execution_left_behind :
    ∃ t now, (Monitored.abandoned (.launching { argv := [[97]] } .start)).Unattended ∧
      Monitored.Run World.still (fun _ _ => False)
        (Monitored.abandoned (.launching { argv := [[97]] } .start)) t now ∧
      now.shell.supervisor = .running (.joiningExecution (.ok ())) ∧ now.IsStranded ∧
      ¬ now.CanGoOn World.still .execution := by
  let order : List ThreadId := List.replicate 3 .supervisor ++ List.replicate 4 .execution
  have played : ∃ t now, Monitored.play World.still order
      (Monitored.abandoned (.launching { argv := [[97]] } .start)) = some (t, now) ∧
        now.shell.supervisor = .running (.joiningExecution (.ok ())) ∧ now.IsStranded :=
    ⟨_, _, rfl, rfl, rfl, rfl⟩
  obtain ⟨t, now, reached, asked, stranded⟩ := played
  have run : Monitored.Run World.still (fun _ _ => False) _ ([] ++ t) now :=
    Monitored.Run.start.play reached
  exact ⟨t, now, Monitored.unattended_abandoned rfl, run, asked, stranded, stranded.not_canGoOn⟩

end JobShell
