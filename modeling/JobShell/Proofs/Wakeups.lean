import JobShell.Handoff.Monitor
import JobShell.Proofs.Alternation
import Mathlib.Data.List.Nodup

/-!
# Nobody sleeps for ever

In a run a thread that has to wait for the slot simply takes no step. Here it is looked at more
closely how it waits: it falls asleep on the monitor that guards the slot, an accepted offer or a
release notifies the sleepers, and a sleeper that wakes, notified or not, looks at the slot again.
These runs are runs of the shell in which steps are put off, so what holds of all runs holds of
them; what has to be proved is that no step is put off for ever.

Results:
1. `Monitored.Run.shell`: the threads do nothing that they would not do without sleeping.
2. `Monitored.Attentive.stirs`: a sleeper that has not been notified has nothing to wake for.
3. `handoff_never_stuck`: no request is refused or overwritten, one of the two threads can always
   go on, and in the end the slot is empty and the exit flag is set.
-/

namespace JobShell

open Thread (Input Execution Signals Supervisor Status)

/-! ## Sleeping on the slot -/

/-- Whether a wait is over. -/
def Wait.isOver (slot : Slot) : Wait → Bool
  | .request => slot.take?.isSome
  | .vacancy => !slot.isBusy

/-- The wait that a call is, if it waits for the slot. -/
def Call.wait? : Call → Option Wait
  | .awaitRequest => some .request
  | .awaitVacancy => some .vacancy
  | _ => none

def ThreadId.number : ThreadId → Nat
  | .input => 0
  | .execution => 1
  | .signals => 2
  | .supervisor => 3

theorem ThreadId.number_injective {a b : ThreadId} (same : a.number = b.number) : a = b := by
  cases a <;> cases b <;> first | rfl | cases same

namespace Monitor

theorem isOver_of_poll_eq_none {m : Monitor} {w : Wait} (unanswered : m.poll w = none) :
    w.isOver m.slot = false := by
  cases w with
  | request =>
      rw [poll, Option.map_eq_none_iff] at unanswered
      rw [Wait.isOver, unanswered]
      rfl
  | vacancy =>
      cases busy : m.slot.isBusy with
      | true => rw [Wait.isOver, busy]; rfl
      | false => simp [poll, busy] at unanswered

/-- A thread that has to wait is the last one among the sleepers. -/
theorem enter_eq_none {m after : Monitor} {thread : Nat} {w : Wait}
    (entered : m.enter thread w = (none, after)) :
    m.poll w = none ∧ after = { m with asleep := m.asleep ++ [{ thread, wait := w }] } := by
  unfold enter at entered
  split at entered
  · cases entered
  · next unanswered =>
      cases entered
      exact ⟨unanswered, rfl⟩

/-- The sleepers after a call: an accepted offer and a release notify them. -/
def asleepAfter (m : Monitor) : Call → List Sleeper
  | .offer r =>
      match m.offer r with
      | .ok after => after.asleep
      | .error _ => m.asleep
  | .release => m.release.asleep
  | _ => m.asleep

/-- A call notifies everybody or nobody. -/
theorem asleepAfter_cases (m : Monitor) (c : Call) :
    m.asleepAfter c = m.asleep ∨ m.asleepAfter c = m.notifyAll.asleep := by
  cases c with
  | offer r =>
      simp only [asleepAfter, offer]
      cases m.slot.offer r with
      | ok slot => exact .inr rfl
      | error e => exact .inl rfl
  | release => exact .inr rfl
  | _ => exact .inl rfl

end Monitor

/-- The shell, and who is asleep on its slot. -/
structure Monitored (W : Type) where
  shell : Shell W
  asleep : List Sleeper := []

namespace Monitored

variable {W : Type}

def monitor (m : Monitored W) : Monitor := ⟨m.shell.shared.slot, m.asleep⟩

def IsAwake (m : Monitored W) (thread : ThreadId) : Prop :=
  ∀ x ∈ m.asleep, x.thread ≠ thread.number

end Monitored

namespace Monitored

variable {W : Type}

/-- `m.Stirs world t after`: a thread acts, falls asleep or wakes, with the events `t`. -/
inductive Stirs (world : World W) (m : Monitored W) : Trace → Monitored W → Prop
  | act {e : Event} {after : Shell W} :
      m.IsAwake e.thread → m.shell.Moves world e after →
      Stirs world m [e] ⟨after, m.monitor.asleepAfter e.call⟩
  | doze {thread : ThreadId} {c : Call} {w : Wait} {after : Monitor} :
      m.IsAwake thread → m.shell.call? thread = some c → c.wait? = some w →
      m.monitor.enter thread.number w = (none, after) →
      Stirs world m [] ⟨m.shell, after.asleep⟩
  | wake {x : Sleeper} {e : Event} {after : Shell W} {got : Awaited} {rest : Monitor} :
      x ∈ m.asleep → x.thread = e.thread.number → m.monitor.wake x = (some got, rest) →
      m.shell.Moves world e after → Stirs world m [e] ⟨after, rest.asleep⟩
  | sleepOn {x : Sleeper} {rest : Monitor} :
      x ∈ m.asleep → m.monitor.wake x = (none, rest) → Stirs world m [] ⟨m.shell, rest.asleep⟩

/-- What comes of it when a thread is given a turn: a sleeper wakes, any other thread makes its
call or falls asleep over it. -/
def turn (world : World W) (m : Monitored W) (thread : ThreadId) : Option (Trace × Monitored W) :=
  match m.asleep.find? (·.thread = thread.number) with
  | some x =>
      match m.monitor.wake x with
      | (none, rest) => some ([], ⟨m.shell, rest.asleep⟩)
      | (some _, rest) =>
          (m.shell.act world thread).map fun (e, after) => ([e], ⟨after, rest.asleep⟩)
  | none =>
      match m.shell.act world thread, (m.shell.call? thread).bind Call.wait? with
      | some (e, after), _ => some ([e], ⟨after, m.monitor.asleepAfter e.call⟩)
      | none, some w =>
          match m.monitor.enter thread.number w with
          | (none, after) => some ([], ⟨m.shell, after.asleep⟩)
          | (some _, _) => none
      | none, none => none

theorem stirs_of_turn {world : World W} {m after : Monitored W} {thread : ThreadId} {u : Trace}
    (turned : m.turn world thread = some (u, after)) : m.Stirs world u after := by
  unfold turn at turned
  split at turned
  · next x found =>
      have mem := List.mem_of_find?_eq_some found
      have own : x.thread = thread.number := by simpa using List.find?_some found
      split at turned
      · next rest woken =>
          cases turned
          exact .sleepOn mem woken
      · next got rest woken =>
          obtain ⟨⟨e, later⟩, acted, same⟩ := Option.map_eq_some_iff.1 turned
          cases same
          have thread_eq := Shell.thread_of_act acted
          rw [← thread_eq] at acted own
          exact .wake mem own woken (Shell.moves_iff_act.2 acted)
  · next absent =>
      have awake : m.IsAwake thread := by simpa [IsAwake] using absent
      split at turned
      · next e later acted =>
          cases turned
          have thread_eq := Shell.thread_of_act acted
          rw [← thread_eq] at acted awake
          exact .act awake (Shell.moves_iff_act.2 acted)
      · next w _ waits =>
          obtain ⟨c, next, waits⟩ := Option.bind_eq_some_iff.1 waits
          split at turned
          · next asleep entered =>
              cases turned
              exact .doze awake next waits entered
          · cases turned
      · cases turned

/-- Give the threads turns in a given order. -/
def play (world : World W) : List ThreadId → Monitored W → Option (Trace × Monitored W)
  | [], m => some ([], m)
  | thread :: order, m =>
      match m.turn world thread with
      | none => none
      | some (u, m) => (play world order m).map fun (t, m) => (u ++ t, m)

/-- A run of the shell whose threads sleep while they wait for the slot. -/
inductive Run (world : World W) (outside : W → W → Prop) (m : Monitored W) :
    Trace → Monitored W → Prop
  | start : Run world outside m [] m
  | stir {t u : Trace} {now after : Monitored W} :
      Run world outside m t now → now.Stirs world u after → Run world outside m (t ++ u) after
  | outside {t : Trace} {now : Monitored W} {w : W} :
      Run world outside m t now → outside now.shell.shared.world w →
      Run world outside m t { now with shell := now.shell.withWorld w }

namespace Run

variable {world : World W} {outside : W → W → Prop} {m now : Monitored W} {t : Trace}

theorem shell (run : Run world outside m t now) :
    JobShell.Run world outside m.shell t now.shell := by
  induction run with
  | start => exact .start
  | stir _ stirs ih =>
      cases stirs with
      | act _ moves | wake _ _ _ moves => exact ih.move moves
      | doze | sleepOn => exact (List.append_nil _).symm ▸ ih
  | outside _ changes ih => exact ih.outside changes

theorem play {u : Trace} {last : Monitored W} {order : List ThreadId}
    (run : Run world outside m t now) (played : now.play world order = some (u, last)) :
    Run world outside m (t ++ u) last := by
  induction order generalizing t u now with
  | nil =>
      cases played
      exact (List.append_nil t).symm ▸ run
  | cons thread order ih =>
      simp only [Monitored.play] at played
      split at played
      · cases played
      · next v middle turned =>
          obtain ⟨⟨u, last⟩, rest, same⟩ := Option.map_eq_some_iff.1 played
          cases same
          rw [← List.append_assoc]
          exact ih (run.stir (stirs_of_turn turned)) rest

end Run

end Monitored

/-! ## Sleepers and the slot -/

/-- Where a sleeper stands: each of the two threads sleeps at one place only. -/
inductive Sleeper.StandsIn {W : Type} (s : Shell W) : Sleeper → Prop
  | input {notified : Bool} :
      s.input = .running .waiting → StandsIn s ⟨ThreadId.input.number, .vacancy, notified⟩
  | execution {notified : Bool} :
      s.execution = .running .awaiting → StandsIn s ⟨ThreadId.execution.number, .request, notified⟩

namespace Sleeper.StandsIn

variable {W : Type} {world : World W} {s after : Shell W} {x : Sleeper} {e : Event}

theorem moves (stands : x.StandsIn s) (moves : s.Moves world e after)
    (other : x.thread ≠ e.thread.number) : x.StandsIn after := by
  cases stands with
  | input waits =>
      have apart : e.thread ≠ .input := fun same => other (by rw [same])
      exact .input ((moves.input_eq apart).trans waits)
  | execution awaits =>
      have apart : e.thread ≠ .execution := fun same => other (by rw [same])
      exact .execution ((moves.execution_eq apart).trans awaits)

theorem withNotified (stands : x.StandsIn s) (notified : Bool) :
    Sleeper.StandsIn s { x with notified } := by
  cases stands with
  | input waits => exact .input waits
  | execution awaits => exact .execution awaits

theorem of_call? {thread : ThreadId} {c : Call} {w : Wait} (next : s.call? thread = some c)
    (waits : c.wait? = some w) : Sleeper.StandsIn s { thread := thread.number, wait := w } := by
  cases thread with
  | input =>
      cases at_ : s.input with
      | ended result => simp [Shell.call?, at_] at next
      | running i =>
          simp only [Shell.call?, at_, Option.some.injEq] at next
          subst next
          cases i <;> cases waits
          exact .input at_
  | execution =>
      cases at_ : s.execution with
      | ended result => simp [Shell.call?, at_] at next
      | running x =>
          simp only [Shell.call?, at_, Option.some.injEq] at next
          subst next
          cases x with
          | awaiting =>
              cases waits
              exact .execution at_
          | launching c l => cases l <;> cases waits
          | releasing result => cases result <;> cases waits
          | _ => cases waits
  | signals =>
      cases at_ : s.signals with
      | ended result => simp [Shell.call?, at_] at next
      | running g =>
          simp only [Shell.call?, at_, Option.some.injEq] at next
          subst next
          cases g with
          | reaping r => cases r <;> cases waits
          | _ => cases waits
  | supervisor =>
      cases at_ : s.supervisor with
      | ended result => simp [Shell.call?, at_] at next
      | running v =>
          simp only [Shell.call?, at_, Option.some.injEq] at next
          subst next
          cases v <;> cases waits

/-- What a sleeper does when it wakes notifies nobody. -/
theorem asleepAfter_eq (stands : x.StandsIn s) (moves : s.Moves world e after)
    (own : x.thread = e.thread.number) (m : Monitor) : m.asleepAfter e.call = m.asleep := by
  cases stands with
  | input waits =>
      have same : e.thread = .input := (ThreadId.number_injective own).symm
      cases moves with
      | input at_ _ =>
          rw [waits] at at_
          cases at_
          rfl
      | execution | signals | supervisor => cases same
  | execution awaits =>
      have same : e.thread = .execution := (ThreadId.number_injective own).symm
      cases moves with
      | execution at_ _ =>
          rw [awaits] at at_
          cases at_
          rfl
      | input | signals | supervisor => cases same

end Sleeper.StandsIn

/-- A sleeper that is not notified by a call still waits after it. -/
theorem Shell.Moves.isOver_eq_false {W : Type} {world : World W} {s after : Shell W} {e : Event}
    {x : Sleeper} {m : Monitor} (moves : s.Moves world e after) (slot : m.slot = s.shared.slot)
    (mem : x ∈ m.asleepAfter e.call) (unnotified : x.notified = false)
    (blocked : x.wait.isOver s.shared.slot = false) :
    x.wait.isOver after.shared.slot = false := by
  obtain ⟨thread, call, reply⟩ := e
  -- where a call notifies, nobody is left unnotified, so the call was another one
  have told : x ∈ m.notifyAll.asleep → False := by
    intro mem
    obtain ⟨y, _, rfl⟩ := List.mem_map.1 mem
    cases unnotified
  rcases moves.answered with answered | ⟨_, same⟩
  · cases call with
    | offer r =>
        simp only [Monitor.asleepAfter, Monitor.offer, slot] at mem
        simp only [Shared.answer] at answered
        cases taken : s.shared.slot.offer r with
        | ok slot =>
            rw [taken] at mem
            exact absurd mem told
        | error e =>
            rw [taken] at answered
            have same : s.shared = after.shared := (Prod.mk.inj (Option.some.inj answered)).2
            rw [← same]
            exact blocked
    | release => exact absurd mem told
    | awaitRequest =>
        simp only [Shared.answer, Option.map_eq_some_iff] at answered
        obtain ⟨⟨r, slot⟩, taken, same⟩ := answered
        have running : slot = .running := by
          revert taken
          cases s.shared.slot <;> simp +contextual [Slot.take?, eq_comm]
        rw [← (Prod.mk.inj same).2, running]
        cases x.wait <;> rfl
    | _ => rw [moves.slot_eq rfl, blocked]
  · rw [same, blocked]

/-- The threads asleep are different ones, each stands where it may sleep, and whoever has not
been notified still has to wait. -/
structure Monitored.Attentive {W : Type} (m : Monitored W) : Prop where
  apart : (m.asleep.map Sleeper.thread).Nodup
  stands : ∀ x ∈ m.asleep, x.StandsIn m.shell
  blocked : ∀ x ∈ m.asleep, x.notified = false →
    x.wait.isOver m.shell.shared.slot = false

namespace Monitored.Attentive

variable {W : Type} {world : World W} {m after : Monitored W} {t : Trace}

theorem act {e : Event} {after : Shell W} (attentive : m.Attentive) (awake : m.IsAwake e.thread)
    (moves : m.shell.Moves world e after) :
    Attentive ⟨after, m.monitor.asleepAfter e.call⟩ := by
  obtain ⟨apart, stands, blocked⟩ := attentive
  refine ⟨?_, ?_, ?_⟩
  · rcases m.monitor.asleepAfter_cases e.call with same | same
    · rw [same]
      exact apart
    · rw [same]
      simpa [Monitor.notifyAll, monitor, Function.comp_def] using apart
  · intro x mem
    rcases m.monitor.asleepAfter_cases e.call with same | same
    · rw [same] at mem
      exact (stands x mem).moves moves (awake x mem)
    · rw [same] at mem
      obtain ⟨y, there, rfl⟩ := List.mem_map.1 mem
      exact ((stands y there).moves moves (awake y there)).withNotified true
  · intro x mem unnotified
    have before : x ∈ m.asleep := by
      rcases m.monitor.asleepAfter_cases e.call with same | same
      · rw [same] at mem
        exact mem
      · rw [same] at mem
        obtain ⟨y, _, rfl⟩ := List.mem_map.1 mem
        cases unnotified
    exact moves.isOver_eq_false (m := m.monitor) rfl mem unnotified (blocked x before unnotified)

theorem doze {thread : ThreadId} {c : Call} {w : Wait} {after : Monitor}
    (attentive : m.Attentive) (awake : m.IsAwake thread) (next : m.shell.call? thread = some c)
    (waits : c.wait? = some w) (entered : m.monitor.enter thread.number w = (none, after)) :
    Attentive ⟨m.shell, after.asleep⟩ := by
  obtain ⟨apart, stands, blocked⟩ := attentive
  obtain ⟨unanswered, rfl⟩ := Monitor.enter_eq_none entered
  have waiting : w.isOver m.shell.shared.slot = false :=
    Monitor.isOver_of_poll_eq_none unanswered
  refine ⟨?_, ?_, ?_⟩
  · simp only [List.map_append, List.map_cons, List.map_nil]
    refine List.Nodup.append apart (List.nodup_singleton _) ?_
    rw [List.disjoint_singleton]
    intro mem
    obtain ⟨x, there, same⟩ := List.mem_map.1 mem
    exact awake x there same
  · intro x mem
    rcases List.mem_append.1 mem with there | new
    · exact stands x there
    · rw [List.mem_singleton.1 new]
      exact .of_call? next waits
  · intro x mem unnotified
    rcases List.mem_append.1 mem with there | new
    · exact blocked x there unnotified
    · rw [List.mem_singleton.1 new]
      exact waiting

theorem wake {x : Sleeper} {e : Event} {after : Shell W} {got : Awaited} {rest : Monitor}
    (attentive : m.Attentive) (mem : x ∈ m.asleep) (own : x.thread = e.thread.number)
    (woken : m.monitor.wake x = (some got, rest)) (moves : m.shell.Moves world e after) :
    Attentive ⟨after, rest.asleep⟩ := by
  obtain ⟨apart, stands, blocked⟩ := attentive
  have left : rest.asleep = m.asleep.erase x := by
    unfold Monitor.wake at woken
    split at woken <;> cases woken
    rfl
  have others : ∀ y ∈ m.asleep.erase x, y ∈ m.asleep ∧ y.thread ≠ e.thread.number := by
    intro y there
    obtain ⟨different, before⟩ := apart.of_map.mem_erase_iff.1 there
    refine ⟨before, fun same => different ?_⟩
    exact List.inj_on_of_nodup_map apart before mem (same.trans own.symm)
  rw [left]
  refine ⟨?_, ?_, ?_⟩
  · exact apart.sublist (List.erase_sublist.map _)
  · intro y there
    obtain ⟨before, other⟩ := others y there
    exact (stands y before).moves moves other
  · intro y there unnotified
    obtain ⟨before, _⟩ := others y there
    have kept : y ∈ m.monitor.asleepAfter e.call := by
      rw [(stands x mem).asleepAfter_eq moves own]
      exact before
    exact moves.isOver_eq_false (m := m.monitor) rfl kept unnotified (blocked y before unnotified)

theorem sleepOn {x : Sleeper} {rest : Monitor} (attentive : m.Attentive)
    (woken : m.monitor.wake x = (none, rest)) : Attentive ⟨m.shell, rest.asleep⟩ := by
  obtain ⟨apart, stands, blocked⟩ := attentive
  unfold Monitor.wake at woken
  split at woken
  · cases woken
  · next unanswered =>
      cases woken
      have waiting : x.wait.isOver m.shell.shared.slot = false :=
        Monitor.isOver_of_poll_eq_none unanswered
      refine ⟨?_, ?_, ?_⟩
      · have same : Sleeper.thread ∘ (fun y => if y = x then { y with notified := false } else y) =
            Sleeper.thread := by
          funext y
          simp only [Function.comp_apply]
          split <;> rfl
        rw [List.map_map, same]
        exact apart
      · intro y mem
        obtain ⟨z, there, rfl⟩ := List.mem_map.1 mem
        split
        · exact (stands z there).withNotified false
        · exact stands z there
      · intro y mem unnotified
        obtain ⟨z, there, rfl⟩ := List.mem_map.1 mem
        split at unnotified
        · next same => rw [if_pos same, same, waiting]
        · next other => rw [if_neg other, blocked z there unnotified]

theorem stirs (attentive : m.Attentive) (stirs : m.Stirs world t after) : after.Attentive := by
  cases stirs with
  | act awake moves => exact attentive.act awake moves
  | doze awake next waits entered => exact attentive.doze awake next waits entered
  | wake mem own woken moves => exact attentive.wake mem own woken moves
  | sleepOn _ woken => exact attentive.sleepOn woken

theorem run {outside : W → W → Prop} {now : Monitored W} (attentive : m.Attentive)
    (run : Monitored.Run world outside m t now) : now.Attentive := by
  induction run with
  | start => exact attentive
  | stir _ stirs ih => exact ih.stirs stirs
  | @outside t now w _ _ ih =>
      obtain ⟨apart, stands, blocked⟩ := ih
      refine ⟨apart, fun x mem => ?_, blocked⟩
      cases stands x mem with
      | input waits => exact .input waits
      | execution awaits => exact .execution awaits

theorem of_nobody_asleep (s : Shell W) : Attentive ⟨s, []⟩ :=
  ⟨List.nodup_nil, nofun, nofun⟩

theorem of_run {outside : W → W → Prop} {limits : Limits} {w : W} {now : Monitored W}
    (reached : Monitored.Run world outside ⟨Shell.boot limits w, []⟩ t now) : now.Attentive :=
  (of_nobody_asleep _).run reached

end Monitored.Attentive

/-! ## Offers, takings and releases -/

/-- The request that an accepted offer leaves in the slot. -/
def Event.offered? : Event → Option Request
  | ⟨_, .offer r, .ok ()⟩ => some r
  | _ => none

/-- The request that is taken out of the slot. -/
def Event.taken? : Event → Option Request
  | ⟨_, .awaitRequest, r⟩ => some r
  | _ => none

/-- Whether an offer was refused because the slot was occupied. -/
def Event.isRefusal : Event → Bool
  | ⟨_, .offer _, .error _⟩ => true
  | _ => false

namespace Trace

def offered (t : Trace) : List Request := t.filterMap Event.offered?

def taken (t : Trace) : List Request := t.filterMap Event.taken?

end Trace

namespace Shell.Coordinated

variable {W : Type} {world : World W} {s after : Shell W} {e : Event} {r : Request}

theorem empty_of_offer (ordered : s.Coordinated) (moves : s.Moves world e after)
    (offers : e.call = .offer r) : s.shared.slot = .empty := by
  cases moves with
  | @input i _ _ at_ answered =>
      have alternation := ordered.alternation
      rw [at_] at alternation
      exact (alternation.vacant_of_input_moves answered).1
  | @execution x _ _ at_ answered =>
      cases x with
      | launching c l => cases l <;> cases offers
      | releasing result => cases result <;> cases offers
      | _ => cases offers
  | @signals g _ _ at_ answered =>
      cases g with
      | reaping r => cases r <;> cases offers
      | _ => cases offers
  | @supervisor v _ _ at_ answered =>
      have supervision := ordered.supervision
      rw [at_] at supervision
      cases supervision <;> cases offers

theorem running_of_release (ordered : s.Coordinated) (moves : s.Moves world e after)
    (releases : e.call = .release) : s.shared.slot = .running := by
  cases moves with
  | @input i _ _ at_ answered => cases i <;> cases releases
  | @execution x _ _ at_ answered =>
      have alternation := ordered.alternation
      rw [at_] at alternation
      generalize s.input = i, s.shared.slot = slot, s.shared.exiting = exiting at alternation ⊢
      cases alternation with
      | reading | offered | stopping | stopped => cases releases
      | serving | failing | closing => rfl
  | @signals g _ _ at_ answered =>
      cases g with
      | reaping r => cases r <;> cases releases
      | _ => cases releases
  | @supervisor v _ _ at_ answered => cases v <;> cases releases

/-- What was in the slot or is put into it now is taken out of it now or is still in it. -/
theorem pending_moves (ordered : s.Coordinated) (moves : s.Moves world e after) :
    e.isRefusal = false ∧
      s.shared.slot.pending ++ e.offered?.toList =
        e.taken?.toList ++ after.shared.slot.pending := by
  have vacant {r : Request} (offers : e.call = .offer r) : s.shared.slot = .empty :=
    ordered.empty_of_offer moves offers
  have running (releases : e.call = .release) : s.shared.slot = .running :=
    ordered.running_of_release moves releases
  obtain ⟨thread, call, reply⟩ := e
  rcases moves.answered with answered | ⟨joins, same⟩
  · cases call with
    | offer r =>
        have empty := vacant rfl
        simp only [Shared.answer, empty, Slot.offer] at answered
        obtain ⟨rfl, same⟩ := Prod.mk.inj (Option.some.inj answered)
        rw [empty, ← same]
        exact ⟨rfl, rfl⟩
    | awaitRequest =>
        simp only [Shared.answer, Option.map_eq_some_iff] at answered
        obtain ⟨⟨r, slot⟩, taken, same⟩ := answered
        obtain ⟨rfl, state⟩ := Prod.mk.inj same
        rw [← state]
        refine ⟨rfl, ?_⟩
        revert taken
        cases s.shared.slot with
        | empty | running =>
            intro taken
            cases taken
        | ready r =>
            intro taken
            cases taken
            rfl
    | release =>
        have emptied : after.shared.slot = .empty := by
          rw [← (Prod.mk.inj (Option.some.inj answered)).2]
          rfl
        rw [running rfl, emptied]
        exact ⟨rfl, rfl⟩
    | _ =>
        rw [moves.slot_eq rfl]
        exact ⟨rfl, List.append_nil _⟩
  · cases call with
    | joinInput | joinExecution | joinSignals =>
        rw [same]
        exact ⟨rfl, List.append_nil _⟩
    | _ => cases joins

end Shell.Coordinated

theorem Run.offered_eq {W : Type} {world : World W} {outside : W → W → Prop} {limits : Limits}
    {w : W} {t : Trace} {s : Shell W} (run : Run world outside (Shell.boot limits w) t s) :
    (∀ e ∈ t, e.isRefusal = false) ∧ t.offered = t.taken ++ s.shared.slot.pending := by
  induction run with
  | start => exact ⟨nofun, rfl⟩
  | @move t now after e run moves ih =>
      obtain ⟨accepted, follow⟩ := ih
      obtain ⟨unrefused, passed⟩ := run.coordinated.pending_moves moves
      refine ⟨?_, ?_⟩
      · intro x mem
        rcases List.mem_append.1 mem with before | new
        · exact accepted x before
        · rw [List.mem_singleton.1 new, unrefused]
      · simp only [Trace.offered, Trace.taken, Trace.filterMap_concat] at follow ⊢
        rw [follow, List.append_assoc, passed, List.append_assoc]
  | outside _ _ ih => exact ih

/-! ## Going on -/

namespace Call

/-- Whether a call gets its answer from the terminal or from a child. -/
def asksOutside : Call → Bool
  | .readByte | .waitFor .. => true
  | _ => false

/-- Whether a call is answered at once in every state. -/
def isImmediate : Call → Bool
  | .awaitVacancy | .awaitRequest | .readByte | .waitFor .. | .awaitSignal => false
  | c => !c.joins

end Call

theorem Shared.exists_answer {W : Type} (world : World W) (s : Shared W) {c : Call}
    (immediate : c.isImmediate = true) :
    ∃ reply after, s.answer world c = some (reply, after) := by
  cases c with
  | offer r =>
      simp only [answer]
      split <;> exact ⟨_, _, rfl⟩
  | track pid name =>
      simp only [answer]
      split <;> exact ⟨_, _, rfl⟩
  | awaitVacancy | awaitRequest | readByte | waitFor | awaitSignal | joinInput | joinExecution
  | joinSignals => cases immediate
  | _ => exact ⟨_, _, rfl⟩

/-- A thread can go on: it makes its call or wakes and makes it, or the call is a read or the wait
for a child. No sleep without notification stands in the way. -/
structure Monitored.CanGoOn {W : Type} (world : World W) (m : Monitored W) (thread : ThreadId) :
    Prop where
  roused : ∀ x ∈ m.asleep, x.thread = thread.number → x.notified = true
  call : (∃ e after, e.thread = thread ∧ m.Stirs world [e] after) ∨
    ∃ c, m.shell.call? thread = some c ∧ c.asksOutside = true

namespace Monitored.Attentive

variable {W : Type} {world : World W} {m : Monitored W}

/-- A step of the shell is put off for a wake-up at most. -/
theorem exists_stirs {e : Event} {after : Shell W} (attentive : m.Attentive)
    (moves : m.shell.Moves world e after) : ∃ later, m.Stirs world [e] later := by
  by_cases awake : m.IsAwake e.thread
  · exact ⟨_, .act awake moves⟩
  · simp only [IsAwake, not_forall, ne_eq, not_not] at awake
    obtain ⟨x, mem, own⟩ := awake
    -- the sleeper makes the call it sleeps on, so a step of its thread is what it waits for
    have answer : ∃ got rest, m.monitor.wake x = (some got, rest) := by
      cases attentive.stands x mem with
      | input waits =>
          have same : e.thread = .input := (ThreadId.number_injective own).symm
          cases moves with
          | input at_ answered =>
              rw [waits] at at_
              cases at_
              have vacant : m.monitor.slot.isBusy = false := by
                by_contra busy
                simp only [Bool.not_eq_false] at busy
                rw [monitor] at busy
                simp [Input.turn, Shared.answer, busy] at answered
              simp [Monitor.wake, Monitor.poll, vacant]
          | execution | signals | supervisor => cases same
      | execution awaits =>
          have same : e.thread = .execution := (ThreadId.number_injective own).symm
          cases moves with
          | execution at_ answered =>
              rw [awaits] at at_
              cases at_
              simp only [Execution.turn, Shared.answer, Option.map_eq_some_iff] at answered
              obtain ⟨⟨r, slot⟩, taken, _⟩ := answered
              have there : m.monitor.slot.take? = some (r, slot) := taken
              simp [Monitor.wake, Monitor.poll, there]
          | input | signals | supervisor => cases same
    obtain ⟨got, rest, woken⟩ := answer
    exact ⟨_, .wake mem own woken moves⟩

theorem input_canGoOn {i : Input} (attentive : m.Attentive) (at_ : m.shell.input = .running i)
    (vacant : m.shell.shared.slot = .empty) : m.CanGoOn world .input := by
  refine ⟨?_, ?_⟩
  · intro x mem own
    by_contra unnotified
    have blocked := attentive.blocked x mem (Bool.not_eq_true _ ▸ unnotified)
    cases attentive.stands x mem with
    | input => simp [Wait.isOver, vacant, Slot.isBusy] at blocked
    | execution => cases own
  -- only the wait for the slot and the read are not answered at once, and the slot is empty
  · have goes {reply shared}
        (answered : m.shell.shared.answer world (i.turn m.shell.limits).call =
          some (reply, shared)) :
        ∃ e after, e.thread = .input ∧ m.Stirs world [e] after := by
      obtain ⟨later, stirs⟩ := attentive.exists_stirs (.input at_ answered)
      exact ⟨_, later, rfl, stirs⟩
    by_cases immediate : (i.turn m.shell.limits).call.isImmediate = true
    · obtain ⟨reply, shared, answered⟩ := m.shell.shared.exists_answer world immediate
      exact .inl (goes answered)
    · cases i with
      | reading r => exact .inr ⟨.readByte, by simp [Shell.call?, at_, Input.turn], rfl⟩
      | waiting =>
          have answered :
              m.shell.shared.answer world .awaitVacancy = some ((), m.shell.shared) := by
            simp [Shared.answer, vacant, Slot.isBusy]
          exact .inl (goes answered)
      | _ => exact absurd rfl immediate

theorem execution_canGoOn {x : Execution} (attentive : m.Attentive)
    (at_ : m.shell.execution = .running x)
    (given : x = .awaiting → ∃ r, m.shell.shared.slot = .ready r) :
    m.CanGoOn world .execution := by
  refine ⟨?_, ?_⟩
  · intro y mem own
    by_contra unnotified
    have blocked := attentive.blocked y mem (Bool.not_eq_true _ ▸ unnotified)
    cases attentive.stands y mem with
    | input => cases own
    | execution awaits =>
        rw [awaits] at at_
        cases at_
        obtain ⟨r, ready⟩ := given rfl
        simp [Wait.isOver, ready, Slot.take?] at blocked
  · have goes {reply shared}
        (answered : m.shell.shared.answer world x.turn.call = some (reply, shared)) :
        ∃ e after, e.thread = .execution ∧ m.Stirs world [e] after := by
      obtain ⟨later, stirs⟩ := attentive.exists_stirs (.execution at_ answered)
      exact ⟨_, later, rfl, stirs⟩
    by_cases immediate : x.turn.call.isImmediate = true
    · obtain ⟨reply, shared, answered⟩ := m.shell.shared.exists_answer world immediate
      exact .inl (goes answered)
    · cases x with
      | awaiting =>
          obtain ⟨r, ready⟩ := given rfl
          have answered : m.shell.shared.answer world .awaitRequest =
              some (r, { m.shell.shared with slot := .running }) := by
            simp [Shared.answer, ready, Slot.take?]
          exact .inl (goes answered)
      | launching c l =>
          cases l with
          | waiting pid =>
              exact .inr ⟨_, by simp only [Shell.call?, at_]; rfl, rfl⟩
          | _ => exact absurd rfl immediate
      | releasing result => cases result <;> exact absurd rfl immediate
      | _ => exact absurd rfl immediate

end Monitored.Attentive

namespace Monitored

variable {W : Type} {world : World W} {m : Monitored W}

/-- As long as one of the two threads has not ended, one of them can go on. -/
theorem Attentive.one_canGoOn (attentive : m.Attentive) (ordered : m.shell.Coordinated)
    (unfinished : (∃ i, m.shell.input = .running i) ∨ ∃ x, m.shell.execution = .running x) :
    m.CanGoOn world .input ∨ m.CanGoOn world .execution := by
  have alternation := ordered.alternation
  generalize atInput : m.shell.input = i, atExecution : m.shell.execution = x,
    atSlot : m.shell.shared.slot = slot, m.shell.shared.exiting = exiting
    at alternation unfinished
  -- in each situation the thread whose turn it is does not wait for the other one
  cases alternation with
  | reading | stopping => exact .inl (attentive.input_canGoOn atInput atSlot)
  | offered | stopped =>
      exact .inr (attentive.execution_canGoOn atExecution fun _ => ⟨_, atSlot⟩)
  | serving serves =>
      refine .inr (attentive.execution_canGoOn atExecution ?_)
      rintro rfl
      exact absurd serves id
  | failing | closing => exact .inr (attentive.execution_canGoOn atExecution nofun)
  | failed dismissed =>
      cases dismissed with
      | waiting | looking | leaving => exact .inl (attentive.input_canGoOn atInput atSlot)
      | ended => simp at unfinished
  | closed => simp at unfinished

/-- Once the input thread has ended, the execution thread goes on until it has ended too. -/
theorem Attentive.execution_canGoOn_of_ended {r : Except Fault Unit} {x : Execution}
    (attentive : m.Attentive) (ordered : m.shell.Coordinated) (halted : m.shell.input = .ended r)
    (at_ : m.shell.execution = .running x) : m.CanGoOn world .execution := by
  refine attentive.execution_canGoOn at_ ?_
  rintro rfl
  have alternation := ordered.alternation
  rw [halted, at_] at alternation
  generalize m.shell.shared.slot = slot, m.shell.shared.exiting = exiting at alternation ⊢
  cases alternation
  exact ⟨_, rfl⟩

end Monitored

/-- How the hand-off stands after a trace. -/
structure HandoffSound {W : Type} (world : World W) (t : Trace) (m : Monitored W) : Prop where
  /-- No offer has found the slot occupied, and none will. -/
  none_refused : (∀ e ∈ t, e.isRefusal = false) ∧
    ∀ e after r, m.shell.Moves world e after → e.call = .offer r → m.shell.shared.slot = .empty
  /-- What was offered was taken, in the same order, or is still in the slot. -/
  none_overwritten : t.offered = t.taken ++ m.shell.shared.slot.pending
  /-- Only a slot whose request has been taken is released. -/
  released_running : ∀ e after, m.shell.Moves world e after → e.call = .release →
    m.shell.shared.slot = .running
  /-- The wait for a request ends with one. -/
  taken_ready : ∀ e after, m.shell.Moves world e after → e.call = .awaitRequest →
    ∃ r, m.shell.shared.slot = .ready r ∧ e.taken? = some r ∧ after.shared.slot = .running
  /-- While one of the two threads has not ended, one of them can go on. -/
  never_stuck : (∃ i, m.shell.input = .running i) ∨ (∃ x, m.shell.execution = .running x) →
    m.CanGoOn world .input ∨ m.CanGoOn world .execution
  /-- The execution thread is not left behind. -/
  execution_follows : ∀ r x, m.shell.input = .ended r → m.shell.execution = .running x →
    m.CanGoOn world .execution
  /-- Both threads leave the slot empty and the exit flag set. -/
  closed : ∀ r x, m.shell.input = .ended r → m.shell.execution = .ended x →
    m.shell.shared.slot = .empty ∧ m.shell.shared.exiting = true

/-- Whatever is read and whatever becomes of the launches, whoever sleeps and whenever it wakes,
the hand-off is sound after every step. -/
theorem handoff_never_stuck {W : Type} {world : World W} {outside : W → W → Prop}
    {limits : Limits} {w : W} {t : Trace} {m : Monitored W}
    (run : Monitored.Run world outside ⟨Shell.boot limits w, []⟩ t m) :
    HandoffSound world t m where
  none_refused :=
    ⟨run.shell.offered_eq.1, fun _ _ _ moves offers =>
      run.shell.coordinated.empty_of_offer moves offers⟩
  none_overwritten := run.shell.offered_eq.2
  released_running _ _ moves releases := run.shell.coordinated.running_of_release moves releases
  taken_ready e after moves awaits := by
    obtain ⟨thread, call, reply⟩ := e
    cases awaits
    rcases moves.answered with answered | ⟨joins, _⟩
    · simp only [Shared.answer, Option.map_eq_some_iff] at answered
      obtain ⟨⟨r, slot⟩, taken, same⟩ := answered
      obtain ⟨rfl, state⟩ := Prod.mk.inj same
      cases at_ : m.shell.shared.slot with
      | empty | running =>
          rw [at_] at taken
          cases taken
      | ready r =>
          rw [at_] at taken
          cases taken
          exact ⟨r, rfl, rfl, by rw [← state]⟩
    · cases joins
  never_stuck := (Monitored.Attentive.of_run run).one_canGoOn run.shell.coordinated
  execution_follows _ _ halted at_ :=
    (Monitored.Attentive.of_run run).execution_canGoOn_of_ended run.shell.coordinated halted at_
  closed r x halted finished := by
    have alternation := run.shell.coordinated.alternation
    rw [halted, finished] at alternation
    exact alternation.of_ended

/-- A command is launched for a thread that slept until it was offered, and the other one sleeps
until it is done; then `exit` wakes the execution thread for the last time. -/
theorem handoff_never_stuck_until_exit :
    ∃ t m, Monitored.Run World.still (fun _ _ => False)
        ⟨Shell.boot {} (Source.ofBytes (Bytes.ofText "a\nexit\n")), []⟩ t m ∧
      t.taken = [.run { argv := [Bytes.ofText "a"] }, .shutdown] ∧
      (∃ r, m.shell.input = .ended r) ∧ (∃ x, m.shell.execution = .ended x) ∧
      HandoffSound World.still t m := by
  let order : List ThreadId :=
    .execution :: List.replicate 6 .input ++ List.replicate 7 .execution ++
      List.replicate 11 .input ++ List.replicate 2 .execution
  have played :
      (Monitored.play World.still order
        ⟨Shell.boot {} (Source.ofBytes (Bytes.ofText "a\nexit\n")), []⟩).any
        (fun (t, m) => decide (t.taken = [.run { argv := [Bytes.ofText "a"] }, .shutdown]) &&
          (Shell.endOf m.shell.input).isSome && (Shell.endOf m.shell.execution).isSome) = true := by
    decide +kernel
  obtain ⟨⟨t, m⟩, reached, found⟩ := (Option.any_eq_true _ _).1 played
  simp only [Bool.and_eq_true, decide_eq_true_eq, Option.isSome_iff_exists,
    Shell.endOf_eq_some_iff] at found
  obtain ⟨⟨taken, halted⟩, finished⟩ := found
  have run : Monitored.Run World.still (fun _ _ => False) _ ([] ++ t) m :=
    Monitored.Run.start.play reached
  exact ⟨t, m, run, taken, halted, finished, handoff_never_stuck run⟩

end JobShell
