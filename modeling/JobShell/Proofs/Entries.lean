import JobShell.Proofs.Custody

/-!
# How long a job stays registered

The signal thread collects the end of a job in one step and takes its entry out in another, and it
takes it out by number. Between the two the number is free: the system may give it to a new child,
and the execution thread may register that child. Then the entry that is taken out is the new one,
and a job that is alive is registered no more.

This is the only way in which an entry is lost. A job stays registered under its name until its
end is collected, unless the signal thread was about to take out an entry with the same number
when the job was registered; then the next step of the signal thread takes it out.

Results:
1. `Shell.Moves.lists_iff`, `Shell.Moves.leaving_iff`: what a step does to an entry.
2. `stays_registered_iff`: when the entry of a job that is alive is in the registry.
3. `live_job_unregistered`: a run in which a job that is alive is not.
-/

namespace JobShell

open Thread (Input Execution Signals Supervisor Status)

/-- The registry has an entry with this number and this name. -/
def Registry.Lists (r : Registry) (pid : Pid) (name : String) : Prop :=
  ∃ job ∈ r.table, job.pid = pid ∧ job.name = name

namespace Registry

variable {r : Registry} {pid other : Pid} {name own : String}

theorem lists_insert_self (r : Registry) (pid : Pid) (name : String) :
    (r.insert pid name).Lists pid name :=
  ⟨⟨pid, name, r.next⟩, mem_insert_iff.2 (.inl rfl), rfl, rfl⟩

theorem lists_insert_of_ne (apart : other ≠ pid) :
    (r.insert other own).Lists pid name ↔ r.Lists pid name := by
  constructor
  · rintro ⟨job, mem, rfl, rfl⟩
    rcases mem_insert_iff.1 mem with rfl | ⟨there, _⟩
    · exact absurd rfl apart
    · exact ⟨job, there, rfl, rfl⟩
  · rintro ⟨job, there, rfl, rfl⟩
    exact ⟨job, mem_insert_iff.2 (.inr ⟨there, apart.symm⟩), rfl, rfl⟩

theorem lists_remove_iff :
    (r.remove other).Lists pid name ↔ r.Lists pid name ∧ pid ≠ other := by
  constructor
  · rintro ⟨job, mem, rfl, rfl⟩
    obtain ⟨there, apart⟩ := mem_remove_iff.1 mem
    exact ⟨⟨job, there, rfl, rfl⟩, apart⟩
  · rintro ⟨⟨job, there, rfl, rfl⟩, apart⟩
    exact ⟨job, mem_remove_iff.2 ⟨there, apart⟩, rfl, rfl⟩

end Registry

namespace Event

/-- The number and the name under which the execution thread registers a job. -/
def entered? : Event → Option (Pid × String)
  | ⟨.execution, .track pid name, .ok ()⟩ => some (pid, name)
  | _ => none

/-- The child whose end is collected. -/
def ended? : Event → Option Pid
  | ⟨_, .waitFor pid _, .status status⟩ => if status.isStop then none else some pid
  | _ => none

theorem eq_of_entered? {e : Event} {pid : Pid} {name : String}
    (entered : e.entered? = some (pid, name)) : e = ⟨.execution, .track pid name, .ok ()⟩ := by
  unfold entered? at entered
  split at entered <;> cases entered
  rfl

end Event

/-! ## A step -/

namespace Shell

variable {W : Type} {world : World W} {outside : W → W → Prop} {view : W → Children}
  {s after : Shell W} {e : Event} {pid : Pid} {name : String}

/-- A child is there, and the execution thread has let it go. -/
structure HasLeft (view : W → Children) (s : Shell W) (pid : Pid) : Prop where
  present : ((view s.shared.world).child pid).isPresent = true
  free : Execution.inHand s.execution ≠ some pid

/-- The execution thread takes a child in hand only when it forks it. -/
theorem Moves.inHand_cases (moves : s.Moves world e after)
    (inHand : Execution.inHand after.execution = some pid) :
    Execution.inHand s.execution = some pid ∨ ∃ c, e = ⟨.execution, .fork c, .ok pid⟩ := by
  cases moves with
  | input | signals | supervisor => exact .inl inHand
  | @execution x reply shared at_ answered =>
      rw [at_]
      cases x with
      | awaiting => cases reply <;> cases inHand
      | deciding c => cases reply <;> cases inHand
      | settingExit f => cases inHand
      | releasing result => cases result <;> cases inHand
      | launching c l =>
          cases l with
          | forking =>
              cases reply with
              | ok p =>
                  cases inHand
                  exact .inr ⟨c, rfl⟩
              | error f => cases inHand
          | shielding p =>
              refine .inl ?_
              revert inHand
              simp only [Execution.turn, Thread.Turn.embed, Launch.turn]
              split <;> exact id
          | registering p => cases reply <;> cases inHand
          | announcing p | raising p | endingLine p status => cases inHand
          | waiting p =>
              refine .inl ?_
              replace inHand : Execution.inHand
                (Execution.afterLaunch c (Launch.afterWait p reply)) = some pid := inHand
              unfold Launch.afterWait at inHand
              repeat' split at inHand
              all_goals first | cases inHand; rfl | cases inHand

namespace HasLeft

/-- A child that is not collected stays where it is. -/
theorem moves (left : s.HasLeft view pid) (recycling : Recycling world outside view)
    (moves : s.Moves world e after) (alive : e.ended? ≠ some pid) : after.HasLeft view pid := by
  have done := recycling.does _ _ _ _ moves.does
  refine ⟨?_, fun inHand => ?_⟩
  · obtain ⟨thread, call, reply⟩ := e
    have present := left.present
    cases call with
    | fork c =>
        cases reply with
        | error f => rwa [show (view after.shared.world).child = _ from done]
        | ok p =>
            obtain ⟨absent, same⟩ := done
            rw [same]
            by_cases own : pid = p
            · rw [own, Children.child_set_self]
              rfl
            · rwa [Children.child_set_of_ne own]
    | waitFor p options =>
        obtain ⟨waits, _⟩ := done
        cases reply with
        | notReady | failed => rwa [waits.2.2]
        | status st =>
            obtain ⟨_, _, same⟩ := waits
            rw [same]
            by_cases own : pid = p
            · rw [own, Children.child_set_self, Child.settled_eq]
              split
              · rfl
              · next final =>
                  simp [Event.ended?, final, own] at alive
            · rwa [Children.child_set_of_ne own]
    | _ => rwa [show (view after.shared.world).child = _ from done]
  · rcases moves.inHand_cases inHand with before | ⟨c, rfl⟩
    · exact left.free before
    · have present := left.present
      rw [done.1] at present
      cases present

end HasLeft

/-- The signal thread does not come to take the job of a child out that is alive; if it was about
to, its next step does. -/
theorem Moves.leaving_iff (moves : s.Moves world e after) (recycling : Recycling world outside view)
    (left : s.HasLeft view pid) (alive : e.ended? ≠ some pid) :
    Signals.leaving after.signals = some pid ↔
      Signals.leaving s.signals = some pid ∧ e.thread ≠ .signals := by
  have done := recycling.does _ _ _ _ moves.does
  cases moves with
  | input | execution | supervisor => exact ⟨fun leaves => ⟨leaves, nofun⟩, And.left⟩
  | @signals g reply shared at_ answered =>
      refine ⟨fun leaves => ?_, fun other => absurd rfl other.2⟩
      exfalso
      have next (noted : List JobReport) (rest : List Pid) :
          Signals.leaving (Signals.afterReap (Reap.next noted rest)) ≠ some pid := by
        rw [Signals.leaving_next]
        exact nofun
      cases g with
      | awaiting =>
          replace leaves : Signals.leaving (Signals.afterWait reply) = some pid := leaves
          unfold Signals.afterWait Signals.accept at leaves
          repeat' split at leaves
          all_goals cases leaves
      | redrawing => cases leaves
      | reporting r rest => cases rest <;> cases leaves
      | checkingExit => cases reply <;> cases leaves
      | reaping r =>
          cases r with
          | listing | removing | dropping => exact next _ _ leaves
          | asking p rest noted =>
              obtain ⟨waits, _⟩ := done
              replace leaves : Signals.leaving
                (Signals.afterReap (Reap.afterWait p rest noted reply)) = some pid := leaves
              cases reply with
              | notReady => exact next noted rest leaves
              | failed f =>
                  simp only [Reap.afterWait] at leaves
                  split at leaves
                  · next lost =>
                      -- a child that is there is known to the system
                      cases leaves
                      have present := left.present
                      rw [waits.1.1 lost] at present
                      cases present
                  · exact next noted rest leaves
              | status st =>
                  obtain ⟨event, told, final⟩ := Child.event_of_news waits.1
                  simp only [Reap.afterWait, told, final] at leaves
                  cases stop : st.isStop with
                  | true =>
                      rw [stop] at leaves
                      exact next _ _ leaves
                  | false =>
                      rw [stop] at leaves
                      cases leaves
                      refine alive ?_
                      show (if st.isStop = true then none else some _) = _
                      rw [stop]
                      rfl

/-- An entry of a child that is alive is lost only if the signal thread is about to take out an
entry with its number. -/
theorem Moves.lists_iff (moves : s.Moves world e after) (left : s.HasLeft view pid)
    (kept : e.call ≠ .forgetJobs) :
    after.shared.jobs.Lists pid name ↔
      s.shared.jobs.Lists pid name ∧
        (e.thread = .signals → Signals.leaving s.signals ≠ some pid) := by
  by_cases registry : e.call.concernsJobs = true
  · cases moves with
    | @input i _ _ _ _ => cases i <;> cases registry
    | @supervisor v _ _ _ _ =>
        cases v with
        | forgetting result => exact absurd rfl kept
        | _ => cases registry
    | @execution x reply shared at_ answered =>
        refine Iff.trans ?_ (and_iff_left nofun).symm
        have free := left.free
        rw [at_] at free
        cases x with
        | releasing result => cases result <;> cases registry
        | awaiting | deciding | settingExit => cases registry
        | launching c l =>
            cases l with
            | registering p =>
                cases reply with
                | ok =>
                    show shared.jobs.Lists pid name ↔ _
                    rw [Shared.jobs_tracked answered]
                    exact Registry.lists_insert_of_ne fun own => free (congrArg some own)
                | error f =>
                    show shared.jobs.Lists pid name ↔ _
                    rw [Shared.jobs_refused answered]
            | _ => cases registry
    | @signals g reply shared at_ answered =>
        rw [at_]
        cases g with
        | awaiting | redrawing | reporting | checkingExit => cases registry
        | reaping r =>
            cases r with
            | listing | asking => cases registry
            | removing r rest noted | dropping p rest noted =>
                cases answered
                rw [Registry.lists_remove_iff]
                refine and_congr_right fun _ => ⟨fun apart _ same => ?_, fun apart own => ?_⟩
                · exact apart (Option.some.inj same).symm
                · exact apart rfl (congrArg some own.symm)
  · rw [moves.jobs_eq (Bool.not_eq_true _ ▸ registry)]
    refine (and_iff_left fun thread leaves => registry ?_).symm
    cases moves with
    | input | execution | supervisor => cases thread
    | @signals g reply shared at_ answered =>
        rw [at_] at leaves
        cases g with
        | awaiting | redrawing | reporting | checkingExit => cases leaves
        | reaping r =>
            cases r with
            | listing | asking => cases leaves
            | removing | dropping => rfl

/-- Registering a job is a step of its launch. -/
theorem Moves.of_entered (moves : s.Moves world e after) (entered : e.entered? = some (pid, name)) :
    ∃ c w, c.name = name ∧ s.execution = .running (.launching c (.registering pid)) ∧
      after = { s with
        execution := .running (.launching c (.announcing pid))
        shared := { s.shared with jobs := s.shared.jobs.insert pid name, world := w } } := by
  obtain rfl := Event.eq_of_entered? entered
  have next := moves.call?_eq
  have acted := moves_iff_act.1 moves
  cases at_ : s.execution with
  | ended result => simp [call?, at_] at next
  | running x =>
      simp only [call?, at_, Option.some.injEq] at next
      cases x with
      | awaiting | deciding | settingExit => cases next
      | releasing result => cases result <;> cases next
      | launching c l =>
          cases l with
          | registering p =>
              cases next
              simp only [act, at_, Option.map_eq_some_iff] at acted
              obtain ⟨⟨reply, shared⟩, answered, same⟩ := acted
              cases same
              simp only [Execution.turn, Thread.Turn.embed, Launch.turn, Shared.answer] at answered
              split at answered <;> cases answered
              exact ⟨c, _, rfl, rfl, rfl⟩
          | _ => cases next

/-- A job that has been registered is in the registry, and the execution thread has let its child
go. -/
theorem Custody.entered {t : Trace} (custody : s.Custody view t)
    (recycling : Recycling world outside view) (enters : s.Moves world e after)
    (entered : e.entered? = some (pid, name)) :
    after.HasLeft view pid ∧ after.signals = s.signals ∧ after.shared.jobs.Lists pid name := by
  obtain ⟨c, w, rfl, at_, same⟩ := enters.of_entered entered
  have done := recycling.does _ _ _ _ enters.does
  have holds := custody.hand
  rw [at_] at holds
  have present := custody.present_of_hasNewest holds.2
  obtain rfl := Event.eq_of_entered? entered
  refine ⟨⟨?_, ?_⟩, ?_, ?_⟩
  · rwa [show (view after.shared.world).child = _ from done]
  · rw [same]
    exact nofun
  · rw [same]
  · rw [same]
    exact Registry.lists_insert_self ..

end Shell

/-! ## A run -/

/-- What has become of a job since it was registered. -/
theorem Run.since_entered {W : Type} {world : World W} {outside : W → W → Prop}
    {view : W → Children} {mid s : Shell W} {u : Trace} {pid : Pid} {name : String}
    (recycling : Recycling world outside view) (later : Run world outside mid u s)
    (left : mid.HasLeft view pid) (listed : mid.shared.jobs.Lists pid name)
    (alive : ∀ d ∈ u, d.ended? ≠ some pid) (kept : ∀ d ∈ u, d.call ≠ .forgetJobs) :
    s.HasLeft view pid ∧
      (Signals.leaving s.signals = some pid ↔
        Signals.leaving mid.signals = some pid ∧ ∀ d ∈ u, d.thread ≠ .signals) ∧
      (s.shared.jobs.Lists pid name ↔
        (Signals.leaving mid.signals = some pid → ∀ d ∈ u, d.thread ≠ .signals)) := by
  induction later with
  | start => exact ⟨left, by simp, by simp [listed]⟩
  | @move u now after e run moves ih =>
      have last : e ∈ u ++ [e] := List.mem_append_right _ (List.mem_singleton_self e)
      obtain ⟨left, leaving, lists⟩ := ih (fun d mem => alive d (List.mem_append_left _ mem))
        fun d mem => kept d (List.mem_append_left _ mem)
      refine ⟨left.moves recycling moves (alive e last), ?_, ?_⟩
      · rw [moves.leaving_iff recycling left (alive e last), leaving, List.forall_mem_append]
        simp [and_assoc]
      · rw [moves.lists_iff left (kept e last), lists, Ne, leaving, List.forall_mem_append]
        simp only [List.mem_singleton, forall_eq]
        constructor
        · rintro ⟨still, other⟩ stale
          exact ⟨still stale, fun moved => other moved ⟨stale, still stale⟩⟩
        · intro all
          exact ⟨fun stale => (all stale).1, fun moved both => (all both.1).2 moved⟩
  | outside run change ih =>
      obtain ⟨left, rest⟩ := ih alive kept
      refine ⟨⟨?_, left.free⟩, rest⟩
      exact ((recycling.outside _ _ change).isPresent_eq pid).trans left.present

/-- From its registration until its end is collected a job is registered under its name, unless the
signal thread was about to take out an entry with its number and has gone on since. -/
theorem stays_registered_iff {W : Type} {world : World W} {outside : W → W → Prop}
    {view : W → Children} {limits : Limits} {w : W} {t u : Trace} {now mid s : Shell W} {e : Event}
    {pid : Pid} {name : String} (recycling : Recycling world outside view)
    (before : Run world outside (Shell.boot limits w) t now) (enters : now.Moves world e mid)
    (entered : e.entered? = some (pid, name)) (later : Run world outside mid u s)
    (alive : ∀ d ∈ u, d.ended? ≠ some pid) (kept : ∀ d ∈ u, d.call ≠ .forgetJobs) :
    s.shared.jobs.Lists pid name ↔
      (Signals.leaving now.signals = some pid → ∀ d ∈ u, d.thread ≠ .signals) := by
  obtain ⟨left, same, listed⟩ := (before.custody recycling).entered recycling enters entered
  rw [← same]
  exact (later.since_entered recycling left listed alive kept).2.2

/-- A job `b` gets the number of a job `a` after the end of `a` was collected and before its entry
is taken out. All jobs could be registered and no launch is under way; still a job that is alive is
not in the registry. -/
theorem live_job_unregistered :
    ∃ t s, Run World.crowded Nursery.Changes
        (Shell.boot {} (Nursery.of (Source.ofBytes (Bytes.ofText "a &\nb &\n")))) t s ∧
      t.tracked = [1, 1] ∧ (∀ e ∈ t, e.call ≠ .forgetJobs) ∧
      s.call? .execution = some .awaitRequest ∧
      ∃ b ∈ t.ledger.kept, b.command.background = true ∧
        (s.shared.world.children.child b.pid).isAlive = true ∧
        ¬ s.shared.jobs.Lists b.pid b.command.name := by
  let start : Nursery := Nursery.of (Source.ofBytes (Bytes.ofText "a &\nb &\n"))
  let first : List ThreadId := .replicate 7 .input ++ .replicate 8 .execution
  let second : List ThreadId :=
    .replicate 3 .signals ++ .replicate 8 .input ++ .replicate 8 .execution ++ [.signals]
  have played :
      ((Shell.boot {} start).playAround World.crowded first (Nursery.endChild 1 0) second).any
        (fun (t, s) => decide (t.tracked = [1, 1]) &&
          t.all (fun e => decide (e.call ≠ .forgetJobs)) &&
          decide (s.call? .execution = some .awaitRequest) &&
          t.ledger.kept.any (fun b => b.command.background &&
            (s.shared.world.children.child b.pid).isAlive) &&
          decide (s.shared.jobs.table = [])) = true := by
    decide +kernel
  obtain ⟨⟨t, s⟩, reached, found⟩ := (Option.any_eq_true _ _).1 played
  simp only [Bool.and_eq_true, decide_eq_true_eq, List.all_eq_true, List.any_eq_true] at found
  obtain ⟨⟨⟨⟨tracked, kept⟩, idle⟩, b, there, background, alive⟩, empty⟩ := found
  have run : Run World.crowded Nursery.Changes (Shell.boot {} start) t s :=
    Run.playAround Nursery.changes_endChild reached
  refine ⟨t, s, run, tracked, kept, idle, b, there, background, alive, ?_⟩
  rintro ⟨job, mem, _⟩
  rw [empty] at mem
  cases mem

/-- The number of the first job, which is taken out in time, is given to the second one. -/
theorem stays_registered_iff_of_reuse :
    ∃ t u now mid s e, Run World.crowded Nursery.Changes
        (Shell.boot {} (Nursery.of (Source.ofBytes (Bytes.ofText "a &\nb &\n")))) t now ∧
      now.Moves World.crowded e mid ∧ e.entered? = some (1, "b") ∧
      Run World.crowded Nursery.Changes mid u s ∧ (∀ d ∈ u, d.ended? ≠ some 1) ∧
      (∀ d ∈ u, d.call ≠ .forgetJobs) ∧ t.tracked = [1] ∧ s.shared.jobs.Lists 1 "b" := by
  let start : Nursery := Nursery.of (Source.ofBytes (Bytes.ofText "a &\nb &\n"))
  let first : List ThreadId := .replicate 7 .input ++ .replicate 8 .execution
  let second : List ThreadId :=
    .replicate 5 .signals ++ .replicate 8 .input ++ .replicate 4 .execution
  let third : List ThreadId := .replicate 3 .execution ++ .replicate 3 .signals
  have played :
      (((Shell.boot {} start).playAround World.crowded first (Nursery.endChild 1 0) second).bind
        fun (t, now) => (now.act World.crowded .execution).bind fun (e, mid) =>
          (mid.play World.crowded third).map fun (u, s) => (t, now, e, mid, u, s)).any
        (fun (t, now, e, _, u, _) => decide (t.tracked = [1]) &&
          decide (e.entered? = some (1, "b")) && decide (Signals.leaving now.signals = none) &&
          u.all (fun d => decide (d.ended? ≠ some 1) && decide (d.call ≠ .forgetJobs))) = true := by
    decide +kernel
  obtain ⟨⟨t, now, e, mid, u, s⟩, reached, found⟩ := (Option.any_eq_true _ _).1 played
  simp only [Bool.and_eq_true, decide_eq_true_eq, List.all_eq_true] at found
  obtain ⟨⟨⟨tracked, entered⟩, settled⟩, still⟩ := found
  simp only [Option.bind_eq_some_iff, Option.map_eq_some_iff] at reached
  obtain ⟨⟨t, now⟩, before, ⟨e, mid⟩, acted, ⟨u, s⟩, rest, same⟩ := reached
  cases same
  have run : Run World.crowded Nursery.Changes (Shell.boot {} start) t now :=
    Run.playAround Nursery.changes_endChild before
  have enters : now.Moves World.crowded e mid :=
    Shell.moves_iff_act.2 (Shell.thread_of_act acted ▸ acted)
  have later : Run World.crowded Nursery.Changes mid ([] ++ u) s := Run.start.play rest
  refine ⟨t, u, now, mid, s, e, run, enters, entered, later, fun d mem => (still d mem).1,
    fun d mem => (still d mem).2, tracked, ?_⟩
  refine (stays_registered_iff Recycling.crowded run enters entered later
    (fun d mem => (still d mem).1) fun d mem => (still d mem).2).2 fun stale => ?_
  rw [settled] at stale
  cases stale

end JobShell
