import JobShell.Proofs.Children

/-!
# No news of a job goes unnoticed

SIGCHLD is one bit for all children, a child may end before it is registered, and a pass over the
registry may have gone past a job whose state changes a moment later. Still, whenever a registered
job has news, something is about to happen that makes the signal thread ask for it.

Results:
1. `Shell.Watched.moves`, `Shell.Watched.changes`: every step and every change of the world keeps
   the watch.
2. `Run.watched`: the watch is kept throughout a run.
-/

namespace JobShell

open Thread (Input Execution Signals Supervisor Status)

namespace Thread

/-- The processes that a pass over the registry has ahead of it: any process before it has looked
at the registry. -/
def Signals.HasAhead : Status Signals (Except Errno Unit) → Pid → Prop
  | .running (.reaping .listing), _ => True
  | .running (.reaping (.asking p rest _)), pid => pid = p ∨ pid ∈ rest
  | .running (.reaping (.removing _ rest _)), pid => pid ∈ rest
  | .running (.reaping (.dropping _ rest _)), pid => pid ∈ rest
  | _, _ => False

/-- The process whose job was entered in the registry and for which SIGCHLD is still to be
raised. -/
def Execution.IsEntering : Status Execution (Except LaunchError Unit) → Pid → Prop
  | .running (.launching _ (.announcing p)), pid => pid = p
  | .running (.launching _ (.raising p)), pid => pid = p
  | _, _ => False

theorem Signals.hasAhead_next {pid : Pid} {rest : List Pid} (noted : List JobReport)
    (mem : pid ∈ rest) : HasAhead (afterReap (Reap.next noted rest)) pid := by
  cases rest with
  | nil => cases mem
  | cons p rest => exact List.mem_cons.1 mem

theorem Signals.hasAhead_afterWait {pid : Pid} {rest : List Pid} (p : Pid)
    (noted : List JobReport) (reply : WaitReply) (mem : pid ∈ rest) :
    HasAhead (afterReap (Reap.afterWait p rest noted reply)) pid := by
  unfold Reap.afterWait
  repeat' split
  all_goals first | exact hasAhead_next _ mem | exact mem

end Thread

namespace Children

variable {k after : Children} {pid other : Pid} {options : WaitOptions} {reply : WaitReply}

theorem Waits.pending_eq (waits : k.Waits pid options reply after) :
    after.pending = k.pending := by
  cases reply with
  | status s =>
      obtain ⟨_, _, rfl⟩ := waits
      rfl
  | notReady => rw [waits.2.2]
  | failed e => rw [waits.2.2]

theorem Waits.news (waits : k.Waits pid options reply after)
    (news : (after.child other).news ≠ none) : after.child other = k.child other := by
  cases reply with
  | status s =>
      obtain ⟨_, _, rfl⟩ := waits
      by_cases same : other = pid
      · rw [same, child_set_self, Child.news_settled] at news
        exact absurd rfl news
      · exact child_set_of_ne same
  | notReady => rw [waits.2.2]
  | failed e => rw [waits.2.2]

/-- Asking for a child at once, and for stops as well, leaves no news of it. -/
theorem Waits.news_self
    (waits : k.Waits pid { noHang := true, untraced := true } reply after) :
    (after.child pid).news = none := by
  cases reply with
  | status s =>
      obtain ⟨_, _, rfl⟩ := waits
      rw [child_set_self, Child.news_settled]
  | notReady =>
      obtain ⟨_, silent, rfl⟩ := waits
      cases news : (after.child pid).news with
      | none => rfl
      | some s =>
          obtain ⟨_, untraced⟩ := silent s news
          cases untraced
  | failed e =>
      obtain ⟨unknown, only, rfl⟩ := waits
      have absent := unknown.1 (only rfl)
      cases at_ : after.child pid with
      | unborn | collected => rfl
      | quiet | stopped signal | exited code | killed signal =>
          rw [at_] at absent
          cases absent

theorem Forks.news {r : Except Errno Pid} (forks : k.Forks r after)
    (news : (after.child other).news ≠ none) : after.child other = k.child other := by
  cases r with
  | error e => rw [show after = k from forks]
  | ok pid =>
      obtain ⟨_, rfl⟩ := forks
      by_cases same : other = pid
      · rw [same, child_set_self] at news
        exact absurd rfl news
      · exact child_set_of_ne same

theorem Forks.pending_eq {r : Except Errno Pid} (forks : k.Forks r after) :
    after.pending = k.pending := by
  cases r with
  | error e => rw [show after = k from forks]
  | ok pid => rw [forks.2, pending_set]

end Children

namespace Shell

variable {W : Type} {world : World W} {outside : W → W → Prop} {view : W → Children}
  {s after : Shell W} {e : Event}

/-- Something is about to make the signal thread ask for a process: SIGCHLD is pending, or a pass
has the process ahead of it, or its launch is about to raise SIGCHLD. -/
def IsWatched (view : W → Children) (s : Shell W) (pid : Pid) : Prop :=
  (view s.shared.world).pending = true ∨ Signals.HasAhead s.signals pid ∨
    Execution.IsEntering s.execution pid

/-- Every registered job with news is watched. -/
def Watched (view : W → Children) (s : Shell W) : Prop :=
  ∀ job ∈ s.shared.jobs.table, ((view s.shared.world).child job.pid).news ≠ none →
    s.IsWatched view job.pid

namespace Watched

/-- A step that brings no news and no job keeps the watch, if it gives up none of its reasons. -/
theorem of_quiet (watched : s.Watched view)
    (jobs : ∀ job ∈ after.shared.jobs.table, job ∈ s.shared.jobs.table)
    (same : view after.shared.world = view s.shared.world)
    (ahead : ∀ pid, Signals.HasAhead s.signals pid → Signals.HasAhead after.signals pid)
    (entering : ∀ pid, Execution.IsEntering s.execution pid →
      Execution.IsEntering after.execution pid) : after.Watched view := by
  intro job mem news
  rw [same] at news
  rcases watched job (jobs job mem) news with pending | passing | launching
  · exact .inl (same ▸ pending)
  · exact .inr (.inl (ahead _ passing))
  · exact .inr (.inr (entering _ launching))

/-- A wait or a fork takes news away or leaves them as they are. -/
theorem of_fewer {x : Status Execution (Except LaunchError Unit)} {shared : Shared W}
    (watched : s.Watched view) (jobs : shared.jobs = s.shared.jobs)
    (news : ∀ pid, ((view shared.world).child pid).news ≠ none →
      (view shared.world).child pid = (view s.shared.world).child pid)
    (pending : (view shared.world).pending = (view s.shared.world).pending)
    (silent : ∀ pid, ¬ Execution.IsEntering s.execution pid) :
    Watched view { s with execution := x, shared } := by
  intro job mem there
  replace mem : job ∈ s.shared.jobs.table := jobs ▸ mem
  rcases watched job mem (news _ there ▸ there) with still | passing | launching
  · exact .inl (pending.trans still)
  · exact .inr (.inl passing)
  · exact absurd launching (silent _)

theorem signals_moves {g : Signals} {reply shared} (watched : s.Watched view)
    (tended : Tended world outside view) (at_ : s.signals = .running g)
    (answered : s.shared.answer world g.turn.call = some (reply, shared)) :
    Watched view { s with signals := g.turn.resume reply, shared } := by
  have served := tended.serves answered
  have idle (quiet : view shared.world = view s.shared.world)
      (jobs : shared.jobs = s.shared.jobs) (none : ∀ pid, ¬ Signals.HasAhead (.running g) pid) :
      Watched view { s with signals := g.turn.resume reply, shared } := by
    refine watched.of_quiet (fun job mem => jobs ▸ mem) quiet (fun pid ahead => ?_) fun _ => id
    rw [at_] at ahead
    exact absurd ahead (none pid)
  cases g with
  | awaiting =>
      have jobs : shared.jobs = s.shared.jobs := Shared.jobs_answer answered rfl
      cases reply with
      | error e => exact idle served jobs fun _ => id
      | ok signal =>
          by_cases child : signal = Signal.chld
          · subst child
            intro job mem news
            -- the pass that begins has not read the registry, so it has every job ahead
            exact .inr (.inl trivial)
          · have taken : (view s.shared.world).Takes (.ok signal) (view shared.world) := served
            simp only [Children.Takes, if_neg child] at taken
            exact idle taken jobs fun _ => id
  | redrawing | reporting report rest | checkingExit =>
      exact idle served (Shared.jobs_answer answered rfl) fun _ => id
  | reaping r =>
      cases r with
      | listing =>
          cases answered
          intro job mem news
          have listed : job.pid ∈ s.shared.jobs.pids :=
            List.mem_map.2 ⟨job, s.shared.jobs.listed_perm.mem_iff.2 mem, rfl⟩
          exact .inr (.inl (Signals.hasAhead_next [] listed))
      | asking p rest noted =>
          have waits : (view s.shared.world).Waits p { noHang := true, untraced := true } reply
              (view shared.world) := served
          have jobs : shared.jobs = s.shared.jobs := Shared.jobs_answer answered rfl
          intro job mem news
          replace mem : job ∈ s.shared.jobs.table := jobs ▸ mem
          rcases watched job mem (waits.news news ▸ news) with pending | ahead | entering
          · exact .inl (waits.pending_eq.trans pending)
          · rw [at_] at ahead
            -- the process asked for has no news left, and the others are still ahead
            rcases ahead with asked | later
            · rw [asked] at news
              exact absurd waits.news_self news
            · exact .inr (.inl (Signals.hasAhead_afterWait p noted reply later))
          · exact .inr (.inr entering)
      | removing report rest noted =>
          cases answered
          refine watched.of_quiet (fun job mem => (Registry.mem_remove_iff.1 mem).1) rfl
            (fun pid ahead => ?_) fun _ => id
          rw [at_] at ahead
          exact Signals.hasAhead_next _ ahead
      | dropping p rest noted =>
          cases answered
          refine watched.of_quiet (fun job mem => (Registry.mem_remove_iff.1 mem).1) rfl
            (fun pid ahead => ?_) fun _ => id
          rw [at_] at ahead
          exact Signals.hasAhead_next _ ahead

/-- From the entry of a job to the signal that is raised for it, its launch is a reason to watch. -/
theorem launch_moves {c : Command} {l : Launch} {reply shared} (watched : s.Watched view)
    (tended : Tended world outside view) (at_ : s.execution = .running (.launching c l))
    (answered : s.shared.answer world (l.turn c).call = some (reply, shared)) :
    Watched view
      { s with execution := Execution.afterLaunch c ((l.turn c).resume reply), shared } := by
  have served := tended.serves answered
  cases l with
  | forking =>
      have forks : (view s.shared.world).Forks reply (view shared.world) := served
      exact watched.of_fewer (Shared.jobs_answer answered rfl) (fun _ => forks.news)
        forks.pending_eq fun _ => by rw [at_]; exact id
  | waiting p =>
      have waits : (view s.shared.world).Waits p {} reply (view shared.world) := served
      exact watched.of_fewer (Shared.jobs_answer answered rfl) (fun _ => waits.news)
        waits.pending_eq fun _ => by rw [at_]; exact id
  | registering p =>
      obtain rfl : reply = .ok () := tended.eq_ok_of_track answered
      have same : view shared.world = view s.shared.world := served
      have jobs : shared.jobs = s.shared.jobs.insert p c.name := Shared.jobs_tracked answered
      intro job mem news
      rw [same] at news
      replace mem : job ∈ (s.shared.jobs.insert p c.name).table := jobs ▸ mem
      -- the child may have ended before its job is entered; the launch will raise SIGCHLD
      rcases Registry.mem_insert_iff.1 mem with rfl | ⟨old, _⟩
      · exact .inr (.inr rfl)
      · rcases watched job old news with pending | ahead | entering
        · exact .inl (same ▸ pending)
        · exact .inr (.inl ahead)
        · rw [at_] at entering
          exact absurd entering id
  | announcing p =>
      cases answered
      refine watched.of_quiet (fun job mem => mem) served (fun _ => id) fun pid entering => ?_
      rw [at_] at entering
      exact entering
  | raising p =>
      have raised : view shared.world = { view s.shared.world with pending := true } := served
      intro job mem news
      exact .inl (by rw [raised])
  | shielding p | endingLine p status =>
      cases answered
      refine watched.of_quiet (fun job mem => mem) served (fun _ => id) fun pid entering => ?_
      rw [at_] at entering
      exact absurd entering id

theorem execution_moves {x : Execution} {reply shared} (watched : s.Watched view)
    (tended : Tended world outside view) (at_ : s.execution = .running x)
    (answered : s.shared.answer world x.turn.call = some (reply, shared)) :
    Watched view { s with execution := x.turn.resume reply, shared } := by
  have served := tended.serves answered
  have idle (quiet : view shared.world = view s.shared.world)
      (jobs : shared.jobs = s.shared.jobs)
      (silent : ∀ pid, ¬ Execution.IsEntering (.running x) pid) :
      Watched view { s with execution := x.turn.resume reply, shared } := by
    refine watched.of_quiet (fun job mem => jobs ▸ mem) quiet (fun _ => id) fun pid entering => ?_
    rw [at_] at entering
    exact absurd entering (silent pid)
  cases x with
  | launching c l => exact watched.launch_moves tended at_ answered
  | releasing result =>
      cases result <;> exact idle served (Shared.jobs_answer answered rfl) fun _ => id
  | awaiting | deciding c | settingExit e =>
      exact idle served (Shared.jobs_answer answered rfl) fun _ => id

theorem moves (watched : s.Watched view) (tended : Tended world outside view)
    (moves : s.Moves world e after) : after.Watched view := by
  cases moves with
  | @input i reply shared at_ answered =>
      have served := tended.serves answered
      have jobs : shared.jobs = s.shared.jobs := by
        cases i <;> exact Shared.jobs_answer answered rfl
      have same : view shared.world = view s.shared.world := by
        cases i <;> exact served
      exact watched.of_quiet (fun job mem => jobs ▸ mem) same (fun _ => id) fun _ => id
  | execution at_ answered => exact watched.execution_moves tended at_ answered
  | signals at_ answered => exact watched.signals_moves tended at_ answered
  | @supervisor v reply shared at_ answered =>
      have served := tended.serves_of_moves (.supervisor at_ answered)
      have same : view shared.world = view s.shared.world := by
        cases v <;> exact served
      have jobs : ∀ job ∈ shared.jobs.table, job ∈ s.shared.jobs.table := by
        cases v with
        | forgetting result =>
            cases answered
            exact nofun
        | _ =>
            have kept := Moves.jobs_eq (.supervisor at_ answered) rfl
            exact fun job mem => kept ▸ mem
      exact watched.of_quiet jobs same (fun _ => id) fun _ => id

/-- News that come from outside come with SIGCHLD. -/
theorem changes {w : W} (watched : s.Watched view) (tended : Tended world outside view)
    (change : outside s.shared.world w) : (s.withWorld w).Watched view := by
  intro job mem news
  rcases (tended.outside _ _ change).news news with ⟨old, pending⟩ | pending
  · exact (watched job mem old).imp_left pending
  · exact .inl pending

end Watched

end Shell

theorem Run.watched {W : Type} {world : World W} {outside : W → W → Prop} {view : W → Children}
    {limits : Limits} {w : W} {t : Trace} {s : Shell W} (tended : Tended world outside view)
    (run : Run world outside (Shell.boot limits w) t s) : s.Watched view :=
  run.invariant (P := fun _ s => s.Watched view) nofun (fun watched => watched.moves tended)
    fun watched => watched.changes tended

end JobShell
