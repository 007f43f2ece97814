import JobShell.Proofs.Reports

/-!
# Children whose numbers are given again

Once a child has been collected, its number may be given to the next one. So what a number stands
for changes, while the registry and a pass over it know their jobs by number alone. The trace of a
run tells which child has which number: a fork brings a child, and collecting its end lets it go.

The signal thread still asks for no child but those of background commands. All numbers that a
pass has ahead of it were registered when it began, and a registered number belongs to a job that
has not been collected, except the one that the signal thread is about to take out. The execution
thread collects only the child that it has launched itself, which is not among them.

Results:
1. `Shell.Custody.moves`, `Run.custody`: who has which child, in every state of a run.
2. `Shell.Custody.told`, `Shell.Custody.concludes`: what a launch is told about its child, and what
   it returns.
3. `foreground_statuses_kept`: the launch of a foreground command always returns the final status
   of the child that it has forked.
-/

namespace JobShell

open Thread (Input Execution Signals Supervisor Status)

/-! ## The system -/

namespace Children

/-- The new child has the number of no child that the system still knows. -/
def ForksAgain (k : Children) : Except Errno Pid → Children → Prop
  | .ok pid, after => (k.child pid).isPresent = false ∧ after.child = (k.set pid .quiet).child
  | .error _, after => after.child = k.child

/-- What a call does to the children where numbers are given again. Waiting fails only for a child
that is not known, or when it is interrupted. -/
def Reuses (k : Children) : (c : Call) → c.Reply → Children → Prop
  | .fork _, reply, after => k.ForksAgain reply after
  | .waitFor pid options, reply, after => k.Waits pid options reply after ∧
      ∀ e, reply = .failed e → e = .noChild ∨ e = .interrupted
  | _, _, after => after.child = k.child

end Children

/-- A world that treats the children, as `view` shows them, in the way of the system and may give
their numbers again. A wait is held up only by a child that has not come to its end. -/
structure Recycling {W : Type} (world : World W) (outside : W → W → Prop) (view : W → Children) :
    Prop where
  does : ∀ (c : Call) (reply : c.Reply) w after,
    world.Does c reply w after → (view w).Reuses c reply (view after)
  held : ∀ pid options w,
    world.waitFor pid options w = none → ((view w).child pid).isAlive = true
  outside : ∀ w after, outside w after → (view w).Goes (view after)

/-! ## What a trace tells about the children -/

/-- A child that the shell has forked: how many were forked before it, its number, and the command
that it became. -/
structure Offspring where
  rank : Nat
  pid : Pid
  command : Command
deriving DecidableEq, Repr

/-- The children that were forked: how many there were, those that are not collected, and those
that are, each with the status in which it ended. -/
structure Ledger where
  born : Nat := 0
  kept : List Offspring := []
  ends : List (Offspring × WaitStatus) := []

namespace Ledger

def bear (l : Ledger) (pid : Pid) (c : Command) : Ledger :=
  { l with born := l.born + 1, kept := ⟨l.born, pid, c⟩ :: l.kept }

def bury (l : Ledger) (pid : Pid) (status : WaitStatus) : Ledger :=
  { l with
    kept := l.kept.filter (·.pid ≠ pid)
    ends := l.ends ++ (l.kept.filter (·.pid = pid)).map (·, status) }

/-- A stop that is collected leaves the child where it is. -/
def note (l : Ledger) : Event → Ledger
  | ⟨_, .fork c, .ok pid⟩ => l.bear pid c
  | ⟨_, .waitFor pid _, .status status⟩ => if status.isStop then l else l.bury pid status
  | _ => l

end Ledger

def Trace.ledger (t : Trace) : Ledger := t.foldl Ledger.note {}

theorem Trace.ledger_concat (t : Trace) (e : Event) :
    ledger (t ++ [e]) = (ledger t).note e := by
  rw [ledger, List.foldl_append]
  rfl

namespace Ledger

variable {l : Ledger} {pid other : Pid} {c d : Command} {status : WaitStatus} {b : Offspring}

/-- A number belongs to the child of a background command. -/
def HasJob (l : Ledger) (pid : Pid) : Prop :=
  ∃ b ∈ l.kept, b.pid = pid ∧ b.command.background = true

/-- The last child that was forked is not collected; it has this number and this command. -/
def HasNewest (l : Ledger) (pid : Pid) (c : Command) : Prop :=
  ∃ b ∈ l.kept, b.pid = pid ∧ b.command = c ∧ b.rank + 1 = l.born

/-- The end of the last child that was forked was collected, with this status. -/
def EndedNewest (l : Ledger) (pid : Pid) (c : Command) (status : WaitStatus) : Prop :=
  ∃ b, (b, status) ∈ l.ends ∧ b.pid = pid ∧ b.command = c ∧ b.rank + 1 = l.born

/-- No two children that are not collected have the same number. -/
def IsDistinct (l : Ledger) : Prop := (l.kept.map Offspring.pid).Nodup

theorem note_of_final (l : Ledger) (thread : ThreadId) (pid : Pid) (options : WaitOptions)
    (final : status.isStop = false) :
    l.note ⟨thread, .waitFor pid options, .status status⟩ = l.bury pid status := by
  simp only [note, final, Bool.false_eq_true, if_false]

theorem mem_kept_bury : b ∈ (l.bury pid status).kept ↔ b ∈ l.kept ∧ b.pid ≠ pid := by
  simp [bury]

theorem mem_kept_bear : b ∈ (l.bear pid c).kept ↔ b = ⟨l.born, pid, c⟩ ∨ b ∈ l.kept :=
  List.mem_cons

theorem IsDistinct.eq_of_pid (distinct : l.IsDistinct) {a b : Offspring} (left : a ∈ l.kept)
    (right : b ∈ l.kept) (same : a.pid = b.pid) : a = b :=
  List.inj_on_of_nodup_map distinct left right same

theorem IsDistinct.bury (distinct : l.IsDistinct) (pid : Pid) (status : WaitStatus) :
    (l.bury pid status).IsDistinct :=
  List.Nodup.sublist (List.filter_sublist.map _) distinct

theorem IsDistinct.bear (distinct : l.IsDistinct) (c : Command)
    (fresh : ∀ b ∈ l.kept, b.pid ≠ pid) : (l.bear pid c).IsDistinct := by
  refine List.nodup_cons.2 ⟨fun mem => ?_, distinct⟩
  obtain ⟨b, there, same⟩ := List.mem_map.1 mem
  exact fresh b there same

theorem HasJob.bear (has : l.HasJob pid) (other : Pid) (c : Command) :
    (l.bear other c).HasJob pid := by
  obtain ⟨b, there, own⟩ := has
  exact ⟨b, List.mem_cons_of_mem _ there, own⟩

theorem HasJob.bury (has : l.HasJob pid) (apart : pid ≠ other) (status : WaitStatus) :
    (l.bury other status).HasJob pid := by
  obtain ⟨b, there, rfl, background⟩ := has
  exact ⟨b, mem_kept_bury.2 ⟨there, apart⟩, rfl, background⟩

theorem HasNewest.bury (has : l.HasNewest pid c) (apart : pid ≠ other) (status : WaitStatus) :
    (l.bury other status).HasNewest pid c := by
  obtain ⟨b, there, rfl, own⟩ := has
  exact ⟨b, mem_kept_bury.2 ⟨there, apart⟩, rfl, own⟩

theorem hasNewest_bear (l : Ledger) (pid : Pid) (c : Command) : (l.bear pid c).HasNewest pid c :=
  ⟨⟨l.born, pid, c⟩, List.mem_cons_self, rfl, rfl, rfl⟩

/-- Collecting the last child that was forked puts it among those that have ended. -/
theorem HasNewest.ended (has : l.HasNewest pid c) (status : WaitStatus) :
    (l.bury pid status).EndedNewest pid c status := by
  obtain ⟨b, there, rfl, own⟩ := has
  refine ⟨b, List.mem_append_right _ (List.mem_map.2 ⟨b, ?_, rfl⟩), rfl, own⟩
  simp [there]

theorem EndedNewest.bury {own : WaitStatus} (ended : l.EndedNewest pid c own) (other : Pid)
    (status : WaitStatus) : (l.bury other status).EndedNewest pid c own := by
  obtain ⟨b, there, rest⟩ := ended
  exact ⟨b, List.mem_append_left _ there, rest⟩

/-- What the execution thread has in hand: it holds the last child that was forked until it has
registered it or collected its end. Only background commands are registered, and only foreground
commands are waited for. -/
def Holds (l : Ledger) : Status Execution (Except LaunchError Unit) → Prop
  | .running (.launching c (.shielding pid)) => l.HasNewest pid c
  | .running (.launching c (.registering pid)) => c.background = true ∧ l.HasNewest pid c
  | .running (.launching c (.announcing _)) | .running (.launching c (.raising _)) =>
      c.background = true
  | .running (.launching c (.waiting pid)) => c.background = false ∧ l.HasNewest pid c
  | .running (.launching c (.endingLine pid status)) =>
      c.background = false ∧ status.isStop = false ∧ l.EndedNewest pid c status
  | _ => True

/-- Collecting a child that the execution thread has not in hand takes nothing from it. -/
theorem Holds.bury {x : Status Execution (Except LaunchError Unit)} (holds : l.Holds x)
    (apart : Execution.inHand x ≠ some other) : (l.bury other status).Holds x := by
  unfold Holds at holds ⊢
  split
  · exact HasNewest.bury holds (fun same => apart (congrArg some same)) status
  · exact ⟨holds.1, holds.2.bury (fun same => apart (congrArg some same)) status⟩
  · exact holds
  · exact holds
  · exact ⟨holds.1, holds.2.bury (fun same => apart (congrArg some same)) status⟩
  · exact ⟨holds.1, holds.2.1, holds.2.2.bury other status⟩
  · trivial

end Ledger

/-! ## Who has which child -/

namespace Shell

variable {W : Type}

/-- A number belongs to the child of a background command, and the execution thread has it no
longer in hand. -/
def IsReleased (t : Trace) (s : Shell W) (pid : Pid) : Prop :=
  t.ledger.HasJob pid ∧ Execution.inHand s.execution ≠ some pid

/-- Who has which child. -/
structure Custody (view : W → Children) (t : Trace) (s : Shell W) : Prop where
  present : ∀ b ∈ t.ledger.kept, ((view s.shared.world).child b.pid).isPresent = true
  distinct : t.ledger.IsDistinct
  hand : t.ledger.Holds s.execution
  unique : s.shared.jobs.IsDistinct
  registered : ∀ pid, s.shared.jobs.contains pid = true →
    Signals.leaving s.signals = some pid ∨ s.IsReleased t pid
  once : (Signals.ahead s.signals).Nodup
  ahead : ∀ pid ∈ Signals.ahead s.signals, s.IsReleased t pid

namespace Custody

variable {world : World W} {outside : W → W → Prop} {view : W → Children} {s after : Shell W}
  {t : Trace} {e : Event}

theorem boot (view : W → Children) (limits : Limits) (w : W) :
    (Shell.boot limits w).Custody view [] :=
  ⟨nofun, List.nodup_nil, trivial, List.nodup_nil, nofun, List.nodup_nil, nofun⟩

theorem present_of_hasJob {pid : Pid} (custody : s.Custody view t) (has : t.ledger.HasJob pid) :
    ((view s.shared.world).child pid).isPresent = true := by
  obtain ⟨b, there, rfl, _⟩ := has
  exact custody.present b there

theorem present_of_hasNewest {pid : Pid} {c : Command} (custody : s.Custody view t)
    (has : t.ledger.HasNewest pid c) : ((view s.shared.world).child pid).isPresent = true := by
  obtain ⟨b, there, rfl, _⟩ := has
  exact custody.present b there

/-- A step that forks and collects no child. -/
theorem of_quiet (custody : s.Custody view t) (ledger : t.ledger.note e = t.ledger)
    (same : ∀ pid, ((view after.shared.world).child pid).isPresent =
      ((view s.shared.world).child pid).isPresent)
    (hand : t.ledger.Holds after.execution)
    (unique : after.shared.jobs.IsDistinct)
    (registered : ∀ pid, after.shared.jobs.contains pid = true →
      Signals.leaving after.signals = some pid ∨ after.IsReleased t pid)
    (once : (Signals.ahead after.signals).Nodup)
    (ahead : ∀ pid ∈ Signals.ahead after.signals, after.IsReleased t pid) :
    after.Custody view (t ++ [e]) := by
  have kept : (t ++ [e]).ledger = t.ledger := (Trace.ledger_concat t e).trans ledger
  refine ⟨?_, kept ▸ custody.distinct, kept ▸ hand, unique, ?_, once, ?_⟩
  · rw [kept]
    exact fun b there => (same b.pid).trans (custody.present b there)
  · simpa only [IsReleased, kept] using registered
  · simpa only [IsReleased, kept] using ahead

/-- A step that collects the end of a child. -/
theorem of_collected {p : Pid} {st : WaitStatus} {d : Child} (custody : s.Custody view t)
    (ledger : t.ledger.note e = t.ledger.bury p st)
    (same : view after.shared.world = (view s.shared.world).set p d)
    (jobs : after.shared.jobs = s.shared.jobs)
    (hand : (t.ledger.bury p st).Holds after.execution)
    (registered : ∀ pid, s.shared.jobs.contains pid = true →
      Signals.leaving after.signals = some pid ∨
        (t.ledger.bury p st).HasJob pid ∧ Execution.inHand after.execution ≠ some pid)
    (once : (Signals.ahead after.signals).Nodup)
    (ahead : ∀ pid ∈ Signals.ahead after.signals,
      (t.ledger.bury p st).HasJob pid ∧ Execution.inHand after.execution ≠ some pid) :
    after.Custody view (t ++ [e]) := by
  have buried : (t ++ [e]).ledger = t.ledger.bury p st := (Trace.ledger_concat t e).trans ledger
  refine ⟨?_, ?_, buried ▸ hand, jobs ▸ custody.unique, ?_, once, ?_⟩
  · rw [buried]
    intro b there
    obtain ⟨there, apart⟩ := Ledger.mem_kept_bury.1 there
    rw [same, Children.child_set_of_ne apart]
    exact custody.present b there
  · rw [buried]
    exact custody.distinct.bury p st
  · simpa only [IsReleased, buried, jobs] using registered
  · simpa only [IsReleased, buried] using ahead

/-- A step of a thread that has nothing to do with the children. -/
theorem of_aside (custody : s.Custody view t) (ledger : t.ledger.note e = t.ledger)
    (same : (view after.shared.world).child = (view s.shared.world).child)
    (execution : after.execution = s.execution) (signals : after.signals = s.signals)
    (jobs : after.shared.jobs = s.shared.jobs) : after.Custody view (t ++ [e]) := by
  refine custody.of_quiet ledger (fun pid => by rw [same]) (execution ▸ custody.hand)
    (jobs ▸ custody.unique) (fun pid listed => ?_) (signals ▸ custody.once) fun pid mem => ?_
  · rw [IsReleased, signals, execution]
    exact custody.registered pid (jobs ▸ listed)
  · rw [IsReleased, execution]
    exact custody.ahead pid (signals ▸ mem)

/-- A step of the signal thread that collects nothing and takes no job out. -/
theorem of_signals {g : Status Signals (Except Errno Unit)} {shared : Shared W}
    (custody : s.Custody view t) (ledger : t.ledger.note e = t.ledger)
    (same : ∀ pid, ((view shared.world).child pid).isPresent =
      ((view s.shared.world).child pid).isPresent)
    (jobs : shared.jobs = s.shared.jobs) (settled : Signals.leaving s.signals = none)
    (once : (Signals.ahead g).Nodup) (ahead : ∀ pid ∈ Signals.ahead g, s.IsReleased t pid) :
    Custody view (t ++ [e]) { s with signals := g, shared } := by
  refine custody.of_quiet ledger same custody.hand (jobs ▸ custody.unique) (fun pid listed => ?_)
    once ahead
  rcases custody.registered pid (jobs ▸ listed) with leaves | released
  · rw [settled] at leaves
    cases leaves
  · exact .inr released

/-- A step of the signal thread that takes the job out that is leaving. -/
theorem of_left {p : Pid} {g : Status Signals (Except Errno Unit)} (custody : s.Custody view t)
    (ledger : t.ledger.note e = t.ledger) (leaves : Signals.leaving s.signals = some p)
    (ahead : Signals.ahead g = Signals.ahead s.signals) :
    Custody view (t ++ [e])
      { s with signals := g, shared := { s.shared with jobs := s.shared.jobs.remove p } } := by
  refine custody.of_quiet ledger (fun _ => rfl) custody.hand (custody.unique.remove p)
    (fun pid listed => ?_) (ahead ▸ custody.once) (ahead ▸ custody.ahead)
  obtain ⟨there, apart⟩ := Registry.contains_remove_iff.1 listed
  rcases custody.registered pid there with other | released
  · rw [leaves] at other
    exact absurd (Option.some.inj other).symm apart
  · exact .inr released

/-- Asking for a job collects a stop of it, or its end. -/
theorem asking_moves {p : Pid} {rest : List Pid} {noted : List JobReport} {reply : WaitReply}
    {shared : Shared W} (custody : s.Custody view t)
    (at_ : s.signals = .running (.reaping (.asking p rest noted)))
    (jobs : shared.jobs = s.shared.jobs)
    (waits : (view s.shared.world).Waits p { noHang := true, untraced := true } reply
      (view shared.world)) :
    Custody view (t ++ [⟨.signals, .waitFor p { noHang := true, untraced := true }, reply⟩])
      { s with
        signals := Signals.afterReap (Reap.afterWait p rest noted reply)
        shared } := by
  have once := custody.once
  have ahead := custody.ahead
  rw [at_] at once ahead
  have released := ahead p List.mem_cons_self
  have present := custody.present_of_hasJob released.1
  have behind : ∀ q ∈ rest, s.IsReleased t q := fun q mem => ahead q (List.mem_cons_of_mem p mem)
  have unasked : rest.Nodup := (List.nodup_cons.1 once).2
  have settled : Signals.leaving s.signals = none := by
    rw [at_]
    rfl
  cases reply with
  | failed e =>
      -- a child that is released is known to the system, so the wait does not fail
      obtain ⟨unknown, only, _⟩ := waits
      rw [unknown.1 (only rfl)] at present
      cases present
  | notReady =>
      obtain ⟨_, _, same⟩ := waits
      refine custody.of_signals rfl (fun q => by rw [same]) jobs settled ?_ ?_
      · rwa [Reap.afterWait, Signals.ahead_next]
      · rwa [Reap.afterWait, Signals.ahead_next]
  | status st =>
      obtain ⟨news, _, same⟩ := waits
      obtain ⟨event, told, final⟩ := Child.event_of_news news
      cases stop : st.isStop with
      | true =>
          have next : Reap.afterWait p rest noted (.status st) =
              Reap.next (⟨p, event⟩ :: noted) rest := by
            simp [Reap.afterWait, told, final, stop]
          refine custody.of_signals ?_ (fun q => ?_) jobs settled ?_ ?_
          · simp only [Ledger.note, stop, if_true]
          · by_cases own : q = p
            · rw [own, same, Children.child_set_self, Child.settled_eq, if_pos stop, present]
              rfl
            · rw [same, Children.child_set_of_ne own]
          · rwa [next, Signals.ahead_next]
          · rwa [next, Signals.ahead_next]
      | false =>
          have next : Reap.afterWait p rest noted (.status st) =
              .running (.removing ⟨p, event⟩ rest noted) := by
            simp [Reap.afterWait, told, final, stop]
          have still (q : Pid) (apart : q ≠ p) (free : s.IsReleased t q) :
              (t.ledger.bury p st).HasJob q ∧ Execution.inHand s.execution ≠ some q :=
            ⟨free.1.bury apart st, free.2⟩
          refine custody.of_collected (Ledger.note_of_final _ _ _ _ stop) same jobs
            (custody.hand.bury released.2) (fun q listed => ?_) ?_ ?_
          · by_cases own : q = p
            · refine .inl ?_
              rw [next, own]
              rfl
            · rcases custody.registered q listed with leaves | free
              · rw [settled] at leaves
                cases leaves
              · exact .inr (still q own free)
          · rw [next]
            exact unasked
          · rw [next]
            intro q mem
            refine still q ?_ (behind q mem)
            rintro rfl
            exact (List.nodup_cons.1 once).1 mem

theorem signals_moves {g : Signals} {reply shared} (custody : s.Custody view t)
    (recycling : Recycling world outside view) (at_ : s.signals = .running g)
    (answered : s.shared.answer world g.turn.call = some (reply, shared)) :
    Custody view (t ++ [⟨.signals, g.turn.call, reply⟩])
      { s with signals := g.turn.resume reply, shared } := by
  have done := recycling.does _ _ _ _ (Shared.does_answer answered)
  -- between two passes nothing is ahead
  have idle (ledger : t.ledger.note ⟨.signals, g.turn.call, reply⟩ = t.ledger)
      (same : (view shared.world).child = (view s.shared.world).child)
      (jobs : shared.jobs = s.shared.jobs) (settled : Signals.leaving s.signals = none)
      (none : Signals.ahead (g.turn.resume reply) = []) :
      Custody view (t ++ [⟨.signals, g.turn.call, reply⟩])
        { s with signals := g.turn.resume reply, shared } := by
    refine custody.of_signals ledger (fun q => by rw [same]) jobs settled ?_ ?_
    · rw [none]
      exact List.nodup_nil
    · rw [none]
      exact nofun
  cases g with
  | awaiting =>
      refine idle rfl done (Shared.jobs_answer answered rfl) (by rw [at_]; rfl) ?_
      show Signals.ahead (Signals.afterWait reply) = []
      unfold Signals.afterWait Signals.accept
      repeat' split
      all_goals rfl
  | redrawing => exact idle rfl done (Shared.jobs_answer answered rfl) (by rw [at_]; rfl) rfl
  | reporting r rest =>
      refine idle rfl done (Shared.jobs_answer answered rfl) (by rw [at_]; rfl) ?_
      cases rest <;> rfl
  | checkingExit =>
      refine idle rfl done (Shared.jobs_answer answered rfl) (by rw [at_]; rfl) ?_
      cases reply <;> rfl
  | reaping r =>
      cases r with
      | asking p rest noted =>
          exact custody.asking_moves at_ (Shared.jobs_answer answered rfl) done.1
      | listing =>
          cases answered
          have settled : Signals.leaving s.signals = none := by
            rw [at_]
            rfl
          refine custody.of_signals rfl (fun _ => rfl) rfl settled ?_ ?_
          · show (Signals.ahead (Signals.afterReap (Reap.next [] s.shared.jobs.pids))).Nodup
            rw [Signals.ahead_next]
            exact custody.unique.nodup_pids
          · show ∀ pid ∈ Signals.ahead (Signals.afterReap (Reap.next [] s.shared.jobs.pids)), _
            rw [Signals.ahead_next]
            intro pid mem
            rcases custody.registered pid (Registry.mem_pids_iff.1 mem) with leaves | released
            · rw [settled] at leaves
              cases leaves
            · exact released
      | removing r rest noted =>
          cases answered
          refine custody.of_left rfl (by rw [at_]; rfl) ?_
          rw [at_]
          exact Signals.ahead_next ..
      | dropping p rest noted =>
          cases answered
          refine custody.of_left rfl (by rw [at_]; rfl) ?_
          rw [at_]
          exact Signals.ahead_next ..

/-- A step of the execution thread that forks and collects no child and registers none: it takes
nothing new in hand. -/
theorem of_execution {x : Status Execution (Except LaunchError Unit)} {shared : Shared W}
    (custody : s.Custody view t) (ledger : t.ledger.note e = t.ledger)
    (same : (view shared.world).child = (view s.shared.world).child)
    (jobs : shared.jobs = s.shared.jobs) (hand : t.ledger.Holds x)
    (sheds : ∀ pid, Execution.inHand x = some pid → Execution.inHand s.execution = some pid) :
    Custody view (t ++ [e]) { s with execution := x, shared } := by
  have still {pid : Pid} (released : s.IsReleased t pid) :
      IsReleased t { s with execution := x, shared } pid :=
    ⟨released.1, fun inHand => released.2 (sheds pid inHand)⟩
  exact custody.of_quiet ledger (fun pid => by rw [same]) hand (jobs ▸ custody.unique)
    (fun pid listed => (custody.registered pid (jobs ▸ listed)).imp_right still) custody.once
    fun pid mem => still (custody.ahead pid mem)

theorem forking_moves {c : Command} {p : Pid} {shared : Shared W} (custody : s.Custody view t)
    (jobs : shared.jobs = s.shared.jobs)
    (forks : (view s.shared.world).ForksAgain (.ok p) (view shared.world)) :
    Custody view (t ++ [⟨.execution, .fork c, .ok p⟩])
      { s with execution := .running (.launching c (.shielding p)), shared } := by
  obtain ⟨absent, same⟩ := forks
  have born : Trace.ledger (t ++ [⟨.execution, .fork c, .ok p⟩]) = t.ledger.bear p c :=
    Trace.ledger_concat ..
  have fresh : ∀ b ∈ t.ledger.kept, b.pid ≠ p := by
    rintro b there rfl
    rw [custody.present b there] at absent
    cases absent
  -- what is released has another number than the new child
  have still {q : Pid} (released : s.IsReleased t q) :
      IsReleased (t ++ [⟨.execution, .fork c, .ok p⟩])
        { s with execution := .running (.launching c (.shielding p)), shared } q := by
    rw [IsReleased, born]
    refine ⟨released.1.bear p c, fun inHand => ?_⟩
    have present := custody.present_of_hasJob released.1
    cases inHand
    rw [absent] at present
    cases present
  refine ⟨?_, ?_, ?_, jobs ▸ custody.unique, fun q listed => ?_, custody.once,
    fun q mem => still (custody.ahead q mem)⟩
  · rw [born]
    intro b there
    rw [same]
    rcases Ledger.mem_kept_bear.1 there with rfl | old
    · rw [Children.child_set_self]
      rfl
    · rw [Children.child_set_of_ne (fresh b old)]
      exact custody.present b old
  · rw [born]
    exact custody.distinct.bear c fresh
  · rw [born]
    exact Ledger.hasNewest_bear ..
  · exact (custody.registered q (jobs ▸ listed)).imp_right still

theorem registering_moves {c : Command} {p : Pid} {shared : Shared W}
    (custody : s.Custody view t)
    (at_ : s.execution = .running (.launching c (.registering p)))
    (jobs : shared.jobs = s.shared.jobs.insert p c.name)
    (same : (view shared.world).child = (view s.shared.world).child) :
    Custody view (t ++ [⟨.execution, .track p c.name, .ok ()⟩])
      { s with execution := .running (.launching c (.announcing p)), shared } := by
  have holds := custody.hand
  rw [at_] at holds
  obtain ⟨background, b, there, rfl, rfl, _⟩ := holds
  have still {q : Pid} (has : t.ledger.HasJob q) :
      IsReleased t
        { s with execution := .running (.launching b.command (.announcing b.pid)), shared } q :=
    ⟨has, nofun⟩
  refine custody.of_quiet rfl (fun q => by rw [same]) background ?_ (fun q listed => ?_)
    custody.once fun q mem => still (custody.ahead q mem).1
  · rw [jobs]
    exact custody.unique.insert b.pid b.command.name
  · rw [jobs, Registry.contains_insert_iff] at listed
    rcases listed with rfl | listed
    · exact .inr (still ⟨b, there, rfl, background⟩)
    · exact (custody.registered q listed).imp_right fun released => still released.1

/-- The wait for the foreground child collects its end, or it is made again. -/
theorem waiting_moves {c : Command} {p : Pid} {reply : WaitReply} {shared : Shared W}
    (custody : s.Custody view t)
    (at_ : s.execution = .running (.launching c (.waiting p)))
    (jobs : shared.jobs = s.shared.jobs)
    (waits : (view s.shared.world).Waits p {} reply (view shared.world))
    (fails : ∀ e, reply = .failed e → e = .noChild ∨ e = .interrupted) :
    Custody view (t ++ [⟨.execution, .waitFor p {}, reply⟩])
      { s with execution := Execution.afterLaunch c (Launch.afterWait p reply), shared } := by
  have holds := custody.hand
  rw [at_] at holds
  obtain ⟨foreground, newest⟩ := holds
  have present := custody.present_of_hasNewest newest
  have sheds : ∀ q, Execution.inHand (.running (.launching c (.waiting p))) = some q →
      Execution.inHand s.execution = some q := by
    rw [at_]
    exact fun _ => id
  cases reply with
  | notReady =>
      obtain ⟨_, _, same⟩ := waits
      exact custody.of_execution rfl (by rw [same]) jobs ⟨foreground, newest⟩ sheds
  | failed e =>
      obtain ⟨unknown, _, same⟩ := waits
      rcases fails e rfl with rfl | rfl
      · rw [unknown.1 rfl] at present
        cases present
      · exact custody.of_execution rfl (by rw [same]) jobs ⟨foreground, newest⟩ sheds
  | status st =>
      obtain ⟨_, asked, same⟩ := waits
      have final : st.isStop = false := by
        by_contra stop
        cases asked (Bool.not_eq_false _ ▸ stop)
      have next : (t.ledger.bury p st).Holds
          (Execution.afterLaunch c (Launch.afterWait p (.status st))) ∧
          Execution.inHand (Execution.afterLaunch c (Launch.afterWait p (.status st))) = none := by
        simp only [Launch.afterWait]
        split
        · exact ⟨⟨foreground, final, newest.ended st⟩, rfl⟩
        · exact ⟨trivial, rfl⟩
      have still {q : Pid} (released : s.IsReleased t q) : (t.ledger.bury p st).HasJob q ∧
          Execution.inHand (Execution.afterLaunch c (Launch.afterWait p (.status st))) ≠
            some q := by
        rw [next.2]
        refine ⟨released.1.bury ?_ st, (Option.some_ne_none q).symm⟩
        rintro rfl
        exact released.2 (by rw [at_]; rfl)
      exact custody.of_collected (Ledger.note_of_final _ _ _ _ final) same jobs next.1
        (fun q listed => (custody.registered q listed).imp_right still) custody.once
        fun q mem => still (custody.ahead q mem)

theorem launch_moves {c : Command} {l : Launch} {reply shared} (custody : s.Custody view t)
    (recycling : Recycling world outside view)
    (at_ : s.execution = .running (.launching c l))
    (answered : s.shared.answer world (l.turn c).call = some (reply, shared)) :
    Custody view (t ++ [⟨.execution, (l.turn c).call, reply⟩])
      { s with execution := Execution.afterLaunch c ((l.turn c).resume reply), shared } := by
  have done := recycling.does _ _ _ _ (Shared.does_answer answered)
  have holds := custody.hand
  rw [at_] at holds
  have empties {x : Status Execution (Except LaunchError Unit)}
      (none : Execution.inHand x = none) (pid : Pid) (inHand : Execution.inHand x = some pid) :
      Execution.inHand s.execution = some pid := by
    rw [none] at inHand
    cases inHand
  cases l with
  | forking =>
      cases reply with
      | error e =>
          exact custody.of_execution rfl done (Shared.jobs_answer answered rfl) trivial
            (empties rfl)
      | ok p => exact custody.forking_moves (Shared.jobs_answer answered rfl) done
  | shielding p =>
      replace holds : t.ledger.HasNewest p c := holds
      refine custody.of_execution rfl done (Shared.jobs_answer answered rfl) ?_ ?_
      · simp only [Launch.turn]
        split
        · next background => exact ⟨background, holds⟩
        · next foreground => exact ⟨Bool.not_eq_true _ ▸ foreground, holds⟩
      · rw [at_]
        simp only [Launch.turn]
        split <;> exact fun _ => id
  | registering p =>
      cases reply with
      | ok => exact custody.registering_moves at_ (Shared.jobs_tracked answered) done
      | error e =>
          exact custody.of_execution rfl done (Shared.jobs_refused answered) trivial (empties rfl)
  | announcing p =>
      exact custody.of_execution rfl done (Shared.jobs_answer answered rfl) holds (empties rfl)
  | raising p | endingLine p status =>
      exact custody.of_execution rfl done (Shared.jobs_answer answered rfl) trivial (empties rfl)
  | waiting p =>
      exact custody.waiting_moves at_ (Shared.jobs_answer answered rfl) done.1 done.2

theorem execution_moves {x : Execution} {reply shared} (custody : s.Custody view t)
    (recycling : Recycling world outside view) (at_ : s.execution = .running x)
    (answered : s.shared.answer world x.turn.call = some (reply, shared)) :
    Custody view (t ++ [⟨.execution, x.turn.call, reply⟩])
      { s with execution := x.turn.resume reply, shared } := by
  have done := recycling.does _ _ _ _ (Shared.does_answer answered)
  cases x with
  | launching c l => exact custody.launch_moves recycling at_ answered
  | awaiting =>
      refine custody.of_execution rfl done (Shared.jobs_answer answered rfl) ?_ ?_
      · cases reply <;> trivial
      · cases reply <;> exact nofun
  | deciding c =>
      refine custody.of_execution rfl done (Shared.jobs_answer answered rfl) ?_ ?_
      · cases reply <;> trivial
      · cases reply <;> exact nofun
  | settingExit e =>
      exact custody.of_execution rfl done (Shared.jobs_answer answered rfl) trivial nofun
  | releasing result =>
      cases result <;>
      exact custody.of_execution rfl done (Shared.jobs_answer answered rfl) trivial nofun

/-- Forgetting the jobs that are left leaves none that could be stale. -/
theorem forgetting_moves {shared : Shared W} {v : Status Supervisor (Except Fault Unit × Nat)}
    {n : Nat} (custody : s.Custody view t) (jobs : shared.jobs = s.shared.jobs.clear)
    (same : shared.world = s.shared.world) :
    Custody view (t ++ [⟨.supervisor, .forgetJobs, n⟩])
      { s with supervisor := v, shared } := by
  refine custody.of_quiet rfl (fun pid => by rw [same]) custody.hand ?_ (fun pid listed => ?_)
    custody.once custody.ahead
  · rw [jobs]
    exact List.nodup_nil
  · rw [jobs] at listed
    cases listed

theorem moves (custody : s.Custody view t) (recycling : Recycling world outside view)
    (moves : s.Moves world e after) : after.Custody view (t ++ [e]) := by
  have done := recycling.does _ _ _ _ moves.does
  cases moves with
  | @input i reply shared at_ answered =>
      cases i <;>
      exact custody.of_aside rfl done rfl rfl (Shared.jobs_answer answered rfl)
  | execution at_ answered => exact custody.execution_moves recycling at_ answered
  | signals at_ answered => exact custody.signals_moves recycling at_ answered
  | @supervisor v reply shared at_ answered =>
      have jobs := Moves.jobs_eq (.supervisor at_ answered)
      cases v with
      | forgetting result =>
          cases answered
          exact custody.forgetting_moves rfl rfl
      | _ => exact custody.of_aside rfl done rfl rfl (jobs rfl)

theorem changes {w : W} (custody : s.Custody view t) (recycling : Recycling world outside view)
    (change : outside s.shared.world w) : (s.withWorld w).Custody view t :=
  { custody with
    present := fun b there =>
      ((recycling.outside _ _ change).isPresent_eq b.pid).trans (custody.present b there) }

end Custody

end Shell

theorem Run.custody {W : Type} {world : World W} {outside : W → W → Prop} {view : W → Children}
    {limits : Limits} {w : W} {t : Trace} {s : Shell W} (recycling : Recycling world outside view)
    (run : Run world outside (Shell.boot limits w) t s) : s.Custody view t := by
  induction run with
  | start => exact .boot view limits w
  | move _ moves ih => exact ih.moves recycling moves
  | outside _ change ih => exact ih.changes recycling change

/-! ## The statuses of foreground commands -/

/-- `l.Concludes c result`: a launch of `c` may return with `result`. A foreground command that was
forked is the last child of all, and has ended with the status that is returned. -/
inductive Ledger.Concludes (l : Ledger) (c : Command) : Except LaunchError Launched → Prop
  | unforked (e : Errno) : Concludes l c (.error (.fork e))
  | foreground {pid : Pid} {final : WaitStatus} :
      c.background = false → final.isStop = false → l.EndedNewest pid c final →
      Concludes l c (.ok (.foreground pid (some final)))
  | unregistered (e : RegistrationError) :
      c.background = true → Concludes l c (.error (.registration e))
  | background (pid : Pid) : c.background = true → Concludes l c (.ok (.background pid))

/-- A launch returns with this status, if not at once then behind a new line. -/
def Launch.Carries (c : Command) (pid : Pid) (status : WaitStatus) : Launch.Progress → Prop
  | .ended result => result = .ok (.foreground pid (some status))
  | .running l => (l.turn c).call = .print (Bytes.ofText "\n") ∧
      ∀ reply, (l.turn c).resume reply = .ended (.ok (.foreground pid (some status)))

theorem Launch.carries_afterWait (c : Command) (pid : Pid) (status : WaitStatus) :
    Carries c pid status (afterWait pid (.status status)) := by
  rw [afterWait]
  split
  · exact ⟨rfl, fun _ => rfl⟩
  · exact rfl

/-- Nobody takes the status of a foreground command from the launch that waits for it. -/
structure StatusesKept {W : Type} (world : World W) (view : W → Children) (t : Trace)
    (s : Shell W) : Prop where
  /-- The signal thread asks for children of background commands only. -/
  not_stolen : ∀ pid options, s.call? .signals = some (.waitFor pid options) →
    t.ledger.HasJob pid ∧ ∀ b ∈ t.ledger.kept, b.pid = pid → b.command.background = true
  /-- A launch waits for the child that it has forked, and only for a foreground command. -/
  own : ∀ c pid, s.execution = .running (.launching c (.waiting pid)) →
    c.background = false ∧ t.ledger.HasNewest pid c
  /-- The wait tells how this child has ended, or it is made again. -/
  told : ∀ c pid reply shared, s.execution = .running (.launching c (.waiting pid)) →
    s.shared.answer world (.waitFor pid {}) = some (reply, shared) →
      Launch.afterWait pid reply = .running (.waiting pid) ∨
        ∃ status, reply = .status status ∧ status.isStop = false ∧
          ((view s.shared.world).child pid).news = some status
  /-- With the status that the wait has told, and with no other, the launch returns. -/
  carried : ∀ c pid status shared, s.execution = .running (.launching c (.waiting pid)) →
    s.shared.answer world (.waitFor pid {}) = some (.status status, shared) →
      Launch.Carries c pid status (((Launch.waiting pid).turn c).resume (.status status))
  /-- Once the child has come to its end the wait is not held up. -/
  answered : ∀ c pid, s.execution = .running (.launching c (.waiting pid)) →
    ((view s.shared.world).child pid).isAlive = false →
      (s.shared.answer world (.waitFor pid {})).isSome
  /-- The launch of a foreground command returns with the status in which its child has ended,
  unless there was no child. -/
  returned : ∀ c l reply shared result, s.execution = .running (.launching c l) →
    s.shared.answer world (l.turn c).call = some (reply, shared) →
      (l.turn c).resume reply = .ended result →
        Ledger.Concludes (Trace.ledger (t ++ [⟨.execution, (l.turn c).call, reply⟩])) c result

/-- The signal thread waits only for what a pass has ahead of it. -/
theorem Thread.Signals.mem_ahead_of_waits {W : Type} {s : Shell W} {pid : Pid}
    {options : WaitOptions} (waits : s.call? .signals = some (.waitFor pid options)) :
    pid ∈ Signals.ahead s.signals := by
  cases at_ : s.signals with
  | ended result => simp [Shell.call?, at_] at waits
  | running g =>
      simp only [Shell.call?, at_, Option.some.injEq] at waits
      cases g with
      | reaping r =>
          cases r with
          | asking p rest noted =>
              cases waits
              exact List.mem_cons_self
          | listing | removing | dropping => cases waits
      | awaiting | redrawing | reporting | checkingExit => cases waits

namespace Shell.Custody

variable {W : Type} {world : World W} {outside : W → W → Prop} {view : W → Children} {s : Shell W}
  {t : Trace} {c : Command} {pid : Pid}

/-- What the wait for the foreground child is answered. -/
theorem told {reply : WaitReply} {shared : Shared W} (custody : s.Custody view t)
    (recycling : Recycling world outside view)
    (at_ : s.execution = .running (.launching c (.waiting pid)))
    (answered : s.shared.answer world (.waitFor pid {}) = some (reply, shared)) :
    Launch.afterWait pid reply = .running (.waiting pid) ∨
      ∃ status, reply = .status status ∧ status.isStop = false ∧
        ((view s.shared.world).child pid).news = some status := by
  obtain ⟨waits, fails⟩ := recycling.does _ _ _ _ (Shared.does_answer answered)
  have holds := custody.hand
  rw [at_] at holds
  have present := custody.present_of_hasNewest holds.2
  cases reply with
  | notReady => exact .inl rfl
  | status status =>
      refine .inr ⟨status, rfl, ?_, waits.1⟩
      by_contra stop
      cases waits.2.1 (Bool.not_eq_false _ ▸ stop)
  | failed e =>
      rcases fails e rfl with rfl | rfl
      · rw [waits.1.1 rfl] at present
        cases present
      · exact .inl rfl

/-- A launch that returns from the wait returns with the status that the wait has told. -/
theorem concludes_of_waiting {reply : WaitReply} {shared : Shared W}
    {result : Except LaunchError Launched} (custody : s.Custody view t)
    (recycling : Recycling world outside view)
    (at_ : s.execution = .running (.launching c (.waiting pid)))
    (answered : s.shared.answer world (.waitFor pid {}) = some (reply, shared))
    (ends : Launch.afterWait pid reply = .ended result) :
    Ledger.Concludes (Trace.ledger (t ++ [⟨.execution, .waitFor pid {}, reply⟩])) c result := by
  have holds := custody.hand
  rw [at_] at holds
  rcases custody.told recycling at_ answered with again | ⟨status, rfl, final, _⟩
  · rw [again] at ends
    cases ends
  · obtain rfl : .ok (.foreground pid (some status)) = result := by
      simp only [Launch.afterWait] at ends
      split at ends <;> cases ends
      rfl
    refine .foreground holds.1 final ?_
    rw [Trace.ledger_concat, Ledger.note_of_final _ _ _ _ final]
    exact Ledger.HasNewest.ended holds.2 status

/-- However a launch returns, it is with what the ledger tells of its child. -/
theorem concludes {l : Launch} {reply shared} {result : Except LaunchError Launched}
    (custody : s.Custody view t) (recycling : Recycling world outside view)
    (at_ : s.execution = .running (.launching c l))
    (answered : s.shared.answer world (l.turn c).call = some (reply, shared))
    (ends : (l.turn c).resume reply = .ended result) :
    Ledger.Concludes (Trace.ledger (t ++ [⟨.execution, (l.turn c).call, reply⟩])) c result := by
  have holds := custody.hand
  rw [at_] at holds
  cases l with
  | forking =>
      cases reply with
      | error e =>
          cases ends
          exact .unforked e
      | ok pid => cases ends
  | shielding | announcing => cases ends
  | registering pid =>
      cases reply with
      | error e =>
          cases ends
          exact .unregistered e holds.1
      | ok => cases ends
  | raising pid =>
      cases ends
      exact .background pid holds
  | endingLine pid status =>
      obtain ⟨foreground, final, ended⟩ := holds
      cases ends
      refine .foreground foreground final ?_
      rw [Trace.ledger_concat]
      exact ended
  | waiting pid => exact custody.concludes_of_waiting recycling at_ answered ends

end Shell.Custody

/-- For all launches of foreground and background commands, in every order of the steps of the
execution and the signal thread. -/
theorem foreground_statuses_kept {W : Type} {world : World W} {outside : W → W → Prop}
    {view : W → Children} {limits : Limits} {w : W} {t : Trace} {s : Shell W}
    (recycling : Recycling world outside view)
    (run : Run world outside (Shell.boot limits w) t s) : StatusesKept world view t s where
  not_stolen pid options waits := by
    have custody := run.custody recycling
    obtain ⟨has, _⟩ := custody.ahead pid (Signals.mem_ahead_of_waits waits)
    refine ⟨has, fun b there same => ?_⟩
    obtain ⟨a, mem, own, background⟩ := has
    rwa [custody.distinct.eq_of_pid there mem (same.trans own.symm)]
  own c pid at_ := by
    have holds := (run.custody recycling).hand
    rw [at_] at holds
    exact holds
  told c pid reply shared at_ answered := (run.custody recycling).told recycling at_ answered
  answered c pid at_ ended := by
    cases waited : world.waitFor pid {} s.shared.world with
    | none =>
        rw [recycling.held _ _ _ waited] at ended
        cases ended
    | some answer => simp [Shared.answer, waited]
  carried c pid status _ _ _ := Launch.carries_afterWait c pid status
  returned c l reply shared result at_ answered ends :=
    (run.custody recycling).concludes recycling at_ answered ends

namespace Nursery

/-- There are two numbers for children, and the first one that is free is given. -/
def forkAgain (n : Nursery) : Except Errno Pid × Nursery :=
  match ([1, 2] : List Pid).find? fun pid => !(n.children.child pid).isPresent with
  | some pid => (.ok pid, { n with children := n.children.set pid .quiet })
  | none => (.error .wouldBlock, n)

theorem forksAgain (n : Nursery) :
    n.children.ForksAgain n.forkAgain.1 n.forkAgain.2.children := by
  unfold forkAgain
  split
  · next pid found =>
      have free := List.find?_some found
      exact ⟨by simpa using free, rfl⟩
  · rfl

theorem isAlive_of_held {n : Nursery} {pid : Pid} {options : WaitOptions}
    (held : n.waitFor pid options = none) : (n.children.child pid).isAlive = true := by
  unfold waitFor at held
  cases at_ : n.children.child pid with
  | unborn | collected => simp [at_, Child.news, Child.isPresent] at held
  | quiet | stopped signal => rfl
  | exited code | killed signal =>
      simp [at_, Child.news, WaitStatus.isStop, WaitStatus.stopSignal?] at held

theorem noChild_of_fails {n after : Nursery} {pid : Pid} {options : WaitOptions} {e : Errno}
    (waited : n.waitFor pid options = some (.failed e, after)) : e = .noChild := by
  unfold waitFor at waited
  split at waited
  · split at waited
    · cases (silent_eq waited).1
    · cases waited
  · split at waited
    · cases (silent_eq waited).1
    · cases waited
      rfl

end Nursery

/-- The shell among children of which only two have a number at a time. -/
def World.crowded : World Nursery :=
  { World.nursery with fork := fun _ n => n.forkAgain }

theorem Recycling.crowded : Recycling World.crowded Nursery.Changes Nursery.children where
  does c reply n after done := by
    cases c with
    | fork c =>
        have forks := n.forksAgain
        rwa [show n.forkAgain = (reply, after) from done] at forks
    | waitFor pid options =>
        refine ⟨Nursery.waits done, ?_⟩
        rintro e rfl
        exact .inl (Nursery.noChild_of_fails done)
    | readByte =>
        simp only [World.Does, World.crowded, World.nursery] at done
        split at done <;> cases done <;> rfl
    | awaitSignal =>
        simp only [World.Does, World.crowded, World.nursery, Nursery.awaitSignal] at done
        split at done <;> cases done
        rfl
    | print | printByOccupancy | printJobs =>
        obtain ⟨_, rfl⟩ := done
        rfl
    | _ =>
        cases done
        rfl
  held _ _ _ held := Nursery.isAlive_of_held held
  outside _ _ changes := changes

/-- A child that is there comes to its end. -/
def Nursery.endChild (pid : Pid) (code : Nat) (n : Nursery) : Option Nursery :=
  if (n.children.child pid).isAlive then some (n.change pid (.exited code)) else none

theorem Nursery.changes_endChild {pid : Pid} {code : Nat} {n after : Nursery}
    (ended : n.endChild pid code = some after) : n.Changes after := by
  obtain ⟨alive, same⟩ := Option.ite_none_right_eq_some.1 ended
  cases same
  exact goes_change alive nofun

/-- A foreground command has the number of a job that is about to leave the registry. -/
theorem foreground_statuses_kept_of_reuse :
    ∃ t s, Run World.crowded Nursery.Changes
        (Shell.boot {} (Nursery.of (Source.ofBytes (Bytes.ofText "a &\nb\n")))) t s ∧
      s.call? .execution = some (.waitFor 1 {}) ∧ Signals.leaving s.signals = some 1 ∧
      StatusesKept World.crowded Nursery.children t s := by
  let start : Nursery := Nursery.of (Source.ofBytes (Bytes.ofText "a &\nb\n"))
  let first : List ThreadId := .replicate 7 .input ++ .replicate 8 .execution
  let second : List ThreadId :=
    .replicate 3 .signals ++ .replicate 6 .input ++ .replicate 4 .execution
  have played :
      ((Shell.boot {} start).playAround World.crowded first (Nursery.endChild 1 0) second).any
        (fun (_, s) => decide (s.call? .execution = some (.waitFor 1 {})) &&
          decide (Signals.leaving s.signals = some 1)) = true := by
    decide +kernel
  obtain ⟨⟨t, s⟩, reached, found⟩ := (Option.any_eq_true _ _).1 played
  simp only [Bool.and_eq_true, decide_eq_true_eq] at found
  have run : Run World.crowded Nursery.Changes (Shell.boot {} start) t s :=
    Run.playAround Nursery.changes_endChild reached
  exact ⟨t, s, run, found.1, found.2, foreground_statuses_kept Recycling.crowded run⟩

end JobShell
