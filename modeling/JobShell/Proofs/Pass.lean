import JobShell.Proofs.Roster
import JobShell.Proofs.Run

/-!
# One pass over the registry

A pass takes the processes of the registry once, at its start, and changes the registry while it
goes through them. Left alone, it asks after each of these processes once, and what it does after
an answer depends on that answer only: an end takes the job out and is noted, a stop is only noted,
a process that another one collected is only taken out, and all other answers leave no mark. As no
process stands in the registry twice, a removal never concerns a process that is still to be asked
after.

The world of a pass is any in which each process answers the first question after it with an
outcome of its own, whichever processes were asked after before. What it answers to a second
question is open.

Results:
1. `Registry.listed_filter`: jobs that stay in the table keep their order in the listing.
2. `Shell.Alone.ask`: what one process of a pass comes to.
3. `pass_collects`: the questions, the reports and the registry of a whole pass, and of the pass
   after it if no job has anything to report.
-/

namespace JobShell

open Thread

/-! ## Outcomes -/

/-- What the first question after a process comes to. -/
inductive WaitOutcome
  /-- A status as the system packs it. -/
  | packed (raw : Int32)
  | notReady
  | failed (e : Errno)
deriving DecidableEq, Repr

namespace WaitOutcome

def reply : WaitOutcome → WaitReply
  | .packed raw => .status (WaitStatus.decode raw)
  | .notReady => .notReady
  | .failed e => .failed e

/-- The event that the outcome tells of. -/
def event? : WaitOutcome → Option JobEvent
  | .packed raw => JobEvent.ofStatus? (WaitStatus.decode raw)
  | _ => none

/-- Whether the job is gone: it ended, or was collected elsewhere. -/
def isGone (o : WaitOutcome) : Bool :=
  match o.event? with
  | some .done | some (.exit _) | some .killed => true
  | some .stopped => false
  | none => o = .failed .noChild

def report? (o : WaitOutcome) (pid : Pid) : Option JobReport :=
  o.event?.map fun event => ⟨pid, event⟩

theorem isGone_of_event {o : WaitOutcome} {event : JobEvent} (tells : o.event? = some event) :
    o.isGone = event.isFinal := by
  cases event <;> simp [isGone, tells, JobEvent.isFinal]

variable {o : WaitOutcome} {pid : Pid} {rest : List Pid} {noted : List JobReport}

/-- A job that stays is noted if there is an event, and the pass goes on. -/
theorem afterWait_of_stays (stays : o.isGone = false) :
    Reap.afterWait pid rest noted o.reply = Reap.next ((o.report? pid).toList ++ noted) rest := by
  cases o with
  | packed raw =>
      cases tells : (packed raw).event? with
      | none =>
          rw [report?, tells]
          rw [event?] at tells
          simp only [reply, Reap.afterWait, tells, Option.map_none, Option.toList_none,
            List.nil_append]
      | some event =>
          rw [isGone_of_event tells] at stays
          rw [report?, tells]
          rw [event?] at tells
          simp [reply, Reap.afterWait, tells, stays]
  | notReady => rfl
  | failed e =>
      have other : e ≠ .noChild := by simpa [isGone, event?] using stays
      simp [reply, Reap.afterWait, report?, event?, other]

/-- A job that is gone is taken out first; as it was still there, it is noted if there is an
event. -/
theorem afterWait_of_isGone (pid : Pid) (rest : List Pid) (noted : List JobReport)
    (gone : o.isGone = true) :
    ∃ r resume, Reap.afterWait pid rest noted o.reply = .running r ∧
      r.turn = ⟨.untrack pid, resume⟩ ∧
      resume true = Reap.next ((o.report? pid).toList ++ noted) rest := by
  cases o with
  | packed raw =>
      cases tells : (packed raw).event? with
      | none => simp [isGone, tells] at gone
      | some event =>
          rw [isGone_of_event tells] at gone
          refine ⟨.removing ⟨pid, event⟩ rest noted, _, ?_, rfl, ?_⟩
          · rw [event?] at tells
            simp only [reply, Reap.afterWait, tells, gone, if_true]
          · simp [report?, tells]
  | notReady => cases gone
  | failed e =>
      have collected : e = .noChild := by simpa [isGone, event?] using gone
      exact ⟨.dropping pid rest noted, _, if_pos collected, rfl, rfl⟩

/-- What is to be reported of some processes, in their order. -/
def reports (outcome : Pid → WaitOutcome) (pids : List Pid) : List JobReport :=
  pids.filterMap fun pid => (outcome pid).report? pid

theorem reports_eq_nil {outcome : Pid → WaitOutcome} {pids : List Pid}
    (idle : ∀ pid ∈ pids, outcome pid = .notReady) : reports outcome pids = [] := by
  refine List.filterMap_eq_nil_iff.2 fun pid mem => ?_
  rw [idle pid mem]
  rfl

end WaitOutcome

/-- How a pass asks after a process: it does not wait, and stops count. -/
def WaitOptions.probe : WaitOptions := { noHang := true, untraced := true }

namespace World

variable {W : Type}

/-- `world.Asked outcome pids w asked now`: from `w` the processes of `asked`, all of them from
`pids` and none twice, were asked after, the last one in front, and each came to its outcome. -/
inductive Asked (world : World W) (outcome : Pid → WaitOutcome) (pids : List Pid) (w : W) :
    List Pid → W → Prop
  | start : Asked world outcome pids w [] w
  | ask {asked : List Pid} {now after : W} {pid : Pid} :
      Asked world outcome pids w asked now → pid ∈ pids → pid ∉ asked →
      world.waitFor pid .probe now = some ((outcome pid).reply, after) →
      Asked world outcome pids w (pid :: asked) after

/-- Each of the processes comes to its outcome when it is asked after for the first time, whichever
of the others were asked after before. -/
def Assigns (world : World W) (outcome : Pid → WaitOutcome) (pids : List Pid) (w : W) : Prop :=
  ∀ {asked : List Pid} {now : W} {pid : Pid}, world.Asked outcome pids w asked now → pid ∈ pids →
    pid ∉ asked → ∃ after, world.waitFor pid .probe now = some ((outcome pid).reply, after)

end World

/-- The process that a thread asked after, and how. -/
def Event.asked? : Event → Option (Pid × WaitOptions)
  | ⟨_, .waitFor pid options, _⟩ => some (pid, options)
  | _ => none

/-! ## The registry without some of its jobs -/

namespace Registry

/-- The registry with the jobs for which `p` holds. -/
def filter (r : Registry) (p : Job → Bool) : Registry := { r with table := r.table.filter p }

theorem remove_eq_filter (r : Registry) (pid : Pid) : r.remove pid = r.filter (·.pid ≠ pid) := rfl

theorem filter_filter (r : Registry) (p q : Job → Bool) :
    (r.filter p).filter q = r.filter fun job => q job && p job := by
  simp only [filter, List.filter_filter]

/-- Sorting keeps the order of jobs with the same number. -/
theorem filter_order_listed (r : Registry) (n : UInt64) :
    r.listed.filter (·.order = n) = r.table.filter (·.order = n) := by
  have same : (r.table.filter (·.order = n)).Pairwise
      fun a b => decide (b.order ≤ a.order) = true := by
    refine List.pairwise_of_forall_mem_list fun a here b there => ?_
    simp only [List.mem_filter, decide_eq_true_eq] at here there ⊢
    rw [here.2, there.2]
    exact UInt64.le_refl n
  have inside : (r.table.filter (·.order = n)).Sublist r.listed := by
    refine List.sublist_mergeSort ?_ ?_ same List.filter_sublist
    · intro a b c first second
      simp only [decide_eq_true_eq] at first second ⊢
      exact UInt64.le_trans second first
    · intro a b
      simpa using UInt64.le_total b.order a.order
  have found := inside.filter (·.order = n)
  simp only [List.filter_filter, Bool.and_self] at found
  exact (found.eq_of_length ((r.listed_perm.filter _).length_eq.symm)).symm

theorem mem_iff_of_filter_order {l m : List Job} {job : Job}
    (same : ∀ n, l.filter (·.order = n) = m.filter (·.order = n)) : job ∈ l ↔ job ∈ m := by
  have here := congrArg (job ∈ ·) (same job.order)
  simpa using here

theorem order_le_head {a b : Job} {l : List Job}
    (sorted : (b :: l).Pairwise fun a b => b.order ≤ a.order) (mem : a ∈ b :: l) :
    a.order ≤ b.order := by
  rcases List.mem_cons.1 mem with rfl | mem
  · exact UInt64.le_refl _
  · exact (List.pairwise_cons.1 sorted).1 a mem

/-- Two sorted lists with the same jobs in the same order for each number are the same. -/
theorem eq_of_filter_order {l m : List Job} (sorted : l.Pairwise fun a b => b.order ≤ a.order)
    (sorted' : m.Pairwise fun a b => b.order ≤ a.order)
    (same : ∀ n, l.filter (·.order = n) = m.filter (·.order = n)) : l = m := by
  induction l generalizing m with
  | nil => exact (List.eq_nil_iff_forall_not_mem.2 fun _ mem =>
      nomatch (mem_iff_of_filter_order same).2 mem).symm
  | cons a l ih =>
      cases m with
      | nil => exact nomatch (mem_iff_of_filter_order same).1 List.mem_cons_self
      | cons b m =>
          have order : a.order = b.order := UInt64.le_antisymm
            (order_le_head sorted' ((mem_iff_of_filter_order same).1 List.mem_cons_self))
            (order_le_head sorted ((mem_iff_of_filter_order same).2 List.mem_cons_self))
          have heads := same a.order
          simp only [List.filter_cons, order, decide_true, if_true, List.cons.injEq] at heads
          obtain ⟨rfl, _⟩ := heads
          refine congrArg (a :: ·) (ih sorted.tail sorted'.tail fun n => ?_)
          have whole := same n
          simp only [List.filter_cons] at whole
          split at whole
          · exact (List.cons.inj whole).2
          · exact whole

theorem filter_eq_self {r : Registry} {p : Job → Bool} (all : ∀ job ∈ r.table, p job = true) :
    r.filter p = r := by
  rw [filter, List.filter_eq_self.2 all]

/-- The jobs that stay in the table keep their order in the listing. -/
theorem listed_filter (r : Registry) (p : Job → Bool) :
    (r.filter p).listed = r.listed.filter p := by
  refine eq_of_filter_order (pairwise_listed _) (r.pairwise_listed.filter p) fun n => ?_
  rw [filter_order_listed, List.filter_comm, filter_order_listed, filter, List.filter_comm]

/-- Whether a job stays can be told from its process. -/
theorem entries_filter (r : Registry) (p : Pid → Bool) :
    (r.filter fun job => p job.pid).entries = r.entries.filter fun entry => p entry.1 := by
  rw [entries, listed_filter, entries, List.filter_map]
  rfl

theorem IsDistinct.filter {r : Registry} (distinct : r.IsDistinct) (p : Job → Bool) :
    (r.filter p).IsDistinct :=
  List.Nodup.sublist (List.filter_sublist.map _) distinct

/-- The registry after one process came to its outcome. -/
def settle (outcome : Pid → WaitOutcome) (r : Registry) (pid : Pid) : Registry :=
  if (outcome pid).isGone then r.remove pid else r

theorem contains_settle_iff {outcome : Pid → WaitOutcome} {r : Registry} {pid other : Pid}
    (apart : other ≠ pid) :
    (r.settle outcome pid).contains other = true ↔ r.contains other = true := by
  rw [settle]
  split
  · rw [contains_remove_iff, and_iff_left apart]
  · exact Iff.rfl

/-- A job leaves if its process is among those asked after and is gone. -/
theorem foldl_settle (outcome : Pid → WaitOutcome) (r : Registry) (pids : List Pid) :
    pids.foldl (settle outcome) r =
      r.filter fun job => !(job.pid ∈ pids && (outcome job.pid).isGone) := by
  induction pids generalizing r with
  | nil => simp [filter]
  | cons pid pids ih =>
      rw [List.foldl_cons, ih, settle]
      split
      · next gone =>
          rw [remove_eq_filter, filter_filter]
          congr 1
          funext job
          by_cases same : job.pid = pid <;> simp [same, gone]
      · next stays =>
          congr 1
          funext job
          by_cases same : job.pid = pid <;> simp [same, stays]

theorem foldl_settle_pids (outcome : Pid → WaitOutcome) (r : Registry) :
    r.pids.foldl (settle outcome) r = r.filter fun job => !(outcome job.pid).isGone := by
  rw [foldl_settle]
  simp only [filter, mk.injEq, and_true]
  refine List.filter_congr fun job mem => ?_
  have there : job.pid ∈ r.pids := mem_pids_iff.2 (contains_iff.2 ⟨job, mem, rfl⟩)
  simp only [there, decide_true, Bool.true_and]

end Registry

/-! ## A thread alone -/

namespace Shell

variable {W : Type} {world : World W} {s now after : Shell W} {thread : ThreadId} {t u : Trace}

/-- With no other thread acting, a thread takes the shell from `s` to `after`. -/
def Alone (world : World W) (thread : ThreadId) (s : Shell W) (t : Trace) (after : Shell W) :
    Prop :=
  ∃ n, s.play world (List.replicate n thread) = some (t, after)

namespace Alone

theorem refl (world : World W) (thread : ThreadId) (s : Shell W) : s.Alone world thread [] s :=
  ⟨0, rfl⟩

theorem cons {e : Event} (acted : s.act world thread = some (e, now))
    (rest : now.Alone world thread t after) : s.Alone world thread (e :: t) after := by
  obtain ⟨n, played⟩ := rest
  refine ⟨n + 1, ?_⟩
  rw [List.replicate_succ, play, acted]
  simp only [played, Option.map_some]

theorem trans (first : s.Alone world thread t now) (second : now.Alone world thread u after) :
    s.Alone world thread (t ++ u) after := by
  obtain ⟨n, played⟩ := first
  induction n generalizing s t with
  | zero =>
      cases played
      exact second
  | succ n ih =>
      rw [List.replicate_succ, play] at played
      split at played
      · cases played
      · next e mid acted =>
          obtain ⟨⟨t, now⟩, rest, same⟩ := Option.map_eq_some_iff.1 played
          cases same
          exact .cons acted (ih rest)

end Alone

/-- The shell after a part of a pass. -/
def passing (s : Shell W) (progress : Reap.Progress) (jobs : Registry) (w : W) : Shell W :=
  { s with signals := Signals.afterReap progress, shared := { s.shared with jobs, world := w } }

/-- One call of the signal thread within a pass. -/
theorem act_reaping {r : Reap} {c : Call} {resume : c.Reply → Reap.Progress} {reply : c.Reply}
    {shared : Shared W} (at_ : s.signals = .running (.reaping r)) (turns : r.turn = ⟨c, resume⟩)
    (answered : s.shared.answer world c = some (reply, shared)) :
    s.act world .signals = some (⟨.signals, c, reply⟩,
      { s with signals := Signals.afterReap (resume reply), shared }) := by
  have whole : (Signals.reaping r).turn = ⟨c, fun reply => Signals.afterReap (resume reply)⟩ := by
    rw [Signals.turn, turns]
    rfl
  simp only [act, at_]
  -- the type of the reply depends on the call, so the turn is replaced as a whole
  generalize (Signals.reaping r).turn = turn at whole ⊢
  cases whole
  exact congrArg (Option.map _) answered

namespace Alone

variable {outcome : Pid → WaitOutcome} {pid : Pid} {rest : List Pid} {noted : List JobReport}
  {jobs : Registry} {v w : W}

/-- A process that is asked after comes to its outcome: the pass goes on with its report, if it has
one, and the job leaves the registry if it is gone. -/
theorem ask (s : Shell W) (rest : List Pid) (noted : List JobReport)
    (tracked : jobs.contains pid = true)
    (answered : world.waitFor pid .probe v = some ((outcome pid).reply, w)) :
    ∃ t, (s.passing (.running (.asking pid rest noted)) jobs v).Alone world .signals t
        (s.passing (Reap.next (((outcome pid).report? pid).toList ++ noted) rest)
          (jobs.settle outcome pid) w) ∧
      t.filterMap Event.asked? = [(pid, .probe)] := by
  have waits : (s.passing (.running (.asking pid rest noted)) jobs v).act world .signals =
      some (⟨.signals, .waitFor pid .probe, (outcome pid).reply⟩,
        s.passing (Reap.afterWait pid rest noted (outcome pid).reply) jobs w) :=
    act_reaping rfl rfl (congrArg (Option.map _) answered)
  rw [Registry.settle]
  cases gone : (outcome pid).isGone with
  | false =>
      rw [WaitOutcome.afterWait_of_stays gone] at waits
      exact ⟨_, .cons waits (.refl ..), rfl⟩
  | true =>
      obtain ⟨r, resume, goes, turns, resumed⟩ :=
        WaitOutcome.afterWait_of_isGone pid rest noted gone
      have untracks : (s.passing (.running r) jobs w).act world .signals =
          some (⟨.signals, .untrack pid, jobs.contains pid⟩,
            s.passing (resume (jobs.contains pid)) (jobs.remove pid) w) :=
        act_reaping rfl turns rfl
      rw [goes] at waits
      rw [tracked, resumed] at untracks
      exact ⟨_, .cons waits (.cons untracks (.refl ..)), rfl⟩

/-- The rest of a pass, in which no process is asked after twice. -/
theorem askAll {pids asked : List Pid} (s : Shell W) (noted : List JobReport)
    (assigns : world.Assigns outcome pids w) (soFar : world.Asked outcome pids w asked v)
    (among : ∀ pid ∈ rest, pid ∈ pids)
    (new : ∀ pid ∈ rest, pid ∉ asked) (once : rest.Nodup)
    (tracked : ∀ pid ∈ rest, jobs.contains pid = true) :
    ∃ t u, (s.passing (Reap.next noted rest) jobs v).Alone world .signals t
        (s.passing (.ended (noted.reverse ++ WaitOutcome.reports outcome rest))
          (rest.foldl (Registry.settle outcome) jobs) u) ∧
      t.filterMap Event.asked? = rest.map fun pid => (pid, .probe) := by
  induction rest generalizing noted jobs v asked with
  | nil =>
      refine ⟨[], v, ?_, rfl⟩
      rw [WaitOutcome.reports, List.filterMap_nil, List.append_nil]
      exact .refl ..
  | cons pid rest ih =>
      obtain ⟨fresh, once⟩ := List.nodup_cons.1 once
      have unasked : pid ∉ asked := new pid List.mem_cons_self
      have apart (other : Pid) (mem : other ∈ rest) : other ≠ pid := ne_of_mem_of_not_mem mem fresh
      obtain ⟨v', answered⟩ := assigns soFar (among pid List.mem_cons_self) unasked
      obtain ⟨t, first, asks⟩ :=
        ask s rest noted (tracked pid List.mem_cons_self) answered
      obtain ⟨t', u, others, askOthers⟩ :=
        ih (((outcome pid).report? pid).toList ++ noted)
          (soFar.ask (among pid List.mem_cons_self) unasked answered)
          (fun other mem => among other (.tail _ mem))
          (fun other mem => List.not_mem_cons_of_ne_of_not_mem (apart other mem)
            (new other (.tail _ mem)))
          once
          (fun other mem => (Registry.contains_settle_iff (apart other mem)).2
            (tracked other (.tail _ mem)))
      refine ⟨t ++ t', u, ?_, ?_⟩
      · have noting : (((outcome pid).report? pid).toList ++ noted).reverse ++
              WaitOutcome.reports outcome rest =
            noted.reverse ++ WaitOutcome.reports outcome (pid :: rest) := by
          rw [WaitOutcome.reports, WaitOutcome.reports]
          cases report : (outcome pid).report? pid <;> simp [report]
        exact first.trans (noting ▸ others)
      · rw [List.filterMap_append, asks, askOthers, List.map_cons, List.singleton_append]

end Alone

/-! ## A whole pass -/

/-- What a pass from `s` to `after`, with the trace `t`, has done. -/
structure Collects (outcome : Pid → WaitOutcome) (s : Shell W) (t : Trace) (after : Shell W) :
    Prop where
  /-- The processes of the registry were asked after, the most recent first, and no others. -/
  asked : t.filterMap Event.asked? = s.shared.jobs.pids.map fun pid => (pid, .probe)
  once : s.shared.jobs.pids.Nodup
  registered : ∀ pid, pid ∈ s.shared.jobs.pids ↔ s.shared.jobs.contains pid = true
  /-- The reports, in the order of the questions. -/
  reports : after.signals = .running
    (Signals.report (WaitOutcome.reports outcome s.shared.jobs.pids))
  jobs : after.shared.jobs = s.shared.jobs.filter fun job => !(outcome job.pid).isGone
  entries : after.shared.jobs.entries =
    s.shared.jobs.entries.filter fun entry => !(outcome entry.1).isGone
  /-- Nothing else but the world is changed. -/
  others : after = { s with
    signals := after.signals
    shared := { s.shared with jobs := after.shared.jobs, world := after.shared.world } }

theorem collects {outcome : Pid → WaitOutcome} (at_ : s.signals = .running (.reaping .start))
    (distinct : s.shared.jobs.IsDistinct)
    (assigns : world.Assigns outcome s.shared.jobs.pids s.shared.world) :
    ∃ t after, s.Alone world .signals t after ∧ s.Collects outcome t after := by
  have lists : s.act world .signals = some (⟨.signals, .trackedPids, s.shared.jobs.pids⟩,
      s.passing (Reap.next [] s.shared.jobs.pids) s.shared.jobs s.shared.world) :=
    act_reaping at_ rfl rfl
  obtain ⟨t, u, rest, asks⟩ := Alone.askAll s [] assigns .start
    (fun _ mem => mem) (fun _ _ => List.not_mem_nil) distinct.nodup_pids
    (fun _ mem => Registry.mem_pids_iff.1 mem)
  rw [Registry.foldl_settle_pids] at rest
  refine ⟨_, _, .cons lists rest, asks, distinct.nodup_pids, fun _ => Registry.mem_pids_iff, rfl,
    rfl, ?_, rfl⟩
  exact Registry.entries_filter _ fun pid => !(outcome pid).isGone

end Shell

open Shell in
/-- A pass asks after each registered process once, reports the events in the order of the
questions, and keeps the jobs that are not gone; a second pass that finds no job ready has nothing
to report and leaves the registry as it is. -/
theorem pass_collects {W : Type} {world : World W} {outcome : Pid → WaitOutcome} {s : Shell W}
    (at_ : s.signals = .running (.reaping .start)) (distinct : s.shared.jobs.IsDistinct)
    (assigns : world.Assigns outcome s.shared.jobs.pids s.shared.world) :
    ∃ t after, s.Alone world .signals t after ∧ s.Collects outcome t after ∧
      ∀ (again : Shell W) (second : Pid → WaitOutcome),
        again.signals = .running (.reaping .start) → again.shared.jobs = after.shared.jobs →
        (∀ pid ∈ after.shared.jobs.pids, second pid = .notReady) →
        world.Assigns second after.shared.jobs.pids again.shared.world →
        ∃ u last, again.Alone world .signals u last ∧ again.Collects second u last ∧
          last.signals = .running (Signals.report []) ∧ last.shared.jobs = after.shared.jobs := by
  obtain ⟨t, after, alone, collected⟩ := collects at_ distinct assigns
  refine ⟨t, after, alone, collected, ?_⟩
  intro again second waits same idle assigned
  have others : again.shared.jobs.IsDistinct := by
    rw [same, collected.jobs]
    exact distinct.filter _
  obtain ⟨u, last, alone', collected'⟩ := collects waits others (same ▸ assigned)
  refine ⟨u, last, alone', collected', ?_, ?_⟩
  · rw [collected'.reports, same, WaitOutcome.reports_eq_nil idle]
  · rw [collected'.jobs, same]
    refine Registry.filter_eq_self fun job mem => ?_
    have there : job.pid ∈ after.shared.jobs.pids :=
      Registry.mem_pids_iff.2 (Registry.contains_iff.2 ⟨job, mem, rfl⟩)
    rw [idle job.pid there]
    rfl

/-- A world in which a process that was asked after once has nothing more to tell. -/
def World.once (outcome : Pid → WaitOutcome) : World (List Pid) where
  print _ asked := asked
  complain _ asked := asked
  readByte _ := none
  changeDirectory _ asked := (.ok (), asked)
  fork _ asked := (.ok 1, asked)
  blockSignals asked := asked
  waitFor pid _ asked :=
    some (if pid ∈ asked then .notReady else (outcome pid).reply, pid :: asked)
  reserve asked := (.ok (), asked)
  raiseChild asked := asked
  awaitSignal _ := none
  sendStop asked := (.ok (), asked)

theorem World.Asked.world_eq {outcome first : Pid → WaitOutcome} {pids asked w now : List Pid}
    (asks : (World.once first).Asked outcome pids w asked now) : now = asked ++ w := by
  induction asks with
  | start => rfl
  | ask _ _ _ answered ih =>
      rw [← (Prod.mk.inj (Option.some.inj answered)).2, ih, List.cons_append]

theorem World.assigns_once (outcome : Pid → WaitOutcome) (pids : List Pid) :
    (World.once outcome).Assigns outcome pids [] := by
  intro asked now pid asks _ new
  rw [asks.world_eq, List.append_nil]
  refine ⟨pid :: asked, ?_⟩
  simp only [World.once, if_neg new]

theorem World.assigns_again (outcome : Pid → WaitOutcome) {pids known : List Pid}
    (all : ∀ pid ∈ pids, pid ∈ known) :
    (World.once outcome).Assigns (fun _ => .notReady) pids known := by
  intro asked now pid asks mem _
  rw [asks.world_eq]
  refine ⟨pid :: (asked ++ known), ?_⟩
  simp only [World.once, if_pos (List.mem_append_right asked (all pid mem))]
  rfl

/-- Eight jobs with outcomes of all kinds: four have something to report, and four stay. -/
theorem pass_collects_of_mixed :
    let outcome : Pid → WaitOutcome
      | 1 => .packed 0
      | 2 => .packed 0x400
      | 3 => .packed 9
      | 4 => .packed 0x137f
      | 5 => .packed 0xffff
      | 6 => .notReady
      | 7 => .failed .noChild
      | _ => .failed .interrupted
    let jobs : Registry := [1, 2, 3, 4, 5, 6, 7, 8].foldl (fun r pid => r.insert pid "job") {}
    let s : Shell (List Pid) :=
      { signals := .running (.reaping .start), shared := { jobs, world := [] } }
    ∃ t after, s.Alone (.once outcome) .signals t after ∧
      t.filterMap Event.asked? = [8, 7, 6, 5, 4, 3, 2, 1].map (fun pid => (pid, .probe)) ∧
      after.signals = .running
        (Signals.report [⟨4, .stopped⟩, ⟨3, .killed⟩, ⟨2, .exit 4⟩, ⟨1, .done⟩]) ∧
      after.shared.jobs.table.map Job.pid = [8, 6, 5, 4] ∧
      ∃ u last, ({ s with shared := { after.shared with world := s.shared.jobs.pids } }).Alone
          (.once outcome) .signals u last ∧
        last.signals = .running .awaiting ∧ last.shared.jobs = after.shared.jobs := by
  intro outcome jobs s
  have distinct : s.shared.jobs.IsDistinct := by
    unfold Registry.IsDistinct
    decide
  have pids : s.shared.jobs.pids = [8, 7, 6, 5, 4, 3, 2, 1] := by
    have numbered : jobs.IsNumbered := ⟨by decide, by decide⟩
    have listed : jobs.listed = jobs.table := numbered.eq_listed (.refl _) (by decide)
    exact congrArg (List.map Job.pid) listed
  obtain ⟨t, after, alone, collects, again⟩ :=
    pass_collects (s := s) rfl distinct (World.assigns_once outcome _)
  have fewer : ∀ pid ∈ after.shared.jobs.pids, pid ∈ s.shared.jobs.pids := by
    intro pid mem
    obtain ⟨job, there, rfl⟩ := Registry.contains_iff.1 (Registry.mem_pids_iff.1 mem)
    rw [collects.jobs] at there
    exact Registry.mem_pids_iff.2 (Registry.contains_iff.2 ⟨job, (List.mem_filter.1 there).1, rfl⟩)
  obtain ⟨u, last, alone', _, idle, same⟩ :=
    again { s with shared := { after.shared with world := s.shared.jobs.pids } } _
      rfl rfl (fun _ _ => rfl) (World.assigns_again outcome fewer)
  refine ⟨t, after, alone, ?_, ?_, ?_, u, last, alone', idle, same⟩
  · rw [collects.asked, pids]
  · rw [collects.reports, pids]
    rfl
  · rw [collects.jobs]
    decide

end JobShell
