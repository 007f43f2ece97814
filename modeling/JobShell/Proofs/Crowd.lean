import JobShell.Proofs.Wakeups

/-!
# Any number of threads at the hand-off

In the shell two threads meet at the hand-off, each with its part. Here any number of threads come
to it, and each of them does what it likes, in any order: it offers, waits, releases or looks. The
lock is a thing of its own. A thread takes it, does its work, which nobody else can see half done,
and gives it back; one that has to wait gives it back in the same step in which it falls asleep. A
sleeper may wake at any time, whether it was notified or not, and has to take the lock again before
it looks.

All that happens to the slot happens in visits, one after another, and what a visit comes to is
decided by the visits before it. So what is said of the requests is said of the list of visits.

Results:
1. `Visit.Leads.accepted_of_ready`, `Visit.Leads.fate`, `Visit.Leads.isBusy_iff`: what a list of
   visits tells of the slot.
2. `Crowd.Run.noneForgotten`: nobody is left asleep without notification when its wait is over.
3. `handoff_is_one_slot_buffer`: whatever the threads do, the hand-off is a buffer for one request.
-/

namespace JobShell

/-! ## The machine -/

/-- What a thread comes to the hand-off for. -/
inductive Task
  | offer (r : Request)
  | await (w : Wait)
  | release
  /-- See whether the slot is occupied, and do something while it stays so. -/
  | look
deriving DecidableEq, Repr

/-- What comes of a task. -/
inductive Deed
  | offered (result : Except HandoffError Unit)
  | got (a : Awaited)
  | released
  | looked (busy : Bool)
deriving DecidableEq, Repr

/-- A thread, what it came for, the slot as it found it, and what came of it. -/
structure Visit where
  thread : Nat
  task : Task
  found : Slot
  deed : Deed
deriving DecidableEq, Repr

/-- What a thread does that has the lock; nothing if it has to wait. -/
def Monitor.perform (m : Monitor) : Task → Option (Deed × Monitor)
  | .offer r =>
      match m.offer r with
      | .ok after => some (.offered (.ok ()), after)
      | .error e => some (.offered (.error e), m)
  | .await w => (m.poll w).map fun (got, after) => (.got got, after)
  | .release => some (.released, m.release)
  | .look => some (.looked m.slot.isBusy, m)

/-- The hand-off with its sleepers, and the thread that has the lock. -/
structure Crowd where
  monitor : Monitor := {}
  /-- Who has the lock, and what it still has to do with it. -/
  holder : Option (Nat × Option Task) := none
deriving DecidableEq, Repr

namespace Crowd

/-- `c.Steps visits after`: some thread takes one step. -/
inductive Steps (c : Crowd) : List Visit → Crowd → Prop
  /-- A thread that is not asleep begins a call and gets the lock. -/
  | lock {thread : Nat} {task : Task} :
      c.holder = none → (∀ x ∈ c.monitor.asleep, x.thread ≠ thread) →
      Steps c [] { c with holder := some (thread, some task) }
  /-- A sleeper wakes and gets the lock. -/
  | wake {x : Sleeper} :
      c.holder = none → x ∈ c.monitor.asleep →
      Steps c [] {
        monitor := { c.monitor with asleep := c.monitor.asleep.erase x }
        holder := some (x.thread, some (.await x.wait)) }
  | act {thread : Nat} {task : Task} {deed : Deed} {after : Monitor} :
      c.holder = some (thread, some task) → c.monitor.perform task = some (deed, after) →
      Steps c [⟨thread, task, c.monitor.slot, deed⟩]
        { monitor := after, holder := some (thread, none) }
  /-- A thread that has to wait falls asleep and gives the lock back. -/
  | doze {thread : Nat} {w : Wait} {after : Monitor} :
      c.holder = some (thread, some (.await w)) → c.monitor.enter thread w = (none, after) →
      Steps c [] { monitor := after, holder := none }
  | unlock {thread : Nat} :
      c.holder = some (thread, none) → Steps c [] { c with holder := none }

/-- `Run visits c`: at a new hand-off the threads may, with these visits, come to `c`. -/
inductive Run : List Visit → Crowd → Prop
  | start : Run [] {}
  | step {visits new : List Visit} {c after : Crowd} :
      Run visits c → c.Steps new after → Run (visits ++ new) after

end Crowd

/-! ## Visits -/

namespace Visit

/-- The request that a visit has put into the slot. -/
def accepted? : Visit → Option Request
  | ⟨_, .offer r, _, .offered (.ok ())⟩ => some r
  | _ => none

/-- The request that a visit has taken out of the slot. -/
def taken? : Visit → Option Request
  | ⟨_, .await _, _, .got (.request r)⟩ => some r
  | _ => none

def IsRelease (v : Visit) : Prop := v.task = .release

/-- The visit has left the slot as it was. -/
structure IsQuiet (v : Visit) : Prop where
  accepted : v.accepted? = none
  taken : v.taken? = none
  released : ¬ v.IsRelease

/-- The slot after a visit. -/
def leaves (v : Visit) : Slot :=
  match v.task, v.deed with
  | .offer r, .offered (.ok ()) => .ready r
  | .await _, .got (.request _) => .running
  | .release, _ => .empty
  | _, _ => v.found

/-- What a visit comes to, by the slot that it finds. -/
inductive Fits : Visit → Prop
  | accepted {thread : Nat} {r : Request} : Fits ⟨thread, .offer r, .empty, .offered (.ok ())⟩
  | refused {thread : Nat} {found : Slot} {r : Request} :
      found ≠ .empty → Fits ⟨thread, .offer r, found, .offered (.error .slotBusy)⟩
  | taken {thread : Nat} {r : Request} :
      Fits ⟨thread, .await .request, .ready r, .got (.request r)⟩
  | vacancy {thread : Nat} : Fits ⟨thread, .await .vacancy, .empty, .got .vacancy⟩
  | released {thread : Nat} {found : Slot} : Fits ⟨thread, .release, found, .released⟩
  | looked {thread : Nat} {found : Slot} : Fits ⟨thread, .look, found, .looked found.isBusy⟩

namespace Fits

variable {v : Visit} {r : Request}

theorem of_leaves_ready (fits : v.Fits) (ready : v.leaves = .ready r) :
    v.accepted? = some r ∨ v.found = .ready r ∧ v.IsQuiet := by
  cases fits with
  | accepted =>
      cases ready
      exact .inl rfl
  | refused | looked => exact .inr ⟨ready, rfl, rfl, nofun⟩
  | taken | vacancy | released => cases ready

theorem of_found_ready (fits : v.Fits) (ready : v.found = .ready r) :
    v.leaves = .ready r ∧ v.IsQuiet ∨ v.taken? = some r ∨ v.IsRelease := by
  cases fits with
  | accepted | vacancy => cases ready
  | refused | looked => exact .inl ⟨ready, rfl, rfl, nofun⟩
  | taken =>
      cases ready
      exact .inr (.inl rfl)
  | released => exact .inr (.inr rfl)

theorem found_eq_of_taken (fits : v.Fits) (taken : v.taken? = some r) : v.found = .ready r := by
  cases fits with
  | taken =>
      cases taken
      rfl
  | _ => cases taken

theorem leaves_eq_of_accepted (fits : v.Fits) (accepted : v.accepted? = some r) :
    v.leaves = .ready r := by
  cases fits with
  | accepted =>
      cases accepted
      rfl
  | _ => cases accepted

theorem deed_eq_of_look (fits : v.Fits) (looks : v.task = .look) :
    v.deed = .looked v.found.isBusy := by
  cases fits with
  | looked => rfl
  | _ => cases looks

theorem isBusy_leaves_iff (fits : v.Fits) :
    v.leaves.isBusy = true ↔
      v.accepted?.isSome = true ∨ v.found.isBusy = true ∧ ¬ v.IsRelease := by
  cases fits <;> simp [leaves, accepted?, IsRelease, Slot.isBusy]

end Fits

/-- A visit with `p` was there, and all visits since have had `q`. -/
def Since (p q : Visit → Prop) (visits : List Visit) : Prop :=
  ∃ front v between, visits = front ++ v :: between ∧ p v ∧ ∀ u ∈ between, q u

theorem since_cons_iff {p q : Visit → Prop} {v : Visit} {visits : List Visit} :
    Since p q (v :: visits) ↔ (p v ∧ ∀ u ∈ visits, q u) ∨ Since p q visits := by
  constructor
  · rintro ⟨front, w, between, same, here, later⟩
    cases front with
    | nil =>
        cases same
        exact .inl ⟨here, later⟩
    | cons u front =>
        cases same
        exact .inr ⟨front, w, between, rfl, here, later⟩
  · rintro (⟨here, later⟩ | ⟨front, w, between, rfl, here, later⟩)
    · exact ⟨[], v, visits, rfl, here, later⟩
    · exact ⟨v :: front, w, between, rfl, here, later⟩

/-- `Leads slot visits last`: from `slot` the visits lead to `last`, each of them finding what the
one before has left. -/
inductive Leads : Slot → List Visit → Slot → Prop
  | nil {slot : Slot} : Leads slot [] slot
  | cons {v : Visit} {visits : List Visit} {last : Slot} :
      v.Fits → Leads v.leaves visits last → Leads v.found (v :: visits) last

namespace Leads

variable {slot last : Slot} {visits more : List Visit} {v : Visit} {r : Request}

theorem append_iff : Leads slot (visits ++ more) last ↔
    ∃ middle, Leads slot visits middle ∧ Leads middle more last := by
  constructor
  · intro leads
    induction visits generalizing slot with
    | nil => exact ⟨slot, .nil, leads⟩
    | cons v visits ih =>
        cases leads with
        | cons fits rest =>
            obtain ⟨middle, first, second⟩ := ih rest
            exact ⟨middle, .cons fits first, second⟩
  · rintro ⟨middle, first, second⟩
    induction first with
    | nil => exact second
    | cons fits _ ih => exact .cons fits (ih second)

/-- A request that is in the slot was accepted, and nothing has happened to the slot since. -/
theorem accepted_of_ready (leads : Leads slot visits last) (final : last = .ready r) :
    (slot = .ready r ∧ ∀ v ∈ visits, v.IsQuiet) ∨ Since (·.accepted? = some r) IsQuiet visits := by
  induction leads with
  | nil => exact .inl ⟨final, List.forall_mem_nil _⟩
  | cons fits _ ih =>
      rw [since_cons_iff]
      rcases ih final with ⟨ready, quiet⟩ | since
      · rcases fits.of_leaves_ready ready with accepted | ⟨found, still⟩
        · exact .inr (.inl ⟨accepted, quiet⟩)
        · exact .inl ⟨found, List.forall_mem_cons.2 ⟨still, quiet⟩⟩
      · exact .inr (.inr since)

/-- A request in the slot stays there, is taken, or is released before anybody has taken it. -/
theorem fate (leads : Leads slot visits last) (first : slot = .ready r) :
    (last = .ready r ∧ ∀ v ∈ visits, v.IsQuiet) ∨
      ∃ between v rest, visits = between ++ v :: rest ∧ (∀ u ∈ between, u.IsQuiet) ∧
        v.found = .ready r ∧ (v.taken? = some r ∨ v.IsRelease) := by
  induction leads with
  | nil => exact .inl ⟨first, List.forall_mem_nil _⟩
  | @cons v visits _ fits _ ih =>
      rcases fits.of_found_ready first with ⟨ready, still⟩ | ends
      · rcases ih ready with ⟨final, quiet⟩ | ⟨between, w, rest, rfl, quiet, ends⟩
        · exact .inl ⟨final, List.forall_mem_cons.2 ⟨still, quiet⟩⟩
        · exact .inr ⟨v :: between, w, rest, rfl, List.forall_mem_cons.2 ⟨still, quiet⟩, ends⟩
      · exact .inr ⟨[], v, visits, rfl, List.forall_mem_nil _, first, ends⟩

/-- The slot is occupied since an offer was accepted, until it is released. -/
theorem isBusy_iff (leads : Leads slot visits last) :
    last.isBusy = true ↔
      (slot.isBusy = true ∧ ∀ v ∈ visits, ¬ v.IsRelease) ∨
        Since (·.accepted?.isSome = true) (¬ ·.IsRelease) visits := by
  induction leads with
  | nil => simp [Since]
  | cons fits _ ih =>
      rw [ih, fits.isBusy_leaves_iff, since_cons_iff, List.forall_mem_cons]
      tauto

/-- Requests are taken in the order in which they were accepted. -/
theorem taken_sublist (leads : Leads slot visits last) :
    (visits.filterMap taken?).Sublist (slot.pending ++ visits.filterMap accepted?) := by
  induction leads with
  | nil => exact List.nil_sublist _
  | cons fits _ ih =>
      cases fits with
      | accepted | refused | vacancy | looked => exact ih
      | taken => exact ih.cons_cons _
      | released => exact ih.trans (List.sublist_append_right ..)

end Leads

end Visit

/-! ## Steps -/

namespace Monitor

variable {m after : Monitor} {task : Task} {deed : Deed}

/-- What a thread does fits the slot that it finds. -/
theorem fits_perform (performed : m.perform task = some (deed, after)) (thread : Nat) :
    Visit.Fits ⟨thread, task, m.slot, deed⟩ ∧
      Visit.leaves ⟨thread, task, m.slot, deed⟩ = after.slot := by
  obtain ⟨slot, asleep⟩ := m
  cases task with
  | offer r =>
      cases slot with
      | empty =>
          cases performed
          exact ⟨.accepted, rfl⟩
      | ready | running =>
          cases performed
          exact ⟨.refused nofun, rfl⟩
  | await w =>
      cases w with
      | request =>
          cases slot <;> cases performed
          exact ⟨.taken, rfl⟩
      | vacancy =>
          cases slot <;> cases performed
          exact ⟨.vacancy, rfl⟩
  | release =>
      cases performed
      exact ⟨.released, rfl⟩
  | look =>
      cases performed
      exact ⟨.looked, rfl⟩

/-- The sleepers after a visit: all of them notified, or the same as before and none with its wait
over that was not over before. -/
theorem asleep_perform (performed : m.perform task = some (deed, after)) :
    after.asleep = m.notifyAll.asleep ∨
      after.asleep = m.asleep ∧
        ∀ w : Wait, w.isOver m.slot = false → w.isOver after.slot = false := by
  obtain ⟨slot, asleep⟩ := m
  cases task with
  | offer r =>
      cases slot with
      | empty =>
          cases performed
          exact .inl rfl
      | ready | running =>
          cases performed
          exact .inr ⟨rfl, fun _ => id⟩
  | await w =>
      cases w with
      | request =>
          cases slot <;> cases performed
          refine .inr ⟨rfl, fun w _ => ?_⟩
          cases w <;> rfl
      | vacancy =>
          cases slot <;> cases performed
          exact .inr ⟨rfl, fun _ => id⟩
  | release =>
      cases performed
      exact .inl rfl
  | look =>
      cases performed
      exact .inr ⟨rfl, fun _ => id⟩

/-- Only a wait can be put off. -/
theorem perform_eq_none (unperformed : m.perform task = none) :
    ∃ w, task = .await w ∧ m.poll w = none := by
  cases task with
  | offer r =>
      simp only [perform] at unperformed
      split at unperformed <;> cases unperformed
  | await w => exact ⟨w, rfl, Option.map_eq_none_iff.1 unperformed⟩
  | release | look => cases unperformed

/-- What comes of an offer. -/
theorem perform_offer (m : Monitor) (r : Request) :
    ∃ result after, m.perform (.offer r) = some (.offered result, after) ∧
      (result = .ok () ↔ m.slot = .empty) ∧ (result = .error .slotBusy ↔ m.slot ≠ .empty) ∧
      (m.slot ≠ .empty → after = m) := by
  obtain ⟨slot, asleep⟩ := m
  cases slot with
  | empty => exact ⟨_, _, rfl, by simp⟩
  | ready | running => exact ⟨_, _, rfl, by simp⟩

theorem exists_poll {w : Wait} (served : w.isOver m.slot = true) :
    ∃ got after, m.poll w = some (got, after) := by
  cases unanswered : m.poll w with
  | some answer => exact ⟨answer.1, answer.2, rfl⟩
  | none =>
      rw [isOver_of_poll_eq_none unanswered] at served
      cases served

/-- Whoever sleeps without notification still has to wait. -/
def NoneForgotten (m : Monitor) : Prop :=
  ∀ x ∈ m.asleep, x.notified = false → x.wait.isOver m.slot = false

end Monitor

namespace Crowd

variable {c after : Crowd} {visits new : List Visit} {v : Visit}

namespace Steps

theorem leads (steps : c.Steps new after) :
    Visit.Leads c.monitor.slot new after.monitor.slot := by
  cases steps with
  | lock | wake | unlock => exact .nil
  | @act thread _ _ _ _ performed =>
      obtain ⟨fits, leaves⟩ := Monitor.fits_perform performed thread
      refine .cons fits ?_
      rw [leaves]
      exact .nil
  | doze _ entered =>
      rw [(Monitor.enter_eq_none entered).2]
      exact .nil

theorem noneForgotten (steps : c.Steps new after) (before : c.monitor.NoneForgotten) :
    after.monitor.NoneForgotten := by
  cases steps with
  | lock | unlock => exact before
  | wake => exact fun x mem => before x (List.mem_of_mem_erase mem)
  | act _ performed =>
      intro x mem unnotified
      rcases Monitor.asleep_perform performed with all | ⟨same, still⟩
      · rw [all] at mem
        obtain ⟨y, _, rfl⟩ := List.mem_map.1 mem
        cases unnotified
      · rw [same] at mem
        exact still _ (before x mem unnotified)
  | doze _ entered =>
      obtain ⟨unanswered, rfl⟩ := Monitor.enter_eq_none entered
      have waits := Monitor.isOver_of_poll_eq_none unanswered
      intro x mem unnotified
      rcases List.mem_append.1 mem with there | new
      · exact before x there unnotified
      · cases List.mem_singleton.1 new
        exact waits

theorem fits (steps : c.Steps [v] after) : v.Fits ∧ v.found = c.monitor.slot := by
  cases steps with
  | act _ performed => exact ⟨(Monitor.fits_perform performed _).1, rfl⟩

theorem performed (steps : c.Steps [v] after) :
    c.monitor.perform v.task = some (v.deed, after.monitor) := by
  cases steps with
  | act _ performed => exact performed

end Steps

namespace Run

theorem leads (run : Run visits c) : Visit.Leads .empty visits c.monitor.slot := by
  induction run with
  | start => exact .nil
  | step _ steps ih => exact Visit.Leads.append_iff.2 ⟨_, ih, steps.leads⟩

theorem noneForgotten (run : Run visits c) : c.monitor.NoneForgotten := by
  induction run with
  | start => exact fun _ mem => absurd mem List.not_mem_nil
  | step _ steps ih => exact steps.noneForgotten ih

end Run

/-- The lock is given back: its holder can do its work or fall asleep over it. -/
theorem exists_steps_of_holder {thread : Nat} {task : Option Task}
    (holds : c.holder = some (thread, task)) :
    ∃ new after, c.Steps new after ∧
      (after.holder = none ∨ after.holder = some (thread, none)) := by
  cases task with
  | none => exact ⟨[], _, .unlock holds, .inl rfl⟩
  | some task =>
      cases performed : c.monitor.perform task with
      | some result => exact ⟨_, _, .act holds performed, .inr rfl⟩
      | none =>
          obtain ⟨w, rfl, unanswered⟩ := Monitor.perform_eq_none performed
          have entered : c.monitor.enter thread w =
              (none, { c.monitor with asleep := c.monitor.asleep ++ [{ thread, wait := w }] }) := by
            rw [Monitor.enter, unanswered]
          exact ⟨[], _, .doze holds entered, .inl rfl⟩

/-- A sleeper whose wait is over wakes and comes back with what it waited for. -/
theorem exists_steps_of_isOver {x : Sleeper} (free : c.holder = none) (mem : x ∈ c.monitor.asleep)
    (served : x.wait.isOver c.monitor.slot = true) :
    ∃ woken got after, c.Steps [] woken ∧
      woken.Steps [⟨x.thread, .await x.wait, c.monitor.slot, .got got⟩] after := by
  let left : Monitor := { c.monitor with asleep := c.monitor.asleep.erase x }
  obtain ⟨got, after, polled⟩ : ∃ got after, left.poll x.wait = some (got, after) :=
    Monitor.exists_poll served
  have performed : left.perform (.await x.wait) = some (.got got, after) := by
    rw [Monitor.perform, polled]
    rfl
  exact ⟨_, got, _, .wake free mem, .act rfl performed⟩

/-- The hand-off after these visits, as a buffer for one request. -/
structure IsOneSlotBuffer (visits : List Visit) (c : Crowd) : Prop where
  /-- What is taken next was accepted last, and nobody has touched it since. -/
  taken_accepted : ∀ v after r, c.Steps [v] after → v.taken? = some r →
    Visit.Since (·.accepted? = some r) Visit.IsQuiet visits
  /-- Requests are taken in the order in which they were accepted. -/
  in_order : (visits.filterMap Visit.taken?).Sublist (visits.filterMap Visit.accepted?)
  /-- An accepted request is taken, unless it is still in the slot or was released there. -/
  none_lost : ∀ before v later r, visits = before ++ v :: later → v.accepted? = some r →
    (c.monitor.slot = .ready r ∧ ∀ u ∈ later, u.IsQuiet) ∨
      ∃ between w rest, later = between ++ w :: rest ∧ (∀ u ∈ between, u.IsQuiet) ∧
        w.found = .ready r ∧ (w.taken? = some r ∨ w.IsRelease)
  /-- An offer is refused exactly at an occupied slot, and then nothing has changed. -/
  refused_iff : ∀ v after r, c.Steps [v] after → v.task = .offer r →
    ∃ result, v.deed = .offered result ∧ (result = .ok () ↔ c.monitor.slot = .empty) ∧
      (result = .error .slotBusy ↔ c.monitor.slot ≠ .empty) ∧
      (c.monitor.slot ≠ .empty → after.monitor = c.monitor)
  /-- The slot looks occupied exactly if an offer was accepted after the last release. -/
  busy_iff : ∀ v after, c.Steps [v] after → v.task = .look →
    ∃ busy, v.deed = .looked busy ∧
      (busy = true ↔ Visit.Since (·.accepted?.isSome = true) (¬ ·.IsRelease) visits)
  /-- No wake-up is lost. -/
  none_forgotten : ∀ x ∈ c.monitor.asleep, x.notified = false →
    x.wait.isOver c.monitor.slot = false
  /-- Whose wait is over can have what it waits for as soon as the lock is free. -/
  roused : ∀ x ∈ c.monitor.asleep, x.wait.isOver c.monitor.slot = true → c.holder = none →
    ∃ woken got after, c.Steps [] woken ∧
      woken.Steps [⟨x.thread, .await x.wait, c.monitor.slot, .got got⟩] after
  /-- Nobody keeps the lock for ever. -/
  lock_returns : ∀ thread task, c.holder = some (thread, task) →
    ∃ new after, c.Steps new after ∧ (after.holder = none ∨ after.holder = some (thread, none))

end Crowd

/-- However many threads come, whatever they call and whenever they wake, the hand-off is a buffer
for one request. -/
theorem handoff_is_one_slot_buffer {visits : List Visit} {c : Crowd}
    (run : Crowd.Run visits c) : c.IsOneSlotBuffer visits where
  taken_accepted v after r steps taken := by
    obtain ⟨fits, found⟩ := steps.fits
    have ready : c.monitor.slot = .ready r := found ▸ fits.found_eq_of_taken taken
    rcases run.leads.accepted_of_ready ready with ⟨occupied, _⟩ | since
    · cases occupied
    · exact since
  in_order := run.leads.taken_sublist
  none_lost before v later r same accepted := by
    obtain ⟨_, _, rest⟩ := Visit.Leads.append_iff.1 (same ▸ run.leads)
    cases rest with
    | cons fits rest => exact rest.fate (fits.leaves_eq_of_accepted accepted)
  refused_iff v after r steps offers := by
    obtain ⟨result, later, performed, rest⟩ := Monitor.perform_offer c.monitor r
    have same := steps.performed
    rw [offers, performed] at same
    obtain ⟨deed, monitor⟩ := Prod.mk.inj (Option.some.inj same)
    exact ⟨result, deed.symm, monitor ▸ rest⟩
  busy_iff v after steps looks := by
    obtain ⟨fits, found⟩ := steps.fits
    refine ⟨_, fits.deed_eq_of_look looks, ?_⟩
    rw [found, run.leads.isBusy_iff]
    simp [Slot.isBusy]
  none_forgotten := run.noneForgotten
  roused x mem served free := Crowd.exists_steps_of_isOver free mem served
  lock_returns _ _ holds := Crowd.exists_steps_of_holder holds

/-- A thread sleeps until another one's offer is accepted, and has its request. -/
theorem handoff_is_one_slot_buffer_of_sleeper :
    let visits : List Visit :=
      [⟨1, .offer .shutdown, .empty, .offered (.ok ())⟩,
        ⟨0, .await .request, .ready .shutdown, .got (.request .shutdown)⟩]
    ∃ c, Crowd.Run visits c ∧ c.monitor.slot = .running ∧ c.IsOneSlotBuffer visits := by
  have asleep : Crowd.Run [] ⟨⟨.empty, [⟨0, .request, false⟩]⟩, none⟩ :=
    (Crowd.Run.start.step (@Crowd.Steps.lock _ 0 (.await .request) rfl nofun)).step
      (.doze rfl rfl)
  have accepted : Crowd.Run [⟨1, .offer .shutdown, .empty, .offered (.ok ())⟩]
      ⟨⟨.ready .shutdown, [⟨0, .request, true⟩]⟩, none⟩ :=
    ((asleep.step (@Crowd.Steps.lock _ 1 (.offer .shutdown) rfl (by decide))).step
      (.act rfl rfl)).step (.unlock rfl)
  have taken : Crowd.Run _ ⟨⟨.running, []⟩, some (0, none)⟩ :=
    (accepted.step (.wake rfl List.mem_cons_self)).step (.act rfl rfl)
  exact ⟨_, taken, rfl, handoff_is_one_slot_buffer taken⟩

end JobShell
