import JobShell.Proofs.Course
import JobShell.Proofs.Pass

/-!
# What every signal is answered with

The signal thread waits for a signal, answers it, and waits again. Its whole course is therefore a
list of reactions, each of them a wait with what it returned and what the thread did about it, and
the part that is done of the reaction at hand. What a reaction writes depends on the slot at the
moment of each write, and on nothing that was there before the signal came.

The end of the thread is a matter of one look at the exit flag behind each SIGUSR1. While the flag
is not set the signal leaves no trace. The supervisor sets the flag before it sends the signal, and
a flag that is set stays set, so its own signal always ends the thread.

Results:
1. `Signals.InHand.step`: one call takes the reaction at hand further, or completes it.
2. `Run.signals_course`: in every run of the shell the signal thread follows such a course.
3. `Run.stops_after_sendStop`: a SIGUSR1 taken behind the supervisor's ends the thread.
4. `signals_react`: the acts, the output and the end of the signal thread.
-/

namespace JobShell

open Thread

variable {W : Type}

/-! ## The parts of a pass -/

namespace Act

/-- Asking after a process. -/
abbrev ask (before : Shared W) (pid : Pid) (reply : WaitReply) (after : Shared W) : Act W :=
  ⟨before, .waitFor pid .probe, reply, after⟩

/-- Taking a process out of the registry. -/
abbrev take (before : Shared W) (pid : Pid) (present : Bool) (after : Shared W) : Act W :=
  ⟨before, .untrack pid, present, after⟩

/-- Waiting for a signal. -/
abbrev wait (before : Shared W) (received : Except Errno Signal) (after : Shared W) : Act W :=
  ⟨before, .awaitSignal, received, after⟩

/-- Writing a report, with a prompt behind it if the slot is empty. -/
abbrev tell (before : Shared W) (r : JobReport) (after : Shared W) : Act W :=
  ⟨before, .printByOccupancy [textLine r.text, Bytes.ofText "$ "] [textLine r.text], (), after⟩

end Act

/-- What a pass does about one process, and what it has to report of it. -/
inductive Inquiry (pid : Pid) : List (Act W) → List JobReport → Prop
  | notReady {before after : Shared W} : Inquiry pid [.ask before pid .notReady after] []
  | nothing {before after : Shared W} {status : WaitStatus} :
      JobEvent.ofStatus? status = none → Inquiry pid [.ask before pid (.status status) after] []
  | stays {before after : Shared W} {status : WaitStatus} {event : JobEvent} :
      JobEvent.ofStatus? status = some event → event.isFinal = false →
      Inquiry pid [.ask before pid (.status status) after] [⟨pid, event⟩]
  | ends {before between now after : Shared W} {status : WaitStatus} {event : JobEvent}
      {present : Bool} :
      JobEvent.ofStatus? status = some event → event.isFinal = true →
      Inquiry pid [.ask before pid (.status status) between, .take now pid present after]
        (if present then [⟨pid, event⟩] else [])
  /-- Another one collected the process. -/
  | gone {before between now after : Shared W} {present : Bool} :
      Inquiry pid [.ask before pid (.failed .noChild) between, .take now pid present after] []
  | failed {before after : Shared W} {e : Errno} :
      e ≠ .noChild → Inquiry pid [.ask before pid (.failed e) after] []

/-- What a pass does about some processes in their order, and what it has to report of them. -/
inductive Inquiries : List Pid → List (Act W) → List JobReport → Prop
  | none : Inquiries [] [] []
  | concat {pids : List Pid} {pid : Pid} {asks more : List (Act W)}
      {reports told : List JobReport} :
      Inquiries pids asks reports → Inquiry pid more told →
      Inquiries (pids ++ [pid]) (asks ++ more) (reports ++ told)

/-- How reports are written, and what is written. -/
inductive Told : List JobReport → List (Act W) → Bytes → Prop
  | none : Told [] [] []
  | concat {reports : List JobReport} {r : JobReport} {tells : List (Act W)} {out : Bytes}
      {before after : Shared W} :
      Told reports tells out →
      Told (reports ++ [r]) (tells ++ [.tell before r after])
        (out ++ (Bytes.ofText ("\n[" ++ toString r.pid ++ "]+ " ++ r.event.text ++ "\n") ++
          if before.slot.isBusy then [] else Bytes.ofText "$ "))

/-! ## Reactions -/

/-- `Answers received work out`: when a wait has returned `received`, the thread does `work` and
writes `out` before it waits again. -/
inductive Answers : Except Errno Signal → List (Act W) → Bytes → Prop
  | interrupted : Answers (.error .interrupted) [] []
  | key {s : Signal} {before after : Shared W} :
      s = Signal.int ∨ s = Signal.tstp →
      Answers (.ok s)
        [⟨before, .printByOccupancy [Bytes.ofText "\n$ "] [Bytes.ofText "\n"], (), after⟩]
        (if before.slot.isBusy then Bytes.ofText "\n" else Bytes.ofText "\n$ ")
  | child {s : Shared W} {asks tells : List (Act W)} {reports : List JobReport} {out : Bytes} :
      Inquiries s.jobs.pids asks reports → Told reports tells out →
      Answers (.ok Signal.chld) (⟨s, .trackedPids, s.jobs.pids, s⟩ :: (asks ++ tells)) out
  | stray {s : Shared W} :
      s.exiting = false → Answers (.ok Signal.usr1) [⟨s, .isExiting, false, s⟩] []
  | ignored {s : Signal} :
      s ∉ [Signal.int, Signal.tstp, Signal.chld, Signal.usr1] → Answers (.ok s) [] []

/-- A wait that returned, what the thread did about it, and what it wrote. -/
structure Reaction (W : Type) where
  before : Shared W
  received : Except Errno Signal
  after : Shared W
  work : List (Act W)
  out : Bytes

namespace Reaction

def acts (r : Reaction W) : List (Act W) := .wait r.before r.received r.after :: r.work

def IsWhole (r : Reaction W) : Prop := Answers r.received r.work r.out

end Reaction

namespace Thread.Signals

/-- `InHand work out t`: what the thread has done and written of the reaction at hand, and where it
stands. Nothing comes behind the two ends. -/
inductive InHand : List (Act W) → Bytes → Status Signals (Except Errno Unit) → Prop
  | idle : InHand [] [] (.running .awaiting)
  | key {before after : Shared W} {s : Signal} :
      s = Signal.int ∨ s = Signal.tstp →
      InHand [.wait before (.ok s) after] [] (.running .redrawing)
  | listing {before after : Shared W} :
      InHand [.wait before (.ok Signal.chld) after] [] (.running (.reaping .listing))
  | asking {before after s : Shared W} {asked rest : List Pid} {pid : Pid}
      {asks : List (Act W)} {reports : List JobReport} :
      s.jobs.pids = asked ++ pid :: rest → Inquiries asked asks reports →
      InHand (.wait before (.ok Signal.chld) after :: ⟨s, .trackedPids, s.jobs.pids, s⟩ :: asks) []
        (.running (.reaping (.asking pid rest reports.reverse)))
  | removing {before after s now between : Shared W} {asked rest : List Pid} {pid : Pid}
      {asks : List (Act W)} {reports : List JobReport} {status : WaitStatus} {event : JobEvent} :
      s.jobs.pids = asked ++ pid :: rest → Inquiries asked asks reports →
      JobEvent.ofStatus? status = some event → event.isFinal = true →
      InHand (.wait before (.ok Signal.chld) after :: ⟨s, .trackedPids, s.jobs.pids, s⟩ ::
          (asks ++ [.ask now pid (.status status) between])) []
        (.running (.reaping (.removing ⟨pid, event⟩ rest reports.reverse)))
  | dropping {before after s now between : Shared W} {asked rest : List Pid} {pid : Pid}
      {asks : List (Act W)} {reports : List JobReport} :
      s.jobs.pids = asked ++ pid :: rest → Inquiries asked asks reports →
      InHand (.wait before (.ok Signal.chld) after :: ⟨s, .trackedPids, s.jobs.pids, s⟩ ::
          (asks ++ [.ask now pid (.failed .noChild) between])) []
        (.running (.reaping (.dropping pid rest reports.reverse)))
  | reporting {before after s : Shared W} {asks tells : List (Act W)} {out : Bytes}
      {told rest : List JobReport} {r : JobReport} :
      Inquiries s.jobs.pids asks (told ++ r :: rest) → Told told tells out →
      InHand (.wait before (.ok Signal.chld) after :: ⟨s, .trackedPids, s.jobs.pids, s⟩ ::
          (asks ++ tells)) out
        (.running (.reporting r rest))
  | checking {before after : Shared W} :
      InHand [.wait before (.ok Signal.usr1) after] [] (.running .checkingExit)
  | stopped {before after s : Shared W} :
      s.exiting = true →
      InHand [.wait before (.ok Signal.usr1) after, ⟨s, .isExiting, true, s⟩] [] (.ended (.ok ()))
  | failed {before after : Shared W} {e : Errno} :
      e ≠ .interrupted → InHand [.wait before (.error e) after] [] (.ended (.error e))

/-- The reaction is at hand, or it was completed and the thread waits again. -/
def Settles (work : List (Act W)) (t : Status Signals (Except Errno Unit)) : Prop :=
  (∃ out, InHand work out t) ∨
    t = .running .awaiting ∧ ∃ r : Reaction W, r.IsWhole ∧ r.acts = work

variable {world : World W} {before after s now : Shared W} {work asks tells : List (Act W)}
  {reports told rest : List JobReport} {out : Bytes} {x : Signals}
  {t : Status Signals (Except Errno Unit)}

namespace Settles

theorem of_inHand (inHand : InHand work out t) : Settles work t := .inl ⟨out, inHand⟩

theorem of_answers {received : Except Errno Signal} (answers : Answers received work out) :
    Settles (.wait before received after :: work) (.running .awaiting) :=
  .inr ⟨rfl, ⟨before, received, after, work, out⟩, answers, rfl⟩

/-- After a wait. -/
theorem of_wait (received : Except Errno Signal) :
    Settles [.wait before received after] (afterWait received) := by
  cases received with
  | error e =>
      by_cases interrupted : e = .interrupted
      · subst interrupted
        exact of_answers .interrupted
      · rw [afterWait, if_neg interrupted]
        exact of_inHand (.failed interrupted)
  | ok s =>
      rw [afterWait, accept]
      split
      · next key => exact of_inHand (.key key)
      · next noKey =>
          split
          · next child =>
              subst child
              exact of_inHand .listing
          · next noChild =>
              split
              · next stop =>
                  subst stop
                  exact of_inHand .checking
              · next noStop =>
                  rw [not_or] at noKey
                  refine of_answers (.ignored ?_)
                  simp [noKey, noChild, noStop]

/-- After a report, or at the first one. -/
theorem of_told (asked : Inquiries s.jobs.pids asks (told ++ rest)) (tells_ : Told told tells out) :
    Settles (.wait before (.ok Signal.chld) after :: ⟨s, .trackedPids, s.jobs.pids, s⟩ ::
      (asks ++ tells)) (.running (report rest)) := by
  cases rest with
  | nil =>
      rw [List.append_nil] at asked
      exact of_answers (.child asked tells_)
  | cons r rest => exact of_inHand (.reporting asked tells_)

/-- Between two processes of a pass, or behind the last one. -/
theorem of_asked {asked left : List Pid} (pids : s.jobs.pids = asked ++ left)
    (inquiries : Inquiries asked asks reports) :
    Settles (.wait before (.ok Signal.chld) after :: ⟨s, .trackedPids, s.jobs.pids, s⟩ :: asks)
      (afterReap (Reap.next reports.reverse left)) := by
  cases left with
  | nil =>
      rw [List.append_nil] at pids
      rw [Reap.next, afterReap, List.reverse_reverse]
      have asked : Inquiries s.jobs.pids asks ([] ++ reports) := pids ▸ inquiries
      have whole : Settles (.wait before (.ok Signal.chld) after ::
          ⟨s, .trackedPids, s.jobs.pids, s⟩ :: (asks ++ [])) (.running (report reports)) :=
        of_told asked .none
      rwa [List.append_nil] at whole
  | cons pid left => exact of_inHand (.asking pids inquiries)

/-- When a pass is done with one more process. -/
theorem of_inquiry {asked left : List Pid} {pid : Pid} {more : List (Act W)}
    (pids : s.jobs.pids = asked ++ pid :: left) (inquiries : Inquiries asked asks reports)
    (inquiry : Inquiry pid more told) :
    Settles (.wait before (.ok Signal.chld) after :: ⟨s, .trackedPids, s.jobs.pids, s⟩ ::
      (asks ++ more)) (afterReap (Reap.next (told.reverse ++ reports.reverse) left)) := by
  rw [← List.reverse_append]
  refine of_asked ?_ (inquiries.concat inquiry)
  rw [pids, List.append_assoc, List.singleton_append]

theorem of_ask {asked left : List Pid} {pid : Pid} (pids : s.jobs.pids = asked ++ pid :: left)
    (inquiries : Inquiries asked asks reports) (reply : WaitReply) {between : Shared W} :
    Settles (.wait before (.ok Signal.chld) after :: ⟨s, .trackedPids, s.jobs.pids, s⟩ ::
        (asks ++ [.ask now pid reply between]))
      (afterReap (Reap.afterWait pid left reports.reverse reply)) := by
  cases reply with
  | notReady => exact of_inquiry pids inquiries .notReady
  | failed e =>
      by_cases gone : e = .noChild
      · subst gone
        exact of_inHand (.dropping pids inquiries)
      · rw [Reap.afterWait, if_neg gone]
        exact of_inquiry pids inquiries (.failed gone)
  | status status =>
      cases tells : JobEvent.ofStatus? status with
      | none =>
          simp only [Reap.afterWait, tells]
          exact of_inquiry pids inquiries (.nothing tells)
      | some event =>
          cases final : event.isFinal with
          | true =>
              simp only [Reap.afterWait, tells, final, if_true]
              exact of_inHand (.removing pids inquiries tells final)
          | false =>
              simp only [Reap.afterWait, tells, final]
              exact of_inquiry pids inquiries (.stays tells final)

end Settles

theorem InHand.step {reply : x.turn.call.Reply} (inHand : InHand work out (.running x))
    (answered : now.answer world x.turn.call = some (reply, after)) :
    Settles (work ++ [⟨now, x.turn.call, reply, after⟩]) (x.turn.resume reply) := by
  cases inHand with
  | idle => exact .of_wait reply
  | key key =>
      exact .of_answers (.key key)
  | listing =>
      cases answered
      have pids : after.jobs.pids = [] ++ after.jobs.pids := rfl
      exact .of_asked pids .none
  | asking pids inquiries => exact .of_ask pids inquiries reply
  | @removing _ _ _ _ _ _ rest _ _ reports _ event pids inquiries tells final =>
      simp only [List.cons_append, List.append_assoc, List.nil_append]
      -- the reply tells whether the job was still there, and only then it is reported
      cases reply with
      | true => exact .of_inquiry pids inquiries (.ends tells final)
      | false => exact .of_inquiry pids inquiries (.ends tells final)
  | dropping pids inquiries =>
      simp only [List.cons_append, List.append_assoc, List.nil_append]
      exact .of_inquiry pids inquiries .gone
  | @reporting _ _ _ _ _ _ told rest r inquiries tells =>
      simp only [List.cons_append, List.append_assoc]
      rw [← List.singleton_append, ← List.append_assoc] at inquiries
      exact .of_told inquiries tells.concat
  | checking =>
      cases answered
      cases flag : after.exiting with
      | true => exact .of_inHand (.stopped flag)
      | false => exact .of_answers (.stray flag)

end Thread.Signals

/-! ## What is written, and what is left alone -/

section Frame

open Thread.Signals

variable {world : World W} {work acts : List (Act W)} {out : Bytes}
  {received : Except Errno Signal} {t : Status Signals (Except Errno Unit)}

theorem Inquiry.written_eq {pid : Pid} {reports : List JobReport}
    (inquiry : Inquiry pid work reports) : Act.written work = [] := by
  cases inquiry <;> rfl

theorem Inquiries.written_eq {pids : List Pid} {reports : List JobReport}
    (inquiries : Inquiries pids work reports) : Act.written work = [] := by
  induction inquiries with
  | none => rfl
  | concat _ inquiry ih => rw [Act.written_append, ih, inquiry.written_eq, List.append_nil]

theorem Told.written_eq {reports : List JobReport} (told : Told reports work out) :
    Act.written work = out := by
  induction told with
  | none => rfl
  | @concat _ r _ _ before _ _ ih =>
      rw [Act.written_concat, ih, Act.output, Call.output]
      cases before.slot.isBusy with
      | true => simp [textLine, JobReport.text]
      | false => simp [textLine, JobReport.text, Bytes.ofText_append]

theorem Answers.written_eq (answers : Answers received work out) : Act.written work = out := by
  cases answers with
  | interrupted | stray | ignored => rfl
  | @key _ before =>
      cases busy : before.slot.isBusy <;> simp [Act.written, Act.output, Call.output, busy]
  | child inquiries told =>
      rw [Act.written_cons, Act.written_append, inquiries.written_eq, told.written_eq]
      rfl

theorem Reaction.written_eq {r : Reaction W} (whole : r.IsWhole) : Act.written r.acts = r.out :=
  (Act.written_cons ..).trans whole.written_eq

theorem Thread.Signals.InHand.written_eq (inHand : InHand work out t) :
    Act.written work = out := by
  cases inHand with
  | reporting inquiries told =>
      rw [Act.written_cons, Act.written_cons, Act.written_append, inquiries.written_eq,
        told.written_eq]
      rfl
  | asking _ inquiries =>
      rw [Act.written_cons, Act.written_cons, inquiries.written_eq]
      rfl
  | removing _ inquiries | dropping _ inquiries =>
      rw [Act.written_cons, Act.written_cons, Act.written_append, inquiries.written_eq]
      rfl
  | _ => rfl

/-- The signal thread changes neither the slot nor the exit flag. -/
theorem Thread.Signals.frame (x : Signals) :
    x.turn.call.concernsSlot = false ∧ x.turn.call ≠ .setExiting := by
  cases x with
  | reaping r => cases r <;> exact ⟨rfl, nofun⟩
  | _ => exact ⟨rfl, nofun⟩

/-- What does not answer SIGCHLD does not concern the registry. -/
theorem Answers.concernsJobs_eq (answers : Answers received work out)
    (other : received ≠ .ok Signal.chld) : ∀ d ∈ work, d.call.concernsJobs = false := by
  cases answers with
  | interrupted | ignored => simp
  | key | stray => simp [Call.concernsJobs]
  | child => exact absurd rfl other

theorem Reaction.concernsJobs_eq {r : Reaction W} (whole : r.IsWhole)
    (other : r.received ≠ .ok Signal.chld) : ∀ d ∈ r.acts, d.call.concernsJobs = false := by
  intro d mem
  rcases List.mem_cons.1 mem with rfl | mem
  · rfl
  · exact whole.concernsJobs_eq other d mem

theorem Thread.Signals.InHand.concernsJobs_eq {before after : Shared W}
    (inHand : InHand (.wait before received after :: work) out t)
    (other : received ≠ .ok Signal.chld) :
    ∀ d ∈ Act.wait before received after :: work, d.call.concernsJobs = false := by
  cases inHand with
  | key | checking | stopped | failed => simp [Call.concernsJobs]
  | _ => exact absurd rfl other

end Frame

/-! ## The course of the thread -/

namespace Thread.Signals

/-- The flag that is set is not unset. -/
def KeepsExiting (s after : Shared W) : Prop := s.exiting = true → after.exiting = true

/-- What comes behind a SIGUSR1 that is taken while the exit flag is set: the look at the flag, and
the end. -/
inductive Stops : List (Act W) → Status Signals (Except Errno Unit) → Shared W → Prop
  | looks {now : Shared W} : now.exiting = true → Stops [] (.running .checkingExit) now
  | ended {s now : Shared W} : Stops [⟨s, .isExiting, true, s⟩] (.ended (.ok ())) now

variable {world : World W} {others : Shared W → Shared W → Prop}
  {first now after : Shared W} {acts : List (Act W)} {t : Status Signals (Except Errno Unit)}

theorem reactions_of_course (course : Course world turn others .start first acts t now) :
    ∃ (reactions : List (Reaction W)) (work : List (Act W)) (out : Bytes),
      acts = reactions.flatMap Reaction.acts ++ work ∧ (∀ r ∈ reactions, r.IsWhole) ∧
        InHand work out t := by
  refine course.invariant (P := fun acts t _ => ∃ reactions work out,
    acts = reactions.flatMap Reaction.acts ++ work ∧ (∀ r ∈ reactions, r.IsWhole) ∧
      InHand work out t) ⟨[], [], [], rfl, by simp, .idle⟩ ?_ fun same _ => same
  rintro acts x now after reply ⟨reactions, work, out, rfl, whole, inHand⟩ answered
  rw [List.append_assoc]
  rcases inHand.step answered with ⟨out, inHand⟩ | ⟨waits, r, last, same⟩
  · exact ⟨reactions, _, out, rfl, whole, inHand⟩
  · refine ⟨reactions ++ [r], [], [], ?_, ?_, waits ▸ .idle⟩
    · rw [← same, List.flatMap_append, List.flatMap_singleton, List.append_nil]
    · simpa [or_imp, forall_and] using ⟨whole, last⟩

theorem Stops.step {behind : List (Act W)} {x : Signals} {reply : x.turn.call.Reply}
    (stops : Stops behind (.running x) now)
    (answered : now.answer world x.turn.call = some (reply, after)) :
    Stops (behind ++ [⟨now, x.turn.call, reply, after⟩]) (x.turn.resume reply) after := by
  cases stops with
  | looks set =>
      cases answered
      change Stops [⟨now, .isExiting, now.exiting, now⟩]
        (if now.exiting then .ended (.ok ()) else .running .awaiting) now
      rw [set]
      exact .ended

theorem Stops.keep {behind : List (Act W)} (stops : Stops behind t now)
    (keeps : KeepsExiting now after) : Stops behind t after := by
  cases stops with
  | looks set => exact .looks (keeps set)
  | ended => exact .ended

/-- From the look on, with the flag set. -/
theorem Stops.of_course (keeps : ∀ {s after}, others s after → KeepsExiting s after)
    (set : first.exiting = true)
    (course : Course world turn others .checkingExit first acts t now) : Stops acts t now :=
  course.invariant (.looks set) (fun stops answered => stops.step answered)
    fun stops changes => stops.keep (keeps changes)

theorem stops_of_course (keeps : ∀ {s after}, others s after → KeepsExiting s after)
    (course : Course world turn others .start first acts t now) :
    ∀ front before after behind,
      acts = front ++ .wait before (.ok Signal.usr1) after :: behind → after.exiting = true →
      Stops behind t now := by
  refine course.invariant (P := fun acts t now => ∀ front before after behind,
    acts = front ++ .wait before (.ok Signal.usr1) after :: behind → after.exiting = true →
      Stops behind t now) (by simp) ?_ ?_
  · intro acts x now after reply ih answered front before between behind same set
    rcases Run.split_concat same with ⟨_, this, rfl⟩ | ⟨rest, rfl, earlier⟩
    · -- the act just done is the wait
      cases x with
      | awaiting =>
          cases this
          exact .looks set
      | reaping r => cases r <;> cases this
      | _ => cases this
    · exact (ih front before between rest earlier set).step answered
  · intro acts t now after ih changes front before between behind same set
    exact (ih front before between behind same set).keep (keeps changes)

/-- Only waiting for a signal and asking after a process may take a while. -/
theorem exists_answer (x : Signals) (now : Shared W) :
    x = .awaiting ∨ (∃ pid rest noted, x = .reaping (.asking pid rest noted)) ∨
      ∃ reply after, now.answer world x.turn.call = some (reply, after) := by
  cases x with
  | awaiting => exact .inl rfl
  | reaping r =>
      cases r with
      | asking pid rest noted => exact .inr (.inl ⟨pid, rest, noted, rfl⟩)
      | _ => exact .inr (.inr ⟨_, _, rfl⟩)
  | _ => exact .inr (.inr ⟨_, _, rfl⟩)

end Thread.Signals

/-! ## The thread in a run of the shell -/

/-- The events of one thread. -/
def Trace.of (thread : ThreadId) (t : Trace) : Trace := t.filter (·.thread = thread)

/-- The event that an act of a thread leaves behind. -/
def Act.event (thread : ThreadId) (d : Act W) : Event := ⟨thread, d.call, d.reply⟩

namespace Thread.Supervisor

theorem eq_closing_of_resume {v : Supervisor} {reply : v.turn.call.Reply}
    {input : Except Fault Unit} {execution : Except LaunchError Unit}
    (next : v.turn.resume reply = .running (.stopping input execution)) :
    v = .closing input execution := by
  cases v with
  | closing =>
      cases next
      rfl
  | looking input => cases reply <;> cases next
  | stopping input execution =>
      cases reply <;> cases next
  | _ => cases next

theorem eq_stopping_of_call {v : Supervisor} (sends : v.turn.call = .sendStop) :
    ∃ input execution, v = .stopping input execution := by
  cases v with
  | stopping input execution => exact ⟨input, execution, rfl⟩
  | _ => cases sends

end Thread.Supervisor

namespace Run

variable {world : World W} {outside : W → W → Prop} {s now : Shell W} {t : Trace}

/-- In a run of the shell the signal thread follows a course, and the flag stays set in it. -/
theorem signals_course {x : Signals} (run : Run world outside s t now)
    (starts : s.signals = .running x) :
    ∃ acts, Course world Signals.turn Signals.KeepsExiting x s.shared acts now.signals
        now.shared ∧ acts.map (Act.event .signals) = t.of .signals := by
  refine run.invariant (P := fun t now => ∃ acts, Course world Signals.turn Signals.KeepsExiting
    x s.shared acts now.signals now.shared ∧
      acts.map (Act.event .signals) = t.of .signals) ⟨[], starts ▸ .start, rfl⟩ ?_ ?_
  · rintro t now e after ⟨acts, course, same⟩ moves
    by_cases own : e.thread = .signals
    · cases moves with
      | @signals g reply shared at_ answered =>
          rw [at_] at course
          refine ⟨_, course.call answered, ?_⟩
          rw [List.map_append, same]
          simp [Trace.of, Act.event]
      | _ => cases own
    · have still : after.signals = now.signals := by
        cases moves <;> first | rfl | exact absurd rfl own
      refine ⟨acts, still ▸ course.others moves.exiting_of_exiting, ?_⟩
      rw [same]
      simp [Trace.of, own]
  · rintro t now w ⟨acts, course, same⟩ _
    exact ⟨acts, course.others id, same⟩

/-- When the supervisor sends its SIGUSR1 the exit flag is set. -/
theorem exiting_of_sendStop (run : Run world outside s t now)
    (starts : s.supervisor = .running .start) {r : Except Errno Unit}
    (sent : ⟨.supervisor, .sendStop, r⟩ ∈ t) : now.shared.exiting = true := by
  have both : ((∃ input execution, now.supervisor = .running (.stopping input execution)) →
      now.shared.exiting = true) ∧
        ((∃ r, ⟨.supervisor, .sendStop, r⟩ ∈ t) → now.shared.exiting = true) := by
    refine run.invariant (P := fun t now =>
      ((∃ input execution, now.supervisor = .running (.stopping input execution)) →
        now.shared.exiting = true) ∧
          ((∃ r, ⟨.supervisor, .sendStop, r⟩ ∈ t) → now.shared.exiting = true)) ?_ ?_ ?_
    · refine ⟨?_, by simp⟩
      rintro ⟨input, execution, at_⟩
      cases starts.symm.trans at_
    · rintro t now e after ⟨stops, sent⟩ moves
      refine ⟨?_, ?_⟩
      · rintro ⟨input, execution, at_⟩
        by_cases own : e.thread = .supervisor
        · cases moves with
          | supervisor _ answered =>
              cases Supervisor.eq_closing_of_resume at_
              cases answered
              rfl
          | _ => cases own
        · have still : after.supervisor = now.supervisor := by
            cases moves <;> first | rfl | exact absurd rfl own
          exact moves.exiting_of_exiting (stops ⟨input, execution, still ▸ at_⟩)
      · rintro ⟨r, mem⟩
        rcases List.mem_append.1 mem with mem | last
        · exact moves.exiting_of_exiting (sent ⟨r, mem⟩)
        · cases List.mem_singleton.1 last
          have next : now.call? .supervisor = some .sendStop := moves.call?_eq
          cases at_ : now.supervisor with
          | ended result => simp [Shell.call?, at_] at next
          | running v =>
              simp only [Shell.call?, at_, Option.some.injEq] at next
              obtain ⟨input, execution, rfl⟩ := Supervisor.eq_stopping_of_call next
              exact moves.exiting_of_exiting (stops ⟨input, execution, at_⟩)
    · exact fun same _ => same
  exact both.2 ⟨r, sent⟩

/-- A SIGUSR1 that is taken behind the supervisor's is the last signal. -/
theorem stops_after_sendStop (run : Run world outside s t now)
    (starts : s.supervisor = .running .start) {before during behind : Trace}
    {r : Except Errno Unit}
    (same : t = before ++ ⟨.supervisor, .sendStop, r⟩ ::
      (during ++ ⟨.signals, .awaitSignal, Except.ok Signal.usr1⟩ :: behind)) :
    ∃ acts : List (Act W), acts.map (Act.event .signals) = behind.of .signals ∧
      Signals.Stops acts now.signals now.shared := by
  rw [← List.cons_append, ← List.append_assoc] at same
  obtain ⟨waits, took, front, moves, back⟩ := run.at_event same
  have set : waits.shared.exiting = true :=
    front.exiting_of_sendStop starts (List.mem_append_right _ List.mem_cons_self)
  have checks : took.signals = .running .checkingExit := by
    generalize taken : (⟨.signals, .awaitSignal, Except.ok Signal.usr1⟩ : Event) = e at moves
    cases moves with
    | @signals g _ _ at_ answered =>
        cases g with
        | awaiting =>
            cases taken
            rfl
        | reaping pass => cases pass <;> cases taken
        | _ => cases taken
    | _ => cases taken
  obtain ⟨acts, course, events⟩ := back.signals_course checks
  exact ⟨acts, events, .of_course id (moves.exiting_of_exiting set) course⟩

end Run

/-- What a course of the signal thread comes to: its reactions, and what it has done and written of
the one at hand. -/
structure Reacts (world : World W) (acts : List (Act W))
    (t : Status Signals (Except Errno Unit)) (now : Shared W) (reactions : List (Reaction W))
    (work : List (Act W)) (out : Bytes) : Prop where
  acts_eq : acts = reactions.flatMap Reaction.acts ++ work
  answered : ∀ d ∈ acts, d.IsAnswered world
  whole : ∀ r ∈ reactions, r.IsWhole
  inHand : Signals.InHand work out t
  written_eq : Act.written acts = reactions.flatMap Reaction.out ++ out
  slot_eq : ∀ d ∈ acts, d.after.slot = d.before.slot
  exiting_eq : ∀ d ∈ acts, d.after.exiting = d.before.exiting
  /-- The registry is changed by nothing but reactions to SIGCHLD. -/
  jobs_eq : ∀ r ∈ reactions, r.received ≠ .ok Signal.chld →
    ∀ d ∈ r.acts, d.after.jobs = d.before.jobs
  jobs_inHand : ∀ before received after rest, work = .wait before received after :: rest →
    received ≠ .ok Signal.chld → ∀ d ∈ work, d.after.jobs = d.before.jobs
  /-- A SIGUSR1 that is taken while the exit flag is set is the last signal. -/
  stops : ∀ front before after behind,
    acts = front ++ .wait before (.ok Signal.usr1) after :: behind → after.exiting = true →
    Signals.Stops behind t now
  goesOn : ∀ x, t = .running x →
    x = .awaiting ∨ (∃ pid rest noted, x = .reaping (.asking pid rest noted)) ∨
      ∃ reply after, now.answer world x.turn.call = some (reply, after)

open Signals in
/-- Whatever signals come, and whatever is changed around it, the signal thread answers each signal
on its own and ends at the first SIGUSR1 behind which it finds the exit flag set; in the shell, the
supervisor's is one. -/
theorem signals_react {world : World W} {outside : W → W → Prop} {limits : Limits} {w : W} :
    (∀ (others : Shared W → Shared W → Prop) (first now : Shared W) (acts : List (Act W))
        (t : Status Signals (Except Errno Unit)),
      (∀ s after, others s after → KeepsExiting s after) →
      Course world turn others .start first acts t now →
      ∃ reactions work out, Reacts world acts t now reactions work out) ∧
    ∀ (t : Trace) (now : Shell W), Run world outside (Shell.boot limits w) t now →
      (∃ acts, Course world turn KeepsExiting .start (Shell.boot limits w).shared acts
        now.signals now.shared ∧ acts.map (Act.event .signals) = t.of .signals) ∧
      ∀ (before during behind : Trace) (r : Except Errno Unit),
        t = before ++ ⟨.supervisor, .sendStop, r⟩ ::
          (during ++ ⟨.signals, .awaitSignal, Except.ok Signal.usr1⟩ :: behind) →
        ∃ acts : List (Act W), acts.map (Act.event .signals) = behind.of .signals ∧
          Stops acts now.signals now.shared := by
  refine ⟨?_, ?_⟩
  · intro others first now acts t keeps course
    obtain ⟨reactions, work, out, same, whole, inHand⟩ := reactions_of_course course
    have answered := course.answered
    have unconcerned (d : Act W) (mem : d ∈ acts) :
        d.call.concernsSlot = false ∧ d.call ≠ .setExiting := by
      obtain ⟨x, call⟩ := course.exists_turn d mem
      rw [call]
      exact x.frame
    refine ⟨reactions, work, out, ?_⟩
    exact {
      acts_eq := same
      answered
      whole
      inHand
      written_eq := by
        rw [same, Act.written_append, inHand.written_eq, Act.written, List.flatMap_assoc]
        congr 1
        exact List.flatMap_congr fun r mem => Reaction.written_eq (whole r mem)
      slot_eq d mem := (answered d mem).slot_eq (unconcerned d mem).1
      exiting_eq d mem := (answered d mem).exiting_eq (unconcerned d mem).2
      jobs_eq r mem other d within :=
        (answered d (same ▸ List.mem_append_left _ (List.mem_flatMap.2 ⟨r, mem, within⟩))).jobs_eq
          (Reaction.concernsJobs_eq (whole r mem) other d within)
      jobs_inHand before received after rest begins other d within := by
        refine (answered d (same ▸ List.mem_append_right _ within)).jobs_eq ?_
        subst begins
        exact inHand.concernsJobs_eq other d within
      stops := stops_of_course (fun {s after} => keeps s after) course
      goesOn x _ := x.exists_answer now }
  · intro t now run
    exact ⟨run.signals_course rfl, fun _ _ _ _ same => run.stops_after_sendStop rfl same⟩

/-- Signals that are still to come, and what was written. -/
structure Watch where
  signals : List (Except Errno Signal)
  written : Bytes := []

/-- A world without input, in which each process has one answer to all questions after it. -/
def World.watch (reply : Pid → WaitReply) : World Watch where
  print bs v := { v with written := v.written ++ bs }
  complain _ v := v
  readByte v := some (.endOfFile, v)
  changeDirectory _ v := (.ok (), v)
  fork _ v := (.error .wouldBlock, v)
  blockSignals v := v
  waitFor pid _ v := some (reply pid, v)
  reserve v := (.ok (), v)
  raiseChild v := v
  awaitSignal v :=
    match v.signals with
    | [] => none
    | received :: rest => some (received, { v with signals := rest })
  sendStop v := (.ok (), { v with signals := v.signals ++ [.ok .usr1] })

/-- An interrupt, a broken wait, a stop while a command runs, a SIGUSR1 that means nothing, a job
that ended, another one that stopped, a signal that is ignored, and the SIGUSR1 that ends the
thread. -/
theorem signals_react_of_all_kinds :
    let reply : Pid → WaitReply
      | 1 => .status (.exited 4)
      | _ => .status (.stopped Signal.tstp)
    let first : Shared Watch :=
      { jobs := Registry.insert {} 1 "a"
        world := { signals := [.ok .int, .error .interrupted, .ok .tstp, .ok .usr1, .ok .chld,
          .ok .chld, .ok .winch, .ok .usr1] } }
    let out := Bytes.ofText "\n$ \n\n[1]+ Exit 4\n$ \n[2]+ Stopped\n$ "
    (∃ acts now reactions work, Course (.watch reply) Signals.turn Signals.KeepsExiting .start
        first acts (.ended (.ok ())) now ∧ now.world.written = out ∧
      Reacts (.watch reply) acts (.ended (.ok ())) now reactions work [] ∧
      reactions.flatMap Reaction.out = out) ∧
    ∃ t now, Run (.watch reply) Eq (Shell.boot {} { signals := [] }) t now ∧
      now.signals = .ended (.ok ()) ∧
      ∃ acts, Course (.watch reply) Signals.turn Signals.KeepsExiting .start
        (Shell.boot {} { signals := [] }).shared acts now.signals now.shared ∧
        acts.map (Act.event .signals) = t.of .signals := by
  intro reply first out
  have keeps : ∀ s after : Shared Watch, Signals.KeepsExiting s after →
      Signals.KeepsExiting s after := fun _ _ => id
  obtain ⟨follows, inRun⟩ := @signals_react _ (.watch reply) Eq {} { signals := [] }
  refine ⟨?_, ?_⟩
  · let steps : List (Nat × (Shared Watch → Shared Watch)) :=
      [(3, fun s => { s with slot := .running }), (4, fun s => { s with slot := .empty }),
        (5, fun s => { s with jobs := Registry.insert {} 2 "b" }),
        (4, fun s => { s with exiting := true }), (3, id)]
    have allowed : ∀ step ∈ steps, ∀ s, Signals.KeepsExiting s (step.2 s) := by
      simp +contextual [steps, Signals.KeepsExiting]
    have made : (Thread.callsAround (.watch reply) Signals.turn steps (.running .start) first).any
        (fun (acts, t, now) => decide (Shell.endOf t = some (.ok ())) &&
          (decide (now.world.written = out) && decide (Act.written acts = out))) = true := by
      decide +kernel
    obtain ⟨⟨acts, t, now⟩, made, found⟩ := (Option.any_eq_true _ _).1 made
    simp only [Bool.and_eq_true, decide_eq_true_eq, Shell.endOf_eq_some_iff] at found
    obtain ⟨rfl, printed, written⟩ := found
    have course : Course (.watch reply) Signals.turn Signals.KeepsExiting .start first
        ([] ++ acts) (.ended (.ok ())) now := Course.start.callsAround allowed made
    obtain ⟨reactions, work, more, reacts⟩ := follows _ _ _ _ _ keeps course
    obtain rfl : more = [] := by
      cases reacts.inHand
      rfl
    refine ⟨_, now, reactions, work, course, printed, reacts, ?_⟩
    rw [← List.append_nil (reactions.flatMap _), ← reacts.written_eq]
    exact written
  · let order : List ThreadId :=
      .replicate 7 .input ++ .replicate 2 .execution ++ .replicate 5 .supervisor ++
        .replicate 2 .signals
    have played : ((Shell.boot {} { signals := [] }).play (.watch reply) order).any
        (fun (_, s) => decide (Shell.endOf s.signals = some (.ok ()))) = true := by
      decide +kernel
    obtain ⟨⟨t, now⟩, played, ended⟩ := (Option.any_eq_true _ _).1 played
    have run : Run (.watch reply) Eq (Shell.boot {} { signals := [] }) ([] ++ t) now :=
      Run.start.play played
    refine ⟨_, now, run, ?_, (inRun _ _ run).1⟩
    exact Shell.endOf_eq_some_iff.1 (of_decide_eq_true ended)

end JobShell
