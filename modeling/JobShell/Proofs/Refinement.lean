import JobShell.Proofs.Agreement
import JobShell.Proofs.Errands

/-!
# The threads of the shell keep to a session

Wherever its threads stand, the shell owes a certain rest of the session: the rest of the line that
is being read, the program that is on its way, or the next round. No step of any thread and no
work of a child changes what is owed, except that a launch is no longer owed once it has begun.
So whatever the shell comes to, however its threads are scheduled, is what the session comes to.

Results:
1. `Session.Leads.trans`: what is owed is followed from step to step.
2. `Shell.InStep.moves`, `Shell.InStep.changes`: every step and every change of the world leads on.
3. `Shell.InStep.leads_of_run`: what is owed later is what is left of what was owed before.
-/

namespace JobShell

open Thread (Input Execution Signals Supervisor Status)

/-! ## What is owed -/

namespace Session

variable {D F W : Type} (b : Behaviour D F) (limits : Limits)

/-- One turn of a session: the next round begins, or a command is launched. -/
inductive Turns : Round D F → Round D F → List Command → Prop
  | begins (v : Surface D F) : Turns (.again v) (round b limits v) []
  | launches (c : Command) (x : Round D F) : Turns (.launched c x) x [c]

/-- `Leads b limits x y commands`: after some turns, in which the commands were launched, what was
owed as `x` is owed as `y`. -/
inductive Leads : Round D F → Round D F → List Command → Prop
  | refl (x : Round D F) : Leads x x []
  | turn {x y z : Round D F} {commands others : List Command} :
      Turns b limits x y commands → Leads y z others → Leads x z (commands ++ others)

/-- What the input thread owes while it has the word. -/
def dueInput (v : Surface D F) : Status Input (Except Fault Unit) → Round D F
  | .running .looking | .running .waiting | .running .listing => .again v
  | .running .prompting => round b limits v
  | .running (.reading r) => readOn b limits r v
  | .running (.complaining message) => refuse message v
  | .running .blank => .again (v.print (Bytes.ofText "\r"))
  | .running (.moving dir) => move b dir v
  | .running (.offering c) => launch b c v
  | .running .endingInput => .finished (.ok ()) (v.print (Bytes.ofText "\n"))
  | .running (.leaving result) | .running (.settingExit result)
  | .running (.offeringShutdown result) | .ended result => .finished result v

/-- What is owed while a child is on its way. -/
def dueErrand (v : Surface D F) : Errand → Round D F
  | .none => .again v
  | .running _ c => attempt b c v
  | .finished _ ending => conclude ending v

/-- What the execution thread owes during a launch. -/
def dueLaunch (z : Setting D F) (c : Command) : Launch → Round D F
  | .forking => launch b c z.surface
  | .shielding _ | .waiting _ => dueErrand b z.surface z.errand
  | .endingLine .. => .again (z.surface.print (Bytes.ofText "\n"))
  | .registering _ | .announcing _ | .raising _ => .again z.surface

/-- What the shell owes in a setting. -/
def due (s : Shell W) (z : Setting D F) : Round D F :=
  match s.execution with
  | .running .awaiting =>
      match s.shared.slot with
      | .ready (.run c) => launch b c z.surface
      | _ => dueInput b limits z.surface s.input
  | .running (.deciding c) => launch b c z.surface
  | .running (.launching c l) => dueLaunch b z c l
  | .running (.settingExit e) | .running (.releasing (some (.error e))) | .ended (.error e) =>
      .finished (.error (.launch e)) z.surface
  | .running (.releasing none) => .again z.surface
  | .running (.releasing (some (.ok ()))) | .ended (.ok ()) =>
      dueInput b limits z.surface s.input

variable {b limits} {x y z : Round D F} {commands others : List Command}

theorem Turns.yields {outcome : Option (Except Fault Unit × Surface D F)} {later : List Command}
    (turns : Turns b limits x y commands) (yields : Yields b limits y outcome later) :
    Yields b limits x outcome (commands ++ later) := by
  cases turns with
  | begins v => exact .again yields
  | launches c => exact .launched yields

namespace Leads

theorem of_eq (same : y = x) : Leads b limits x y [] := by
  rw [same]
  exact .refl x

theorem trans (first : Leads b limits x y commands) (second : Leads b limits y z others) :
    Leads b limits x z (commands ++ others) := by
  induction first with
  | refl => exact second
  | turn turns _ ih =>
      rw [List.append_assoc]
      exact .turn turns (ih second)

/-- What is owed in the end completes what was owed at first. -/
theorem yields {outcome : Option (Except Fault Unit × Surface D F)} {later : List Command}
    (leads : Leads b limits x y commands) (yields : Yields b limits y outcome later) :
    Yields b limits x outcome (commands ++ later) := by
  induction leads with
  | refl => exact yields
  | turn turns _ ih =>
      rw [List.append_assoc]
      exact turns.yields (ih yields)

theorem begins (v : Surface D F) : Leads b limits (.again v) (round b limits v) [] :=
  .turn (.begins v) (.refl _)

theorem launches (c : Command) (v : Surface D F) :
    Leads b limits (launch b c v) (attempt b c v) [c] :=
  .turn (.launches c _) (.refl _)

/-- Once a command has been launched it is owed no more. -/
theorem of_launched {c : Command} (leads : Leads b limits (.launched c x) y commands)
    (launched : commands ≠ []) : ∃ later, Leads b limits x y later := by
  cases leads with
  | refl => exact absurd rfl launched
  | turn turns rest =>
      cases turns
      exact ⟨_, rest⟩

end Leads

theorem StaysForeground.of_leads (foreground : StaysForeground b limits x)
    (leads : Leads b limits x y commands) : StaysForeground b limits y :=
  fun _ yields c mem => foreground _ (leads.yields yields) c (List.mem_append_right _ mem)

theorem dueInput_dispatch (v : Surface D F) (c : Command) :
    dueInput b limits v (.running (if c.isBlank then .blank else Input.dispatch c)) =
      command b c v := by
  obtain ⟨argv, stdout, stdin, background⟩ := c
  cases argv with
  | nil => rfl
  | cons program arguments =>
      simp only [Command.isBlank, List.isEmpty_cons, Bool.false_eq_true, if_false, Input.dispatch,
        Thread.Builtin.ofCommand?, Command.program, List.head?_cons, command]
      by_cases exit : program = Bytes.ofText "exit"
      · simp only [if_pos exit, dueInput]
      · by_cases jobs : program = Bytes.ofText "jobs"
        · simp only [if_neg exit, if_pos jobs, dueInput]
        · by_cases cd : program = Bytes.ofText "cd"
          · simp only [if_neg exit, if_neg jobs, if_pos cd, Command.arguments, List.tail_cons]
            cases directoryArgument arguments <;> rfl
          · simp only [if_neg exit, if_neg jobs, if_neg cd, dueInput]

theorem dueInput_accept (v : Surface D F) (l : Line) :
    dueInput b limits v (.running (Input.accept limits.token l)) = obey b limits v l := by
  cases l with
  | tooLong | endOfFile => rfl
  | text bytes =>
      cases parsed : Command.parse limits.token bytes with
      | error e => simp [Input.accept, obey, parsed, dueInput]
      | ok c =>
          simp only [Input.accept, obey, parsed]
          exact dueInput_dispatch v c

/-- One read takes a line as far as reading it in one go. -/
theorem dueInput_readOn (v : Surface D F) (r : LineReader) :
    dueInput b limits v.read.2 (.running (Input.readOn limits.token r v.read.1)) =
      readOn b limits r v := by
  cases unread : v.unread with
  | nil =>
      have same : { v with unread := [] } = v := by
        rw [← unread]
      simp only [Surface.read, unread, Input.readOn, LineReader.feed, dueInput_accept, readOn,
        LineReader.run, same]
  | cons outcome rest =>
      simp only [Surface.read, unread, Input.readOn, readOn, LineReader.run]
      cases r.feed outcome with
      | more r => rfl
      | line l => exact dueInput_accept ..
      | failed e => rfl

end Session

/-! ## Where the other threads stand -/

namespace Thread

/-- The signal thread has nothing to report and nothing to redraw. -/
def Signals.IsIdle : Status Signals (Except Errno Unit) → Prop
  | .running .awaiting | .running (.reaping .listing) | .running .checkingExit
  | .ended (.ok ()) => True
  | _ => False

/-- The child that the execution thread has started and will wait for. -/
def Execution.child? : Status Execution (Except LaunchError Unit) → Option Pid
  | .running (.launching _ (.shielding pid)) | .running (.launching _ (.waiting pid)) => some pid
  | _ => none

/-- The execution thread is not on the way of a background command. -/
def Execution.IsForeground : Status Execution (Except LaunchError Unit) → Prop
  | .running (.launching c (.shielding _)) => c.background = false
  | .running (.launching _ (.registering _)) | .running (.launching _ (.announcing _))
  | .running (.launching _ (.raising _)) => False
  | _ => True

end Thread

namespace Shell

variable {W : Type}

/-- The result follows from those of the input and of the execution thread alone. -/
def HasOutcome (s : Shell W) (result : Except Fault Unit) : Prop :=
  ∃ r x, s.input = .ended r ∧ s.execution = .ended x ∧
    result = Supervisor.outcome r x (.ok ())

/-- The supervisor has met with no failure of its own and leaves no jobs behind. -/
def ClosesWell (s : Shell W) : Prop :=
  match s.supervisor with
  | .running (.forgetting result) => s.HasOutcome result
  | .ended (result, left) => s.HasOutcome result ∧ left = 0
  | _ => True

/-- A child is on its way while the execution thread will wait for it, and at no other time. -/
def Attends {D F : Type} (b : Behaviour D F) (s : Shell W) (z : Setting D F) : Prop :=
  match Execution.child? s.execution with
  | some pid => z.HasChild b pid
  | none => ∀ pid c, z.errand ≠ .running pid c

/-- The shell is in step with the session that had come to `x`. -/
structure InStep {D F : Type} (b : Behaviour D F) (limits : Limits) (view : W → Setting D F)
    (x : Round D F) (t : Trace) (s : Shell W) : Prop where
  limits_eq : s.limits = limits
  idle : Signals.IsIdle s.signals
  jobs : s.shared.jobs.table = []
  errand : s.Attends b (view s.shared.world)
  foreground : Execution.IsForeground s.execution
  closing : s.ClosesWell
  leads : Session.Leads b limits x (Session.due b limits s (view s.shared.world)) t.launched

end Shell

theorem Thread.Execution.child?_eq_some_iff {x : Status Execution (Except LaunchError Unit)}
    {pid : Pid} : child? x = some pid ↔
      ∃ c, x = .running (.launching c (.shielding pid)) ∨
        x = .running (.launching c (.waiting pid)) := by
  unfold child?
  split <;> simp_all

namespace Shell.Attends

variable {D F W : Type} {b : Behaviour D F} {s : Shell W} {z : Setting D F}

theorem of_alone (alone : Execution.child? s.execution = none)
    (gone : ∀ pid c, z.errand ≠ .running pid c) : s.Attends b z := by
  rw [Attends, alone]
  exact gone

theorem of_child?_none (attends : s.Attends b z) (alone : Execution.child? s.execution = none) :
    ∀ pid c, z.errand ≠ .running pid c := by
  rwa [Attends, alone] at attends

theorem hasChild {pid : Pid} (attends : s.Attends b z)
    (child : Execution.child? s.execution = some pid) : z.HasChild b pid := by
  rwa [Attends, child] at attends

/-- The child on its way is the one that is waited for. -/
theorem child_of_running {pid : Pid} {c : Command} (attends : s.Attends b z)
    (running : z.errand = .running pid c) :
    Execution.child? s.execution = some pid ∧
      ∃ d, s.execution = .running (.launching d (.shielding pid)) ∨
        s.execution = .running (.launching d (.waiting pid)) := by
  have child : Execution.child? s.execution = some pid := by
    cases found : Execution.child? s.execution with
    | none => exact absurd running (attends.of_child?_none found pid c)
    | some p =>
        rcases attends.hasChild found with ⟨_, _, same, _⟩ | ⟨_, finished⟩
        · rw [running] at same
          cases same
          rfl
        · rw [running] at finished
          cases finished
  exact ⟨child, Execution.child?_eq_some_iff.1 child⟩

end Shell.Attends

/-- Before both threads have ended the supervisor has nothing to close. -/
theorem Supervision.closesWell {W : Type} {s : Shell W} {i : Status Input (Except Fault Unit)}
    {x : Status Execution (Except LaunchError Unit)} (supervision : Supervision i x s.supervisor)
    (unfinished : (∃ state, i = .running state) ∨ ∃ state, x = .running state) :
    s.ClosesWell := by
  have halted {r y} (input : i = .ended r) (execution : x = .ended y) : False := by
    rcases unfinished with ⟨state, at_⟩ | ⟨state, at_⟩
    · rw [input] at at_
      cases at_
    · rw [execution] at at_
      cases at_
  unfold Shell.ClosesWell
  cases h : s.supervisor with
  | running v =>
      rw [h] at supervision
      cases supervision with
      | forgetting input execution => exact absurd execution (halted input)
      | _ => trivial
  | ended result =>
      rw [h] at supervision
      cases supervision with
      | ended input execution => exact absurd execution (halted input)

/-! ## Steps -/

theorem Registry.listing_of_table_nil {r : Registry} (none : r.table = []) : r.listing = [] := by
  simp [listing, lines, listed, none]

theorem Registry.pids_of_table_nil {r : Registry} (none : r.table = []) : r.pids = [] := by
  simp [pids, listed, none]

namespace Shell

variable {D F W : Type} {b : Behaviour D F} {world : World W} {outside : W → W → Prop}
  {view : W → Setting D F} {limits : Limits} {origin : Round D F} {t : Trace}
  {s after : Shell W} {e : Event}

/-- The input thread does what it owes. -/
theorem input_due {i : Input} {reply shared} (ordered : s.Coordinated)
    (staged : Staged b world outside view) (jobless : s.shared.jobs.table = [])
    (at_ : s.input = .running i)
    (answered : s.shared.answer world (i.turn s.limits).call = some (reply, shared)) :
    Session.Leads b s.limits (Session.due b s.limits s (view s.shared.world))
      (Session.due b s.limits { s with input := (i.turn s.limits).resume reply, shared }
        (view shared.world)) [] := by
  obtain ⟨limits, ⟨slot, exiting, jobs, w⟩, input, execution, signals, supervisor⟩ := s
  cases at_
  have alternation := ordered.alternation
  cases alternation with
  | offered | serving | failing => cases answered
  | failed dismissed => cases dismissed <;> cases answered <;> exact .refl _
  | stopping =>
      cases answered
      exact .refl _
  | reading free =>
      cases i with
      | looking =>
          cases answered
          exact .begins _
      | prompting =>
          cases answered
          refine .of_eq ?_
          show Session.readOn b limits (.start limits.line)
            (view (world.print Input.prompt w)).surface = Session.round b limits (view w).surface
          rw [staged.print]
          rfl
      | reading r =>
          simp only [Input.turn, Shared.answer, Option.map_eq_some_iff] at answered
          obtain ⟨⟨outcome, w'⟩, read, same⟩ := answered
          cases same
          obtain ⟨told, shown⟩ := staged.readByte _ _ _ read
          refine .of_eq ?_
          show Session.dueInput b limits (view w').surface
            (.running (Input.readOn limits.token r outcome)) = Session.readOn b limits r _
          rw [told, shown]
          exact Session.dueInput_readOn ..
      | complaining message =>
          cases answered
          refine .of_eq ?_
          show Round.again (view (world.complain (textLine message) w)).surface = _
          rw [staged.complain]
          rfl
      | blank =>
          cases answered
          refine .of_eq ?_
          show Round.again (view (world.print (Bytes.ofText "\r") w)).surface = _
          rw [staged.print]
          rfl
      | listing =>
          cases answered
          refine .of_eq ?_
          show Round.again (view (world.print jobs.listing w)).surface =
            Round.again (view w).surface
          rw [staged.print, Registry.listing_of_table_nil jobless, Surface.print_nil]
      | moving dir =>
          cases answered
          obtain ⟨told, shown⟩ := staged.changeDirectory dir w
          refine .of_eq ?_
          show Session.dueInput b limits (view (world.changeDirectory dir w).2).surface
            (((Input.moving dir).turn limits).resume (world.changeDirectory dir w).1) =
              Session.move b dir (view w).surface
          rw [told, shown, Session.move]
          cases b.enter dir (view w).surface with
          | mk reply v => cases reply <;> rfl
      | endingInput =>
          cases answered
          refine .of_eq ?_
          show Round.finished (.ok ()) (view (world.print (Bytes.ofText "\n") w)).surface = _
          rw [staged.print]
          rfl
      | offeringShutdown result => exact absurd free id
      | offering | waiting | leaving | settingExit =>
          cases answered
          exact .refl _

/-- The input thread leaves the child on its way alone. -/
theorem input_errand {i : Input} {reply shared} (staged : Staged b world outside view)
    (answered : s.shared.answer world (i.turn s.limits).call = some (reply, shared)) :
    (view shared.world).errand = (view s.shared.world).errand := by
  cases i with
  | prompting | blank | listing | endingInput =>
      cases answered
      show (view (world.print _ s.shared.world)).errand = _
      rw [staged.print]
  | complaining message =>
      cases answered
      show (view (world.complain _ s.shared.world)).errand = _
      rw [staged.complain]
  | moving dir =>
      cases answered
      show (view (world.changeDirectory dir s.shared.world).2).errand = _
      rw [(staged.changeDirectory dir s.shared.world).2]
  | reading r =>
      simp only [Input.turn, Shared.answer, Option.map_eq_some_iff] at answered
      obtain ⟨⟨outcome, w⟩, read, same⟩ := answered
      cases same
      show (view w).errand = _
      rw [(staged.readByte _ _ _ read).2]
  | offering | offeringShutdown =>
      simp only [Input.turn, Shared.answer] at answered
      split at answered <;> cases answered <;> rfl
  | waiting =>
      simp only [Input.turn, Shared.answer] at answered
      split at answered <;> cases answered
      rfl
  | looking | leaving | settingExit =>
      cases answered
      rfl

namespace InStep

theorem of_execution {x : Status Execution (Except LaunchError Unit)} {shared : Shared W}
    (step : s.InStep b limits view origin t) (jobs : shared.jobs = s.shared.jobs)
    (closing : ClosesWell { s with execution := x, shared })
    (errand : Attends b { s with execution := x, shared } (view shared.world))
    (foreground : Execution.IsForeground x)
    (leads : Session.Leads b limits (Session.due b limits s (view s.shared.world))
      (Session.due b limits { s with execution := x, shared } (view shared.world))
      e.launched?.toList) :
    InStep b limits view origin (t ++ [e]) { s with execution := x, shared } :=
  ⟨step.limits_eq, step.idle, by rw [jobs]; exact step.jobs, errand, foreground, closing, by
    rw [Trace.launched_concat]
    exact step.leads.trans leads⟩

/-- A command that is about to be launched is one that the session launches. -/
theorem background_eq_false {c : Command} (step : s.InStep b limits view origin t)
    (foreground : Session.StaysForeground b limits origin)
    (owed : Session.due b limits s (view s.shared.world) =
      Session.launch b c (view s.shared.world).surface) : c.background = false := by
  have launches : Session.Yields b limits
      (Session.due b limits s (view s.shared.world)) none [c] := by
    rw [owed]
    exact .launched .pause
  exact foreground _ (step.leads.yields launches) c
    (List.mem_append_right _ (List.mem_singleton_self c))

/-- When the wait for a child has ended, its launch has a line to end at most. -/
theorem afterWait_reply_cases (c : Command) (pid : Pid) (ending : Ending) :
    (∃ st, Execution.afterLaunch c (Launch.afterWait pid ending.reply) =
        .running (.launching c (.endingLine pid st))) ∨
      Execution.afterLaunch c (Launch.afterWait pid ending.reply) = .running (.releasing none) ∨
      ∃ e, Execution.afterLaunch c (Launch.afterWait pid ending.reply) =
        .running (.settingExit e) := by
  cases ending with
  | status st =>
      cases death : st.isDeath <;>
      simp [Ending.reply, Launch.afterWait, death, Execution.afterLaunch]
  | failed e final =>
      by_cases lost : e = .noChild
      · simp [Ending.reply, Launch.afterWait, lost, Execution.afterLaunch, Errno.noChild,
          Errno.interrupted]
      · simp [Ending.reply, Launch.afterWait, final, lost, Execution.afterLaunch]

theorem afterWait_child? (c : Command) (pid : Pid) (ending : Ending) :
    Execution.child? (Execution.afterLaunch c (Launch.afterWait pid ending.reply)) = none ∧
      Execution.IsForeground (Execution.afterLaunch c (Launch.afterWait pid ending.reply)) := by
  rcases afterWait_reply_cases c pid ending with ⟨st, next⟩ | next | ⟨e, next⟩ <;>
  · rw [next]
    exact ⟨rfl, trivial⟩

/-- After the wait for a child the rest of its launch is owed. -/
theorem afterWait_due (c : Command) (pid : Pid) (ending : Ending) (z : Setting D F) :
    Session.due b limits
        { s with execution := Execution.afterLaunch c (Launch.afterWait pid ending.reply) } z =
      Session.conclude ending z.surface := by
  cases ending with
  | status st =>
      cases death : st.isDeath <;>
      simp [Ending.reply, Launch.afterWait, death, Execution.afterLaunch, Session.due,
        Session.dueLaunch, Session.conclude]
  | failed e final =>
      by_cases lost : e = .noChild
      · simp [Ending.reply, Launch.afterWait, lost, Execution.afterLaunch, Session.due,
          Session.conclude, Errno.noChild, Errno.interrupted]
      · simp [Ending.reply, Launch.afterWait, final, lost, Execution.afterLaunch, Session.due,
          Session.conclude]

/-- With the fork the command is launched: its errand has begun, or it was refused. -/
theorem forking_moves {c : Command} {reply shared} (step : s.InStep b limits view origin t)
    (staged : Staged b world outside view) (foreground : Session.StaysForeground b limits origin)
    (at_ : s.execution = .running (.launching c .forking))
    (answered : s.shared.answer world (.fork c) = some (reply, shared))
    (closing : ClosesWell
      { s with
        execution := Execution.afterLaunch c ((Launch.forking.turn c).resume reply), shared }) :
    InStep b limits view origin (t ++ [⟨.execution, .fork c, reply⟩])
      { s with
        execution := Execution.afterLaunch c ((Launch.forking.turn c).resume reply), shared } := by
  have owed : Session.due b limits s (view s.shared.world) =
      Session.launch b c (view s.shared.world).surface := by
    simp only [Session.due, at_, Session.dueLaunch]
  cases forked : world.fork c s.shared.world with
  | mk r w =>
      simp only [Shared.answer, forked] at answered
      cases answered
      cases done : b.perform c (view s.shared.world).surface with
      | error e =>
          obtain ⟨told, shown⟩ := staged.refused c s.shared.world e done
          rw [forked] at told shown
          obtain rfl : reply = .error e := told
          replace shown : view w = view s.shared.world := shown
          have errand := step.errand
          rw [Attends, at_] at errand
          have failed : Session.attempt b c (view s.shared.world).surface =
              .finished (.error (.launch (.fork e))) (view s.shared.world).surface := by
            rw [Session.attempt, done]
          refine step.of_execution rfl closing ?_ trivial ?_
          · show ∀ pid d, (view w).errand ≠ .running pid d
            rw [shown]
            exact errand
          · rw [owed]
            show Session.Leads b limits (Session.launch b c (view s.shared.world).surface)
              (.finished (.error (.launch (.fork e))) (view w).surface) [c]
            rw [shown, ← failed]
            exact .launches c _
      | ok done =>
          obtain ⟨pid, told, shown⟩ := staged.started c s.shared.world _ done
          rw [forked] at told shown
          obtain rfl : reply = .ok pid := told
          replace shown : view w = { view s.shared.world with errand := .running pid c } := shown
          refine step.of_execution rfl closing ?_ (step.background_eq_false foreground owed) ?_
          · show (view w).HasChild b pid
            rw [shown]
            exact .inl ⟨c, _, rfl, done⟩
          · rw [owed]
            show Session.Leads b limits (Session.launch b c (view s.shared.world).surface)
              (Session.dueErrand b (view w).surface (view w).errand) [c]
            rw [shown]
            exact .launches c _

/-- The wait tells the ending of the errand, or it is made again. -/
theorem waiting_moves {c : Command} {pid : Pid} {reply shared}
    (step : s.InStep b limits view origin t) (staged : Staged b world outside view)
    (at_ : s.execution = .running (.launching c (.waiting pid)))
    (answered : s.shared.answer world (.waitFor pid {}) = some (reply, shared))
    (closing : ClosesWell
      { s with execution := Execution.afterLaunch c (Launch.afterWait pid reply), shared }) :
    InStep b limits view origin (t ++ [⟨.execution, .waitFor pid {}, reply⟩])
      { s with execution := Execution.afterLaunch c (Launch.afterWait pid reply), shared } := by
  have owed : Session.due b limits s (view s.shared.world) =
      Session.dueLaunch b (view s.shared.world) c (.waiting pid) := by
    simp only [Session.due, at_]
  simp only [Shared.answer, Option.map_eq_some_iff] at answered
  obtain ⟨⟨r, w⟩, waited, same⟩ := answered
  cases same
  rcases staged.waitFor _ _ _ _ waited with ⟨ending, halted, rfl, shown⟩ | ⟨rfl, shown⟩
  · have gone (p : Pid) (d : Command) : (view w).errand ≠ .running p d := by
      rw [shown]
      intro running
      cases running
    have concluded : Session.dueLaunch b (view s.shared.world) c (.waiting pid) =
        Session.conclude ending (view w).surface := by
      rw [Session.dueLaunch, halted, shown]
      rfl
    obtain ⟨alone, front⟩ := afterWait_child? c pid ending
    refine step.of_execution rfl closing (.of_alone alone gone) front ?_
    rw [owed, concluded]
    exact .of_eq (afterWait_due (s := { s with shared := { s.shared with world := w } }) ..)
  · have errand := step.errand
    rw [Attends, at_] at errand
    refine step.of_execution rfl closing ?_ trivial ?_
    · show (view w).HasChild b pid
      rw [shown]
      exact errand
    · rw [owed]
      refine .of_eq ?_
      show Session.dueErrand b (view w).surface (view w).errand = _
      rw [shown]
      rfl

/-- The execution thread does what it owes during a launch. -/
theorem launch_moves {c : Command} {l : Launch} {reply shared}
    (step : s.InStep b limits view origin t) (staged : Staged b world outside view)
    (foreground : Session.StaysForeground b limits origin)
    (at_ : s.execution = .running (.launching c l))
    (answered : s.shared.answer world (l.turn c).call = some (reply, shared))
    (closing : ClosesWell
      { s with execution := Execution.afterLaunch c ((l.turn c).resume reply), shared }) :
    InStep b limits view origin (t ++ [⟨.execution, (l.turn c).call, reply⟩])
      { s with execution := Execution.afterLaunch c ((l.turn c).resume reply), shared } := by
  have errand := step.errand
  have front := step.foreground
  have owed : Session.due b limits s (view s.shared.world) =
      Session.dueLaunch b (view s.shared.world) c l := by
    simp only [Session.due, at_]
  unfold Attends at errand
  rw [at_] at errand front
  cases l with
  | forking => exact step.forking_moves staged foreground at_ answered closing
  | shielding pid =>
      replace front : c.background = false := front
      cases answered
      have goesOn : Execution.afterLaunch c (((Launch.shielding pid).turn c).resume ()) =
          .running (.launching c (.waiting pid)) := by
        simp only [Launch.turn, front, Bool.false_eq_true, if_false]
        rfl
      rw [goesOn] at closing ⊢
      refine step.of_execution rfl closing ?_ trivial ?_
      · show (view (world.blockSignals s.shared.world)).HasChild b pid
        rw [staged.blockSignals]
        exact errand
      · rw [owed]
        refine .of_eq ?_
        show Session.dueErrand b (view (world.blockSignals s.shared.world)).surface
          (view (world.blockSignals s.shared.world)).errand = _
        rw [staged.blockSignals]
        rfl
  | waiting pid => exact step.waiting_moves staged at_ answered closing
  | endingLine pid status =>
      cases answered
      refine step.of_execution rfl closing ?_ trivial ?_
      · show ∀ p d, (view (world.print (Bytes.ofText "\n") s.shared.world)).errand ≠ .running p d
        rw [staged.print]
        exact errand
      · rw [owed]
        refine .of_eq ?_
        show Round.again (view (world.print (Bytes.ofText "\n") s.shared.world)).surface = _
        rw [staged.print]
        rfl
  | registering | announcing | raising => exact absurd front id

theorem execution_moves {x : Execution} {reply shared} (step : s.InStep b limits view origin t)
    (ordered : s.Coordinated) (staged : Staged b world outside view)
    (foreground : Session.StaysForeground b limits origin) (at_ : s.execution = .running x)
    (answered : s.shared.answer world x.turn.call = some (reply, shared)) :
    InStep b limits view origin (t ++ [⟨.execution, x.turn.call, reply⟩])
      { s with execution := x.turn.resume reply, shared } := by
  have closing := ordered.supervision.closesWell
    (s := { s with execution := x.turn.resume reply, shared }) (.inr ⟨x, at_⟩)
  obtain ⟨limits', ⟨slot, exiting, jobs, w⟩, input, execution, signals, supervisor⟩ := s
  cases at_
  have errand := step.errand
  have alternation := ordered.alternation
  cases alternation with
  | reading | stopping => cases answered
  | offered | stopped | failing | closing =>
      cases answered
      exact step.of_execution rfl closing errand trivial (.refl _)
  | serving serves =>
      cases x with
      | awaiting => exact absurd serves id
      | launching c l => exact step.launch_moves staged foreground rfl answered closing
      | deciding c | settingExit e =>
          cases answered
          exact step.of_execution rfl closing errand trivial (.refl _)
      | releasing result =>
          cases result with
          | none =>
              cases answered
              exact step.of_execution rfl closing errand trivial (.refl _)
          | some result => exact absurd serves id

/-- Threads that stand aside change nothing of what is owed. -/
theorem of_aside (step : s.InStep b limits view origin t) (other : e.thread ≠ .execution)
    (kept : after.limits = s.limits ∧ after.input = s.input ∧ after.execution = s.execution)
    (slot : after.shared.slot = s.shared.slot)
    (same : view after.shared.world = view s.shared.world) (idle : Signals.IsIdle after.signals)
    (jobs : after.shared.jobs.table = []) (closing : after.ClosesWell) :
    after.InStep b limits view origin (t ++ [e]) := by
  obtain ⟨limits_eq, input, execution⟩ := kept
  have owed : Session.due b limits after (view after.shared.world) =
      Session.due b limits s (view s.shared.world) := by
    simp only [Session.due, execution, slot, input, same]
  refine ⟨limits_eq.trans step.limits_eq, idle, jobs, ?_, ?_, closing, ?_⟩
  · rw [Attends, same, execution]
    exact step.errand
  · rw [execution]
    exact step.foreground
  · rw [owed, Trace.launched_concat, Event.launched?_of_ne other]
    exact (List.append_nil _).symm ▸ step.leads

theorem signals_moves {g : Signals} {reply shared} (step : s.InStep b limits view origin t)
    (staged : Staged b world outside view) (at_ : s.signals = .running g)
    (answered : s.shared.answer world g.turn.call = some (reply, shared)) :
    InStep b limits view origin (t ++ [⟨.signals, g.turn.call, reply⟩])
      { s with signals := g.turn.resume reply, shared } := by
  have aside : ThreadId.signals ≠ .execution := by decide
  have idle := step.idle
  have closing : ClosesWell { s with signals := g.turn.resume reply, shared } := step.closing
  rw [at_] at idle
  cases g with
  | awaiting =>
      simp only [Signals.turn, Shared.answer, Option.map_eq_some_iff] at answered
      obtain ⟨⟨r, w⟩, taken, same⟩ := answered
      cases same
      obtain ⟨plain, shown⟩ := staged.awaitSignal _ _ _ taken
      refine step.of_aside aside ⟨rfl, rfl, rfl⟩ rfl shown ?_ step.jobs closing
      rcases plain with rfl | ⟨signal, rfl, int, tstp⟩
      · trivial
      · simp only [Signals.turn, Signals.afterWait, Signals.accept, int, tstp, or_self, if_false]
        repeat' split
        all_goals trivial
  | reaping r =>
      cases r with
      | listing =>
          -- without background commands the registry is empty and a pass finds nothing to ask
          cases answered
          refine step.of_aside aside ⟨rfl, rfl, rfl⟩ rfl rfl ?_ step.jobs closing
          show Signals.IsIdle (Signals.afterReap (Reap.next [] s.shared.jobs.pids))
          rw [Registry.pids_of_table_nil step.jobs]
          trivial
      | asking | removing | dropping => exact absurd idle id
  | checkingExit =>
      cases answered
      refine step.of_aside aside ⟨rfl, rfl, rfl⟩ rfl rfl ?_ step.jobs closing
      simp only [Signals.turn]
      split <;> trivial
  | redrawing | reporting => exact absurd idle id

theorem supervisor_moves {v : Supervisor} {reply shared}
    (step : s.InStep b limits view origin t) (ordered : s.Coordinated)
    (staged : Staged b world outside view) (at_ : s.supervisor = .running v)
    (answered : s.answerSupervisor world v.turn.call = some (reply, shared)) :
    InStep b limits view origin (t ++ [⟨.supervisor, v.turn.call, reply⟩])
      { s with supervisor := v.turn.resume reply, shared } := by
  have aside : ThreadId.supervisor ≠ .execution := by decide
  have supervision := ordered.supervision
  have closing := step.closing
  rw [at_] at supervision
  simp only [ClosesWell, at_] at closing
  cases supervision with
  | joiningInput =>
      simp only [Supervisor.turn, answerSupervisor, Option.map_eq_some_iff] at answered
      obtain ⟨_, _, same⟩ := answered
      cases same
      exact step.of_aside aside ⟨rfl, rfl, rfl⟩ rfl rfl step.idle step.jobs trivial
  | looking =>
      cases answered
      refine step.of_aside aside ⟨rfl, rfl, rfl⟩ rfl rfl step.idle step.jobs ?_
      simp only [ClosesWell, Supervisor.turn]
      cases s.shared.exiting <;> trivial
  | joiningExecution =>
      simp only [Supervisor.turn, answerSupervisor, Option.map_eq_some_iff] at answered
      obtain ⟨_, _, same⟩ := answered
      cases same
      exact step.of_aside aside ⟨rfl, rfl, rfl⟩ rfl rfl step.idle step.jobs trivial
  | closing =>
      cases answered
      exact step.of_aside aside ⟨rfl, rfl, rfl⟩ rfl rfl step.idle step.jobs trivial
  | stopping =>
      obtain ⟨sent, shown⟩ := staged.sendStop s.shared.world
      cases answered
      refine step.of_aside aside ⟨rfl, rfl, rfl⟩ rfl shown step.idle step.jobs ?_
      simp only [ClosesWell, Supervisor.turn, sent]
  | @joiningSignals r y input execution =>
      simp only [Supervisor.turn, answerSupervisor, Option.map_eq_some_iff,
        endOf_eq_some_iff] at answered
      obtain ⟨_, found, same⟩ := answered
      cases same
      refine step.of_aside aside ⟨rfl, rfl, rfl⟩ rfl rfl step.idle step.jobs ?_
      have idle := step.idle
      rw [found] at idle
      cases reply with
      | error e => exact absurd idle id
      | ok => exact ⟨r, y, input, execution, rfl⟩
  | forgetting =>
      cases answered
      refine step.of_aside aside ⟨rfl, rfl, rfl⟩ rfl rfl step.idle rfl ⟨closing, ?_⟩
      show s.shared.jobs.size = 0
      rw [Registry.size, step.jobs]
      rfl

theorem input_moves {i : Input} {reply shared} (step : s.InStep b limits view origin t)
    (ordered : s.Coordinated) (staged : Staged b world outside view) (at_ : s.input = .running i)
    (answered : s.shared.answer world (i.turn s.limits).call = some (reply, shared)) :
    InStep b limits view origin (t ++ [⟨.input, (i.turn s.limits).call, reply⟩])
      { s with input := (i.turn s.limits).resume reply, shared } := by
  have closing := ordered.supervision.closesWell
    (s := { s with input := (i.turn s.limits).resume reply, shared }) (.inl ⟨i, at_⟩)
  have jobs : shared.jobs = s.shared.jobs := by
    cases i <;> exact Shared.jobs_answer answered rfl
  have errand := input_errand staged answered
  have leads := input_due ordered staged step.jobs at_ answered
  have same := step.limits_eq
  subst same
  refine ⟨step.limits_eq, step.idle, by rw [jobs]; exact step.jobs, ?_, step.foreground, closing,
    ?_⟩
  · -- the input thread can go on only while no child is waited for
    have alone : Execution.child? s.execution = none := by
      have alternation := ordered.alternation
      rw [at_] at alternation
      rcases (alternation.vacant_of_input_moves answered).2 with waits | ⟨_, ended⟩
      · rw [waits]
        rfl
      · rw [ended]
        rfl
    refine .of_alone alone ?_
    rw [errand]
    exact step.errand.of_child?_none alone
  · rw [Trace.launched_concat, Event.launched?_of_ne (show ThreadId.input ≠ .execution from nofun)]
    exact step.leads.trans leads

theorem moves (step : s.InStep b limits view origin t) (ordered : s.Coordinated)
    (staged : Staged b world outside view) (foreground : Session.StaysForeground b limits origin)
    (moves : s.Moves world e after) : after.InStep b limits view origin (t ++ [e]) := by
  cases moves with
  | input at_ answered => exact step.input_moves ordered staged at_ answered
  | execution at_ answered => exact step.execution_moves ordered staged foreground at_ answered
  | signals at_ answered => exact step.signals_moves staged at_ answered
  | supervisor at_ answered => exact step.supervisor_moves ordered staged at_ answered

/-- When the child has done its work, what was owed of it has become what is owed after it. -/
theorem changes {w : W} (step : s.InStep b limits view origin t)
    (staged : Staged b world outside view) (change : outside s.shared.world w) :
    (s.withWorld w).InStep b limits view origin t := by
  obtain ⟨limits_eq, idle, jobs, errand, foreground, closing, leads⟩ := step
  rcases staged.outside _ _ change with same | ⟨pid, c, ending, v, running, works, shown⟩
  · refine ⟨limits_eq, idle, jobs, ?_, foreground, closing, ?_⟩
    · show s.Attends b (view w)
      rw [same]
      exact errand
    · show Session.Leads b limits _ (Session.due b limits s (view w)) t.launched
      rw [same]
      exact leads
  · obtain ⟨child, waits⟩ := errand.child_of_running running
    refine ⟨limits_eq, idle, jobs, ?_, foreground, closing, ?_⟩
    · show s.Attends b (view w)
      rw [Attends, child, shown]
      exact .inr ⟨ending, rfl⟩
    -- what the child does now is what was owed of it
    · have owed : Session.due b limits s (view w) =
          Session.due b limits s (view s.shared.world) := by
        obtain ⟨d, at_ | at_⟩ := waits <;>
        simp only [Session.due, at_, Session.dueLaunch, shown, running, Session.dueErrand,
          Session.attempt, works]
      show Session.Leads b limits _ (Session.due b limits s (view w)) t.launched
      rw [owed]
      exact leads

/-- A shell that has ended owes nothing but its outcome. -/
theorem due_of_ended {result : Except Fault Unit} {left : Nat}
    (step : s.InStep b limits view origin t) (ordered : s.Coordinated)
    (halted : s.supervisor = .ended (result, left)) :
    left = 0 ∧ Session.due b limits s (view s.shared.world) =
      .finished result (view s.shared.world).surface := by
  have closing := step.closing
  simp only [ClosesWell, halted] at closing
  obtain ⟨⟨r, x, input, execution, rfl⟩, none⟩ := closing
  refine ⟨none, ?_⟩
  have alternation := ordered.alternation
  rw [input, execution] at alternation
  cases x with
  | error e => simp [Session.due, execution, Supervisor.outcome]
  | ok =>
      cases r <;> simp [Session.due, execution, input, Session.dueInput, Supervisor.outcome]

end InStep

end Shell

namespace Run

variable {D F W : Type} {b : Behaviour D F} {world : World W} {outside : W → W → Prop}
  {view : W → Setting D F} {limits : Limits} {w : W} {t u : Trace} {s now : Shell W}
  {origin : Round D F}

/-- A shell that is in step with a session stays in step with it. -/
theorem keeps_step (run : Run world outside s u now) (staged : Staged b world outside view)
    (foreground : Session.StaysForeground b limits origin) (ordered : s.Coordinated)
    (step : s.InStep b limits view origin t) : now.InStep b limits view origin (t ++ u) := by
  have both : now.Coordinated ∧ now.InStep b limits view origin (t ++ u) := by
    refine run.invariant (P := fun u now =>
      now.Coordinated ∧ now.InStep b limits view origin (t ++ u)) ⟨ordered, ?_⟩ ?_ ?_
    · rwa [List.append_nil]
    · rintro u now e after ⟨ordered, step⟩ moves
      rw [← List.append_assoc]
      exact ⟨ordered.moves moves, step.moves ordered staged foreground moves⟩
    · rintro u now w ⟨ordered, step⟩ change
      exact ⟨ordered.withWorld w, step.changes staged change⟩
  exact both.2

/-- The shell is in step with its session throughout a run. -/
theorem inStep (staged : Staged b world outside view) (free : (view w).errand = .none)
    (foreground : Session.IsForeground b limits (view w).surface)
    (run : Run world outside (Shell.boot limits w) t s) :
    s.InStep b limits view (.again (view w).surface) t := by
  refine run.keeps_step staged foreground.again (t := []) (.boot limits w)
    ⟨rfl, trivial, rfl, .of_alone rfl ?_, trivial, trivial, .refl _⟩
  rw [show (Shell.boot limits w).shared.world = w from rfl, free]
  exact nofun

end Run

/-- What is owed later is what is left of what was owed before. -/
theorem Shell.InStep.leads_of_run {D F W : Type} {b : Behaviour D F} {world : World W}
    {outside : W → W → Prop} {view : W → Setting D F} {limits : Limits} {origin : Round D F}
    {t u : Trace} {s now : Shell W} (step : s.InStep b limits view origin t)
    (ordered : s.Coordinated) (staged : Staged b world outside view)
    (foreground : Session.StaysForeground b limits origin) (run : Run world outside s u now) :
    Session.Leads b limits (Session.due b limits s (view s.shared.world))
      (Session.due b limits now (view now.shared.world)) u.launched :=
  (run.keeps_step staged (foreground.of_leads step.leads) ordered (t := [])
    { step with leads := .refl _ }).leads

end JobShell
