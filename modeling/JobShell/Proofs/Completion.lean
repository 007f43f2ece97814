import JobShell.Proofs.Ending

/-!
# A session comes to its end

What the shell owes does not stay owed. Wherever its threads stand, one of them can go on and come
nearer to the next turn of the session, if the shell is not on its way out already. A session that
ends has so many turns and no more, so the shell can always come to an end, and the end it comes to
is the outcome of the session.

Results:
1. `Shell.InStep.may_proceed`: the shell is on its way out, or it can come nearer to the next turn.
2. `Run.may_finish`: while the rest of the session ends, the shell may come to its end.
3. `session_refined`: the surface, the result and the launches of a shell that has ended are those
   of the session, and where the session ends the shell may end.
-/

namespace JobShell

open Thread (Input Execution Signals Supervisor Status Turn)

/-! ## The way to the next turn -/

namespace Thread

/-- The most steps of the input thread before it begins a round, hands over a command or leaves. -/
def Input.toGo (unread : Source) : Status Input (Except Fault Unit) → Nat
  | .running .prompting => unread.length + 7
  | .running (.reading _) => unread.length + 6
  | .running (.offering _) => 5
  | .running (.moving _) => 2
  | .running (.complaining _) | .running .blank | .running .listing | .running .waiting => 1
  | _ => 0

theorem Input.toGo_accept_le (unread : Source) (maxToken : Nat) (l : Line) :
    toGo unread (.running (accept maxToken l)) ≤ 5 := by
  unfold accept dispatch
  repeat' split
  all_goals simp [toGo]

/-- A read outcome is used up or ends the line. -/
theorem Input.toGo_readOn_lt {D F : Type} (v : Surface D F) (maxToken : Nat) (r : LineReader) :
    toGo v.read.2.unread (.running (readOn maxToken r v.read.1)) <
      toGo v.unread (.running (.reading r)) := by
  have accepted (unread : Source) (l : Line) := toGo_accept_le unread maxToken l
  cases left : v.unread with
  | nil =>
      simp only [Surface.read, left, readOn, LineReader.feed]
      exact Nat.lt_succ_of_le (accepted [] r.atEnd)
  | cons outcome rest =>
      simp only [Surface.read, left, readOn]
      cases r.feed outcome with
      | more r => simp [toGo]
      | line l => exact Nat.lt_of_le_of_lt (accepted rest l) (by simp [toGo])
      | failed e => simp [toGo]

end Thread

namespace Shell

variable {W : Type}

/-- The most steps of the thread that has the word before the session takes a turn or the two loops
are on their way out. -/
def toGo (s : Shell W) (unread : Source) : Nat :=
  match s.execution with
  | .running .awaiting =>
      match s.shared.slot with
      | .ready _ => 4
      | _ => Input.toGo unread s.input
  | .running (.launching _ (.shielding _)) => 5
  | .running (.launching _ (.waiting _)) => 4
  | .running (.launching _ (.endingLine ..)) | .running (.deciding _) => 3
  | .running (.releasing none) => 2
  | _ => 0

/-- The session has taken a turn since, or the next one is nearer. -/
def Advances {D F : Type} (b : Behaviour D F) (limits : Limits) (view : W → Setting D F)
    (s after : Shell W) : Prop :=
  (∃ y commands others,
    Session.Turns b limits (Session.due b limits s (view s.shared.world)) y commands ∧
      Session.Leads b limits y (Session.due b limits after (view after.shared.world)) others) ∨
    after.toGo (view after.shared.world).surface.unread <
      s.toGo (view s.shared.world).surface.unread

/-- The shell may go on and come nearer to the end of the session. -/
def MayAdvance {D F : Type} (b : Behaviour D F) (limits : Limits) (world : World W)
    (outside : W → W → Prop) (view : W → Setting D F) (s : Shell W) : Prop :=
  ∃ u after, Run world outside s u after ∧ s.Advances b limits view after

/-- The shell may come to its end. -/
def MayFinish (world : World W) (outside : W → W → Prop) (s : Shell W) : Prop :=
  ∃ u after result left, Run world outside s u after ∧ after.supervisor = .ended (result, left)

end Shell

/-- Changes from outside, one after the other. -/
theorem Run.changes {W : Type} {world : World W} {outside : W → W → Prop} {s now : Shell W}
    {t : Trace} {w : W} (run : Run world outside s t now)
    (changes : Relation.ReflTransGen outside now.shared.world w) :
    Run world outside s t (now.withWorld w) := by
  induction changes with
  | refl => exact run
  | tail _ change ih => exact ih.outside change

namespace Shell

variable {D F W : Type} {b : Behaviour D F} {limits : Limits} {world : World W}
  {outside : W → W → Prop} {view : W → Setting D F} {s after : Shell W} {e : Event}

namespace MayFinish

theorem of_run {u : Trace} (run : Run world outside s u after)
    (finish : after.MayFinish world outside) : s.MayFinish world outside := by
  obtain ⟨v, last, result, left, onward, ended⟩ := finish
  exact ⟨u ++ v, last, result, left, run.trans onward, ended⟩

theorem of_mayEnd {result : Except Fault Unit} (ends : s.MayEnd world result) :
    s.MayFinish world outside := by
  obtain ⟨u, last, run, left, ended⟩ := ends
  exact ⟨u, last, result, left, run.mono (fun _ _ never => never.elim), ended⟩

end MayFinish

namespace MayAdvance

theorem of_move (moves : s.Moves world e after)
    (nearer : after.toGo (view after.shared.world).surface.unread <
      s.toGo (view s.shared.world).surface.unread) :
    s.MayAdvance b limits world outside view :=
  ⟨_, after, .move .start moves, .inr nearer⟩

theorem of_turn {y : Round D F} {commands others : List Command} (moves : s.Moves world e after)
    (turns : Session.Turns b limits (Session.due b limits s (view s.shared.world)) y commands)
    (leads : Session.Leads b limits y (Session.due b limits after (view after.shared.world))
      others) :
    s.MayAdvance b limits world outside view :=
  ⟨_, after, .move .start moves, .inl ⟨y, commands, others, turns, leads⟩⟩

/-- The step may have to wait for a change that leaves the session as it is. -/
theorem of_changes {w : W} (changes : Relation.ReflTransGen outside s.shared.world w)
    (same : view w = view s.shared.world)
    (later : (s.withWorld w).MayAdvance b limits world outside view) :
    s.MayAdvance b limits world outside view := by
  obtain ⟨u, after, run, advances⟩ := later
  refine ⟨[] ++ u, after, (Run.start.changes changes).trans run, ?_⟩
  have owed : Session.due b limits (s.withWorld w) (view w) =
      Session.due b limits s (view s.shared.world) := by
    rw [same]
    rfl
  unfold Advances at advances ⊢
  rw [← owed, ← same]
  exact advances

/-- The input thread has the word, and its step leaves the slot alone. -/
theorem of_input {i : Input} {reply shared} (input : s.input = .running i)
    (execution : s.execution = .running .awaiting) (slot : s.shared.slot = .empty)
    (answered : s.shared.answer world (i.turn s.limits).call = some (reply, shared))
    (other : (i.turn s.limits).call.concernsSlot = false)
    (nearer : Input.toGo (view shared.world).surface.unread ((i.turn s.limits).resume reply) <
      Input.toGo (view s.shared.world).surface.unread (.running i)) :
    s.MayAdvance b limits world outside view := by
  refine of_move (.input input answered) ?_
  simpa only [toGo, execution, slot, input, Shared.slot_answer answered other] using nearer

end MayAdvance

section Input

variable {i : Input}

theorem may_advance_of_looking (input : s.input = .running .looking)
    (execution : s.execution = .running .awaiting) (slot : s.shared.slot = .empty)
    (exiting : s.shared.exiting = false) : s.MayAdvance b limits world outside view := by
  have owed : Session.due b limits s (view s.shared.world) =
      .again (view s.shared.world).surface := by
    simp only [Session.due, execution, slot, input, Session.dueInput]
  refine .of_turn (.input input rfl) (by rw [owed]; exact .begins _) (.of_eq ?_)
  simp only [Session.due, execution, slot, Input.turn, exiting, Bool.false_eq_true, if_false,
    Session.dueInput]

theorem may_advance_of_reading {r : LineReader} (staged : Staged b world outside view)
    (obliging : Obliging b world outside view) (input : s.input = .running (.reading r))
    (execution : s.execution = .running .awaiting) (slot : s.shared.slot = .empty) :
    s.MayAdvance b limits world outside view := by
  obtain ⟨w, changes, same, comes⟩ := obliging.readByte s.shared.world
  obtain ⟨⟨outcome, after⟩, read⟩ := Option.isSome_iff_exists.1 comes
  have answered : (s.withWorld w).shared.answer world .readByte =
      some (outcome, { s.shared with world := after }) := by
    simp only [Shared.answer, withWorld, read, Option.map_some]
  refine .of_changes changes same (.of_input input execution slot answered rfl ?_)
  obtain ⟨told, shown⟩ := staged.readByte _ _ _ read
  show Input.toGo (view after).surface.unread (.running (Input.readOn s.limits.token r outcome)) <
    Input.toGo (view w).surface.unread (.running (.reading r))
  rw [told, shown]
  exact Input.toGo_readOn_lt ..

theorem may_advance_of_moving {dir : Bytes} (input : s.input = .running (.moving dir))
    (execution : s.execution = .running .awaiting) (slot : s.shared.slot = .empty) :
    s.MayAdvance b limits world outside view := by
  refine .of_input input execution slot rfl rfl ?_
  simp only [Input.turn]
  cases (world.changeDirectory dir s.shared.world).1 <;> simp [Input.toGo]

/-- Where the input thread has the word, it reads on or comes to a command or an end. -/
theorem may_advance_of_input (staged : Staged b world outside view)
    (obliging : Obliging b world outside view) (free : i.IsFree) (input : s.input = .running i)
    (execution : s.execution = .running .awaiting) (slot : s.shared.slot = .empty)
    (exiting : s.shared.exiting = false) :
    (∃ r x, s.Leaves r x) ∨ s.MayAdvance b limits world outside view := by
  have succeeds : Execution.failure? s.execution = none := by
    rw [execution]
    rfl
  have unread (bs : Bytes) : (view (world.print bs s.shared.world)).surface.unread =
      (view s.shared.world).surface.unread := by
    rw [staged.print]
    rfl
  cases i with
  | looking => exact .inr (may_advance_of_looking input execution slot exiting)
  | prompting =>
      refine .inr (.of_input input execution slot rfl rfl ?_)
      simp [Input.turn, Input.toGo, unread]
  | reading r => exact .inr (may_advance_of_reading staged obliging input execution slot)
  | complaining | blank | listing =>
      exact .inr (.of_input input execution slot rfl rfl Nat.zero_lt_one)
  | moving dir => exact .inr (may_advance_of_moving input execution slot)
  | offering c =>
      have answered : s.shared.answer world (.offer (.run c)) =
          some (.ok (), { s.shared with slot := .ready (.run c) }) := by
        simp only [Shared.answer, slot, Slot.offer]
      refine .inr (.of_move (.input input answered) ?_)
      simp [toGo, execution, slot, input, Input.toGo]
  | waiting =>
      have answered : s.shared.answer world .awaitVacancy = some ((), s.shared) := by
        simp only [Shared.answer, slot, Slot.isBusy, Bool.false_eq_true, if_false]
      exact .inr (.of_input input execution slot answered rfl Nat.zero_lt_one)
  | endingInput => exact .inl ⟨_, _, .ending input⟩
  | leaving r | settingExit r =>
      exact .inl ⟨r, _, .stopped succeeds (by rw [input]; rfl)⟩
  | offeringShutdown => exact absurd free id

end Input

section Execution

variable {x : Execution} {t : Trace} {origin : Round D F}

/-- A request is taken as soon as it stands in the slot. -/
theorem may_advance_of_offered {c : Command} (execution : s.execution = .running .awaiting)
    (slot : s.shared.slot = .ready (.run c)) : s.MayAdvance b limits world outside view := by
  have answered : s.shared.answer world .awaitRequest =
      some (Request.run c, { s.shared with slot := .running }) := by
    simp only [Shared.answer, slot, Slot.take?, Option.map_some]
  refine .of_move (.execution execution answered) ?_
  simp [toGo, execution, slot, Execution.turn, Execution.accept]

/-- With the fork the command is launched. -/
theorem may_advance_of_forking {c : Command} (staged : Staged b world outside view)
    (foreground : Session.StaysForeground b limits origin) (ordered : s.Coordinated)
    (step : s.InStep b limits view origin t)
    (execution : s.execution = .running (.launching c .forking)) :
    s.MayAdvance b limits world outside view := by
  have owed : Session.due b limits s (view s.shared.world) =
      .launched c (Session.attempt b c (view s.shared.world).surface) := by
    simp only [Session.due, execution, Session.dueLaunch, Session.launch]
  have forked : s.shared.answer world (.fork c) = some ((world.fork c s.shared.world).1,
      { s.shared with world := (world.fork c s.shared.world).2 }) := rfl
  have moves : s.Moves world _ _ := .execution execution forked
  have leads := step.leads_of_run ordered staged foreground (.move .start moves)
  rw [owed] at leads
  obtain ⟨others, rest⟩ := leads.of_launched (List.cons_ne_nil c [])
  exact .of_turn moves (by rw [owed]; exact .launches ..) rest

/-- A child does its work, and then the wait for it ends. -/
theorem may_advance_of_waiting {c : Command} {pid : Pid} (obliging : Obliging b world outside view)
    (child : (view s.shared.world).HasChild b pid)
    (execution : s.execution = .running (.launching c (.waiting pid))) :
    s.MayAdvance b limits world outside view := by
  have done : ∃ w ending, Relation.ReflTransGen outside s.shared.world w ∧
      (view w).errand = .finished pid ending := by
    rcases child with ⟨d, done, running, works⟩ | ⟨ending, finished⟩
    · exact obliging.work _ _ _ _ running works
    · exact ⟨_, ending, .refl, finished⟩
  obtain ⟨v, ending, changes, finished⟩ := done
  obtain ⟨w, after, more, _, waited⟩ := obliging.waitFor v pid ending finished
  have answered : (s.withWorld w).shared.answer world (.waitFor pid {}) =
      some (ending.reply, { s.shared with world := after }) := by
    simp only [Shared.answer, withWorld, waited, Option.map_some]
  have run : Run world outside s [] (s.withWorld w) := Run.start.changes (changes.trans more)
  refine ⟨_, _, run.move (.execution execution answered), .inr ?_⟩
  have before : s.toGo (view s.shared.world).surface.unread = 4 := by
    simp only [toGo, execution]
  rw [before]
  simp only [toGo, Execution.turn, Turn.embed, Launch.turn]
  rcases InStep.afterWait_reply_cases c pid ending with ⟨st, next⟩ | next | ⟨e, next⟩ <;>
  · rw [next]
    simp

/-- The execution thread comes to the end of the launch, or to the launch itself. -/
theorem may_advance_of_launching {c : Command} {l : Launch} (staged : Staged b world outside view)
    (obliging : Obliging b world outside view)
    (foreground : Session.StaysForeground b limits origin) (ordered : s.Coordinated)
    (step : s.InStep b limits view origin t)
    (execution : s.execution = .running (.launching c l)) :
    s.MayAdvance b limits world outside view := by
  have front := step.foreground
  rw [execution] at front
  cases l with
  | forking => exact may_advance_of_forking staged foreground ordered step execution
  | shielding pid =>
      refine .of_move (.execution execution rfl) ?_
      simp [toGo, execution, Execution.turn, Turn.embed, Launch.turn,
        show c.background = false from front, Execution.afterLaunch]
  | waiting pid =>
      refine may_advance_of_waiting obliging (step.errand.hasChild ?_) execution
      rw [execution]
      rfl
  | endingLine pid st =>
      refine .of_move (.execution execution rfl) ?_
      simp [toGo, execution, Execution.turn, Turn.embed, Launch.turn, Execution.afterLaunch]
  | registering | announcing | raising => exact absurd front id

/-- Where the execution thread has the word, it comes to the end of a launch or fails. -/
theorem may_advance_of_serving (staged : Staged b world outside view)
    (obliging : Obliging b world outside view)
    (foreground : Session.StaysForeground b limits origin) (ordered : s.Coordinated)
    (step : s.InStep b limits view origin t) (serves : x.IsServing)
    (input : s.input = .running .waiting) (execution : s.execution = .running x)
    (exiting : s.shared.exiting = false) : (∃ r y, s.Leaves r y) ∨
      s.MayAdvance b limits world outside view := by
  cases x with
  | awaiting => exact absurd serves id
  | deciding c =>
      refine .inr (.of_move (.execution execution rfl) ?_)
      simp [toGo, execution, Execution.turn, exiting, Launch.start]
  | launching c l =>
      exact .inr (may_advance_of_launching staged obliging foreground ordered step execution)
  | settingExit e => exact .inl ⟨_, _, .failed (by rw [execution]; rfl)⟩
  | releasing result =>
      cases result with
      | none =>
          refine .inr (.of_move (.execution execution rfl) ?_)
          simp [toGo, execution, Execution.turn, Slot.release, input, Input.toGo]
      | some result => exact absurd serves id

end Execution

/-- Wherever its threads stand, the shell is on its way out, or it can come nearer to the next turn
of the session. -/
theorem InStep.may_proceed {t : Trace} {origin : Round D F} (step : s.InStep b limits view origin t)
    (ordered : s.Coordinated) (staged : Staged b world outside view)
    (obliging : Obliging b world outside view)
    (foreground : Session.StaysForeground b limits origin) :
    (∃ r x, s.Leaves r x) ∨ s.MayAdvance b limits world outside view := by
  have alternation := ordered.alternation
  generalize input : s.input = i, execution : s.execution = y, slot : s.shared.slot = occupied,
    exiting : s.shared.exiting = flag at alternation
  cases alternation with
  | reading free => exact may_advance_of_input staged obliging free input execution slot exiting
  | offered => exact .inr (may_advance_of_offered execution slot)
  | serving serves =>
      exact may_advance_of_serving staged obliging foreground ordered step serves input execution
        exiting
  | failing | failed => exact .inl ⟨_, _, .failed (by rw [execution]; rfl)⟩
  | stopping | stopped | closing | closed =>
      exact .inl ⟨_, _, .stopped (by rw [execution]; rfl) (by rw [input]; rfl)⟩

end Shell

namespace Run

variable {D F W : Type} {b : Behaviour D F} {world : World W} {outside : W → W → Prop}
  {view : W → Setting D F} {backlog : W → Option Nat} {limits : Limits} {w : W} {x : Round D F}

/-- If the shell may end after the next turn of the session, it may end before. -/
theorem may_finish_of_turns (staged : Staged b world outside view)
    (obliging : Obliging b world outside view) (steady : Steady world outside backlog)
    (free : (view w).errand = .none)
    (foreground : Session.IsForeground b limits (view w).surface)
    (onward : ∀ {y commands}, Session.Turns b limits x y commands → ∀ {t s others},
      Run world outside (Shell.boot limits w) t s →
      Session.Leads b limits y (Session.due b limits s (view s.shared.world)) others →
      s.MayFinish world outside)
    {t : Trace} {s : Shell W} {commands : List Command}
    (run : Run world outside (Shell.boot limits w) t s)
    (leads : Session.Leads b limits x (Session.due b limits s (view s.shared.world)) commands) :
    s.MayFinish world outside := by
  -- until the next turn every step comes nearer to it
  induction left : s.toGo (view s.shared.world).surface.unread using Nat.strongRecOn
    generalizing t s commands with
  | ind n ih =>
  generalize owed : Session.due b limits s (view s.shared.world) = now at leads
  cases leads with
  | turn turns rest =>
      rw [← owed] at rest
      exact onward turns run rest
  | refl =>
      have step := run.inStep staged free foreground
      rcases step.may_proceed run.coordinated staged obliging foreground.again with
        ⟨r, y, leaves⟩ | ⟨u, after, more, advances⟩
      · exact .of_mayEnd (run.may_end steady leaves)
      · refine .of_run more ?_
        rcases advances with ⟨y, _, others, turns, rest⟩ | nearer
        · rw [owed] at turns
          exact onward turns (run.trans more) rest
        · have leads := step.leads_of_run run.coordinated staged foreground.again more
          rw [owed] at leads
          exact ih _ (left ▸ nearer) (run.trans more) leads rfl

/-- While the rest of the session comes to an end, so may the shell. -/
theorem may_finish (staged : Staged b world outside view)
    (obliging : Obliging b world outside view) (steady : Steady world outside backlog)
    (free : (view w).errand = .none)
    (foreground : Session.IsForeground b limits (view w).surface)
    {outcome : Except Fault Unit × Surface D F} {all : List Command}
    (yields : Session.Yields b limits x (some outcome) all) {t : Trace} {s : Shell W}
    {commands : List Command} (run : Run world outside (Shell.boot limits w) t s)
    (leads : Session.Leads b limits x (Session.due b limits s (view s.shared.world)) commands) :
    s.MayFinish world outside := by
  generalize ended : some outcome = o at yields
  induction yields generalizing t s commands with
  | pause => cases ended
  | finished =>
      refine may_finish_of_turns staged obliging steady free foreground ?_ run leads
      intro y others turns
      cases turns
  | again _ ih | launched _ ih =>
      refine may_finish_of_turns staged obliging steady free foreground ?_ run leads
      intro y others turns
      cases turns
      exact fun run leads => ih run leads ended

end Run

/-- How the shell stands to the session that begins with `first`. -/
structure Refines {D F W : Type} (b : Behaviour D F) (limits : Limits) (world : World W)
    (outside : W → W → Prop) (view : W → Setting D F) (first : Surface D F) (t : Trace)
    (s : Shell W) : Prop where
  /-- If the shell has ended, no job is left, and the session has the outcome of the shell and no
  other. -/
  outcome : ∀ result left, s.supervisor = .ended (result, left) →
    left = 0 ∧ ∀ r last commands, Session.Ends b limits first r last commands ↔
      r = result ∧ last = (view s.shared.world).surface ∧ commands = t.launched
  /-- If the session ends and the world obliges, the shell can come to its end from where it stands,
  and ends with the outcome of the session. -/
  completes : Obliging b world outside view → ∀ backlog, Steady world outside backlog →
    ∀ r last commands, Session.Ends b limits first r last commands →
      ∃ u after, Run world outside s u after ∧ after.supervisor = .ended (r, 0) ∧
        (view after.shared.world).surface = last ∧ (t ++ u).launched = commands

theorem Run.outcome {D F W : Type} {b : Behaviour D F} {world : World W} {outside : W → W → Prop}
    {view : W → Setting D F} {limits : Limits} {w : W} {t : Trace} {s : Shell W}
    {result : Except Fault Unit} {left : Nat} (staged : Staged b world outside view)
    (free : (view w).errand = .none)
    (foreground : Session.IsForeground b limits (view w).surface)
    (run : Run world outside (Shell.boot limits w) t s)
    (halted : s.supervisor = .ended (result, left)) :
    left = 0 ∧ ∀ r last commands, Session.Ends b limits (view w).surface r last commands ↔
      r = result ∧ last = (view s.shared.world).surface ∧ commands = t.launched := by
  have step := run.inStep staged free foreground
  obtain ⟨none, owed⟩ := step.due_of_ended run.coordinated halted
  -- nothing but the outcome is owed, and the session has one outcome at most
  have ends : Session.Ends b limits (view w).surface result (view s.shared.world).surface
      t.launched := by
    have leads := step.leads
    rw [owed] at leads
    have yields := leads.yields .finished
    rw [List.append_nil] at yields
    exact Session.yields_again_iff.1 yields
  refine ⟨none, fun r last commands => ⟨fun also => ?_, ?_⟩⟩
  · obtain ⟨same, launches⟩ := Session.Yields.unique ends also
    cases same
    exact ⟨rfl, rfl, launches⟩
  · rintro ⟨rfl, rfl, rfl⟩
    exact ends

/-- A shell without background commands, in whatever order its threads take their steps, whatever
signals other than those from the keyboard come, and whenever its children do their work, ends in
one way only: with the surface, the result and the launches of the session. And it is nowhere held
up for good before that. -/
theorem session_refined {D F W : Type} {b : Behaviour D F} {world : World W}
    {outside : W → W → Prop} {view : W → Setting D F} {limits : Limits} {w : W} {t : Trace}
    {s : Shell W} (staged : Staged b world outside view) (free : (view w).errand = .none)
    (foreground : Session.IsForeground b limits (view w).surface)
    (run : Run world outside (Shell.boot limits w) t s) :
    Refines b limits world outside view (view w).surface t s where
  outcome _ _ halted := run.outcome staged free foreground halted
  completes obliging backlog steady r last commands ends := by
    obtain ⟨u, after, result, left, more, halted⟩ :=
      run.may_finish staged obliging steady free foreground (.again ends)
        (run.inStep staged free foreground).leads
    obtain ⟨rfl, only⟩ := (run.trans more).outcome staged free foreground halted
    obtain ⟨rfl, rfl, rfl⟩ := (only r last commands).1 ends
    exact ⟨u, after, more, halted, rfl, rfl⟩

theorem Steady.staging {D F : Type} (b : Behaviour D F) :
    Steady (World.staging b) (Setting.Works b) (fun _ => some 0) where
  sendStop _ := ⟨rfl, rfl⟩
  awaitSignal _ _ _ taken := by
    cases taken
    exact .inl rfl
  pending _ _ := rfl
  print _ _ := rfl
  ask pid z := by
    cases found : z.ending? pid with
    | some ending =>
        refine ⟨ending.reply, { z with errand := .none }, ?_, rfl⟩
        simp only [World.staging, Setting.waitFor, found]
    | none =>
        refine ⟨.notReady, z, ?_, rfl⟩
        simp only [World.staging, Setting.waitFor, found, if_true]
  outside _ _ _ _ := rfl

/-- Programs that write their names and are killed, and a `cd` that goes nowhere. -/
def Behaviour.naming : Behaviour Unit Unit where
  enter _ v := (.ok (), v)
  perform c v := .ok (.status (.killed 9), v.print (Bytes.ofText (c.name ++ "\n")))

/-- A command that is killed, and `exit`; SIGUSR1 comes when the exit flag is set, and stops the
signal thread. The shell has come to this end, and from its start it can come to it. -/
theorem session_refined_until_exit :
    ∃ first : Surface Unit Unit, first.unread = Source.ofBytes (Bytes.ofText "a\nexit\n") ∧
      Session.IsForeground .naming {} first ∧
      ∃ t s left, Run (World.staging .naming) (Setting.Works .naming)
          (Shell.boot {} { surface := first }) t s ∧
        s.supervisor = .ended (.ok (), left) ∧
        s.shared.world.surface.out = Bytes.ofText "$ a\n\n$ " ∧
        Refines .naming {} (World.staging .naming) (Setting.Works .naming) id first t s ∧
        ∃ u after, Run (World.staging .naming) (Setting.Works .naming)
            (Shell.boot {} { surface := first }) u after ∧
          after.supervisor = .ended (.ok (), 0) ∧ after.shared.world.surface =
            s.shared.world.surface ∧ u.launched = t.launched := by
  let first : Surface Unit Unit :=
    { unread := Source.ofBytes (Bytes.ofText "a\nexit\n"), directory := (), files := () }
  let second : Surface Unit Unit :=
    { out := Bytes.ofText "$ a\n\n", unread := Source.ofBytes (Bytes.ofText "exit\n"),
      directory := (), files := () }
  have launches : Session.round .naming {} first =
      .launched { argv := [Bytes.ofText "a"] } (.again second) := by
    with_unfolding_all rfl
  have ends : Session.round .naming {} second =
      .finished (.ok ()) { second with out := Bytes.ofText "$ a\n\n$ ", unread := [] } := by
    with_unfolding_all rfl
  have foreground : Session.IsForeground .naming {} first := by
    intro commands yields
    rw [launches] at yields
    cases yields with
    | pause =>
        intro c mem
        cases mem
    | launched rest =>
        cases rest with
        | pause => simp
        | again rest =>
            rw [ends] at rest
            cases rest
            simp
  let world : World (Setting Unit Unit) := World.staging .naming
  let toWork : List ThreadId := List.replicate 5 .input ++ List.replicate 4 .execution
  let toEnd : List ThreadId :=
    List.replicate 3 .execution ++ List.replicate 11 .input ++ List.replicate 2 .execution ++
      List.replicate 5 .supervisor ++ List.replicate 2 .signals ++ List.replicate 2 .supervisor
  have played :
      ((Shell.boot {} { surface := first }).playAround world toWork
        (fun z => some (z.work .naming)) toEnd).any
        (fun (_, s) => (Shell.endOf s.supervisor).any (fun result => result.1.isOk) &&
          decide (s.shared.world.surface.out = Bytes.ofText "$ a\n\n$ ")) = true := by
    decide +kernel
  obtain ⟨⟨t, s⟩, reached, found⟩ := (Option.any_eq_true _ _).1 played
  simp only [Bool.and_eq_true, decide_eq_true_eq, Option.any_eq_true,
    Shell.endOf_eq_some_iff] at found
  obtain ⟨⟨⟨result, left⟩, halted, fine⟩, written⟩ := found
  obtain rfl : result = .ok () := by
    cases result with
    | ok => rfl
    | error e => cases fine
  have works {z after : Setting Unit Unit} (worked : some (z.work .naming) = some after) :
      Setting.Works .naming z after := (Option.some.inj worked).symm
  have run : Run world (Setting.Works .naming) (Shell.boot {} { surface := first }) t s :=
    Run.playAround works reached
  have refines : Refines .naming {} world _ id first t s :=
    session_refined (Staged.staging .naming) rfl foreground run
  have fromStart : Refines .naming {} world _ id first [] (Shell.boot {} { surface := first }) :=
    session_refined (w := { surface := first }) (Staged.staging .naming) rfl foreground .start
  have ends := ((refines.outcome _ _ halted).2 _ _ _).2 ⟨rfl, rfl, rfl⟩
  exact ⟨first, rfl, foreground, t, s, left, run, halted, written, refines,
    fromStart.completes (.staging .naming) _ (.staging .naming) _ _ _ ends⟩

end JobShell
