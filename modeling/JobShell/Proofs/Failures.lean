import JobShell.Proofs.Wakeups
import JobShell.Proofs.Agreement

/-!
# What a failure leaves to do

A launch can fail in the shell itself, and so can a read. A failed launch sets the exit flag while
the slot is still occupied, so the input thread, which looks at the flag before it prompts, finds
nothing to do but to leave. A failed read happens while the execution thread waits for a request,
so no launch is under way. The trace of a run tells of both kinds of failure, and the thread that
met with one keeps it to its end.

Results:
1. `Shell.FailureBooks.moves`: each of the two threads holds the failure that the trace shows.
2. `Shell.Coordinated.at_most_one_failure`: the two threads do not fail both.
3. `Run.after_failed_launch`: after a failed launch the input thread only waits and looks at the
   exit flag, and no command is launched.
-/

namespace JobShell

open Thread (Input Execution Signals Supervisor Status)

/-! ## What a trace shows -/

namespace Event

/-- The failure in which a launch ends. -/
def launchFailure? : Event → Option LaunchError
  | ⟨.execution, .fork _, .error e⟩ => some (.fork e)
  | ⟨.execution, .track .., .error e⟩ => some (.registration e)
  | ⟨.execution, .waitFor .., .failed e⟩ =>
      if e = .interrupted ∨ e = .noChild then none else some (.wait e)
  | _ => none

/-- The failure of a read. An interrupted read is made again, so it is none. -/
def readFailure? : Event → Option Errno
  | ⟨.input, .readByte, .failed e⟩ => if e = .interrupted then none else some e
  | _ => none

variable {e : Event}

theorem launchFailure?_of_ne (other : e.thread ≠ .execution) : e.launchFailure? = none := by
  unfold launchFailure?
  split
  · exact absurd rfl other
  · exact absurd rfl other
  · exact absurd rfl other
  · rfl

theorem readFailure?_of_ne (other : e.thread ≠ .input) : e.readFailure? = none := by
  unfold readFailure?
  split
  · exact absurd rfl other
  · rfl

end Event

namespace Trace

def launchFailures (t : Trace) : List LaunchError := t.filterMap Event.launchFailure?

def readFailures (t : Trace) : List Errno := t.filterMap Event.readFailure?

theorem launchFailures_concat (t : Trace) (e : Event) :
    launchFailures (t ++ [e]) = launchFailures t ++ e.launchFailure?.toList :=
  filterMap_concat ..

theorem readFailures_concat (t : Trace) (e : Event) :
    readFailures (t ++ [e]) = readFailures t ++ e.readFailure?.toList :=
  filterMap_concat ..

end Trace

/-! ## What a thread holds -/

namespace Thread

/-- The failed launch that the execution thread is on its way out with. -/
def Execution.failure? : Status Execution (Except LaunchError Unit) → Option LaunchError
  | .running (.settingExit e) | .running (.releasing (some (.error e))) | .ended (.error e) =>
      some e
  | _ => none

/-- The result that the input thread is on its way out with. -/
def Input.result? : Status Input (Except Fault Unit) → Option (Except Fault Unit)
  | .running (.leaving r) | .running (.settingExit r) | .running (.offeringShutdown r)
  | .ended r => some r
  | _ => none

/-- What the reads have come to: none has failed, or one has, and the input thread is on its way
out with it. -/
inductive Input.Carries : Status Input (Except Fault Unit) → List Errno → Prop
  | nothing {i : Status Input (Except Fault Unit)} : result? i = none → Carries i []
  | success {i : Status Input (Except Fault Unit)} : result? i = some (.ok ()) → Carries i []
  | failure {i : Status Input (Except Fault Unit)} {e : Errno} :
      result? i = some (.error (.input e)) → Carries i [e]

theorem Input.Carries.of_eq {i j : Status Input (Except Fault Unit)} {es : List Errno}
    (carries : Carries i es) (same : result? j = result? i) : Carries j es := by
  cases carries with
  | nothing none => exact .nothing (same.trans none)
  | success ok => exact .success (same.trans ok)
  | failure failed => exact .failure (same.trans failed)

theorem Input.Carries.eq_nil {i : Status Input (Except Fault Unit)} {es : List Errno}
    (carries : Carries i es) (none : result? i = none) : es = [] := by
  cases carries with
  | nothing | success => rfl
  | failure failed =>
      rw [none] at failed
      cases failed

theorem Input.carries_accept (maxToken : Nat) (l : Line) :
    Carries (.running (accept maxToken l)) [] := by
  unfold accept dispatch
  repeat' split
  all_goals first | exact .nothing rfl | exact .success rfl

theorem Input.carries_readOn (maxToken : Nat) (r : LineReader) (outcome : ReadOutcome) :
    Carries (.running (readOn maxToken r outcome))
      (Event.readFailure? ⟨.input, .readByte, outcome⟩).toList := by
  cases outcome with
  | failed e =>
      by_cases interrupted : e = .interrupted
      · simp only [readOn, LineReader.feed, Event.readFailure?, interrupted, if_true]
        exact .nothing rfl
      · simp only [readOn, LineReader.feed, Event.readFailure?, interrupted, if_false]
        exact .failure rfl
  | endOfFile => exact carries_accept ..
  | byte b =>
      show Carries _ []
      unfold readOn
      split
      · exact .nothing rfl
      · exact carries_accept ..
      · next failed =>
          -- a byte never makes a reader fail
          simp only [LineReader.feed] at failed
          repeat' split at failed
          all_goals cases failed

theorem Execution.failure?_afterLaunch (c : Command) (l : Launch)
    (reply : (l.turn c).call.Reply) :
    failure? (afterLaunch c ((l.turn c).resume reply)) =
      Event.launchFailure? ⟨.execution, (l.turn c).call, reply⟩ := by
  cases l with
  | forking => cases reply <;> rfl
  | shielding pid => simp only [Launch.turn]; split <;> rfl
  | registering pid => cases reply <;> rfl
  | announcing pid | raising pid | endingLine pid status => rfl
  | waiting pid =>
      cases reply with
      | status st =>
          simp only [Launch.turn, Launch.afterWait]
          split <;> rfl
      | notReady => rfl
      | failed e =>
          by_cases interrupted : e = .interrupted
          · simp [Launch.turn, Launch.afterWait, Event.launchFailure?, interrupted, afterLaunch,
              failure?]
          · by_cases lost : e = .noChild
            · simp [Launch.turn, Launch.afterWait, Event.launchFailure?, lost, afterLaunch,
                failure?, Errno.noChild, Errno.interrupted]
            · simp [Launch.turn, Launch.afterWait, Event.launchFailure?, interrupted, lost,
                afterLaunch, failure?]

end Thread

/-! ## The books of the failures -/

namespace Shell

variable {W : Type} {world : World W} {s after : Shell W} {t : Trace} {e : Event}

/-- Each of the two threads holds the failure that the trace shows, and no other. -/
structure FailureBooks (t : Trace) (s : Shell W) : Prop where
  launches : t.launchFailures = (Execution.failure? s.execution).toList
  reads : Input.Carries s.input t.readFailures

namespace FailureBooks

theorem boot (limits : Limits) (w : W) : FailureBooks [] (Shell.boot limits w) :=
  ⟨rfl, .nothing rfl⟩

theorem of_input {i : Status Input (Except Fault Unit)} {shared : Shared W}
    (books : s.FailureBooks t) (thread : e.thread = .input)
    (reads : Input.Carries i (t.readFailures ++ e.readFailure?.toList)) :
    FailureBooks (t ++ [e]) { s with input := i, shared } := by
  refine ⟨?_, ?_⟩
  · rw [Trace.launchFailures_concat, Event.launchFailure?_of_ne (by rw [thread]; decide)]
    exact (List.append_nil _).trans books.launches
  · rw [Trace.readFailures_concat]
    exact reads

theorem of_execution {x : Status Execution (Except LaunchError Unit)} {shared : Shared W}
    (books : s.FailureBooks t) (thread : e.thread = .execution)
    (launches : (Execution.failure? s.execution).toList ++ e.launchFailure?.toList =
      (Execution.failure? x).toList) :
    FailureBooks (t ++ [e]) { s with execution := x, shared } := by
  refine ⟨?_, ?_⟩
  · rw [Trace.launchFailures_concat, books.launches]
    exact launches
  · rw [Trace.readFailures_concat, Event.readFailure?_of_ne (by rw [thread]; decide)]
    exact (List.append_nil _).symm ▸ books.reads

theorem of_aside (books : s.FailureBooks t) (notExecution : e.thread ≠ .execution)
    (notInput : e.thread ≠ .input) (execution : after.execution = s.execution)
    (input : after.input = s.input) : after.FailureBooks (t ++ [e]) := by
  refine ⟨?_, ?_⟩
  · rw [Trace.launchFailures_concat, Event.launchFailure?_of_ne notExecution, execution]
    exact (List.append_nil _).trans books.launches
  · rw [Trace.readFailures_concat, Event.readFailure?_of_ne notInput, input]
    exact (List.append_nil _).symm ▸ books.reads

theorem input_moves {i : Input} {reply shared} (books : s.FailureBooks t)
    (ordered : s.Coordinated) (at_ : s.input = .running i)
    (answered : s.shared.answer world (i.turn s.limits).call = some (reply, shared)) :
    FailureBooks (t ++ [⟨.input, (i.turn s.limits).call, reply⟩])
      { s with input := (i.turn s.limits).resume reply, shared } := by
  have alternation := ordered.alternation
  have reads := books.reads
  rw [at_] at alternation reads
  have vacant := (alternation.vacant_of_input_moves answered).1
  -- all calls but the read show no failure
  have goesOn {c : Call} {r : c.Reply} {j : Status Input (Except Fault Unit)}
      (other : Event.readFailure? ⟨.input, c, r⟩ = none)
      (carries : Input.Carries j t.readFailures) :
      FailureBooks (t ++ [⟨.input, c, r⟩]) { s with input := j, shared } := by
    refine books.of_input rfl ?_
    rw [other]
    exact (List.append_nil _).symm ▸ carries
  have free (none : Input.result? (.running i) = none) : t.readFailures = [] := reads.eq_nil none
  cases i with
  | reading r =>
      refine books.of_input rfl ?_
      rw [free rfl]
      exact Input.carries_readOn s.limits.token r reply
  | looking =>
      refine goesOn rfl ?_
      rw [free rfl]
      cases reply with
      | true => exact .success rfl
      | false => exact .nothing rfl
  | offering c =>
      refine goesOn rfl ?_
      rw [free rfl]
      simp only [Input.turn, Shared.answer, vacant, Slot.offer] at answered
      cases answered
      exact .nothing rfl
  | moving dir =>
      refine goesOn rfl ?_
      rw [free rfl]
      cases reply <;> exact .nothing rfl
  | endingInput =>
      refine goesOn rfl ?_
      rw [free rfl]
      exact .success rfl
  | prompting | complaining | blank | listing | waiting =>
      refine goesOn rfl ?_
      rw [free rfl]
      exact .nothing rfl
  | leaving result =>
      refine goesOn rfl (reads.of_eq ?_)
      cases reply <;> rfl
  | settingExit result => exact goesOn rfl (reads.of_eq rfl)
  | offeringShutdown result =>
      refine goesOn rfl (reads.of_eq ?_)
      simp only [Input.turn, Shared.answer, vacant, Slot.offer] at answered
      cases answered
      rfl

theorem execution_moves {x : Execution} {reply} {shared : Shared W} (books : s.FailureBooks t)
    (at_ : s.execution = .running x) :
    FailureBooks (t ++ [⟨.execution, x.turn.call, reply⟩])
      { s with execution := x.turn.resume reply, shared } := by
  refine books.of_execution rfl ?_
  rw [at_]
  cases x with
  | launching c l =>
      exact congrArg Option.toList (Execution.failure?_afterLaunch c l reply).symm
  | awaiting => cases reply <;> rfl
  | deciding c => cases reply <;> rfl
  | settingExit e => rfl
  | releasing result =>
      rcases result with _ | _ | _ <;> rfl

theorem moves (books : s.FailureBooks t) (ordered : s.Coordinated)
    (moves : s.Moves world e after) : after.FailureBooks (t ++ [e]) := by
  cases moves with
  | input at_ answered => exact books.input_moves ordered at_ answered
  | execution at_ answered => exact books.execution_moves at_
  | signals at_ answered => exact books.of_aside nofun nofun rfl rfl
  | supervisor at_ answered => exact books.of_aside nofun nofun rfl rfl

end FailureBooks

/-! ## After a failure -/

namespace Coordinated

/-- Once a launch has failed the input thread waits for it or is on its way out. -/
theorem dismissed_of_failure {f : LaunchError} (ordered : s.Coordinated)
    (failed : Execution.failure? s.execution = some f) : Dismissed s.input := by
  have alternation := ordered.alternation
  generalize s.input = i, s.execution = x, s.shared.slot = slot, s.shared.exiting = exiting
    at alternation failed ⊢
  cases alternation with
  | serving | failing => exact .waiting
  | failed dismissed => exact dismissed
  | reading | offered | stopping | stopped | closing | closed => cases failed

/-- A thread on its way out after a failed launch waits for the slot or looks at the flag. -/
theorem quiet_of_failure {f : LaunchError} (ordered : s.Coordinated)
    (failed : Execution.failure? s.execution = some f) (moves : s.Moves world e after) :
    (e.thread = .input → e.call = .awaitVacancy ∨ e.call = .isExiting) ∧
      ∀ c, e.call ≠ .fork c := by
  cases moves with
  | @input i reply shared at_ answered =>
      have dismissed := ordered.dismissed_of_failure failed
      rw [at_] at dismissed
      cases dismissed with
      | waiting => exact ⟨fun _ => .inl rfl, nofun⟩
      | looking | leaving => exact ⟨fun _ => .inr rfl, nofun⟩
  | @execution x _ _ at_ _ =>
      refine ⟨nofun, fun c forks => ?_⟩
      rw [at_] at failed
      cases x with
      | releasing result => cases result <;> cases forks
      | launching c l => cases failed
      | _ => cases forks
  | @signals g _ _ _ _ =>
      refine ⟨nofun, fun c forks => ?_⟩
      cases g with
      | reaping r => cases r <;> cases forks
      | _ => cases forks
  | @supervisor v _ _ _ _ =>
      refine ⟨nofun, fun c forks => ?_⟩
      cases v <;> cases forks

/-- The input thread reads only while the execution thread waits for a request. -/
theorem awaiting_of_reads (ordered : s.Coordinated) (moves : s.Moves world e after)
    (reads : e.call = .readByte) :
    s.execution = .running .awaiting ∧ s.shared.slot = .empty := by
  cases moves with
  | @input i reply shared at_ answered =>
      have alternation := ordered.alternation
      rw [at_] at alternation
      generalize s.execution = x, s.shared.slot = slot, s.shared.exiting = exiting
        at alternation ⊢
      cases alternation with
      | reading => exact ⟨rfl, rfl⟩
      | failed dismissed => cases dismissed <;> cases reads
      | offered | serving | failing | stopping => cases reads
  | @execution x _ _ _ _ =>
      cases x with
      | launching c l => cases l <;> cases reads
      | releasing result => cases result <;> cases reads
      | _ => cases reads
  | @signals g _ _ _ _ =>
      cases g with
      | reaping r => cases r <;> cases reads
      | _ => cases reads
  | @supervisor v _ _ _ _ => cases v <;> cases reads

/-- A launch and a read do not both fail. -/
theorem at_most_one_failure {f : LaunchError} {r : Except Fault Unit} (ordered : s.Coordinated)
    (failed : Execution.failure? s.execution = some f) (carried : Input.result? s.input = some r) :
    r = .ok () := by
  have dismissed := ordered.dismissed_of_failure failed
  generalize s.input = i at dismissed carried
  cases dismissed <;> cases carried
  · rfl
  · rfl

end Coordinated

end Shell

namespace Run

variable {W : Type} {world : World W} {outside : W → W → Prop} {limits : Limits} {w : W}
  {t : Trace} {s : Shell W}

theorem failureBooks (run : Run world outside (Shell.boot limits w) t s) : s.FailureBooks t := by
  induction run with
  | start => exact .boot limits w
  | move run moves ih => exact ih.moves run.coordinated moves
  | outside _ _ ih => exact ⟨ih.launches, ih.reads⟩

theorem failure_of_mem {e : Event} {f : LaunchError}
    (run : Run world outside (Shell.boot limits w) t s) (mem : e ∈ t)
    (fails : e.launchFailure? = some f) : Execution.failure? s.execution = some f := by
  have noted : f ∈ t.launchFailures := List.mem_filterMap.2 ⟨e, mem, fails⟩
  rw [run.failureBooks.launches, Option.mem_toList] at noted
  exact noted

theorem result_of_mem {e : Event} {f : Errno}
    (run : Run world outside (Shell.boot limits w) t s) (mem : e ∈ t)
    (fails : e.readFailure? = some f) : Input.result? s.input = some (.error (.input f)) := by
  have noted : f ∈ t.readFailures := List.mem_filterMap.2 ⟨e, mem, fails⟩
  have reads := run.failureBooks.reads
  generalize t.readFailures = es at noted reads
  cases reads with
  | nothing | success => cases noted
  | failure failed => rwa [List.mem_singleton.1 noted]

/-- Once a launch has failed the input thread only waits for the slot and looks at the flag, and
nothing is launched. -/
theorem after_failed_launch (run : Run world outside (Shell.boot limits w) t s) :
    ∀ before e during f, t = before ++ e :: during → e.launchFailure? = some f →
      ∀ d ∈ during, (d.thread = .input → d.call = .awaitVacancy ∨ d.call = .isExiting) ∧
        ∀ c, d.call ≠ .fork c := by
  induction run with
  | start =>
      intro before e during f same
      simp at same
  | move run moves ih =>
      intro before e during f same fails d mem
      rcases split_concat same with ⟨_, _, rfl⟩ | ⟨rest, rfl, earlier⟩
      · cases mem
      · rcases List.mem_append.1 mem with old | new
        · exact ih before e rest f earlier fails d old
        · rw [List.mem_singleton.1 new]
          have mem : e ∈ before ++ e :: rest := List.mem_append_right _ List.mem_cons_self
          exact run.coordinated.quiet_of_failure
            (run.failure_of_mem (earlier ▸ mem) fails) moves
  | outside _ _ ih => exact ih

end Run

/-! ## Commands that were handed over -/

/-- The request that the execution thread took and has not begun to launch. -/
def Thread.Execution.held : Status Execution (Except LaunchError Unit) → List Request
  | .running (.deciding c) | .running (.launching c .forking) => [.run c]
  | .running (.releasing (some (.ok ()))) | .ended (.ok ()) => [.shutdown]
  | _ => []

theorem Thread.Execution.held_afterLaunch (c : Command) (l : Launch)
    (reply : (l.turn c).call.Reply) : held (afterLaunch c ((l.turn c).resume reply)) = [] := by
  cases l with
  | forking => cases reply <;> rfl
  | shielding pid => simp only [Launch.turn]; split <;> rfl
  | registering pid => cases reply <;> rfl
  | announcing pid | raising pid | endingLine pid status => rfl
  | waiting pid =>
      simp only [Launch.turn, Launch.afterWait]
      repeat' split
      all_goals rfl

namespace Shell.Coordinated

variable {W : Type} {world : World W} {s after : Shell W} {e : Event}

/-- What was in hand or is taken now is launched now or is still in hand. -/
theorem held_moves (ordered : s.Coordinated) (moves : s.Moves world e after) :
    Execution.held s.execution ++ e.taken?.toList =
      (e.launched?.map Request.run).toList ++ Execution.held after.execution := by
  cases moves with
  | @input i reply shared at_ answered =>
      cases i <;> exact List.append_nil _
  | @signals g reply shared at_ answered =>
      cases g with
      | reaping r => cases r <;> exact List.append_nil _
      | _ => exact List.append_nil _
  | @supervisor v reply shared at_ answered => cases v <;> exact List.append_nil _
  | @execution x reply shared at_ answered =>
      rw [at_]
      cases x with
      | awaiting => cases reply <;> rfl
      | deciding c =>
          -- nobody sets the flag between the taking of a command and its launch
          have alternation := ordered.alternation
          rw [at_] at alternation
          have clear : s.shared.exiting = false := by
            generalize s.input = i, s.shared.slot = slot, s.shared.exiting = exiting
              at alternation ⊢
            cases alternation
            rfl
          cases answered
          simp only [Execution.turn, clear]
          rfl
      | launching c l =>
          have begun : Execution.held ((Execution.launching c l).turn.resume reply) = [] :=
            Execution.held_afterLaunch c l reply
          show _ = _ ++ Execution.held ((Execution.launching c l).turn.resume reply)
          rw [begun]
          cases l <;> rfl
      | settingExit f => rfl
      | releasing result => rcases result with _ | _ | _ <;> rfl

end Shell.Coordinated

/-- What was taken was launched, or it is in hand, or it was the request to shut down. -/
theorem Run.taken_eq {W : Type} {world : World W} {outside : W → W → Prop} {limits : Limits}
    {w : W} {t : Trace} {s : Shell W} (run : Run world outside (Shell.boot limits w) t s) :
    t.taken = t.launched.map Request.run ++ Execution.held s.execution := by
  induction run with
  | start => rfl
  | @move t now after e run moves ih =>
      have passed := run.coordinated.held_moves moves
      rw [Trace.taken, Trace.filterMap_concat, Trace.launched_concat, List.map_append,
        List.append_assoc]
      rw [Trace.taken] at ih
      rw [ih, List.append_assoc, passed]
      cases e.launched? <;> rfl
  | outside _ _ ih => exact ih

end JobShell
