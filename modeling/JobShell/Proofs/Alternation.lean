import JobShell.Proofs.Run

/-!
# The input and the execution thread take turns

Where the two threads stand, what the slot holds and whether the exit flag is set depend on each
other: there are nine ways in which they can be found, and every step of every thread leads from
one to another. The supervisor stands aside until both have ended, and then finds nothing to do
about either.

Results:
1. `Alternation.input_moves`, `Alternation.execution_moves`: each of the two threads keeps the
   alternation.
2. `Shell.Coordinated.moves`: so does every step of the shell.
3. `Run.coordinated`: every state of every run is one of the nine.
-/

namespace JobShell

open Thread (Input Execution Signals Supervisor Status)

namespace Thread

/-- The input thread has not set the exit flag. -/
def Input.IsFree : Input → Prop
  | .offeringShutdown _ => False
  | _ => True

/-- The execution thread has a command in hand and has not failed. -/
def Execution.IsServing : Execution → Prop
  | .deciding _ | .launching .. | .settingExit _ | .releasing none => True
  | .awaiting | .releasing (some _) => False

end Thread

/-- The input thread on its way out after a launch that failed. -/
inductive Dismissed : Status Input (Except Fault Unit) → Prop
  | waiting : Dismissed (.running .waiting)
  | looking : Dismissed (.running .looking)
  | leaving : Dismissed (.running (.leaving (.ok ())))
  | ended : Dismissed (.ended (.ok ()))

/-- How the two threads, the slot and the exit flag are found together. -/
inductive Alternation :
    Status Input (Except Fault Unit) → Status Execution (Except LaunchError Unit) →
      Slot → Bool → Prop
  | reading {i : Input} : i.IsFree → Alternation (.running i) (.running .awaiting) .empty false
  | offered {c : Command} :
      Alternation (.running .waiting) (.running .awaiting) (.ready (.run c)) false
  | serving {x : Execution} :
      x.IsServing → Alternation (.running .waiting) (.running x) .running false
  | failing {e : LaunchError} :
      Alternation (.running .waiting) (.running (.releasing (some (.error e)))) .running true
  | failed {i : Status Input (Except Fault Unit)} {e : LaunchError} :
      Dismissed i → Alternation i (.ended (.error e)) .empty true
  | stopping {r : Except Fault Unit} :
      Alternation (.running (.offeringShutdown r)) (.running .awaiting) .empty true
  | stopped {r : Except Fault Unit} :
      Alternation (.ended r) (.running .awaiting) (.ready .shutdown) true
  | closing {r : Except Fault Unit} :
      Alternation (.ended r) (.running (.releasing (some (.ok ())))) .running true
  | closed {r : Except Fault Unit} : Alternation (.ended r) (.ended (.ok ())) .empty true

/-! ## The two threads -/

namespace Launch

theorem concernsSlot_turn (c : Command) (l : Launch) : (l.turn c).call.concernsSlot = false := by
  cases l <;> rfl

theorem turn_ne_setExiting (c : Command) (l : Launch) : (l.turn c).call ≠ .setExiting := by
  cases l <;> exact nofun

end Launch

namespace Thread

theorem Execution.isServing_afterLaunch {c : Command} {p : Launch.Progress} :
    ∃ x : Execution, afterLaunch c p = .running x ∧ x.IsServing := by
  cases p with
  | running l => exact ⟨_, rfl, trivial⟩
  | ended result =>
      cases result with
      | ok launched => exact ⟨_, rfl, trivial⟩
      | error e => exact ⟨_, rfl, trivial⟩

theorem Input.isFree_accept (maxToken : Nat) (l : Line) : (accept maxToken l).IsFree := by
  unfold accept dispatch
  repeat' split
  all_goals trivial

theorem Input.isFree_readOn (maxToken : Nat) (r : LineReader) (outcome : ReadOutcome) :
    (readOn maxToken r outcome).IsFree := by
  unfold readOn
  split
  · trivial
  · exact isFree_accept ..
  · trivial

end Thread

namespace Alternation

variable {W : Type} {world : World W} {shared after : Shared W}

theorem input_moves {limits : Limits} {i : Input} {x : Status Execution (Except LaunchError Unit)}
    {reply} (alternation : Alternation (.running i) x shared.slot shared.exiting)
    (answered : shared.answer world (i.turn limits).call = some (reply, after)) :
    Alternation ((i.turn limits).resume reply) x after.slot after.exiting := by
  obtain ⟨slot, exiting, jobs, w⟩ := shared
  cases alternation with
  | reading free =>
      cases i with
      | offering c =>
          cases answered
          exact .offered
      | settingExit r =>
          cases answered
          exact .stopping
      | offeringShutdown r => exact absurd free id
      | reading r =>
          simp only [Input.turn, Shared.answer, Option.map_eq_some_iff] at answered
          obtain ⟨_, _, same⟩ := answered
          cases same
          exact .reading (Input.isFree_readOn ..)
      | moving dir =>
          cases answered
          simp only [Input.turn]
          split <;> exact .reading trivial
      | _ =>
          cases answered
          exact .reading trivial
  | offered | serving | failing => cases answered
  | failed dismissed =>
      cases dismissed with
      | waiting => cases answered; exact .failed .looking
      | looking => cases answered; exact .failed .leaving
      | leaving => cases answered; exact .failed .ended
  | stopping =>
      cases answered
      exact .stopped

theorem execution_moves {i : Status Input (Except Fault Unit)} {x : Execution} {reply}
    (alternation : Alternation i (.running x) shared.slot shared.exiting)
    (answered : shared.answer world x.turn.call = some (reply, after)) :
    Alternation i (x.turn.resume reply) after.slot after.exiting := by
  obtain ⟨slot, exiting, jobs, w⟩ := shared
  cases alternation with
  | reading | stopping => cases answered
  | offered =>
      cases answered
      exact .serving trivial
  | @serving x serves =>
      cases x with
      | awaiting => exact absurd serves id
      | deciding c =>
          cases answered
          exact .serving trivial
      | launching c l =>
          -- a launch touches neither the slot nor the flag
          have slotKept := Shared.slot_answer answered (Launch.concernsSlot_turn c l)
          have flagKept := Shared.exiting_answer answered (Launch.turn_ne_setExiting c l)
          obtain ⟨x, goesOn, serves⟩ :=
            Execution.isServing_afterLaunch (c := c) (p := (l.turn c).resume reply)
          rw [slotKept, flagKept]
          show Alternation _ (Execution.afterLaunch c _) _ _
          rw [goesOn]
          exact .serving serves
      | settingExit e =>
          cases answered
          exact .failing
      | releasing result =>
          cases result with
          | none =>
              cases answered
              exact .reading trivial
          | some result => exact absurd serves id
  | failing =>
      cases answered
      exact .failed .waiting
  | stopped =>
      cases answered
      exact .closing
  | closing =>
      cases answered
      exact .closed

/-- Where the input thread can go on, the slot is empty, and the execution thread waits for a
request or has ended. -/
theorem vacant_of_input_moves {limits : Limits} {i : Input}
    {x : Status Execution (Except LaunchError Unit)} {reply}
    (alternation : Alternation (.running i) x shared.slot shared.exiting)
    (answered : shared.answer world (i.turn limits).call = some (reply, after)) :
    shared.slot = .empty ∧ (x = .running .awaiting ∨ ∃ result, x = .ended result) := by
  obtain ⟨slot, exiting, jobs, w⟩ := shared
  cases alternation with
  | offered | serving | failing => cases answered
  | reading | stopping => exact ⟨rfl, .inl rfl⟩
  | failed => exact ⟨rfl, .inr ⟨_, rfl⟩⟩

/-- Once both threads have ended, the slot is empty and the flag is set. -/
theorem of_ended {r : Except Fault Unit} {x : Except LaunchError Unit} {slot : Slot}
    {exiting : Bool} (alternation : Alternation (.ended r) (.ended x) slot exiting) :
    slot = .empty ∧ exiting = true := by
  cases alternation <;> exact ⟨rfl, rfl⟩

theorem exiting_of_ended {r : Except Fault Unit} {x : Status Execution (Except LaunchError Unit)}
    {slot : Slot} {exiting : Bool} (alternation : Alternation (.ended r) x slot exiting) :
    exiting = true := by
  cases alternation <;> rfl

end Alternation

/-! ## The supervisor -/

/-- What the supervisor knows: the results of those who have ended. It never comes to set the exit
flag for the input thread, because that one has always seen it set. -/
inductive Supervision (i : Status Input (Except Fault Unit))
    (x : Status Execution (Except LaunchError Unit)) :
    Status Supervisor (Except Fault Unit × Nat) → Prop
  | joiningInput : Supervision i x (.running .joiningInput)
  | looking {r} : i = .ended r → Supervision i x (.running (.looking r))
  | joiningExecution {r} : i = .ended r → Supervision i x (.running (.joiningExecution r))
  | closing {r y} : i = .ended r → x = .ended y → Supervision i x (.running (.closing r y))
  | stopping {r y} : i = .ended r → x = .ended y → Supervision i x (.running (.stopping r y))
  | joiningSignals {r y} :
      i = .ended r → x = .ended y → Supervision i x (.running (.joiningSignals r y))
  | forgetting {r y g} : i = .ended r → x = .ended y →
      Supervision i x (.running (.forgetting (Supervisor.outcome r y g)))
  | ended {r y g left} : i = .ended r → x = .ended y →
      Supervision i x (.ended (Supervisor.outcome r y g, left))

namespace Supervision

variable {i j : Status Input (Except Fault Unit)}
  {x y : Status Execution (Except LaunchError Unit)}
  {v : Status Supervisor (Except Fault Unit × Nat)}

theorem of_input_running {state : Input} (supervision : Supervision (.running state) x v) :
    v = .running .joiningInput := by
  cases supervision <;> first | rfl | contradiction

theorem of_execution_moves {state : Execution} (supervision : Supervision i (.running state) v) :
    Supervision i y v := by
  cases supervision with
  | joiningInput => exact .joiningInput
  | looking ended => exact .looking ended
  | joiningExecution ended => exact .joiningExecution ended
  | closing _ ended | stopping _ ended | joiningSignals _ ended | forgetting _ ended
  | ended _ ended => cases ended

theorem concernsSlot_turn {state : Supervisor} (supervision : Supervision i x (.running state)) :
    state.turn.call.concernsSlot = false := by
  cases supervision <;> rfl

end Supervision

/-! ## The shell -/

namespace Shell

variable {W : Type} {world : World W} {s after : Shell W} {e : Event}

/-- The alternation of the two threads, and what the supervisor knows of them. -/
structure Coordinated (s : Shell W) : Prop where
  alternation : Alternation s.input s.execution s.shared.slot s.shared.exiting
  supervision : Supervision s.input s.execution s.supervisor

namespace Coordinated

theorem boot (limits : Limits) (w : W) : (Shell.boot limits w).Coordinated :=
  ⟨.reading trivial, .joiningInput⟩

theorem withWorld (ordered : s.Coordinated) (w : W) : (s.withWorld w).Coordinated :=
  ⟨ordered.alternation, ordered.supervision⟩

theorem supervisor_moves {v : Supervisor} {reply shared} (ordered : s.Coordinated)
    (at_ : s.supervisor = .running v)
    (answered : s.answerSupervisor world v.turn.call = some (reply, shared)) :
    Coordinated { s with supervisor := v.turn.resume reply, shared } := by
  obtain ⟨alternation, supervision⟩ := ordered
  rw [at_] at supervision
  cases supervision with
  | joiningInput =>
      simp only [Supervisor.turn, answerSupervisor, Option.map_eq_some_iff] at answered
      obtain ⟨_, found, same⟩ := answered
      cases same
      exact ⟨alternation, .looking (endOf_eq_some_iff.1 found)⟩
  | looking ended =>
      have exiting : s.shared.exiting = true := by
        rw [ended] at alternation
        exact alternation.exiting_of_ended
      cases answered
      refine ⟨alternation, ?_⟩
      simp only [Supervisor.turn, exiting, if_true]
      exact .joiningExecution ended
  | joiningExecution ended =>
      simp only [Supervisor.turn, answerSupervisor, Option.map_eq_some_iff] at answered
      obtain ⟨_, found, same⟩ := answered
      cases same
      exact ⟨alternation, .closing ended (endOf_eq_some_iff.1 found)⟩
  | closing ended halted =>
      cases answered
      rw [ended, halted] at alternation
      obtain ⟨vacant, exiting⟩ := alternation.of_ended
      refine ⟨?_, .stopping ended halted⟩
      rw [vacant, exiting] at alternation
      simpa only [ended, halted, vacant] using alternation
  | stopping ended halted =>
      cases answered
      refine ⟨alternation, ?_⟩
      simp only [Supervisor.turn]
      split
      · exact .joiningSignals ended halted
      · exact .forgetting ended halted
  | joiningSignals ended halted =>
      simp only [Supervisor.turn, answerSupervisor, Option.map_eq_some_iff] at answered
      obtain ⟨_, _, same⟩ := answered
      cases same
      exact ⟨alternation, .forgetting ended halted⟩
  | forgetting ended halted =>
      cases answered
      exact ⟨alternation, .ended ended halted⟩

theorem signals_calls (g : Signals) :
    g.turn.call.concernsSlot = false ∧ g.turn.call ≠ .setExiting := by
  cases g with
  | reaping r => cases r <;> exact ⟨rfl, nofun⟩
  | _ => exact ⟨rfl, nofun⟩

theorem moves (ordered : s.Coordinated) (moves : s.Moves world e after) : after.Coordinated := by
  cases moves with
  | input at_ answered =>
      obtain ⟨alternation, supervision⟩ := ordered
      rw [at_] at alternation supervision
      refine ⟨alternation.input_moves answered, ?_⟩
      rw [supervision.of_input_running]
      exact .joiningInput
  | execution at_ answered =>
      obtain ⟨alternation, supervision⟩ := ordered
      rw [at_] at alternation supervision
      exact ⟨alternation.execution_moves answered, supervision.of_execution_moves⟩
  | @signals g _ _ at_ answered =>
      obtain ⟨alternation, supervision⟩ := ordered
      have slotKept := Shared.slot_answer answered (signals_calls g).1
      have flagKept := Shared.exiting_answer answered (signals_calls g).2
      exact ⟨by rw [slotKept, flagKept]; exact alternation, supervision⟩
  | supervisor at_ answered => exact ordered.supervisor_moves at_ answered

end Coordinated

end Shell

theorem Run.coordinated {W : Type} {world : World W} {outside : W → W → Prop} {limits : Limits}
    {w : W} {t : Trace} {s : Shell W} (run : Run world outside (Shell.boot limits w) t s) :
    s.Coordinated :=
  run.invariant (P := fun _ s => s.Coordinated) (.boot limits w) (fun ordered => ordered.moves)
    fun ordered _ => ordered.withWorld _

end JobShell
