import JobShell.Shell

/-!
# Runs of the shell

A run is any sequence of steps of the threads, in any order, with changes of the world in between
that no thread makes: input arrives, children go on and end, signals are sent. Every step leaves
an event behind: who called what, and what came back. What is proved about runs is proved for
every world and, unless a relation says otherwise, for every change of it.

Results:
1. `Shell.step_eq_some_iff`: the moves of a run are exactly the steps of the shell.
2. `Shell.Moves.answered`, `Shell.Moves.slot_eq` and its companions: what a step leaves alone.
3. `Shell.Moves.shared_eq_of_prints`: what a step writes to standard output.
4. `Run.invariant`: what every step and every change of the world keeps holds throughout a run.
-/

namespace JobShell

/-! ## What a call leaves alone -/

namespace Call

/-- Whether a call may change the slot. -/
def concernsSlot : Call → Bool
  | .offer _ | .awaitRequest | .release => true
  | _ => false

/-- Whether a call waits for the end of a thread. -/
def joins : Call → Bool
  | .joinInput | .joinExecution | .joinSignals => true
  | _ => false

/-- Whether a call may change the registry. -/
def concernsJobs : Call → Bool
  | .track .. | .untrack _ | .forgetJobs => true
  | _ => false

end Call

namespace Shared

variable {W : Type} {world : World W} {s after : Shared W} {c : Call} {reply : c.Reply}

/-- A call changes of what is shared only what it concerns. -/
theorem answer_frame (answered : s.answer world c = some (reply, after)) :
    (c.concernsSlot = false → after.slot = s.slot) ∧
      (c ≠ .setExiting → after.exiting = s.exiting) ∧
      (c.concernsJobs = false → after.jobs = s.jobs) := by
  cases c with
  | offer r =>
      simp only [answer] at answered
      split at answered <;> cases answered <;> exact ⟨nofun, fun _ => rfl, fun _ => rfl⟩
  | awaitVacancy =>
      simp only [answer] at answered
      split at answered <;> cases answered
      exact ⟨fun _ => rfl, fun _ => rfl, fun _ => rfl⟩
  | awaitRequest =>
      simp only [answer, Option.map_eq_some_iff] at answered
      obtain ⟨_, _, same⟩ := answered
      cases same
      exact ⟨nofun, fun _ => rfl, fun _ => rfl⟩
  | release =>
      cases answered
      exact ⟨nofun, fun _ => rfl, fun _ => rfl⟩
  | setExiting =>
      cases answered
      exact ⟨fun _ => rfl, fun other => absurd rfl other, fun _ => rfl⟩
  | track pid name =>
      simp only [answer] at answered
      split at answered <;> cases answered <;> exact ⟨fun _ => rfl, fun _ => rfl, nofun⟩
  | untrack | forgetJobs =>
      cases answered
      exact ⟨fun _ => rfl, fun _ => rfl, nofun⟩
  | readByte | waitFor | awaitSignal =>
      simp only [answer, Option.map_eq_some_iff] at answered
      obtain ⟨_, _, same⟩ := answered
      cases same
      exact ⟨fun _ => rfl, fun _ => rfl, fun _ => rfl⟩
  | joinInput | joinExecution | joinSignals => cases answered
  | _ =>
      cases answered
      exact ⟨fun _ => rfl, fun _ => rfl, fun _ => rfl⟩

theorem slot_answer (answered : s.answer world c = some (reply, after))
    (other : c.concernsSlot = false) : after.slot = s.slot :=
  (answer_frame answered).1 other

theorem exiting_answer (answered : s.answer world c = some (reply, after))
    (other : c ≠ .setExiting) : after.exiting = s.exiting :=
  (answer_frame answered).2.1 other

theorem jobs_answer (answered : s.answer world c = some (reply, after))
    (other : c.concernsJobs = false) : after.jobs = s.jobs :=
  (answer_frame answered).2.2 other

theorem jobs_tracked {pid : Pid} {name : String}
    (answered : s.answer world (.track pid name) = some (Except.ok (), after)) :
    after.jobs = s.jobs.insert pid name := by
  simp only [answer] at answered
  split at answered <;> cases answered
  rfl

/-- A job that cannot be registered leaves the registry as it is. -/
theorem jobs_refused {pid : Pid} {name : String} {e : RegistrationError}
    (answered : s.answer world (.track pid name) = some (Except.error e, after)) :
    after.jobs = s.jobs := by
  simp only [answer] at answered
  split at answered <;> cases answered
  rfl

theorem advance_eq_some_iff {σ ρ : Type} {turn : σ → Thread.Turn σ ρ}
    {t later : Thread.Status σ ρ} :
    s.advance world turn t = some (later, after) ↔ ∃ state reply, t = .running state ∧
      s.answer world (turn state).call = some (reply, after) ∧
      later = (turn state).resume reply := by
  cases t with
  | ended result => simp [advance]
  | running state =>
      simp only [advance, Option.map_eq_some_iff, Prod.mk.injEq, Thread.Status.running.injEq]
      constructor
      · rintro ⟨⟨reply, _⟩, answered, rfl, rfl⟩
        exact ⟨state, reply, rfl, answered, rfl⟩
      · rintro ⟨_, reply, rfl, answered, rfl⟩
        exact ⟨(reply, after), answered, rfl, rfl⟩

end Shared

/-- `world.Does c reply w after`: a call that is answered with `reply` takes the world from `w` to
`after`. What only threads share is no part of the world. -/
def World.Does {W : Type} (world : World W) : (c : Call) → c.Reply → W → W → Prop
  | .print _, _, w, after | .printByOccupancy .., _, w, after | .printJobs, _, w, after =>
      ∃ bs, after = world.print bs w
  | .complain bs, _, w, after => after = world.complain bs w
  | .readByte, r, w, after => world.readByte w = some (r, after)
  | .changeDirectory dir, r, w, after => world.changeDirectory dir w = (r, after)
  | .fork c, r, w, after => world.fork c w = (r, after)
  | .blockSignals, _, w, after => after = world.blockSignals w
  | .waitFor pid options, r, w, after => world.waitFor pid options w = some (r, after)
  | .track .., r, w, after => world.reserve w = (r, after)
  | .raiseChild, _, w, after => after = world.raiseChild w
  | .awaitSignal, r, w, after => world.awaitSignal w = some (r, after)
  | .sendStop, r, w, after => world.sendStop w = (r, after)
  | _, _, w, after => after = w

theorem Shared.does_answer {W : Type} {world : World W} {s after : Shared W} {c : Call}
    {reply : c.Reply} (answered : s.answer world c = some (reply, after)) :
    world.Does c reply s.world after.world := by
  cases c with
  | offer r =>
      simp only [answer] at answered
      split at answered <;> cases answered <;> rfl
  | awaitVacancy =>
      simp only [answer] at answered
      split at answered <;> cases answered
      rfl
  | awaitRequest =>
      simp only [answer, Option.map_eq_some_iff] at answered
      obtain ⟨_, _, same⟩ := answered
      cases same
      rfl
  | readByte | waitFor | awaitSignal =>
      simp only [answer, Option.map_eq_some_iff] at answered
      obtain ⟨_, found, same⟩ := answered
      cases same
      exact found
  | track pid name =>
      simp only [answer] at answered
      split at answered <;> cases answered <;> assumption
  | print | printByOccupancy | printJobs =>
      cases answered
      exact ⟨_, rfl⟩
  | joinInput | joinExecution | joinSignals => cases answered
  | _ =>
      cases answered
      rfl

/-- The request that waits in the slot. -/
def Slot.pending : Slot → List Request
  | .ready r => [r]
  | _ => []

/-! ## Moves and runs -/

/-- One call of one thread, and what came back. -/
structure Event where
  thread : ThreadId
  call : Call
  reply : call.Reply

/-- What has happened, the first event in front. -/
abbrev Trace := List Event

theorem Trace.filterMap_concat {α : Type} (f : Event → Option α) (t : Trace) (e : Event) :
    (t ++ [e]).filterMap f = t.filterMap f ++ (f e).toList := by
  rw [List.filterMap_append]
  cases found : f e <;> simp [found]

theorem Trace.filterMap_concat_of_none {α : Type} {f : Event → Option α} {t : Trace} {e : Event}
    (none : f e = none) : (t ++ [e]).filterMap f = t.filterMap f := by
  rw [filterMap_concat, none]
  exact List.append_nil _

namespace Shell

variable {W : Type}

/-- The shell when its threads start. -/
def boot (limits : Limits) (w : W) : Shell W := { limits, shared := { world := w } }

theorem endOf_eq_some_iff {σ ρ : Type} {t : Thread.Status σ ρ} {result : ρ} :
    endOf t = some result ↔ t = .ended result := by
  cases t <;> simp [endOf]

def withWorld (s : Shell W) (w : W) : Shell W := { s with shared := { s.shared with world := w } }

/-- A thread that is on its way, with the call that it is about to make. -/
inductive AtCall (s : Shell W) : ThreadId → Call → Prop
  | input {i : Thread.Input} : s.input = .running i → AtCall s .input (i.turn s.limits).call
  | execution {x : Thread.Execution} : s.execution = .running x → AtCall s .execution x.turn.call
  | signals {g : Thread.Signals} : s.signals = .running g → AtCall s .signals g.turn.call
  | supervisor {v : Thread.Supervisor} :
      s.supervisor = .running v → AtCall s .supervisor v.turn.call

theorem atCall_of_call? {s : Shell W} {thread : ThreadId} {c : Call}
    (next : s.call? thread = some c) : s.AtCall thread c := by
  cases thread with
  | input =>
      simp only [call?] at next
      split at next <;> cases next
      exact .input ‹_›
  | execution =>
      simp only [call?] at next
      split at next <;> cases next
      exact .execution ‹_›
  | signals =>
      simp only [call?] at next
      split at next <;> cases next
      exact .signals ‹_›
  | supervisor =>
      simp only [call?] at next
      split at next <;> cases next
      exact .supervisor ‹_›

/-- `s.Moves world e after`: the thread of `e` makes its call in `s` and the shell is `after`. -/
inductive Moves (world : World W) (s : Shell W) : Event → Shell W → Prop
  | input {i : Thread.Input} {reply shared} :
      s.input = .running i →
      s.shared.answer world (i.turn s.limits).call = some (reply, shared) →
      Moves world s ⟨.input, (i.turn s.limits).call, reply⟩
        { s with input := (i.turn s.limits).resume reply, shared }
  | execution {x : Thread.Execution} {reply shared} :
      s.execution = .running x →
      s.shared.answer world x.turn.call = some (reply, shared) →
      Moves world s ⟨.execution, x.turn.call, reply⟩
        { s with execution := x.turn.resume reply, shared }
  | signals {g : Thread.Signals} {reply shared} :
      s.signals = .running g →
      s.shared.answer world g.turn.call = some (reply, shared) →
      Moves world s ⟨.signals, g.turn.call, reply⟩
        { s with signals := g.turn.resume reply, shared }
  | supervisor {v : Thread.Supervisor} {reply shared} :
      s.supervisor = .running v →
      s.answerSupervisor world v.turn.call = some (reply, shared) →
      Moves world s ⟨.supervisor, v.turn.call, reply⟩
        { s with supervisor := v.turn.resume reply, shared }

/-- A step together with the event that it leaves behind. -/
def act (world : World W) (s : Shell W) : ThreadId → Option (Event × Shell W)
  | .input =>
      match s.input with
      | .ended _ => none
      | .running i =>
          (s.shared.answer world (i.turn s.limits).call).map fun (reply, shared) =>
            (⟨.input, _, reply⟩, { s with input := (i.turn s.limits).resume reply, shared })
  | .execution =>
      match s.execution with
      | .ended _ => none
      | .running x =>
          (s.shared.answer world x.turn.call).map fun (reply, shared) =>
            (⟨.execution, _, reply⟩, { s with execution := x.turn.resume reply, shared })
  | .signals =>
      match s.signals with
      | .ended _ => none
      | .running g =>
          (s.shared.answer world g.turn.call).map fun (reply, shared) =>
            (⟨.signals, _, reply⟩, { s with signals := g.turn.resume reply, shared })
  | .supervisor =>
      match s.supervisor with
      | .ended _ => none
      | .running v =>
          (s.answerSupervisor world v.turn.call).map fun (reply, shared) =>
            (⟨.supervisor, _, reply⟩, { s with supervisor := v.turn.resume reply, shared })

theorem moves_iff_act {world : World W} {s after : Shell W} {e : Event} :
    s.Moves world e after ↔ s.act world e.thread = some (e, after) := by
  constructor
  · intro moves
    cases moves with
    | input at_ answered => simp [act, at_, answered]
    | execution at_ answered => simp [act, at_, answered]
    | signals at_ answered => simp [act, at_, answered]
    | supervisor at_ answered => simp [act, at_, answered]
  · obtain ⟨thread, call, reply⟩ := e
    intro acted
    cases thread with
    | input =>
        cases at_ : s.input with
        | ended result => simp [act, at_] at acted
        | running i =>
            simp only [act, at_, Option.map_eq_some_iff] at acted
            obtain ⟨⟨reply, shared⟩, answered, same⟩ := acted
            cases same
            exact .input at_ answered
    | execution =>
        cases at_ : s.execution with
        | ended result => simp [act, at_] at acted
        | running x =>
            simp only [act, at_, Option.map_eq_some_iff] at acted
            obtain ⟨⟨reply, shared⟩, answered, same⟩ := acted
            cases same
            exact .execution at_ answered
    | signals =>
        cases at_ : s.signals with
        | ended result => simp [act, at_] at acted
        | running g =>
            simp only [act, at_, Option.map_eq_some_iff] at acted
            obtain ⟨⟨reply, shared⟩, answered, same⟩ := acted
            cases same
            exact .signals at_ answered
    | supervisor =>
        cases at_ : s.supervisor with
        | ended result => simp [act, at_] at acted
        | running v =>
            simp only [act, at_, Option.map_eq_some_iff] at acted
            obtain ⟨⟨reply, shared⟩, answered, same⟩ := acted
            cases same
            exact .supervisor at_ answered

theorem thread_of_act {world : World W} {s after : Shell W} {e : Event} {thread : ThreadId}
    (acted : s.act world thread = some (e, after)) : e.thread = thread := by
  cases thread <;>
  · simp only [act] at acted
    split at acted
    · cases acted
    · obtain ⟨_, _, same⟩ := Option.map_eq_some_iff.1 acted
      cases same
      rfl

theorem step_eq_act (world : World W) (s : Shell W) (thread : ThreadId) :
    s.step world thread = (s.act world thread).map Prod.snd := by
  cases thread with
  | input => cases at_ : s.input <;> simp [step, Shared.advance, act, at_, Function.comp_def]
  | execution =>
      cases at_ : s.execution <;> simp [step, Shared.advance, act, at_, Function.comp_def]
  | signals => cases at_ : s.signals <;> simp [step, Shared.advance, act, at_, Function.comp_def]
  | supervisor => cases at_ : s.supervisor <;> simp [step, act, at_, Function.comp_def]

theorem step_eq_some_iff {world : World W} {s after : Shell W} {thread : ThreadId} :
    s.step world thread = some after ↔ ∃ e, e.thread = thread ∧ s.Moves world e after := by
  rw [step_eq_act, Option.map_eq_some_iff]
  constructor
  · rintro ⟨⟨e, after⟩, acted, rfl⟩
    have same := thread_of_act acted
    exact ⟨e, same, moves_iff_act.2 (same ▸ acted)⟩
  · rintro ⟨e, rfl, moves⟩
    exact ⟨(e, after), moves_iff_act.1 moves, rfl⟩

namespace Moves

variable {world : World W} {s after : Shell W} {e : Event}

/-- A move is answered by what the threads share, but for the calls that wait for the end of a
thread, and those leave everything as it is. -/
theorem answered (moves : s.Moves world e after) :
    s.shared.answer world e.call = some (e.reply, after.shared) ∨
      e.call.joins = true ∧ after.shared = s.shared := by
  cases moves with
  | input _ answered | execution _ answered | signals _ answered => exact .inl answered
  | @supervisor v reply shared _ answered =>
      -- the type of the reply depends on the call, so both are generalized together
      revert reply
      generalize v.turn.resume = resume
      revert resume
      generalize v.turn.call = call
      intro resume reply answered
      cases call with
      | joinInput | joinExecution | joinSignals =>
          simp only [answerSupervisor, Option.map_eq_some_iff] at answered
          obtain ⟨_, _, same⟩ := answered
          cases same
          exact .inr ⟨rfl, rfl⟩
      | _ => exact .inl answered

theorem does (moves : s.Moves world e after) :
    world.Does e.call e.reply s.shared.world after.shared.world := by
  rcases moves.answered with answered | ⟨joins, same⟩
  · exact Shared.does_answer answered
  · obtain ⟨thread, call, reply⟩ := e
    rw [same]
    cases call with
    | joinInput | joinExecution | joinSignals => rfl
    | _ => cases joins

/-- What a call writes to standard output the world is given to print, and that is all it does. -/
theorem shared_eq_of_prints (moves : s.Moves world e after) (prints : e.call.prints = true) :
    after.shared = { s.shared with
      world := world.print (e.call.output s.shared.slot s.shared.jobs) s.shared.world } := by
  rcases moves.answered with answered | ⟨joins, _⟩
  · have printed := Shared.answer_of_prints prints world s.shared
    rw [answered] at printed
    exact Option.some.inj printed
  · obtain ⟨thread, call, reply⟩ := e
    cases call with
    | print | printJobs | printByOccupancy => cases joins
    | _ => cases prints

theorem slot_eq (moves : s.Moves world e after) (other : e.call.concernsSlot = false) :
    after.shared.slot = s.shared.slot := by
  rcases moves.answered with answered | ⟨_, same⟩
  · exact Shared.slot_answer answered other
  · rw [same]

theorem exiting_eq (moves : s.Moves world e after) (other : e.call ≠ .setExiting) :
    after.shared.exiting = s.shared.exiting := by
  rcases moves.answered with answered | ⟨_, same⟩
  · exact Shared.exiting_answer answered other
  · rw [same]

theorem exiting_of_setExiting (moves : s.Moves world e after) (sets : e.call = .setExiting) :
    after.shared.exiting = true := by
  obtain ⟨thread, call, reply⟩ := e
  cases sets
  rcases moves.answered with answered | ⟨joins, _⟩
  · have set : some ((), { s.shared with exiting := true }) = some (reply, after.shared) := answered
    rw [← (Prod.mk.inj (Option.some.inj set)).2]
  · cases joins

theorem jobs_eq (moves : s.Moves world e after) (other : e.call.concernsJobs = false) :
    after.shared.jobs = s.shared.jobs := by
  rcases moves.answered with answered | ⟨_, same⟩
  · exact Shared.jobs_answer answered other
  · rw [same]

theorem limits_eq (moves : s.Moves world e after) : after.limits = s.limits := by
  cases moves <;> rfl

theorem input_eq (moves : s.Moves world e after) (other : e.thread ≠ .input) :
    after.input = s.input := by
  cases moves <;> first | rfl | exact absurd rfl other

theorem execution_eq (moves : s.Moves world e after) (other : e.thread ≠ .execution) :
    after.execution = s.execution := by
  cases moves <;> first | rfl | exact absurd rfl other

theorem call?_eq (moves : s.Moves world e after) : s.call? e.thread = some e.call := by
  cases moves <;> simp only [call?, *]

/-- A thread that does not move stays at its call. -/
theorem call?_of_ne {thread : ThreadId} (moves : s.Moves world e after)
    (other : e.thread ≠ thread) : after.call? thread = s.call? thread := by
  cases moves <;> cases thread <;> first | rfl | exact absurd rfl other

end Moves

/-- The exit flag stays set. -/
theorem Moves.exiting_of_exiting {world : World W} {s after : Shell W} {e : Event}
    (moves : s.Moves world e after) (set : s.shared.exiting = true) :
    after.shared.exiting = true := by
  by_cases sets : e.call = .setExiting
  · exact moves.exiting_of_setExiting sets
  · exact (moves.exiting_eq sets).trans set

/-- Let the threads take their steps in a given order. -/
def play (world : World W) : List ThreadId → Shell W → Option (Trace × Shell W)
  | [], s => some ([], s)
  | thread :: order, s =>
      match s.act world thread with
      | none => none
      | some (e, s) => (play world order s).map fun (t, s) => (e :: t, s)

/-- Let the threads take their steps in one order, the world change, and the threads go on in
another order. -/
def playAround (world : World W) (before : List ThreadId) (change : W → Option W)
    (after : List ThreadId) (s : Shell W) : Option (Trace × Shell W) :=
  (s.play world before).bind fun (t, s) =>
    (change s.shared.world).bind fun w =>
      ((s.withWorld w).play world after).map fun (u, s) => (t ++ u, s)

end Shell

/-- `Run world outside s t after`: from `s` the threads may, with the trace `t`, come to `after`;
`outside` are the changes of the world between their steps. -/
inductive Run {W : Type} (world : World W) (outside : W → W → Prop) (s : Shell W) :
    Trace → Shell W → Prop
  | start : Run world outside s [] s
  | move {t : Trace} {now after : Shell W} {e : Event} :
      Run world outside s t now → now.Moves world e after → Run world outside s (t ++ [e]) after
  | outside {t : Trace} {now : Shell W} {w : W} :
      Run world outside s t now → outside now.shared.world w →
      Run world outside s t (now.withWorld w)

namespace Run

variable {W : Type} {world : World W} {outside : W → W → Prop} {s : Shell W}

/-- What holds at first, and what every step and every change of the world keeps, holds in every
state of a run. -/
theorem invariant {P : Trace → Shell W → Prop} {t : Trace} {now : Shell W}
    (run : Run world outside s t now) (first : P [] s)
    (moved : ∀ {t now e after}, P t now → now.Moves world e after → P (t ++ [e]) after)
    (changed : ∀ {t now w}, P t now → outside now.shared.world w → P t (now.withWorld w)) :
    P t now := by
  induction run with
  | start => exact first
  | move _ moves ih => exact moved ih moves
  | outside _ changes ih => exact changed ih changes

theorem trans {t u : Trace} {now last : Shell W} (first : Run world outside s t now)
    (second : Run world outside now u last) : Run world outside s (t ++ u) last := by
  induction second with
  | start =>
      rw [List.append_nil]
      exact first
  | move _ moves ih =>
      rw [← List.append_assoc]
      exact ih.move moves
  | outside _ changes ih => exact ih.outside changes

/-- A run is possible where more changes are. -/
theorem mono {others : W → W → Prop} {t : Trace} {now : Shell W} (run : Run world outside s t now)
    (more : ∀ w v, outside w v → others w v) : Run world others s t now := by
  induction run with
  | start => exact .start
  | move _ moves ih => exact ih.move moves
  | outside _ changes ih => exact ih.outside (more _ _ changes)

theorem play {t u : Trace} {now last : Shell W} {order : List ThreadId}
    (run : Run world outside s t now) (played : now.play world order = some (u, last)) :
    Run world outside s (t ++ u) last := by
  induction order generalizing t u now with
  | nil =>
      cases played
      exact (List.append_nil t).symm ▸ run
  | cons thread order ih =>
      simp only [Shell.play] at played
      split at played
      · cases played
      · next e after acted =>
          simp only [Option.map_eq_some_iff] at played
          obtain ⟨⟨u, last⟩, rest, same⟩ := played
          cases same
          have moves : now.Moves world e after :=
            Shell.moves_iff_act.2 (Shell.thread_of_act acted ▸ acted)
          have whole := ih (run.move moves) rest
          rwa [List.append_assoc, List.singleton_append] at whole

theorem playAround {u : Trace} {last : Shell W} {before after : List ThreadId}
    {change : W → Option W} (changes : ∀ {w v : W}, change w = some v → outside w v)
    (played : s.playAround world before change after = some (u, last)) :
    Run world outside s u last := by
  simp only [Shell.playAround, Option.bind_eq_some_iff, Option.map_eq_some_iff] at played
  obtain ⟨⟨t, now⟩, first, w, changed, ⟨u, last⟩, second, same⟩ := played
  cases same
  have run : Run world outside s ([] ++ t) now := Run.start.play first
  exact (run.outside (changes changed)).play second

/-- What stands in a longer list is the last one, or it stands in the list before. -/
theorem split_concat {α : Type} {t before during : List α} {e x : α}
    (same : t ++ [e] = before ++ x :: during) :
    (before = t ∧ x = e ∧ during = []) ∨
      ∃ rest, during = rest ++ [e] ∧ t = before ++ x :: rest := by
  rcases List.eq_nil_or_concat during with rfl | ⟨rest, last, rfl⟩
  · obtain ⟨front, back⟩ := List.append_inj' same rfl
    cases back
    exact .inl ⟨front.symm, rfl, rfl⟩
  · rw [List.concat_eq_append, ← List.cons_append, ← List.append_assoc] at same
    obtain ⟨front, back⟩ := List.append_inj' same rfl
    cases back
    exact .inr ⟨rest, List.concat_eq_append, front⟩

/-- A run with an event in it is a run up to the event, its move, and a run from there on. -/
theorem at_event {t : Trace} {last : Shell W} (run : Run world outside s t last) :
    ∀ {front back : Trace} {e : Event}, t = front ++ e :: back →
      ∃ now after, Run world outside s front now ∧ now.Moves world e after ∧
        Run world outside after back last := by
  induction run with
  | start => simp
  | move run moves ih =>
      intro front back e same
      rcases split_concat same with ⟨rfl, rfl, rfl⟩ | ⟨rest, rfl, earlier⟩
      · exact ⟨_, _, run, moves, .start⟩
      · obtain ⟨now, after, before, this, behind⟩ := ih earlier
        exact ⟨now, after, before, this, behind.move moves⟩
  | outside _ changes ih =>
      intro front back e same
      obtain ⟨now, after, before, this, behind⟩ := ih same
      exact ⟨now, after, before, this, behind.outside changes⟩

end Run

/-! ## What is written in a run -/

/-- What one call writes to standard output, and whether the slot is occupied at that. -/
structure Write where
  thread : ThreadId
  busy : Bool
  bytes : Bytes
deriving DecidableEq, Repr

namespace Shell

variable {W : Type}

/-- What the call of an event writes when it is made in `s`. -/
def writes (s : Shell W) (e : Event) : List Write :=
  if e.call.prints then
    [⟨e.thread, s.shared.slot.isBusy, e.call.output s.shared.slot s.shared.jobs⟩]
  else []

/-- What the threads write while they take their steps in a given order. -/
def playWrites (world : World W) : List ThreadId → Shell W → List Write
  | [], _ => []
  | thread :: order, s =>
      match s.act world thread with
      | none => []
      | some (e, after) => s.writes e ++ after.playWrites world order

/-- What they write while the world changes in between. -/
def playAroundWrites (world : World W) (before : List ThreadId) (change : W → Option W)
    (after : List ThreadId) (s : Shell W) : Option (List Write) :=
  (s.play world before).bind fun (_, now) =>
    (change now.shared.world).map fun w =>
      s.playWrites world before ++ (now.withWorld w).playWrites world after

end Shell

/-- `Recorded world outside s t ws after`: a run whose steps write `ws` to standard output. -/
inductive Recorded {W : Type} (world : World W) (outside : W → W → Prop) (s : Shell W) :
    Trace → List Write → Shell W → Prop
  | start : Recorded world outside s [] [] s
  | move {t : Trace} {ws : List Write} {now after : Shell W} {e : Event} :
      Recorded world outside s t ws now → now.Moves world e after →
      Recorded world outside s (t ++ [e]) (ws ++ now.writes e) after
  | outside {t : Trace} {ws : List Write} {now : Shell W} {w : W} :
      Recorded world outside s t ws now → outside now.shared.world w →
      Recorded world outside s t ws (now.withWorld w)

/-- Every run has a record. -/
theorem Run.exists_recorded {W : Type} {world : World W} {outside : W → W → Prop} {s now : Shell W}
    {t : Trace} (run : Run world outside s t now) : ∃ ws, Recorded world outside s t ws now := by
  induction run with
  | start => exact ⟨[], .start⟩
  | move _ moves ih =>
      obtain ⟨ws, recorded⟩ := ih
      exact ⟨_, recorded.move moves⟩
  | outside _ changes ih =>
      obtain ⟨ws, recorded⟩ := ih
      exact ⟨ws, recorded.outside changes⟩

namespace Recorded

variable {W : Type} {world : World W} {outside : W → W → Prop} {s now last : Shell W}
  {t u : Trace} {ws : List Write}

theorem run (recorded : Recorded world outside s t ws now) : Run world outside s t now := by
  induction recorded with
  | start => exact .start
  | move _ moves ih => exact ih.move moves
  | outside _ changes ih => exact ih.outside changes

theorem play {order : List ThreadId} (recorded : Recorded world outside s t ws now)
    (played : now.play world order = some (u, last)) :
    Recorded world outside s (t ++ u) (ws ++ now.playWrites world order) last := by
  induction order generalizing t u ws now with
  | nil =>
      cases played
      rw [Shell.playWrites, List.append_nil, List.append_nil]
      exact recorded
  | cons thread order ih =>
      simp only [Shell.play, Shell.playWrites] at played ⊢
      split at played
      · cases played
      · next e after acted =>
          simp only [Option.map_eq_some_iff] at played
          obtain ⟨⟨u, last⟩, rest, same⟩ := played
          cases same
          have moves : now.Moves world e after :=
            Shell.moves_iff_act.2 (Shell.thread_of_act acted ▸ acted)
          have whole := ih (recorded.move moves) rest
          rwa [List.append_assoc, List.append_assoc] at whole

theorem playAround {before after : List ThreadId} {change : W → Option W}
    (changes : ∀ {w v : W}, change w = some v → outside w v)
    (played : s.playAround world before change after = some (u, last))
    (wrote : s.playAroundWrites world before change after = some ws) :
    Recorded world outside s u ws last := by
  simp only [Shell.playAround, Option.bind_eq_some_iff, Option.map_eq_some_iff] at played
  obtain ⟨⟨t, now⟩, first, w, changed, ⟨u, last⟩, second, same⟩ := played
  cases same
  simp only [Shell.playAroundWrites, first, changed, Option.bind_some, Option.map_some] at wrote
  cases wrote
  have recorded : Recorded world outside s ([] ++ t) ([] ++ s.playWrites world before) now :=
    Recorded.start.play first
  exact (recorded.outside (changes changed)).play second

end Recorded

/-- A world in which every child ends well as soon as it is waited for, and no signal comes; what
is left of it is what can still be read. -/
def World.still : World Source where
  print _ source := source
  complain _ source := source
  readByte
    | [] => some (.endOfFile, [])
    | outcome :: rest => some (outcome, rest)
  changeDirectory _ source := (.ok (), source)
  fork _ source := (.ok 1, source)
  blockSignals source := source
  waitFor _ _ source := some (.status (.exited 0), source)
  reserve source := (.ok (), source)
  raiseChild source := source
  awaitSignal _ := none
  sendStop source := (.ok (), source)

end JobShell
