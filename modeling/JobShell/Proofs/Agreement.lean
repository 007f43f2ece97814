import JobShell.Proofs.Alternation

/-!
# What is launched is what was read

The input thread reads lines and hands over the commands that are not its own; the execution
thread launches what it takes. A run leaves both sides in its trace: the outcomes of the reads,
from which the lines and their commands follow, and the launches. This module compares the two,
at every moment of every run.

Results:
1. `Shell.Books.moves`: the commands read are those launched and the one that is on its way.
2. `Run.waiting_of_offered`: from the offer of a command to the release of the slot the input
   thread waits.
3. `launches_follow_input`: launches follow the input in order, none is lost, none overlaps with
   reading, and none comes after the exit flag.
-/

namespace JobShell

open Thread (Input Execution Signals Supervisor Status)

/-! ## What the input asks for -/

namespace LineReader

/-- The lines that are complete once a source has been read. A failed read drops its line. -/
def lines (maxLen : Nat) (r : LineReader) : Source → List Line
  | [] => []
  | outcome :: rest =>
      match r.feed outcome with
      | .more r => r.lines maxLen rest
      | .line l => l :: (start maxLen).lines maxLen rest
      | .failed _ => (start maxLen).lines maxLen rest

/-- The line that is half read after a source. -/
def after (maxLen : Nat) (r : LineReader) : Source → LineReader
  | [] => r
  | outcome :: rest =>
      match r.feed outcome with
      | .more r => r.after maxLen rest
      | .line _ | .failed _ => (start maxLen).after maxLen rest

theorem lines_append (maxLen : Nat) (r : LineReader) (a b : Source) :
    r.lines maxLen (a ++ b) = r.lines maxLen a ++ (r.after maxLen a).lines maxLen b := by
  induction a generalizing r with
  | nil => rfl
  | cons outcome rest ih =>
      simp only [List.cons_append, lines, after]
      split <;> simp [ih]

theorem after_append (maxLen : Nat) (r : LineReader) (a b : Source) :
    r.after maxLen (a ++ b) = (r.after maxLen a).after maxLen b := by
  induction a generalizing r with
  | nil => rfl
  | cons outcome rest ih =>
      simp only [List.cons_append, after]
      split <;> exact ih _

end LineReader

/-- The command that a line hands over: none if the line is refused or blank, or if it is for the
input thread itself. -/
def Line.command? (maxToken : Nat) : Line → Option Command
  | .text bytes =>
      match Command.parse maxToken bytes with
      | .ok c =>
          if c.argv = [] ∨ c.argv.head? ∈
              [some (Bytes.ofText "exit"), some (Bytes.ofText "jobs"), some (Bytes.ofText "cd")]
            then none
          else some c
      | .error _ => none
  | .tooLong | .endOfFile => none

theorem Line.command?_text {maxToken : Nat} {bytes : Bytes} {c : Command}
    (parsed : Command.parse maxToken bytes = .ok c) :
    (Line.text bytes).command? maxToken =
      if c.isBlank || (Thread.Builtin.ofCommand? c).isSome then none else some c := by
  simp only [command?, parsed, Command.isBlank, Bool.or_eq_true, List.isEmpty_iff,
    Thread.Builtin.isSome_ofCommand?_iff]

/-- The commands that the complete lines of a source hand over, in their order. -/
def Source.commands (limits : Limits) (source : Source) : List Command :=
  ((LineReader.start limits.line).lines limits.line source).filterMap (Line.command? limits.token)

theorem Source.commands_prefix {limits : Limits} {a b : Source} (front : a <+: b) :
    Source.commands limits a <+: Source.commands limits b := by
  obtain ⟨rest, rfl⟩ := front
  rw [commands, commands, LineReader.lines_append, List.filterMap_append]
  exact List.prefix_append ..

/-! ## What a trace shows -/

/-- What a read of the input thread came to. -/
def Event.outcome? : Event → Option ReadOutcome
  | ⟨.input, .readByte, outcome⟩ => some outcome
  | _ => none

/-- The command whose launch begins. -/
def Event.launched? : Event → Option Command
  | ⟨.execution, .fork c, _⟩ => some c
  | _ => none

theorem Event.outcome?_of_ne {e : Event} (other : e.thread ≠ .input) : e.outcome? = none := by
  unfold outcome?
  split
  · exact absurd rfl other
  · rfl

theorem Event.launched?_of_ne {e : Event} (other : e.thread ≠ .execution) :
    e.launched? = none := by
  unfold launched?
  split
  · exact absurd rfl other
  · rfl

namespace Trace

def outcomes (t : Trace) : Source := t.filterMap Event.outcome?

def launched (t : Trace) : List Command := t.filterMap Event.launched?

theorem outcomes_concat (t : Trace) (e : Event) :
    outcomes (t ++ [e]) = outcomes t ++ e.outcome?.toList :=
  filterMap_concat ..

theorem launched_concat (t : Trace) (e : Event) :
    launched (t ++ [e]) = launched t ++ e.launched?.toList :=
  filterMap_concat ..

end Trace

/-! ## The command that is on its way -/

namespace Thread

/-- The line that the input thread has in hand. -/
def Input.reader (maxLen : Nat) : Status Input (Except Fault Unit) → LineReader
  | .running (.reading r) => r
  | _ => .start maxLen

/-- The command that the input thread is about to offer. -/
def Input.carried : Status Input (Except Fault Unit) → List Command
  | .running (.offering c) => [c]
  | _ => []

/-- The command that the execution thread took and has not begun to launch. -/
def Execution.carried : Status Execution (Except LaunchError Unit) → List Command
  | .running (.deciding c) | .running (.launching c .forking) => [c]
  | _ => []

theorem Input.carried_accept (maxToken : Nat) (l : Line) :
    Input.carried (.running (accept maxToken l)) = (l.command? maxToken).toList := by
  cases l with
  | tooLong | endOfFile => rfl
  | text bytes =>
      cases parsed : Command.parse maxToken bytes with
      | error e => simp [accept, Line.command?, parsed, carried]
      | ok c =>
          cases blank : c.isBlank with
          | true => simp [accept, Line.command?_text parsed, parsed, blank, carried]
          | false =>
              simp only [accept, Line.command?_text parsed, parsed, blank, dispatch,
                Bool.false_eq_true, if_false, Bool.false_or]
              cases Builtin.ofCommand? c with
              | none => rfl
              | some builtin =>
                  cases builtin with
                  | exit | jobs => rfl
                  | cd => cases directoryArgument c.arguments <;> rfl

/-- A launch that has begun carries its command no more. -/
theorem Execution.carried_afterLaunch (c : Command) (l : Launch) (reply : (l.turn c).call.Reply) :
    Execution.carried (afterLaunch c ((l.turn c).resume reply)) = [] := by
  cases l with
  | forking => cases reply <;> rfl
  | shielding pid => simp only [Launch.turn]; split <;> rfl
  | registering pid => cases reply <;> rfl
  | announcing pid | raising pid | endingLine pid status => rfl
  | waiting pid =>
      simp only [Launch.turn, Launch.afterWait]
      repeat' split
      all_goals rfl

theorem Execution.carried_launching (c : Command) (l : Launch) (reply : (l.turn c).call.Reply) :
    Execution.carried (.running (.launching c l)) =
      (Event.launched? ⟨.execution, (l.turn c).call, reply⟩).toList := by
  cases l <;> rfl

theorem Input.reader_accept (maxLen maxToken : Nat) (l : Line) :
    Input.reader maxLen (.running (accept maxToken l)) = .start maxLen := by
  unfold accept dispatch
  repeat' split
  all_goals rfl

theorem Input.carried_readOn (maxLen maxToken : Nat) (r : LineReader) (outcome : ReadOutcome) :
    Input.carried (.running (readOn maxToken r outcome)) =
      (r.lines maxLen [outcome]).filterMap (Line.command? maxToken) := by
  simp only [readOn, LineReader.lines]
  cases r.feed outcome with
  | more r => rfl
  | line l =>
      simp only [carried_accept, List.filterMap_cons]
      cases l.command? maxToken <;> rfl
  | failed e => rfl

theorem Input.reader_readOn (maxLen maxToken : Nat) (r : LineReader) (outcome : ReadOutcome) :
    Input.reader maxLen (.running (readOn maxToken r outcome)) = r.after maxLen [outcome] := by
  simp only [readOn, LineReader.after]
  cases r.feed outcome with
  | more r => rfl
  | line l => exact reader_accept ..
  | failed e => rfl

end Thread

def Slot.carried : Slot → List Command
  | .ready (.run c) => [c]
  | _ => []

namespace Shell

variable {W : Type} {world : World W} {s after : Shell W} {t : Trace} {e : Event}

/-- The command that was read and is not yet launched, if there is one. -/
def carried (s : Shell W) : List Command :=
  Execution.carried s.execution ++ s.shared.slot.carried ++ Input.carried s.input

/-- The books of a run: the reads leave the line in hand, and the commands read are those
launched and those on their way. -/
structure Books (t : Trace) (s : Shell W) : Prop where
  reader : (LineReader.start s.limits.line).after s.limits.line t.outcomes =
    Input.reader s.limits.line s.input
  commands : Source.commands s.limits t.outcomes = t.launched ++ s.carried

namespace Books

theorem boot (limits : Limits) (w : W) : Books [] (Shell.boot limits w) := ⟨rfl, rfl⟩

/-- An event that is no read keeps the books if the line in hand stays, and the command on its way
is still on its way or just launched. -/
theorem concat (books : s.Books t) (limits : after.limits = s.limits)
    (silent : e.outcome? = none)
    (reader : Input.reader s.limits.line after.input = Input.reader s.limits.line s.input)
    (moved : s.carried = e.launched?.toList ++ after.carried) : after.Books (t ++ [e]) := by
  constructor
  · rw [Trace.outcomes_concat, silent, limits, reader]
    simpa using books.reader
  · rw [Trace.outcomes_concat, Trace.launched_concat, silent, limits, List.append_assoc, ← moved]
    simpa using books.commands

/-- A read feeds the line in hand, and its command, if the line is complete, is on its way. -/
theorem read {r : LineReader} {outcome : ReadOutcome} {w : W} (books : s.Books t)
    (at_ : s.input = .running (.reading r)) (nothing : s.carried = []) :
    Books (t ++ [⟨.input, .readByte, outcome⟩])
      { s with
        input := .running (Input.readOn s.limits.token r outcome)
        shared := { s.shared with world := w } } := by
  obtain ⟨reader, commands⟩ := books
  rw [at_, Input.reader] at reader
  rw [nothing, List.append_nil] at commands
  have others : Execution.carried s.execution ++ s.shared.slot.carried = [] :=
    (List.append_eq_nil_iff.1 nothing).1
  have grown : Trace.outcomes (t ++ [⟨.input, .readByte, outcome⟩]) = t.outcomes ++ [outcome] :=
    Trace.outcomes_concat ..
  have same : Trace.launched (t ++ [⟨.input, .readByte, outcome⟩]) = t.launched := by
    rw [Trace.launched_concat]
    exact List.append_nil _
  constructor
  · rw [grown, LineReader.after_append, reader, Input.reader_readOn]
  · rw [grown, same, carried, others, List.nil_append, Input.carried_readOn s.limits.line,
      Source.commands, LineReader.lines_append, List.filterMap_append, reader]
    exact congrArg (· ++ _) commands

theorem input_moves {i : Input} {reply shared} (books : s.Books t) (ordered : s.Coordinated)
    (at_ : s.input = .running i)
    (answered : s.shared.answer world (i.turn s.limits).call = some (reply, shared)) :
    Books (t ++ [⟨.input, (i.turn s.limits).call, reply⟩])
      { s with input := (i.turn s.limits).resume reply, shared } := by
  obtain ⟨limits, ⟨slot, exiting, jobs, w⟩, input, execution, signals, supervisor⟩ := s
  cases at_
  obtain ⟨vacant, aside⟩ := ordered.alternation.vacant_of_input_moves answered
  cases vacant
  have idle : Execution.carried execution = [] := by
    rcases aside with rfl | ⟨_, rfl⟩ <;> rfl
  cases i with
  | reading r =>
      simp only [Input.turn, Shared.answer, Option.map_eq_some_iff] at answered
      obtain ⟨⟨outcome, w⟩, _, same⟩ := answered
      cases same
      exact books.read rfl (by simp [carried, idle, Slot.carried, Input.carried])
  | offering c =>
      cases answered
      refine books.concat rfl rfl rfl ?_
      simp [carried, idle, Slot.carried, Input.carried, Input.turn, Event.launched?]
  | moving dir =>
      cases answered
      refine books.concat rfl rfl ?_ ?_
      · simp only [Input.turn]
        split <;> rfl
      · simp only [Input.turn]
        split <;> rfl
  | looking | leaving =>
      cases answered
      cases exiting <;> exact books.concat rfl rfl rfl rfl
  | _ =>
      cases answered
      exact books.concat rfl rfl rfl rfl

theorem execution_moves {x : Execution} {reply shared} (books : s.Books t)
    (ordered : s.Coordinated) (at_ : s.execution = .running x)
    (answered : s.shared.answer world x.turn.call = some (reply, shared)) :
    Books (t ++ [⟨.execution, x.turn.call, reply⟩])
      { s with execution := x.turn.resume reply, shared } := by
  obtain ⟨limits, ⟨slot, exiting, jobs, w⟩, input, execution, signals, supervisor⟩ := s
  cases at_
  have alternation := ordered.alternation
  cases alternation with
  | reading | stopping => cases answered
  | offered | stopped | failing | closing =>
      cases answered
      exact books.concat rfl rfl rfl rfl
  | serving serves =>
      cases x with
      | awaiting => exact absurd serves id
      | launching c l =>
          have kept := Shared.slot_answer answered (Launch.concernsSlot_turn c l)
          have begun : Execution.carried ((Execution.launching c l).turn.resume reply) = [] :=
            Execution.carried_afterLaunch c l reply
          refine books.concat rfl (Event.outcome?_of_ne nofun) rfl ?_
          simp only [carried, kept, begun, Slot.carried, Input.carried, List.append_nil]
          exact Execution.carried_launching c l reply
      | deciding c | settingExit e =>
          cases answered
          exact books.concat rfl rfl rfl rfl
      | releasing result =>
          cases result with
          | none =>
              cases answered
              exact books.concat rfl rfl rfl rfl
          | some result => exact absurd serves id

theorem moves (books : s.Books t) (ordered : s.Coordinated) (moves : s.Moves world e after) :
    after.Books (t ++ [e]) := by
  cases moves with
  | input at_ answered => exact books.input_moves ordered at_ answered
  | execution at_ answered => exact books.execution_moves ordered at_ answered
  | @signals g _ _ at_ answered =>
      have kept := Shared.slot_answer answered (Coordinated.signals_calls g).1
      refine books.concat rfl rfl rfl ?_
      simp [carried, kept, Event.launched?]
  | supervisor at_ answered =>
      have supervision := ordered.supervision
      rw [at_] at supervision
      have kept := Moves.slot_eq (.supervisor at_ answered) supervision.concernsSlot_turn
      refine books.concat rfl rfl rfl ?_
      simp only [carried] at kept ⊢
      simp [kept, Event.launched?]

end Books

end Shell

/-! ## Waiting and launching -/

namespace Thread

/-- Whether the input thread has come to `exit`, to the end of the input, to a failed read or to
an exit flag that is set, and reads no further line. -/
def Input.hasStopped : Status Input (Except Fault Unit) → Bool
  | .running .endingInput | .running (.leaving _) | .running (.settingExit _)
  | .running (.offeringShutdown _) | .ended _ => true
  | _ => false

end Thread

namespace Shell

variable {W : Type} {world : World W} {s after : Shell W} {e : Event} {c : Command}

namespace Coordinated

theorem carried_of_hasStopped (ordered : s.Coordinated)
    (stopped : Input.hasStopped s.input = true) : s.carried = [] := by
  have alternation := ordered.alternation
  have own : Input.carried s.input = [] := by
    revert stopped
    unfold Input.hasStopped Input.carried
    split <;> simp_all
  simp only [carried, own, List.append_nil]
  revert alternation stopped
  generalize s.input = i, s.execution = x, s.shared.slot = slot, s.shared.exiting = exiting
  intro stopped alternation
  -- of the nine situations only these two have a command in the slot or with the other thread
  cases alternation with
  | offered | serving => cases stopped
  | _ => rfl

/-- While a request is in the slot or in hand, only a release ends the wait of the input thread. -/
theorem waiting_moves (ordered : s.Coordinated) (moves : s.Moves world e after)
    (waits : s.input = .running .waiting) (busy : s.shared.slot.isBusy = true)
    (other : e.call ≠ .release) :
    e.thread ≠ .input ∧ after.input = .running .waiting ∧ after.shared.slot.isBusy = true := by
  cases moves with
  | input at_ answered =>
      rw [waits] at at_
      cases at_
      simp [Input.turn, Shared.answer, busy] at answered
  | @execution x reply shared at_ answered =>
      refine ⟨?_, waits, ?_⟩
      · intro same
        cases same
      show shared.slot.isBusy = true
      have kept : x.turn.call.concernsSlot = false → shared.slot.isBusy = true := fun quiet => by
        rw [Shared.slot_answer answered quiet, busy]
      cases x with
      | awaiting =>
          simp only [Execution.turn, Shared.answer, Option.map_eq_some_iff] at answered
          obtain ⟨⟨r, slot⟩, taken, same⟩ := answered
          cases same
          revert taken
          cases s.shared.slot <;> simp +contextual [Slot.take?, Slot.isBusy, eq_comm]
      | launching c l => exact kept (Launch.concernsSlot_turn c l)
      | deciding c | settingExit e => exact kept rfl
      | releasing result => cases result <;> exact absurd rfl other
  | @signals g reply shared at_ answered =>
      refine ⟨?_, waits, ?_⟩
      · intro same
        cases same
      show shared.slot.isBusy = true
      rw [Shared.slot_answer answered (signals_calls g).1, busy]
  | supervisor at_ answered =>
      -- the supervisor can do nothing before the input thread has ended
      have supervision := ordered.supervision
      rw [waits] at supervision
      cases at_.symm.trans supervision.of_input_running
      simp [Supervisor.turn, answerSupervisor, waits, endOf] at answered

theorem offering_moves (ordered : s.Coordinated) (moves : s.Moves world e after)
    (thread : e.thread = .input) (offers : e.call = .offer (.run c)) :
    after.input = .running .waiting ∧ after.shared.slot.isBusy = true := by
  cases moves with
  | @input i reply shared at_ answered =>
      have alternation := ordered.alternation
      rw [at_] at alternation
      obtain ⟨vacant, _⟩ := alternation.vacant_of_input_moves answered
      cases i with
      | offering d =>
          simp only [Input.turn, Shared.answer, vacant, Slot.offer] at answered
          cases answered
          exact ⟨rfl, rfl⟩
      | _ => cases offers
  | execution | signals | supervisor => cases thread

/-- At the moment of a launch the exit flag is not set. -/
theorem forking_moves (ordered : s.Coordinated) (moves : s.Moves world e after)
    (forks : e.call = .fork c) : s.shared.exiting = false := by
  cases moves with
  | @execution x reply shared at_ answered =>
      have alternation := ordered.alternation
      rw [at_] at alternation
      generalize s.input = i, s.shared.slot = slot, s.shared.exiting = exiting at alternation ⊢
      cases alternation with
      | serving | offered | reading => rfl
      | _ => cases forks
  | @input i _ _ at_ answered => cases i <;> cases forks
  | @signals g _ _ at_ answered =>
      cases g with
      | reaping r => cases r <;> cases forks
      | _ => cases forks
  | @supervisor v _ _ at_ answered => cases v <;> cases forks

end Coordinated

end Shell

/-! ## Every run -/

/-- What the trace of a run and its last state say about the two threads. -/
structure Agreement {W : Type} (limits : Limits) (t : Trace) (s : Shell W) : Prop where
  /-- The launches are, in order, the first commands of the input, whatever is still to come. -/
  launches_follow : ∀ source, t.outcomes <+: source → t.launched <+: Source.commands limits source
  /-- When the input thread has stopped, none of its commands is left over. -/
  all_launched : Input.hasStopped s.input = true →
    t.launched = Source.commands limits t.outcomes
  /-- From the offer of a command to the release of the slot the input thread takes no step. -/
  input_waits : ∀ before e during c, t = before ++ e :: during →
    e.thread = .input → e.call = .offer (.run c) → (∀ d ∈ during, d.call ≠ .release) →
      s.input = .running .waiting ∧ ∀ d ∈ during, d.thread ≠ .input
  /-- Nobody has set the exit flag before a launch. -/
  none_after_exit : ∀ before e rest c, t = before ++ e :: rest →
    e.call = .fork c → ∀ d ∈ before, d.call ≠ .setExiting

namespace Run

variable {W : Type} {world : World W} {outside : W → W → Prop} {limits : Limits} {w : W}
  {t : Trace} {s : Shell W}

theorem limits_eq (run : Run world outside (Shell.boot limits w) t s) : s.limits = limits :=
  run.invariant (P := fun _ s => s.limits = limits) rfl
    (fun same moves => moves.limits_eq.trans same) fun same _ => same

theorem books (run : Run world outside (Shell.boot limits w) t s) : s.Books t := by
  have both : s.Coordinated ∧ s.Books t := by
    refine run.invariant (P := fun t s => s.Coordinated ∧ s.Books t)
      ⟨.boot limits w, .boot limits w⟩ ?_ ?_
    · rintro t now e after ⟨ordered, books⟩ moves
      exact ⟨ordered.moves moves, books.moves ordered moves⟩
    · rintro t now w ⟨ordered, books⟩ _
      exact ⟨ordered.withWorld w, books.reader, books.commands⟩
  exact both.2

theorem waiting_of_offered (run : Run world outside (Shell.boot limits w) t s) :
    ∀ before e during c, t = before ++ e :: during →
      e.thread = .input → e.call = .offer (.run c) → (∀ d ∈ during, d.call ≠ .release) →
        (s.input = .running .waiting ∧ s.shared.slot.isBusy = true) ∧
          ∀ d ∈ during, d.thread ≠ .input := by
  induction run with
  | start =>
      intro before e during c same
      simp at same
  | move run moves ih =>
      intro before x during c same thread offers unreleased
      rcases split_concat same with ⟨_, rfl, rfl⟩ | ⟨rest, rfl, earlier⟩
      · exact ⟨run.coordinated.offering_moves moves thread offers, by simp⟩
      · simp only [List.mem_append, List.mem_singleton] at unreleased ⊢
        obtain ⟨⟨waits, busy⟩, apart⟩ :=
          ih before x rest c earlier thread offers fun d mem => unreleased d (.inl mem)
        obtain ⟨other, state⟩ :=
          run.coordinated.waiting_moves moves waits busy (unreleased _ (.inr rfl))
        refine ⟨state, ?_⟩
        rintro d (mem | rfl)
        · exact apart d mem
        · exact other
  | outside _ _ ih => exact ih

theorem setExiting_of_exiting (run : Run world outside (Shell.boot limits w) t s)
    (clear : s.shared.exiting = false) : ∀ d ∈ t, d.call ≠ .setExiting := by
  induction run with
  | start => simp
  | @move t now after e run moves ih =>
      -- a flag that is clear now was clear before, since nobody clears it
      have unset : e.call ≠ .setExiting := by
        intro sets
        rw [moves.exiting_of_setExiting sets] at clear
        cases clear
      have before := ih (moves.exiting_eq unset ▸ clear)
      simp only [List.mem_append, List.mem_singleton]
      rintro d (mem | rfl)
      · exact before d mem
      · exact unset
  | outside _ _ ih => exact ih clear

theorem clear_before_launch (run : Run world outside (Shell.boot limits w) t s) :
    ∀ before e rest c, t = before ++ e :: rest →
      e.call = .fork c → ∀ d ∈ before, d.call ≠ .setExiting := by
  induction run with
  | start =>
      intro before e rest c same
      simp at same
  | move run moves ih =>
      intro before x rest c same forks
      rcases split_concat same with ⟨rfl, rfl, rfl⟩ | ⟨rest, rfl, earlier⟩
      · exact run.setExiting_of_exiting (run.coordinated.forking_moves moves forks)
      · exact ih before x rest c earlier forks
  | outside _ _ ih => exact ih

end Run

/-- Whatever is read, whatever becomes of the launches and in whatever order the threads take
their steps, launches follow the input. -/
theorem launches_follow_input {W : Type} {world : World W} {outside : W → W → Prop}
    {limits : Limits} {w : W} {t : Trace} {s : Shell W}
    (run : Run world outside (Shell.boot limits w) t s) : Agreement limits t s where
  launches_follow source front := by
    have books := run.books.commands
    rw [run.limits_eq] at books
    exact (books ▸ List.prefix_append ..).trans (Source.commands_prefix front)
  all_launched stopped := by
    have books := run.books.commands
    rw [run.limits_eq, run.coordinated.carried_of_hasStopped stopped, List.append_nil] at books
    exact books.symm
  input_waits before e during c same thread offers unreleased := by
    obtain ⟨⟨waits, _⟩, apart⟩ :=
      run.waiting_of_offered before e during c same thread offers unreleased
    exact ⟨waits, apart⟩
  none_after_exit := run.clear_before_launch

/-- A command and `exit`: the command is launched and the input thread stops. -/
theorem launches_follow_input_until_exit :
    ∃ t s, Run World.still (fun _ _ => False)
        (Shell.boot {} (Source.ofBytes (Bytes.ofText "a\nexit\n"))) t s ∧
      t.launched = [{ argv := [Bytes.ofText "a"] }] ∧ Input.hasStopped s.input = true ∧
      Agreement {} t s := by
  let order : List ThreadId :=
    List.replicate 5 .input ++ List.replicate 6 .execution ++ List.replicate 11 .input
  have played :
      ((Shell.boot {} (Source.ofBytes (Bytes.ofText "a\nexit\n"))).play World.still order).any
        (fun (t, s) => decide (t.launched = [{ argv := [Bytes.ofText "a"] }]) &&
          Input.hasStopped s.input) = true := by
    decide +kernel
  obtain ⟨⟨t, s⟩, reached, found⟩ := (Option.any_eq_true _ _).1 played
  simp only [Bool.and_eq_true, decide_eq_true_eq] at found
  obtain ⟨launched, stopped⟩ := found
  have run : Run World.still (fun _ _ => False) _ ([] ++ t) s := Run.start.play reached
  exact ⟨t, s, run, launched, stopped, launches_follow_input run⟩

end JobShell
