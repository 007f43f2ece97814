import JobShell.Proofs.Offers

/-!
# What the input thread hands over

The input thread alone, with a consumer that takes what it offers and may end the rehearsal by
setting the exit flag. The two may take their steps in any order.

The proof follows the line that the thread is at. `Stand` lists how thread, consumer, slot, exit
flag and source are found while line number `k` is in hand; every step leads from one of these
situations to another.

Results:
1. `Scene.Stands.step`: every step keeps to the list of situations.
2. `Scene.work_lt`: every step is one of finitely many.
3. `requests_follow_input`: whatever the order of the steps, the offers are those of the lines up
   to the stop, each made when its own line has been read and nothing behind it.
-/

namespace JobShell.Rehearsal

open Thread (Input Status)

/-! ## Plays -/

inductive Party
  | input
  | consumer
deriving DecidableEq, Repr

/-- What has come into the slot in a step. -/
def gained (slot : Slot) (after : Shared Stage) : List Offer :=
  match slot, after.slot with
  | .empty, .ready r => [⟨r, after.world.source⟩]
  | _, _ => []

namespace Scene

def stepOf (s : Scene) : Party → Option Scene
  | .input => s.stepInput
  | .consumer => s.stepConsumer

/-- `first.Plays log n s`: the two parties can come from `first` to `s` with `n` steps and the
offers `log`. -/
inductive Plays (first : Scene) : List Offer → Nat → Scene → Prop
  | start : Plays first [] 0 first
  | step {log : List Offer} {n : Nat} {now after : Scene} {party : Party} :
      Plays first log n now → now.stepOf party = some after →
      Plays first (log ++ gained now.shared.slot after.shared) (n + 1) after

def IsOver (s : Scene) : Prop := ∀ party, s.stepOf party = none

variable {s after : Scene} {party : Party}

theorem stepOf_input_iff :
    s.stepOf .input = some after ↔ ∃ i reply shared, s.input = .running i ∧
      s.shared.answer Stage.world (i.turn s.limits).call = some (reply, shared) ∧
      after = { s with input := (i.turn s.limits).resume reply, shared } := by
  simp only [stepOf, stepInput, Option.map_eq_some_iff]
  constructor
  · rintro ⟨⟨input, shared⟩, advanced, rfl⟩
    obtain ⟨i, reply, at_, answered, rfl⟩ := Shared.advance_eq_some_iff.1 advanced
    exact ⟨i, reply, shared, at_, answered, rfl⟩
  · rintro ⟨i, reply, shared, at_, answered, rfl⟩
    exact ⟨(_, shared), Shared.advance_eq_some_iff.2 ⟨i, reply, at_, answered, rfl⟩, rfl⟩

theorem stepOf_consumer_iff :
    s.stepOf .consumer = some after ↔ ∃ x reply shared, s.consumer = .running x ∧
      s.shared.answer Stage.world (x.turn s.last).call = some (reply, shared) ∧
      after = { s with
        consumer := (x.turn s.last).resume reply, shared
        handed := s.noteRequest.toList ++ s.handed } := by
  simp only [stepOf, stepConsumer, Option.map_eq_some_iff]
  constructor
  · rintro ⟨⟨consumer, shared⟩, advanced, rfl⟩
    obtain ⟨x, reply, at_, answered, rfl⟩ := Shared.advance_eq_some_iff.1 advanced
    exact ⟨x, reply, shared, at_, answered, rfl⟩
  · rintro ⟨x, reply, shared, at_, answered, rfl⟩
    exact ⟨(_, shared), Shared.advance_eq_some_iff.2 ⟨x, reply, at_, answered, rfl⟩, rfl⟩

end Scene

end JobShell.Rehearsal

/-! ## Lines in hand -/

namespace JobShell.Thread.Input

/-- The input thread is done with its last line, or will be without a further look at it. -/
def IsBetween : Input → Prop
  | .looking | .prompting | .complaining _ | .blank | .listing | .moving _ | .waiting => True
  | _ => False

/-- The input thread is about to leave with a result. -/
def IsEnding (result : Except Fault Unit) : Input → Prop
  | .endingInput => result = .ok ()
  | .leaving r | .settingExit r => r = result
  | _ => False

open JobShell.Rehearsal in
/-- What is done about a line: its command is offered, the thread leaves, or it goes on. -/
theorem accept_cases (maxToken : Nat) (l : Line) :
    (∃ c, accept maxToken l = .offering c ∧ l.command? maxToken = some c ∧
      stopAt? maxToken (.ok l) = none) ∨
    (∃ result, (accept maxToken l).IsEnding result ∧ l.command? maxToken = none ∧
      stopAt? maxToken (.ok l) = some result) ∨
    ((accept maxToken l).IsBetween ∧ l.command? maxToken = none ∧
      stopAt? maxToken (.ok l) = none) := by
  cases l with
  | tooLong => exact .inr (.inr ⟨trivial, rfl, rfl⟩)
  | endOfFile => exact .inr (.inl ⟨.ok (), rfl, rfl, rfl⟩)
  | text bytes =>
      cases parsed : Command.parse maxToken bytes with
      | error e => exact .inr (.inr (by simp [accept, Line.command?, stopAt?, parsed, IsBetween]))
      | ok c =>
          have told := Line.command?_text parsed
          have stop := stopAt?_text parsed
          cases blank : c.isBlank with
          | true =>
              have absent : Builtin.ofCommand? c = none := by
                have empty : c.argv = [] := by simpa [Command.isBlank] using blank
                simp [Builtin.ofCommand?, Command.program, empty]
              exact .inr (.inr (by
                simp [accept, told, stop, parsed, blank, absent, IsBetween]))
          | false =>
              cases builtin : Builtin.ofCommand? c with
              | none =>
                  exact .inl ⟨c, by
                    simp [accept, dispatch, told, stop, parsed, blank, builtin]⟩
              | some own =>
                  cases own with
                  | exit =>
                      exact .inr (.inl ⟨.ok (), by
                        simp [accept, dispatch, told, stop, parsed, blank, builtin,
                          IsEnding]⟩)
                  | jobs =>
                      exact .inr (.inr (by
                        simp [accept, dispatch, told, stop, parsed, blank, builtin,
                          IsBetween]))
                  | cd =>
                      exact .inr (.inr (by
                        cases arguments : directoryArgument c.arguments <;>
                        simp [accept, dispatch, told, stop, parsed, blank, builtin,
                          arguments, IsBetween]))

end JobShell.Thread.Input

namespace JobShell.Rehearsal

open Thread (Input Status)

/-- What the consumer takes out of the slot. -/
def Consumer.takes (slot : Slot) : Consumer → List Request
  | .awaiting _ => slot.pending
  | _ => []

/-- What the consumer is about to do with the shutdown, and what is in the slot meanwhile. -/
inductive Closes : Status Consumer Unit → Slot → Prop
  | awaiting {n : Nat} : Closes (.running (.awaiting n)) (.ready .shutdown)
  | deciding {n : Nat} : Closes (.running (.deciding n .shutdown)) .running
  | settingExit : Closes (.running .settingExit) .running
  | leaving : Closes (.running .leaving) .running
  | ended : Closes (.ended ()) .empty

/-- One read of a line in hand takes it further, or to its end; at the end of the source it gives
the end of the file and leaves nothing. -/
theorem Stage.feed_cases (stage : Stage) {r : LineReader} {outcome : ReadOutcome} {after : Stage}
    {result : Except Errno Line} {left : Source} (rest : r.run stage.source = (result, left))
    (read : stage.readByte = (outcome, after)) :
    (after.source = left ∧ ∃ l, r.feed outcome = .line l ∧ result = .ok l) ∨
      (after.source = left ∧ ∃ e, r.feed outcome = .failed e ∧ result = .error e) ∨
      ∃ next, r.feed outcome = .more next ∧ next.run after.source = (result, left) := by
  have step (later : Source) (rest : r.run (outcome :: later) = (result, left)) :
      (later = left ∧ ∃ l, r.feed outcome = .line l ∧ result = .ok l) ∨
        (later = left ∧ ∃ e, r.feed outcome = .failed e ∧ result = .error e) ∨
        ∃ next, r.feed outcome = .more next ∧ next.run later = (result, left) := by
    rw [LineReader.run] at rest
    cases found : r.feed outcome with
    | more next => exact .inr (.inr ⟨next, rfl, by simpa only [found] using rest⟩)
    | line l =>
        simp only [found, Prod.mk.injEq] at rest
        exact .inl ⟨rest.2, l, rfl, rest.1.symm⟩
    | failed e =>
        simp only [found, Prod.mk.injEq] at rest
        exact .inr (.inl ⟨rest.2, e, rfl, rest.1.symm⟩)
  unfold Stage.readByte at read
  split at read
  · next done =>
      cases read
      rw [done, LineReader.run, Prod.mk.injEq] at rest
      exact .inl ⟨done.trans rest.2, r.atEnd, rfl, rest.1.symm⟩
  · next byte later found =>
      cases read
      exact step later (found ▸ rest)
  · next other later _ found =>
      cases read
      exact step later (found ▸ rest)

/-- How the two parties are found, with the slot, the exit flag, the reads that are left and the
offers so far, while line number `k` is in hand. None of the lines before it stops the thread. -/
inductive Stand (b : Brief) :
    Status Input (Except Fault Unit) → Status Consumer Unit → Slot → Bool → Source →
      List Offer → Prop
  | between {k : Nat} {i : Input} :
      (∀ j < k, b.stops j = false) → i.IsBetween →
      Stand b (.running i) (.running (.awaiting (b.offered k).length)) .empty false (b.unread k)
        (b.offered k)
  | reading {k : Nat} {r : LineReader} {source : Source} :
      (∀ j < k, b.stops j = false) → r.run source = (b.answer k, b.unread (k + 1)) →
      Stand b (.running (.reading r)) (.running (.awaiting (b.offered k).length)) .empty false
        source (b.offered k)
  | offering {k : Nat} {c : Command} :
      (∀ j < k, b.stops j = false) → b.command? k = some c → b.stop? k = none →
      Stand b (.running (.offering c)) (.running (.awaiting (b.offered k).length)) .empty false
        (b.unread (k + 1)) (b.offered k)
  | offered {k : Nat} {c : Command} :
      (∀ j < k, b.stops j = false) → b.command? k = some c → b.stop? k = none →
      Stand b (.running .waiting) (.running (.awaiting (b.offered k).length)) (.ready (.run c))
        false (b.unread (k + 1)) (b.offered (k + 1))
  | deciding {k : Nat} {c : Command} :
      (∀ j < k, b.stops j = false) → b.command? k = some c → b.stop? k = none →
      Stand b (.running .waiting) (.running (.deciding (b.offered (k + 1)).length (.run c)))
        .running false (b.unread (k + 1)) (b.offered (k + 1))
  | releasing {k : Nat} {c : Command} :
      (∀ j < k + 1, b.stops j = false) → b.command? k = some c →
      Stand b (.running .waiting) (.running (.releasing (b.offered (k + 1)).length)) .running
        false (b.unread (k + 1)) (b.offered (k + 1))
  | dismissing {k : Nat} {x : Consumer} {exiting : Bool} :
      (∀ j < k, b.stops j = false) → b.isChosen k = true → b.stop? k = none →
      (x = .settingExit ∧ exiting = false ∨ x = .leaving ∧ exiting = true) →
      Stand b (.running .waiting) (.running x) .running exiting (b.unread (k + 1))
        (b.offered (k + 1))
  | dismissed {k : Nat} {i : Status Input (Except Fault Unit)} :
      (∀ j < k, b.stops j = false) → b.isChosen k = true → b.stop? k = none → Dismissed i →
      Stand b i (.ended ()) .empty true (b.unread (k + 1)) (b.offered (k + 1))
  | stopping {k : Nat} {i : Input} {result : Except Fault Unit} :
      (∀ j < k, b.stops j = false) → b.stop? k = some result → b.command? k = none →
      i.IsEnding result →
      Stand b (.running i) (.running (.awaiting (b.offered k).length)) .empty false
        (b.unread (k + 1)) (b.offered k)
  | shutting {k n : Nat} {result : Except Fault Unit} :
      (∀ j < k, b.stops j = false) → b.stop? k = some result → b.command? k = none →
      Stand b (.running (.offeringShutdown result)) (.running (.awaiting n)) .empty true
        (b.unread (k + 1)) (b.offered k)
  | shut {k : Nat} {result : Except Fault Unit} {x : Status Consumer Unit} {slot : Slot} :
      (∀ j < k, b.stops j = false) → b.stop? k = some result → b.command? k = none →
      Closes x slot →
      Stand b (.ended result) x slot true (b.unread (k + 1))
        (b.offered k ++ [⟨.shutdown, b.unread (k + 1)⟩])

namespace Stand

variable {b : Brief} {k : Nat}

/-- A line that does not stop the thread leaves all lines behind it open as well. -/
theorem open_succ (open_ : ∀ j < k, b.stops j = false) (passes : b.stops k = false) :
    ∀ j < k + 1, b.stops j = false := by
  intro j before
  rcases Nat.lt_succ_iff_lt_or_eq.1 before with before | rfl
  · exact open_ j before
  · exact passes

/-- The line in hand has been read. -/
theorem accept {l : Line} (open_ : ∀ j < k, b.stops j = false) (answer : b.answer k = .ok l) :
    Stand b (.running (Input.accept b.limits.token l))
      (.running (.awaiting (b.offered k).length)) .empty false (b.unread (k + 1))
      (b.offered k) := by
  have command : b.command? k = l.command? b.limits.token := by simp [Brief.command?, answer]
  have stop : b.stop? k = stopAt? b.limits.token (.ok l) := by simp [Brief.stop?, answer]
  rcases Input.accept_cases b.limits.token l with
    ⟨c, offers, found, goesOn⟩ | ⟨result, ending, none, stops⟩ | ⟨between, none, goesOn⟩
  · rw [offers]
    exact .offering open_ (command.trans found) (stop.trans goesOn)
  · exact .stopping open_ (stop.trans stops) (command.trans none) ending
  · have passes : b.stops k = false := by
      rw [Brief.stops, stop.trans goesOn, Brief.isChosen_of_none (command.trans none)]
      rfl
    have grown := Stand.between (b := b) (open_succ open_ passes) between
    rwa [Brief.offered_succ_of_none (command.trans none)] at grown

variable {x : Status Consumer Unit} {slot : Slot} {exiting : Bool} {stage : Stage}
  {jobs : Registry} {log : List Offer}

/-- One read takes the line in hand further, or to its end. -/
theorem read {r : LineReader} {outcome : ReadOutcome} {after : Stage}
    (open_ : ∀ j < k, b.stops j = false)
    (rest : r.run stage.source = (b.answer k, b.unread (k + 1)))
    (read : stage.readByte = (outcome, after)) :
    Stand b (.running (Input.readOn b.limits.token r outcome))
      (.running (.awaiting (b.offered k).length)) .empty false after.source (b.offered k) := by
  unfold Input.readOn
  rcases stage.feed_cases rest read with
    ⟨left, l, line, answer⟩ | ⟨left, e, failed, answer⟩ | ⟨next, more, rest⟩
  · rw [line, left]
    exact .accept open_ answer
  · rw [failed, left]
    have stop : b.stop? k = some (.error (.input e)) := by simp [Brief.stop?, answer, stopAt?]
    have none : b.command? k = none := by simp [Brief.command?, answer]
    exact .stopping open_ stop none rfl
  · rw [more]
    exact .reading open_ rest

theorem answer_changeDirectory {shared after : Shared Stage} {dir : Bytes} {reply}
    (answered : shared.answer Stage.world (.changeDirectory dir) = some (reply, after)) :
    after.slot = shared.slot ∧ after.exiting = shared.exiting ∧
      after.world.source = shared.world.source := by
  cases answered
  refine ⟨rfl, rfl, ?_⟩
  show (Stage.changeDirectory ..).2.source = _
  unfold Stage.changeDirectory
  split <;> rfl

theorem of_log {i : Status Input (Except Fault Unit)} {source : Source} {longer : List Offer}
    (stand : Stand b i x slot exiting source log) (same : longer = log) :
    Stand b i x slot exiting source longer :=
  same ▸ stand

theorem input_step {i : Input} {reply shared}
    (stand : Stand b (.running i) x slot exiting stage.source log)
    (answered : Shared.answer Stage.world { slot, exiting, jobs, world := stage }
      (i.turn b.limits).call = some (reply, shared)) :
    Stand b ((i.turn b.limits).resume reply) x shared.slot shared.exiting shared.world.source
      (log ++ gained slot shared) := by
  obtain ⟨source, consumed, tree, cwd, out, err⟩ := stage
  cases stand with
  | @between k i open_ between =>
      cases i with
      | looking | complaining | blank | listing | waiting =>
          cases answered
          exact .of_log (.between open_ trivial) (List.append_nil _)
      | prompting =>
          cases answered
          exact .of_log (.reading open_ (b.readLine_unread k)) (List.append_nil _)
      | moving dir =>
          obtain ⟨vacant, clear, kept⟩ := answer_changeDirectory answered
          obtain ⟨slot, exiting, jobs, ⟨source, consumed, tree, cwd, out, err⟩⟩ := shared
          cases vacant
          cases clear
          cases kept
          cases reply <;> exact .of_log (.between open_ trivial) (List.append_nil _)
      | _ => exact absurd between id
  | @reading k r _ open_ rest =>
      simp only [Input.turn, Shared.answer, Option.map_eq_some_iff] at answered
      obtain ⟨⟨outcome, after⟩, found, same⟩ := answered
      cases same
      exact .of_log (.read open_ rest (Option.some.inj found)) (List.append_nil _)
  | offering open_ found goesOn =>
      cases answered
      exact .of_log (.offered open_ found goesOn) (Brief.offered_succ_of_some found).symm
  | offered => cases answered
  | deciding => cases answered
  | releasing => cases answered
  | dismissing => cases answered
  | dismissed open_ chosen goesOn dismissed =>
      cases dismissed with
      | waiting =>
          cases answered
          exact .of_log (.dismissed open_ chosen goesOn .looking) (List.append_nil _)
      | looking =>
          cases answered
          exact .of_log (.dismissed open_ chosen goesOn .leaving) (List.append_nil _)
      | leaving =>
          cases answered
          exact .of_log (.dismissed open_ chosen goesOn .ended) (List.append_nil _)
  | @stopping k i result open_ stop none ending =>
      cases i with
      | endingInput =>
          cases answered
          exact .of_log (.stopping open_ stop none ending.symm) (List.append_nil _)
      | leaving r =>
          cases answered
          exact .of_log (.stopping open_ stop none ending) (List.append_nil _)
      | settingExit r =>
          cases answered
          cases ending
          exact .of_log (.shutting open_ stop none) (List.append_nil _)
      | _ => exact absurd ending id
  | shutting open_ stop none =>
      cases answered
      exact .shut open_ stop none .awaiting

/-- The command of the line in hand needs nothing more: if it is the chosen one, the thread is
dismissed, and if not, the next line is to come. -/
theorem task_done {c : Command} (open_ : ∀ j < k, b.stops j = false)
    (found : b.command? k = some c) (goesOn : b.stop? k = none) :
    Stand b (.running .waiting) (.running (.afterTask b.last (b.offered (k + 1)).length)) .running
      false (b.unread (k + 1)) (b.offered (k + 1)) := by
  unfold Consumer.afterTask
  split
  · next chosen =>
      exact .dismissing open_ ((Brief.isChosen_of_some found).2 chosen) goesOn (.inl ⟨rfl, rfl⟩)
  · next other =>
      have passes : b.stops k = false := by
        simpa [Brief.stops, goesOn] using mt (Brief.isChosen_of_some found).1 other
      exact .releasing (open_succ open_ passes) found

theorem consumer_step {i : Status Input (Except Fault Unit)} {y : Consumer} {reply shared}
    (stand : Stand b i (.running y) slot exiting stage.source log)
    (answered : Shared.answer Stage.world { slot, exiting, jobs, world := stage }
      (y.turn b.last).call = some (reply, shared)) :
    Stand b i ((y.turn b.last).resume reply) shared.slot shared.exiting shared.world.source
      log := by
  obtain ⟨source, consumed, tree, cwd, out, err⟩ := stage
  cases stand with
  | between | reading | offering | stopping | shutting => cases answered
  | @offered k c open_ found goesOn =>
      cases answered
      have one : (b.offered (k + 1)).length = (b.offered k).length + 1 := by
        rw [Brief.offered_succ_of_some found, List.length_append, List.length_singleton]
      have taken := Stand.deciding open_ found goesOn
      rw [one] at taken
      exact taken
  | @deciding k c open_ found goesOn =>
      obtain ⟨argv, stdout, stdin, background⟩ := c
      cases background <;> cases answered <;> exact .task_done open_ found goesOn
  | releasing open_ found =>
      cases answered
      exact .between open_ trivial
  | dismissing open_ chosen goesOn leaves =>
      rcases leaves with ⟨rfl, rfl⟩ | ⟨rfl, rfl⟩
      · cases answered
        exact .dismissing open_ chosen goesOn (.inr ⟨rfl, rfl⟩)
      · cases answered
        exact .dismissed open_ chosen goesOn .waiting
  | shut open_ stop none closes =>
      cases closes with
      | awaiting =>
          cases answered
          exact .shut open_ stop none .deciding
      | @deciding n =>
          cases answered
          simp only [Consumer.turn]
          split
          · exact .shut open_ stop none .settingExit
          · exact .shut open_ stop none .leaving
      | settingExit =>
          cases answered
          exact .shut open_ stop none .leaving
      | leaving =>
          cases answered
          exact .shut open_ stop none .ended

/-- Up to every moment the offers are the first ones of those that are to come. -/
theorem prefix_offers {i : Status Input (Except Fault Unit)} {source : Source} {m : Nat}
    (stand : Stand b i x slot exiting source log) (stop : b.IsStop m) : log <+: b.offers m := by
  have front {k : Nat} (before : k ≤ m + 1) : b.offered k <+: b.offers m :=
    (Brief.offered_prefix before).trans (List.prefix_append ..)
  cases stand with
  | between open_ | reading open_ | offering open_ | stopping open_ | shutting open_ =>
      exact front (Nat.le_succ_of_le (stop.le_of_open open_))
  | offered open_ | deciding open_ | dismissing open_ | dismissed open_ =>
      exact front (Nat.succ_le_succ (stop.le_of_open open_))
  | releasing open_ => exact front (Nat.le_succ_of_le (stop.le_of_open open_))
  | @shut k result x slot open_ stops none =>
      have here : b.stops k = true := by simp [Brief.stops, stops]
      cases stop.eq_of_stops open_ here
      rw [Brief.offers, Brief.isChosen_of_none none, Brief.offered_succ_of_none none]
      exact List.prefix_rfl

/-- While the slot is occupied nothing is read: what is left is what the last offer left. -/
theorem unread_of_busy {i : Status Input (Except Fault Unit)} {source : Source}
    (stand : Stand b i x slot exiting source log) (busy : slot.isBusy = true) :
    log.getLast?.map (·.unread) = some source := by
  cases stand with
  | between | reading | offering | dismissed | stopping | shutting => cases busy
  | offered _ found | deciding _ found | releasing _ found =>
      simp [Brief.offered_succ_of_some found]
  | @dismissing k _ _ _ chosen =>
      obtain ⟨c, found⟩ : ∃ c, b.command? k = some c :=
        Option.isSome_iff_exists.1 (by simp_all [Brief.isChosen])
      simp [Brief.offered_succ_of_some found]
  | shut => simp

/-- The consumer offers nothing, and it takes what is in the slot before it empties it. -/
theorem consumer_takes {i : Status Input (Except Fault Unit)} {y : Consumer} {reply shared}
    (stand : Stand b i (.running y) slot exiting stage.source log)
    (answered : Shared.answer Stage.world { slot, exiting, jobs, world := stage }
      (y.turn b.last).call = some (reply, shared)) :
    gained slot shared = [] ∧ y.takes slot ++ shared.slot.pending = slot.pending := by
  obtain ⟨source, consumed, tree, cwd, out, err⟩ := stage
  cases stand with
  | between | reading | offering | stopping | shutting => cases answered
  | @deciding k c =>
      obtain ⟨argv, stdout, stdin, background⟩ := c
      cases background <;> cases answered <;> exact ⟨rfl, rfl⟩
  | offered | releasing => cases answered; exact ⟨rfl, rfl⟩
  | dismissing _ _ _ leaves =>
      rcases leaves with ⟨rfl, rfl⟩ | ⟨rfl, rfl⟩ <;> cases answered <;> exact ⟨rfl, rfl⟩
  | shut _ _ _ closes => cases closes <;> cases answered <;> exact ⟨rfl, rfl⟩

end Stand

namespace Scene

variable {b : Brief} {s after : Scene} {log : List Offer} {party : Party}

/-- A scene that goes by a brief, after the given offers. -/
structure Stands (b : Brief) (log : List Offer) (s : Scene) : Prop where
  limits : s.limits = b.limits
  last : s.last = b.last
  stand : Stand b s.input s.consumer s.shared.slot s.shared.exiting s.shared.world.source log
  /-- What was offered was taken, or waits in the slot. -/
  handed : s.handed.reverse.map (·.request) ++ s.shared.slot.pending = log.map (·.request)

theorem Stands.opening (limits : Limits) (last : Option Nat) (jobs : Registry) (stage : Stage) :
    Stands ⟨limits, last, stage.source⟩ []
      { limits, last, shared := { jobs, world := stage } } where
  limits := rfl
  last := rfl
  stand := .between (k := 0) (fun j before => absurd before (Nat.not_lt_zero j)) trivial
  handed := rfl

/-- An offer is what the input thread can do about the slot. -/
theorem pending_input {limits : Limits} {i : Input} {shared later : Shared Stage} {reply}
    (answered : shared.answer Stage.world (i.turn limits).call = some (reply, later)) :
    later.slot.pending =
      shared.slot.pending ++ (gained shared.slot later).map (·.request) := by
  have quiet (kept : later.slot = shared.slot) :
      later.slot.pending =
        shared.slot.pending ++ (gained shared.slot later).map (·.request) := by
    unfold gained
    rw [kept]
    cases shared.slot <;> simp
  obtain ⟨slot, exiting, jobs, w⟩ := shared
  cases i with
  | offering | offeringShutdown => cases slot <;> cases answered <;> rfl
  | _ => exact quiet (Shared.slot_answer answered rfl)

theorem noteRequest_eq {x : Consumer} (at_ : s.consumer = .running x) :
    s.noteRequest.toList.reverse.map (·.request) = x.takes s.shared.slot := by
  unfold noteRequest Consumer.takes Slot.pending
  rw [at_]
  cases x with
  | awaiting n => cases s.shared.slot <;> rfl
  | _ => rfl

theorem Stands.step (stands : s.Stands b log) (moved : s.stepOf party = some after) :
    after.Stands b (log ++ gained s.shared.slot after.shared) := by
  have taken {x : Consumer} (at_ : s.consumer = .running x) := noteRequest_eq at_
  obtain ⟨limits, last, shared, input, consumer, handed⟩ := s
  obtain ⟨rfl, rfl, stand, noted⟩ := stands
  cases party with
  | input =>
      obtain ⟨i, reply, later, rfl, answered, rfl⟩ := stepOf_input_iff.1 moved
      refine ⟨rfl, rfl, stand.input_step answered, ?_⟩
      rw [List.map_append, ← noted, List.append_assoc, ← pending_input answered]
  | consumer =>
      obtain ⟨x, reply, later, rfl, answered, rfl⟩ := stepOf_consumer_iff.1 moved
      obtain ⟨nothing, takes⟩ := stand.consumer_takes answered
      rw [nothing, List.append_nil]
      refine ⟨rfl, rfl, stand.consumer_step answered, ?_⟩
      rw [← noted, ← takes, ← taken rfl, List.reverse_append, List.map_append, List.append_assoc]

end Scene

/-! ## The end -/

end JobShell.Rehearsal

namespace JobShell

open Thread (Input Status)
open Rehearsal (Consumer Stage)

/-- An upper bound of the steps that the input thread can take before its next read. A line may
have to be offered, but not the end of the input. -/
def Thread.Input.work : Status Input (Except Fault Unit) → Nat
  | .ended _ => 0
  | .running i =>
      match i with
      | .reading r => if r.atEnd = .endOfFile then 9 else 18
      | .offering _ => 17
      | .moving _ => 13
      | .waiting | .complaining _ | .blank | .listing => 12
      | .looking => 11
      | .prompting => 10
      | .endingInput => 8
      | .leaving _ => 7
      | .settingExit _ => 6
      | .offeringShutdown _ => 5

def Rehearsal.Consumer.work : Status Consumer Unit → Nat
  | .ended _ | .running (.awaiting _) => 0
  | .running (.deciding ..) => 3
  | .running .settingExit => 2
  | .running (.releasing _) | .running .leaving => 1

/-- A request in the slot makes work for the consumer. -/
def Slot.work : Slot → Nat
  | .ready _ => 4
  | .empty | .running => 0

namespace Thread.Input

theorem work_accept (maxToken : Nat) (l : Line) : work (.running (accept maxToken l)) ≤ 17 := by
  rcases accept_cases maxToken l with ⟨c, offers, _⟩ | ⟨result, ending, _⟩ | ⟨between, _⟩
  · rw [offers]
    exact Nat.le_refl _
  · revert ending
    cases accept maxToken l <;> simp [IsEnding, work]
  · revert between
    cases accept maxToken l <;> simp [IsBetween, work]

theorem work_readOn (maxToken : Nat) (r : LineReader) (outcome : ReadOutcome) :
    work (.running (readOn maxToken r outcome)) ≤ 18 := by
  unfold readOn
  split
  · show (if _ then 9 else 18) ≤ 18
    split <;> omega
  · exact Nat.le_succ_of_le (work_accept ..)
  · exact Nat.le_of_ble_eq_true rfl

/-- At the end of the input a read is progress, too. -/
theorem work_endOfFile (maxToken : Nat) (r : LineReader) :
    work (.running (readOn maxToken r .endOfFile)) < work (.running (.reading r)) := by
  show work (.running (accept maxToken r.atEnd)) < if r.atEnd = .endOfFile then 9 else 18
  split
  · next nothing =>
      rw [nothing]
      exact Nat.lt_succ_self 8
  · exact Nat.lt_succ_of_le (work_accept ..)

end Thread.Input

end JobShell

namespace JobShell.Rehearsal

open Thread (Input Status)

namespace Scene

variable {b : Brief} {s after : Scene} {log : List Offer} {party : Party}

/-- An upper bound of the steps that are left. -/
def work (s : Scene) : Nat :=
  20 * s.shared.world.source.length + Input.work s.input + Consumer.work s.consumer +
    s.shared.slot.work

theorem work_input {limits : Limits} {i : Input} {shared later : Shared Stage} {reply}
    (answered : shared.answer Stage.world (i.turn limits).call = some (reply, later)) :
    20 * later.world.source.length + Input.work ((i.turn limits).resume reply) +
        later.slot.work <
      20 * shared.world.source.length + Input.work (.running i) + shared.slot.work := by
  obtain ⟨slot, exiting, jobs, w⟩ := shared
  cases i with
  | reading r =>
      simp only [Input.turn, Shared.answer, Option.map_eq_some_iff] at answered
      obtain ⟨⟨outcome, after⟩, found, same⟩ := answered
      cases same
      have read : w.readByte = (outcome, after) := Option.some.inj found
      unfold Stage.readByte at read
      have atMost := Input.work_readOn limits.token r outcome
      split at read <;> cases read
      · exact Nat.add_lt_add_right (Nat.add_lt_add_left (Input.work_endOfFile ..) _) _
      · next byte later there =>
          simp only [Input.turn, there, List.length_cons]
          omega
      · next later _ there =>
          simp only [Input.turn, there, List.length_cons]
          omega
  | looking =>
      cases answered
      cases exiting <;> simp [Input.turn, Input.work]
  | leaving result =>
      cases answered
      cases exiting <;> simp [Input.turn, Input.work]
  | offering c =>
      cases slot <;> cases answered <;> simp [Input.turn, Input.work, Slot.work]
  | offeringShutdown result =>
      cases slot <;> cases answered <;> simp [Input.turn, Input.work, Slot.work]
  | waiting =>
      cases slot <;> cases answered
      simp [Input.turn, Input.work]
  | moving dir =>
      obtain ⟨vacant, clear, kept⟩ := Stand.answer_changeDirectory answered
      rw [vacant, kept]
      cases reply <;> simp [Input.turn, Input.work]
  | prompting =>
      cases answered
      simp [Input.turn, Input.work, Stage.world, LineReader.start, LineReader.atEnd]
  | _ =>
      cases answered
      simp [Input.turn, Input.work, Stage.world]

theorem work_consumer {last : Option Nat} {x : Consumer} {shared later : Shared Stage} {reply}
    (answered : shared.answer Stage.world (x.turn last).call = some (reply, later)) :
    20 * later.world.source.length + Consumer.work ((x.turn last).resume reply) +
        later.slot.work <
      20 * shared.world.source.length + Consumer.work (.running x) + shared.slot.work := by
  have task (n : Nat) : Consumer.work (.running (.afterTask last n)) < 3 := by
    unfold Consumer.afterTask
    split <;> simp [Consumer.work]
  obtain ⟨slot, exiting, jobs, w⟩ := shared
  cases x with
  | awaiting n =>
      cases slot <;> cases answered
      simp [Consumer.turn, Consumer.work, Slot.work]
  | deciding n r =>
      cases r with
      | shutdown =>
          cases answered
          simp only [Consumer.turn]
          split <;> simp [Consumer.work]
      | run c =>
          obtain ⟨argv, stdout, stdin, background⟩ := c
          cases background <;> cases answered <;>
            exact Nat.add_lt_add_right (Nat.add_lt_add_left (task n) _) _
  | settingExit =>
      cases answered
      simp [Consumer.turn, Consumer.work]
  | releasing n =>
      cases answered
      simp [Consumer.turn, Consumer.work, Slot.release, Slot.work]
      omega
  | leaving =>
      cases answered
      simp [Consumer.turn, Consumer.work, Slot.release, Slot.work]
      omega

/-- Every step leaves less to be done. -/
theorem work_lt (moved : s.stepOf party = some after) : after.work < s.work := by
  cases party with
  | input =>
      obtain ⟨i, reply, later, at_, answered, rfl⟩ := stepOf_input_iff.1 moved
      have less := work_input answered
      simp only [work, at_]
      omega
  | consumer =>
      obtain ⟨x, reply, later, at_, answered, rfl⟩ := stepOf_consumer_iff.1 moved
      have less := work_consumer answered
      simp only [work, at_]
      omega

/-- How a rehearsal that stops at line number `k` ends. -/
structure Finished (b : Brief) (k : Nat) (log : List Offer) (s : Scene) : Prop where
  offers : log = b.offers k
  /-- Every request was taken, in the order of the offers. -/
  handed : s.handed.reverse.map (·.request) = log.map (·.request)
  input : s.input = .ended (b.result k)
  consumer : s.consumer = .ended ()
  vacant : s.shared.slot = .empty
  exiting : s.shared.exiting = true
  /-- Nothing behind the last line is read. -/
  unread : s.shared.world.source = b.unread (k + 1)

theorem step_eq_some_iff :
    s.step = some after ↔ s.stepOf .consumer = some after ∨
      s.stepOf .consumer = none ∧ s.stepOf .input = some after := by
  cases taken : s.stepConsumer <;> simp [step, stepOf, taken]

theorem isOver_iff : s.IsOver ↔ s.step = none := by
  constructor
  · intro stuck
    have consumer := stuck .consumer
    have input := stuck .input
    simp only [stepOf] at consumer input
    simp [step, consumer, input]
  · intro still party
    cases taken : s.stepConsumer <;> cases party <;> simp_all [step, stepOf]

namespace Plays

variable {first : Scene} {n fuel : Nat}

theorem stands (plays : first.Plays log n s) (opening : first.Stands b []) : s.Stands b log := by
  induction plays with
  | start => exact opening
  | step _ moved ih => exact ih.step moved

theorem steps_le (plays : first.Plays log n s) : n + s.work ≤ first.work := by
  induction plays with
  | start => omega
  | step _ moved ih =>
      have less := work_lt moved
      omega

/-- With as much fuel as there is work, a play is played to its end. -/
theorem play (plays : first.Plays log n s) (enough : s.work ≤ fuel) :
    ∃ log n, first.Plays log n (s.play fuel) ∧ (s.play fuel).IsOver := by
  induction fuel generalizing log n s with
  | zero =>
      refine ⟨log, n, plays, ?_⟩
      intro party
      cases moved : s.stepOf party with
      | none => exact moved
      | some after => exact absurd (work_lt moved) (by omega)
  | succ fuel ih =>
      unfold Scene.play
      cases moved : s.step with
      | none => exact ⟨log, n, plays, isOver_iff.2 moved⟩
      | some after =>
          obtain ⟨party, stepped⟩ : ∃ party, s.stepOf party = some after := by
            rcases step_eq_some_iff.1 moved with stepped | ⟨_, stepped⟩
            · exact ⟨_, stepped⟩
            · exact ⟨_, stepped⟩
          have less := work_lt stepped
          exact ih (plays.step stepped) (by omega)

end Plays

/-- Where nobody can take a step, both have ended. -/
theorem Stands.ended (stands : s.Stands b log) (stuck : s.IsOver) :
    ∃ k, b.IsStop k ∧ Finished b k log s := by
  have still := stuck .input
  have idle := stuck .consumer
  obtain ⟨limits, last, ⟨slot, exiting, jobs, stage⟩, input, consumer, handed⟩ := s
  obtain ⟨source, consumed, tree, cwd, out, err⟩ := stage
  obtain ⟨rfl, rfl, stand, noted⟩ := stands
  cases stand with
  | @between k i open_ between => cases i <;> cases still
  | reading | offering | shutting => cases still
  | @stopping k i => cases i <;> cases still
  | offered | releasing => cases idle
  | @deciding k c =>
      obtain ⟨argv, stdout, stdin, background⟩ := c
      cases background <;> cases idle
  | dismissing _ _ _ leaves => rcases leaves with ⟨rfl, rfl⟩ | ⟨rfl, rfl⟩ <;> cases idle
  | @dismissed k i open_ chosen goesOn dismissed =>
      cases dismissed with
      | waiting | looking | leaving => cases still
      | ended =>
          refine ⟨k, ⟨by simp [Brief.stops, chosen], open_⟩, ?_, ?_, ?_, rfl, rfl, rfl, rfl⟩
          · simp [Brief.offers, chosen]
          · simpa [Slot.pending] using noted
          · simp [Brief.result, goesOn]
  | @shut k result x slot open_ stops none closes =>
      cases closes with
      | awaiting | deciding | settingExit | leaving => cases idle
      | ended =>
          refine ⟨k, ⟨by simp [Brief.stops, stops], open_⟩, ?_, ?_, ?_, rfl, rfl, rfl, rfl⟩
          · simp [Brief.offers, Brief.isChosen_of_none none, Brief.offered_succ_of_none none]
          · simpa [Slot.pending] using noted
          · simp [Brief.result, stops]

end Scene

/-- What every play from an opening scene comes to, when line number `k` is the last one. -/
structure Rehearsed (b : Brief) (k : Nat) (opening : Scene) : Prop where
  /-- At every moment the offers are the first ones of those that are to come. -/
  front : ∀ {log n s}, opening.Plays log n s → log <+: b.offers k
  /-- From the offer of a request until the slot is empty again nothing is read. -/
  held : ∀ {log n s}, opening.Plays log n s → s.shared.slot.isBusy = true →
    log.getLast?.map (·.unread) = some s.shared.world.source
  /-- There is no play without an end. -/
  bounded : ∀ {log n s}, opening.Plays log n s → n ≤ opening.fuelFor
  finished : ∀ {log n s}, opening.Plays log n s → s.IsOver → s.Finished b k log
  /-- The play in which the consumer goes first is one of them, and it is played to its end. -/
  run : ∃ log n, opening.Plays log n opening.run ∧ opening.run.IsOver

/-- Whatever the limits, the script and the request that the consumer has chosen, there is one line
at which the input thread stops, and whatever the order of the steps, the requests handed over are
those of the lines up to it. -/
theorem requests_follow_input (limits : Limits) (last : Option Nat) (jobs : Registry)
    (stage : Stage) :
    ∃ k, Brief.IsStop ⟨limits, last, stage.source⟩ k ∧
      Rehearsed ⟨limits, last, stage.source⟩ k
        { limits, last, shared := { jobs, world := stage } } := by
  obtain ⟨k, stop⟩ := Brief.exists_isStop ⟨limits, last, stage.source⟩
  have opening := Scene.Stands.opening limits last jobs stage
  have enough : Scene.work { limits, last, shared := { jobs, world := stage } } ≤
      Scene.fuelFor { limits, last, shared := { jobs, world := stage } } := by
    simp [Scene.work, Scene.fuelFor, Input.work, Input.start, Consumer.work, Slot.work]
    omega
  refine ⟨k, stop, ?_, ?_, ?_, ?_, ?_⟩
  · intro log n s plays
    exact (plays.stands opening).stand.prefix_offers stop
  · intro log n s plays busy
    exact (plays.stands opening).stand.unread_of_busy busy
  · intro log n s plays
    exact Nat.le_trans (Nat.le_trans (Nat.le_add_right ..) plays.steps_le) enough
  · intro log n s plays stuck
    obtain ⟨m, other, finished⟩ := (plays.stands opening).ended stuck
    cases stop.eq_of_stops other.first other.stops
    exact finished
  · exact Scene.Plays.start.play enough

/-- Three lines up to `exit`: the job list is no request, and the last line is left to others. -/
example :
    let b : Brief := ⟨{}, none, Source.ofBytes (Bytes.ofText "ls\njobs\nexit\nrest")⟩
    (b.offers 2).map (·.request) = [.run { argv := [Bytes.ofText "ls"] }, .shutdown] ∧
      b.unread 3 = Source.ofBytes (Bytes.ofText "rest") := by
  decide +kernel

end JobShell.Rehearsal
