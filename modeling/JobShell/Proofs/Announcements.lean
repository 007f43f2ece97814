import JobShell.Proofs.Entries

/-!
# Announcements and reports

A launch registers its job first and announces it in the next step. From the registration on a
pass may find the job, so a report may be written before the announcement. It is never written
before the registration, and no other report comes early: where a job is reported, its
announcement has been written, or the launch of this job is about to write it.

Results:
1. `Shell.Introductions.moves`: jobs are announced in the order in which they were registered.
2. `Shell.Entitled.moves`: what is reported was registered.
3. `report_follows_entry`: what has happened to a job when it is reported.
4. `report_precedes_announcement`: a report that comes before the announcement.
-/

namespace JobShell

open Thread (Input Execution Signals Supervisor Status)

/-! ## What a trace shows -/

/-- The line that announces a job. -/
def announcement (entry : Pid × String) : Bytes := Bytes.ofText (Registry.line entry.1 entry.2)

/-- What the execution thread writes about a job. A bare newline is none: it ends the line of a
foreground command. -/
def Event.introduced? : Event → Option Bytes
  | ⟨.execution, .print bs, _⟩ => if bs = Bytes.ofText "\n" then none else some bs
  | _ => none

namespace Trace

/-- The jobs that were registered. -/
def entries (t : Trace) : List (Pid × String) := t.filterMap Event.entered?

/-- The announcements that were written. -/
def introduced (t : Trace) : List Bytes := t.filterMap Event.introduced?

theorem entries_concat (t : Trace) (e : Event) :
    entries (t ++ [e]) = entries t ++ e.entered?.toList :=
  filterMap_concat ..

theorem introduced_concat (t : Trace) (e : Event) :
    introduced (t ++ [e]) = introduced t ++ e.introduced?.toList :=
  filterMap_concat ..

end Trace

namespace Event

variable {e : Event}

theorem entered?_of_ne (other : e.thread ≠ .execution) : e.entered? = none := by
  unfold entered?
  split
  · exact absurd rfl other
  · rfl

theorem introduced?_of_ne (other : e.thread ≠ .execution) : e.introduced? = none := by
  unfold introduced?
  split
  · exact absurd rfl other
  · rfl

end Event

theorem announcement_ne_newline (entry : Pid × String) :
    announcement entry ≠ Bytes.ofText "\n" := by
  have front : Bytes.ofText "[" = [91] := by decide
  have bare : Bytes.ofText "\n" = [10] := by decide
  simp [announcement, Registry.line, Bytes.ofText_append, front, bare]

namespace Thread

/-- The job that is registered and not yet announced. -/
def Execution.introducing : Status Execution (Except LaunchError Unit) → Option (Pid × String)
  | .running (.launching c (.announcing pid)) => some (pid, c.name)
  | _ => none

/-- The processes whose jobs the signal thread asks for, takes out or reports. -/
def Signals.concerned : Status Signals (Except Errno Unit) → List Pid
  | .running (.reaping (.asking p rest noted)) => p :: rest ++ noted.map JobReport.pid
  | .running (.reaping (.removing r rest noted)) => r.pid :: rest ++ noted.map JobReport.pid
  | .running (.reaping (.dropping p rest noted)) => p :: rest ++ noted.map JobReport.pid
  | .running (.reporting r rest) => r.pid :: rest.map JobReport.pid
  | _ => []

/-- The report that is about to be written. -/
def Signals.reported? : Status Signals (Except Errno Unit) → Option JobReport
  | .running (.reporting r _) => some r
  | _ => none

theorem Signals.reported?_eq_some_iff {g : Status Signals (Except Errno Unit)} {r : JobReport} :
    reported? g = some r ↔ ∃ rest, g = .running (.reporting r rest) := by
  refine ⟨fun reported => ?_, ?_⟩
  · unfold reported? at reported
    split at reported
    · next first rest =>
        cases reported
        exact ⟨rest, rfl⟩
    · cases reported
  · rintro ⟨rest, rfl⟩
    rfl

theorem Signals.mem_concerned_next {noted : List JobReport} {rest : List Pid} {pid : Pid}
    (mem : pid ∈ concerned (afterReap (Reap.next noted rest))) :
    pid ∈ rest ++ noted.map JobReport.pid := by
  cases rest with
  | cons p rest => exact mem
  | nil =>
      simp only [Reap.next, afterReap] at mem
      cases reversed : noted.reverse with
      | nil =>
          rw [reversed] at mem
          cases mem
      | cons r rest =>
          rw [reversed] at mem
          have there : pid ∈ noted.reverse.map JobReport.pid := by
            rw [reversed]
            exact mem
          simpa using there

end Thread

/-! ## Announcements -/

namespace Shell

variable {W : Type} {world : World W} {outside : W → W → Prop} {view : W → Children}
  {s after : Shell W} {t : Trace} {e : Event}

/-- The jobs that were registered are those that were announced, in the same order, and the one
that is about to be. -/
def Introductions (t : Trace) (s : Shell W) : Prop :=
  ∃ done, t.entries = done ++ (Execution.introducing s.execution).toList ∧
    t.introduced = done.map announcement

theorem Introductions.moves (introductions : s.Introductions t) (moves : s.Moves world e after) :
    after.Introductions (t ++ [e]) := by
  obtain ⟨done, entries, introduced⟩ := introductions
  -- a step that neither registers nor announces a job
  have quiet (entered : e.entered? = none) (silent : e.introduced? = none)
      (same : Execution.introducing after.execution = Execution.introducing s.execution) :
      after.Introductions (t ++ [e]) := by
    refine ⟨done, ?_, ?_⟩
    · rw [Trace.entries_concat, entered, same]
      exact (List.append_nil _).trans entries
    · rw [Trace.introduced_concat, silent]
      exact (List.append_nil _).trans introduced
  cases moves with
  | input | signals | supervisor =>
      exact quiet (Event.entered?_of_ne nofun) (Event.introduced?_of_ne nofun) rfl
  | @execution x reply shared at_ answered =>
      rw [at_] at entries quiet
      cases x with
      | awaiting => exact quiet rfl rfl (by cases reply <;> rfl)
      | deciding c => exact quiet rfl rfl (by cases reply <;> rfl)
      | settingExit f => exact quiet rfl rfl rfl
      | releasing result => cases result <;> exact quiet rfl rfl rfl
      | launching c l =>
          cases l with
          | forking => exact quiet rfl rfl (by cases reply <;> rfl)
          | shielding pid =>
              refine quiet rfl rfl ?_
              simp only [Execution.turn, Thread.Turn.embed, Launch.turn]
              split <;> rfl
          | raising pid => exact quiet rfl rfl rfl
          | endingLine pid status =>
              have silent :
                  Event.introduced? ⟨.execution, .print (Bytes.ofText "\n"), ()⟩ = none := by
                simp [Event.introduced?]
              exact quiet rfl silent rfl
          | waiting pid =>
              refine quiet rfl rfl ?_
              show Execution.introducing (Execution.afterLaunch c (Launch.afterWait pid reply)) = _
              unfold Launch.afterWait
              repeat' split
              all_goals rfl
          | registering pid =>
              cases reply with
              | error f => exact quiet rfl rfl rfl
              | ok =>
                  refine ⟨done, ?_, ?_⟩
                  · rw [Trace.entries_concat, entries, List.append_assoc]
                    rfl
                  · rw [Trace.introduced_concat]
                    exact (List.append_nil _).trans introduced
          | announcing pid =>
              refine ⟨done ++ [(pid, c.name)], ?_, ?_⟩
              · rw [Trace.entries_concat, entries]
                rfl
              · have written : Event.introduced?
                    ⟨.execution, .print (announcement (pid, c.name)), ()⟩ =
                    some (announcement (pid, c.name)) := by
                  simp [Event.introduced?, announcement_ne_newline]
                rw [Trace.introduced_concat, introduced, List.map_append]
                exact congrArg (_ ++ Option.toList ·) written

/-! ## Reports -/

/-- What is registered, and what the signal thread is concerned with, has been registered. -/
structure Entitled (t : Trace) (s : Shell W) : Prop where
  registered : ∀ pid, s.shared.jobs.contains pid = true → pid ∈ t.entries.map Prod.fst
  concerned : ∀ pid ∈ Signals.concerned s.signals, pid ∈ t.entries.map Prod.fst

namespace Entitled

theorem boot (limits : Limits) (w : W) : Entitled [] (Shell.boot limits w) := ⟨nofun, nofun⟩

/-- A step keeps the entitlement if it brings nothing new: what it registers it enters, and what the
signal thread is concerned with was its concern or is registered. -/
theorem of_step (entitled : s.Entitled t)
    (registered : ∀ pid, after.shared.jobs.contains pid = true →
      s.shared.jobs.contains pid = true ∨ ∃ name, e.entered? = some (pid, name))
    (concerned : ∀ pid ∈ Signals.concerned after.signals,
      pid ∈ Signals.concerned s.signals ∨ s.shared.jobs.contains pid = true) :
    after.Entitled (t ++ [e]) := by
  have grows {pid : Pid} (mem : pid ∈ t.entries.map Prod.fst) :
      pid ∈ (Trace.entries (t ++ [e])).map Prod.fst := by
    rw [Trace.entries_concat, List.map_append]
    exact List.mem_append_left _ mem
  refine ⟨fun pid listed => ?_, fun pid mem => ?_⟩
  · rcases registered pid listed with before | ⟨name, entered⟩
    · exact grows (entitled.registered pid before)
    · rw [Trace.entries_concat, entered, List.map_append]
      exact List.mem_append_right _ (List.mem_singleton_self pid)
  · exact grows ((concerned pid mem).elim (entitled.concerned pid) (entitled.registered pid))

/-- After asking for a process a pass is concerned with no others than before. -/
theorem mem_concerned_afterWait {p : Pid} {rest : List Pid} {noted : List JobReport}
    {reply : WaitReply} {pid : Pid}
    (mem : pid ∈ Signals.concerned (Signals.afterReap (Reap.afterWait p rest noted reply))) :
    pid ∈ p :: rest ++ noted.map JobReport.pid := by
  have behind {noted : List JobReport} (there : pid ∈ rest ++ noted.map JobReport.pid) :
      pid ∈ p :: rest ++ noted.map JobReport.pid := List.mem_cons_of_mem p there
  unfold Reap.afterWait at mem
  repeat' split at mem
  · exact behind (Signals.mem_concerned_next mem)
  · exact mem
  · have there := Signals.mem_concerned_next mem
    simp only [List.map_cons, List.mem_append, List.mem_cons] at there ⊢
    tauto
  · exact behind (Signals.mem_concerned_next mem)
  · exact mem
  · exact behind (Signals.mem_concerned_next mem)

/-- After a step the signal thread is concerned with what concerned it before or is registered. -/
theorem mem_concerned_signals {g : Signals} {reply shared}
    (answered : s.shared.answer world g.turn.call = some (reply, shared)) {pid : Pid}
    (mem : pid ∈ Signals.concerned (g.turn.resume reply)) :
    pid ∈ Signals.concerned (.running g) ∨ s.shared.jobs.contains pid = true := by
  cases g with
  | awaiting =>
      replace mem : pid ∈ Signals.concerned (Signals.afterWait reply) := mem
      unfold Signals.afterWait Signals.accept at mem
      repeat' split at mem
      all_goals cases mem
  | redrawing => cases mem
  | checkingExit => cases reply <;> cases mem
  | reporting r rest =>
      cases rest with
      | nil => cases mem
      | cons next rest => exact .inl (List.mem_cons_of_mem _ mem)
  | reaping r =>
      cases r with
      | listing =>
          cases answered
          have there : pid ∈ s.shared.jobs.pids ++ ([] : List JobReport).map JobReport.pid :=
            Signals.mem_concerned_next mem
          rw [List.map_nil, List.append_nil] at there
          exact .inr (Registry.mem_pids_iff.1 there)
      | asking p rest noted => exact .inl (mem_concerned_afterWait mem)
      | removing r rest noted =>
          refine .inl ?_
          have there := Signals.mem_concerned_next mem
          cases reply with
          | true =>
              simp only [Signals.concerned, if_true, List.map_cons, List.mem_append, List.mem_cons]
                at there ⊢
              tauto
          | false => exact List.mem_cons_of_mem _ there
      | dropping p rest noted =>
          exact .inl (List.mem_cons_of_mem _ (Signals.mem_concerned_next mem))

/-- What is registered after a step was registered before or is registered by it. -/
theorem registered_moves (moves : s.Moves world e after) {pid : Pid}
    (listed : after.shared.jobs.contains pid = true) :
    s.shared.jobs.contains pid = true ∨ ∃ name, e.entered? = some (pid, name) := by
  by_cases registry : e.call.concernsJobs = true
  · cases moves with
    | @input i _ _ _ _ => cases i <;> cases registry
    | @supervisor v _ _ _ answered =>
        cases v with
        | forgetting result =>
            cases answered
            cases listed
        | _ => cases registry
    | @signals g _ _ _ answered =>
        cases g with
        | awaiting | redrawing | reporting | checkingExit => cases registry
        | reaping r =>
            cases r with
            | listing | asking => cases registry
            | removing | dropping =>
                cases answered
                exact .inl (Registry.contains_remove_iff.1 listed).1
    | @execution x reply shared _ answered =>
        cases x with
        | releasing result => cases result <;> cases registry
        | awaiting | deciding | settingExit => cases registry
        | launching c l =>
            cases l with
            | registering p =>
                replace listed : shared.jobs.contains pid = true := listed
                cases reply with
                | ok =>
                    rw [Shared.jobs_tracked answered] at listed
                    rcases Registry.contains_insert_iff.1 listed with rfl | before
                    · exact .inr ⟨c.name, rfl⟩
                    · exact .inl before
                | error f =>
                    rw [Shared.jobs_refused answered] at listed
                    exact .inl listed
            | _ => cases registry
  · rw [moves.jobs_eq (Bool.not_eq_true _ ▸ registry)] at listed
    exact .inl listed

theorem moves (entitled : s.Entitled t) (moves : s.Moves world e after) :
    after.Entitled (t ++ [e]) := by
  refine entitled.of_step (fun pid => registered_moves moves) fun pid mem => ?_
  cases moves with
  | input | execution | supervisor => exact .inl mem
  | signals at_ answered =>
      rw [at_]
      exact mem_concerned_signals answered mem

end Entitled

end Shell

/-! ## Numbers that are not given again -/

namespace Children

variable {k after : Children} {pid : Pid}

/-- No call makes a child unborn again. -/
theorem Serves.born {c : Call} {reply : c.Reply} (serves : k.Serves c reply after)
    (born : k.child pid ≠ .unborn) : after.child pid ≠ .unborn := by
  have settles {other : Pid} {c : Child} (is : c ≠ .unborn) (same : after = k.set other c) :
      after.child pid ≠ .unborn := by
    rw [same]
    by_cases own : pid = other
    · rwa [own, child_set_self]
    · rwa [child_set_of_ne own]
  cases c with
  | fork c =>
      cases reply with
      | ok other => exact settles (c := .quiet) nofun serves.2
      | error e => rwa [show after = k from serves]
  | waitFor other options =>
      cases reply with
      | status st => exact settles (by cases st <;> exact nofun) serves.2.2
      | notReady | failed => rwa [serves.2.2]
  | awaitSignal =>
      cases reply with
      | error e => rwa [show after = k from serves]
      | ok signal =>
          simp only [Serves, Takes] at serves
          split at serves
          · rwa [serves.2]
          · rwa [serves]
  | raiseChild => rwa [show after = _ from serves]
  | _ => rwa [show after = k from serves]

theorem Goes.born (goes : k.Goes after) (born : k.child pid ≠ .unborn) :
    after.child pid ≠ .unborn := by
  rcases goes.2 pid with same | ⟨_, quiet | ⟨news, _⟩⟩
  · rwa [same]
  · rw [quiet]
    exact nofun
  · intro unborn
    rw [unborn] at news
    exact news rfl

end Children

namespace Shell

variable {W : Type} {world : World W} {outside : W → W → Prop} {view : W → Children}
  {s after : Shell W} {t : Trace} {e : Event}

/-- No number is registered twice, and the child that the execution thread has in hand has a number
that was not registered. -/
structure Unrepeated (view : W → Children) (t : Trace) (s : Shell W) : Prop where
  once : (t.entries.map Prod.fst).Nodup
  born : ∀ pid ∈ t.entries.map Prod.fst, (view s.shared.world).child pid ≠ .unborn
  hand : ∀ pid, Execution.inHand s.execution = some pid →
    pid ∉ t.entries.map Prod.fst ∧ (view s.shared.world).child pid ≠ .unborn

namespace Unrepeated

theorem boot (view : W → Children) (limits : Limits) (w : W) :
    (Shell.boot limits w).Unrepeated view [] := ⟨List.nodup_nil, nofun, nofun⟩

theorem moves (unrepeated : s.Unrepeated view t) (lawful : Lawful world outside view)
    (moves : s.Moves world e after) : after.Unrepeated view (t ++ [e]) := by
  have served := lawful.serves_of_moves moves
  have stays {pid : Pid} (born : (view s.shared.world).child pid ≠ .unborn) :
      (view after.shared.world).child pid ≠ .unborn := served.born born
  cases entered : e.entered? with
  | some entry =>
      obtain ⟨pid, name⟩ := entry
      obtain ⟨c, w, _, at_, same⟩ := moves.of_entered entered
      obtain ⟨fresh, born⟩ := unrepeated.hand pid (by rw [at_]; rfl)
      have grown : (Trace.entries (t ++ [e])).map Prod.fst = t.entries.map Prod.fst ++ [pid] := by
        rw [Trace.entries_concat, entered, List.map_append]
        rfl
      refine ⟨?_, ?_, ?_⟩
      · rw [grown]
        refine List.nodup_append.2 ⟨unrepeated.once, List.nodup_singleton pid, ?_⟩
        rintro p mem q own rfl
        exact fresh (List.mem_singleton.1 own ▸ mem)
      · rw [grown]
        intro p mem
        rcases List.mem_append.1 mem with old | new
        · exact stays (unrepeated.born p old)
        · exact stays (List.mem_singleton.1 new ▸ born)
      · intro p inHand
        rw [same] at inHand
        cases inHand
  | none =>
      have known : Trace.entries (t ++ [e]) = t.entries := by
        rw [Trace.entries_concat, entered]
        exact List.append_nil _
      refine ⟨known ▸ unrepeated.once, fun p mem => stays (unrepeated.born p (known ▸ mem)),
        fun p inHand => ?_⟩
      rw [known]
      rcases moves.inHand_cases inHand with before | ⟨c, rfl⟩
      · obtain ⟨fresh, born⟩ := unrepeated.hand p before
        exact ⟨fresh, stays born⟩
      · obtain ⟨unborn, same⟩ := served
        refine ⟨fun mem => unrepeated.born p mem unborn, ?_⟩
        rw [same, Children.child_set_self]
        exact nofun

theorem changes {w : W} (unrepeated : s.Unrepeated view t) (lawful : Lawful world outside view)
    (change : outside s.shared.world w) : (s.withWorld w).Unrepeated view t := by
  have goes := lawful.outside _ _ change
  exact ⟨unrepeated.once, fun p mem => goes.born (unrepeated.born p mem),
    fun p inHand => ⟨(unrepeated.hand p inHand).1, goes.born (unrepeated.hand p inHand).2⟩⟩

end Unrepeated

end Shell

/-! ## Runs -/

namespace Run

variable {W : Type} {world : World W} {outside : W → W → Prop} {view : W → Children}
  {limits : Limits} {w : W} {t : Trace} {s : Shell W}

theorem introductions (run : Run world outside (Shell.boot limits w) t s) : s.Introductions t := by
  induction run with
  | start => exact ⟨[], rfl, rfl⟩
  | move _ moves ih => exact ih.moves moves
  | outside _ _ ih => exact ih

theorem entitled (run : Run world outside (Shell.boot limits w) t s) : s.Entitled t := by
  induction run with
  | start => exact .boot limits w
  | move _ moves ih => exact ih.moves moves
  | outside _ _ ih => exact ⟨ih.registered, ih.concerned⟩

theorem unrepeated (lawful : Lawful world outside view)
    (run : Run world outside (Shell.boot limits w) t s) : s.Unrepeated view t := by
  induction run with
  | start => exact .boot view limits w
  | move _ moves ih => exact ih.moves lawful moves
  | outside _ change ih => exact ih.changes lawful change

end Run

/-- When a job is about to be reported it has been registered, once, and its announcement has been
written, or the launch that registered it is about to write it. -/
theorem report_follows_entry {W : Type} {world : World W} {outside : W → W → Prop}
    {view : W → Children} {limits : Limits} {w : W} {t : Trace} {s : Shell W} {r : JobReport}
    {rest : List JobReport} (lawful : Lawful world outside view)
    (run : Run world outside (Shell.boot limits w) t s)
    (reports : s.signals = .running (.reporting r rest)) :
    ∃ name, (r.pid, name) ∈ t.entries ∧ (∀ other, (r.pid, other) ∈ t.entries → other = name) ∧
      (announcement (r.pid, name) ∈ t.introduced ∨
        Execution.introducing s.execution = some (r.pid, name)) := by
  have known : r.pid ∈ t.entries.map Prod.fst := by
    refine run.entitled.concerned r.pid ?_
    rw [reports]
    exact List.mem_cons_self
  obtain ⟨⟨pid, name⟩, mem, same⟩ := List.mem_map.1 known
  cases same
  refine ⟨name, mem, fun other there => ?_, ?_⟩
  · have same := List.inj_on_of_nodup_map (run.unrepeated lawful).once there mem rfl
    exact congrArg Prod.snd same
  · obtain ⟨done, entries, introduced⟩ := run.introductions
    rw [entries] at mem
    rcases List.mem_append.1 mem with old | new
    · rw [introduced]
      exact .inl (List.mem_map_of_mem old)
    · exact .inr (Option.mem_toList.1 new)

/-- A job that ends while it is being registered is reported and only then announced: its report is
written, and no announcement is. -/
theorem report_precedes_announcement :
    ∃ t s, Run World.nursery Nursery.Changes
        (Shell.boot {} (Nursery.of (Source.ofBytes (Bytes.ofText "a &\n")))) t s ∧
      t.announced = [Bytes.ofText "\n[1]+ Exit 3\n"] ∧ t.introduced = [] ∧
      s.call? .execution = some (.print (announcement (1, "a"))) := by
  let start : Nursery := Nursery.of (Source.ofBytes (Bytes.ofText "a &\n"))
  let first : List ThreadId := .replicate 7 .input ++ .replicate 5 .execution
  have played :
      ((Shell.boot {} start).playAround World.nursery first (Nursery.endChild 1 3)
        (.replicate 5 .signals)).any
        (fun (t, s) => decide (t.announced = [Bytes.ofText "\n[1]+ Exit 3\n"]) &&
          decide (t.introduced = []) &&
          decide (s.call? .execution = some (.print (announcement (1, "a"))))) = true := by
    decide +kernel
  obtain ⟨⟨t, s⟩, reached, found⟩ := (Option.any_eq_true _ _).1 played
  simp only [Bool.and_eq_true, decide_eq_true_eq] at found
  exact ⟨t, s, Run.playAround Nursery.changes_endChild reached, found.1.1, found.1.2, found.2⟩

/-- A report that is about to be written while the announcement is still to come. -/
theorem report_follows_entry_of_early_end :
    ∃ t s r rest, Run World.nursery Nursery.Changes
        (Shell.boot {} (Nursery.of (Source.ofBytes (Bytes.ofText "a &\n")))) t s ∧
      s.signals = .running (.reporting r rest) ∧ r.pid = 1 ∧
      ∃ name, (r.pid, name) ∈ t.entries ∧ (∀ other, (r.pid, other) ∈ t.entries → other = name) ∧
        (announcement (r.pid, name) ∈ t.introduced ∨
          Execution.introducing s.execution = some (r.pid, name)) := by
  let start : Nursery := Nursery.of (Source.ofBytes (Bytes.ofText "a &\n"))
  let first : List ThreadId := .replicate 7 .input ++ .replicate 5 .execution
  have played :
      ((Shell.boot {} start).playAround World.nursery first (Nursery.endChild 1 3)
        (.replicate 4 .signals)).any
        (fun (_, s) => (Signals.reported? s.signals).any fun r => decide (r.pid = 1)) = true := by
    decide +kernel
  obtain ⟨⟨t, s⟩, reached, found⟩ := (Option.any_eq_true _ _).1 played
  have run : Run World.nursery Nursery.Changes (Shell.boot {} start) t s :=
    Run.playAround Nursery.changes_endChild reached
  obtain ⟨r, reported, first⟩ := (Option.any_eq_true _ _).1 found
  obtain ⟨rest, reports⟩ := Signals.reported?_eq_some_iff.1 reported
  exact ⟨t, s, r, rest, run, reports, of_decide_eq_true first,
    report_follows_entry Tended.nursery.toLawful run reports⟩

end JobShell
