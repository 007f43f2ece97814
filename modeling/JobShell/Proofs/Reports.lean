import JobShell.Proofs.Attention
import Mathlib.Data.List.Forall2
import Mathlib.Data.List.Nodup

/-!
# Every job is reported, and none twice

A trace shows which changes of state the signal thread collected and which lines it was to write
about them, and for which processes a job was registered; the record of a run shows what it wrote.
Until the jobs that are left are forgotten at the end of the shell, each of these processes is in
one of three situations; its final report is counted in two of them.

Results:
1. `Shell.Accounts.moves`: every step keeps the accounts of all processes.
2. `Run.accounts`: the accounts hold throughout a run.
3. `Recorded.shows`: the lines that are to be written are written.
4. `jobs_reported`: news of jobs are watched, what is collected is reported in order, no job ends
   twice, and when nothing is left to do every job is registered and alive or reported and gone.
-/

namespace JobShell

open Thread (Input Execution Signals Supervisor Status)

/-! ## What a trace shows -/

/-- The line written about a job. -/
def JobReport.line (r : JobReport) : Bytes :=
  Bytes.ofText ("\n[" ++ toString r.pid ++ "]+ " ++ r.event.text ++ "\n")

/-- The process for which a job is registered. -/
def Event.tracked? : Event → Option Pid
  | ⟨_, .track pid _, .ok ()⟩ => some pid
  | _ => none

/-- The change of state that the signal thread collects. -/
def Event.collected? : Event → Option JobReport
  | ⟨.signals, .waitFor pid _, .status s⟩ => (JobEvent.ofStatus? s).map (⟨pid, ·⟩)
  | _ => none

/-- The line that the signal thread writes about a job, whether or not a prompt goes behind it. -/
def Event.announced? : Event → Option Bytes
  | ⟨.signals, .printByOccupancy vacant [line], _⟩ =>
      if vacant = [line, Bytes.ofText "$ "] then some line else none
  | _ => none

/-- Whether the signal thread writes about a job. What else it writes answers an interrupt or a stop
from the keyboard. -/
def Write.isReport (w : Write) : Bool :=
  decide (w.thread = .signals) &&
    decide (w.bytes ≠ Bytes.ofText "\n" ∧ w.bytes ≠ Bytes.ofText "\n$ ")

/-- A line is written, with a prompt behind it if the slot is empty. -/
def Write.Shows (w : Write) (line : Bytes) : Prop :=
  w.bytes = line ++ if w.busy then [] else Bytes.ofText "$ "

/-- What the signal thread has written about jobs. -/
def reportsOf (ws : List Write) : List Write := ws.filter Write.isReport

namespace Trace

def tracked (t : Trace) : List Pid := t.filterMap Event.tracked?

def collected (t : Trace) : List JobReport := t.filterMap Event.collected?

def announced (t : Trace) : List Bytes := t.filterMap Event.announced?

/-- How often the end of a process was collected. -/
def finals (t : Trace) (pid : Pid) : Nat :=
  t.collected.countP fun r => decide (r.pid = pid) && r.event.isFinal

theorem tracked_concat (t : Trace) (e : Event) :
    tracked (t ++ [e]) = tracked t ++ e.tracked?.toList :=
  filterMap_concat ..

theorem collected_concat (t : Trace) (e : Event) :
    collected (t ++ [e]) = collected t ++ e.collected?.toList :=
  filterMap_concat ..

theorem announced_concat (t : Trace) (e : Event) :
    announced (t ++ [e]) = announced t ++ e.announced?.toList :=
  filterMap_concat ..

theorem tracked_concat_of_none {t : Trace} {e : Event} (none : e.tracked? = none) :
    tracked (t ++ [e]) = tracked t :=
  filterMap_concat_of_none none

theorem collected_concat_of_none {t : Trace} {e : Event} (none : e.collected? = none) :
    collected (t ++ [e]) = collected t :=
  filterMap_concat_of_none none

theorem announced_concat_of_none {t : Trace} {e : Event} (none : e.announced? = none) :
    announced (t ++ [e]) = announced t :=
  filterMap_concat_of_none none

theorem finals_concat_of_none {t : Trace} {e : Event} (pid : Pid) (none : e.collected? = none) :
    finals (t ++ [e]) pid = finals t pid := by
  rw [finals, collected_concat_of_none none, finals]

theorem finals_concat_of_some {t : Trace} {e : Event} {r : JobReport} (pid : Pid)
    (some : e.collected? = some r) :
    finals (t ++ [e]) pid =
      finals t pid + if r.pid = pid ∧ r.event.isFinal = true then 1 else 0 := by
  rw [finals, collected_concat, some]
  simp [finals, List.countP_append, List.countP_cons]

end Trace

theorem JobReport.textLine_text (r : JobReport) : textLine r.text = r.line := by
  rw [textLine, text, line]

theorem JobReport.exists_line_eq (r : JobReport) : ∃ rest, r.line = 10 :: 91 :: rest := by
  have front : Bytes.ofText "\n[" = [10, 91] := by decide
  rw [line, Bytes.ofText_append, Bytes.ofText_append, Bytes.ofText_append, Bytes.ofText_append,
    front]
  exact ⟨_, rfl⟩

/-! ## What the signal thread has in hand -/

namespace Thread

/-- The processes that a pass still has to ask for. -/
def Signals.ahead : Status Signals (Except Errno Unit) → List Pid
  | .running (.reaping (.asking p rest _)) => p :: rest
  | .running (.reaping (.removing _ rest _)) => rest
  | .running (.reaping (.dropping _ rest _)) => rest
  | _ => []

/-- The process whose job is about to leave the registry. -/
def Signals.leaving : Status Signals (Except Errno Unit) → Option Pid
  | .running (.reaping (.removing r _ _)) => some r.pid
  | .running (.reaping (.dropping p _ _)) => some p
  | _ => none

/-- What was collected and is not yet reported. -/
def Signals.unreported : Status Signals (Except Errno Unit) → List JobReport
  | .running (.reaping (.asking _ _ noted)) => noted.reverse
  | .running (.reaping (.removing r _ noted)) => noted.reverse ++ [r]
  | .running (.reaping (.dropping _ _ noted)) => noted.reverse
  | .running (.reporting r rest) => r :: rest
  | _ => []

/-- The child that the execution thread has launched, before its job is registered or while it is
waited for. -/
def Execution.inHand : Status Execution (Except LaunchError Unit) → Option Pid
  | .running (.launching _ (.shielding p)) => some p
  | .running (.launching _ (.registering p)) => some p
  | .running (.launching _ (.waiting p)) => some p
  | _ => none

namespace Signals

variable (noted : List JobReport) (rest : List Pid)

theorem ahead_next : ahead (afterReap (Reap.next noted rest)) = rest := by
  cases rest with
  | nil =>
      simp only [Reap.next, afterReap]
      cases noted.reverse <;> rfl
  | cons p rest => rfl

theorem leaving_next : leaving (afterReap (Reap.next noted rest)) = none := by
  cases rest with
  | nil =>
      simp only [Reap.next, afterReap]
      cases noted.reverse <;> rfl
  | cons p rest => rfl

theorem unreported_next : unreported (afterReap (Reap.next noted rest)) = noted.reverse := by
  cases rest with
  | nil =>
      simp only [Reap.next, afterReap]
      cases noted.reverse <;> rfl
  | cons p rest => rfl

end Signals

end Thread

/-! ## The account of a process -/

/-- The situations of a process: no job was registered for it; its job is registered and it has
not ended; its end was collected and its job is about to leave the registry; it is gone. -/
inductive Account (tracked registered : Prop) (c : Child) (finals : Nat) (ahead leaving : Prop) :
    Prop
  | foreign : ¬ tracked → ¬ registered → finals = 0 → ¬ ahead → ¬ leaving →
      Account tracked registered c finals ahead leaving
  | kept : tracked → registered → c.isPresent = true → finals = 0 → ¬ leaving →
      Account tracked registered c finals ahead leaving
  | leaving : tracked → registered → c = .collected → finals = 1 → ¬ ahead → leaving →
      Account tracked registered c finals ahead leaving
  | gone : tracked → ¬ registered → c = .collected → finals = 1 → ¬ ahead → ¬ leaving →
      Account tracked registered c finals ahead leaving

namespace Shell

variable {W : Type}

/-- The account of a process after a trace. -/
def AccountOf (view : W → Children) (t : Trace) (s : Shell W) (pid : Pid) : Prop :=
  Account (pid ∈ t.tracked) (s.shared.jobs.contains pid = true)
    ((view s.shared.world).child pid) (t.finals pid) (pid ∈ Signals.ahead s.signals)
    (Signals.leaving s.signals = some pid)

/-- The accounts of all processes, and the books of the reports. -/
structure Accounts (view : W → Children) (t : Trace) (s : Shell W) : Prop where
  distinct : s.shared.jobs.IsDistinct
  ahead : (Signals.ahead s.signals).Nodup
  hand : ∀ pid, Execution.inHand s.execution = some pid →
    pid ∉ t.tracked ∧ ((view s.shared.world).child pid).isPresent = true
  account : ∀ pid, s.AccountOf view t pid
  lines : t.announced ++ (Signals.unreported s.signals).map JobReport.line =
    t.collected.map JobReport.line

end Shell

namespace Event

variable {e : Event}

theorem collected?_of_ne (other : e.thread ≠ .signals) : e.collected? = none := by
  unfold collected?
  split
  · exact absurd rfl other
  · rfl

theorem announced?_of_ne (other : e.thread ≠ .signals) : e.announced? = none := by
  unfold announced?
  split
  · exact absurd rfl other
  · rfl

theorem announced?_redrawing (reply) :
    announced? ⟨.signals, Signals.redrawing.turn.call, reply⟩ = none := by
  simp [announced?, Signals.turn]

theorem announced?_reporting (r : JobReport) (rest : List JobReport) (reply) :
    announced? ⟨.signals, (Signals.reporting r rest).turn.call, reply⟩ = some r.line := by
  rw [← r.textLine_text]
  exact if_pos rfl

end Event

namespace Account

variable {tracked registered ahead leaving : Prop} {c : Child} {finals : Nat}

theorem finals_le_one (account : Account tracked registered c finals ahead leaving) :
    finals ≤ 1 := by
  cases account <;> omega

/-- A process that is asked for is registered and has not ended. -/
theorem of_ahead (account : Account tracked registered c finals ahead leaving) (there : ahead) :
    tracked ∧ registered ∧ c.isPresent = true ∧ finals = 0 ∧ ¬ leaving := by
  cases account with
  | kept known listed present none stays => exact ⟨known, listed, present, none, stays⟩
  | foreign _ _ _ absent | leaving _ _ _ _ absent | gone _ _ _ _ absent =>
      exact absurd there absent

/-- A process whose job is leaving has ended once. -/
theorem of_leaving (account : Account tracked registered c finals ahead leaving)
    (leaves : leaving) :
    tracked ∧ registered ∧ c = .collected ∧ finals = 1 ∧ ¬ ahead := by
  cases account with
  | leaving known listed collected once absent _ =>
      exact ⟨known, listed, collected, once, absent⟩
  | foreign _ _ _ _ stays | kept _ _ _ _ stays | gone _ _ _ _ _ stays => exact absurd leaves stays

/-- The account of a child that goes on by itself stays the same. -/
theorem of_child {d : Child} (account : Account tracked registered c finals ahead leaving)
    (present : d.isPresent = c.isPresent) (collected : d = .collected ↔ c = .collected) :
    Account tracked registered d finals ahead leaving := by
  cases account with
  | foreign unknown unlisted none absent stays =>
      exact .foreign unknown unlisted none absent stays
  | kept known listed there none stays =>
      exact .kept known listed (present.trans there) none stays
  | leaving known listed reaped once absent leaves =>
      exact .leaving known listed (collected.2 reaped) once absent leaves
  | gone known unlisted reaped once absent stays =>
      exact .gone known unlisted (collected.2 reaped) once absent stays

/-- What becomes of a child that no job was registered for does not matter. -/
theorem of_foreign (account : Account tracked registered c finals ahead leaving)
    (unknown : ¬ tracked) (d : Child) : Account tracked registered d finals ahead leaving := by
  cases account with
  | foreign _ unlisted none absent stays => exact .foreign unknown unlisted none absent stays
  | kept known | leaving known | gone known => exact absurd known unknown

/-- For a child that is about to be born no job is registered. -/
theorem not_tracked_of_unborn (account : Account tracked registered .unborn finals ahead leaving) :
    ¬ tracked := by
  cases account with
  | foreign unknown => exact unknown
  | kept _ _ present => cases present
  | leaving _ _ reaped | gone _ _ reaped => cases reaped

end Account

namespace Children

theorem Goes.isPresent_eq {k after : Children} (goes : k.Goes after) (pid : Pid) :
    (after.child pid).isPresent = (k.child pid).isPresent := by
  rcases goes.2 pid with same | ⟨alive, quiet | ⟨news, _⟩⟩
  · rw [same]
  · rw [quiet, Child.isPresent_of_isAlive alive]
    rfl
  · rw [Child.isPresent_of_news news, Child.isPresent_of_isAlive alive]

end Children

/-- A step that is about another process leaves an account as it is. -/
theorem Shell.AccountOf.transfer {W : Type} {view : W → Children} {s after : Shell W}
    {t u : Trace} {pid : Pid} (account : s.AccountOf view t pid)
    (tracked : pid ∈ u.tracked ↔ pid ∈ t.tracked)
    (registered : after.shared.jobs.contains pid = true ↔ s.shared.jobs.contains pid = true)
    (child : (view after.shared.world).child pid = (view s.shared.world).child pid)
    (finals : u.finals pid = t.finals pid)
    (ahead : pid ∈ Signals.ahead after.signals ↔ pid ∈ Signals.ahead s.signals)
    (leaving : Signals.leaving after.signals = some pid ↔ Signals.leaving s.signals = some pid) :
    after.AccountOf view u pid := by
  rw [AccountOf, propext tracked, propext registered, child, finals, propext ahead,
    propext leaving]
  exact account

namespace Shell.Accounts

variable {W : Type} {world : World W} {outside : W → W → Prop} {view : W → Children}
  {s after : Shell W} {t : Trace} {e : Event}

theorem boot (view : W → Children) (limits : Limits) (w : W) :
    (Shell.boot limits w).Accounts view [] :=
  ⟨List.nodup_nil, List.nodup_nil, nofun,
    fun _ => .foreign List.not_mem_nil nofun rfl List.not_mem_nil nofun, rfl⟩

/-- A step that touches neither the registry nor a child, and leaves the pass where it is, keeps
the accounts; what it reports was to be reported. -/
theorem of_quiet (accounts : s.Accounts view t)
    (jobs : after.shared.jobs = s.shared.jobs)
    (same : (view after.shared.world).child = (view s.shared.world).child)
    (ahead : Signals.ahead after.signals = Signals.ahead s.signals)
    (leaving : Signals.leaving after.signals = Signals.leaving s.signals)
    (hand : ∀ pid, Execution.inHand after.execution = some pid →
      Execution.inHand s.execution = some pid)
    (tracked : e.tracked? = none) (collected : e.collected? = none)
    (lines : (Signals.unreported s.signals).map JobReport.line =
      e.announced?.toList ++ (Signals.unreported after.signals).map JobReport.line) :
    after.Accounts view (t ++ [e]) := by
  have known := Trace.tracked_concat_of_none (t := t) tracked
  refine ⟨jobs ▸ accounts.distinct, ahead ▸ accounts.ahead, ?_, ?_, ?_⟩
  · intro pid inHand
    rw [known, same]
    exact accounts.hand pid (hand pid inHand)
  · intro pid
    exact (accounts.account pid).transfer (by rw [known]) (by rw [jobs]) (by rw [same])
      (Trace.finals_concat_of_none pid collected) (by rw [ahead]) (by rw [leaving])
  · rw [Trace.announced_concat, Trace.collected_concat_of_none collected, List.append_assoc,
      ← lines]
    exact accounts.lines

theorem of_other (accounts : s.Accounts view t) (other : e.thread ≠ .signals)
    (jobs : after.shared.jobs = s.shared.jobs)
    (same : (view after.shared.world).child = (view s.shared.world).child)
    (signals : after.signals = s.signals)
    (hand : ∀ pid, Execution.inHand after.execution = some pid →
      Execution.inHand s.execution = some pid)
    (tracked : e.tracked? = none) : after.Accounts view (t ++ [e]) := by
  refine accounts.of_quiet jobs same (by rw [signals]) (by rw [signals]) hand tracked
    (Event.collected?_of_ne other) ?_
  rw [Event.announced?_of_ne other, signals]
  rfl

/-- Once a process has been asked for, its own account has to be looked at, and no other. -/
theorem of_asked {p : Pid} {rest : List Pid} {noted : List JobReport}
    {g : Status Signals (Except Errno Unit)} {shared : Shared W} (accounts : s.Accounts view t)
    (at_ : s.signals = .running (.reaping (.asking p rest noted)))
    (jobs : shared.jobs = s.shared.jobs)
    (others : ∀ q, q ≠ p → (view shared.world).child q = (view s.shared.world).child q)
    (ahead : Signals.ahead g = rest) (leaving : ∀ q, q ≠ p → Signals.leaving g ≠ some q)
    (tracked : e.tracked? = none) (finals : ∀ q, q ≠ p → Trace.finals (t ++ [e]) q = t.finals q)
    (own : AccountOf view (t ++ [e]) { s with signals := g, shared } p)
    (lines : Trace.announced (t ++ [e]) ++ (Signals.unreported g).map JobReport.line =
      (Trace.collected (t ++ [e])).map JobReport.line) :
    Accounts view (t ++ [e]) { s with signals := g, shared } := by
  have known := Trace.tracked_concat_of_none (t := t) tracked
  have asked : p ∈ Signals.ahead s.signals := by
    rw [at_]
    exact List.mem_cons_self
  have unique : (p :: rest).Nodup := by
    have unique := accounts.ahead
    rwa [at_] at unique
  refine ⟨by rw [jobs]; exact accounts.distinct, ?_, ?_, fun q => ?_, lines⟩
  · rw [ahead]
    exact (List.nodup_cons.1 unique).2
  · intro q inHand
    obtain ⟨unknown, present⟩ := accounts.hand q inHand
    -- the child in hand has no job yet, and what is asked for has one
    have apart : q ≠ p := by
      rintro rfl
      exact unknown ((accounts.account q).of_ahead asked).1
    rw [known, others q apart]
    exact ⟨unknown, present⟩
  · by_cases same : q = p
    · rw [same]
      exact own
    · refine (accounts.account q).transfer (by rw [known]) (by rw [jobs]) (others q same)
        (finals q same) ?_ ?_
      · rw [ahead, at_, Signals.ahead, List.mem_cons]
        exact ⟨.inr, fun there => there.resolve_left same⟩
      · rw [at_]
        exact ⟨fun leaves => absurd leaves (leaving q same), nofun⟩

/-- Asking for a registered job: the change of state that is collected, if there is one, is noted,
and after an end the job is about to leave. -/
theorem asking_moves {p : Pid} {rest : List Pid} {noted : List JobReport} {reply : WaitReply}
    {shared : Shared W} (accounts : s.Accounts view t)
    (at_ : s.signals = .running (.reaping (.asking p rest noted)))
    (jobs : shared.jobs = s.shared.jobs)
    (waits : (view s.shared.world).Waits p { noHang := true, untraced := true } reply
      (view shared.world)) :
    Accounts view (t ++ [⟨.signals, .waitFor p { noHang := true, untraced := true }, reply⟩])
      { s with
        signals := Signals.afterReap (Reap.afterWait p rest noted reply)
        shared } := by
  have unique := accounts.ahead
  have lines := accounts.lines
  have asked : p ∈ Signals.ahead s.signals := by
    rw [at_]
    exact List.mem_cons_self
  obtain ⟨known, listed, present, none, _⟩ := (accounts.account p).of_ahead asked
  rw [at_] at unique lines
  have absent : p ∉ rest := (List.nodup_cons.1 unique).1
  have tracked : p ∈ Trace.tracked
      (t ++ [⟨.signals, .waitFor p { noHang := true, untraced := true }, reply⟩]) := by
    rw [Trace.tracked_concat_of_none rfl]
    exact known
  cases reply with
  | failed e =>
      -- a registered child that has not ended is a child of the shell, so the wait does not fail
      obtain ⟨unknown, only, _⟩ := waits
      rw [unknown.1 (only rfl)] at present
      cases present
  | notReady =>
      obtain ⟨_, _, same⟩ := waits
      have quiet (q : Pid) := Trace.finals_concat_of_none (t := t) (e := ⟨.signals,
        .waitFor p { noHang := true, untraced := true }, .notReady⟩) q rfl
      refine accounts.of_asked at_ jobs (fun q _ => by rw [same]) (Signals.ahead_next ..)
        (fun q _ => by rw [Reap.afterWait, Signals.leaving_next]; nofun) rfl (fun q _ => quiet q)
        ?_ ?_
      · refine .kept tracked (jobs ▸ listed) (same ▸ present) ((quiet p).trans none) ?_
        rw [Reap.afterWait, Signals.leaving_next]
        exact nofun
      · rw [Reap.afterWait, Signals.unreported_next, Trace.announced_concat_of_none rfl,
          Trace.collected_concat_of_none rfl]
        exact lines
  | status st =>
      obtain ⟨news, _, same⟩ := waits
      obtain ⟨event, told, final⟩ := Child.event_of_news news
      have noticed : Event.collected? ⟨.signals, .waitFor p { noHang := true, untraced := true },
          .status st⟩ = some ⟨p, event⟩ := by
        simp [Event.collected?, told]
      have others (q : Pid) (apart : q ≠ p) :
          (view shared.world).child q = (view s.shared.world).child q := by
        rw [same, Children.child_set_of_ne apart]
      have count (q : Pid) := Trace.finals_concat_of_some (t := t) q noticed
      have finals (q : Pid) (apart : q ≠ p) : Trace.finals (t ++ [⟨.signals, .waitFor p
          { noHang := true, untraced := true }, .status st⟩]) q = t.finals q := by
        rw [count q, if_neg fun own => apart own.1.symm, Nat.add_zero]
      cases stop : st.isStop with
      | true =>
          have next : Reap.afterWait p rest noted (.status st) =
              Reap.next (⟨p, event⟩ :: noted) rest := by
            simp [Reap.afterWait, told, final, stop]
          refine accounts.of_asked at_ jobs others (by rw [next, Signals.ahead_next])
            (fun q _ => by rw [next, Signals.leaving_next]; nofun) rfl finals ?_ ?_
          · refine .kept tracked (jobs ▸ listed) ?_ ?_ ?_
            · rw [same, Children.child_set_self, Child.settled_eq, if_pos stop]
              rfl
            · rw [count p, none]
              simp [final, stop]
            · rw [next, Signals.leaving_next]
              exact nofun
          · rw [next, Signals.unreported_next, Trace.announced_concat_of_none rfl,
              Trace.collected_concat, noticed, List.map_append, ← lines]
            simp [Signals.unreported]
      | false =>
          have next : Reap.afterWait p rest noted (.status st) =
              .running (.removing ⟨p, event⟩ rest noted) := by
            simp [Reap.afterWait, told, final, stop]
          refine accounts.of_asked at_ jobs others (by rw [next]; rfl)
            (fun q apart => by rw [next]; exact fun own => apart (Option.some.inj own).symm)
            rfl finals ?_ ?_
          · refine .leaving tracked (jobs ▸ listed) ?_ ?_ ?_ ?_
            · rw [same, Children.child_set_self, Child.settled_eq, stop]
              rfl
            · rw [count p, none]
              simp [final, stop]
            · rw [next]
              exact absent
            · rw [next]
              rfl
          · rw [next, Trace.announced_concat_of_none rfl, Trace.collected_concat, noticed,
              List.map_append, ← lines]
            simp [Signals.unreported, Signals.afterReap]

/-- A job whose end was collected leaves the registry. -/
theorem of_left {p : Pid} {g : Status Signals (Except Errno Unit)} (accounts : s.Accounts view t)
    (leaves : Signals.leaving s.signals = some p)
    (ahead : Signals.ahead g = Signals.ahead s.signals) (stays : Signals.leaving g = none)
    (tracked : e.tracked? = none) (collected : e.collected? = none)
    (announced : e.announced? = none)
    (lines : (Signals.unreported g).map JobReport.line =
      (Signals.unreported s.signals).map JobReport.line) :
    Accounts view (t ++ [e])
      { s with signals := g, shared := { s.shared with jobs := s.shared.jobs.remove p } } := by
  have known := Trace.tracked_concat_of_none (t := t) tracked
  obtain ⟨entered, _, reaped, once, absent⟩ := (accounts.account p).of_leaving leaves
  refine ⟨accounts.distinct.remove p, ahead ▸ accounts.ahead, ?_, fun q => ?_, ?_⟩
  · rw [known]
    exact accounts.hand
  · by_cases same : q = p
    · rw [same]
      refine .gone (known ▸ entered) ?_ reaped
        ((Trace.finals_concat_of_none p collected).trans once) (ahead ▸ absent) ?_
      · intro there
        exact (Registry.contains_remove_iff.1 there).2 rfl
      · rw [stays]
        exact nofun
    · refine (accounts.account q).transfer (by rw [known]) ?_ rfl
        (Trace.finals_concat_of_none q collected) (by rw [ahead]) ?_
      · exact ⟨fun there => (Registry.contains_remove_iff.1 there).1,
          fun there => Registry.contains_remove_iff.2 ⟨there, same⟩⟩
      · rw [stays, leaves]
        exact ⟨nofun, fun own => absurd (Option.some.inj own).symm same⟩
  · rw [Trace.announced_concat_of_none announced, Trace.collected_concat_of_none collected, lines]
    exact accounts.lines

/-- A pass starts with all jobs of the registry ahead. -/
theorem listing_moves (accounts : s.Accounts view t)
    (at_ : s.signals = .running (.reaping .listing)) :
    Accounts view (t ++ [⟨.signals, .trackedPids, s.shared.jobs.pids⟩])
      { s with signals := Signals.afterReap (Reap.next [] s.shared.jobs.pids) } := by
  have known := Trace.tracked_concat_of_none (t := t)
    (e := ⟨.signals, .trackedPids, s.shared.jobs.pids⟩) rfl
  refine ⟨accounts.distinct, ?_, ?_, fun q => ?_, ?_⟩
  · rw [Signals.ahead_next]
    exact accounts.distinct.nodup_pids
  · rw [known]
    exact accounts.hand
  · have count := Trace.finals_concat_of_none (t := t)
      (e := ⟨.signals, .trackedPids, s.shared.jobs.pids⟩) q rfl
    have account := accounts.account q
    rw [AccountOf, known, count, Signals.ahead_next, Signals.leaving_next, Registry.mem_pids_iff]
    -- being ahead is now the same as being registered
    cases account with
    | foreign unknown unlisted none _ _ => exact .foreign unknown unlisted none unlisted nofun
    | kept entered listed present none _ => exact .kept entered listed present none nofun
    | leaving _ _ _ _ _ leaves =>
        rw [at_] at leaves
        cases leaves
    | gone entered unlisted reaped once _ _ =>
        exact .gone entered unlisted reaped once unlisted nofun
  · have lines := accounts.lines
    rw [at_] at lines
    rw [Signals.unreported_next, Trace.announced_concat_of_none rfl,
      Trace.collected_concat_of_none rfl]
    exact lines

theorem signals_moves {g : Signals} {reply shared} (accounts : s.Accounts view t)
    (tended : Tended world outside view) (at_ : s.signals = .running g)
    (answered : s.shared.answer world g.turn.call = some (reply, shared)) :
    Accounts view (t ++ [⟨.signals, g.turn.call, reply⟩])
      { s with signals := g.turn.resume reply, shared } := by
  have served := tended.serves answered
  cases g with
  | awaiting =>
      have taken : (view s.shared.world).Takes reply (view shared.world) := served
      have same : (view shared.world).child = (view s.shared.world).child := by
        cases reply with
        | error e => rw [show view shared.world = view s.shared.world from taken]
        | ok signal =>
            simp only [Children.Takes] at taken
            split at taken
            · rw [taken.2]
            · rw [taken]
      have idle : Signals.ahead (Signals.afterWait reply) = [] ∧
          Signals.leaving (Signals.afterWait reply) = none ∧
          Signals.unreported (Signals.afterWait reply) = [] := by
        unfold Signals.afterWait Signals.accept
        repeat' split
        all_goals exact ⟨rfl, rfl, rfl⟩
      obtain ⟨ahead, leaving, unreported⟩ := idle
      refine accounts.of_quiet (Shared.jobs_answer answered rfl) same ?_ ?_ (fun _ => id) rfl rfl ?_
      · rw [at_]
        exact ahead
      · rw [at_]
        exact leaving
      · rw [at_]
        show [] = [] ++ (Signals.unreported (Signals.afterWait reply)).map JobReport.line
        rw [unreported]
        rfl
  | redrawing =>
      refine accounts.of_quiet (Shared.jobs_answer answered rfl)
        (congrArg Children.child served) ?_ ?_ (fun _ => id) rfl rfl ?_
      · rw [at_]
        rfl
      · rw [at_]
        rfl
      · rw [at_, Event.announced?_redrawing]
        rfl
  | reporting r rest =>
      have told := Event.announced?_reporting r rest reply
      refine accounts.of_quiet (Shared.jobs_answer answered rfl)
        (congrArg Children.child served) ?_ ?_ (fun _ => id) rfl rfl ?_
      · rw [at_]
        cases rest <;> rfl
      · rw [at_]
        cases rest <;> rfl
      · rw [at_, told]
        cases rest <;> rfl
  | checkingExit =>
      refine accounts.of_quiet (Shared.jobs_answer answered rfl)
        (congrArg Children.child served) ?_ ?_ (fun _ => id) rfl rfl ?_
      · rw [at_]
        simp only [Signals.turn]
        split <;> rfl
      · rw [at_]
        simp only [Signals.turn]
        split <;> rfl
      · rw [at_]
        simp only [Signals.turn]
        split <;> rfl
  | reaping r =>
      cases r with
      | listing =>
          cases answered
          exact accounts.listing_moves at_
      | asking p rest noted =>
          exact accounts.asking_moves at_ (Shared.jobs_answer answered rfl) served
      | removing r rest noted =>
          cases answered
          have leaves : Signals.leaving s.signals = some r.pid := by
            rw [at_]
            rfl
          obtain ⟨_, listed, _⟩ := (accounts.account r.pid).of_leaving leaves
          refine accounts.of_left leaves ?_ (Signals.leaving_next ..) rfl rfl rfl ?_
          · rw [at_]
            exact Signals.ahead_next ..
          · rw [at_]
            show (Signals.unreported (Signals.afterReap (Reap.next
              (if s.shared.jobs.contains r.pid = true then r :: noted else noted) rest))).map _ =
                (noted.reverse ++ [r]).map _
            rw [if_pos listed, Signals.unreported_next, List.reverse_cons]
      | dropping p rest noted =>
          cases answered
          have leaves : Signals.leaving s.signals = some p := by
            rw [at_]
            rfl
          refine accounts.of_left leaves ?_ (Signals.leaving_next ..) rfl rfl rfl ?_
          · rw [at_]
            exact Signals.ahead_next ..
          · rw [at_]
            show (Signals.unreported (Signals.afterReap (Reap.next noted rest))).map _ =
              noted.reverse.map _
            rw [Signals.unreported_next]

/-- A fork, and the wait for a foreground child, are about a child without a job. -/
theorem of_foreign {p : Pid} {x : Status Execution (Except LaunchError Unit)} {shared : Shared W}
    (accounts : s.Accounts view t) (other : e.thread ≠ .signals)
    (jobs : shared.jobs = s.shared.jobs) (unknown : p ∉ t.tracked)
    (others : ∀ q, q ≠ p → (view shared.world).child q = (view s.shared.world).child q)
    (tracked : e.tracked? = none)
    (hand : ∀ q, Execution.inHand x = some q →
      q = p ∧ ((view shared.world).child q).isPresent = true) :
    Accounts view (t ++ [e]) { s with execution := x, shared } := by
  have known := Trace.tracked_concat_of_none (t := t) tracked
  refine ⟨by rw [jobs]; exact accounts.distinct, accounts.ahead, ?_, fun q => ?_, ?_⟩
  · intro q inHand
    obtain ⟨rfl, present⟩ := hand q inHand
    rw [known]
    exact ⟨unknown, present⟩
  · by_cases same : q = p
    · have account := (accounts.account q).of_foreign (same ▸ unknown) ((view shared.world).child q)
      rwa [AccountOf, known, jobs,
        Trace.finals_concat_of_none q (Event.collected?_of_ne other)]
    · exact (accounts.account q).transfer (by rw [known]) (by rw [jobs]) (others q same)
        (Trace.finals_concat_of_none q (Event.collected?_of_ne other)) .rfl .rfl
  · rw [Trace.announced_concat_of_none (Event.announced?_of_ne other),
      Trace.collected_concat_of_none (Event.collected?_of_ne other)]
    exact accounts.lines

/-- The job of the child in hand is registered. -/
theorem registering_moves {c : Command} {p : Pid} {shared : Shared W}
    (accounts : s.Accounts view t)
    (at_ : s.execution = .running (.launching c (.registering p)))
    (jobs : shared.jobs = s.shared.jobs.insert p c.name)
    (same : view shared.world = view s.shared.world) :
    Accounts view (t ++ [⟨.execution, .track p c.name, .ok ()⟩])
      { s with execution := .running (.launching c (.announcing p)), shared } := by
  have known : Trace.tracked (t ++ [⟨.execution, .track p c.name, .ok ()⟩]) = t.tracked ++ [p] :=
    Trace.tracked_concat ..
  have count (q : Pid) := Trace.finals_concat_of_none (t := t)
    (e := ⟨.execution, .track p c.name, .ok ()⟩) q rfl
  obtain ⟨unknown, present⟩ := accounts.hand p (by rw [at_]; rfl)
  refine ⟨?_, accounts.ahead, nofun, fun q => ?_, ?_⟩
  · rw [jobs]
    exact accounts.distinct.insert p c.name
  · by_cases own : q = p
    · subst own
      cases accounts.account q with
      | foreign _ _ none _ stays =>
          refine .kept ?_ ?_ (same ▸ present) ((count q).trans none) stays
          · rw [known]
            exact List.mem_append_right _ (List.mem_singleton_self q)
          · rw [jobs]
            exact Registry.contains_insert_iff.2 (.inl rfl)
      | kept entered | leaving entered | gone entered => exact absurd entered unknown
    · refine (accounts.account q).transfer ?_ ?_ (by rw [same]) (count q) .rfl .rfl
      · rw [known, List.mem_append, List.mem_singleton]
        exact ⟨fun entered => entered.resolve_right own, .inl⟩
      · rw [jobs, Registry.contains_insert_iff]
        exact ⟨fun there => there.resolve_left own, .inr⟩
  · rw [Trace.announced_concat_of_none rfl, Trace.collected_concat_of_none rfl]
    exact accounts.lines

/-- The wait for a foreground command is about a child without a job. -/
theorem waiting_moves {c : Command} {p : Pid} {reply : WaitReply} {shared : Shared W}
    (accounts : s.Accounts view t) (at_ : s.execution = .running (.launching c (.waiting p)))
    (jobs : shared.jobs = s.shared.jobs)
    (waits : (view s.shared.world).Waits p {} reply (view shared.world)) :
    Accounts view (t ++ [⟨.execution, .waitFor p {}, reply⟩])
      { s with execution := Execution.afterLaunch c (Launch.afterWait p reply), shared } := by
  have other : ThreadId.execution ≠ .signals := by decide
  obtain ⟨unknown, present⟩ := accounts.hand p (by rw [at_]; rfl)
  cases reply with
  | status st =>
      obtain ⟨_, _, same⟩ := waits
      refine accounts.of_foreign other jobs unknown
        (fun q apart => by rw [same, Children.child_set_of_ne apart]) rfl ?_
      simp only [Launch.afterWait]
      split
      all_goals
        intro q inHand
        cases inHand
  | notReady =>
      obtain ⟨_, _, same⟩ := waits
      refine accounts.of_foreign other jobs unknown (fun q _ => by rw [same]) rfl ?_
      rintro q ⟨⟩
      exact ⟨rfl, same ▸ present⟩
  | failed e =>
      obtain ⟨_, _, same⟩ := waits
      refine accounts.of_foreign other jobs unknown (fun q _ => by rw [same]) rfl ?_
      simp only [Launch.afterWait]
      split
      · rintro q ⟨⟩
        exact ⟨rfl, same ▸ present⟩
      · split
        all_goals
          intro q inHand
          cases inHand

theorem launch_moves {c : Command} {l : Launch} {reply shared} (accounts : s.Accounts view t)
    (tended : Tended world outside view) (at_ : s.execution = .running (.launching c l))
    (answered : s.shared.answer world (l.turn c).call = some (reply, shared)) :
    Accounts view (t ++ [⟨.execution, (l.turn c).call, reply⟩])
      { s with execution := Execution.afterLaunch c ((l.turn c).resume reply), shared } := by
  have served := tended.serves answered
  have other : ThreadId.execution ≠ .signals := by decide
  have idle (jobs : shared.jobs = s.shared.jobs)
      (same : (view shared.world).child = (view s.shared.world).child)
      (hand : ∀ p, Execution.inHand (Execution.afterLaunch c ((l.turn c).resume reply)) = some p →
        Execution.inHand s.execution = some p)
      (tracked : Event.tracked? ⟨.execution, (l.turn c).call, reply⟩ = none) :
      Accounts view (t ++ [⟨.execution, (l.turn c).call, reply⟩])
        { s with execution := Execution.afterLaunch c ((l.turn c).resume reply), shared } :=
    accounts.of_other other jobs same rfl hand tracked
  cases l with
  | forking =>
      have forks : (view s.shared.world).Forks reply (view shared.world) := served
      have jobs : shared.jobs = s.shared.jobs := Shared.jobs_answer answered rfl
      cases reply with
      | error e =>
          refine idle jobs (congrArg Children.child forks) (fun p inHand => ?_) rfl
          cases inHand
      | ok p =>
          obtain ⟨unborn, same⟩ := forks
          have unknown : p ∉ t.tracked := by
            have account := accounts.account p
            rw [AccountOf, unborn] at account
            exact account.not_tracked_of_unborn
          refine accounts.of_foreign other jobs unknown
            (fun q apart => by rw [same, Children.child_set_of_ne apart]) rfl ?_
          rintro q ⟨⟩
          refine ⟨rfl, ?_⟩
          rw [same, Children.child_set_self]
          rfl
  | shielding p =>
      refine idle (Shared.jobs_answer answered rfl) (congrArg Children.child served)
        (fun q inHand => ?_) rfl
      rw [at_]
      revert inHand
      simp only [Launch.turn]
      split <;> exact id
  | registering p =>
      obtain rfl : reply = .ok () := tended.eq_ok_of_track answered
      have same : view shared.world = view s.shared.world := served
      have jobs : shared.jobs = s.shared.jobs.insert p c.name := Shared.jobs_tracked answered
      exact accounts.registering_moves at_ jobs same
  | announcing p =>
      refine idle (Shared.jobs_answer answered rfl) (congrArg Children.child served)
        (fun q inHand => ?_) rfl
      cases inHand
  | raising p =>
      have raised : view shared.world = { view s.shared.world with pending := true } := served
      refine idle (Shared.jobs_answer answered rfl) (by rw [raised]) (fun q inHand => ?_) rfl
      cases inHand
  | endingLine p status =>
      refine idle (Shared.jobs_answer answered rfl) (congrArg Children.child served)
        (fun q inHand => ?_) rfl
      cases inHand
  | waiting p => exact accounts.waiting_moves at_ (Shared.jobs_answer answered rfl) served

theorem execution_moves {x : Execution} {reply shared} (accounts : s.Accounts view t)
    (tended : Tended world outside view) (at_ : s.execution = .running x)
    (answered : s.shared.answer world x.turn.call = some (reply, shared)) :
    Accounts view (t ++ [⟨.execution, x.turn.call, reply⟩])
      { s with execution := x.turn.resume reply, shared } := by
  have served := tended.serves answered
  cases x with
  | launching c l => exact accounts.launch_moves tended at_ answered
  | awaiting =>
      refine accounts.of_other nofun (Shared.jobs_answer answered rfl)
        (congrArg Children.child served) rfl (fun p inHand => ?_) rfl
      cases reply <;> cases inHand
  | deciding c =>
      refine accounts.of_other nofun (Shared.jobs_answer answered rfl)
        (congrArg Children.child served) rfl (fun p inHand => ?_) rfl
      cases reply <;> cases inHand
  | settingExit e =>
      exact accounts.of_other nofun (Shared.jobs_answer answered rfl)
        (congrArg Children.child served) rfl nofun rfl
  | releasing result =>
      cases result <;>
      exact accounts.of_other nofun (Shared.jobs_answer answered rfl)
        (congrArg Children.child served) rfl nofun rfl

theorem moves (accounts : s.Accounts view t) (tended : Tended world outside view)
    (moves : s.Moves world e after) (kept : e.call ≠ .forgetJobs) :
    after.Accounts view (t ++ [e]) := by
  cases moves with
  | @input i reply shared at_ answered =>
      have served := tended.serves answered
      cases i <;>
      exact accounts.of_other nofun (Shared.jobs_answer answered rfl)
        (congrArg Children.child served) rfl (fun _ => id) rfl
  | execution at_ answered => exact accounts.execution_moves tended at_ answered
  | signals at_ answered => exact accounts.signals_moves tended at_ answered
  | @supervisor v reply shared at_ answered =>
      have served := tended.serves_of_moves (.supervisor at_ answered)
      have jobs := Moves.jobs_eq (.supervisor at_ answered)
      cases v with
      | forgetting result => exact absurd rfl kept
      | _ =>
          exact accounts.of_other nofun (jobs rfl) (congrArg Children.child served) rfl
            (fun _ => id) rfl

theorem changes {w : W} (accounts : s.Accounts view t) (tended : Tended world outside view)
    (change : outside s.shared.world w) : (s.withWorld w).Accounts view t := by
  have goes := tended.outside _ _ change
  obtain ⟨distinct, ahead, hand, account, lines⟩ := accounts
  refine ⟨distinct, ahead, ?_, ?_, lines⟩
  · intro pid inHand
    obtain ⟨unknown, present⟩ := hand pid inHand
    exact ⟨unknown, (goes.isPresent_eq pid).trans present⟩
  · intro pid
    exact (account pid).of_child (goes.isPresent_eq pid) goes.collected_iff

end Shell.Accounts

/-- The accounts hold until the jobs that are left are forgotten. -/
theorem Run.accounts {W : Type} {world : World W} {outside : W → W → Prop} {view : W → Children}
    {limits : Limits} {w : W} {t : Trace} {s : Shell W} (tended : Tended world outside view)
    (run : Run world outside (Shell.boot limits w) t s) (kept : ∀ e ∈ t, e.call ≠ .forgetJobs) :
    s.Accounts view t := by
  induction run with
  | start => exact .boot view limits w
  | @move t now after e _ moves ih =>
      have before := ih fun x mem => kept x (List.mem_append_left _ mem)
      exact before.moves tended moves
        (kept e (List.mem_append_right _ (List.mem_singleton_self e)))
  | outside _ change ih => exact (ih kept).changes tended change

/-! ## What is written about jobs -/

/-- A step of the signal thread that is to write a line writes it, and no other step writes about a
job. -/
theorem Shell.Moves.shows {W : Type} {world : World W} {s after : Shell W} {e : Event}
    (moves : s.Moves world e after) :
    List.Forall₂ Write.Shows (reportsOf (s.writes e)) e.announced?.toList := by
  have silent {e : Event} (other : e.thread ≠ .signals) :
      List.Forall₂ Write.Shows (reportsOf (s.writes e)) e.announced?.toList := by
    have none : reportsOf (s.writes e) = [] := by
      rw [Shell.writes]
      split
      · simp [reportsOf, Write.isReport, other]
      · rfl
    rw [none, Event.announced?_of_ne other]
    exact .nil
  cases moves with
  | input | execution | supervisor => exact silent nofun
  | @signals g reply =>
      cases g with
      | awaiting | checkingExit => exact .nil
      | reaping r => cases r <;> exact .nil
      | redrawing =>
          have none :
              reportsOf (s.writes ⟨.signals, Signals.redrawing.turn.call, reply⟩) = [] := by
            cases busy : s.shared.slot.isBusy <;>
              simp [reportsOf, Write.isReport, Shell.writes, Signals.turn, Call.prints, Call.output,
                busy]
            all_goals decide
          rw [none, Event.announced?_redrawing]
          exact .nil
      | reporting r rest =>
          obtain ⟨more, front⟩ := r.exists_line_eq
          have wrote :
              reportsOf (s.writes ⟨.signals, (Signals.reporting r rest).turn.call, reply⟩) =
                [⟨.signals, s.shared.slot.isBusy,
                  r.line ++ if s.shared.slot.isBusy then [] else Bytes.ofText "$ "⟩] := by
            have bare : Bytes.ofText "\n" = [10] := by decide
            have prompt : Bytes.ofText "\n$ " = [10, 36, 32] := by decide
            cases busy : s.shared.slot.isBusy <;>
              simp [reportsOf, Write.isReport, Shell.writes, Signals.turn, Call.prints, Call.output,
                busy, r.textLine_text, front, bare, prompt, Input.prompt]
          rw [wrote, Event.announced?_reporting]
          exact .cons rfl .nil

theorem Recorded.shows {W : Type} {world : World W} {outside : W → W → Prop} {first s : Shell W}
    {t : Trace} {ws : List Write} (run : Recorded world outside first t ws s) :
    List.Forall₂ Write.Shows (reportsOf ws) t.announced := by
  induction run with
  | start => exact .nil
  | move _ moves ih =>
      rw [Trace.announced_concat, reportsOf, List.filter_append]
      exact List.rel_append ih moves.shows
  | outside _ _ ih => exact ih

/-- How the jobs stand after a trace in which `ws` was written. -/
structure JobsReported {W : Type} (view : W → Children) (t : Trace) (ws : List Write)
    (s : Shell W) : Prop where
  /-- A registered job with news is not forgotten: SIGCHLD is pending, or a pass has the process
  ahead of it, or its launch is about to raise SIGCHLD. -/
  watched : ∀ job ∈ s.shared.jobs.table, ((view s.shared.world).child job.pid).news ≠ none →
    (view s.shared.world).pending = true ∨ Signals.HasAhead s.signals job.pid ∨
      Execution.IsEntering s.execution job.pid
  /-- What is written about jobs are lines for the changes of state that were collected, in the
  order of the collection; what is not yet reported is in the hands of the signal thread. -/
  in_order : (∀ e ∈ t, e.call ≠ .forgetJobs) →
    ∃ lines, List.Forall₂ Write.Shows (reportsOf ws) lines ∧
      lines ++ (Signals.unreported s.signals).map JobReport.line = t.collected.map JobReport.line
  /-- No process ends twice. -/
  once : (∀ e ∈ t, e.call ≠ .forgetJobs) → ∀ pid, t.finals pid ≤ 1
  /-- When nothing is left to do, all changes are reported, and a job is registered and without
  news, or it has left the registry and its end was collected once. -/
  settled : (∀ e ∈ t, e.call ≠ .forgetJobs) → (view s.shared.world).pending = false →
    s.signals = .running .awaiting → (∀ pid, ¬ Execution.IsEntering s.execution pid) →
      List.Forall₂ Write.Shows (reportsOf ws) (t.collected.map JobReport.line) ∧
        ∀ pid ∈ t.tracked,
          (s.shared.jobs.contains pid = true ∧ (view s.shared.world).child pid = .quiet ∧
            t.finals pid = 0) ∨
          (s.shared.jobs.contains pid = false ∧ (view s.shared.world).child pid = .collected ∧
            t.finals pid = 1)

/-- In every order of launches, of the changes of children and of the steps of the signal thread,
no job is forgotten and none is reported twice. -/
theorem jobs_reported {W : Type} {world : World W} {outside : W → W → Prop} {view : W → Children}
    {limits : Limits} {w : W} {t : Trace} {ws : List Write} {s : Shell W}
    (tended : Tended world outside view)
    (recorded : Recorded world outside (Shell.boot limits w) t ws s) :
    JobsReported view t ws s where
  watched := recorded.run.watched tended
  in_order kept := ⟨t.announced, recorded.shows, (recorded.run.accounts tended kept).lines⟩
  once kept pid := ((recorded.run.accounts tended kept).account pid).finals_le_one
  settled kept calm awaits silent := by
    have accounts := recorded.run.accounts tended kept
    refine ⟨?_, fun pid tracked => ?_⟩
    · have lines := accounts.lines
      rw [awaits] at lines
      have all : t.announced = t.collected.map JobReport.line := by
        simpa [Signals.unreported] using lines
      exact all ▸ recorded.shows
    · cases accounts.account pid with
      | foreign unknown => exact absurd tracked unknown
      | leaving _ _ _ _ _ leaves =>
          rw [awaits] at leaves
          cases leaves
      | gone _ unlisted reaped once =>
          exact .inr ⟨Bool.not_eq_true _ ▸ unlisted, reaped, once⟩
      | kept _ listed present unended =>
          refine .inl ⟨listed, ?_, unended⟩
          obtain ⟨job, mem, same⟩ := Registry.contains_iff.1 listed
          have noNews : ((view s.shared.world).child pid).news = none := by
            by_contra news
            -- news would be watched, and none of the three reasons to watch is left
            rcases recorded.run.watched tended job mem (same ▸ news) with pending | ahead | entering
            · rw [calm] at pending
              cases pending
            · rw [awaits] at ahead
              exact ahead
            · exact silent _ entering
          revert present noNews
          cases (view s.shared.world).child pid <;> simp [Child.isPresent, Child.news]

/-- Whether neither the execution thread nor the signal thread has anything to do. -/
def Shell.isAtRest {W : Type} (s : Shell W) : Bool :=
  match s.signals, s.execution with
  | .running .awaiting, .running .awaiting => true
  | _, _ => false

theorem Shell.isAtRest_iff {W : Type} {s : Shell W} :
    s.isAtRest = true ↔ s.signals = .running .awaiting ∧ s.execution = .running .awaiting := by
  unfold isAtRest
  split
  · next signals execution => simp [signals, execution]
  · next other => simpa using other

/-- A job that ends while it is being announced: one signal stands for its end and for the one that
its launch raises, and the job is reported once, with a new prompt behind the report. -/
theorem jobs_reported_after_end :
    ∃ t ws s, Recorded World.nursery Nursery.Changes
        (Shell.boot {} (Nursery.of (Source.ofBytes (Bytes.ofText "a &\n")))) t ws s ∧
      (∀ e ∈ t, e.call ≠ .forgetJobs) ∧ s.shared.world.children.pending = false ∧
      s.signals = .running .awaiting ∧ (∀ pid, ¬ Execution.IsEntering s.execution pid) ∧
      t.tracked = [1] ∧ t.collected = [⟨1, .exit 3⟩] ∧
      reportsOf ws = [⟨.signals, false, Bytes.ofText "\n[1]+ Exit 3\n$ "⟩] ∧
      JobsReported Nursery.children t ws s := by
  let start : Nursery := Nursery.of (Source.ofBytes (Bytes.ofText "a &\n"))
  let launch : List ThreadId := List.replicate 7 .input ++ List.replicate 5 .execution
  let collect : List ThreadId := List.replicate 3 .execution ++ List.replicate 5 .signals
  let change (n : Nursery) : Option Nursery :=
    if (n.children.child 1).isAlive then some (n.change 1 (.exited 3)) else none
  have played :
      ((Shell.boot {} start).playAround World.nursery launch change collect).any
        (fun (t, s) => t.all (fun e => decide (e.call ≠ .forgetJobs)) &&
          !s.shared.world.children.pending && s.isAtRest && decide (t.tracked = [1]) &&
          decide (t.collected = [⟨1, .exit 3⟩])) = true := by
    decide +kernel
  have written :
      ((Shell.boot {} start).playAroundWrites World.nursery launch change collect).any
        (fun ws => decide
          (reportsOf ws = [⟨.signals, false, Bytes.ofText "\n[1]+ Exit 3\n$ "⟩])) = true := by
    decide +kernel
  obtain ⟨⟨t, s⟩, reached, found⟩ := (Option.any_eq_true _ _).1 played
  obtain ⟨ws, wrote, reports⟩ := (Option.any_eq_true _ _).1 written
  simp only [Bool.and_eq_true, decide_eq_true_eq, List.all_eq_true, Bool.not_eq_true',
    Shell.isAtRest_iff] at found reports
  obtain ⟨⟨⟨⟨kept, calm⟩, awaits, idle⟩, tracked⟩, collected⟩ := found
  have ends {n after : Nursery} (changed : change n = some after) : n.Changes after := by
    obtain ⟨alive, same⟩ := Option.ite_none_right_eq_some.1 changed
    cases same
    refine Nursery.goes_change alive ?_
    intro none
    cases none
  have recorded : Recorded World.nursery Nursery.Changes (Shell.boot {} start) t ws s :=
    .playAround ends reached wrote
  have silent (pid : Pid) : ¬ Execution.IsEntering s.execution pid := by
    rw [idle]
    exact id
  exact ⟨t, ws, s, recorded, kept, calm, awaits, silent, tracked, collected, reports,
    jobs_reported Tended.nursery recorded⟩

end JobShell
