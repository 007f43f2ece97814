import JobShell.Jobs
import Mathlib.Algebra.Group.Nat.Defs
import Mathlib.Data.List.Nodup

/-!
# The registry is an ordered list

The registry keeps its jobs in a table that has no order of its own: whenever it is read, the jobs
may come in any order, and only the numbers drawn at the insertions tell which one is the most
recent. Seen from outside it is a plain list all the same, with the most recent job in front. The
numbers in the table are all different and below the next one, so sorting by them has one outcome;
this goes on for as long as the counter does not run over.

Results:
1. `Registry.IsNumbered.listed_eq`: the order of the table does not show.
2. `Registry.IsNumbered.listed_insert`, `Registry.IsNumbered.listed_remove`: what the two updates do
   to a listing.
3. `registry_keeps_roster`: whatever is done to it, the registry answers as the list does.
-/

namespace JobShell

/-- The jobs as a list of processes with their names, the most recent first. -/
abbrev Roster := List (Pid × String)

namespace Roster

def insert (l : Roster) (pid : Pid) (name : String) : Roster :=
  (pid, name) :: l.filter (·.1 ≠ pid)

def remove (l : Roster) (pid : Pid) : Roster := l.filter (·.1 ≠ pid)

def contains (l : Roster) (pid : Pid) : Bool := l.any (·.1 = pid)

def lines (l : Roster) : List Bytes :=
  l.map fun (pid, name) => Bytes.ofText (Registry.line pid name)

end Roster

namespace Registry

/-- What can be asked of the registry. -/
inductive Operation
  | insert (pid : Pid) (name : String)
  | remove (pid : Pid)
  | contains (pid : Pid)
  | clear
  | pids
  /-- The lines of a listing. -/
  | list
deriving DecidableEq, Repr

inductive Answer
  | done
  /-- Whether the process was there. -/
  | found (there : Bool)
  /-- How many jobs were forgotten. -/
  | forgotten (n : Nat)
  | pids (l : List Pid)
  | lines (l : List Bytes)
deriving DecidableEq, Repr

def act (r : Registry) : Operation → Answer × Registry
  | .insert pid name => (.done, r.insert pid name)
  | .remove pid => (.found (r.contains pid), r.remove pid)
  | .contains pid => (.found (r.contains pid), r)
  | .clear => (.forgotten r.size, r.clear)
  | .pids => (.pids r.pids, r)
  | .list => (.lines r.lines, r)

/-- The jobs of a listing with what it shows of them. -/
def entries (r : Registry) : Roster := r.listed.map fun job => (job.pid, job.name)

/-- `r.Shuffled s`: `s` is `r` with its table in another order. -/
structure Shuffled (r s : Registry) : Prop where
  table : r.table.Perm s.table
  next : s.next = r.next

/-- What was asked of a registry and what it answered, the first question in front. -/
abbrev Log := List (Operation × Answer)

/-- `Session log r`: from an empty registry the operations of `log` may, with the answers of `log`,
lead to `r`. The table is found in any order each time. -/
inductive Session : Log → Registry → Prop
  | start : Session [] {}
  | act {log : Log} {r s : Registry} (op : Operation) :
      Session log r → r.Shuffled s → Session (log ++ [(op, (s.act op).1)]) (s.act op).2

def Operation.inserts : Operation → Bool
  | .insert .. => true
  | _ => false

def Log.insertions (log : Log) : Nat := log.countP (·.1.inserts)

end Registry

namespace Roster

open Registry (Operation Answer)

def act (l : Roster) : Operation → Answer × Roster
  | .insert pid name => (.done, l.insert pid name)
  | .remove pid => (.found (l.contains pid), l.remove pid)
  | .contains pid => (.found (l.contains pid), l)
  | .clear => (.forgotten l.length, [])
  | .pids => (.pids (l.map Prod.fst), l)
  | .list => (.lines l.lines, l)

/-- The list after some operations. -/
def after (l : Roster) (ops : List Operation) : Roster := ops.foldl (fun l op => (l.act op).2) l

/-- The answers of the list to some operations. -/
def answers (l : Roster) : List Operation → List Answer
  | [] => []
  | op :: ops => (l.act op).1 :: answers (l.act op).2 ops

theorem answers_concat (l : Roster) (ops : List Operation) (op : Operation) :
    l.answers (ops ++ [op]) = l.answers ops ++ [((l.after ops).act op).1] := by
  induction ops generalizing l with
  | nil => rfl
  | cons first ops ih =>
      rw [List.cons_append, answers, ih, answers, List.cons_append]
      rfl

theorem after_concat (l : Roster) (ops : List Operation) (op : Operation) :
    l.after (ops ++ [op]) = ((l.after ops).act op).2 := by
  rw [after, List.foldl_append]
  rfl

end Roster

/-! ## Sorting by the numbers -/

namespace Registry

/-- The numbers of the jobs are different ones and have all been drawn. -/
structure IsNumbered (r : Registry) : Prop where
  apart : (r.table.map Job.order).Nodup
  drawn : ∀ job ∈ r.table, job.order < r.next

theorem pairwise_listed (r : Registry) : r.listed.Pairwise fun a b => b.order ≤ a.order := by
  have sorted : r.listed.Pairwise fun a b => decide (b.order ≤ a.order) = true := by
    refine List.pairwise_mergeSort ?_ ?_ r.table
    · intro a b c first second
      simp only [decide_eq_true_eq] at first second ⊢
      exact UInt64.le_trans second first
    · intro a b
      simpa using UInt64.le_total b.order a.order
  simpa only [decide_eq_true_eq] using sorted

namespace IsNumbered

variable {r s : Registry} {pid : Pid} {name : String}

/-- A list that is sorted and holds the jobs of the table is the listing. -/
theorem eq_listed (numbered : r.IsNumbered) {jobs : List Job} (perm : jobs.Perm r.table)
    (sorted : jobs.Pairwise fun a b => b.order ≤ a.order) : r.listed = jobs := by
  refine List.Perm.eq_of_pairwise ?_ r.pairwise_listed sorted (r.listed_perm.trans perm.symm)
  intro a b here there below above
  exact List.inj_on_of_nodup_map numbered.apart (r.listed_perm.mem_iff.1 here)
    (perm.mem_iff.1 there) (UInt64.le_antisymm above below)

theorem shuffled (numbered : r.IsNumbered) (shuffled : r.Shuffled s) : s.IsNumbered where
  apart := (shuffled.table.map Job.order).nodup_iff.1 numbered.apart
  drawn job mem := by
    rw [shuffled.next]
    exact numbered.drawn job (shuffled.table.mem_iff.2 mem)

/-- The order of the table does not show in a listing. -/
theorem listed_eq (numbered : r.IsNumbered) (shuffled : r.Shuffled s) : s.listed = r.listed :=
  (numbered.shuffled shuffled).eq_listed (r.listed_perm.trans shuffled.table) r.pairwise_listed

theorem remove (numbered : r.IsNumbered) (pid : Pid) : (r.remove pid).IsNumbered where
  apart := numbered.apart.sublist (List.filter_sublist.map _)
  drawn job mem := numbered.drawn job (mem_remove_iff.1 mem).1

theorem insert (numbered : r.IsNumbered) (room : r.next.toNat + 1 < 2 ^ 64) (pid : Pid)
    (name : String) : (r.insert pid name).IsNumbered := by
  have next : r.next < r.next + 1 := by
    rw [UInt64.lt_iff_toNat_lt, UInt64.toNat_add]
    have one : (1 : UInt64).toNat = 1 := rfl
    omega
  constructor
  · refine List.nodup_cons.2 ⟨?_, (numbered.remove pid).apart⟩
    intro mem
    obtain ⟨job, there, same⟩ := List.mem_map.1 mem
    exact UInt64.lt_irrefl _ (same ▸ numbered.drawn job (mem_remove_iff.1 there).1)
  · intro job mem
    rcases mem_insert_iff.1 mem with rfl | ⟨there, _⟩
    · exact next
    · exact UInt64.lt_trans (numbered.drawn job there) next

theorem listed_remove (numbered : r.IsNumbered) (pid : Pid) :
    (r.remove pid).listed = r.listed.filter (·.pid ≠ pid) :=
  (numbered.remove pid).eq_listed (r.listed_perm.filter _) (r.pairwise_listed.filter _)

theorem listed_insert (numbered : r.IsNumbered) (room : r.next.toNat + 1 < 2 ^ 64) (pid : Pid)
    (name : String) :
    (r.insert pid name).listed = ⟨pid, name, r.next⟩ :: r.listed.filter (·.pid ≠ pid) := by
  refine (numbered.insert room pid name).eq_listed ((r.listed_perm.filter _).cons _) ?_
  refine List.pairwise_cons.2 ⟨?_, r.pairwise_listed.filter _⟩
  intro job mem
  exact UInt64.le_of_lt (numbered.drawn job (r.listed_perm.mem_iff.1 (List.mem_filter.1 mem).1))

theorem entries_remove (numbered : r.IsNumbered) (pid : Pid) :
    (r.remove pid).entries = r.entries.remove pid := by
  rw [entries, numbered.listed_remove, entries, Roster.remove, List.filter_map]
  rfl

theorem entries_insert (numbered : r.IsNumbered) (room : r.next.toNat + 1 < 2 ^ 64) (pid : Pid)
    (name : String) : (r.insert pid name).entries = r.entries.insert pid name := by
  rw [entries, numbered.listed_insert room, List.map_cons, entries, Roster.insert, List.filter_map]
  rfl

theorem entries_eq (numbered : r.IsNumbered) (shuffled : r.Shuffled s) : s.entries = r.entries := by
  rw [entries, numbered.listed_eq shuffled, entries]

end IsNumbered

/-! ## Questions and answers -/

variable {r s : Registry} {pid : Pid} {op : Operation} {log : Log}

theorem contains_entries (r : Registry) (pid : Pid) : r.entries.contains pid = r.contains pid := by
  rw [entries, Roster.contains, List.any_map, contains]
  exact r.listed_perm.any_eq

theorem length_entries (r : Registry) : r.entries.length = r.size := by
  rw [entries, List.length_map, size, r.listed_perm.length_eq]

theorem entries_clear (r : Registry) : r.clear.entries = [] := by
  simp [entries, listed, clear]

/-- A registry answers as its listing does. -/
theorem answer_act (r : Registry) (op : Operation) : (r.act op).1 = (r.entries.act op).1 := by
  cases op with
  | insert | list => simp [act, Roster.act, lines, Roster.lines, entries]
  | remove pid | contains pid => rw [act, Roster.act, contains_entries]
  | clear => rw [act, Roster.act, length_entries]
  | pids => simp [act, Roster.act, pids, entries]

theorem entries_act (numbered : r.IsNumbered)
    (room : op.inserts = true → r.next.toNat + 1 < 2 ^ 64) :
    (r.act op).2.entries = (r.entries.act op).2 := by
  cases op with
  | insert pid name => exact numbered.entries_insert (room rfl) pid name
  | remove pid => exact numbered.entries_remove pid
  | clear => exact r.entries_clear
  | contains | pids | list => rfl

theorem isNumbered_act (numbered : r.IsNumbered)
    (room : op.inserts = true → r.next.toNat + 1 < 2 ^ 64) : (r.act op).2.IsNumbered := by
  cases op with
  | insert pid name => exact numbered.insert (room rfl) pid name
  | remove pid => exact numbered.remove pid
  | clear => exact ⟨List.nodup_nil, nofun⟩
  | contains | pids | list => exact numbered

theorem Shuffled.isDistinct (shuffled : r.Shuffled s) (distinct : r.IsDistinct) : s.IsDistinct :=
  (shuffled.table.map Job.pid).nodup_iff.1 distinct

theorem IsDistinct.act (distinct : r.IsDistinct) (op : Operation) : (r.act op).2.IsDistinct := by
  cases op with
  | insert pid name => exact distinct.insert pid name
  | remove pid => exact distinct.remove pid
  | clear => exact List.nodup_nil
  | contains | pids | list => exact distinct

/-- A process that is not there is taken out without any change. -/
theorem remove_eq_self (absent : r.contains pid = false) : r.remove pid = r := by
  have others : ∀ job ∈ r.table, job.pid ≠ pid := by simpa [contains] using absent
  obtain ⟨table, next⟩ := r
  simp only [remove, mk.injEq, and_true]
  exact List.filter_eq_self.2 fun job mem => decide_eq_true (others job mem)

theorem next_act (room : op.inserts = true → r.next.toNat + 1 < 2 ^ 64) :
    (r.act op).2.next.toNat = r.next.toNat + if op.inserts then 1 else 0 := by
  cases op with
  | insert pid name =>
      have fits := room rfl
      have one : (1 : UInt64).toNat = 1 := rfl
      show (r.next + 1).toNat = r.next.toNat + 1
      rw [UInt64.toNat_add]
      omega
  | remove | clear | contains | pids | list => rfl

/-- The registry is in step with the list: its numbers are as many as there were insertions, and
its listing is the list. -/
structure InStep (log : Log) (r : Registry) : Prop where
  numbered : r.IsNumbered
  distinct : r.IsDistinct
  drawn : r.next.toNat = log.insertions
  entries : r.entries = Roster.after [] (log.map Prod.fst)
  answers : log.map Prod.snd = Roster.answers [] (log.map Prod.fst)

theorem Log.insertions_concat (log : Log) (op : Operation) (answer : Answer) :
    insertions (log ++ [(op, answer)]) = log.insertions + if op.inserts then 1 else 0 := by
  simp [insertions, List.countP_append, List.countP_singleton]

theorem Session.inStep (session : Session log r) (few : log.insertions < 2 ^ 64) :
    InStep log r := by
  induction session with
  | start => exact ⟨⟨List.nodup_nil, nofun⟩, List.nodup_nil, rfl, entries_clear {}, rfl⟩
  | @act log r s op _ shuffled ih =>
      rw [Log.insertions_concat] at few
      obtain ⟨numbered, distinct, drawn, listed, answered⟩ := ih (by omega)
      have found : s.IsNumbered := numbered.shuffled shuffled
      have same : s.entries = Roster.after [] (log.map Prod.fst) :=
        (numbered.entries_eq shuffled).trans listed
      have room : op.inserts = true → s.next.toNat + 1 < 2 ^ 64 := by
        intro inserts
        rw [shuffled.next, drawn]
        simpa [inserts] using few
      refine ⟨isNumbered_act found room, (shuffled.isDistinct distinct).act op, ?_, ?_, ?_⟩
      · rw [next_act room, shuffled.next, drawn, Log.insertions_concat]
      · rw [entries_act found room, same, List.map_append, List.map_singleton, Roster.after_concat]
      · rw [List.map_append, List.map_singleton, List.map_append, List.map_singleton,
          Roster.answers_concat, answered, answer_act, same]

/-- How a registry stands after some operations. -/
structure KeepsRoster (log : Log) (r : Registry) : Prop where
  /-- All answers so far are those of the list. -/
  answers : log.map Prod.snd = Roster.answers [] (log.map Prod.fst)
  /-- In whatever order the table is found, processes and lines are those of the list. -/
  listed : ∀ {s}, r.Shuffled s →
    s.pids = (Roster.after [] (log.map Prod.fst)).map Prod.fst ∧
      s.lines = (Roster.after [] (log.map Prod.fst)).lines
  /-- No process is listed twice. -/
  distinct : r.pids.Nodup
  /-- A process that is inserted comes first with its new name, and the others stay in order. -/
  inserted : ∀ {s pid name}, r.Shuffled s → log.insertions + 1 < 2 ^ 64 →
    (s.insert pid name).entries = (pid, name) :: r.entries.filter (·.1 ≠ pid)
  removed : ∀ {s pid}, r.Shuffled s → (s.remove pid).entries = r.entries.filter (·.1 ≠ pid)
  /-- A removal that finds nothing leaves everything as it was. -/
  unfound : ∀ {s pid}, r.Shuffled s → (s.act (.remove pid)).1 = .found false →
    (s.act (.remove pid)).2 = s

end Registry

open Registry in
/-- Whatever is done to an empty registry, in whatever order the table is found each time, it is a
list with the most recent job in front, as long as the numbers last. -/
theorem registry_keeps_roster {log : Log} {r : Registry} (session : Session log r)
    (few : log.insertions < 2 ^ 64) : KeepsRoster log r := by
  obtain ⟨numbered, distinct, drawn, listed, answered⟩ := session.inStep few
  refine ⟨answered, ?_, distinct.nodup_pids, ?_, ?_, ?_⟩
  · intro s shuffled
    rw [← listed, ← numbered.entries_eq shuffled]
    simp [pids, lines, entries, Roster.lines]
  · intro s pid name shuffled more
    have room : s.next.toNat + 1 < 2 ^ 64 := by rwa [shuffled.next, drawn]
    rw [(numbered.shuffled shuffled).entries_insert room, numbered.entries_eq shuffled]
    rfl
  · intro s pid shuffled
    rw [(numbered.shuffled shuffled).entries_remove, numbered.entries_eq shuffled]
    rfl
  · intro s pid _ absent
    exact remove_eq_self (Answer.found.inj absent)

open Registry in
/-- A process is inserted again after another one, while the table is turned around: it comes
first, with its new name, and a removal that finds nothing changes nothing. -/
theorem registry_keeps_roster_of_reinserted :
    ∃ log r, Session log r ∧ log.insertions < 2 ^ 64 ∧
      log.map Prod.snd = [.done, .done, .done, .found false, .pids [300, 100]] ∧
      KeepsRoster log r := by
  have first : Session _ _ := Session.start.act (.insert 300 "a") ⟨.refl _, rfl⟩
  have second : Session _ _ := first.act (.insert 100 "b") ⟨.refl _, rfl⟩
  have third : Session _ _ :=
    @Session.act _ _ ⟨[⟨300, "a", 0⟩, ⟨100, "b", 1⟩], 2⟩ (.insert 300 "c") second ⟨.swap .., rfl⟩
  have fourth : Session _ _ := third.act (.remove 7) ⟨.refl _, rfl⟩
  have last : Session _ _ := fourth.act .pids ⟨.refl _, rfl⟩
  have keeps := registry_keeps_roster last (by decide)
  exact ⟨_, _, last, by decide, keeps.answers.trans (by decide), keeps⟩

end JobShell
