import JobShell.Output

/-!
# The registry of background jobs

Jobs are kept in a table without order; every insertion draws a number of 64 bits, and a listing is
sorted by it, so the most recent job comes first whatever the order of the table is.

Results:
1. `Registry.mem_remove_iff`, `Registry.mem_insert_iff`: the two updates touch one process.
2. `Registry.listed_perm`: a listing holds the jobs of the table and no others.
3. `Registry.IsDistinct.insert`, `Registry.IsDistinct.remove`: no process is entered twice.
-/

namespace JobShell

/-- The number of a process. -/
abbrev Pid := Int

structure Job where
  pid : Pid
  name : String
  /-- The number drawn at the insertion. -/
  order : UInt64
deriving DecidableEq, Repr

structure Registry where
  table : List Job := []
  next : UInt64 := 0
deriving DecidableEq, Repr

namespace Registry

/-- Track a process. One that is tracked already gets the new name and becomes the most recent. -/
def insert (r : Registry) (pid : Pid) (name : String) : Registry where
  table := ⟨pid, name, r.next⟩ :: r.table.filter (·.pid ≠ pid)
  next := r.next + 1

def contains (r : Registry) (pid : Pid) : Bool := r.table.any (·.pid = pid)

def remove (r : Registry) (pid : Pid) : Registry :=
  { r with table := r.table.filter (·.pid ≠ pid) }

def clear (r : Registry) : Registry := { r with table := [] }

def size (r : Registry) : Nat := r.table.length

def isEmpty (r : Registry) : Bool := r.table.isEmpty

/-- The jobs, the most recent first. -/
def listed (r : Registry) : List Job := r.table.mergeSort fun a b => b.order ≤ a.order

def pids (r : Registry) : List Pid := r.listed.map (·.pid)

/-- The line that shows a job. -/
def line (pid : Pid) (name : String) : String := "[" ++ toString pid ++ "] " ++ name ++ "\n"

/-- The pieces in which such a line is written. -/
def pieces (pid : Pid) (name : String) : List String := ["[", toString pid, "] ", name, "\n"]

/-- The lines of the listing. -/
def lines (r : Registry) : List Bytes :=
  r.listed.map fun job => Bytes.ofText (line job.pid job.name)

def listing (r : Registry) : Bytes := r.lines.flatten

/-- Write the listing, and flush the writer if it took everything. -/
def writeListing (r : Registry) (w : Writer) : Except Errno Unit × Writer :=
  match w.writeAll (r.listed.flatMap fun job => (pieces job.pid job.name).map Bytes.ofText) with
  | (.ok (), w) => (.ok (), w.flush)
  | (.error e, w) => (.error e, w)

theorem flatten_pieces (pid : Pid) (name : String) :
    ((pieces pid name).map Bytes.ofText).flatten = Bytes.ofText (line pid name) := by
  simp [pieces, line, Bytes.ofText_append]

theorem listed_perm (r : Registry) : r.listed.Perm r.table := List.mergeSort_perm ..

theorem mem_remove_iff {r : Registry} {pid : Pid} {job : Job} :
    job ∈ (r.remove pid).table ↔ job ∈ r.table ∧ job.pid ≠ pid := by
  simp [remove]

theorem mem_insert_iff {r : Registry} {pid : Pid} {name : String} {job : Job} :
    job ∈ (r.insert pid name).table ↔
      job = ⟨pid, name, r.next⟩ ∨ (job ∈ r.table ∧ job.pid ≠ pid) := by
  simp [insert]

theorem contains_iff {r : Registry} {pid : Pid} :
    r.contains pid = true ↔ ∃ job ∈ r.table, job.pid = pid := by
  simp [contains]

theorem contains_insert_iff {r : Registry} {pid other : Pid} {name : String} :
    (r.insert pid name).contains other = true ↔ other = pid ∨ r.contains other = true := by
  simp only [contains_iff, mem_insert_iff]
  constructor
  · rintro ⟨job, rfl | ⟨mem, _⟩, rfl⟩
    · exact .inl rfl
    · exact .inr ⟨job, mem, rfl⟩
  · rintro (rfl | ⟨job, mem, rfl⟩)
    · exact ⟨_, .inl rfl, rfl⟩
    · by_cases same : job.pid = pid
      · exact ⟨_, .inl rfl, same.symm⟩
      · exact ⟨job, .inr ⟨mem, same⟩, rfl⟩

theorem contains_remove_iff {r : Registry} {pid other : Pid} :
    (r.remove pid).contains other = true ↔ r.contains other = true ∧ other ≠ pid := by
  simp only [contains_iff, mem_remove_iff]
  constructor
  · rintro ⟨job, ⟨mem, apart⟩, rfl⟩
    exact ⟨⟨job, mem, rfl⟩, apart⟩
  · rintro ⟨⟨job, mem, rfl⟩, apart⟩
    exact ⟨job, ⟨mem, apart⟩, rfl⟩

theorem mem_pids_iff {r : Registry} {pid : Pid} : pid ∈ r.pids ↔ r.contains pid = true := by
  rw [pids, List.mem_map, contains_iff]
  simp only [r.listed_perm.mem_iff]

/-- No two jobs of a registry have the same process. -/
def IsDistinct (r : Registry) : Prop := (r.table.map Job.pid).Nodup

theorem IsDistinct.remove {r : Registry} (distinct : r.IsDistinct) (pid : Pid) :
    (r.remove pid).IsDistinct :=
  List.Nodup.sublist (List.filter_sublist.map _) distinct

theorem IsDistinct.insert {r : Registry} (distinct : r.IsDistinct) (pid : Pid) (name : String) :
    (r.insert pid name).IsDistinct := by
  refine List.nodup_cons.2 ⟨?_, distinct.remove pid⟩
  intro mem
  obtain ⟨job, there, same⟩ := List.mem_map.1 mem
  exact (mem_remove_iff.1 there).2 same

theorem IsDistinct.nodup_pids {r : Registry} (distinct : r.IsDistinct) : r.pids.Nodup :=
  (r.listed_perm.map Job.pid).nodup_iff.2 distinct

end Registry

end JobShell
