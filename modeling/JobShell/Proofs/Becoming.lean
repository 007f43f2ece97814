import JobShell.Proofs.Attempts
import JobShell.Proofs.Grammar
import JobShell.Proofs.Openings

/-!
# From a line to its program

What a launched child has brought about is read off what it has asked for: a deed that came to
something is the only way in which the tree, its descriptors, its group or its mask change. That is
kept by every step of the child and by all that others do as long as they let the files alone. So
when the program runs, its output is the file that the line named last, and that file is empty; and
when it does not, what had been opened before is all that is left of the attempt.

From then on the file holds what is written through the description, for that stands at the end of
the file all the time.

Results:
1. `Machine.Effects`: what the deeds of a child have brought about, with one lemma for each deed.
2. `Machine.Passage.fares`: the ways in which a child fares, however far it has come.
3. `Machine.Passage.hasFailed`: after a failure there is no program.
4. `Machine.Holds.pours`: the output holds what was written.
5. `child_becomes_command`: the line, the deeds, the way of the child and its output.
-/

namespace JobShell.Machine

variable {m after : Machine} {p q : Process} {pid : Pid}

/-! ## Ends and groups -/

theorem Process.isEnded_of_isRunning (running : p.isRunning = true) : p.isEnded = false := by
  have life : p.life = .running := by simpa [isRunning] using running
  rw [isEnded, life]

theorem isRunning_of_stepProcess (steps : m.stepProcess p = some after) : p.isRunning = true := by
  cases running : p.isRunning with
  | true => rfl
  | false => simp [stepProcess, running] at steps

theorem stepProcess_launched {c : Command} {h : ChildHalf} (running : p.isRunning = true)
    (task : p.task = .launched c h) : m.stepProcess p = m.stepLaunched p c h := by
  simp [stepProcess, running, task]

theorem task_of_proceed {c : Command} {h : ChildHalf}
    (left : (m.proceed pid c h).process? pid = some q) : q.task = .launched c h := by
  obtain ⟨r, -, rfl⟩ := List.mem_map.1 (List.mem_of_find?_eq_some left)
  have here := pid_of_process? left
  split at here
  · next there => rw [if_pos there]
  · next there => exact absurd here there

/-- All processes with a number have come to the same. -/
def AllLive (m : Machine) (pid : Pid) (life : Life) : Prop :=
  ∀ q ∈ m.processes, q.pid = pid → q.life = life

theorem AllLive.update {life : Life} (all : m.AllLive pid life) (other : Pid)
    {f : Process → Process} (keeps : ∀ p, (f p).life = p.life) :
    (m.update other f).AllLive pid life := by
  intro q mem same
  obtain ⟨r, there, rfl⟩ := List.mem_map.1 mem
  split at same
  · next here =>
      rw [if_pos here]
      exact (keeps r).trans (all r there (here.trans same))
  · next here =>
      rw [if_neg here]
      exact all r there same

theorem AllLive.notifyParent {life : Life} (all : m.AllLive pid life) (p : Process) :
    (m.notifyParent p).AllLive pid life := by
  unfold Machine.notifyParent keepPending
  repeat' split
  all_goals first
    | exact all
    | exact all.update _ fun _ => rfl

theorem AllLive.filter {life : Life} (all : m.AllLive pid life) (wanted : Process → Bool) :
    AllLive { m with processes := m.processes.filter wanted } pid life :=
  fun q mem same => all q (List.mem_filter.1 mem).1 same

/-- A process that is ended has its status, if it is still there. -/
theorem life_finish {status : WaitStatus} (present : m.process? pid = some p)
    (alive : p.isEnded = false) (left : (m.finish pid status).process? pid = some q) :
    q.life = .ended status := by
  have ended : (m.update pid fun p => { p with
      life := .ended status, files := [], pendingOpen := none, task := .outside }).AllLive pid
        (.ended status) := by
    intro q mem same
    obtain ⟨r, there, rfl⟩ := List.mem_map.1 mem
    split at same
    · next here => rw [if_pos here]
    · next here => exact absurd same here
  have all : (m.finish pid status).AllLive pid (.ended status) := by
    unfold finish
    simp only [present, alive, Bool.false_eq_true, if_false]
    split
    · exact (ended.filter _).filter _
    · exact (ended.filter _).notifyParent p
  exact all q (List.mem_of_find?_eq_some left) (pid_of_process? left)

theorem setMask_eq (present : m.process? pid = some p) (quiet : p.signals.pending = [])
    (set : SignalSet) : m.setMask pid set = m.update pid fun p =>
      { p with signals := { p.signals with blocked := set.blockable } } := by
  have masked := update_process? (fun p : Process =>
    { p with signals := { p.signals with blocked := set.blockable } }) present rfl
  show deliverPending pid (63 + 1) _ = _
  rw [deliverPending, masked]
  simp [SignalState.take?, quiet, Signal.first?]

theorem joinGroup_own (present : m.process? pid = some p) :
    (∃ e, m.joinGroup pid 0 0 = (.error e, m)) ∨
      m.joinGroup pid 0 0 = (.ok (), m.update pid fun p => { p with group := pid }) := by
  unfold joinGroup
  simp only [if_true, present]
  repeat' split
  all_goals first
    | exact .inl ⟨_, rfl⟩
    | exact .inr rfl

/-! ## What a program is run with -/

/-- `Passes argv actual`: a program is run with the words that it was called with, or it is a script
whose interpreter gets the arguments behind some words of its own. -/
inductive Passes (argv : List Bytes) : List Bytes → Prop
  | plain : Passes argv argv
  | script {front : List Bytes} : front ≠ [] → Passes argv (front ++ argv.tail)

theorem Passes.of_script {interpreter path : Bytes} {between argv actual : List Bytes}
    (passes : Passes ([interpreter] ++ between ++ path :: argv.tail) actual) :
    Passes argv actual := by
  cases passes with
  | plain =>
      have cut : [interpreter] ++ between ++ path :: argv.tail =
          (interpreter :: between ++ [path]) ++ argv.tail := by simp
      rw [cut]
      exact .script (by simp)
  | @script front filled =>
      have cut : front ++ ([interpreter] ++ between ++ path :: argv.tail).tail =
          (front ++ between ++ [path]) ++ argv.tail := by simp
      rw [cut]
      exact .script (by simp)

theorem ok_of_bind {ε α β : Type} {x : Except ε α} {f : α → Except ε β} {b : β}
    (found : (x >>= f) = .ok b) : ∃ a, x = .ok a ∧ f a = .ok b := by
  cases x with
  | error e => cases found
  | ok a => exact ⟨a, rfl, found⟩

variable {cwd : NodeId} {path : Bytes} {argv : List Bytes} {image : Image}

theorem passes_imageAt {depth : Nat} (found : m.imageAt cwd depth path argv = .ok image) :
    Passes argv image.argv := by
  induction depth generalizing path argv with
  | zero =>
      unfold imageAt at found
      obtain ⟨kind, -, found⟩ := ok_of_bind found
      cases found
  | succ depth ih =>
      unfold imageAt at found
      obtain ⟨kind, -, found⟩ := ok_of_bind found
      simp only at found
      split at found
      · cases found
        exact .plain
      · split at found
        · split at found
          · cases found
          · exact (ih found).of_script
        · cases found
      · cases found

theorem passes_imageFor (found : m.imageFor cwd path argv = .ok image) :
    Passes argv image.argv := by
  unfold imageFor at found
  obtain ⟨_, -, found⟩ := ok_of_bind found
  split at found
  · cases found
  · exact passes_imageAt found

theorem passes_imageOrScript (found : m.imageOrScript cwd path argv = .ok image) :
    Passes argv image.argv := by
  unfold imageOrScript at found
  split at found
  · split at found
    · have byShell : Passes ([Program.plainInterpreter] ++ [] ++ path :: argv.tail) image.argv :=
        passes_imageFor found
      exact byShell.of_script
    · cases found
  · exact passes_imageFor found

theorem passes_searchImage {name : Bytes} {directories : List Bytes} {denied : Bool}
    (found : m.searchImage cwd argv name directories denied = .ok (path, image)) :
    Passes argv image.argv := by
  induction directories generalizing denied with
  | nil => cases found
  | cons directory directories ih =>
      unfold searchImage at found
      simp only at found
      split at found
      · next here =>
          cases found
          exact passes_imageOrScript here
      · repeat' split at found
        all_goals first
          | exact ih found
          | cases found

theorem passes_image {directories : List Bytes}
    (found : m.image cwd directories argv = .ok (path, image)) : Passes argv image.argv := by
  unfold Machine.image at found
  simp only at found
  repeat' split at found
  · cases found
  · cases whole : m.imageOrScript cwd (argv.headD []) argv with
    | error e =>
        rw [whole] at found
        cases found
    | ok image =>
        rw [whole] at found
        cases found
        exact passes_imageOrScript whole
  · cases found
  · exact passes_searchImage found

/-- Where a process looks for programs. -/
def searchPath (p : Process) : List Bytes :=
  Bytes.splitOn 58 ((p.environment.lookup Program.pathVariable).getD Program.plainSearchPath)

theorem executeCommand_eq (executed : m.executeCommand p argv = .ok after) :
    ∃ path image, m.image p.cwd (searchPath p) argv = .ok (path, image) ∧
      after = m.become p.pid path image p.environment := by
  unfold executeCommand at executed
  obtain ⟨⟨path, image⟩, found, same⟩ := ok_of_bind executed
  cases same
  exact ⟨path, image, found, rfl⟩

/-! ## What a child brings about -/

open ChildHalf

/-- The child as it is born. -/
def newborn (m : Machine) (shell : Process) (c : Command) : Process :=
  { shell with
    pid := m.nextPid, parent := shell.pid, life := .running, task := .launched c (start c)
    signals := shell.signals.inherited, arrived := [], interrupted := false, pendingOpen := none }

/-- The output of a child: file `n` was emptied or made, and nobody has written to it since. -/
structure Output (m : Machine) (child : Process) (path : Bytes) (now : Machine) (q : Process)
    (n : NodeId) (k : Nat) : Prop where
  emptied : ∃ time, Emptied m.tree child path outputMode time n now.tree
  /-- A file that was there keeps its mode. -/
  mode : (now.tree.node? n).map (·.mode) =
    some (((m.tree.node? n).map (·.mode)).getD (child.masked 0o600))
  isPrivate : m.tree.node? n = none → child.umask &&& 0o600 = 0 →
    (now.tree.node? n).map (·.mode) = some 0o600
  others : ∀ other, other ≠ n → m.tree.isDirectory other = false →
    now.tree.node? other = m.tree.node? other
  descriptor : q.descriptor? 1 = some k
  holds : now.Holds k n []

namespace Output

variable {child : Process} {path : Bytes} {now after : Machine} {q r : Process} {n : NodeId}
  {k time : Nat}

theorem of_emptied (emptied : Emptied m.tree child path outputMode time n now.tree)
    (descriptor : q.descriptor? 1 = some k)
    (opening : now.opening? k = some { channel := .node n, writable := true }) :
    Output m child path now q n k where
  emptied := ⟨time, emptied⟩
  mode := emptied.mode_eq
  isPrivate absent umask := by
    rw [emptied.mode_eq, absent, Option.map_none, Option.getD_none]
    exact congrArg some (Process.masked_private umask)
  others _ := emptied.node?_of_ne
  descriptor := descriptor
  holds := ⟨opening, emptied.kind?_eq⟩

/-- Nothing else that is done to the machine or to the process matters. -/
theorem moved (output : Output m child path now q n k) (tree : after.tree = now.tree)
    (opening : ∀ o, now.opening? k = some o → after.opening? k = some o)
    (descriptor : r.descriptor? 1 = q.descriptor? 1) : Output m child path after r n k := by
  obtain ⟨time, emptied⟩ := output.emptied
  exact of_emptied (tree ▸ emptied) (descriptor.trans output.descriptor)
    (opening _ output.holds.opening)

end Output

/-- `Effects m child deeds now q`: what the deeds of a child that was born on `m` have brought about
when it has become `q`. -/
structure Effects (m : Machine) (child : Process) (deeds : List ChildDeed) (now : Machine)
    (q : Process) : Prop where
  rest : q = { child with
    files := q.files, group := q.group, signals := q.signals, task := q.task
    pendingOpen := q.pendingOpen }
  quiet : q.signals.pending = []
  untouched : (∀ path, ⟨.openOutput path, Except.ok ()⟩ ∉ deeds) →
    now.tree = m.tree ∧ q.descriptor? 1 = child.descriptor? 1
  output : ∀ path, ⟨.openOutput path, Except.ok ()⟩ ∈ deeds → ∃ n k, Output m child path now q n k
  unread : (∀ path, ⟨.openInput path, Except.ok ()⟩ ∉ deeds) → q.descriptor? 0 = child.descriptor? 0
  input : ∀ path, ⟨.openInput path, Except.ok ()⟩ ∈ deeds →
    ∃ k, q.descriptor? 0 = some k ∧ now.Reads child.cwd path k
  others : ∀ fd, fd ≠ 0 → fd ≠ 1 → q.descriptor? fd = child.descriptor? fd
  grouped : ⟨.joinOwnGroup, Except.ok ()⟩ ∈ deeds → q.group = child.pid
  ungrouped : ⟨.joinOwnGroup, Except.ok ()⟩ ∉ deeds → q.group = child.group
  mask : ∀ blocked, ⟨.setMask blocked, Except.ok ()⟩ ∈ deeds →
    ∀ s, s ∈ q.signals.blocked ↔ s ∈ blocked

namespace Effects

variable {child : Process} {deeds : List ChildDeed} {d : ChildDeed} {now after : Machine}
  {q r : Process}

theorem of_newborn (m : Machine) (shell : Process) (c : Command) {born : Machine}
    (tree : born.tree = m.tree) :
    Effects m (newborn m shell c) [] born (newborn m shell c) where
  rest := rfl
  quiet := rfl
  untouched _ := ⟨tree, rfl⟩
  output := by simp
  unread _ := rfl
  input := by simp
  others _ _ _ := rfl
  grouped := by simp
  ungrouped _ := rfl
  mask := by simp

/-- What a program will find changes neither with what the child does next nor with an open that is
under way, nor with whatever leaves the tree and the output of the child alone. -/
theorem same (effects : Effects m child deeds now q) (tree : after.tree = now.tree)
    (openings : now.KeepsOpenings after)
    (output : ∀ k o, q.descriptor? 1 = some k → now.opening? k = some o →
      after.opening? k = some o) (task : Task) (pending : Option PendingOpen) :
    Effects m child deeds after { q with task, pendingOpen := pending } where
  rest := congrArg (fun p : Process => { p with task, pendingOpen := pending }) effects.rest
  quiet := effects.quiet
  untouched none := ⟨tree.trans (effects.untouched none).1, (effects.untouched none).2⟩
  output path mem := by
    obtain ⟨n, k, file⟩ := effects.output path mem
    exact ⟨n, k, file.moved tree (fun o => output k o file.descriptor) rfl⟩
  unread := effects.unread
  input path mem := by
    obtain ⟨k, descriptor, reads⟩ := effects.input path mem
    exact ⟨k, descriptor, reads.moved tree openings⟩
  others := effects.others
  grouped := effects.grouped
  ungrouped := effects.ungrouped
  mask := effects.mask

theorem keep (effects : Effects m child deeds now q) (keeps : now.KeepsFiles after) :
    Effects m child deeds after q :=
  effects.same keeps.tree keeps.keepsOpenings (fun k o _ => keeps.openings k o) q.task q.pendingOpen

/-- A deed that comes to nothing changes nothing. -/
theorem idle (effects : Effects m child deeds now q) (nothing : d.counts = false) :
    Effects m child (deeds ++ [d]) now q := by
  -- the fields ask only for deeds that came to something
  have apart {e : ChildDeed} (matters : e.counts = true) : e ∈ deeds ++ [d] ↔ e ∈ deeds := by
    rw [List.mem_append, List.mem_singleton]
    refine or_iff_left ?_
    rintro rfl
    exact Bool.false_ne_true (nothing.symm.trans matters)
  obtain ⟨rest, quiet, untouched, output, unread, input, others, grouped, ungrouped, mask⟩ :=
    effects
  refine ⟨rest, quiet, ?_, ?_, ?_, ?_, others, ?_, ?_, ?_⟩
  · intro none
    exact untouched fun path mem => none path ((apart rfl).2 mem)
  · intro path mem
    exact output path ((apart rfl).1 mem)
  · intro none
    exact unread fun path mem => none path ((apart rfl).2 mem)
  · intro path mem
    exact input path ((apart rfl).1 mem)
  · exact fun mem => grouped ((apart rfl).1 mem)
  · exact fun none => ungrouped fun mem => none ((apart rfl).2 mem)
  · exact fun blocked mem => mask blocked ((apart rfl).1 mem)

/-- The output has been opened. -/
theorem openOutput {path : Bytes} {n : NodeId} {k time : Nat}
    (effects : Effects m child [] now q)
    (emptied : Emptied now.tree q path outputMode time n after.tree)
    (reopens : q.Reopens 1 k r)
    (opening : after.opening? k = some { channel := .node n, writable := true }) :
    Effects m child [⟨.openOutput path, Except.ok ()⟩] after r where
  rest := by
    rw [reopens.rest]
    exact congrArg (fun p : Process => { p with files := r.files }) effects.rest
  quiet := by
    rw [reopens.rest]
    exact effects.quiet
  untouched none := absurd (List.mem_singleton.2 rfl) (none path)
  output other mem := by
    cases List.mem_singleton.1 mem
    have same : Emptied m.tree child path outputMode time n after.tree := by
      rw [← (effects.untouched (by simp)).1]
      exact emptied.congr (by rw [effects.rest]) (by rw [effects.rest])
    exact ⟨n, k, .of_emptied same reopens.takes opening⟩
  unread _ := (reopens.others 0 (by decide)).trans (effects.unread (by simp))
  input := by simp
  others fd noInput noOutput :=
    (reopens.others fd noOutput).trans (effects.others fd noInput noOutput)
  grouped := by simp
  ungrouped _ := by
    rw [reopens.rest]
    exact effects.ungrouped (by simp)
  mask := by simp

/-- The input has been opened. -/
theorem openInput {path : Bytes} {k : Nat} (effects : Effects m child deeds now q)
    (reopens : Process.Reopens { q with pendingOpen := none } 0 k r)
    (reads : now.Reads child.cwd path k)
    (first : ∀ other, ⟨.openInput other, Except.ok ()⟩ ∉ deeds) :
    Effects m child (deeds ++ [⟨.openInput path, Except.ok ()⟩]) now r where
  rest := by
    rw [reopens.rest]
    exact congrArg (fun p : Process => { p with files := r.files, pendingOpen := none })
      effects.rest
  quiet := by
    rw [reopens.rest]
    exact effects.quiet
  untouched none := by
    obtain ⟨tree, descriptor⟩ := effects.untouched fun path mem =>
      none path (List.mem_append_left _ mem)
    exact ⟨tree, (reopens.others 1 (by decide)).trans descriptor⟩
  output other mem := by
    have before : ⟨.openOutput other, Except.ok ()⟩ ∈ deeds := by simpa using mem
    obtain ⟨n, k, file⟩ := effects.output other before
    exact ⟨n, k, file.moved rfl (fun _ => id) (reopens.others 1 (by decide))⟩
  unread none := absurd (List.mem_append_right _ (List.mem_singleton.2 rfl)) (none path)
  input other mem := by
    rcases List.mem_append.1 mem with mem | mem
    · exact absurd mem (first other)
    · cases List.mem_singleton.1 mem
      exact ⟨k, reopens.takes, reads⟩
  others fd noInput noOutput :=
    (reopens.others fd noInput).trans (effects.others fd noInput noOutput)
  grouped mem := by
    rw [reopens.rest]
    exact effects.grouped (by simpa using mem)
  ungrouped none := by
    rw [reopens.rest]
    exact effects.ungrouped fun mem => none (List.mem_append_left _ mem)
  mask blocked mem := by
    rw [reopens.rest]
    exact effects.mask blocked (by simpa using mem)

theorem joinOwnGroup (effects : Effects m child deeds now q) :
    Effects m child (deeds ++ [⟨.joinOwnGroup, Except.ok ()⟩]) now
      { q with group := child.pid } where
  rest := congrArg (fun p : Process => { p with group := child.pid }) effects.rest
  quiet := effects.quiet
  untouched none := effects.untouched fun path mem => none path (List.mem_append_left _ mem)
  output path mem := by
    obtain ⟨n, k, file⟩ := effects.output path (by simpa using mem)
    exact ⟨n, k, file.moved rfl (fun _ => id) rfl⟩
  unread none := effects.unread fun path mem => none path (List.mem_append_left _ mem)
  input path mem := effects.input path (by simpa using mem)
  others := effects.others
  grouped _ := rfl
  ungrouped none := absurd (List.mem_append_right _ (List.mem_singleton.2 rfl)) none
  mask blocked mem := effects.mask blocked (by simpa using mem)

/-- A mask has been set, and it is the first one. -/
theorem setMask (effects : Effects m child deeds now q) (blocked : List Signal)
    (first : ∀ other, ⟨.setMask other, Except.ok ()⟩ ∉ deeds)
    (able : Signal.kill ∉ blocked ∧ Signal.stop ∉ blocked) :
    Effects m child (deeds ++ [⟨.setMask blocked, Except.ok ()⟩]) now
      { q with signals := { q.signals with blocked := (SignalSet.ofList blocked).blockable } } where
  rest := congrArg (fun p : Process => { p with signals := { q.signals with
    blocked := (SignalSet.ofList blocked).blockable } }) effects.rest
  quiet := effects.quiet
  untouched none := effects.untouched fun path mem => none path (List.mem_append_left _ mem)
  output path mem := by
    obtain ⟨n, k, file⟩ := effects.output path (by simpa using mem)
    exact ⟨n, k, file.moved rfl (fun _ => id) rfl⟩
  unread none := effects.unread fun path mem => none path (List.mem_append_left _ mem)
  input path mem := effects.input path (by simpa using mem)
  others := effects.others
  grouped mem := effects.grouped (by simpa using mem)
  ungrouped none := effects.ungrouped fun mem => none (List.mem_append_left _ mem)
  mask other mem s := by
    rcases List.mem_append.1 mem with mem | mem
    · exact absurd mem (first other)
    · cases List.mem_singleton.1 mem
      rw [SignalSet.mem_blockable_iff, SignalSet.mem_ofList_iff]
      refine ⟨And.left, fun mem => ⟨mem, ?_, ?_⟩⟩
      · rintro rfl
        exact able.1 mem
      · rintro rfl
        exact able.2 mem

end Effects

/-! ## The way of a child -/

/-- What others may do: they let the child alone, and what it writes to, and the tree. -/
structure Spares (pid : Pid) (now after : Machine) : Prop where
  process : after.process? pid = now.process? pid
  tree : after.tree = now.tree
  openings : now.KeepsOpenings after
  output : after.described? pid 1 = now.described? pid 1

/-- `Passage pid born now`: a child that was there on `born` has come to `now` by its own steps on
the way to its program, and by what others did. -/
inductive Passage (pid : Pid) (born : Machine) : Machine → Prop
  | start : Passage pid born born
  | step {now after : Machine} {q : Process} {c : Command} {h : ChildHalf} :
      Passage pid born now → now.process? pid = some q → q.task = .launched c h →
      now.stepProcess q = some after → Passage pid born after
  | spared {now after : Machine} :
      Passage pid born now → Spares pid now after → Passage pid born after

/-- What a program finds when it runs. -/
structure Becomes (m : Machine) (child : Process) (c : Command) (now : Machine) (q : Process) :
    Prop where
  /-- It is the program that the first word names, and it gets the words. -/
  runs : ∃ (before : Machine) (path : Bytes) (image : Image), before.tree = now.tree ∧
    before.image child.cwd (searchPath child) c.argv = .ok (path, image) ∧
    Passes c.argv image.argv ∧
    q.task = .program (image.utility.program (image.argv.headD []) image.argv.tail)
  plain : IsPlain c
  output : ∀ path, c.stdout = some path → ∃ n k, Output m child path now q n k
  noOutput : c.stdout = none → now.tree = m.tree ∧ q.descriptor? 1 = child.descriptor? 1
  input : ∀ path, c.stdin = some path → ∃ k, q.descriptor? 0 = some k ∧ now.Reads child.cwd path k
  noInput : c.stdin = none → q.descriptor? 0 = child.descriptor? 0
  /-- Private descriptors are not handed over. -/
  others : ∀ fd, fd ≠ 0 → fd ≠ 1 → fd < 10 → q.descriptor? fd = child.descriptor? fd
  group : q.group = if c.background then child.pid else child.group
  mask : ∀ s, s ∈ q.signals.blocked ↔ s = Signal.tstp ∨ c.background = true ∧ s = Signal.int

namespace Becomes

variable {child : Process} {c : Command} {deeds : List ChildDeed} {now after : Machine}
  {q : Process} {image : Image} {path : Bytes}

theorem of_effects (tries : Tries c deeds .executing) (effects : Effects m child deeds now q)
    (found : now.image q.cwd (searchPath q) c.argv = .ok (path, image)) :
    Becomes m child c (now.become child.pid path image q.environment) { q with
      files := q.files.filter (·.1 < 10)
      caught := [], arrived := [], interrupted := false
      environment := q.environment
      name := (lastName path).take keptName
      task := .program (image.utility.program (image.argv.headD []) image.argv.tail) } := by
  cases tries with
  | executing plain =>
      have named : now.image child.cwd (searchPath child) c.argv = .ok (path, image) := by
        rw [effects.rest] at found
        exact found
      refine ⟨⟨now, path, image, rfl, named, passes_image named, rfl⟩, plain, ?_, ?_, ?_, ?_, ?_,
        ?_, ?_⟩
      · intro path output
        obtain ⟨n, k, file⟩ := effects.output path (openOutput_mem_iff.2 output)
        exact ⟨n, k, file.moved rfl (fun _ => id) (Process.lookup_filter_lt _ (by decide))⟩
      · intro none
        obtain ⟨tree, descriptor⟩ := effects.untouched fun path mem =>
          nomatch none.symm.trans (openOutput_mem_iff.1 mem)
        exact ⟨tree, (Process.lookup_filter_lt _ (by decide)).trans descriptor⟩
      · intro path input
        obtain ⟨k, descriptor, reads⟩ := effects.input path (openInput_mem_iff.2 input)
        exact ⟨k, (Process.lookup_filter_lt _ (by decide)).trans descriptor, reads⟩
      · intro none
        refine (Process.lookup_filter_lt _ (by decide)).trans (effects.unread fun path mem => ?_)
        cases none.symm.trans (openInput_mem_iff.1 mem)
      · intro fd noInput noOutput shared
        exact (Process.lookup_filter_lt _ shared).trans (effects.others fd noInput noOutput)
      · show q.group = _
        cases background : c.background with
        | true => exact effects.grouped (joinOwnGroup_mem_iff.2 background)
        | false =>
            refine effects.ungrouped fun mem => ?_
            rw [joinOwnGroup_mem_iff, background] at mem
            cases mem
      · intro s
        show s ∈ q.signals.blocked ↔ _
        rw [effects.mask (ChildHalf.mask c) (setMask_mem_iff.2 rfl) s]
        cases background : c.background <;> simp [ChildHalf.mask, background]

end Becomes

/-- A child waits for a pipe only where it opens its input. -/
def Awaits (child : Process) (now : Machine) (h : ChildHalf) (q : Process) : Prop :=
  ∀ w, q.pendingOpen = some w → (∀ path, h ≠ .openingOutput path) ∧
    ∀ path, h = .openingInput path → now.Reads child.cwd path w.opening

theorem Awaits.of_none {child : Process} {now : Machine} {h : ChildHalf}
    (none : q.pendingOpen = none) : Awaits child now h q :=
  fun _ some => nomatch none.symm.trans some

theorem Awaits.elsewhere {child : Process} {now : Machine} {h : ChildHalf}
    (noOutput : ∀ path, h ≠ .openingOutput path) (noInput : ∀ path, h ≠ .openingInput path) :
    Awaits child now h q :=
  fun _ _ => ⟨noOutput, fun path same => absurd same (noInput path)⟩

/-- The child has said why it did not become the program. -/
structure Complained (told : Machine) (pid : Pid) (failure : ChildFailure) (now : Machine) :
    Prop where
  tree : now.tree = (told.write pid 2 (Bytes.ofText (failure.message ++ "\n"))).2.tree
  /-- No file changes with that but the one that standard error goes to. -/
  others : ∀ n, (∀ k o, told.described? pid 2 = some (k, o) → o.channel ≠ .node n) →
    now.tree.node? n = told.tree.node? n

theorem Complained.of_tree {told now : Machine} {failure : ChildFailure}
    (tree : now.tree = (told.write pid 2 (Bytes.ofText (failure.message ++ "\n"))).2.tree) :
    Complained told pid failure now where
  tree := tree
  others _ elsewhere := tree ▸ node?_write_of_ne elsewhere _

/-- How a child that was born on `m` fares. -/
inductive Fares (m : Machine) (child : Process) (c : Command) (now : Machine) : Prop
  | launching {deeds : List ChildDeed} {h : ChildHalf} {q : Process} :
      now.process? child.pid = some q → q.task = .launched c h → h ≠ .exiting →
      Tries c deeds h → Effects m child deeds now q →
      Awaits child now h q → Fares m child c now
  | complained {deeds : List ChildDeed} {failure : ChildFailure} {told : Machine} {r : Process} :
      Fails c deeds failure → told.process? child.pid = some r → Effects m child deeds told r →
      Complained told child.pid failure now →
      (∀ q, now.process? child.pid = some q →
        q.task = .launched c .exiting ∨ q.life = .ended (.exited 1)) → Fares m child c now
  | program {q : Process} :
      now.process? child.pid = some q → Becomes m child c now q → Fares m child c now

namespace Fares

variable {child : Process} {c : Command} {now after : Machine} {q : Process} {h : ChildHalf}

theorem launching_proceed {deeds : List ChildDeed} (tries : Tries c deeds h)
    (left : h ≠ .exiting) (present : now.process? child.pid = some q)
    (effects : Effects m child deeds now q)
    (awaits : Awaits child now h q) : Fares m child c (now.proceed child.pid c h) := by
  have process := update_process? (fun p => { p with task := .launched c h }) present rfl
  refine .launching process rfl left tries (effects.same ?_ ?_ ?_ _ _) awaits
  · rfl
  · exact fun k o found => ⟨o.offset, found⟩
  · exact fun _ _ _ => id

/-- A deed that has failed leaves the child with nothing but the failure to tell. -/
theorem launching_complain {deeds : List ChildDeed} {d : ChildDeed} {failure : ChildFailure}
    (tries : Tries c (deeds ++ [d]) (.complaining failure)) (nothing : d.counts = false)
    (present : now.process? child.pid = some q) (effects : Effects m child deeds now q) :
    Fares m child c (now.proceed child.pid c (.complaining failure)) :=
  launching_proceed tries (by simp) present (effects.idle nothing) (.elsewhere (by simp) (by simp))

/-- The first step, if a file is named for the output. -/
theorem step_openingOutput {path : Bytes} (present : now.process? child.pid = some q)
    (output : c.stdout = some path) (effects : Effects m child [] now q)
    (settled : q.pendingOpen = none) (regular : OnlyFiles now.tree q.cwd path)
    (steps : now.stepLaunched q c (.openingOutput path) = some after) : Fares m child c after := by
  have same : q.pid = child.pid := pid_of_process? present
  have next (reply : Except IoError Unit) := (Tries.openingOutput output).step reply (by simp)
  simp only [stepLaunched, turn, same] at steps
  rcases openOver_writing 1 outputMode present settled regular with
    ⟨e, failed⟩ | ⟨n, opened, r, emptied, done, process, reopens, opening⟩
  · simp only [failed] at steps
    cases steps
    exact launching_complain (next (.error e)) rfl present effects
  · simp only [done] at steps
    cases steps
    refine launching_proceed (next (.ok ())) (outputOpened_ne_exiting c) process
      (effects.openOutput emptied reopens opening) (.of_none ?_)
    rw [reopens.rest]
    exact settled

/-- A step that opens the input, or waits for it. -/
theorem step_openingInput {path : Bytes} {deeds : List ChildDeed}
    (tries : Tries c deeds (.openingInput path))
    (present : now.process? child.pid = some q) (task : q.task = .launched c (.openingInput path))
    (effects : Effects m child deeds now q) (awaits : Awaits child now (.openingInput path) q)
    (steps : now.stepLaunched q c (.openingInput path) = some after) : Fares m child c after := by
  have same : q.pid = child.pid := pid_of_process? present
  have cwd : q.cwd = child.cwd := by rw [effects.rest]
  have next (reply : Except IoError Unit) := tries.step reply (by simp)
  have first : ∀ other, ⟨.openInput other, Except.ok ()⟩ ∉ deeds := by
    cases tries
    simp [outputDone]
  have pending : ∀ w, q.pendingOpen = some w → now.Reads q.cwd path w.opening := by
    intro w waits
    rw [cwd]
    exact (awaits w waits).2 path rfl
  simp only [stepLaunched, turn, same] at steps
  rw [← same] at present
  rcases openOver_reading 0 present pending with
    ⟨e, failed⟩ | ⟨waits, waiting, keeps, unchanged⟩ |
    ⟨opened, r, k, done, keeps, process, reopens, reads⟩
  · rw [same] at failed present
    simp only [failed] at steps
    cases steps
    exact launching_complain (next (.error e)) rfl present effects
  · rw [same] at waiting
    simp only [waiting, Option.ite_none_right_eq_some, Option.some.injEq] at steps
    obtain ⟨-, rfl⟩ := steps
    -- it waited before, or it has met a pipe without a writer and waits from now on
    rcases unchanged with rfl | ⟨w, process, reads⟩
    · exact .launching (same ▸ present) task (by simp) tries effects awaits
    · have there : waits.process? child.pid = some { q with pendingOpen := some w } := by
        rw [← same]
        exact process
      refine .launching there task (by simp) tries (effects.same keeps.tree keeps.keepsOpenings
        (fun k o _ => keeps.openings k o) q.task (some w)) fun v waits => ⟨by simp, ?_⟩
      cases waits
      intro other same
      cases same
      exact cwd ▸ reads
  · rw [same] at done process
    simp only [done] at steps
    cases steps
    refine launching_proceed (next (.ok ())) (prepared_ne c).1 process
      ((effects.keep keeps).openInput reopens (cwd ▸ reads) first) (.of_none ?_)
    rw [reopens.rest]

theorem step_grouping {deeds : List ChildDeed} (tries : Tries c deeds .grouping)
    (present : now.process? child.pid = some q) (effects : Effects m child deeds now q)
    (steps : now.stepLaunched q c .grouping = some after) : Fares m child c after := by
  have same : q.pid = child.pid := pid_of_process? present
  have next (reply : Except Errno Unit) := tries.step reply (by simp)
  have failed (e : Errno) : Fares m child c
      (now.proceed child.pid c (.complaining (.ofIoError c.name (.os e)))) :=
    launching_complain (next (.error e)) rfl present effects
  simp only [stepLaunched, turn, same] at steps
  split at steps
  · cases steps
    exact failed _
  · rcases joinGroup_own present with ⟨e, refused⟩ | joined
    · simp only [refused] at steps
      cases steps
      exact failed e
    · simp only [joined] at steps
      cases steps
      have process := update_process? (fun p : Process => { p with group := child.pid }) present rfl
      exact launching_proceed (h := .masking) (next (.ok ())) (by simp) process
        (effects.keep (.update ..)).joinOwnGroup (.elsewhere (by simp) (by simp))

theorem step_masking {deeds : List ChildDeed} (tries : Tries c deeds .masking)
    (present : now.process? child.pid = some q) (effects : Effects m child deeds now q)
    (steps : now.stepLaunched q c .masking = some after) : Fares m child c after := by
  have same : q.pid = child.pid := pid_of_process? present
  have next : Tries c _ .executing := tries.step (Except.ok ()) (by simp)
  have first : ∀ other, ⟨.setMask other, Except.ok ()⟩ ∉ deeds := by
    cases tries
    cases background : c.background <;>
      simp [outputDone, inputDone, groupDone, background]
  simp only [stepLaunched, turn, same] at steps
  rw [setMask_eq present effects.quiet] at steps
  cases steps
  have process := update_process? (fun p : Process => { p with signals :=
    { p.signals with blocked := (SignalSet.ofList (mask c)).blockable } }) present rfl
  exact launching_proceed (h := .executing) next (by simp) process
    ((effects.keep (.update ..)).setMask (mask c) first (able_mask c))
    (.elsewhere (by simp) (by simp))

theorem step_executing {deeds : List ChildDeed} (tries : Tries c deeds .executing)
    (present : now.process? child.pid = some q) (effects : Effects m child deeds now q)
    (steps : now.stepLaunched q c .executing = some after) : Fares m child c after := by
  have same : q.pid = child.pid := pid_of_process? present
  simp only [stepLaunched, turn, same] at steps
  split at steps
  · next executed =>
      cases steps
      obtain ⟨path, image, found, rfl⟩ := executeCommand_eq executed
      rw [same]
      have process := update_process? (fun p : Process => { p with
        files := p.files.filter (·.1 < 10)
        caught := [], arrived := [], interrupted := false
        environment := q.environment
        name := (lastName path).take keptName
        task := .program (image.utility.program (image.argv.headD []) image.argv.tail) })
        present rfl
      exact .program process (.of_effects tries effects found)
  · next e refused =>
      cases steps
      exact launching_complain (tries.step (.os e) (by simp)) rfl present effects

theorem step_complaining {deeds : List ChildDeed} {failure : ChildFailure}
    (tries : Tries c deeds (.complaining failure)) (present : now.process? child.pid = some q)
    (effects : Effects m child deeds now q)
    (steps : now.stepLaunched q c (.complaining failure) = some after) : Fares m child c after := by
  have same : q.pid = child.pid := pid_of_process? present
  simp only [stepLaunched, turn, same] at steps
  split at steps
  · next written =>
      cases steps
      cases tries with
      | complaining fails =>
          refine .complained fails present effects (.of_tree ?_) fun r left =>
            .inl (task_of_proceed left)
          rw [written]
          rfl
  · cases steps

theorem step_exiting {deeds : List ChildDeed} {failure : ChildFailure} {told : Machine}
    {r : Process} (fails : Fails c deeds failure) (before : told.process? child.pid = some r)
    (effects : Effects m child deeds told r)
    (complained : Complained told child.pid failure now)
    (present : now.process? child.pid = some q) (running : q.isRunning = true)
    (steps : now.stepLaunched q c .exiting = some after) : Fares m child c after := by
  have same : q.pid = child.pid := pid_of_process? present
  simp only [stepLaunched, turn, same] at steps
  cases steps
  exact .complained fails before effects (.of_tree ((tree_finish ..).trans complained.tree))
    fun left there => .inr (life_finish present (Process.isEnded_of_isRunning running) there)

theorem step (fares : Fares m child c now) (regular : ∀ path, c.stdout = some path →
      OnlyFiles m.tree child.cwd path) (present : now.process? child.pid = some q)
    {c' : Command} (task : q.task = .launched c' h)
    (steps : now.stepProcess q = some after) : Fares m child c after := by
  have running := isRunning_of_stepProcess steps
  cases fares with
  | @launching deeds h' q' present' task' left tries effects awaits =>
      cases present.symm.trans present'
      cases task.symm.trans task'
      rw [stepProcess_launched running task] at steps
      cases tries with
      | @openingOutput path output =>
          have settled : q.pendingOpen = none := by
            rw [Option.eq_none_iff_forall_ne_some]
            exact fun w waits => (awaits w waits).1 path rfl
          refine step_openingOutput present output effects settled ?_ steps
          rw [(effects.untouched (by simp)).1, effects.rest]
          exact regular path output
      | openingInput input =>
          exact step_openingInput (.openingInput input) present task effects awaits steps
      | grouping plain background =>
          exact step_grouping (.grouping plain background) present effects steps
      | masking plain => exact step_masking (.masking plain) present effects steps
      | executing plain => exact step_executing (.executing plain) present effects steps
      | complaining fails => exact step_complaining (.complaining fails) present effects steps
      | exiting => exact absurd rfl left
  | complained fails before effects complained ends =>
      rcases ends q present with same | ended
      · cases task.symm.trans same
        rw [stepProcess_launched running task] at steps
        exact step_exiting fails before effects complained present running steps
      · simp [Process.isRunning, ended] at running
  | program present' becomes =>
      cases present.symm.trans present'
      obtain ⟨_, _, _, _, _, _, program⟩ := becomes.runs
      cases task.symm.trans program

theorem spared (fares : Fares m child c now) (spares : Spares child.pid now after) :
    Fares m child c after := by
  have opening {q : Process} (present : now.process? child.pid = some q) {k : Nat} {o : Opening}
      (descriptor : q.descriptor? 1 = some k) (found : now.opening? k = some o) :
      after.opening? k = some o := by
    have output : after.described? child.pid 1 = some (k, o) := by
      rw [spares.output]
      simp [described?, present, descriptor, found]
    simp only [described?, spares.process, present, descriptor, Option.bind_eq_bind,
      Option.bind_some, Option.bind_eq_some_iff] at output
    obtain ⟨_, found, same⟩ := output
    cases same
    exact found
  cases fares with
  | launching present task left tries effects awaits =>
      refine .launching (spares.process.trans present) task left tries (effects.same spares.tree
        spares.openings (fun k o => opening present) _ _) fun w waits => ?_
      exact ⟨(awaits w waits).1, fun path same =>
        ((awaits w waits).2 path same).moved spares.tree spares.openings⟩
  | complained fails before effects complained ends =>
      refine .complained fails before effects (.of_tree (spares.tree.trans complained.tree))
        fun q there => ends q (spares.process.symm.trans there)
  | program present becomes =>
      refine .program (spares.process.trans present) { becomes with
        runs := spares.tree ▸ becomes.runs
        output := fun path output => ?_
        noOutput := fun none => ?_
        input := fun path input => ?_ }
      · obtain ⟨n, k, file⟩ := becomes.output path output
        exact ⟨n, k, file.moved spares.tree (fun o => opening present file.descriptor) rfl⟩
      · exact ⟨spares.tree.trans (becomes.noOutput none).1, (becomes.noOutput none).2⟩
      · obtain ⟨k, descriptor, reads⟩ := becomes.input path input
        exact ⟨k, descriptor, reads.moved spares.tree spares.openings⟩

end Fares

/-- The child is there once the shell has forked. -/
theorem process?_forkFor {shell : Process} {c : Command} {born : Machine}
    (present : m.process? m.shell = some shell) (free : m.process? m.nextPid = none)
    (forked : m.forkFor c = (.ok pid, born)) :
    (newborn m shell c).pid = pid ∧ born.tree = m.tree ∧
      born.process? pid = some (newborn m shell c) := by
  unfold forkFor at forked
  cases failing : m.failure? .fork with
  | some e => simp [failing] at forked
  | none =>
      simp only [failing, present] at forked
      cases forked
      refine ⟨rfl, rfl, ?_⟩
      rw [process?] at free ⊢
      rw [spawn, List.find?_append, free, Option.none_or]
      exact List.find?_cons_of_pos (by simp)

/-- However far the child has come, it fares in one of the three ways. -/
theorem Passage.fares {shell : Process} {c : Command} {born now : Machine}
    (present : m.process? m.shell = some shell) (free : m.process? m.nextPid = none)
    (regular : ∀ path, c.stdout = some path → OnlyFiles m.tree shell.cwd path)
    (forked : m.forkFor c = (.ok pid, born)) (passage : Passage pid born now) :
    Fares m (newborn m shell c) c now := by
  obtain ⟨same, tree, there⟩ := process?_forkFor present free forked
  subst same
  -- how the child fares is the invariant of its passage
  induction passage with
  | start =>
      exact .launching there rfl (start_ne_exiting c) (.start c) (.of_newborn m shell c tree)
        (.of_none rfl)
  | step _ found task steps ih => exact ih.step regular found task steps
  | spared _ spares ih => exact ih.spared spares

/-- The child will not become the program any more. -/
def HasFailed (c : Command) (failure : ChildFailure) (q : Process) : Prop :=
  q.task = .launched c (.complaining failure) ∨ q.task = .launched c .exiting ∨
    ∃ status, q.life = .ended status

/-- A child that has something to complain about runs no program, however long it goes on. -/
theorem Passage.hasFailed {c : Command} {failure : ChildFailure} {now later : Machine}
    (present : now.process? pid = some p) (task : p.task = .launched c (.complaining failure))
    (passage : Passage pid now later) (there : later.process? pid = some q) :
    HasFailed c failure q := by
  induction passage generalizing q with
  | start =>
      cases present.symm.trans there
      exact .inl task
  | @step last after r c' h _ found launched steps ih =>
      have running := isRunning_of_stepProcess steps
      have same : r.pid = pid := pid_of_process? found
      rcases ih found with complains | exits | ⟨status, ended⟩
      · rw [stepProcess_launched running complains] at steps
        simp only [stepLaunched, turn, same] at steps
        split at steps
        · cases steps
          exact .inr (.inl (task_of_proceed there))
        · cases steps
      · rw [stepProcess_launched running exits] at steps
        simp only [stepLaunched, turn, same] at steps
        cases steps
        exact .inr (.inr ⟨_, life_finish found (Process.isEnded_of_isRunning running) there⟩)
      · simp [Process.isRunning, ended] at running
  | spared _ spares ih => exact ih (spares.process.symm.trans there)

/-! ## What the program writes -/

/-- `Pours k n first out now`: from `first` to `now` the text `out` was written through description
`k`, by whatever processes and under whatever descriptors; nothing else was done to the description
or to file `n`. -/
inductive Pours (k : Nat) (n : NodeId) (first : Machine) : Bytes → Machine → Prop
  | start : Pours k n first [] first
  | write {now after : Machine} {q : Process} {o : Opening} {fd : Nat} {out bs : Bytes}
      {resume : Except Errno Unit → Program Nat} :
      Pours k n first out now → now.process? q.pid = some q →
      q.task = .program (.ask (.write fd bs) resume) → now.described? q.pid fd = some (k, o) →
      now.stepProcess q = some after → Pours k n first (out ++ bs) after
  | other {now after : Machine} {out : Bytes} :
      Pours k n first out now → after.opening? k = now.opening? k →
      after.tree.kind? n = now.tree.kind? n → Pours k n first out after

/-- A file that is empty when a program starts to write to it holds what is written. -/
theorem Holds.pours {k : Nat} {n : NodeId} {first now : Machine} {out : Bytes}
    (holds : first.Holds k n []) (pours : Pours k n first out now) : now.Holds k n out := by
  induction pours with
  | start => exact holds
  | @write now after q o fd out bs resume _ present task described steps ih =>
      -- a write to a file ends nobody, so all that follows it is the reply
      obtain ⟨told, written, held, processes⟩ := ih.write described bs
      have running := isRunning_of_stepProcess steps
      have alive := Process.isEnded_of_isRunning running
      have there : told.process? q.pid = some q := by
        rw [process?, processes]
        exact present
      simp only [stepProcess, running, Bool.not_true, Bool.false_eq_true, if_false, task,
        stepProgram, answer, written, there, alive, Option.some.injEq] at steps
      subst steps
      exact ⟨held.opening, held.content⟩
  | other _ opening kind ih => exact ⟨opening.trans ih.opening, kind.trans ih.content⟩

end JobShell.Machine

namespace JobShell

open Machine

/-- The child's half of a launch. The words and files are those of the line, and of several files
for a stream the last one counts. The child asks for what these name, in order, until something
fails. On a machine it then is on its way, has said why it gave up, or has become the program, with
the effects that each of these lets one expect; and once it has failed, there will be no program.
What is written through the description that the program finds as its output is what the file
holds. -/
theorem child_becomes_command {maxToken : Nat} {line : Bytes} {c : Command}
    (parsed : Command.parse maxToken line = .ok c) :
    (∃ toks rest, Command.Runs line toks ∧ Command.Ends toks rest c.background ∧
      c.argv = rest.filter Command.isWord ∧ c.stdout = Command.lastTarget .output rest ∧
      c.stdin = Command.lastTarget .input rest) ∧
    (∀ deeds h, ChildHalf.Asks c deeds h → ChildHalf.Tries c deeds h) ∧
    ∀ (m born : Machine) (shell : Process) (pid : Pid),
      m.process? m.shell = some shell → m.process? m.nextPid = none →
      (∀ path, c.stdout = some path → OnlyFiles m.tree shell.cwd path) →
      m.forkFor c = (.ok pid, born) →
      (∀ now, Passage pid born now → Fares m (newborn m shell c) c now) ∧
      (∀ now p failure, now.process? pid = some p →
        p.task = .launched c (.complaining failure) →
        ∀ later q, Passage pid now later → later.process? pid = some q → HasFailed c failure q) ∧
      ∀ now q path n k, Output m (newborn m shell c) path now q n k →
        ∀ out later, Pours k n now out later → later.tree.kind? n = some (.file out) := by
  refine ⟨?_, fun deeds h asks => asks.tries, fun m born shell pid present free regular forked =>
    ⟨fun now passage => passage.fares present free regular forked, ?_, ?_⟩⟩
  · obtain ⟨toks, runs, reading⟩ := Command.parse_eq_iff_reading.1 parsed
    cases reading with
    | accepted fits ends fit whole => exact ⟨toks, _, runs, ends, rfl, rfl, rfl⟩
  · intro now p failure found task later q passage there
    exact passage.hasFailed found task there
  · intro now q path n k output out later pours
    exact (output.holds.pours pours).content

/-! ### An example -/

namespace Machine

/-- Let a child go on for so many steps on the way to its program. -/
def launchFor (pid : Pid) : Nat → Machine → Option Machine
  | 0, m => some m
  | steps + 1, m =>
      (m.process? pid).bind fun p =>
        match p.task with
        | .launched _ _ => (m.stepProcess p).bind (launchFor pid steps)
        | _ => none

theorem Passage.launchFor {pid : Pid} {born now later : Machine} {steps : Nat}
    (passage : Passage pid born now) (goes : now.launchFor pid steps = some later) :
    Passage pid born later := by
  induction steps generalizing now with
  | zero =>
      cases goes
      exact passage
  | succ steps ih =>
      obtain ⟨p, present, goes⟩ := Option.bind_eq_some_iff.1 goes
      split at goes
      · next c h task =>
          obtain ⟨next, steps, goes⟩ := Option.bind_eq_some_iff.1 goes
          exact ih (passage.step present task steps) goes
      · cases goes

/-- What the program of a process is about to write. -/
def Process.writing? (p : Process) : Option (Nat × Bytes) :=
  match p.task with
  | .program (.ask (.write fd bs) _) => some (fd, bs)
  | _ => none

/-- The shell of a small machine. -/
def sampleShell : Process :=
  { pid := 10, parent := 1, group := 10, session := 10, cwd := 0, files := [(1, 0), (2, 0)] }

/-- A machine with a shell, the program `/t`, which repeats its words, and the file `/i`. -/
def sample : Machine where
  tree := ⟨#[{ mode := 0o755, kind := .directory 0 [([116], 1), ([105], 2)] },
    { mode := 0o755, kind := .utility .echo }, { mode := 0o644, kind := .file [120] }]⟩
  openings := #[{ channel := .transcript true, writable := true }]
  processes := [sampleShell]
  nextPid := 11
  shell := 10

/-- A line for it. -/
def repeating : Command :=
  { argv := [[47, 116], [97]], stdout := some [111], stdin := some [105], background := true }

end Machine

theorem child_becomes_command_repeating :
    Command.parse 255 (Bytes.ofText "/t a >n <o >o <i &") = .ok repeating ∧
    ∃ now later q n k, Passage 11 (sample.forkFor repeating).2 now ∧ now.process? 11 = some q ∧
      Becomes sample (newborn sample sampleShell repeating) repeating now q ∧
      q.descriptor? 1 = some k ∧ now.tree.kind? n = some (.file []) ∧
      Pours k n now [97, 10] later ∧ later.tree.kind? n = some (.file [97, 10]) := by
  have parsed : Command.parse 255 (Bytes.ofText "/t a >n <o >o <i &") = .ok repeating := by
    decide +kernel
  have vacant : sample.tree.locate 0 [111] true = .ok (.vacant 0 [111]) := by decide +kernel
  have runs : ((sample.forkFor repeating).2.launchFor 11 5).bind (fun now =>
      (now.process? 11).bind fun q => (now.stepProcess q).map fun _ => q.writing?) =
        some (some (1, [97, 10])) := by decide +kernel
  obtain ⟨now, goes, runs⟩ := Option.bind_eq_some_iff.1 runs
  obtain ⟨q, present, runs⟩ := Option.bind_eq_some_iff.1 runs
  obtain ⟨later, steps, writes⟩ := Option.map_eq_some_iff.1 runs
  have passage := Passage.start.launchFor goes
  have regular (path : Bytes) (named : repeating.stdout = some path) :
      OnlyFiles sample.tree sampleShell.cwd path := by
    cases named
    intro n located
    cases vacant.symm.trans located
  obtain ⟨fares, -, pours⟩ :=
    (child_becomes_command parsed).2.2 sample _ sampleShell 11 rfl rfl regular rfl
  have becomes : Becomes sample (newborn sample sampleShell repeating) repeating now q := by
    cases fares now passage with
    | launching present' task =>
        cases present.symm.trans present'
        rw [Process.writing?, task] at writes
        cases writes
    | complained fails before effects complained ends =>
        rcases ends q present with task | ended
        · rw [Process.writing?, task] at writes
          cases writes
        · have running := isRunning_of_stepProcess steps
          simp [Process.isRunning, ended] at running
    | program present' becomes =>
        cases present.symm.trans present'
        exact becomes
  obtain ⟨n, k, output⟩ := becomes.output [111] rfl
  have poured : Pours k n now [97, 10] later := by
    unfold Process.writing? at writes
    split at writes
    · next fd bs resume task =>
        cases writes
        have same : q.pid = 11 := pid_of_process? present
        rw [← same] at present
        have described :
            now.described? q.pid 1 = some (k, { channel := .node n, writable := true }) := by
          simp [described?, present, output.descriptor, output.holds.opening]
        exact Pours.start.write present task described steps
    · cases writes
  exact ⟨parsed, now, later, q, n, k, passage, present, becomes, output.descriptor,
    output.holds.content, poured, pours now q [111] n k output [97, 10] later poured⟩

end JobShell
