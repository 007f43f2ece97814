import JobShell.Machine.World
import Mathlib.Data.List.Nodup
import Mathlib.Data.List.Perm.Subperm

/-!
# Opening files over descriptors

A launched child opens a file under the first free descriptor and moves it to the one that the
program is to find. What becomes of the tree, of the descriptors of the child and of the
descriptions is said here once for each way of opening: to write, where a regular file is emptied or
made, and to read, where nothing changes but what the child has open, and where the other end of a
pipe may be waited for.

Results:
1. `Machine.seat_spec`: a granted description ends up under its descriptor, and only there.
2. `Machine.openOver_writing`, `Machine.openOver_reading`: the ways in which an attempt goes.
3. `Machine.node?_write_of_ne`: writing changes no file but the one that is written to.
4. `Machine.Holds.write`: who writes at the end of a file adds to it.
-/

namespace JobShell.Machine

/-! ## Descriptors -/

namespace Process

theorem lookup_filter_of_ne (files : List (Nat × Nat)) {fd other : Nat} (apart : other ≠ fd) :
    (files.filter (·.1 ≠ fd)).lookup other = files.lookup other := by
  induction files with
  | nil => rfl
  | cons file files ih =>
      obtain ⟨here, opening⟩ := file
      by_cases same : here = fd
      · subst same
        have skipped : (other == here) = false := beq_false_of_ne apart
        rw [List.filter_cons, if_neg (by simp), ih, List.lookup_cons, skipped]
      · rw [List.filter_cons, if_pos (by simpa using same), List.lookup_cons, List.lookup_cons, ih]

theorem lookup_filter_lt (files : List (Nat × Nat)) {fd bound : Nat} (below : fd < bound) :
    (files.filter (·.1 < bound)).lookup fd = files.lookup fd := by
  induction files with
  | nil => rfl
  | cons file files ih =>
      obtain ⟨here, opening⟩ := file
      by_cases kept : here < bound
      · rw [List.filter_cons, if_pos (by simpa using kept), List.lookup_cons, List.lookup_cons, ih]
      · have skipped : (fd == here) = false := beq_false_of_ne (by omega)
        rw [List.filter_cons, if_neg (by simpa using kept), ih, List.lookup_cons, skipped]

theorem descriptor?_install_of_ne (p : Process) {fd other : Nat} (opening : Nat)
    (apart : other ≠ fd) : (p.install fd opening).descriptor? other = p.descriptor? other := by
  have front : (other == fd) = false := beq_false_of_ne apart
  simp only [descriptor?, install, List.lookup_cons, front]
  exact lookup_filter_of_ne p.files apart

theorem descriptor?_drop_of_ne (p : Process) {fd other : Nat} (apart : other ≠ fd) :
    (p.drop fd).descriptor? other = p.descriptor? other :=
  lookup_filter_of_ne p.files apart

theorem descriptor?_drop_self (p : Process) (fd : Nat) : (p.drop fd).descriptor? fd = none := by
  rw [descriptor?, drop, List.lookup_eq_none_iff]
  intro file mem
  have apart : file.1 ≠ fd := by simpa using (List.mem_filter.1 mem).2
  exact bne_iff_ne.2 apart.symm

/-- There are more candidates than open descriptors, so one of them is free. -/
theorem descriptor?_freeFrom (p : Process) (start : Nat) :
    p.descriptor? (p.freeFrom start) = none := by
  unfold freeFrom
  cases found : ((List.range (p.files.length + 1)).map (· + start)).find?
      (fun fd => (p.descriptor? fd).isNone) with
  | some fd => simpa using List.find?_some found
  | none =>
      exfalso
      rw [List.find?_eq_none] at found
      have distinct : ((List.range (p.files.length + 1)).map (· + start)).Nodup :=
        List.nodup_range.map (fun a b same => Nat.add_right_cancel same)
      have within : (List.range (p.files.length + 1)).map (· + start) ⊆ p.files.map Prod.fst := by
        intro fd mem
        by_contra absent
        refine found fd mem ?_
        rw [Option.isNone_iff_eq_none, descriptor?, List.lookup_eq_none_iff]
        rintro ⟨here, opening⟩ there
        refine bne_iff_ne.2 ?_
        rintro rfl
        exact absent (List.mem_map_of_mem there)
      have few := (distinct.subperm within).length_le
      rw [List.length_map, List.length_map, List.length_range] at few
      omega

/-- A mask that leaves the owner alone makes private files private. -/
theorem masked_private {p : Process} (leaves : p.umask &&& 0o600 = 0) : p.masked 0o600 = 0o600 := by
  refine Nat.eq_of_testBit_eq fun i => ?_
  have bit : (p.umask &&& 0o600).testBit i = false := by rw [leaves, Nat.zero_testBit]
  have within : (0o600 &&& 0o7777 : Nat).testBit i = (0o600 : Nat).testBit i := by
    rw [show (0o600 &&& 0o7777 : Nat) = 0o600 from rfl]
  rw [Nat.testBit_and] at bit within
  rw [masked, Nat.testBit_and, Nat.testBit_xor]
  generalize Nat.testBit 0o600 i = wanted at bit within ⊢
  cases wanted with
  | false => rfl
  | true =>
      rw [Bool.and_true] at bit
      rw [Bool.true_and] at within ⊢
      rw [within, bit, Bool.xor_false]

/-- `p.Reopens target k q`: `q` is `p`, but that a descriptor means description `k` now. -/
structure Reopens (p : Process) (target k : Nat) (q : Process) : Prop where
  rest : q = { p with files := q.files }
  takes : q.descriptor? target = some k
  others : ∀ fd, fd ≠ target → q.descriptor? fd = p.descriptor? fd

end Process

variable {m after : Machine} {p : Process} {pid : Pid}

theorem pid_of_process? (present : m.process? pid = some p) : p.pid = pid := by
  simpa using List.find?_some present

theorem update_process? (f : Process → Process) (present : m.process? pid = some p)
    (keeps : (f p).pid = p.pid) : (m.update pid f).process? pid = some (f p) := by
  rw [process?_update f present, ← pid_of_process? present, ← keeps]

/-- Grant a description to a process and move it to a descriptor. -/
def seat (m : Machine) (pid : Pid) (target k : Nat) : Machine :=
  let (fd, granted) := m.grant pid k
  let moved := (granted.duplicate pid fd target).2
  if fd = target then moved else moved.closeFile pid fd

/-- The description is found under the descriptor, and every other descriptor is what it was. -/
theorem seat_spec (present : m.process? pid = some p) (target k : Nat) :
    (m.seat pid target k).tree = m.tree ∧ (m.seat pid target k).openings = m.openings ∧
      ∃ q, (m.seat pid target k).process? pid = some q ∧ p.Reopens target k q := by
  have grants : m.grant pid k = (p.freeFrom 0, m.update pid (·.install (p.freeFrom 0) k)) := by
    simp [grant, present]
  have free : p.descriptor? (p.freeFrom 0) = none := p.descriptor?_freeFrom 0
  rw [seat, grants]
  generalize p.freeFrom 0 = fd at free
  have first := update_process? (·.install fd k) present rfl
  have second := update_process? (·.install target k) first rfl
  simp only [duplicate, first, Option.bind_some, Process.descriptor?_install]
  by_cases same : fd = target
  · subst same
    rw [if_pos rfl]
    refine ⟨rfl, rfl, _, second, rfl, Process.descriptor?_install .., fun other apart => ?_⟩
    rw [Process.descriptor?_install_of_ne _ _ apart, Process.descriptor?_install_of_ne _ _ apart]
  · rw [if_neg same]
    refine ⟨rfl, rfl, _, update_process? (·.drop fd) second rfl, rfl, ?_, fun other apart => ?_⟩
    · rw [Process.descriptor?_drop_of_ne _ (Ne.symm same), Process.descriptor?_install]
    · by_cases here : other = fd
      · rw [here, Process.descriptor?_drop_self, free]
      · rw [Process.descriptor?_drop_of_ne _ here, Process.descriptor?_install_of_ne _ _ apart,
          Process.descriptor?_install_of_ne _ _ here]

/-! ## Opening a file to write -/

namespace FileTree

variable {t : FileTree} {n k : NodeId}

theorem node?_modify (t : FileTree) (n : NodeId) (f : Node → Node) :
    (t.modify n f).node? n = (t.node? n).map f := by
  simp [node?, modify, Array.getElem?_modify]

theorem node?_modify_of_ne (t : FileTree) (f : Node → Node) (apart : k ≠ n) :
    (t.modify n f).node? k = t.node? k := by
  simp [node?, modify, Array.getElem?_modify, apart.symm]

/-- A new file gets the number behind all others. -/
theorem node?_add_self {parent : NodeId} {name content : Bytes} {node : Node}
    (file : node.kind = .file content) : (t.add parent name node).2.node? t.nodes.size =
      some node := by
  have pushed : (⟨t.nodes.push node⟩ : FileTree).node? t.nodes.size = some node := by simp [node?]
  by_cases same : t.nodes.size = parent
  · simp only [add, attach, ← same]
    rw [node?_modify, pushed, Option.map_some, file]
  · simp only [add, attach]
    rw [node?_modify_of_ne _ _ same, pushed]

/-- Adding a node changes no other node but the directory. -/
theorem node?_add_of_ne {parent : NodeId} {name : Bytes} {node : Node} (apart : k ≠ t.nodes.size)
    (plain : t.isDirectory k = false) : (t.add parent name node).2.node? k = t.node? k := by
  have pushed : (⟨t.nodes.push node⟩ : FileTree).node? k = t.node? k := by
    simp [node?, Array.getElem?_push, apart]
  simp only [add, attach]
  by_cases same : k = parent
  · subst same
    rw [node?_modify, pushed]
    cases found : t.node? k with
    | none => rfl
    | some node =>
        simp only [isDirectory, directory?, kind?, found, Option.map_some] at plain
        rw [Option.map_some]
        split
        · next kind => simp [kind] at plain
        · rfl
  · rw [node?_modify_of_ne _ _ same, pushed]

end FileTree

/-- The file that a process makes. -/
def newFile (p : Process) (mode time : Nat) : Node :=
  { mode := p.masked mode, kind := .file [], modified := time }

/-- `Emptied t p path mode time n tree`: a process opens a path to write to file `n`, which it
empties or makes, and that changes the tree. -/
inductive Emptied (t : FileTree) (p : Process) (path : Bytes) (mode time : Nat) :
    NodeId → FileTree → Prop
  | found {n : NodeId} {content : Bytes} :
      t.locate p.cwd path true = .ok (.node n) → t.kind? n = some (.file content) →
      Emptied t p path mode time n (t.setContent n [] time)
  | made {parent : NodeId} {name : Bytes} :
      t.locate p.cwd path true = .ok (.vacant parent name) →
      Emptied t p path mode time t.nodes.size
        ((t.add parent name (newFile p mode time)).2.setContent t.nodes.size [] time)

namespace Emptied

variable {t tree : FileTree} {path : Bytes} {mode time : Nat} {n k : NodeId}

theorem kind?_eq (emptied : Emptied t p path mode time n tree) :
    tree.kind? n = some (.file []) := by
  cases emptied with
  | found _ kind =>
      obtain ⟨node, found, -⟩ := Option.map_eq_some_iff.1 kind
      simp [FileTree.kind?, FileTree.setContent, FileTree.node?_modify, found]
  | made _ =>
      rw [FileTree.kind?, FileTree.setContent, FileTree.node?_modify, FileTree.node?_add_self rfl]
      rfl

/-- A file that was there keeps its mode, and a new one gets the mode that was asked for. -/
theorem mode_eq (emptied : Emptied t p path mode time n tree) :
    (tree.node? n).map (·.mode) = some (((t.node? n).map (·.mode)).getD (p.masked mode)) := by
  cases emptied with
  | found _ kind =>
      obtain ⟨node, found, -⟩ := Option.map_eq_some_iff.1 kind
      simp [FileTree.setContent, FileTree.node?_modify, found]
  | made _ =>
      rw [FileTree.setContent, FileTree.node?_modify, FileTree.node?_add_self rfl]
      simp [FileTree.node?, newFile]

theorem node?_of_ne (emptied : Emptied t p path mode time n tree) (apart : k ≠ n)
    (plain : t.isDirectory k = false) : tree.node? k = t.node? k := by
  cases emptied with
  | found => exact FileTree.node?_modify_of_ne _ _ apart
  | made => rw [FileTree.setContent, FileTree.node?_modify_of_ne _ _ apart,
      FileTree.node?_add_of_ne apart plain]

/-- What is emptied depends on where the process is and on the mode bits that it masks. -/
theorem congr {q : Process} (emptied : Emptied t p path mode time n tree) (cwd : p.cwd = q.cwd)
    (umask : p.umask = q.umask) : Emptied t q path mode time n tree := by
  have same : newFile p mode time = newFile q mode time := by
    rw [newFile, Process.masked, umask, ← Process.masked, newFile]
  cases emptied with
  | found located kind => exact .found (cwd ▸ located) kind
  | made located =>
      rw [same]
      exact .made (cwd ▸ located)

end Emptied

/-- A path leads to nothing that can be opened to write but regular files. -/
def OnlyFiles (t : FileTree) (cwd : NodeId) (path : Bytes) : Prop :=
  ∀ n, t.locate cwd path true = .ok (.node n) →
    t.isDirectory n = true ∨ ∃ content, t.kind? n = some (.file content)

/-- The machine with another tree and one more description. -/
def describing (m : Machine) (tree : FileTree) (o : Opening) : Machine :=
  { m with tree, openings := m.openings.push o }

/-- A regular file that is opened to write is emptied. -/
theorem openNode_writing {n : NodeId} {content : Bytes} (mode : Nat)
    (kind : m.tree.kind? n = some (.file content)) :
    let base := m.describing (m.tree.setContent n [] m.stamp)
      { channel := .node n, writable := true }
    m.openNode p n (.writing mode) =
      (some (.ok (base.grant p.pid m.openings.size).1), (base.grant p.pid m.openings.size).2) := by
  simp only [openNode, kind, OpenMode.writing, if_true]
  rfl

/-- What is opened to write is a file, and it is empty then. -/
theorem openFile_writing {path : Bytes} (mode : Nat) (present : m.process? pid = some p)
    (settled : p.pendingOpen = none) (regular : OnlyFiles m.tree p.cwd path) :
    (∃ e, m.openFile pid path (.writing mode) = (some (.error e), m)) ∨
      ∃ n tree, Emptied m.tree p path mode m.stamp n tree ∧
        let base := m.describing tree { channel := .node n, writable := true }
        m.openFile pid path (.writing mode) =
          (some (.ok (base.grant pid m.openings.size).1), (base.grant pid m.openings.size).2) := by
  obtain rfl := pid_of_process? present
  simp only [openFile, present, settled]
  cases located : m.tree.locate p.cwd path true with
  | error e =>
      refine .inl ⟨e, ?_⟩
      simp [nodeFor, OpenMode.writing, located, bind, Except.bind]
  | ok place =>
      cases place with
      | node n =>
          have found : m.nodeFor p path (.writing mode) = .ok (n, false, m) := by
            simp [nodeFor, OpenMode.writing, located, bind, Except.bind, pure, Except.pure]
          simp only [found]
          cases refused : m.refusal? n (.writing mode) with
          | some e => exact .inl ⟨e, rfl⟩
          | none =>
              rcases regular n located with directory | ⟨content, kind⟩
              · simp [refusal?, OpenMode.writing, directory] at refused
              · exact .inr ⟨n, _, .found located kind, openNode_writing mode kind⟩
      | vacant parent name =>
          cases allowed : m.tree.isOpenToChange parent with
          | false =>
              refine .inl ⟨.accessDenied, ?_⟩
              simp [nodeFor, OpenMode.writing, located, bind, Except.bind, allowed]
          | true =>
              have made : m.nodeFor p path (.writing mode) = .ok (m.tree.nodes.size, true,
                  { m with tree := (m.tree.add parent name (newFile p mode m.stamp)).2 }) := by
                simp [nodeFor, OpenMode.writing, located, bind, Except.bind, allowed, pure,
                  Except.pure]
                exact ⟨rfl, rfl⟩
              have kind : (m.tree.add parent name (newFile p mode m.stamp)).2.kind?
                  m.tree.nodes.size = some (.file []) := by
                rw [FileTree.kind?, FileTree.node?_add_self rfl]
                rfl
              refine .inr ⟨m.tree.nodes.size, _, .made located, ?_⟩
              simp only [made, if_true]
              exact openNode_writing mode kind

/-- A description that was granted for a path is moved to the descriptor that asked for it. -/
theorem openOver_granted {base : Machine} {path : Bytes} {mode : OpenMode} {k : Nat} (target : Nat)
    (plain : path.contains 0 = false)
    (opened : m.openFile pid path mode =
      (some (.ok (base.grant pid k).1), (base.grant pid k).2)) :
    m.openOver pid target path mode = (some (.ok ()), base.seat pid target k) := by
  rw [openOver, plain, if_neg Bool.false_ne_true, opened]
  rfl

theorem openOver_writing {path : Bytes} (target mode : Nat) (present : m.process? pid = some p)
    (settled : p.pendingOpen = none) (regular : OnlyFiles m.tree p.cwd path) :
    (∃ e, m.openOver pid target path (.writing mode) = (some (.error e), m)) ∨
      ∃ n after q, Emptied m.tree p path mode m.stamp n after.tree ∧
        m.openOver pid target path (.writing mode) = (some (.ok ()), after) ∧
        after.process? pid = some q ∧ p.Reopens target m.openings.size q ∧
        after.opening? m.openings.size = some { channel := .node n, writable := true } := by
  cases plain : path.contains 0 with
  | true => exact .inl ⟨.nulInFileName, by rw [openOver, plain, if_pos rfl]⟩
  | false =>
      rcases openFile_writing mode present settled regular with
        ⟨e, failed⟩ | ⟨n, tree, emptied, opened⟩
      · refine .inl ⟨.os e, ?_⟩
        rw [openOver, plain, if_neg Bool.false_ne_true, failed]
      · have there : (m.describing tree { channel := .node n, writable := true }).process? pid =
            some p := present
        obtain ⟨same, openings, q, process, reopens⟩ := seat_spec there target m.openings.size
        refine .inr ⟨n, _, q, ?_, openOver_granted target plain opened, process, reopens, ?_⟩
        · rw [same]
          exact emptied
        · rw [opening?, openings]
          exact Array.getElem?_push_size

/-! ## Opening a file to read -/

/-- The tree and the descriptions of a machine are still there. -/
structure KeepsFiles (m after : Machine) : Prop where
  tree : after.tree = m.tree
  openings : ∀ i o, m.opening? i = some o → after.opening? i = some o

theorem KeepsFiles.refl (m : Machine) : m.KeepsFiles m := ⟨rfl, fun _ _ => id⟩

theorem KeepsFiles.trans {last : Machine} (keeps : m.KeepsFiles after)
    (more : after.KeepsFiles last) : m.KeepsFiles last :=
  ⟨more.tree.trans keeps.tree, fun i o found => more.openings i o (keeps.openings i o found)⟩

theorem KeepsFiles.update (m : Machine) (pid : Pid) (f : Process → Process) :
    m.KeepsFiles (m.update pid f) :=
  ⟨rfl, fun _ _ => id⟩

theorem KeepsFiles.describe (m : Machine) (o : Opening) : m.KeepsFiles (m.describe o).2 where
  tree := rfl
  openings i o' found := by
    obtain ⟨within, same⟩ := Array.getElem?_eq_some_iff.1 found
    rw [opening?, Machine.describe, Array.getElem?_push_lt within, same]

/-- What a description of an open node refers to. -/
def channelOf (t : FileTree) (n : NodeId) : Channel :=
  match t.kind? n with
  | some (.fifo number) => .pipe number
  | some (.device .terminal) => .terminal
  | _ => .node n

/-- An open file stays what it is; only the place in it moves. -/
def KeepsOpenings (m after : Machine) : Prop :=
  ∀ i o, m.opening? i = some o → ∃ offset, after.opening? i = some { o with offset }

/-- `m.Reads cwd path k`: description `k` is open to read what a path leads to. -/
def Reads (m : Machine) (cwd : NodeId) (path : Bytes) (k : Nat) : Prop :=
  ∃ n offset, m.tree.resolve cwd path = .ok n ∧
    m.opening? k = some { channel := channelOf m.tree n, readable := true, offset }

theorem Reads.moved {cwd : NodeId} {path : Bytes} {k : Nat} (reads : m.Reads cwd path k)
    (tree : after.tree = m.tree) (openings : m.KeepsOpenings after) : after.Reads cwd path k := by
  obtain ⟨n, offset, leads, opening⟩ := reads
  obtain ⟨offset, opening⟩ := openings k _ opening
  exact ⟨n, offset, tree ▸ leads, tree ▸ opening⟩

theorem KeepsFiles.keepsOpenings (keeps : m.KeepsFiles after) : m.KeepsOpenings after :=
  fun i o found => ⟨o.offset, keeps.openings i o found⟩

theorem KeepsFiles.reads {cwd : NodeId} {path : Bytes} {k : Nat} (keeps : m.KeepsFiles after)
    (reads : m.Reads cwd path k) : after.Reads cwd path k :=
  reads.moved keeps.tree keeps.keepsOpenings

theorem opening?_describe (m : Machine) (o : Opening) :
    (m.describe o).2.opening? m.openings.size = some o :=
  Array.getElem?_push_size

/-- `Opens m p path reply after`: the ways in which a path is opened to read. The process may have
to wait for the other end of a pipe, and goes on opening it later. -/
inductive Opens (m : Machine) (p : Process) (path : Bytes) :
    Option (Except Errno Nat) → Machine → Prop
  | refused (e : Errno) : Opens m p path (some (.error e)) m
  | waiting : p.pendingOpen.isSome → Opens m p path none m
  | waits {after : Machine} {w : PendingOpen} :
      m.KeepsFiles after → after.process? p.pid = some { p with pendingOpen := some w } →
      after.Reads p.cwd path w.opening → Opens m p path none after
  | granted {base : Machine} (k : Nat) :
      m.KeepsFiles base → base.process? p.pid = some { p with pendingOpen := none } →
      base.Reads p.cwd path k →
      Opens m p path (some (.ok (base.grant p.pid k).1)) (base.grant p.pid k).2

section Opens

variable {path : Bytes} {n : NodeId}

theorem reads_describe (leads : m.tree.resolve p.cwd path = .ok n) {channel : Channel}
    (refers : channelOf m.tree n = channel) :
    (m.describe { channel, readable := true }).2.Reads p.cwd path m.openings.size := by
  subst refers
  exact ⟨n, 0, leads, opening?_describe m _⟩

theorem opens_grantNew (present : m.process? p.pid = some p) (settled : p.pendingOpen = none)
    (leads : m.tree.resolve p.cwd path = .ok n) {channel : Channel}
    (refers : channelOf m.tree n = channel) :
    let o : Opening := { channel, readable := true }
    Opens m p path (some (.ok (m.grantNew p.pid o).1)) (m.grantNew p.pid o).2 := by
  intro o
  have same : { p with pendingOpen := none } = p := by rw [← settled]
  have there : (m.describe o).2.process? p.pid = some { p with pendingOpen := none } := by
    rw [same]
    exact present
  exact .granted m.openings.size (.describe m o) there (reads_describe leads refers)

theorem opens_openPipe (present : m.process? p.pid = some p) (settled : p.pendingOpen = none)
    (leads : m.tree.resolve p.cwd path = .ok n) {number : Nat}
    (refers : channelOf m.tree n = .pipe number) :
    Opens m p path ((m.openPipe p.pid number .reading).1.map .ok)
      (m.openPipe p.pid number .reading).2 := by
  have same : { p with pendingOpen := none } = p := by rw [← settled]
  simp only [openPipe, OpenMode.reading, Bool.and_false, Bool.false_or, if_true]
  generalize piped : updatePipe (m.describe _).2 number _ = base
  have keeps : m.KeepsFiles base := piped ▸ ⟨rfl, (KeepsFiles.describe m _).openings⟩
  have present : base.process? p.pid = some p := piped ▸ present
  have reads : base.Reads p.cwd path m.openings.size := by
    subst piped
    exact (reads_describe leads refers).moved rfl fun i o found => ⟨o.offset, found⟩
  cases base.hasSink number with
  | true => exact .granted m.openings.size keeps (same.symm ▸ present) reads
  | false => exact .waits ⟨keeps.tree, keeps.openings⟩ (update_process? _ present rfl) reads

theorem opens_openNode (present : m.process? p.pid = some p) (settled : p.pendingOpen = none)
    (leads : m.tree.resolve p.cwd path = .ok n) :
    Opens m p path (m.openNode p n .reading).1 (m.openNode p n .reading).2 := by
  unfold openNode
  simp only
  split
  · next kind => exact opens_grantNew present settled leads (by simp [channelOf, kind])
  · next kind => exact opens_openPipe present settled leads (by simp [channelOf, kind])
  · next kind =>
      split
      · exact opens_grantNew present settled leads (by simp [channelOf, kind])
      · exact .refused _
  · next noFile noPipe noTerminal =>
      refine opens_grantNew present settled leads ?_
      unfold channelOf
      split
      · next kind => exact absurd kind (noPipe _)
      · next kind => exact absurd kind noTerminal
      · rfl

theorem resumeOpen_eq {w : PendingOpen} {granted : Nat × Machine}
    (resumed : m.resumeOpen pid w = some granted) :
    granted = (m.update pid fun p => { p with pendingOpen := none }).grant pid w.opening := by
  unfold resumeOpen at resumed
  obtain ⟨o, -, resumed⟩ := Option.bind_eq_some_iff.1 resumed
  split at resumed
  · simp only [Option.ite_none_left_eq_some, Option.some.injEq] at resumed
    exact resumed.2.symm
  · cases resumed

/-- Nothing is made for a file that is opened to read. -/
theorem nodeFor_reading {fresh : Bool} (found : m.nodeFor p path .reading = .ok (n, fresh, after)) :
    m.tree.resolve p.cwd path = .ok n ∧ fresh = false ∧ after = m := by
  simp only [nodeFor, OpenMode.reading, Option.isSome_none] at found
  rw [FileTree.resolve]
  cases located : m.tree.locate p.cwd path with
  | error e => simp [located, bind, Except.bind] at found
  | ok place =>
      cases place with
      | node n =>
          simp only [located, bind, Except.bind, pure, Except.pure, Bool.false_eq_true, if_false,
            Except.ok.injEq, Prod.mk.injEq] at found
          exact ⟨congrArg Except.ok found.1, found.2.1.symm, found.2.2.symm⟩
      | vacant parent name => simp [located, bind, Except.bind] at found

theorem opens_openFile (present : m.process? p.pid = some p)
    (pending : ∀ w, p.pendingOpen = some w → m.Reads p.cwd path w.opening) :
    Opens m p path (m.openFile p.pid path .reading).1 (m.openFile p.pid path .reading).2 := by
  unfold openFile
  simp only [present]
  cases settled : p.pendingOpen with
  | some w =>
      simp only
      cases resumed : m.resumeOpen p.pid w with
      | none => exact .waiting (by rw [settled, Option.isSome_some])
      | some granted =>
          rw [resumeOpen_eq resumed]
          exact .granted w.opening ⟨rfl, fun _ _ => id⟩ (update_process? _ present rfl)
            (pending w settled)
  | none =>
      simp only
      cases found : m.nodeFor p path .reading with
      | error e => exact .refused e
      | ok node =>
          obtain ⟨n, fresh, after⟩ := node
          obtain ⟨leads, rfl, rfl⟩ := nodeFor_reading found
          simp only [Bool.false_eq_true, if_false]
          cases refused : after.refusal? n .reading with
          | some e => exact .refused e
          | none => exact opens_openNode present settled leads

/-- A path is opened to read over a descriptor, or is not, or not yet; the tree stays as it is. -/
theorem openOver_reading (target : Nat) (present : m.process? p.pid = some p)
    (pending : ∀ w, p.pendingOpen = some w → m.Reads p.cwd path w.opening) :
    (∃ e, m.openOver p.pid target path .reading = (some (.error e), m)) ∨
      (∃ after, m.openOver p.pid target path .reading = (none, after) ∧ m.KeepsFiles after ∧
        (after = m ∨ ∃ w, after.process? p.pid = some { p with pendingOpen := some w } ∧
          after.Reads p.cwd path w.opening)) ∨
      ∃ after q k, m.openOver p.pid target path .reading = (some (.ok ()), after) ∧
        m.KeepsFiles after ∧ after.process? p.pid = some q ∧
        Process.Reopens { p with pendingOpen := none } target k q ∧ after.Reads p.cwd path k := by
  cases plain : path.contains 0 with
  | true => exact .inl ⟨.nulInFileName, by rw [openOver, plain, if_pos rfl]⟩
  | false =>
      have opens := opens_openFile present pending
      cases opened : m.openFile p.pid path .reading with
      | mk reply after =>
          rw [opened] at opens
          cases opens with
          | refused e =>
              exact .inl ⟨.os e, by rw [openOver, plain, if_neg Bool.false_ne_true, opened]⟩
          | waiting =>
              refine .inr (.inl ⟨_, ?_, .refl _, .inl rfl⟩)
              rw [openOver, plain, if_neg Bool.false_ne_true, opened]
          | waits keeps process reads =>
              refine .inr (.inl ⟨after, ?_, keeps, .inr ⟨_, process, reads⟩⟩)
              rw [openOver, plain, if_neg Bool.false_ne_true, opened]
          | @granted base k keeps process reads =>
              obtain ⟨same, openings, q, seated, reopens⟩ := seat_spec process target k
              have moves : base.KeepsFiles (base.seat p.pid target k) := by
                refine ⟨same, fun i o found => ?_⟩
                rw [opening?, openings]
                exact found
              exact .inr (.inr ⟨_, q, k, openOver_granted target plain opened, keeps.trans moves,
                seated, reopens, moves.reads reads⟩)

end Opens

/-! ## What leaves the files alone -/

theorem tree_keepPending (m : Machine) (p : Process) (s : Signal) :
    (m.keepPending p s).tree = m.tree := by
  unfold keepPending
  split <;> rfl

theorem tree_notifyParent (m : Machine) (p : Process) : (m.notifyParent p).tree = m.tree := by
  unfold notifyParent
  repeat' split
  all_goals first | rfl | exact tree_keepPending ..

theorem tree_finish (m : Machine) (pid : Pid) (status : WaitStatus) :
    (m.finish pid status).tree = m.tree := by
  unfold finish
  split
  · rfl
  · split
    · rfl
    · simp only
      split
      · rfl
      · exact tree_notifyParent ..

theorem tree_act (m : Machine) (p : Process) (s : Signal) : (m.act p s).tree = m.tree := by
  have stopped : (m.stop p s).tree = m.tree := by
    unfold stop
    split
    · rfl
    · exact tree_notifyParent ..
  unfold act
  repeat' split
  all_goals first | rfl | exact stopped | exact tree_finish ..

theorem tree_deliverPending (pid : Pid) (fuel : Nat) (m : Machine) :
    (deliverPending pid fuel m).tree = m.tree := by
  induction fuel generalizing m with
  | zero => rfl
  | succ fuel ih =>
      unfold deliverPending
      repeat' split
      · rfl
      · rfl
      · rfl
      · exact (ih _).trans (tree_act ..)

theorem tree_resume (m : Machine) (p : Process) : (m.resume p).tree = m.tree := by
  unfold resume
  split
  · exact (tree_deliverPending ..).trans (tree_notifyParent ..)
  · rfl

theorem tree_post (m : Machine) (pid : Pid) (s : Signal) : (m.post pid s).tree = m.tree := by
  unfold post
  split
  · rfl
  · next p _ =>
      split
      · rfl
      · have first : (if s = Signal.cont then
            (m.update pid fun p => { p with signals := p.signals.cancel s }).resume p
            else m.update pid fun p => { p with signals := p.signals.cancel s }).tree = m.tree := by
          split
          · exact tree_resume ..
          · rfl
        simp only
        generalize (if s = Signal.cont then _ else _ : Machine) = told at first ⊢
        repeat' split
        all_goals first
          | exact first
          | exact (tree_keepPending ..).trans first
          | exact (tree_act ..).trans first

/-- Writing changes no file but the one that is written to. -/
theorem node?_write_of_ne {fd : Nat} {n : NodeId}
    (elsewhere : ∀ k o, m.described? pid fd = some (k, o) → o.channel ≠ .node n) (bs : Bytes) :
    (m.write pid fd bs).2.tree.node? n = m.tree.node? n := by
  unfold write
  split
  · rfl
  · next number o described =>
      split
      · rfl
      · split
        · next other channel =>
            have apart : n ≠ other := by
              rintro rfl
              exact elsewhere number o described channel
            split
            · exact FileTree.node?_modify_of_ne _ _ apart
            · rfl
            · rfl
        · split
          · exact congrArg (·.node? n) (tree_post ..)
          · split <;> rfl
        · rfl
        · rfl
        · rfl

/-! ## Writing -/

/-- `m.Holds k n bs`: description `k` stands at the end of file `n`, which holds `bs`. -/
structure Holds (m : Machine) (k : Nat) (n : NodeId) (bs : Bytes) : Prop where
  opening : m.opening? k = some { channel := .node n, offset := bs.length, writable := true }
  content : m.tree.kind? n = some (.file bs)

/-- Whoever writes through the description, and under whichever descriptor: what is written comes
behind what is there. -/
theorem Holds.write {k fd : Nat} {n : NodeId} {bs : Bytes} {o : Opening} (holds : m.Holds k n bs)
    (described : m.described? pid fd = some (k, o)) (more : Bytes) :
    ∃ after, m.write pid fd more = (some (.ok ()), after) ∧ after.Holds k n (bs ++ more) ∧
      after.processes = m.processes := by
  have same : o = { channel := .node n, offset := bs.length, writable := true } := by
    simp only [described?, Option.bind_eq_bind, Option.bind_eq_some_iff] at described
    obtain ⟨p, -, number, -, opening, found, rest⟩ := described
    cases rest
    exact Option.some.inj (found.symm.trans holds.opening)
  subst same
  refine ⟨{ m with tree := m.tree.setContent n (overwrite bs bs.length more) m.stamp }.updateOpening
    k fun o => { o with offset := bs.length + more.length }, ?_, ⟨?_, ?_⟩, rfl⟩
  · simp [Machine.write, described, holds.content]
  · have found := holds.opening
    rw [opening?] at found
    simp [opening?, updateOpening, Array.getElem?_modify, found]
  · obtain ⟨node, found, -⟩ := Option.map_eq_some_iff.1 holds.content
    rw [overwrite_append]
    simp [FileTree.kind?, updateOpening, FileTree.setContent, FileTree.node?_modify, found]

end JobShell.Machine
