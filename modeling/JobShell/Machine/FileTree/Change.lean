import JobShell.Machine.FileTree.Look

/-!
# Changing the file tree

The changes that a program can ask for, each with the reasons for which it is refused.
-/

namespace JobShell.Machine

/-- A change of the file tree. -/
inductive TreeChange
  | makeDirectory (path : Bytes) (mode : Nat)
  | removeDirectory (path : Bytes)
  | removeFile (path : Bytes)
  | rename (source target : Bytes)
  /-- Give a file a second name. -/
  | link (source target : Bytes)
  | makeLink (target path : Bytes)
  | makePipe (path : Bytes) (mode : Nat)
  | setMode (path : Bytes) (mode : Nat)
  /-- Mark a file as changed now. -/
  | touch (path : Bytes)
deriving DecidableEq, Repr

namespace FileTree

/-- Whether names may be put into a directory and taken out of it. -/
def isOpenToChange (t : FileTree) (n : NodeId) : Bool := t.allows n .write && t.allows n .execute

/-- A place for a new file: the name is free, and the directory takes it. -/
def vacancy (t : FileTree) (cwd : NodeId) (path : Bytes) (directory : Bool) :
    Except Errno Slot := do
  let s ← t.slot cwd path
  if s.isFixed || (s.child? t).isSome then throw .alreadyExists
  if !t.isLinked s.directory || (s.slashed && !directory) then throw .noEntry
  if !t.isOpenToChange s.directory then throw .accessDenied
  return s

def removeDirectory (t : FileTree) (cwd : NodeId) (path : Bytes) : Except Errno FileTree := do
  let s ← t.slot cwd path
  if s.name.isEmpty then throw .busy
  if s.name = dot then throw .invalid
  if s.name = dotDot then throw .notEmpty
  match s.child? t with
  | none => throw .noEntry
  | some n =>
      if !t.isOpenToChange s.directory then throw .accessDenied
      match t.directory? n with
      | none => throw .notDirectory
      | some (_, []) => return t.detach s.directory s.name
      | some _ => throw .notEmpty

def removeFile (t : FileTree) (cwd : NodeId) (path : Bytes) : Except Errno FileTree := do
  let s ← t.slot cwd path
  if s.isFixed then throw .isDirectory
  match s.child? t with
  | none => throw .noEntry
  | some n =>
      if s.slashed then throw (if t.isDirectory n then .isDirectory else .notDirectory)
      if !t.isOpenToChange s.directory then throw .accessDenied
      if t.isDirectory n then throw .isDirectory
      return t.detach s.directory s.name

/-- Whether a directory lies at or below another one; `fuel` bounds the depth. -/
def isBelow (t : FileTree) (upper : NodeId) : (fuel : Nat) → NodeId → Bool
  | 0, _ => false
  | fuel + 1, n =>
      n = upper || (n ≠ root && match t.directory? n with
        | some (parent, _) => t.isBelow upper fuel parent
        | none => false)

/-- Tell a directory that it now lies in another one. -/
def adopt (t : FileTree) (parent n : NodeId) : FileTree :=
  t.modify n fun node =>
    match node.kind with
    | .directory _ entries => { node with kind := .directory parent entries }
    | _ => node

/-- Why a node cannot take the place of another one. -/
def replacement (t : FileTree) (n old : NodeId) : Except Errno Unit :=
  match t.isDirectory n, t.directory? old with
  | false, some _ => .error .isDirectory
  | true, none => .error .notDirectory
  | true, some (_, _ :: _) => .error .notEmpty
  | _, _ => .ok ()

def rename (t : FileTree) (cwd : NodeId) (source target : Bytes) : Except Errno FileTree := do
  let a ← t.slot cwd source
  let b ← t.slot cwd target
  if a.isFixed || b.isFixed then throw .busy
  match a.child? t with
  | none => throw .noEntry
  | some n =>
      if !t.isDirectory n && (a.slashed || b.slashed) then throw .notDirectory
      if t.isDirectory n && t.isBelow n t.nodes.size b.directory then throw .invalid
      if b.child? t = some n then return t
      if !t.isLinked b.directory then throw .noEntry
      if !t.isOpenToChange a.directory || !t.isOpenToChange b.directory then throw .accessDenied
      match b.child? t with
      | some old => t.replacement n old
      | none => pure ()
      let cleared := (t.detach a.directory a.name).detach b.directory b.name
      return (cleared.attach b.directory b.name n).adopt b.directory n

def link (t : FileTree) (cwd : NodeId) (source target : Bytes) : Except Errno FileTree := do
  let facts ← t.examine cwd source false
  let s ← t.vacancy cwd target false
  if facts.kind = .directory then throw .notPermitted
  return t.attach s.directory s.name facts.node

/-- Put a new node at a free path. -/
def create (t : FileTree) (cwd : NodeId) (path : Bytes) (node : Node) : Except Errno FileTree := do
  let s ← t.vacancy cwd path false
  return (t.add s.directory s.name node).2

def makeDirectory (t : FileTree) (cwd : NodeId) (path : Bytes) (mode : Nat) :
    Except Errno FileTree := do
  let s ← t.vacancy cwd path true
  return (t.addDirectory s.directory s.name mode).2

/-- Make a change at some time; a new named pipe gets the given number. -/
def apply (t : FileTree) (cwd : NodeId) (time pipe : Nat) : TreeChange → Except Errno FileTree
  | .makeDirectory path mode => t.makeDirectory cwd path mode
  | .removeDirectory path => t.removeDirectory cwd path
  | .removeFile path => t.removeFile cwd path
  | .rename source target => t.rename cwd source target
  | .link source target => t.link cwd source target
  | .makeLink target path =>
      if target.isEmpty then .error .noEntry
      else t.create cwd path { mode := 0o777, kind := .link target, modified := time }
  | .makePipe path mode => t.create cwd path { mode, kind := .fifo pipe, modified := time }
  | .setMode path mode => do
      let n ← t.resolve cwd path
      return t.modify n fun node => { node with mode }
  | .touch path => do
      let n ← t.resolve cwd path
      return t.modify n fun node => { node with modified := time }

end FileTree

end JobShell.Machine
