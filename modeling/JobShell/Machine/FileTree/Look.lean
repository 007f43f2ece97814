import JobShell.Machine.FileTree

/-!
# Looking at files

What can be learned about a file without opening it: its facts, the target of a link, the names in
a directory.
-/

namespace JobShell.Machine

/-- What kind of file a path leads to. -/
inductive FileKind
  | regular
  | directory
  | link
  | fifo
  | device
deriving DecidableEq, Repr

/-- What a program can learn about a file without opening it. -/
structure FileFacts where
  node : NodeId
  kind : FileKind
  mode : Nat
  size : Nat
  /-- The number of its names. -/
  names : Nat
  modified : Nat
deriving DecidableEq, Repr

namespace FileFacts

/-- Whether the facts allow their owner an access. -/
def allows (f : FileFacts) (a : Access) : Bool := f.mode / Node.bit a % 2 = 1

end FileFacts

namespace FileTree

/-- How many entries of directories lead to a node; a directory is also its own entry, and the one
above each of its subdirectories. -/
def nameCount (t : FileTree) (n : NodeId) : Nat :=
  let given (node : Node) : Nat :=
    match node.kind with
    | .directory _ entries => entries.countP (·.2 = n)
    | _ => 0
  let own := match t.directory? n with
    | some (_, entries) => 1 + entries.countP fun (_, child) => t.isDirectory child
    | none => 0
  t.nodes.foldl (fun total node => total + given node) own

/-- The size of every directory. -/
def directorySize : Nat := 4096

def factsOf (t : FileTree) (n : NodeId) (node : Node) : FileFacts :=
  let (kind, size) := match node.kind with
    | .directory .. => (FileKind.directory, directorySize)
    | .file content => (.regular, content.length)
    | .link target => (.link, target.length)
    | .fifo _ => (.fifo, 0)
    | .device _ => (.device, 0)
    | .utility _ => (.regular, 1)
    | .processStatus => (.regular, 0)
  { node := n, kind, mode := node.mode, size, names := t.nameCount n, modified := node.modified }

def facts (t : FileTree) (n : NodeId) : Except Errno FileFacts :=
  match t.node? n with
  | some node => .ok (t.factsOf n node)
  | none => .error .noEntry

/-- Where the last name of a path stands. The name is empty if the path has none. -/
structure Slot where
  directory : NodeId
  name : Bytes
  /-- Whether a slash follows the name. -/
  slashed : Bool
deriving DecidableEq, Repr

namespace Slot

/-- The node that the name stands for, a link itself included. -/
def child? (s : Slot) (t : FileTree) : Option NodeId :=
  (t.directory? s.directory).bind fun (_, entries) => entries.lookup s.name

/-- Whether the name is one that every directory has. -/
def isFixed (s : Slot) : Bool := s.name.isEmpty || s.name = dot || s.name = dotDot

end Slot

/-- Walk to the directory that holds the last name of a path. -/
def slot (t : FileTree) (cwd : NodeId) (path : Bytes) : Except Errno Slot := do
  if path.isEmpty then throw .noEntry
  if pathLimit ≤ path.length then throw .nameTooLong
  let names := (Bytes.splitOn Bytes.slash path).filter (!·.isEmpty)
  let start := if isAbsolute path then root else cwd
  match ← t.walk false linkLimit start names.dropLast with
  | .vacant .. => throw .noEntry
  | .node n =>
      if !t.isDirectory n then throw .notDirectory
      if !t.allows n .execute then throw .accessDenied
      let name := names.getLast?.getD []
      if greatestName < name.length then throw .nameTooLong
      return ⟨n, name, path.getLast? = some Bytes.slash⟩

/-- The facts of the file at a path, or of the link that stands there. -/
def examine (t : FileTree) (cwd : NodeId) (path : Bytes) (follow : Bool) :
    Except Errno FileFacts := do
  if follow then t.facts (← t.resolve cwd path)
  else
    let s ← t.slot cwd path
    if s.isFixed || s.slashed then t.facts (← t.resolve cwd path)
    else match s.child? t with
      | some n => t.facts n
      | none => throw .noEntry

/-- The names in a directory. -/
def entries (t : FileTree) (cwd : NodeId) (path : Bytes) : Except Errno (List Bytes) := do
  let n ← t.resolve cwd path
  match t.directory? n with
  | some (_, entries) =>
      if t.allows n .read then return entries.map (·.1) else throw .accessDenied
  | none => throw .notDirectory

/-- The target of the link at a path. -/
def readLink (t : FileTree) (cwd : NodeId) (path : Bytes) : Except Errno Bytes := do
  let s ← t.slot cwd path
  if s.isFixed then throw .invalid
  match s.child? t with
  | none => throw .noEntry
  | some n =>
      match t.link? n with
      | some target => if s.slashed then throw .invalid else return target
      | none => if s.slashed && !t.isDirectory n then throw .notDirectory else throw .invalid

end FileTree

end JobShell.Machine
