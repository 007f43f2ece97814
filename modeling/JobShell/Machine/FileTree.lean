import JobShell.Errno
import JobShell.Bytes
import JobShell.Machine.Utility

/-!
# The file tree

Nodes are numbered; a directory maps names to nodes and knows its parent. Paths are walked one
component at a time, symbolic links included, and the walk says either which node it ends at or
that nothing is there yet under a name in some directory. Everybody works as the owner of all
files, so the owner's bits of a mode decide what is allowed.
-/

namespace JobShell.Machine

/-- The number of a node in a tree. -/
abbrev NodeId := Nat

/-- The devices that hold no data of their own. -/
inductive Device
  | null
  | zero
  | full
  | terminal
deriving DecidableEq, Repr

inductive NodeKind
  | directory (parent : NodeId) (entries : List (Bytes × NodeId))
  | file (content : Bytes)
  | link (target : Bytes)
  /-- A named pipe, with the number of the pipe behind it. -/
  | fifo (pipe : Nat)
  | device (d : Device)
  | utility (u : Utility)
  /-- The file in which a process reads about itself. -/
  | processStatus
deriving DecidableEq, Repr

structure Node where
  mode : Nat
  kind : NodeKind
  /-- When it was last changed. -/
  modified : Nat := 0
deriving DecidableEq, Repr

/-- What may be done with a node. -/
inductive Access
  | read
  | write
  | execute
deriving DecidableEq, Repr

namespace Node

/-- The bit of a mode that allows its owner an access. -/
def bit : Access → Nat
  | .read => 0o400
  | .write => 0o200
  | .execute => 0o100

def allows (n : Node) (a : Access) : Bool := n.mode / bit a % 2 = 1

end Node

structure FileTree where
  nodes : Array Node
deriving Repr

/-- Where a path leads. -/
inductive Place
  | node (n : NodeId)
  /-- Nothing is there, but the directory exists. -/
  | vacant (parent : NodeId) (name : Bytes)
deriving DecidableEq, Repr

namespace FileTree

/-- The root directory is node 0. -/
def root : NodeId := 0

/-- A tree with nothing but its root. -/
def bare : FileTree := ⟨#[{ mode := 0o755, kind := .directory root [] }]⟩

def node? (t : FileTree) (n : NodeId) : Option Node := t.nodes[n]?

def kind? (t : FileTree) (n : NodeId) : Option NodeKind := (t.node? n).map (·.kind)

def directory? (t : FileTree) (n : NodeId) : Option (NodeId × List (Bytes × NodeId)) :=
  match t.kind? n with
  | some (.directory parent entries) => some (parent, entries)
  | _ => none

def isDirectory (t : FileTree) (n : NodeId) : Bool := (t.directory? n).isSome

def link? (t : FileTree) (n : NodeId) : Option Bytes :=
  match t.kind? n with
  | some (.link target) => some target
  | _ => none

def content? (t : FileTree) (n : NodeId) : Option Bytes :=
  match t.kind? n with
  | some (.file content) => some content
  | _ => none

/-- Whether a node is there and allows an access. -/
def allows (t : FileTree) (n : NodeId) (a : Access) : Bool :=
  ((t.node? n).map (·.allows a)).getD false

/-- Whether a directory still has a name somewhere. -/
def isLinked (t : FileTree) (n : NodeId) : Bool :=
  n = root || match t.directory? n with
    | some (parent, _) =>
        match t.directory? parent with
        | some (_, siblings) => siblings.any (·.2 = n)
        | none => false
    | none => false

def modify (t : FileTree) (n : NodeId) (f : Node → Node) : FileTree := ⟨t.nodes.modify n f⟩

/-- Give a file a content at some time. -/
def setContent (t : FileTree) (n : NodeId) (content : Bytes) (time : Nat) : FileTree :=
  t.modify n fun node => { node with kind := .file content, modified := time }

/-- Give a node a name in a directory. -/
def attach (t : FileTree) (parent : NodeId) (name : Bytes) (n : NodeId) : FileTree :=
  t.modify parent fun dir =>
    match dir.kind with
    | .directory up entries => { dir with kind := .directory up (entries ++ [(name, n)]) }
    | _ => dir

/-- Put a new node under a name into a directory. -/
def add (t : FileTree) (parent : NodeId) (name : Bytes) (node : Node) : NodeId × FileTree :=
  (t.nodes.size, attach ⟨t.nodes.push node⟩ parent name t.nodes.size)

def addDirectory (t : FileTree) (parent : NodeId) (name : Bytes) (mode : Nat := 0o755) :
    NodeId × FileTree :=
  t.add parent name { mode, kind := .directory parent [] }

/-- Take a name out of a directory. -/
def detach (t : FileTree) (parent : NodeId) (name : Bytes) : FileTree :=
  t.modify parent fun dir =>
    match dir.kind with
    | .directory up entries =>
        { dir with kind := .directory up (entries.filter (·.1 ≠ name)) }
    | _ => dir

/-! ## Paths -/

/-- The longest name of a directory entry. -/
def greatestName : Nat := 255

/-- Paths are shorter than this. -/
def pathLimit : Nat := 4096

/-- How many symbolic links a walk may follow. -/
def linkLimit : Nat := 40

def isAbsolute (path : Bytes) : Bool := path.head? = some Bytes.slash

def dot : Bytes := [46]
def dotDot : Bytes := [46, 46]

/-- The names in a path. A final slash asks for a directory; an empty name stands for it. -/
def components (path : Bytes) : List Bytes :=
  let names := (Bytes.splitOn Bytes.slash path).filter (!·.isEmpty)
  if path.getLast? = some Bytes.slash && !names.isEmpty then names ++ [[]] else names

/-- Walk from a directory along names up to the first symbolic link; `follow` walks on behind it.
Whoever is about to create a file is turned away by a final slash, whatever stands before it. -/
def walkAlong (t : FileTree) (creating : Bool)
    (follow : NodeId → List Bytes → Except Errno Place) :
    (here : NodeId) → List Bytes → Except Errno Place
  | here, [] => .ok (.node here)
  | here, name :: rest =>
      match t.directory? here with
      | none => .error .notDirectory
      | some (parent, entries) =>
          if name.isEmpty then t.walkAlong creating follow here rest
          else if !t.allows here .execute then .error .accessDenied
          else if name = dot then t.walkAlong creating follow here rest
          else if name = dotDot then t.walkAlong creating follow parent rest
          else if creating && rest = [[]] then .error .isDirectory
          else if greatestName < name.length then .error .nameTooLong
          else match entries.lookup name with
            | none =>
                if rest.isEmpty && t.isLinked here then .ok (.vacant here name)
                else .error .noEntry
            | some n =>
                match t.link? n with
                | none => t.walkAlong creating follow n rest
                | some target =>
                    follow (if isAbsolute target then root else here) (components target ++ rest)

/-- Walk from a directory along names, through so many symbolic links at most. -/
def walk (t : FileTree) (creating : Bool) :
    (links : Nat) → (here : NodeId) → List Bytes → Except Errno Place
  | 0 => t.walkAlong creating fun _ _ => .error .tooManyLinks
  | links + 1 => t.walkAlong creating (t.walk creating links)

/-- Walk a path from a directory. -/
def locate (t : FileTree) (cwd : NodeId) (path : Bytes) (creating : Bool := false) :
    Except Errno Place :=
  if path.isEmpty then .error .noEntry
  else if pathLimit ≤ path.length then .error .nameTooLong
  else t.walk creating linkLimit (if isAbsolute path then root else cwd) (components path)

/-- The node that a path leads to. -/
def resolve (t : FileTree) (cwd : NodeId) (path : Bytes) : Except Errno NodeId :=
  match t.locate cwd path with
  | .ok (.node n) => .ok n
  | .ok (.vacant ..) => .error .noEntry
  | .error e => .error e

/-- The directory that a path leads to. -/
def changeDirectory (t : FileTree) (cwd : NodeId) (path : Bytes) : Except IoError NodeId :=
  if path.contains 0 then .error .nulInPath
  else match t.resolve cwd path with
    | .ok n =>
        if !t.isDirectory n then .error (.os .notDirectory)
        else if !t.allows n .execute then .error (.os .accessDenied)
        else .ok n
    | .error e => .error (.os e)

/-- The path of a directory, found by climbing to the root; `fuel` bounds the depth. -/
def climb (t : FileTree) : (fuel : Nat) → NodeId → Bytes
  | 0, _ => []
  | fuel + 1, n =>
      if n = root then []
      else match t.directory? n with
        | none => []
        | some (parent, _) =>
            let name := match t.directory? parent with
              | some (_, siblings) => ((siblings.find? (·.2 = n)).map (·.1)).getD []
              | none => []
            t.climb fuel parent ++ Bytes.slash :: name

/-- The path of a directory; one that was removed has none. -/
def pathOf (t : FileTree) (n : NodeId) : Except Errno Bytes :=
  if !t.isLinked n then .error .noEntry
  else match t.climb t.nodes.size n with
    | [] => .ok [Bytes.slash]
    | path => .ok path

/-- A regular file as it is found in the end. -/
structure Found where
  path : Bytes
  mode : Nat
  content : Bytes
deriving DecidableEq, Repr

/-- The regular files below a directory with their paths relative to it; `fuel` bounds the depth.
A file that may not be read is an error. -/
def filesBelow (t : FileTree) : (fuel : Nat) → NodeId → Except Errno (List Found)
  | 0, _ => .ok []
  | fuel + 1, n =>
      match t.directory? n with
      | none => .ok []
      | some (_, entries) => do
          let found ← entries.mapM fun (name, child) =>
            match t.node? child with
            | some node =>
                match node.kind with
                | .file content =>
                    if node.allows .read then Except.ok [Found.mk name node.mode content]
                    else .error .accessDenied
                | .directory .. => do
                    let inside ← t.filesBelow fuel child
                    return inside.map fun f => { f with path := name ++ Bytes.slash :: f.path }
                | _ => .ok []
            | none => .ok []
          return found.flatten

/-- The regular files below a directory, in the order of their paths. -/
def inventory (t : FileTree) (n : NodeId) : Except Errno (List Found) :=
  (t.filesBelow t.nodes.size n).map fun files =>
    files.mergeSort fun a b => Bytes.le a.path b.path

/-! ## Building trees -/

/-- Make the directories of a path that are not there yet. -/
def makePath (t : FileTree) (here : NodeId) : List Bytes → NodeId × FileTree
  | [] => (here, t)
  | name :: rest =>
      match t.walk false linkLimit here [name] with
      | .ok (.node n) => t.makePath n rest
      | _ =>
          let (n, t) := t.addDirectory here name
          t.makePath n rest

/-- Put a node at a path whose directory exists; otherwise nothing happens. -/
def place (t : FileTree) (cwd : NodeId) (path : Bytes) (node : Node) : FileTree :=
  match t.locate cwd path with
  | .ok (.vacant parent name) => (t.add parent name node).2
  | .ok (.node n) => t.modify n fun _ => node
  | .error _ => t

end FileTree

end JobShell.Machine
