import JobShell.Machine.FileTree.Change
import JobShell.Machine.FileTree.Standard

/-!
# Furnishing the scratch directory
-/

namespace JobShell.Machine

/-- A file to be put into the scratch directory. -/
structure FileSpec where
  path : Bytes
  content : Bytes
  mode : Nat := 0o644
deriving DecidableEq, Repr

/-- What the scratch directory holds at the start. -/
structure Setup where
  directories : List Bytes := []
  files : List FileSpec := []
  /-- Symbolic links with their targets. -/
  links : List (Bytes × Bytes) := []
  fifos : List Bytes := []
deriving DecidableEq, Repr

namespace Setup

/-- The directories and the files. -/
def furnishFiles (s : Setup) (dir : NodeId) (t : FileTree) : FileTree :=
  let t := s.directories.foldl (fun t path => (t.makePath dir (FileTree.components path)).2) t
  s.files.foldl (fun t f => t.place dir f.path { mode := f.mode, kind := .file f.content }) t

/-- The links, each of which needs a free name. -/
def furnishLinks (s : Setup) (dir : NodeId) (t : FileTree) : Except Errno FileTree :=
  s.links.foldlM (fun t (path, target) => t.apply dir 0 0 (.makeLink target path)) t

/-- Put everything in place, in the order of the fields; links that cannot be made are left out.
The pipes of the FIFOs are numbered from 1; pipe 0 is standard input. -/
def furnish (s : Setup) (dir : NodeId) (t : FileTree) : FileTree :=
  let t := s.furnishFiles dir t
  let t := ((s.furnishLinks dir t).toOption).getD t
  (s.fifos.zipIdx 1).foldl
    (fun t (path, pipe) => t.place dir path { mode := 0o644, kind := .fifo pipe }) t

/-- Why a link cannot be made, if one cannot. -/
def linkFault? (s : Setup) : Option Errno :=
  let (dir, t) := FileTree.withScratch
  match s.furnishLinks dir (s.furnishFiles dir t) with
  | .ok _ => none
  | .error e => some e

/-- The scratch directory and the tree around it, furnished. -/
def tree (s : Setup) : NodeId × FileTree :=
  let (dir, t) := FileTree.withScratch
  (dir, s.furnish dir t)

end Setup

end JobShell.Machine
