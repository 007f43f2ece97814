import JobShell.Machine.Script.State

/-!
# The working directory of a script

A script keeps the path by which it came to its directory: `..` takes off the last name of that
path, whatever links are in it, unless the physical directory is asked for.

Results:
1. The examples behind `reached`: names are added and taken off.
-/

namespace JobShell.Machine.Running

def currentName : Bytes := Bytes.ofText "PWD"
def formerName : Bytes := Bytes.ofText "OLDPWD"

/-- Walk one step from the names that lead to a directory, the last one first. -/
def walk (names : List Bytes) (step : Bytes) : List Bytes :=
  if step.isEmpty || step = FileTree.dot then names
  else if step = FileTree.dotDot then names.tail
  else step :: names

/-- The path that is reached from a directory. -/
def reached (directory path : Bytes) : Bytes :=
  let steps := Bytes.splitOn Bytes.slash
  let start := if path.head? = some Bytes.slash then [] else steps directory
  let names := (start ++ steps path).foldl walk []
  let root : Bytes := match path with
    | 47 :: 47 :: b :: _ => if b = 47 then [47] else [47, 47]
    | _ => [47]
  root ++ [Bytes.slash].intercalate names.reverse

/-- What is reached from a directory, as texts. -/
def reachedText (directory path : String) : Bytes :=
  reached (Bytes.ofText directory) (Bytes.ofText path)

example : reachedText "/a/b" "../c/." = Bytes.ofText "/a/c" := by decide
example : reachedText "/a" "../../.." = Bytes.ofText "/" := by decide

/-- Whether the physical directory is asked for: the last letter counts. -/
def isPhysical (letters : List (Char × Bytes)) : Bool :=
  (letters.getLast?.map (·.1)) = some 'P'

/-- The physical working directory; nothing if it cannot be told. -/
def physicalDirectory : Running Bytes := do
  match ← sys .workingDirectory with
  | .ok path => return path
  | .error e =>
      complainText ("getcwd() failed: " ++ e.text)
      return []

/-- Go to a directory; the reply tells whether that was possible. -/
def goTo (physical : Bool) (path : Bytes) : Running Bool := do
  let s ← get
  let logical := if physical || (s.directory.isEmpty && path.head? ≠ some Bytes.slash) then none
    else some (reached s.directory path)
  match ← sys (.changeDirectory (logical.getD path)) with
  | .error _ => return false
  | .ok () =>
      assign formerName s.directory true
      let directory ← match logical with
        | some path => pure path
        | none => physicalDirectory
      modify ({ · with directory })
      assign currentName directory true
      return true

/-- Whether a path is looked for along the search path for directories. -/
def isSearched (path : Bytes) : Bool :=
  let first := path.takeWhile (· ≠ Bytes.slash)
  path.head? ≠ some Bytes.slash && first ≠ FileTree.dot && first ≠ FileTree.dotDot

/-- The first directory along a search path in which there is one of a name, and whether it is
shown. -/
def findDirectory (path : Bytes) : List Bytes → Running (Option (Bytes × Bool))
  | [] => return none
  | place :: rest => do
      let full := Program.inDirectory place path
      match ← sys (.examine full true) with
      | .ok facts =>
          if facts.kind = .directory then return some (full, !place.isEmpty)
          else findDirectory path rest
      | .error _ => findDirectory path rest

def runCd (arguments : List Bytes) : Running Nat := do
  let (letters, operands) ← options { plain := "LP" } arguments
  let s ← get
  let (path, shown) := match operands with
    | [] => (s.lookup (Bytes.ofText "HOME"), false)
    | [45] :: _ => (s.lookup formerName, true)
    | path :: _ => (path, false)
  let target := if path.isEmpty then FileTree.dot else path
  let found ← if isSearched path then
      findDirectory target (Bytes.splitOn 58 (s.lookup (Bytes.ofText "CDPATH")))
    else pure none
  let (target, shown) := match found with
    | some (full, fromPath) => (full, shown || fromPath)
    | none => (path, shown)
  if ← goTo (isPhysical letters) target then
    if shown then write ((← get).directory ++ [Bytes.newline]) else return 0
  else fail (Bytes.ofText "can't cd to " ++ path)

def runPwd (arguments : List Bytes) : Running Nat := do
  let (letters, _) ← options { plain := "LP" } arguments
  let path ← if isPhysical letters then physicalDirectory else pure (← get).directory
  write (path ++ [Bytes.newline])

end JobShell.Machine.Running
