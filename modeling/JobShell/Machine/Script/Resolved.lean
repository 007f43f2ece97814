import JobShell.Machine.Script.Lookup
import JobShell.Machine.Script.Parser

/-!
# What simple commands are run as

The first word of a simple command tells what it is run as, once it has been expanded; some commands
put the name off to a later word.
-/

namespace JobShell.Machine

open Running Expansion

/-- What a simple command is to be run as. -/
structure Resolved where
  kind : CommandKind
  argv : List Bytes
  /-- Whether the command is special, if it is none of its own. -/
  special : Option Bool := none
  usualPath : Bool := false

namespace Resolved

/-- Expand words until one of them gives something. -/
def expandFirst (run : Substitute) : List Word → Running (List Bytes × List Word)
  | [] => return ([], [])
  | w :: rest => do
      let found ← words run w
      if found.isEmpty then expandFirst run rest else return (found, rest)

/-- Expand the words behind the name of a command. -/
def expandRest (run : Substitute) (assignments : Bool) (ws : List Word) : Running (List Bytes) := do
  let found ← ws.mapM fun w => do
    match if assignments then Word.assignment? w else none with
    | some (name, value) => return [name ++ 61 :: (← assigned run value)]
    | none => words run w
  return found.flatten

/-- Show a command before it is run. -/
def trace (run : Substitute) (fd : Nat) (given : List (Bytes × Bytes)) (argv : List Bytes) :
    Running Unit := do
  let s ← get
  if s.isOn 'x' then
    let front ← match Script.readLine { text := 34 :: s.lookup (Bytes.ofText "PS4") ++ [34] } with
      | .ok { script := some (.simple { words := [w], .. }), .. } => single run w
      | _ => pure (s.lookup (Bytes.ofText "PS4"))
    let shown := given.map (fun (name, value) => name ++ 61 :: value) ++ argv
    discard <| sys (.write fd
      (front ++ [Bytes.space].intercalate shown ++ [Bytes.newline]))

/-- The options in front of the name of a command that is to be no function: whether the usual
search path is meant; nothing if they ask for something else. -/
def plainOptions : List Bytes → (usual : Bool) → Option (Bool × List Bytes)
  | [], _ => none
  | word :: rest, usual =>
      match word with
      | [45] => some (usual, word :: rest)
      | [45, 45] => if rest.isEmpty then none else some (usual, rest)
      | 45 :: letters => if letters.all (· = 112) then plainOptions rest true else none
      | _ => some (usual, word :: rest)

/-- Find out what a simple command is to be run as, as far as its first words tell; `fuel` bounds
how often the name is put off. -/
def resolve (run : Substitute) : (fuel : Nat) → (found : List Bytes) → List Word → Resolved →
    Running Resolved
  | 0, found, _, r => return { r with argv := found }
  | fuel + 1, found, rest, r => do
      let kind ← commandKind (found.headD []) r.special.isNone
      match kind with
      | .builtin b =>
          let r := { r with special := some (r.special.getD b.isSpecial) }
          let others ← expandRest run b.takesAssignments rest
          if b ≠ .command then return { r with kind, argv := found ++ others }
          match plainOptions (found.tail ++ others) r.usualPath with
          | some (usualPath, argv) => resolve run fuel argv [] { r with usualPath }
          | none => return { r with kind, argv := found ++ others }
      | kind => return { r with kind, argv := found ++ (← expandRest run false rest) }

/-- The directories along which a command is looked for. -/
def pathFor (r : Resolved) : Running (List Bytes) :=
  if r.usualPath then return Bytes.splitOn 58 firstSearchPath else searchPath

/-- The path of a file whose commands are to be run. -/
def findSource (name : Bytes) : Running Bytes := do
  if name.contains Bytes.slash then return name
  else match ← findIn name (← searchPath) .noEntry with
    | .ok path => return path
    | .error _ => fail (name ++ Bytes.ofText ": not found")

end Resolved

end JobShell.Machine
