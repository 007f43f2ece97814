import JobShell.Machine.Utility.FileMode
import JobShell.Machine.Utility.Report

/-!
# Utilities that make and remove files

`touch`, `mkdir`, `rmdir`, `rm`, `ln`, `link`, `unlink`, `mkfifo` and `chmod`, and those that work
on names: `basename`, `dirname`, `readlink` and `realpath`.

Results:
1. The examples at the end: parts of names.
-/

namespace JobShell.Machine.Files

open Program Report

/-- The mode of a file that a utility makes. -/
def newMode : Nat := 0o666

def newDirectoryMode : Nat := 0o777

/-- The name of a kind of file. -/
def kindName (facts : FileFacts) : String :=
  match facts.kind with
  | .regular => if facts.size = 0 then "regular empty file" else "regular file"
  | .directory => "directory"
  | .link => "symbolic link"
  | .fifo => "fifo"
  | .device => "character special file"

/-- Do something with each operand and end; at least one operand is needed. -/
def forOperands (c : Caller) (operands : List Bytes) (act : Bytes → Program Bool)
    (missing : String := "missing operand") : Program Nat := do
  if operands.isEmpty then c.refuseText missing
  else return if ← onEach act operands then 0 else c.failure

/-- Write a line about what was done, if that is wanted. -/
def tell (c : Caller) (wanted : Bool) (line : Bytes) : Program Unit := do
  if wanted then discard <| c.emit (line ++ [Bytes.newline])

/-- Make a change and report its failure. -/
def attemptChange (c : Caller) (what : String) (shown : Bytes) (t : TreeChange) : Program Bool :=
  attempt c what shown (call (.change t))

/-! ## Names -/

/-- A path without the slashes at its end; one of nothing but slashes is a slash. -/
def trimmed (path : Bytes) : Bytes :=
  let front := (path.reverse.dropWhile (· = Bytes.slash)).reverse
  if front.isEmpty then path.take 1 else front

/-- The last part of a path. -/
def lastPart (path : Bytes) : Bytes :=
  let path := trimmed path
  if path = [Bytes.slash] then path
  else (path.reverse.takeWhile (· ≠ Bytes.slash)).reverse

/-- Everything in front of the last part of a path. -/
def frontPart (path : Bytes) : Bytes :=
  let path := trimmed path
  let last := lastPart path
  if path = [Bytes.slash] then path
  else
    let front := path.take (path.length - last.length)
    if front.isEmpty then FileTree.dot else trimmed front

/-- A name without an ending, unless it is all there is. -/
def withoutEnding (ending name : Bytes) : Bytes :=
  if name ≠ ending && ending.isSuffixOf name then name.take (name.length - ending.length) else name

/-- The path of a name in a directory. -/
def within (directory name : Bytes) : Bytes :=
  if directory.getLast? = some Bytes.slash then directory ++ name
  else directory ++ Bytes.slash :: name

def basename (c : Caller) (arguments : List Bytes) : Program Nat :=
  c.withArguments {
      plain := "az", valued := "s"
      words := [("multiple", 'a'), ("suffix", 's'), ("zero", 'z')], ordered := true } arguments
    fun a =>
      let ending : Bytes := if a.has 'z' then [0] else [Bytes.newline]
      match a.operands with
      | [] => c.refuseText "missing operand"
      | name :: rest =>
          if a.has 'a' || a.has 's' then
            let suffix := (a.value? 's').getD []
            c.finish (a.operands.flatMap fun n => withoutEnding suffix (lastPart n) ++ ending)
          else c.withOperands 1 rest
            (c.finish (withoutEnding (rest.headD []) (lastPart name) ++ ending))

def dirname (c : Caller) (arguments : List Bytes) : Program Nat :=
  c.withArguments { plain := "z", words := [("zero", 'z')] } arguments fun a =>
    let ending : Bytes := if a.has 'z' then [0] else [Bytes.newline]
    if a.operands.isEmpty then c.refuseText "missing operand"
    else c.finish (a.operands.flatMap fun n => frontPart n ++ ending)

/-! ## Canonical paths -/

/-- Which parts of a path must be there. -/
inductive Presence
  | all
  | allButLast
  | none
deriving DecidableEq, Repr

/-- Follow the parts of a path from a directory without links, links included; `fuel` bounds the
steps. -/
def follow (p : Presence) : (fuel : Nat) → (at_ : Bytes) → List Bytes →
    Program (Except Errno Bytes)
  | 0, _, _ => return .error .tooManyLinks
  | _ + 1, at_, [] => return .ok at_
  | fuel + 1, at_, part :: rest => do
      if part.isEmpty || part = FileTree.dot then follow p fuel at_ rest
      else if part = FileTree.dotDot then follow p fuel (frontPart at_) rest
      else
        let path := within at_ part
        match ← call (.readLink path) with
        | .ok target =>
            let start := if target.head? = some Bytes.slash then [Bytes.slash] else at_
            follow p fuel start (Bytes.splitOn Bytes.slash target ++ rest)
        | .error .invalid => follow p fuel path rest
        | .error e =>
            let isLast := rest.all fun r => r.isEmpty || r = FileTree.dot
            if e = .noEntry && (p = .none || (p = .allButLast && isLast)) then
              follow p fuel path rest
            else return .error e

/-- A path from the root without links. -/
def canonical (p : Presence) (path : Bytes) : Program (Except Errno Bytes) := do
  if path.isEmpty then return .error .noEntry
  else
    let parts := Bytes.splitOn Bytes.slash path
    if path.head? = some Bytes.slash then follow p 1000 [Bytes.slash] parts
    else match ← call .workingDirectory with
      | .ok directory => follow p 1000 directory parts
      | .error e => return .error e

def presence (a : Arguments) : Presence :=
  if a.has 'e' then .all else if a.has 'm' then .none else .allButLast

def readlink (c : Caller) (arguments : List Bytes) : Program Nat :=
  c.withArguments {
      plain := "femnqsvz"
      words := [("canonicalize", 'f'), ("canonicalize-existing", 'e'),
        ("canonicalize-missing", 'm'), ("no-newline", 'n'), ("verbose", 'v'), ("zero", 'z')] }
    arguments fun a =>
      let ending : Bytes := if a.has 'z' then [0]
        else if a.has 'n' && a.operands.length = 1 then [] else [Bytes.newline]
      forOperands c a.operands fun path => do
        let found ← if a.has 'f' || a.has 'e' || a.has 'm' then canonical (presence a) path
          else call (.readLink path)
        match found with
        | .ok target => c.emit (target ++ ending)
        | .error e => if a.has 'v' then c.fail "" (Quoting.named path) e else return false

def realpath (c : Caller) (arguments : List Bytes) : Program Nat :=
  c.withArguments {
      plain := "emqsz"
      words := [("canonicalize-existing", 'e'), ("canonicalize-missing", 'm'), ("quiet", 'q'),
        ("zero", 'z')] } arguments fun a =>
    let ending : Bytes := if a.has 'z' then [0] else [Bytes.newline]
    forOperands c a.operands fun path => do
      match ← canonical (presence a) path with
      | .ok target => c.emit (target ++ ending)
      | .error e => if a.has 'q' then return false else c.fail "" (Quoting.named path) e

/-! ## Making files -/

def touch (c : Caller) (arguments : List Bytes) : Program Nat :=
  c.withArguments {
      plain := "acmfh", valued := "rtd"
      words := [("no-create", 'c'), ("date", 'd'), ("reference", 'r'), ("no-dereference", 'h')] }
    arguments fun a =>
      let mark (file : Bytes) (first : Errno) : Program Bool := do
        match ← call (.change (.touch file)) with
        | .ok () => return true
        | .error e =>
            if first = .isDirectory then c.fail "setting times of " (Quoting.shell file) e
            else c.fail "cannot touch " (Quoting.shell file) first
      forOperands c a.operands (fun file => do
        match ← call (.examine file true) with
        | .ok _ => mark file .accessDenied
        | .error e =>
            if a.has 'c' && e = .noEntry then return true
            else match ← call (.openFile file { writable := true, create := some newMode }) with
              | .ok fd =>
                  call (.close fd)
                  return true
              | .error e => mark file e) "missing file operand"

/-- The leading parts of a path, the path itself last. -/
def leads (path : Bytes) : List Bytes :=
  ((List.range path.length).filterMap fun i =>
    if 0 < i && path[i]? = some Bytes.slash && path[i - 1]? ≠ some Bytes.slash &&
      !(path.drop i).all (· = Bytes.slash) then some (path.take i) else none) ++ [path]

/-- The mode that an option gives, or the usual one without the bits of the mask. -/
def chosenMode (c : Caller) (usual : Nat) (value : Option Bytes) (isDirectory : Bool)
    (go : Nat → Bool → Program Nat) : Program Nat :=
  match value with
  | none => go usual false
  | some text => do
      match FileMode.change? (← call .umask) usual isDirectory text with
      | some mode => go mode true
      | none => c.abort (Bytes.ofText "invalid mode " ++ Quoting.plain text)

/-- Make a file and give it its mode, whatever the mask is. -/
def makeWith (c : Caller) (what : String) (path : Bytes) (exact : Bool) (mode : Nat)
    (t : TreeChange) : Program Bool := do
  match ← call (.change t) with
  | .error e => c.fail what (Quoting.plain path) e
  | .ok () =>
      if exact then discard <| call (.change (.setMode path mode))
      return true

def mkdir (c : Caller) (arguments : List Bytes) : Program Nat :=
  c.withArguments {
      plain := "pv", valued := "m"
      words := [("parents", 'p'), ("mode", 'm'), ("verbose", 'v')] } arguments fun a =>
    chosenMode c newDirectoryMode (a.value? 'm') true fun mode exact =>
      let make (exact : Bool) (path : Bytes) : Program Bool := do
        let good ← makeWith c "cannot create directory " path exact mode
          (.makeDirectory path (if exact then mode else newDirectoryMode))
        tell c (good && a.has 'v')
          (c.name ++ Bytes.ofText ": created directory " ++ Quoting.shell path)
        return good
      let rec ensure : List Bytes → Program Bool
        | [] => return true
        | path :: rest => do
            let present ← call (.examine path true)
            let good ← match present with
              | .ok facts =>
                  if facts.kind = .directory then pure true
                  else if rest.isEmpty then make false path
                  else c.fail "cannot create directory " (Quoting.plain path) .notDirectory
              | .error _ => make (exact && rest.isEmpty) path
            if good then ensure rest else return false
      forOperands c a.operands fun path =>
        if a.has 'p' then ensure (leads path) else make exact path

def mkfifo (c : Caller) (arguments : List Bytes) : Program Nat :=
  c.withArguments { valued := "m", words := [("mode", 'm')] } arguments fun a =>
    chosenMode c newMode (a.value? 'm') false fun mode exact =>
      forOperands c a.operands fun path =>
        makeWith c "cannot create fifo " path exact mode (.makePipe path mode)

/-- Whether a path leads to a directory. -/
def isDirectory (path : Bytes) : Program Bool := do
  match ← call (.examine path true) with
  | .ok facts => return facts.kind = .directory
  | .error _ => return false

/-- The targets that operands name for their sources: the last operand, or names within it. -/
def pairs (c : Caller) (a : Arguments) (plain : Bool)
    (go : List (Bytes × Bytes) → Program Nat) : Program Nat := do
  let into (directory : Bytes) (sources : List Bytes) : List (Bytes × Bytes) :=
    sources.map fun s => (s, within directory (lastPart s))
  match a.value? 't', a.operands.reverse with
  | _, [] => c.refuseText "missing file operand"
  | some directory, _ =>
      match ← call (.examine directory true) with
      | .ok facts =>
          if facts.kind = .directory then go (into directory a.operands)
          else do
            discard <| c.fail "target directory " (Quoting.shell directory) .notDirectory
            return c.failure
      | .error e => do
          discard <| c.fail "target directory " (Quoting.shell directory) e
          return c.failure
  | none, [one] =>
      c.refuse (Bytes.ofText "missing destination file operand after " ++ Quoting.shell one)
  | none, target :: sources =>
      let sources := sources.reverse
      if plain && 1 < sources.length then
        c.refuse (Bytes.ofText "extra operand " ++ Quoting.shell target)
      else if !plain && (← isDirectory target) then go (into target sources)
      else match sources with
        | [source] => go [(source, target)]
        | _ => do
            let e := match ← call (.examine target true) with
              | .ok _ => Errno.notDirectory
              | .error e => e
            discard <| c.fail "target " (Quoting.shell target) e
            return c.failure

def ln (c : Caller) (arguments : List Bytes) : Program Nat :=
  c.withArguments {
      plain := "sfnvTLPi", valued := "tS"
      words := [("symbolic", 's'), ("force", 'f'), ("no-dereference", 'n'), ("verbose", 'v'),
        ("no-target-directory", 'T'), ("target-directory", 't'), ("logical", 'L'),
        ("physical", 'P')] } arguments fun a => do
    let symbolic := a.has 's'
    let make (pair : Bytes × Bytes) : Program Bool := do
      let (source, target) := pair
      let known ← call (.examine source (a.has 'L'))
      match symbolic, known with
      | false, .error e => c.fail "failed to access " (Quoting.shell source) e
      | _, known =>
          if !symbolic && (known.toOption.map (·.kind)) = some .directory then
            c.say (Quoting.named source ++ Bytes.ofText ": hard link not allowed for directory")
            return false
          else
            let t : TreeChange := if symbolic then .makeLink source target else .link source target
            let first ← call (.change t)
            let last ← match first with
              | .error .alreadyExists =>
                  match a.last? "fi" with
                  | none => pure first
                  | some how =>
                      let agreed ← if how = 'f' then pure true
                        else confirm c (Bytes.ofText "replace " ++ Quoting.shell target)
                      if !agreed then return false
                      discard <| call (.change (.removeFile target))
                      call (.change t)
              | other => pure other
            match last with
            | .ok () =>
                tell c (a.has 'v') (Quoting.shell target ++
                  Bytes.ofText (if symbolic then " -> " else " => ") ++ Quoting.shell source)
                return true
            | .error e =>
                let both := if symbolic then e = .nameTooLong || source.isEmpty
                  else e ≠ .alreadyExists && e ≠ .noSpace
                let shown := Quoting.shell target ++
                  (if both then Bytes.ofText (if symbolic then " -> " else " => ") ++
                    Quoting.shell source else [])
                c.fail (if symbolic then "failed to create symbolic link "
                  else "failed to create hard link ") shown e
    let run (all : List (Bytes × Bytes)) : Program Nat := do
      return if ← onEach make all then 0 else c.failure
    let target := (a.operands.getLast?).getD []
    let targetIsLink := (← call (.examine target false)).toOption.map (·.kind) = some .link
    match a.operands with
    | [one] =>
        if (a.value? 't').isNone then run [(one, within FileTree.dot (lastPart one))]
        else pairs c a false run
    | [source, target] =>
        if a.has 'n' && targetIsLink && (a.value? 't').isNone then run [(source, target)]
        else pairs c a (a.has 'T') run
    | _ => pairs c a (a.has 'T') run

def link (c : Caller) (arguments : List Bytes) : Program Nat :=
  c.withArguments {} arguments fun a => do
    match a.operands with
    | [] => c.refuseText "missing operand"
    | [one] => c.refuse (Bytes.ofText "missing operand after " ++ Quoting.plain one)
    | source :: target :: extra =>
        c.withOperands 0 extra do
          let good ← attemptChange c "cannot create link "
            (Quoting.shell target ++ Bytes.ofText " to " ++ Quoting.shell source)
            (.link source target)
          return if good then 0 else c.failure

/-! ## Removing files -/

def unlink (c : Caller) (arguments : List Bytes) : Program Nat :=
  c.withArguments {} arguments fun a => do
    match a.operands with
    | [] => c.refuseText "missing operand"
    | path :: extra =>
        c.withOperands 0 extra do
          let good ← attemptChange c "cannot unlink " (Quoting.shell path) (.removeFile path)
          return if good then 0 else c.failure

def rmdir (c : Caller) (arguments : List Bytes) : Program Nat :=
  c.withArguments {
      plain := "pvι"
      words := [("parents", 'p'), ("verbose", 'v'), ("ignore-fail-on-non-empty", 'ι')] } arguments
    fun a =>
      let remove (path : Bytes) : Program Bool := do
        tell c (a.has 'v') (c.name ++ Bytes.ofText ": removing directory, " ++ Quoting.shell path)
        match ← call (.change (.removeDirectory path)) with
        | .ok () => return true
        | .error e =>
            if a.has 'ι' && e = .notEmpty then return true
            else c.fail "failed to remove " (Quoting.shell path) e
      let rec removeUp : List Bytes → Program Bool
        | [] => return true
        | path :: rest => do if ← remove path then removeUp rest else return false
      forOperands c a.operands fun path =>
        if a.has 'p' then removeUp (leads path).reverse else remove path

/-- How far `rm` goes. -/
structure Removal where
  recursive : Bool
  force : Bool
  directories : Bool
  /-- Whether it asks before each file. -/
  asking : Bool
  verbose : Bool
deriving DecidableEq, Repr

/-- Remove a file, or a directory with everything in it; `depth` bounds the nesting. -/
def removeAll (c : Caller) (r : Removal) : (depth : Nat) → Bytes → Program Bool
  | 0, _ => return false
  | depth + 1, path => do
      let shown := Quoting.shell path
      match ← call (.examine path false) with
      | .error e =>
          if r.force && (e = .noEntry || e = .notDirectory) then return true
          else c.fail "cannot remove " shown e
      | .ok facts =>
          let agreed (what : String) : Program Bool :=
            if r.asking then confirm c (Bytes.ofText what ++ shown) else pure true
          if facts.kind ≠ .directory then
            if !(← agreed ("remove " ++ kindName facts ++ " ")) then return true
            let good ← attemptChange c "cannot remove " shown (.removeFile path)
            tell c (good && r.verbose) (Bytes.ofText "removed " ++ shown)
            return good
          else if !r.recursive && !r.directories then c.fail "cannot remove " shown .isDirectory
          else
            let emptied ← if !r.recursive then pure true
              else match ← call (.entries path) with
                | .error e => c.fail "cannot remove " shown e
                | .ok [] => pure true
                | .ok names =>
                    if !(← agreed "descend into directory ") then return true
                    onEach (removeAll c r depth) (names.map (within path))
            if !emptied then return false
            if !(← agreed "remove directory ") then return true
            let good ← attemptChange c "cannot remove " shown (.removeDirectory path)
            tell c (good && r.verbose) (Bytes.ofText "removed directory " ++ shown)
            return good

/-- How deep directories are nested at most. -/
def greatestDepth : Nat := 256

def rm (c : Caller) (arguments : List Bytes) : Program Nat :=
  c.withArguments {
      plain := "rRfidvI"
      words := [("recursive", 'r'), ("force", 'f'), ("dir", 'd'), ("verbose", 'v'),
        ("interactive", 'i')] } arguments
    fun a =>
      if a.last? "fi" = some 'f' && a.operands.isEmpty then return 0
      else
        let r : Removal := {
          recursive := a.has 'r' || a.has 'R', force := a.last? "fi" = some 'f'
          directories := a.has 'd', asking := a.last? "fi" = some 'i', verbose := a.has 'v' }
        forOperands c a.operands fun path => do
          let last := lastPart path
          if r.recursive && (last = FileTree.dot || last = FileTree.dotDot) then
            c.say (Bytes.ofText "refusing to remove '.' or '..' directory: skipping " ++
              Quoting.shell path)
            return false
          else removeAll c r greatestDepth path

/-! ## Changing modes -/

/-- Whether an argument is a change of a mode that starts with a hyphen. -/
def isModeChange (argument : Bytes) : Bool :=
  match argument with
  | 45 :: b :: _ => (Bytes.ofText "rwxXstugo").contains b
  | _ => false

/-- Change the mode of a file, and of everything in it if that is asked for; `depth` bounds the
nesting. -/
def setModes (c : Caller) (recursive : Bool) (text : Bytes) (umask : Nat) :
    (depth : Nat) → Bytes → Program Bool
  | 0, _ => return false
  | depth + 1, path => do
      match ← call (.examine path true) with
      | .error e => c.fail "cannot access " (Quoting.shell path) e
      | .ok facts =>
          let changed := FileMode.change? umask facts.mode (facts.kind = .directory) text
          let mode := changed.getD facts.mode
          let good ← attemptChange c "changing permissions of " (Quoting.shell path)
            (.setMode path mode)
          if recursive && facts.kind = .directory then
            match ← call (.entries path) with
            | .error e => c.fail "cannot read directory " (Quoting.shell path) e
            | .ok names =>
                let others ←
                  onEach (setModes c recursive text umask depth) (names.map (within path))
                return good && others
          else return good

def chmod (c : Caller) (arguments : List Bytes) : Program Nat :=
  let arguments := match arguments.findIdx? isModeChange with
    | some i => if (arguments.take i).any (!·.head? = some Arguments.hyphen) then arguments
        else arguments.take i ++ Bytes.ofText "--" :: arguments.drop i
    | none => arguments
  c.withArguments { plain := "Rcfv", words := [("recursive", 'R'), ("verbose", 'v')] } arguments
    fun a => do
      match a.operands with
      | [] => c.refuseText "missing operand"
      | [one] => c.refuse (Bytes.ofText "missing operand after " ++ Quoting.plain one)
      | text :: paths =>
          let umask ← call .umask
          if (FileMode.change? umask 0 false text).isNone then
            c.refuse (Bytes.ofText "invalid mode: " ++ Quoting.plain text)
          else
            let good ← onEach (setModes c (a.has 'R') text umask greatestDepth) paths
            return if good then 0 else c.failure

/-! ## Examples -/

example : lastPart (Bytes.ofText "/x/y.c/") = Bytes.ofText "y.c" := by decide +kernel
example : frontPart (Bytes.ofText "/x//y") = Bytes.ofText "/x" := by decide +kernel
example : frontPart (Bytes.ofText "y") = Bytes.ofText "." := by decide +kernel
example : leads (Bytes.ofText "a/b/c") = ["a", "a/b", "a/b/c"].map Bytes.ofText := by
  decide +kernel

end JobShell.Machine.Files
