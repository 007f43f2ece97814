import JobShell.Machine.Utility.Files

/-!
# Copying and moving files

The utilities `cp` and `mv`.
-/

namespace JobShell.Machine.Transfer

open Program Report Files

/-- What happens to files that are there already: they are replaced, they stay as they are, or
there is a question about each. -/
inductive Present
  | replaced
  | spared
  | asked
deriving DecidableEq, Repr

/-- What options say about files that are there: the last of them counts. -/
def Present.ofLetter? : Option Char → Present
  | some 'n' => .spared
  | some 'i' => .asked
  | _ => .replaced

/-- Whether a file that is there may be replaced; the error is the result if it may not. -/
def Present.allows (c : Caller) (target : Bytes) : Present → Program (Except Bool Unit)
  | .replaced => return .ok ()
  | .spared => return .error true
  | .asked => do
      if ← confirm c (Bytes.ofText "overwrite " ++ Quoting.shell target) then return .ok ()
      else return .error false

/-- How files are copied. -/
structure Copying where
  recursive : Bool
  /-- Whether links are copied rather than what they lead to. -/
  keepLinks : Bool
  keepModes : Bool
  force : Bool
  /-- What happens to files that are there. -/
  present : Present
  verbose : Bool
deriving DecidableEq, Repr

/-- Whether two paths lead to the same file. -/
def isSame (a b : Except Errno FileFacts) : Bool :=
  match a, b with
  | .ok a, .ok b => a.node = b.node
  | _, _ => false

def arrow (source target : Bytes) : Bytes :=
  Quoting.shell source ++ Bytes.ofText " -> " ++ Quoting.shell target

/-- Copy what can be read from a source into a target that is open. -/
def copyOpen (c : Caller) (source target : Bytes) (input output : Nat) : Program Bool :=
  iterate (fun (_ : Unit) => do
    match ← call (.read input blockSize) with
    | .error e => return .inr (← c.fail "error reading " (Quoting.shell source) e)
    | .ok [] => return .inr true
    | .ok part =>
        match ← call (.write output part) with
        | .ok () => return .inl ()
        | .error e => return .inr (← c.fail "error writing " (Quoting.shell target) e))
    false patience ()

/-- Open a target that may be there; one that cannot be written is made anew if that is asked
for. -/
def openTarget (k : Copying) (target : Bytes) (present : Bool) (mode : Nat) :
    Program (Except Errno Nat) := do
  let fresh : OpenMode := { writable := true, exclusive := true, create := some mode }
  if !present then call (.openFile target fresh)
  else match ← call (.openFile target { writable := true, truncate := true }) with
    | .ok fd => return .ok fd
    | .error e =>
        if k.force then
          discard <| call (.change (.removeFile target))
          call (.openFile target fresh)
        else return .error e

/-- Copy the content of a file. -/
def copyContent (c : Caller) (k : Copying) (source target : Bytes) (facts : FileFacts)
    (present : Bool) : Program Bool := do
  match ← call (.openFile source .reading) with
  | .error e =>
      discard <| c.fail "cannot open " (Quoting.shell source ++ Bytes.ofText " for reading") e
      return false
  | .ok input =>
      let opened ← openTarget k target present (facts.mode % 0o1000)
      let good ← match opened with
        | .error e => c.fail "cannot create regular file " (Quoting.shell target) e
        | .ok output => do
            let good ← copyOpen c source target input output
            call (.close output)
            if k.keepModes then discard <| call (.change (.setMode target facts.mode))
            pure good
      call (.close input)
      return good

/-- Copy a file, or a directory with everything in it; `depth` bounds the nesting. -/
def copy (c : Caller) (k : Copying) : (depth : Nat) → (source target : Bytes) → Program Bool
  | 0, _, _ => return false
  | depth + 1, source, target => do
      let known ← call (.examine source !k.keepLinks)
      let old ← call (.examine target true)
      match known with
      | .error e => c.fail "cannot stat " (Quoting.shell source) e
      | .ok facts =>
          let oldIsDirectory := (old.toOption.map (·.kind)) = some .directory
          if facts.kind = .directory && !k.recursive then
            c.say (Bytes.ofText "-r not specified; omitting directory " ++ Quoting.shell source)
            return false
          else if isSame known old then
            c.say (Quoting.shell source ++ Bytes.ofText " and " ++ Quoting.shell target ++
              Bytes.ofText " are the same file")
            return false
          let allowed ← if old.toOption.isSome && !oldIsDirectory && facts.kind ≠ .directory then
              k.present.allows c target
            else pure (.ok ())
          if let .error answer := allowed then return answer
          match facts.kind with
            | .directory =>
                if old.toOption.isSome && !oldIsDirectory then
                  c.say (Bytes.ofText "cannot overwrite non-directory " ++ Quoting.shell target ++
                    Bytes.ofText " with directory " ++ Quoting.shell source)
                  return false
                let names ← call (.entries source)
                let ready ←
                  if oldIsDirectory then pure true
                  else
                    attemptChange c "cannot create directory " (Quoting.shell target)
                      (.makeDirectory target (facts.mode ||| 0o700))
                if !ready then return false
                tell c (k.verbose && !oldIsDirectory) (arrow source target)
                match names with
                | .error e => c.fail "cannot access " (Quoting.shell source) e
                | .ok names =>
                    let good ← onEach (fun name =>
                      copy c k depth (within source name) (within target name)) names
                    if !oldIsDirectory && k.keepModes then
                      discard <| call (.change (.setMode target facts.mode))
                    return good
            | kind =>
                if oldIsDirectory then
                  c.say (Bytes.ofText "cannot overwrite directory " ++ Quoting.shell target ++
                    Bytes.ofText " with non-directory")
                  return false
                tell c k.verbose (arrow source target)
                match kind with
                | .link =>
                    if old.toOption.isSome then discard <| call (.change (.removeFile target))
                    match ← call (.readLink source) with
                    | .error e => c.fail "cannot read symbolic link " (Quoting.shell source) e
                    | .ok text =>
                        attemptChange c "cannot create symbolic link " (Quoting.shell target)
                          (.makeLink text target)
                | .fifo =>
                    if k.recursive then
                      attemptChange c "cannot create fifo " (Quoting.shell target)
                        (.makePipe target facts.mode)
                    else copyContent c k source target facts old.toOption.isSome
                | _ => copyContent c k source target facts old.toOption.isSome

def cpOptions : OptionTable where
  plain := "rRaPpdfinTvLHxu"
  valued := "tS"
  words := [("recursive", 'r'), ("archive", 'a'), ("force", 'f'), ("no-clobber", 'n'),
    ("no-target-directory", 'T'), ("target-directory", 't'), ("verbose", 'v'),
    ("dereference", 'L'), ("no-dereference", 'P'), ("interactive", 'i'), ("update", 'u')]

def cp (c : Caller) (arguments : List Bytes) : Program Nat :=
  c.withArguments cpOptions arguments fun a =>
    let recursive := a.has 'r' || a.has 'R' || a.has 'a'
    let k : Copying := {
      recursive, keepLinks := (recursive || a.has 'P' || a.has 'd') && !a.has 'L'
      keepModes := a.has 'a' || a.has 'p', force := a.has 'f'
      present := Present.ofLetter? (a.last? "ni")
      verbose := a.has 'v' }
    pairs c a (a.has 'T') fun all => do
      return if ← onEach (fun (source, target) => copy c k greatestDepth source target) all then 0
        else c.failure

/-- Move a file to another name. -/
def move (c : Caller) (present : Present) (verbose : Bool) (source target : Bytes) :
    Program Bool := do
  let known ← call (.examine source false)
  let old ← call (.examine target false)
  match known with
  | .error e => c.fail "cannot stat " (Quoting.shell source) e
  | .ok facts =>
      let oldIsDirectory := (old.toOption.map (·.kind)) = some .directory
      if isSame known old then
        c.say (Quoting.shell source ++ Bytes.ofText " and " ++ Quoting.shell target ++
          Bytes.ofText " are the same file")
        return false
      let allowed ← if old.toOption.isSome then present.allows c target else pure (.ok ())
      if let .error answer := allowed then return answer
      if facts.kind ≠ .directory && oldIsDirectory then
        c.say (Bytes.ofText "cannot overwrite directory " ++ Quoting.shell target ++
          Bytes.ofText " with non-directory")
        return false
      else if facts.kind = .directory && old.toOption.isSome && !oldIsDirectory then
        c.say (Bytes.ofText "cannot overwrite non-directory " ++ Quoting.shell target ++
          Bytes.ofText " with directory " ++ Quoting.shell source)
        return false
      else match ← call (.change (.rename source target)) with
        | .ok () =>
            tell c verbose (Bytes.ofText "renamed " ++ arrow source target)
            return true
        | .error .invalid =>
            c.say (Bytes.ofText "cannot move " ++ Quoting.shell source ++
              Bytes.ofText " to a subdirectory of itself, " ++ Quoting.shell target)
            return false
        | .error e =>
            c.fail "cannot move "
              (Quoting.shell source ++ Bytes.ofText " to " ++ Quoting.shell target) e

def mv (c : Caller) (arguments : List Bytes) : Program Nat :=
  c.withArguments {
      plain := "finTvu", valued := "tS"
      words := [("force", 'f'), ("no-clobber", 'n'), ("no-target-directory", 'T'),
        ("target-directory", 't'), ("verbose", 'v'), ("interactive", 'i'), ("update", 'u')] }
    arguments fun a =>
      pairs c a (a.has 'T') fun all => do
        let present := Present.ofLetter? (a.last? "fni")
        return if ← onEach (fun (source, target) => move c present (a.has 'v') source target) all
          then 0 else c.failure

end JobShell.Machine.Transfer
