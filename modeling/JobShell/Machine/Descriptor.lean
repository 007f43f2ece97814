import JobShell.Machine.Delivery

/-!
# Open files

Opening, reading and writing. Opening one end of a named pipe waits until the other end is opened;
reading waits for an empty pipe with a writer and for an empty terminal, and writing waits for a
full pipe with a reader.

Results:
1. `Machine.overwrite_append`: writing at the end of a file appends.
-/

namespace JobShell.Machine

/-- A content with a text written over it from an offset on. -/
def overwrite (content : Bytes) (offset : Nat) (bs : Bytes) : Bytes :=
  content.take offset ++ List.replicate (offset - content.length) 0 ++ bs ++
    content.drop (offset + bs.length)

theorem overwrite_append (content bs : Bytes) :
    overwrite content content.length bs = content ++ bs := by
  simp [overwrite]

/-- The line of a mask in the file in which a process reads about itself: bit `s - 1` stands for
signal `s`. -/
def maskLine (label : String) (signals : List Signal) : String :=
  let bits := (signals.map fun s => 1 <<< (s - 1).toNat).foldl Nat.add 0
  let digits := String.ofList (Nat.toDigits 16 bits)
  label ++ ":\t" ++ "".pushn '0' (16 - digits.length) ++ digits ++ "\n"

/-- A file mode mask in four octal digits. -/
def umaskText (mask : Nat) : String :=
  let digits := String.ofList (Nat.toDigits 8 mask)
  "".pushn '0' (4 - digits.length) ++ digits

/-- What a process reads about itself. -/
def statusText (p : Process) : Bytes :=
  Bytes.ofText "Name:\t" ++ p.name ++
  Bytes.ofText ("\nUmask:\t" ++ umaskText p.umask ++ "\nState:\tR (running)\nTgid:\t" ++
    toString p.pid ++ "\nPid:\t" ++ toString p.pid ++ "\nPPid:\t" ++ toString p.parent ++ "\n" ++
    maskLine "SigPnd" [] ++ maskLine "ShdPnd" p.signals.pending ++
    maskLine "SigBlk" p.signals.mask ++ maskLine "SigIgn" p.ignored ++
    maskLine "SigCgt" p.caught)

/-! ## Opening -/

/-- The node behind a path, made if it is missing and may be made, and whether it was made. -/
def nodeFor (m : Machine) (p : Process) (path : Bytes) (mode : OpenMode) :
    Except Errno (NodeId × Bool × Machine) := do
  match ← m.tree.locate p.cwd path mode.create.isSome with
  | .node n => if mode.exclusive then .error .alreadyExists else return (n, false, m)
  | .vacant parent name =>
      match mode.create with
      | none => .error .noEntry
      | some bits =>
          if !m.tree.isOpenToChange parent then .error .accessDenied
          else
            let (n, tree) := m.tree.add parent name
              { mode := p.masked bits, kind := .file [], modified := m.stamp }
            return (n, true, { m with tree })

/-- Give a description to a process under its first free descriptor. -/
def grant (m : Machine) (pid : Pid) (opening : Nat) : Nat × Machine :=
  let fd := ((m.process? pid).map (·.freeFrom 0)).getD 0
  (fd, m.update pid (·.install fd opening))

/-- Describe an open file and grant it. -/
def grantNew (m : Machine) (pid : Pid) (o : Opening) : Nat × Machine :=
  let (n, m) := m.describe o
  m.grant pid n

/-- Open one end, or both, of a named pipe. Nothing comes back while the other end is missing; the
process is then noted as waiting for it. -/
def openPipe (m : Machine) (pid : Pid) (number : Nat) (mode : OpenMode) : Option Nat × Machine :=
  let (n, m) := m.describe {
    channel := .pipe number, readable := mode.readable, writable := mode.writable }
  let m := m.updatePipe number fun q => { q with
    sources := if mode.readable then q.sources + 1 else q.sources
    sinks := if mode.writable then q.sinks + 1 else q.sinks }
  let q := m.pipe number
  let complete := (mode.readable && mode.writable) ||
    (if mode.readable then m.hasSink number else m.hasSource number)
  if complete then
    let (fd, m) := m.grant pid n
    (some fd, m)
  else
    let awaited := if mode.readable then PipeEnd.sink else .source
    let seen := if mode.readable then q.sinks else q.sources
    (none, m.update pid fun p => { p with pendingOpen := some ⟨n, awaited, seen⟩ })

/-- Go on opening a named pipe: done once the other end was opened since. -/
def resumeOpen (m : Machine) (pid : Pid) (w : PendingOpen) : Option (Nat × Machine) := do
  let o ← m.opening? w.opening
  let .pipe number := o.channel | none
  let q := m.pipe number
  let now := match w.awaited with
    | .sink => q.sinks
    | .source => q.sources
  if now = w.seen then none
  else some ((m.update pid fun p => { p with pendingOpen := none }).grant pid w.opening)

/-- Why a node cannot be opened. -/
def refusal? (m : Machine) (n : NodeId) (mode : OpenMode) : Option Errno :=
  if m.tree.isDirectory n && (mode.writable || mode.create.isSome) then some .isDirectory
  else if (mode.readable && !m.tree.allows n .read) ||
      (mode.writable && !m.tree.allows n .write) then
    some .accessDenied
  else none

/-- Open what a node holds. -/
def openNode (m : Machine) (p : Process) (n : NodeId) (mode : OpenMode) :
    Option (Except Errno Nat) × Machine :=
  let o : Opening := {
    channel := .node n, readable := mode.readable
    writable := mode.writable, append := mode.append }
  let granted (m : Machine) (o : Opening) : Option (Except Errno Nat) × Machine :=
    let (fd, m) := m.grantNew p.pid o
    (some (.ok fd), m)
  match m.tree.kind? n with
  | some (.file _) =>
      granted (if mode.truncate then { m with tree := m.tree.setContent n [] m.stamp } else m) o
  | some (.fifo number) =>
      let (fd, m) := m.openPipe p.pid number mode
      (fd.map .ok, m)
  | some (.device .terminal) =>
      if m.terminal.session = some p.session then granted m { o with channel := .terminal }
      else (some (.error .noDevice), m)
  | _ => granted m o

/-- Open a file for a process. -/
def openFile (m : Machine) (pid : Pid) (path : Bytes) (mode : OpenMode) :
    Option (Except Errno Nat) × Machine :=
  match m.process? pid with
  | none => (none, m)
  | some p =>
      match p.pendingOpen with
      | some w =>
          match m.resumeOpen pid w with
          | some (fd, m) => (some (.ok fd), m)
          | none => (none, m)
      | none =>
          match m.nodeFor p path mode with
          | .error e => (some (.error e), m)
          | .ok (n, fresh, m) =>
              match if fresh then none else m.refusal? n mode with
              | some e => (some (.error e), m)
              | none => m.openNode p n mode

/-! ## Reading and writing -/

/-- The content that a node shows to a process. -/
def contentFor (m : Machine) (p : Process) (n : NodeId) : Except Errno Bytes :=
  match m.tree.kind? n with
  | some (.directory ..) => .error .isDirectory
  | some (.file content) => .ok content
  | some .processStatus => .ok (statusText p)
  | _ => .ok []

/-- Read from the terminal; a process in the background is stopped instead. -/
def readTerminal (m : Machine) (p : Process) (count : Nat) :
    Option (Except Errno Bytes) × Machine :=
  if m.terminal.session = some p.session && m.terminal.foreground ≠ p.group then
    if decide (Signal.ttin ∈ p.signals.blocked) || p.ignored.contains Signal.ttin ||
        m.isOrphaned p.group then
      (some (.error .inputOutput), m)
    else (none, m.postAll (m.members p.group) Signal.ttin)
  else
    match m.terminal.read? count with
    | some (bs, terminal) => (some (.ok bs), { m with terminal })
    | none => (none, m)

/-- Read from a descriptor. Nothing comes back if the process has to wait; the machine may have
changed even so. -/
def read (m : Machine) (pid : Pid) (fd count : Nat) : Option (Except Errno Bytes) × Machine :=
  match m.process? pid, m.described? pid fd with
  | some p, some (number, o) =>
      if !o.readable then (some (.error .badDescriptor), m)
      else match o.channel with
        | .node n =>
            match m.tree.kind? n with
            | some (.device .zero) | some (.device .full) =>
                (some (.ok (List.replicate count 0)), m)
            | _ =>
                match m.contentFor p n with
                | .error e => (some (.error e), m)
                | .ok content =>
                    let bs := (content.drop o.offset).take count
                    (some (.ok bs),
                      m.updateOpening number fun o => { o with offset := o.offset + bs.length })
        | .pipe q =>
            match (m.pipe q).content with
            | [] => if m.hasSink q then (none, m) else (some (.ok []), m)
            | content =>
                (some (.ok (content.take count)),
                  m.updatePipe q fun q => { q with content := content.drop count })
        | .terminal => m.readTerminal p count
        | .transcript _ => (some (.error .badDescriptor), m)
  | _, _ => (some (.error .badDescriptor), m)

/-- How much a pipe holds before its writers have to wait. -/
def pipeRoom : Nat := 65536

/-- Write to a descriptor. Nothing comes back if the process has to wait. -/
def write (m : Machine) (pid : Pid) (fd : Nat) (bs : Bytes) :
    Option (Except Errno Unit) × Machine :=
  match m.described? pid fd with
  | none => (some (.error .badDescriptor), m)
  | some (number, o) =>
      if !o.writable then (some (.error .badDescriptor), m)
      else match o.channel with
        | .node n =>
            match m.tree.kind? n with
            | some (.file content) =>
                let offset := if o.append then content.length else o.offset
                let tree := m.tree.setContent n (overwrite content offset bs) m.stamp
                (some (.ok ()), { m with tree }.updateOpening
                  number fun o => { o with offset := offset + bs.length })
            | some (.device .full) => (some (.error .noSpace), m)
            | _ => (some (.ok ()), m)
        | .pipe q =>
            if !m.hasSource q then (some (.error .brokenPipe), m.post pid Signal.pipe)
            else if pipeRoom ≤ (m.pipe q).content.length then (none, m)
            else (some (.ok ()), m.updatePipe q fun q => { q with content := q.content ++ bs })
        | .terminal => (some (.ok ()), m)
        | .transcript false => (some (.ok ()), { m with stdout := m.stdout ++ bs })
        | .transcript true => (some (.ok ()), { m with stderr := m.stderr ++ bs })

/-! ## Other calls on descriptors -/

def closeFile (m : Machine) (pid : Pid) (fd : Nat) : Machine := m.update pid (·.drop fd)

/-- Make one descriptor mean what another one means. -/
def duplicate (m : Machine) (pid : Pid) (source target : Nat) : Except Errno Unit × Machine :=
  match (m.process? pid).bind (·.descriptor? source) with
  | none => (.error .badDescriptor, m)
  | some opening => (.ok (), m.update pid (·.install target opening))

/-- Copy a descriptor to the first free one from 10 on. -/
def keep (m : Machine) (pid : Pid) (fd : Nat) : Except Errno Nat × Machine :=
  match m.process? pid with
  | none => (.error .badDescriptor, m)
  | some p =>
      match p.descriptor? fd with
      | none => (.error .badDescriptor, m)
      | some opening =>
          let copy := p.freeFrom 10
          (.ok copy, m.update pid (·.install copy opening))

/-- Make a pipe with both ends open. -/
def makePipe (m : Machine) (pid : Pid) : (Nat × Nat) × Machine :=
  let channel := Channel.pipe m.pipes.size
  let m := { m with pipes := m.pipes.push { sources := 1, sinks := 1 } }
  let (source, m) := m.grantNew pid { channel, readable := true }
  let (sink, m) := m.grantNew pid { channel, writable := true }
  ((source, sink), m)

/-- Move in an open file. -/
def seek (m : Machine) (pid : Pid) (fd : Nat) (origin : SeekOrigin) (offset : Int) :
    Except Errno Nat × Machine :=
  match m.described? pid fd with
  | none => (.error .badDescriptor, m)
  | some (number, o) =>
      match o.channel with
      | .pipe _ | .terminal => (.error .illegalSeek, m)
      | .transcript isError => (.ok (if isError then m.stderr else m.stdout).length, m)
      | .node n =>
          if (match m.tree.kind? n with | some (.fifo _) => true | _ => false) then
            (.error .illegalSeek, m)
          else
            let base : Nat := match origin with
              | .start => 0
              | .current => o.offset
              | .end => ((m.tree.content? n).map (·.length)).getD 0
            let target := (base : Int) + offset
            if target < 0 then (.error .invalid, m)
            else
              (.ok target.toNat, m.updateOpening number fun o => { o with offset := target.toNat })

/-- Cut an open file, or lengthen it with zeros. -/
def truncate (m : Machine) (pid : Pid) (fd size : Nat) : Except Errno Unit × Machine :=
  match m.described? pid fd with
  | none => (.error .badDescriptor, m)
  | some (_, o) =>
      match if o.writable then o.channel else .terminal with
      | .node n =>
          match m.tree.content? n with
          | some content =>
              let kept := content.take size ++ List.replicate (size - content.length) 0
              (.ok (), { m with tree := m.tree.setContent n kept m.stamp })
          | none => (.error .invalid, m)
      | _ => (.error .invalid, m)

/-- The facts of an open file. -/
def examineOpen (m : Machine) (pid : Pid) (fd : Nat) : Except Errno FileFacts :=
  match m.described? pid fd with
  | none => .error .badDescriptor
  | some (_, o) =>
      -- What has no node gets a number of its own behind those of the nodes.
      let nameless (k : Nat) (kind : FileKind) (size : Nat) : FileFacts :=
        { node := m.tree.nodes.size + k, kind, mode := 0o600, size, names := 1, modified := 0 }
      match o.channel with
      | .node n => m.tree.facts n
      | .terminal => .ok (nameless 0 .device 0)
      | .transcript false => .ok (nameless 1 .regular m.stdout.length)
      | .transcript true => .ok (nameless 2 .regular m.stderr.length)
      | .pipe q => .ok (nameless (3 + q) .fifo 0)

def isTerminal (m : Machine) (pid : Pid) (fd : Nat) : Bool :=
  match m.described? pid fd with
  | some (_, o) => o.channel = .terminal
  | none => false

end JobShell.Machine
