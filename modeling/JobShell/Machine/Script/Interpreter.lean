import JobShell.Machine.Script.Builtin
import JobShell.Machine.Script.Loop
import JobShell.Machine.Script.Resolved

/-!
# Running scripts

Commands of a script are run one after another; programs run in processes of their own, with no
signal blocked. Between commands the script deals with the signals that came.
-/

namespace JobShell.Machine.Interpreter

open Running Expansion Resolved Loop

/-- How a command is run. -/
structure Mode where
  /-- Whether the process ends with the command. -/
  last : Bool := false
  /-- Whether somebody looks at its failure. -/
  tested : Bool := false
deriving DecidableEq, Repr

/-- Where lines of commands come from. -/
structure Feed where
  /-- The descriptor from which more can be read. -/
  descriptor : Option Nat := none
  /-- Whether lines that are read are shown if that is asked for. -/
  shown : Bool := false
  /-- Whether the process ends with the last command. -/
  last : Bool := false
deriving DecidableEq, Repr

/-- How deep functions can be nested. -/
def depthLimit : Nat := 1000

/-- How much of a script is read at a time. -/
def blockSize : Nat := 8191

/-- Read all that can be read from a descriptor; `fuel` bounds the parts. -/
def readAll (fd : Nat) : (fuel : Nat) → List Bytes → Running Bytes
  | 0, parts => return parts.reverse.flatten
  | fuel + 1, parts => do
      match ← sys (.read fd blockSize) with
      | .ok [] => return parts.reverse.flatten
      | .ok part => readAll fd fuel (part :: parts)
      | .error e =>
          if e = .interrupted then readAll fd fuel parts else return parts.reverse.flatten

/-- Whether a command does nothing but list or set traps. -/
def listsTraps : Script → Bool
  | .simple c => (c.words.head?.bind WordPart.plain?) = some (Bytes.ofText "trap")
  | _ => false

/-- End the process with the code that is given. -/
def finish (code : Nat) : Running Empty := lift (Program.exit (code % 256))

mutual

/-- Run a command; the result is its status. -/
def run : (fuel : Nat) → Mode → Script → Running Nat
  | 0, _, _ => failText "Too many nested commands"
  | fuel + 1, mode, c => do
      runTraps fuel
      let tested : Mode := { tested := mode.tested }
      let (status, isChecked) ← if (← get).isOn 'n' then pure (0, false) else match c with
        | .nothing => pure (0, false)
        | .simple c => do pure (← runSimple fuel mode c, true)
        | .sequence a b => do
            discard <| run fuel tested a
            pure (← run fuel mode b, false)
        | .both a b => do
            let status ← run fuel { tested := true } a
            if status = 0 then pure (← run fuel mode b, false) else pure (status, false)
        | .either a b => do
            let status ← run fuel { tested := true } a
            if status ≠ 0 then pure (← run fuel mode b, false) else pure (status, false)
        | .inverted a => do
            pure (if (← run fuel { tested := true } a) = 0 then 1 else 0, false)
        | .choose condition a b => do
            let status ← run fuel { tested := true } condition
            match if status = 0 then some a else b with
            | some branch => pure (← run fuel mode branch, false)
            | none => pure (0, false)
        | .loop success condition body => do
            let status ← inLoop <| runWhile success (run fuel { tested := true } condition)
              (run fuel tested body) Program.patience 0
            pure (status, false)
        | .each line name items body => do
            modify ({ · with line })
            let found ← items.mapM (words (substitute fuel))
            let status ← inLoop <| runEach name (run fuel tested body) found.flatten 0
            pure (status, false)
        | .select line word branches => do
            modify ({ · with line })
            let text ← single (substitute fuel) word
            pure (← runBranch fuel mode text branches, false)
        | .group line body redirections => do
            modify ({ · with line })
            let failed : Running Nat := return 2
            let status ← Redirect.withRedirections (substitute fuel) redirections
              (run fuel tested body) failed
            pure (status, false)
        | .subshell line body redirections => do
            modify ({ · with line })
            pure (← runSubshell fuel mode body redirections, true)
        | .piped members => do
            let pids ← startMembers fuel mode false none members
            pure (← awaitAll pids, true)
        | .background line body => do
            modify ({ · with line })
            let number ← claim
            let pids ← match body with
              | .piped members => startMembers fuel mode true none members
              | body => startMembers fuel {} true none [body]
            remember number pids
            pure (0, true)
        | .define line name body => do
            modify fun s => { s with
              definitions := (name, line, body) :: s.definitions.filter (·.1 ≠ name) }
            pure (0, false)
      match c with
      | .nothing => pure ()
      | _ => setStatus status
      runTraps fuel
      if (isChecked && !mode.tested && status ≠ 0 && (← get).isOn 'e') || mode.last then throw .halt
      return status

/-- Deal with the signals that came, one after another. -/
def runTraps : (fuel : Nat) → Running Unit
  | 0 => return
  | fuel + 1 => do
      noteSignals
      let s ← get
      if !s.arrived.isEmpty then
        let outer := s.statusBefore
        let status := outer.getD s.status
        set { s with arrived := [], statusBefore := some status }
        let due := (List.range (SignalName.greatest + 1)).filter fun (n : Nat) =>
          s.arrived.contains (n : Int)
        due.forM fun (n : Nat) => do
          match (← get).trap? (n : Int) with
          | some (b :: action) =>
              tryCatch (discard <| runText fuel {} (b :: action)) fun leave => do
                match leave with
                | .return true => modify ({ · with statusBefore := outer })
                | .return false | .leaveLoops _ | .nextRound _ =>
                    modify ({ · with statusBefore := outer, status })
                | _ => pure ()
                throw leave
              setStatus status
          | _ => pure ()
        modify ({ · with statusBefore := outer })

/-- Run the first branch one of whose patterns fits. -/
def runBranch : (fuel : Nat) → Mode → Bytes → List (List Word × Script) → Running Nat
  | 0, _, _, _ => return 0
  | _, _, _, [] => return 0
  | fuel + 1, mode, text, (patterns, body) :: rest => do
      let fits ← patterns.anyM fun p => do
        return Glyph.fits (← pattern (substitute fuel) p) text
      if !fits then runBranch fuel mode text rest
      else match body with
        | .nothing => return 0
        | body => run fuel mode body

/-- What a command inside a word writes. -/
def substitute : (fuel : Nat) → Substitute
  | 0, _ => return []
  | fuel + 1, c => do
      match c with
      | .nothing => return []
      | c =>
          match ← sys .pipe with
          | .error _ => failText "Pipe call failed"
          | .ok (source, sink) =>
              let pid ← inChild (listsTraps c) do
                sys (.close source)
                if sink ≠ 1 then
                  discard <| sys (.duplicate sink 1)
                  sys (.close sink)
                endProcess fuel (run fuel { last := true } c)
              sys (.close sink)
              let out ← readAll source Program.patience []
              sys (.close source)
              let status ← awaitAll [pid]
              modify ({ · with innerStatus := status })
              return out

/-- Run something and end the process, after what is to be run at its end. -/
def endProcess : (fuel : Nat) → Running Nat → Running Empty
  | 0, _ => finish 2
  | fuel + 1, act => do
      let left ← tryCatch (do discard act; return none) fun leave => return some leave
      modify fun s => { s with
        status := if left = some .exit then s.statusBefore.getD s.status else s.status
        statusBefore := none }
      let s ← get
      match s.trap? 0 with
      | some (b :: action) =>
          set { s with
            traps := s.traps.filter (·.signal ≠ 0), statusBefore := some s.status, loops := 0 }
          let left ← tryCatch (do discard <| runText fuel {} (b :: action); return none)
            fun leave => return some leave
          let after ← get
          if left = some .failure || left = some .halt then finish after.status
          else finish (after.statusBefore.getD s.status)
      | _ => finish s.status

/-- Run commands in a process of their own. -/
def runSubshell : (fuel : Nat) → Mode → Script → List Redirection → Running Nat
  | 0, _, _, _ => return 2
  | fuel + 1, mode, body, redirections => do
      let targets ← redirections.mapM (Redirect.target (substitute fuel))
      let inside (mode : Mode) : Running Nat := do
        if (← Redirect.makeAll (substitute fuel) false targets []).2 then run fuel mode body
        else
          setStatus 2
          throw .failure
      if mode.last && !(← get).hasTraps then
        startChild false
        inside mode
      else awaitAll [← inChild (listsTraps body)
        (endProcess fuel (inside { mode with last := true }))]

/-- Start commands at the same time, each reading what the one before it writes. -/
def startMembers : (fuel : Nat) → Mode → (background : Bool) → (source : Option Nat) →
    List Script → Running (List Pid)
  | 0, _, _, _, _ => return []
  | _, _, _, _, [] => return []
  | fuel + 1, mode, background, source, c :: rest => do
      let pipe ← if rest.isEmpty then pure none
        else match ← sys .pipe with
          | .ok ends => pure (some ends)
          | .error _ =>
              source.forM fun fd => sys (.close fd)
              failText "Pipe call failed"
      let pid ← inChild (listsTraps c) do
        if background then
          ignore Signal.int
          ignore Signal.quit
          if source.isNone then
            sys (.close 0)
            match ← sys (.openFile (Bytes.ofText "/dev/null") .reading) with
            | .ok fd =>
                if fd ≠ 0 then
                  discard <| sys (.duplicate fd 0)
                  sys (.close fd)
            | .error _ => pure ()
        match pipe with
        | some (next, _) => sys (.close next)
        | none => pure ()
        match source with
        | some fd =>
            if fd ≠ 0 then
              discard <| sys (.duplicate fd 0)
              sys (.close fd)
        | none => pure ()
        match pipe with
        | some (_, sink) =>
            if sink ≠ 1 then
              discard <| sys (.duplicate sink 1)
              sys (.close sink)
        | none => pure ()
        endProcess fuel (run fuel { mode with last := true } c)
      source.forM fun fd => sys (.close fd)
      match pipe with
      | none => return [pid]
      | some (next, sink) =>
          sys (.close sink)
          return pid :: (← startMembers fuel mode background (some next) rest)

/-- Run assignments, or a command with its arguments, under redirections. -/
def runSimple : (fuel : Nat) → Mode → SimpleCommand Script → Running Nat
  | 0, _, _ => return 2
  | fuel + 1, mode, c => do
      modify ({ · with line := c.line, innerStatus := 0 })
      let inner := substitute fuel
      let (found, rest) ← expandFirst inner c.words
      let r : Resolved ← if found.isEmpty then pure { kind := .builtin .colon, argv := [] }
        else
          let start : Resolved := { kind := .program, argv := found }
          resolve inner (c.words.length + found.length + 1) found rest start
      let isSpecial := r.special.getD false
      let isExec := match r.kind with
        | .builtin .exec => true
        | _ => false
      -- Variables that are set in front of a command are set for it alone, with exceptions.
      let isLocal := !r.argv.isEmpty && !isSpecial
      let targets ← c.redirections.mapM (Redirect.target inner)
      if isLocal then openFrame
      let (saved, made) ← Redirect.makeAll inner true targets []
      finally_ (do
        if !made then
          setStatus 2
          if isSpecial then throw .failure
          return 2
        let given ← c.assignments.mapM fun (name, value) => do
          let value ← assigned inner value
          if isLocal then makeLocal (name ++ 61 :: value) true
          else assign name value (isExec && 1 < r.argv.length)
          return (name, value)
        let errors := ((saved.find? (·.descriptor = 2)).bind (·.copy)).getD 2
        trace inner errors given r.argv
        if r.argv.isEmpty then return (← get).innerStatus
        else match r.kind with
          | .program => runProgram fuel mode r
          | .function line body => callFunction fuel mode line body r.argv.tail
          | .builtin b => runOwn fuel mode b r isSpecial)
        (do
          saved.forM (if isExec && made then Redirect.forget else Redirect.restore)
          if isLocal then closeFrame)

/-- Run a program, in a process of its own unless nothing follows. -/
def runProgram : (fuel : Nat) → Mode → Resolved → Running Nat
  | 0, _, _ => return 2
  | _ + 1, mode, r => do
      let name := r.argv.headD []
      let path ← pathFor r
      match ← findProgram name path with
      | .error e =>
          complain (name ++ Bytes.ofText (": " ++ Redirect.reason "not found" e))
          return 127
      | .ok file =>
          if file ≠ name then
            modify fun s => { s with hashed := s.hashed.filter (·.1 ≠ name) ++ [(name, file)] }
          if mode.last && !(← get).hasTraps then return (← become r.argv path).elim
          else match ← fork with
            | some pid => awaitAll [pid]
            | none =>
                discard <| tryCatch (do return some (← become r.argv path)) fun _ => return none
                return (← finish (← get).status).elim

/-- Run the body of a function with arguments of its own. -/
def callFunction : (fuel : Nat) → Mode → (line : Nat) → Script → List Bytes → Running Nat
  | 0, _, _, _, _ => return 2
  | fuel + 1, mode, line, body, arguments => do
      let before ← get
      if depthLimit ≤ before.depth then
        failText ("Maximum function recursion depth (" ++ toString depthLimit ++ ") reached")
      set { before with
        positional := arguments, functionLine := some line, loops := 0, depth := before.depth + 1
        optionIndex := 1, optionOffset := 0 }
      finally_
        (tryCatch (do discard <| run fuel { tested := mode.tested } body) fun
          | .return _ => return
          | leave => throw leave)
        (modify fun s => { s with
          positional := before.positional, functionLine := before.functionLine
          loops := before.loops, depth := before.depth
          optionIndex := before.optionIndex, optionOffset := before.optionOffset })
      return (← get).status

/-- Run a command of the interpreter's own. What fails in it ends the script only if it is
special. -/
def runOwn : (fuel : Nat) → Mode → ScriptBuiltin → Resolved → (isSpecial : Bool) → Running Nat
  | 0, _, _, _, _ => return 2
  | fuel + 1, mode, b, r, isSpecial => do
      let before := (← get).command
      let arguments := r.argv.tail
      modify ({ · with command := r.argv.head? })
      let status ← finally_
        (tryCatch
          (match b with
            | .eval =>
                runText fuel { tested := mode.tested } ([Bytes.space].intercalate arguments)
            | .source => runFile fuel arguments
            | .exec => do
                match arguments with
                | [] => return 0
                | argv => return (← become argv (← pathFor r)).elim
            | .command => do
                let (letters, words) ← options { plain := "pvV" } arguments
                let path ← if letters.any (·.1 = 'p') then
                    pure (Bytes.splitOn 58 firstSearchPath) else searchPath
                match words, letters.findRev? (·.1 ≠ 'p') with
                | word :: _, some (letter, _) => describe word path (letter = 'V')
                | _, _ => return 0
            | b => runBuiltin b arguments)
          fun leave => do
            if leave = .failure && !isSpecial then return (← get).status else throw leave)
        (modify ({ · with command := before }))
      setStatus status
      reap
      return status

/-- Run the commands of a file. -/
def runFile : (fuel : Nat) → List Bytes → Running Nat
  | 0, _ => return 2
  | fuel + 1, arguments => do
      match (← options {} arguments).2 with
      | [] => return 0
      | name :: _ =>
          let path ← findSource name
          let fd ← Redirect.openFile path .reading
          let copy ← sys (.keep fd)
          sys (.close fd)
          modify ({ · with command := some path })
          let fd := copy.toOption.getD fd
          finally_
            (tryCatch (runLines fuel {} { descriptor := some fd, shown := true }
                { text := [], final := false } 0) fun
              | .return _ => do return (← get).status
              | leave => throw leave)
            (sys (.close fd))

/-- Run the commands of a text. -/
def runText : (fuel : Nat) → Mode → Bytes → Running Nat
  | 0, _, _ => return 2
  | fuel + 1, mode, text =>
      runLines fuel { mode with last := false } { last := mode.last } { text } 0

/-- Run the lines of a script, one after another; the status is that of the last one. -/
def runLines : (fuel : Nat) → Mode → Feed → Script.Scan → (status : Nat) → Running Nat
  | 0, _, _, _, status => return status
  | fuel + 1, mode, feed, scan, status => do
      let s ← get
      match Script.readLine { scan with documents := s.documents, aliases := s.aliases } with
      | .error e =>
          match if e.unfinished then feed.descriptor else none with
          | some fd =>
              match ← sys (.read fd blockSize) with
              | .ok (b :: bs) =>
                  runLines fuel mode feed
                    { scan with text := scan.text ++ (b :: bs).filter (· ≠ 0) } status
              | .error _ | .ok [] => runLines fuel mode feed { scan with final := true } status
          | none =>
              modify ({ · with line := e.line })
              failText ("Syntax error: " ++ e.message)
      | .ok l =>
          modify ({ · with documents := l.after.documents })
          if feed.shown && (← get).isOn 'v' then
            lift (Program.complainBytes (scan.text.take (scan.text.length - l.after.text.length)))
          match l.script with
          | none => return status
          | some c =>
              let isLast := feed.last && l.isLast
              let mine ← run fuel { mode with last := isLast } c
              let status := match c with
                | .nothing => status
                | _ => mine
              runLines fuel mode feed l.after status

end

/-- More steps than a script needs at a time. -/
def patience : Nat := 10000000

end JobShell.Machine.Interpreter
