import JobShell.Machine.Script.Redirect
import JobShell.Machine.Script.Token

/-!
# Finding commands

What the name of a command stands for: a function, a command that the interpreter runs itself, or
a program along the search path.
-/

namespace JobShell.Machine

/-- The commands that the interpreter runs itself. -/
inductive ScriptBuiltin
  | colon | source | alias | toBackground | leave | cd | command | echo | eval | exec | exit
  | export | false | toForeground | getopts | hash | jobs | kill | local | next | printf | pwd
  | read | readonly | return | set | shift | test | bracket | times | trap | true | type | ulimit
  | umask | unalias | unset | wait
deriving DecidableEq, Repr

namespace ScriptBuiltin

def names : List (String × ScriptBuiltin) := [
  (":", .colon), (".", .source), ("alias", .alias), ("bg", .toBackground), ("break", .leave),
  ("cd", .cd), ("chdir", .cd), ("command", .command), ("continue", .next), ("echo", .echo),
  ("eval", .eval), ("exec", .exec), ("exit", .exit), ("export", .export), ("false", .false),
  ("fg", .toForeground), ("getopts", .getopts), ("hash", .hash), ("jobs", .jobs), ("kill", .kill),
  ("local", .local), ("printf", .printf), ("pwd", .pwd), ("read", .read),
  ("readonly", .readonly), ("return", .return), ("set", .set), ("shift", .shift), ("test", .test),
  ("[", .bracket), ("times", .times), ("trap", .trap), ("true", .true), ("type", .type),
  ("ulimit", .ulimit), ("umask", .umask), ("unalias", .unalias), ("unset", .unset),
  ("wait", .wait)]

def ofName? (name : Bytes) : Option ScriptBuiltin :=
  (names.find? fun (text, _) => Bytes.ofText text = name).map (·.2)

/-- Whether a failure of the command ends the script. -/
def isSpecial : ScriptBuiltin → Bool
  | .colon | .source | .leave | .next | .eval | .exec | .exit | .export | .local | .readonly
  | .return | .set | .shift | .times | .trap | .unset => Bool.true
  | _ => Bool.false

/-- Whether the arguments of the command can be assignments. -/
def takesAssignments : ScriptBuiltin → Bool
  | .export | .readonly | .local => Bool.true
  | _ => Bool.false

end ScriptBuiltin

/-- What the name of a command stands for. -/
inductive CommandKind
  | function (line : Nat) (body : Script)
  | builtin (b : ScriptBuiltin)
  | program

namespace Running

def commandKind (name : Bytes) (functionsToo : Bool) : Running CommandKind := do
  let s ← get
  match if functionsToo then s.definitions.lookup name else none with
  | some (line, body) => return .function line body
  | none =>
      match ScriptBuiltin.ofName? name with
      | some b => return .builtin b
      | none => return .program

/-- The search path that scripts start with. -/
def firstSearchPath : Bytes :=
  Bytes.ofText "/usr/local/sbin:/usr/local/bin:/usr/sbin:/usr/bin:/sbin:/bin"

def searchPath : Running (List Bytes) := do
  return Bytes.splitOn 58 ((← get).lookup Program.pathVariable)

/-- The first regular file of a name along a search path. -/
def findIn (name : Bytes) : List Bytes → (failure : Errno) → Running (Except Errno Bytes)
  | [], failure => return .error failure
  | place :: rest, failure => do
      let path := Program.inDirectory place name
      match ← sys (.examine path true) with
      | .ok facts =>
          if facts.kind = .regular then return .ok path else findIn name rest .accessDenied
      | .error e =>
          findIn name rest (if e = .noEntry || e = .notDirectory then failure else e)

/-- The file of a program. A name with a slash is the path itself. -/
def findProgram (name : Bytes) (path : List Bytes) : Running (Except Errno Bytes) := do
  if name.contains Bytes.slash then return .ok name else findIn name path .noEntry

/-- Become a program. It comes back only to leave the script with the reason why that was not
possible. -/
def become (argv : List Bytes) (path : List Bytes) : Running Empty := do
  let name := argv.headD []
  let environment := (← get).environment
  let rec attempt : List Bytes → Errno → Running Errno
    | [], failure => return failure
    | place :: rest, failure => do
        let e ← lift (Program.executeAt (Program.inDirectory place name) argv environment)
        attempt rest (if e = .noEntry || e = .notDirectory then failure else e)
  let e ← if name.contains Bytes.slash then lift (Program.executeAt name argv environment)
    else attempt path .noEntry
  complain (name ++ Bytes.ofText (": " ++ Redirect.reason "not found" e))
  let isMissing := e = .noEntry || e = .notDirectory || e = .tooManyLinks || e = .nameTooLong
  setStatus (if isMissing then 127 else 126)
  throw .halt

/-- Tell what a name stands for, in a sentence or as it can be used in a script. -/
def describe (name : Bytes) (path : List Bytes) (sentence : Bool) : Running Nat := do
  let tell (text plain : Bytes) : Running Nat :=
    write (if sentence then name ++ text ++ [Bytes.newline] else plain ++ [Bytes.newline])
  let s ← get
  if (Script.Token.reservedWords.any fun w => Bytes.ofText w = name) then
    tell (Bytes.ofText " is a shell keyword") name
  else match s.aliases.lookup name with
    | some value =>
        tell (Bytes.ofText " is an alias for " ++ value)
          (Bytes.ofText "alias " ++ name ++ 61 :: 39 :: value ++ [39])
    | none =>
        match ← commandKind name true with
        | .function .. => tell (Bytes.ofText " is a shell function") name
        | .builtin b =>
            tell (Bytes.ofText (if b.isSpecial then " is a special shell builtin"
              else " is a shell builtin")) name
        | .program =>
            let found ← if name.contains Bytes.slash then
                pure ((← sys (.examine name true)).map fun _ => name)
              else findProgram name path
            match found with
            | .ok file => tell (Bytes.ofText " is " ++ file) file
            | .error _ =>
                discard <| write (if sentence then name ++ Bytes.ofText ": not found\n" else [])
                return 127

/-- Tell what each of some names stands for. -/
def describeEach (path : List Bytes) : List Bytes → (status : Nat) → Running Nat
  | [], status => return status
  | name :: rest, status => do
      let mine ← describe name path true
      describeEach path rest (status ||| mine)

end Running

end JobShell.Machine
