import JobShell.Machine.Script.State

/-!
# Options of scripts

Options are turned on behind a minus and off behind a plus, by their letters or by their names.
-/

namespace JobShell.Machine.OptionLetter

open Running

/-- The names of the options with their letters, if they have any. -/
def names : List (String × Option Char) := [
  ("errexit", some 'e'), ("noglob", some 'f'), ("ignoreeof", some 'I'), ("interactive", some 'i'),
  ("monitor", some 'm'), ("noexec", some 'n'), ("stdin", some 's'), ("xtrace", some 'x'),
  ("verbose", some 'v'), ("vi", some 'V'), ("emacs", some 'E'), ("noclobber", some 'C'),
  ("allexport", some 'a'), ("notify", some 'b'), ("nounset", some 'u'),
  ("privileged", some 'p'), ("nolog", none), ("debug", none)]

/-- The letter of a name. -/
def named? (name : Bytes) : Option (Option Char) :=
  (names.find? fun (text, _) => Bytes.ofText text = name).map (·.2)

/-- Turn an option on or off. -/
def turn (letter : Char) (on : Bool) : Running Unit :=
  modify fun s =>
    let others := s.options.filter (· ≠ letter)
    { s with options := if on then letter :: others else others }

def turnByLetter (b : UInt8) (on : Bool) : Running Unit := do
  let letter := Char.ofNat b.toNat
  if names.any fun (_, l) => l = some letter then turn letter on
  else fail (Bytes.ofText "Illegal option -" ++ [b])

/-- Show which options are on, in a table or as commands. -/
def showAll (on : Bool) : Running Unit := do
  let s ← get
  let isOn (letter : Option Char) : Bool := letter.any s.isOn
  let line (entry : String × Option Char) : String :=
    let (name, letter) := entry
    if on then name ++ String.ofList (List.replicate (16 - name.length) ' ') ++
      (if isOn letter then "on\n" else "off\n")
    else "set " ++ (if isOn letter then "-o " else "+o ") ++ name ++ "\n"
  discard <| writeText ((if on then "Current option settings\n" else "") ++
    String.join (names.map line))

def turnByName (name : Bytes) (on : Bool) : Running Unit := do
  match named? name with
  | some letter => letter.forM fun letter => turn letter on
  | none => fail (Bytes.ofText (if on then "Illegal option -o " else "Illegal option +o ") ++ name)

/-- What the options in front of some arguments leave: the arguments behind them, whether these
take the place of the script's own even if there are none, and whether a text of commands is
given. -/
structure Rest where
  arguments : List Bytes
  replaces : Bool := false
  commandText : Bool := false
deriving DecidableEq, Repr

/-- Read a group of letters; on the command line of the interpreter there are more. -/
def readGroup (commandLine on : Bool) : Bytes → Rest → Running Rest
  | [], rest => return rest
  | b :: more, rest => do
      if b = 99 && commandLine then readGroup commandLine on more { rest with commandText := true }
      else if b = 108 && commandLine then readGroup commandLine on more rest
      else if b = 111 then
        match rest.arguments with
        | [] =>
            showAll on
            readGroup commandLine on more rest
        | name :: arguments =>
            turnByName name on
            readGroup commandLine on more { rest with arguments }
      else
        turnByLetter b on
        readGroup commandLine on more rest

/-- Read options; `fuel` bounds the groups. -/
def readWithin (commandLine : Bool) : (fuel : Nat) → Rest → Running Rest
  | 0, rest => return rest
  | fuel + 1, rest => do
      match rest.arguments with
      | [45] :: arguments =>
          if !commandLine then
            turn 'x' false
            turn 'v' false
          return { rest with arguments }
      | [45, 45] :: arguments => return { rest with arguments, replaces := true }
      | (sign :: letters) :: arguments =>
          if sign = 45 || sign = 43 then
            readWithin commandLine fuel
              (← readGroup commandLine (sign = 45) letters { rest with arguments })
          else return rest
      | _ => return rest

def read (commandLine : Bool) (arguments : List Bytes) : Running Rest :=
  readWithin commandLine (arguments.length + 1) { arguments }

end JobShell.Machine.OptionLetter
