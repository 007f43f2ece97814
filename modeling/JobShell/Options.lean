import JobShell.Bytes

/-!
# Options of the command line

Four options: help, version, and the greatest lengths of a line and of a word. An option has a
letter and a long name; letters may be written in one group, and the value of a length stands
behind its letter, behind `=`, or in the next argument.

Results:
1. `Options.readAll_append`: arguments are read from left to right, so a list of arguments can
   be cut anywhere.
2. `Length.ofText?_pos`: an accepted length is never 0 and fits in 64 bits.
-/

namespace JobShell

/-- The greatest lengths that input may have, in bytes. -/
structure Limits where
  line : Nat := 511
  token : Nat := 255
deriving DecidableEq, Repr

/-- What the program is asked to do. -/
inductive Action
  | run
  | help
  | version
deriving DecidableEq, Repr

structure Options where
  action : Action := .run
  limits : Limits := {}
deriving DecidableEq, Repr

/-- The options that stand alone. -/
inductive Flag
  | help
  | version
deriving DecidableEq, Repr

/-- The options with a length. -/
inductive LengthOption
  | line
  | token
deriving DecidableEq, Repr

inductive Switch
  | flag (f : Flag)
  | length (l : LengthOption)
deriving DecidableEq, Repr

namespace LengthOption

def letter : LengthOption → Char
  | .line => 'l'
  | .token => 't'

def longName : LengthOption → String
  | .line => "max-line-length"
  | .token => "max-token-length"

end LengthOption

namespace Flag

def letter : Flag → Char
  | .help => 'h'
  | .version => 'V'

def longName : Flag → String
  | .help => "help"
  | .version => "version"

end Flag

namespace Switch

def all : List Switch := [.flag .help, .length .line, .length .token, .flag .version]

def letter : Switch → Char
  | .flag f => f.letter
  | .length l => l.letter

def longName : Switch → String
  | .flag f => f.longName
  | .length l => l.longName

def ofLetter? (c : Char) : Option Switch := all.find? (·.letter == c)

def ofLongName? (name : String) : Option Switch := all.find? (·.longName == name)

end Switch

/-- Why the arguments are refused. -/
inductive OptionError
  | unrecognized (argument : String)
  | takesNoValue (f : Flag)
  | unknownLetter (c : Char)
  | missingValue (l : LengthOption)
  | invalidLength (value : String) (l : LengthOption)
  | unexpectedArgument (argument : String)
deriving DecidableEq, Repr

namespace OptionError

def message : OptionError → String
  | .unrecognized argument => "unrecognized option '" ++ argument ++ "'"
  | .takesNoValue f => "'--" ++ f.longName ++ "' does not take any arguments"
  | .unknownLetter c => "invalid option -- '" ++ c.toString ++ "'"
  | .missingValue l => "option requires an argument -- '" ++ l.letter.toString ++ "'"
  | .invalidLength value l =>
      "invalid length '" ++ value ++ "' for '" ++ l.letter.toString ++ "'"
  | .unexpectedArgument argument => "unexpected argument '" ++ argument ++ "'"

end OptionError

namespace Length

/-- The greatest length, `2 ^ 64 - 1`. -/
def greatest : Nat := 18446744073709551615

def digitValue? (c : Char) : Option UInt64 :=
  if '0' ≤ c ∧ c ≤ '9' then some (UInt64.ofNat (c.toNat - 48)) else none

/-- A number with one more digit behind it, unless that takes more than 64 bits. -/
def push? (n : UInt64) (c : Char) : Option UInt64 :=
  (digitValue? c).bind fun d =>
    -- Beyond this bound `10 * n + d` would wrap around.
    if n ≤ (UInt64.ofNat greatest - d) / 10 then some (10 * n + d) else none

/-- The value of decimal digits, if 64 bits hold it. -/
def ofDigits? (digits : List Char) : Option UInt64 := digits.foldlM push? 0

/-- A number without sign, of at least one digit. -/
def unsigned? : List Char → Option UInt64
  | [] => none
  | cs => ofDigits? cs

/-- A length is written in ASCII digits behind an optional `+` and lies between 1 and the greatest
length. -/
def ofText? (s : String) : Option Nat :=
  let digits := match s.toList with
    | '+' :: rest => rest
    | cs => cs
  (unsigned? digits).bind fun n => if 0 < n then some n.toNat else none

theorem ofText?_pos {s : String} {n : Nat} (read : ofText? s = some n) :
    0 < n ∧ n ≤ greatest := by
  simp only [ofText?, Option.bind_eq_some_iff] at read
  obtain ⟨m, _, accepted⟩ := read
  split at accepted
  · next positive =>
      cases accepted
      exact ⟨UInt64.lt_iff_toNat_lt.1 positive, Nat.le_of_lt_succ m.toNat_lt⟩
  · cases accepted

end Length

namespace Options

def setFlag (o : Options) : Flag → Options
  | .help => { o with action := .help }
  | .version => { o with action := .version }

def setLength (o : Options) (l : LengthOption) (value : String) : Except OptionError Options :=
  match Length.ofText? value with
  | none => .error (.invalidLength value l)
  | some n =>
      match l with
      | .line => .ok { o with limits := { o.limits with line := n } }
      | .token => .ok { o with limits := { o.limits with token := n } }

/-- The options read so far, and the length whose value the next argument holds. -/
structure Progress where
  options : Options := {}
  awaited : Option LengthOption := none
deriving DecidableEq, Repr

/-- Read a group of letters. A length takes the rest of the group as its value, or the next
argument if the group ends there. -/
def readGroup (o : Options) : List Char → Except OptionError Progress
  | [] => .ok { options := o }
  | c :: rest =>
      match Switch.ofLetter? c with
      | none => .error (.unknownLetter c)
      | some (.flag f) => readGroup (o.setFlag f) rest
      | some (.length l) =>
          if rest.isEmpty then .ok { options := o, awaited := some l }
          else (o.setLength l (String.ofList rest)).map fun o => { options := o }

/-- Read what stands behind `--`: a long name, with a value behind `=` if there is one. -/
def readLong (o : Options) (long : List Char) : Except OptionError Progress :=
  let name := String.ofList (long.takeWhile (· != '='))
  let value := match long.dropWhile (· != '=') with
    | [] => none
    | _ :: value => some (String.ofList value)
  match Switch.ofLongName? name, value with
  | none, _ => .error (.unrecognized ("--" ++ String.ofList long))
  | some (.flag f), none => .ok { options := o.setFlag f }
  | some (.flag f), some _ => .error (.takesNoValue f)
  | some (.length l), none => .ok { options := o, awaited := some l }
  | some (.length l), some value => (o.setLength l value).map fun o => { options := o }

/-- Read one argument. -/
def read (p : Progress) (argument : String) : Except OptionError Progress :=
  match p.awaited with
  | some l => (p.options.setLength l argument).map fun o => { options := o }
  | none =>
      match argument.toList with
      | '-' :: '-' :: long => readLong p.options long
      | '-' :: c :: rest => readGroup p.options (c :: rest)
      | _ => .error (.unexpectedArgument argument)

def readAll (p : Progress) (arguments : List String) : Except OptionError Progress :=
  arguments.foldlM read p

/-- The options once all arguments are read; a length must not lack its value. -/
def finish (p : Progress) : Except OptionError Options :=
  match p.awaited with
  | some l => .error (.missingValue l)
  | none => .ok p.options

/-- Read the arguments, the program's own name excluded. -/
def parse (arguments : List String) : Except OptionError Options :=
  readAll {} arguments >>= finish

theorem readAll_append (p : Progress) (first rest : List String) :
    readAll p (first ++ rest) = readAll p first >>= (readAll · rest) := by
  simp [readAll, List.foldlM_append]

end Options

end JobShell
