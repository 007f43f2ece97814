import JobShell.Machine.Quoting

/-!
# Arguments of utilities

Options are single letters behind a hyphen, alone or in groups, or words behind two hyphens, which
can be cut short as long as they stay unique. Some take a value, in the same argument or in the
next one. Everything else is an operand, and behind `--` everything is.
-/

namespace JobShell.Machine

/-- The options that were given, each with its value if it has one, and the operands. -/
structure Arguments where
  options : List (Char × Bytes) := []
  operands : List Bytes := []
deriving DecidableEq, Repr

/-- The options that a utility understands. Each has a letter; a letter that is no byte stands for
an option that is a word alone. -/
structure OptionTable where
  /-- Options without a value. -/
  plain : String := ""
  /-- Options with a value. -/
  valued : String := ""
  /-- Options that can have a value, in the same argument. -/
  open_ : String := ""
  /-- The words for options. -/
  words : List (String × Char) := []
  /-- Whether nothing behind the first operand is an option. -/
  ordered : Bool := false

namespace Arguments

def has (a : Arguments) (letter : Char) : Bool := a.options.any (·.1 = letter)

/-- The last value given with an option. -/
def value? (a : Arguments) (letter : Char) : Option Bytes :=
  (a.options.findRev? (·.1 = letter)).map (·.2)

/-- The last of some options that was given. -/
def last? (a : Arguments) (letters : String) : Option Char :=
  ((a.options.map (·.1)).filter letters.toList.contains).getLast?

def hyphen : UInt8 := 45

def addOption (a : Arguments) (letter : Char) (value : Bytes) : Arguments :=
  { a with options := a.options ++ [(letter, value)] }

def addOperand (a : Arguments) (operand : Bytes) : Arguments :=
  { a with operands := a.operands ++ [operand] }

/-- Read a group of letters; the letter that still waits for its value is given back. -/
def readGroup (t : OptionTable) (a : Arguments) : Bytes → Except Bytes (Arguments × Option Char)
  | [] => .ok (a, none)
  | b :: rest =>
      let letter := Char.ofNat b.toNat
      if t.plain.toList.contains letter then readGroup t (a.addOption letter []) rest
      else if t.valued.toList.contains letter then
        if rest.isEmpty then .ok (a, some letter) else .ok (a.addOption letter rest, none)
      else if t.open_.toList.contains letter then .ok (a.addOption letter rest, none)
      else .error (Bytes.ofText "invalid option -- '" ++ [b, 39])

/-- Read an option that is a word, behind its hyphens. -/
def readWord (t : OptionTable) (a : Arguments) (word : Bytes) :
    Except Bytes (Arguments × Option (Char × Bytes)) :=
  let name := word.takeWhile (· ≠ 61)
  let value := if name.length < word.length then some (word.drop (name.length + 1)) else none
  let exact := t.words.filter fun (text, _) => Bytes.ofText text = name
  let found := if exact.isEmpty then
      t.words.filter fun (text, _) => name.isPrefixOf (Bytes.ofText text)
    else exact
  let shown (text : Bytes) : Bytes := Bytes.ofText "'--" ++ text ++ [39]
  match found with
  | [] => .error (Bytes.ofText "unrecognized option " ++ shown word)
  | (text, letter) :: others =>
      if others.any (·.2 ≠ letter) then
        .error (Bytes.ofText "option " ++ shown word ++
          Bytes.ofText " is ambiguous; possibilities:" ++
            found.flatMap fun (text, _) => Bytes.space :: shown (Bytes.ofText text))
      else if t.plain.toList.contains letter then
        match value with
        | none => .ok (a.addOption letter [], none)
        | some _ => .error (Bytes.ofText "option " ++ shown (Bytes.ofText text) ++
            Bytes.ofText " doesn't allow an argument")
      else match value with
        | some value => .ok (a.addOption letter value, none)
        | none =>
            if t.open_.toList.contains letter then .ok (a.addOption letter [], none)
            else .ok (a, some (letter, Bytes.ofText text))

def read (t : OptionTable) (a : Arguments) : List Bytes → Except Bytes Arguments
  | [] => .ok a
  | argument :: rest =>
      match argument with
      | 45 :: 45 :: word =>
          if word.isEmpty then .ok { a with operands := a.operands ++ rest }
          else match readWord t a word with
            | .error e => .error e
            | .ok (a, none) => read t a rest
            | .ok (a, some (letter, text)) =>
                match rest with
                | [] => .error (Bytes.ofText "option '--" ++ text ++
                    Bytes.ofText "' requires an argument")
                | value :: rest => read t (a.addOption letter value) rest
      | 45 :: b :: more =>
          match readGroup t a (b :: more) with
          | .error e => .error e
          | .ok (a, none) => read t a rest
          | .ok (a, some letter) =>
              match rest with
              | [] => .error (Bytes.ofText
                  ("option requires an argument -- '" ++ String.singleton letter ++ "'"))
              | value :: rest => read t (a.addOption letter value) rest
      | _ =>
          if t.ordered then .ok { a with operands := a.operands ++ argument :: rest }
          else read t (a.addOperand argument) rest

end Arguments

end JobShell.Machine
