import JobShell.Machine.Script.Expansion

/-!
# Variables of scripts

The commands that show and change variables, read a line into them, and go through options.

Results:
1. The examples behind `quoted`: how values are shown so that they can be read again.
-/

namespace JobShell.Machine.Running

/-! ## Showing values -/

/-- A text in quotes; its own quotes stand in quotes of the other kind. -/
def quotedWithin : (fuel : Nat) → Bytes → Bytes
  | 0, _ => []
  | fuel + 1, text =>
      let plain := text.takeWhile (· ≠ 39)
      let rest := text.drop plain.length
      let quotes := rest.takeWhile (· = 39)
      let after := rest.drop quotes.length
      39 :: plain ++ 39 :: (if quotes.isEmpty then [] else 34 :: quotes ++ [34]) ++
        (if after.isEmpty then [] else quotedWithin fuel after)

/-- A text in quotes that scripts can read. -/
def quoted (text : Bytes) : Bytes := quotedWithin (text.length + 1) text

example : quoted (Bytes.ofText "a b") = Bytes.ofText "'a b'" := by decide
example : quoted (Bytes.ofText "it's") = Bytes.ofText "'it'\"'\"'s'" := by decide

/-- The variables that satisfy a condition, in the order of their names, behind a word. -/
def showVariables (word : Bytes) (fits : Variable → Bool) : Running Nat := do
  let s ← get
  let shown := (s.bindings.filter fun b => fits b.2).mergeSort fun a b => Bytes.le a.1 b.1
  let line (b : Bytes × Variable) : Bytes :=
    (if word.isEmpty then [] else word ++ [Bytes.space]) ++ b.1 ++
      ((b.2.value.map fun v => 61 :: quoted v).getD []) ++ [Bytes.newline]
  write (shown.map line).flatten

/-! ## Changing variables -/

/-- A word cut at its first equals sign. -/
def nameAndValue (word : Bytes) : Bytes × Option Bytes :=
  let name := word.takeWhile (· ≠ 61)
  (name, if name.length < word.length then some (word.drop (name.length + 1)) else none)

def requireName (name : Bytes) : Running Unit := do
  if !Word.isName name then fail (name ++ Bytes.ofText ": bad variable name")

/-- Mark variables, and give values to them if there are some. -/
def mark (exported readonly : Bool) (words : List Bytes) : Running Unit :=
  words.forM fun word => do
    let (name, value) := nameAndValue word
    requireName name
    match value with
    | some value => assign name value
    | none => pure ()
    modify fun s =>
      let v := (s.binding? name).getD {}
      s.bind name { v with exported := v.exported || exported, readonly := v.readonly || readonly }

/-- The commands `export` and `readonly`. -/
def runMark (name : String) (exported readonly : Bool) (arguments : List Bytes) : Running Nat := do
  let (letters, words) ← options { plain := "p" } arguments
  if !letters.isEmpty || words.isEmpty then
    showVariables (Bytes.ofText name) fun v =>
      (exported && v.exported) || (readonly && v.readonly)
  else
    mark exported readonly words
    return 0

def unsetVariable (name : Bytes) : Running Unit := do
  requireName name
  if (← get).isReadonly name then fail (name ++ Bytes.ofText ": is read only")
  modify (·.unbind name)

def runUnset (arguments : List Bytes) : Running Nat := do
  let (letters, names) ← options { plain := "vf" } arguments
  names.forM fun name => do
    if (letters.getLast?.map (·.1)) = some 'f' then
      modify fun s => { s with definitions := s.definitions.filter (·.1 ≠ name) }
    else unsetVariable name
  return 0

/-- Keep what a variable is, so that it is the same again when the function has ended. -/
def makeLocal (word : Bytes) (exported : Bool := false) : Running Unit := do
  let (name, value) := nameAndValue word
  requireName name
  let s ← get
  match s.frames with
  | [] => failText "not in a function"
  | frame :: frames =>
      set { s with frames := ((name, s.binding? name) :: frame) :: frames }
      match value with
      | some value => assign name value exported
      | none => pure ()

def runLocal (words : List Bytes) : Running Nat := do
  words.forM (makeLocal ·)
  return 0

/-- Begin to keep what variables are. -/
def openFrame : Running Unit := modify fun s => { s with frames := [] :: s.frames }

/-- Let the variables that were made local be what they were. -/
def closeFrame : Running Unit :=
  modify fun s =>
    match s.frames with
    | [] => s
    | frame :: frames =>
        frame.foldl (fun (s : ScriptState) (name, before) =>
          match before with
          | some v => s.bind name v
          | none => s.unbind name) { s with frames }

/-! ## Reading lines -/

/-- Read up to a newline, one byte at a time, so that nothing behind it is taken. A byte behind a
backslash separates nothing. The reply tells whether there was a newline. -/
def readLine (raw : Bool) : (fuel : Nat) → (escaped : Bool) → List Expansion.Piece →
    Running (List Expansion.Piece × Bool)
  | 0, _, acc => return (acc.reverse, false)
  | fuel + 1, escaped, acc => do
      match ← sys (.read 0 1) with
      | .error _ | .ok [] => return (acc.reverse, false)
      | .ok (b :: _) =>
          if b = 0 then readLine raw fuel escaped acc
          else if escaped then
            readLine raw fuel false
              (if b = Bytes.newline then acc else .glyph { byte := b, quoted := true } false :: acc)
          else if b = 92 && !raw then readLine raw fuel true acc
          else if b = Bytes.newline then return (acc.reverse, true)
          else readLine raw fuel false (.glyph { byte := b } true :: acc)

def runRead (arguments : List Bytes) : Running Nat := do
  let (letters, names) ← options { plain := "r", valued := "p" } arguments
  match letters.findRev? (·.1 = 'p') with
  | some (_, prompt) =>
      if ← sys (.isTerminal 0) then lift (Program.complainBytes prompt)
  | none => pure ()
  if names.isEmpty then failText "arg count"
  let (line, whole) ← readLine (letters.any (·.1 = 'r')) Program.patience false []
  let found := Expansion.fields (← get).separators line (some names.length)
  names.zipIdx.forM fun (name, i) => do
    requireName name
    assign name ((found[i]?.map Glyph.bytes).getD [])
  return if whole then 0 else 1

/-! ## Going through options -/

/-- What `getopts` found: the letter to store, the value to store, and where to go on. -/
structure FoundOption where
  letter : UInt8
  value : Option Bytes := none
  /-- What is written about it. -/
  message : Option String := none
  index : Nat
  offset : Nat := 0
  isEnd : Bool := false
deriving DecidableEq, Repr

/-- Whether a letter is an option, and whether it takes a value. -/
def optionKind (letters : Bytes) (c : UInt8) : Option Bool :=
  let letters := if letters.head? = some 58 then letters.tail else letters
  match letters.dropWhile (· ≠ c) with
  | [] => none
  | _ :: rest => if c = 58 then none else some (rest.head? = some 58)

/-- Find the next option. -/
def nextOption (letters : Bytes) (arguments : List Bytes) (index offset : Nat) : FoundOption :=
  let quiet := letters.head? = some 58
  let before := (arguments[index - 2]?).getD []
  let inside := 2 ≤ index && 0 < offset && offset < before.length
  let atEnd (index : Nat) : FoundOption := { letter := 63, index, isEnd := true }
  let take (word : Bytes) (index offset : Nat) : FoundOption :=
    match word.drop offset with
    | [] => atEnd index
    | c :: rest =>
        let name := String.singleton (Char.ofNat c.toNat)
        let goOn := if rest.isEmpty then 0 else offset + 1
        match optionKind letters c with
        | none =>
            if quiet then { letter := 63, value := some [c], index, offset := goOn }
            else { letter := 63, message := some ("Illegal option -" ++ name ++ "\n"), index,
                   offset := goOn }
        | some false => { letter := c, value := some [], index, offset := goOn }
        | some true =>
            if !rest.isEmpty then { letter := c, value := some rest, index }
            else match arguments[index - 1]? with
              | some value => { letter := c, value := some value, index := index + 1 }
              | none =>
                  if quiet then { letter := 58, value := some [c], index }
                  else { letter := 63, message := some ("No arg for -" ++ name ++ " option\n"),
                         index }
  if inside then take before index offset
  else match arguments[index - 1]? with
    | some (45 :: b :: more) =>
        if b :: more = [45] then atEnd (index + 1) else take (45 :: b :: more) (index + 1) 1
    | _ => atEnd index

def runGetopts (arguments : List Bytes) : Running Nat := do
  match arguments with
  | letters :: name :: words =>
      let s ← get
      let words := if words.isEmpty then s.positional else words
      let (index, offset) := if words.length + 1 < s.optionIndex then (1, 0)
        else (max 1 s.optionIndex, s.optionOffset)
      let found := nextOption letters words index offset
      if !found.isEnd then
        match found.value with
        | some value => assign (Bytes.ofText "OPTARG") value
        | none => modify (·.unbind (Bytes.ofText "OPTARG"))
      found.message.forM fun text => lift (Program.complain text)
      assign ScriptState.optionIndexName (Bytes.ofNat found.index)
      requireName name
      assign name [found.letter]
      modify ({ · with optionIndex := found.index, optionOffset := found.offset })
      return if found.isEnd then 1 else 0
  | _ => failText "Usage: getopts optstring var [arg...]"

end JobShell.Machine.Running
