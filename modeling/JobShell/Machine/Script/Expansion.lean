import JobShell.Machine.Script.Arithmetic
import JobShell.Machine.Script.Pattern
import JobShell.Machine.Script.State

/-!
# Expanding words

A word becomes fields in three steps: its parts give pieces, what came from parameters is split at
the separators unless it was quoted, and a field with an unquoted pattern becomes the paths that it
matches, if there are any.
-/

namespace JobShell.Machine.Expansion

open Running

/-- A piece of an expanded word. -/
inductive Piece
  /-- A byte, at which a field can end if it is a separator. -/
  | glyph (g : Glyph) (splits : Bool)
  /-- There is a field even if nothing is in it. -/
  | quotes
  /-- A field ends here in any case. -/
  | cut
  /-- A field ends here if it has begun. -/
  | gap
  /-- Here starts what a part gave; `keeps` tells whether it ends in a field even if that is
  empty. -/
  | region (keeps : Bool)
deriving DecidableEq, Repr

def text (quoted : Bool) (bs : Bytes) : List Piece :=
  bs.map fun byte => .glyph { byte, quoted } (!quoted)

def glyphs (pieces : List Piece) : List Glyph :=
  pieces.filterMap fun
    | .glyph g _ => some g
    | _ => none

def bytes (pieces : List Piece) : Bytes := Glyph.bytes (glyphs pieces)

/-! ## Fields -/

abbrev Field := List Glyph

/-- How far pieces have been split. -/
structure Splitting where
  /-- The finished fields, the last one first. -/
  finished : List Field := []
  /-- The field at hand, its last glyph first. -/
  field : Field := []
  /-- Whether there is a field at hand even if nothing is in it. -/
  isThere : Bool := false
  /-- Whether a blank ended the field before. -/
  blankBefore : Bool := false
  keeps : Bool := false
  /-- How many fields can still be finished, if there is a limit. -/
  left : Option Nat := none
  /-- How many glyphs at the end of the last field are to be dropped. -/
  trailing : Nat := 0
deriving DecidableEq, Repr

def isWhite (b : UInt8) : Bool := Bytes.isBlank b || b == Bytes.newline

namespace Splitting

def hasBegun (s : Splitting) : Bool := s.isThere || !s.field.isEmpty

def finish (s : Splitting) : Splitting :=
  { s with finished := s.field.reverse :: s.finished, field := [], isThere := false }

def push (s : Splitting) (g : Glyph) : Splitting := { s with field := g :: s.field }

/-- Meet a separator, or another byte, when no more fields can be finished. -/
def pushLast (s : Splitting) (g : Glyph) (separates white : Bool) : Splitting :=
  let s' := s.push g
  if white then { s' with trailing := s.trailing + 1 }
  else if separates && s.blankBefore then
    { s' with trailing := if s.trailing = 0 then 0 else s.trailing + 1, blankBefore := false }
  else { s' with trailing := 0, blankBefore := false }

/-- Meet a separator; `white` tells whether it is a blank. -/
def separate (s : Splitting) (g : Option Glyph) (white : Bool) : Splitting :=
  if s.blankBefore then
    -- One separator of another kind belongs to the blanks before it.
    if white then s else { s with blankBefore := false }
  else if !s.hasBegun && white then s
  else match s.left with
    | some 1 =>
        let s := { s with left := some 0, blankBefore := white, trailing := 1 }
        match g with
        | some g => s.push g
        | none => s
    | left => { s.finish with blankBefore := white, left := left.map (· - 1) }

def step (separators : Bytes) (s : Splitting) : Piece → Splitting
  | .glyph g splits =>
      let separates := splits && separators.contains g.byte
      let white := separates && isWhite g.byte
      if s.left = some 0 then s.pushLast g separates white
      else if separates then s.separate (some g) white
      else { s.push g with blankBefore := false }
  | .quotes => { s with isThere := true }
  | .cut => { s.finish with blankBefore := false }
  | .gap => s.separate none true
  | .region keeps => { s with blankBefore := false, keeps }

/-- The fields in their order. -/
def result (s : Splitting) : List Field :=
  let s := { s with field := s.field.drop s.trailing }
  (if s.keeps || s.hasBegun then s.finish else s).finished.reverse

end Splitting

/-- Split pieces into fields, but not into more than a limit allows. -/
def fields (separators : Bytes) (pieces : List Piece) (limit : Option Nat := none) : List Field :=
  (pieces.foldl (Splitting.step separators) { left := limit }).result

/-! ## Parameters -/

/-- The letters of options in the order in which they are shown. -/
def optionOrder : List Char := "ubaCEVvxsnmiIfe".toList

/-- The arguments of the script, put together as their quotes and the place ask for. -/
def arguments (s : ScriptState) (full quoted each : Bool) : List Piece :=
  let between : List Piece :=
    if full && quoted && each then [.cut]
    else if full && !quoted then [.gap]
    else match s.lookup? (Bytes.ofText "IFS") with
      | some separators => text quoted (separators.take 1)
      | none => text quoted [Bytes.space]
  between.intercalate (s.positional.map (text quoted))

/-- What a parameter stands for; nothing if it has no value. -/
def value? (s : ScriptState) (full quoted : Bool) (name : Bytes) : Option (List Piece) :=
  let number (n : Int) : Option (List Piece) := some (text quoted (Bytes.ofText (toString n)))
  match name with
  | [36] => number s.pid
  | [63] => number s.status
  | [35] => number s.positional.length
  | [33] => s.lastChild.bind number
  | [45] =>
      some (text quoted (Bytes.ofText (String.ofList (optionOrder.filter s.isOn))))
  | [64] => some (arguments s full quoted true)
  | [42] => some (arguments s full quoted false)
  | _ =>
      match Bytes.decimal? name with
      | some 0 => some (text quoted s.name)
      | some (n + 1) => s.positional[n]?.map (text quoted)
      | none =>
          if name = Bytes.ofText "LINENO" && (s.binding? name).isNone then number s.shownLine
          else (s.lookup? name).map (text quoted)

/-- The home of a user, or of the one who runs the script. -/
def home? (s : ScriptState) (user : Bytes) : Option Bytes :=
  if user.isEmpty then s.lookup? (Bytes.ofText "HOME")
  else if user = Bytes.ofText "root" then some (Bytes.ofText "/root")
  else none

/-- Where a tilde stands for a home. -/
inductive TildePlace
  | nowhere
  /-- At the front of the word. -/
  | front
  /-- At the front and behind colons, as in the value of an assignment. -/
  | colons
deriving DecidableEq, Repr

namespace TildePlace

/-- The name behind a tilde, if nothing in it is quoted or depends on anything. -/
def user? {σ : Type} (t : TildePlace) (rest : List (WordPart σ)) : Option Bytes :=
  let ends (b : UInt8) : Bool := b = Bytes.slash || (t = .colons && b = 58)
  let name := rest.takeWhile fun
    | .byte b false => !ends b
    | _ => false
  match rest.drop name.length with
  | [] | .byte _ false :: _ => WordPart.plain? name
  | _ => none

end TildePlace

/-! ## Parts of words -/

/-- How the commands inside words are run: what they write. -/
abbrev Substitute := Script → Running Bytes

def trimNewlines (out : Bytes) : Bytes := (out.reverse.dropWhile (· = Bytes.newline)).reverse

/-- Complain about a parameter without a value. -/
def notSet {α : Type} (name : Bytes) (message : Bytes) : Running α :=
  fail (name ++ Bytes.ofText ": " ++ message)

/-- Give a variable a value, whose name may not be one. -/
def assignChecked (name value : Bytes) : Running Unit := do
  if Word.isName name then assign name value
  else fail (name ++ Bytes.ofText ": bad variable name")

/-- The value of an arithmetic expression. -/
def calculate (expression : Bytes) : Running Int := do
  let s ← get
  let value (name : Bytes) : Bytes := bytes ((value? s false true name).getD [])
  match Arithmetic.evaluate value expression with
  | .error e => fail (e.message expression)
  | .ok (n, assigned) =>
      assigned.reverse.forM fun (name, n) => assign name (Bytes.ofText (toString n))
      return n

/-- Whether a part is `$@` in double quotes. -/
def isAllArguments {σ : Type} : WordPart σ → Bool
  | .parameter [64] .value _ true => true
  | _ => false

mutual

/-- What a part of a word gives. Where words are `full`, they will be split into fields. -/
def expandPart (run : Substitute) (full inner : Bool) : WordPart Script → Running (List Piece)
  | .byte b quoted => return [.glyph { byte := b, quoted } (inner && !quoted)]
  | .quotes => return [.quotes]
  | .parameter name action word quoted => do
      let s ← get
      let value := value? s full quoted name
      let isMissing (emptyToo : Bool) : Bool :=
        match value with
        | none => true
        | some pieces => emptyToo && pieces.isEmpty
      let record (pieces : List Piece) : List Piece :=
        if !quoted then .region false :: pieces
        else if name = [64] && !s.positional.isEmpty then .region true :: pieces
        else pieces
      let require : Running Unit := do
        if value.isNone && s.isOn 'u' then notSet name (Bytes.ofText "parameter not set")
      match action with
      | .bad => failText "Bad substitution"
      | .value =>
          require
          return record (value.getD [])
      | .length =>
          require
          return record (text quoted (Bytes.ofNat (value.getD []).length))
      | .fallback emptyToo =>
          if isMissing emptyToo then expandList run full (!quoted) .front true 0 false word
          else return record (value.getD [])
      | .alternative emptyToo =>
          if isMissing emptyToo then return record []
          else expandList run full (!quoted) .front true 0 false word
      | .demand emptyToo =>
          if isMissing emptyToo then
            let message ← expandList run false false .front true 0 false word
            if word.isEmpty then
              notSet name (Bytes.ofText
                (if emptyToo then "parameter not set or null" else "parameter not set"))
            else notSet name (bytes message)
          else return record (value.getD [])
      | .assign emptyToo =>
          if isMissing emptyToo then
            let given ← expandList run false false .front true 0 false word
            assignChecked name (bytes given)
            return record (text quoted (bytes given))
          else return record (value.getD [])
      | .trim fromEnd longest =>
          require
          let pattern ← expandList run false false .front true 0 false word
          let before := bytes (value.getD [])
          return record (text quoted (Glyph.trim fromEnd longest (glyphs pattern) before))
  | .command c quoted => do
      let out := trimNewlines ((← run c).filter (· ≠ 0))
      return if quoted then text true out else .region false :: text false out
  | .arithmetic expression quoted => do
      let source ← expandList run false false .nowhere false 0 false expression
      let n ← calculate (bytes source)
      let out := Bytes.ofText (toString n)
      return if quoted then text true out else .region false :: text false out

/-- What the parts of a word give. `here` tells whether a tilde stands for a home at this place,
`skipped` how many parts have been dealt with, and `bare` that the next quotes make no field. In an
`inner` word, plain bytes can separate fields, too. -/
def expandList (run : Substitute) (full inner : Bool) (tildes : TildePlace) (here : Bool)
    (skipped : Nat) (bare : Bool) : List (WordPart Script) → Running (List Piece)
  | [] => return []
  | part :: rest => do
      if 0 < skipped then expandList run full inner tildes here (skipped - 1) bare rest
      else
        let home ← match part, here && tildes ≠ .nowhere with
          | .byte 126 false, true => do
              match tildes.user? rest with
              | some user =>
                  match home? (← get) user with
                  | some home => pure (some (home, user.length))
                  | none => pure none
              | none => pure none
          | _, _ => pure none
        match home with
        | some (home, length) =>
            let others ← expandList run full inner tildes false length false rest
            return text true home ++ others
        | none =>
            let opensBare := match part, rest with
              | .quotes, next :: .quotes :: _ => isAllArguments next
              | _, _ => false
            let (isQuotes, isColon) := match part with
              | .quotes => (true, false)
              | .byte 58 false => (false, true)
              | _ => (false, false)
            let pieces ← if isQuotes && (opensBare || bare) then pure []
              else expandPart run full inner part
            let others ← expandList run full inner tildes (isColon && tildes = .colons) 0
              (opensBare || (bare && !isQuotes)) rest
            return pieces ++ others

end

/-! ## Whole words -/

/-- The words that a field stands for. -/
def unfold (f : Field) : Running (List Bytes) := do
  if (← get).isOn 'f' then return [Glyph.bytes f] else lift (Glyph.paths f)

/-- The words that a word stands for. -/
def words (run : Substitute) (w : Word) : Running (List Bytes) := do
  let pieces ← expandList run true false .front true 0 false w
  return (← (fields (← get).separators pieces).mapM unfold).flatten

/-- The glyphs of a word that is not split. -/
def pattern (run : Substitute) (w : Word) : Running (List Glyph) := do
  return glyphs (← expandList run false false .front true 0 false w)

/-- The text of a word that is not split. -/
def single (run : Substitute) (w : Word) : Running Bytes := do
  return Glyph.bytes (← pattern run w)

/-- The value of an assignment. -/
def assigned (run : Substitute) (w : Word) : Running Bytes := do
  return bytes (← expandList run false false .colons true 0 false w)

/-- The text of a document, in which no tilde stands for anything. -/
def document (run : Substitute) (w : Word) : Running Bytes := do
  return bytes (← expandList run false false .nowhere false 0 false w)

end JobShell.Machine.Expansion
