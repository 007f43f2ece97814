import JobShell.Machine.Regex
import JobShell.Machine.Script.Pattern

/-!
# Reading regular expressions

Basic expressions write their operators with a backslash, extended ones without. A star or an anchor
where it can mean nothing stands for itself in a basic expression; in an extended one it is passed
over, or refused by those who are strict.

Results:
1. The examples at the end: what expressions match, and what is wrong with them.
-/

namespace JobShell.Machine.Regex

/-- How expressions are written. -/
structure Dialect where
  extended : Bool := false
  folding : Bool := false
  /-- Whether operators without anything in front of them are refused. -/
  strict : Bool := false
  /-- Whether letters behind a backslash stand for control characters. -/
  controls : Bool := false
deriving DecidableEq, Repr

/-- Why an expression cannot be read. -/
inductive PatternError
  | unclosedBracket
  | unclosedGroup
  | unopenedGroup
  | unclosedInterval
  | badInterval
  | badReference
  | badRange
  | badClass
  | looseClass
  | badRepetition
  | trailingBackslash
  | badCollation
  | tooBig
  | invalid
deriving DecidableEq, Repr

def PatternError.message : PatternError → String
  | .unclosedBracket => "Unmatched [, [^, [:, [., or [="
  | .unclosedGroup => "Unmatched ( or \\("
  | .unopenedGroup => "Unmatched ) or \\)"
  | .unclosedInterval => "Unmatched \\\x7b"
  | .badInterval => "Invalid content of \\\x7b\\\x7d"
  | .badReference => "Invalid back reference"
  | .badRange => "Invalid range end"
  | .badClass => "Invalid character class name"
  | .looseClass => "character class syntax is [[:space:]], not [:space:]"
  | .badRepetition => "Invalid preceding regular expression"
  | .trailingBackslash => "Trailing backslash"
  | .badCollation => "Invalid collation character"
  | .tooBig => "Regular expression too big"
  | .invalid => "Invalid regular expression"

/-! ## Brackets -/

def bytesWhere (fits : UInt8 → Bool) : Bytes := ((List.range 256).map UInt8.ofNat).filter fits

/-- One member of a bracket that can start or end a range, and what follows it. -/
def member? : Bytes → Option (UInt8 × Bytes)
  | 91 :: 46 :: b :: 46 :: 93 :: rest => some (b, rest)
  | b :: rest => some (b, rest)
  | [] => none

/-- The members of a bracket up to its end; `fuel` bounds their number. -/
def members (d : Dialect) :
    (fuel : Nat) → (first : Bool) → Bytes → Except PatternError (Bytes × Bytes)
  | 0, _, _ => .error .unclosedBracket
  | fuel + 1, first, text =>
      match text with
      | [] => .error .unclosedBracket
      | 91 :: 58 :: rest =>
          let name := rest.takeWhile (· ≠ 58)
          let after := rest.drop name.length
          if !(Bytes.ofText ":]").isPrefixOf after then .error .unclosedBracket
          else match Glyph.classes.find? fun (text, _) => Bytes.ofText text = name with
            | none => .error .badClass
            | some (_, fits) => do
                let (others, rest) ← members d fuel false (after.drop 2)
                return (bytesWhere fits ++ others, rest)
      | 91 :: 61 :: b :: 61 :: 93 :: rest => do
          let (others, rest) ← members d fuel false rest
          return (b :: others, rest)
      | 91 :: 46 :: b :: c :: rest =>
          if c ≠ 46 then
            .error (if ((c :: rest).zip rest).contains (46, 93) then .badCollation
              else .unclosedBracket)
          else if rest.head? ≠ some 93 then .error .unclosedBracket
          else do
            let (others, rest) ← members d fuel false rest.tail
            return (b :: others, rest)
      | text =>
          if text.head? = some 93 && !first then .ok ([], text.tail)
          else if d.controls && text.take 2 = Bytes.ofText "\\n" then do
            let (others, rest) ← members d fuel false (text.drop 2)
            return (Bytes.newline :: others, rest)
          else if d.controls && text.take 2 = Bytes.ofText "\\t" then do
            let (others, rest) ← members d fuel false (text.drop 2)
            return (Bytes.tab :: others, rest)
          else match member? text with
            | none => .error .unclosedBracket
            | some (a, rest) =>
                let isRange := rest.head? = some 45 && (rest.tail.head?).any (· ≠ 93)
                match if isRange then member? rest.tail else none with
                | some (b, rest) =>
                    if b < a then .error .badRange
                    else do
                      let (others, rest) ← members d fuel false rest
                      return (bytesWhere (fun x => a ≤ x && x ≤ b) ++ others, rest)
                | none => do
                    let (others, rest) ← members d fuel false rest
                    return (a :: others, rest)

/-- Both cases of a letter. -/
def bothCases (b : UInt8) : Bytes :=
  if 65 ≤ b && b ≤ 90 then [b, b + 32] else if 97 ≤ b && b ≤ 122 then [b, b - 32] else [b]

/-- The bytes that a bracket stands for, read from behind its opening, and what follows it. -/
def bracket (d : Dialect) (text : Bytes) : Except PatternError (Bytes × Bytes) := do
  let negated := text.head? = some 94
  let inner := if negated then text.tail else text
  if inner.isEmpty then throw .invalid
  let (found, rest) ← members d (inner.length + 1) true inner
  let body := inner.take (inner.length - rest.length - 1)
  if !negated && 1 < body.length && body.head? = some 58 && body.getLast? = some 58 then
    throw .looseClass
  let found := if d.folding then found.flatMap bothCases else found
  return (if negated then bytesWhere (!found.contains ·) else bytesWhere found.contains, rest)

/-! ## Tokens -/

inductive Token
  | plain (b : UInt8)
  | any
  | oneOf (bs : Bytes)
  | edge (e : Edge)
  | star
  | plus
  | question
  | interval (least : Nat) (most : Option Nat)
  | opening
  | closing
  | bar
  | caret
  | dollar
  | again (number : Nat)
deriving DecidableEq, Repr

/-- How often a part can be repeated at most. -/
def greatestCount : Nat := 32767

/-- An interval behind its opening brace, and what follows it. -/
def interval (d : Dialect) (text : Bytes) : Except PatternError (Token × Bytes) :=
  let close := Bytes.ofText (if d.extended then "\x7d" else "\\\x7d")
  let low := text.takeWhile Bytes.isDigit
  let afterLow := text.drop low.length
  let (high, rest, single) := match afterLow with
    | 44 :: more =>
        let high := more.takeWhile Bytes.isDigit
        (high, more.drop high.length, false)
    | more => (low, more, true)
  if !close.isPrefixOf rest then
    .error (if rest.isEmpty then .unclosedInterval else .badInterval)
  else
    let least := (Bytes.decimal? low).getD 0
    let most := if single then some least else Bytes.decimal? high
    if (single && low.isEmpty) || most.any fun m => decide (m < least) then .error .badInterval
    else if greatestCount < max least (most.getD 0) then .error .tooBig
    else .ok (.interval least most, rest.drop close.length)

/-- The sets and edges that letters behind a backslash stand for. -/
def named? (b : UInt8) : Option Token :=
  let isSpace (b : UInt8) : Bool := b == 32 || (9 ≤ b && b ≤ 13)
  match Char.ofNat b.toNat with
  | 'w' => some (.oneOf (bytesWhere isWordByte))
  | 'W' => some (.oneOf (bytesWhere (!isWordByte ·)))
  | 's' => some (.oneOf (bytesWhere isSpace))
  | 'S' => some (.oneOf (bytesWhere (!isSpace ·)))
  | 'b' => some (.edge .anyWord)
  | 'B' => some (.edge .noWord)
  | '<' => some (.edge .wordStart)
  | '>' => some (.edge .wordEnd)
  | '`' => some (.edge .lineStart)
  | '\'' => some (.edge .lineEnd)
  | _ => none

/-- The control character that a letter stands for. -/
def control? (b : UInt8) : Option UInt8 :=
  [((110 : UInt8), (10 : UInt8)), (116, 9), (102, 12), (118, 11), (97, 7), (114, 13)].lookup b

/-- The operator that a byte means: by itself in extended expressions, behind a backslash in basic
ones. -/
def operator? (b : UInt8) : Option Token :=
  match Char.ofNat b.toNat with
  | '(' => some .opening
  | ')' => some .closing
  | '|' => some .bar
  | '+' => some .plus
  | '?' => some .question
  | _ => none

/-- Cut an expression into tokens; `fuel` bounds their number. -/
def tokens (d : Dialect) : (fuel : Nat) → Bytes → Except PatternError (List Token)
  | 0, _ => .ok []
  | fuel + 1, text =>
      let plain (b : UInt8) (rest : Bytes) : Except PatternError (List Token) := do
        return .plain b :: (← tokens d fuel rest)
      match text with
      | [] => .ok []
      | [92] => .error .trailingBackslash
      | 92 :: b :: rest => do
          if 49 ≤ b && b ≤ 57 then return .again (b.toNat - 48) :: (← tokens d fuel rest)
          else match named? b with
            | some t => return t :: (← tokens d fuel rest)
            | none =>
                match if d.controls then control? b else none with
                | some c => plain c rest
                | none =>
                    if d.extended then plain b rest
                    else if b = 123 then
                      let (t, rest) ← interval d rest
                      return t :: (← tokens d fuel rest)
                    else match operator? b with
                      | some t => return t :: (← tokens d fuel rest)
                      | none => plain b rest
      | b :: rest => do
          if b = 91 then
            let (bs, rest) ← bracket d rest
            return .oneOf bs :: (← tokens d fuel rest)
          else if b = 46 then return .any :: (← tokens d fuel rest)
          else if b = 42 then return .star :: (← tokens d fuel rest)
          else if b = 94 then return .caret :: (← tokens d fuel rest)
          else if b = 36 then return .dollar :: (← tokens d fuel rest)
          else if d.extended && b = 123 then
            match interval d rest with
            | .ok (t, rest) => return t :: (← tokens d fuel rest)
            | .error .tooBig => throw .tooBig
            | .error _ => plain b rest
          else match if d.extended then operator? b else none with
            | some t => return t :: (← tokens d fuel rest)
            | none => plain b rest

/-! ## Expressions -/

/-- What is left to read, and how many groups there are. -/
structure Reader where
  rest : List Token
  groups : Nat := 0
deriving DecidableEq, Repr

abbrev Reading := StateT Reader (Except PatternError)

/-- Whether a branch ends in front of some tokens. -/
def endsBranch (depth : Nat) : List Token → Bool
  | [] | .bar :: _ => true
  | .closing :: _ => 0 < depth
  | _ => false

/-- An expression under the repetitions that follow it. -/
def repetitions (r : Regex) : List Token → Regex × List Token
  | .star :: rest => repetitions (.repeated r 0 none) rest
  | .plus :: rest => repetitions (.repeated r 1 none) rest
  | .question :: rest => repetitions (.repeated r 0 (some 1)) rest
  | .interval least most :: rest => repetitions (.repeated r least most) rest
  | rest => (r, rest)

/-- The text of an operator that stands for itself. -/
def Token.text : Token → Bytes
  | .star => [42]
  | .plus => [43]
  | .question => [63]
  | .interval least most =>
      let limit : Bytes := match most with
        | some most => if most = least then [] else 44 :: Bytes.ofNat most
        | none => [44]
      123 :: Bytes.ofNat least ++ limit ++ [125]
  | _ => []

def Token.isInterval : Token → Bool
  | .interval .. => true
  | _ => false

/-- The expression that matches a text and nothing else. -/
def literal (bs : Bytes) : Regex := bs.foldr (fun b r => .seq (.byte b) r) .empty

/-- The operators that have nothing in front of them, as they are shown. -/
def loose : (start : Bool) → List Token → List String
  | _, [] => []
  | start, t :: rest =>
      let here := match t with
        | .star => ["*"]
        | .plus => ["+"]
        | .question => ["?"]
        | .interval .. => ["\x7b...\x7d"]
        | _ => []
      if start && !here.isEmpty then here ++ loose true rest
      else loose (t = .opening || t = .bar) rest

/-- What in an expression, though it can be read, is probably not meant. -/
def doubtful (d : Dialect) (pattern : Bytes) : List String :=
  if !d.extended then []
  else match tokens d (pattern.length + 1) pattern with
    | .ok all => loose true all
    | .error _ => []

mutual

/-- Branches with bars between them. -/
def branches (d : Dialect) : (fuel depth : Nat) → Reading Regex
  | 0, _ => return .empty
  | fuel + 1, depth => do
      let first ← branch d fuel depth true
      match (← get).rest with
      | .bar :: rest =>
          modify ({ · with rest })
          return .either first (← branches d fuel depth)
      | _ => return first

/-- One part after another up to the end of a branch; `start` tells whether there was none yet. -/
def branch (d : Dialect) : (fuel depth : Nat) → (start : Bool) → Reading Regex
  | 0, _, _ => return .empty
  | fuel + 1, depth, start => do
      let s ← get
      if endsBranch depth s.rest then return .empty
      match s.rest with
      | [] => return .empty
      | t :: rest =>
          set { s with rest }
          let bare := start && !d.extended
          match t with
          | .star | .plus | .question | .interval .. =>
              if d.strict && (d.extended || t.isInterval) then throw .badRepetition
              else if d.extended then branch d fuel depth start
              else continued d fuel depth (literal t.text)
          | .caret =>
              if d.extended then continued d fuel depth (.edge .lineStart)
              else if bare then return .seq (.edge .lineStart) (← branch d fuel depth true)
              else continued d fuel depth (.byte 94)
          | .dollar =>
              if d.extended || endsBranch depth rest then continued d fuel depth (.edge .lineEnd)
              else continued d fuel depth (.byte 36)
          | .opening =>
              let number := s.groups + 1
              set ({ rest, groups := number } : Reader)
              let inner ← branches d fuel (depth + 1)
              let after ← get
              match after.rest with
              | .closing :: rest =>
                  set { after with rest }
                  continued d fuel depth (.group number inner)
              | _ => throw .unclosedGroup
          | .closing =>
              if d.extended && !d.strict then continued d fuel depth (.byte 41)
              else throw .unopenedGroup
          | .again n =>
              if s.groups < n then throw .badReference else continued d fuel depth (.again n)
          | .plain b => continued d fuel depth (.byte (folded d.folding b))
          | .any => continued d fuel depth .any
          | .oneOf bs => continued d fuel depth (.oneOf bs)
          | .edge e => continued d fuel depth (.edge e)
          | .bar => return .empty

/-- A part with its repetitions, and those behind it. -/
def continued (d : Dialect) : (fuel depth : Nat) → Regex → Reading Regex
  | 0, _, r => return r
  | fuel + 1, depth, r => do
      let s ← get
      let (r, rest) := repetitions r s.rest
      set { s with rest }
      return .seq r (← branch d fuel depth false)

end

/-- Read an expression. -/
def parse? (d : Dialect) (pattern : Bytes) : Except PatternError Regex := do
  let all ← tokens d (pattern.length + 1) pattern
  let (r, _) ← (branches d (3 * all.length + 3) 0).run { rest := all }
  return r

/-- How many groups an expression has. -/
def groupCount : Regex → Nat
  | .seq a b | .either a b => groupCount a + groupCount b
  | .repeated r _ _ => groupCount r
  | .group _ r => groupCount r + 1
  | _ => 0

/-! ## Examples -/

/-- Where an expression matches a text, if it can be read. -/
def place (extended : Bool) (pattern text : String) : Option (Nat × Nat) := do
  let r ← (parse? { extended } (Bytes.ofText pattern)).toOption
  let m ← r.find? (Bytes.ofText text).toArray
  return (m.start, m.stop)

example : place false "b*c" "abbcc" = some (1, 4) := by decide +kernel
example : place true "(a|ab)(c|bcd)?" "xabcd" = some (1, 5) := by decide +kernel
example : place false "\\(.\\)\\1" "abccd" = some (2, 4) := by decide +kernel
example : place false "^*a" "*a" = some (0, 2) := by decide +kernel
example : place true "[[:digit:]]+$" "a12b345" = some (4, 7) := by decide +kernel
example : place true "x{2,3}" "axxxx" = some (1, 4) := by decide +kernel
example : place false "\\(a" "a" = none := by decide +kernel

end JobShell.Machine.Regex
