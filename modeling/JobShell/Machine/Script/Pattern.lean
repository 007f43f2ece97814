import JobShell.Machine.Program

/-!
# Patterns of scripts

Patterns of names and of values: `*`, `?` and brackets, unless they are quoted.
-/

namespace JobShell.Machine

/-- A byte of an expanded word, and whether it stands for itself in a pattern. -/
structure Glyph where
  byte : UInt8
  quoted : Bool := false
deriving DecidableEq, Repr

namespace Glyph

def ofBytes (quoted : Bool) (bs : Bytes) : List Glyph := bs.map fun byte => { byte, quoted }

def bytes (gs : List Glyph) : Bytes := gs.map (·.byte)

def isPlain (g : Glyph) (b : UInt8) : Bool := g.byte = b && !g.quoted

/-- Whether a text holds an unquoted pattern. -/
def isPattern (gs : List Glyph) : Bool :=
  gs.any fun g => g.isPlain 42 || g.isPlain 63 || g.isPlain 91

/-! ## Brackets -/

/-- The classes of bytes that can be named in brackets. -/
def classes : List (String × (UInt8 → Bool)) :=
  let digit (b : UInt8) : Bool := 48 ≤ b && b ≤ 57
  let upper (b : UInt8) : Bool := 65 ≤ b && b ≤ 90
  let lower (b : UInt8) : Bool := 97 ≤ b && b ≤ 122
  let graph (b : UInt8) : Bool := 33 ≤ b && b ≤ 126
  [("alnum", fun b => digit b || upper b || lower b), ("alpha", fun b => upper b || lower b),
    ("blank", fun b => b == 32 || b == 9), ("cntrl", fun b => b < 32 || b == 127),
    ("digit", digit), ("graph", graph), ("lower", lower), ("print", fun b => 32 ≤ b && b ≤ 126),
    ("punct", fun b => graph b && !(digit b || upper b || lower b)),
    ("space", fun b => b == 32 || (9 ≤ b && b ≤ 13)), ("upper", upper),
    ("xdigit", fun b => digit b || (65 ≤ b && b ≤ 70) || (97 ≤ b && b ≤ 102))]

/-- The class that is named behind an opening bracket, and what follows it. -/
def class? (gs : List Glyph) : Option ((UInt8 → Bool) × List Glyph) :=
  classes.findSome? fun (name, fits) =>
    let text := Bytes.ofText ("[:" ++ name ++ ":]")
    if text.isPrefixOf (bytes gs) then some (fits, gs.drop text.length) else none

/-- Whether a byte is a member of a bracket, and what follows the bracket; nothing if it has no
end. `fuel` bounds the members. -/
def members (b : UInt8) : (fuel : Nat) → (first found : Bool) → List Glyph →
    Option (Bool × List Glyph)
  | 0, _, _, _ => none
  | fuel + 1, first, found, gs =>
      match gs with
      | [] => none
      | g :: rest =>
          if g.isPlain 93 && !first then some (found, rest)
          else match if g.isPlain 91 then class? gs else none with
            | some (fits, after) => members b fuel false (found || fits b) after
            | none =>
                match rest with
                | dash :: hi :: after =>
                    if dash.isPlain 45 && !hi.isPlain 93 then
                      members b fuel false (found || (g.byte ≤ b && b ≤ hi.byte)) after
                    else members b fuel false (found || b = g.byte) rest
                | _ => members b fuel false (found || b = g.byte) rest

/-- Whether a byte fits a bracket behind its opening, and what follows the bracket. -/
def bracket? (b : UInt8) (gs : List Glyph) : Option (Bool × List Glyph) :=
  match gs with
  | g :: rest =>
      if g.isPlain 33 || g.isPlain 94 then
        (members b (rest.length + 1) true false rest).map fun (found, after) => (!found, after)
      else members b (gs.length + 1) true false gs
  | [] => none

/-! ## Matching -/

/-- Whether a pattern matches a whole text; `fuel` bounds the length of both together. -/
def fitsWithin : (fuel : Nat) → List Glyph → Bytes → Bool
  | 0, _, _ => false
  | fuel + 1, gs, text =>
      match gs, text with
      | [], text => text.isEmpty
      | g :: rest, text =>
          if g.isPlain 42 then
            fitsWithin fuel rest text || (!text.isEmpty && fitsWithin fuel (g :: rest) text.tail)
          else match text with
            | [] => false
            | b :: text =>
                if g.isPlain 63 then fitsWithin fuel rest text
                else match if g.isPlain 91 then bracket? b rest else none with
                  | some (found, after) => found && fitsWithin fuel after text
                  | none => g.byte = b && fitsWithin fuel rest text

def fits (pattern : List Glyph) (text : Bytes) : Bool :=
  fitsWithin (pattern.length + text.length + 1) pattern text

/-- Cut off what a pattern matches at one end of a text: the shortest part, or the longest one. -/
def trim (fromEnd longest : Bool) (pattern : List Glyph) (text : Bytes) : Bytes :=
  let lengths := List.range (text.length + 1)
  let lengths := if longest then lengths.reverse else lengths
  let cut (n : Nat) : Bytes × Bytes :=
    if fromEnd then (text.drop (text.length - n), text.take (text.length - n))
    else (text.take n, text.drop n)
  match lengths.find? fun n => fits pattern (cut n).1 with
  | some n => (cut n).2
  | none => text

/-! ## Names of files -/

/-- The names in a directory that a pattern matches, in order. A leading dot is matched only by a
dot. -/
def select (pattern : List Glyph) (names : List Bytes) : List Bytes :=
  let dotted := (pattern.head?.map (·.byte == 46)).getD false
  ((names ++ [FileTree.dot, FileTree.dotDot]).filter fun name =>
    (dotted || name.head? ≠ some 46) && fits pattern name).mergeSort Bytes.le

/-- The parts of a text between slashes. -/
def components : List Glyph → List (List Glyph)
  | [] => [[]]
  | g :: rest =>
      match components rest with
      | [] => [[g]]
      | part :: parts => if g.byte = Bytes.slash then [] :: part :: parts else (g :: part) :: parts

open Program in
/-- The paths that a pattern matches below a directory whose path is written as given. -/
def search : (directory : Bytes) → List (List Glyph) → Program (List Bytes)
  | directory, [] => return [directory]
  | directory, part :: rest => do
      let here (name : Bytes) : Bytes := if rest.isEmpty then name else name ++ [Bytes.slash]
      if isPattern part then
        match ← call (.entries (if directory.isEmpty then FileTree.dot else directory)) with
        | .error _ => return []
        | .ok names =>
            let found ← (select part names).mapM fun name => search (directory ++ here name) rest
            return found.flatten
      else if rest.isEmpty then
        let path := directory ++ bytes part
        match ← call (.examine path false) with
        | .ok _ => return [path]
        | .error _ => return []
      else search (directory ++ here (bytes part)) rest
termination_by _ parts => parts.length

/-- The words that a text stands for: the paths that it matches, or the text itself. -/
def paths (gs : List Glyph) : Program (List Bytes) := do
  if isPattern gs then
    let found ← search [] (components gs)
    return if found.isEmpty then [bytes gs] else found
  else return [bytes gs]

end Glyph

end JobShell.Machine
