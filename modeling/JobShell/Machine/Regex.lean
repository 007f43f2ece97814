import JobShell.Bytes

/-!
# Regular expressions

What a regular expression matches in a text. Of the matches that start first the longest one
counts. Groups keep what they matched last.
-/

namespace JobShell.Machine

/-- A place between two bytes of a text. -/
inductive Edge
  | lineStart
  | lineEnd
  | wordStart
  | wordEnd
  | anyWord
  | noWord
deriving DecidableEq, Repr

inductive Regex
  | empty
  | any
  | byte (b : UInt8)
  | oneOf (bs : Bytes)
  | edge (e : Edge)
  | seq (first second : Regex)
  | either (first second : Regex)
  | repeated (r : Regex) (least : Nat) (most : Option Nat)
  | group (number : Nat) (r : Regex)
  /-- What a group matched. -/
  | again (number : Nat)
deriving DecidableEq, Repr

namespace Regex

/-- Where a match has come to, and the parts of the text that its groups matched last. -/
structure Point where
  position : Nat
  groups : List (Nat × Nat × Nat) := []
deriving DecidableEq, Repr

/-- Points without those at a position at which there is one already. -/
def distinct (points : List Point) : List Point :=
  points.foldl
    (fun found p => if found.any (·.position == p.position) then found else found ++ [p]) []

def isWordByte (b : UInt8) : Bool :=
  (48 ≤ b && b ≤ 57) || (65 ≤ b && b ≤ 90) || (97 ≤ b && b ≤ 122) || b == 95

/-- Whether an edge lies at a position of a text. -/
def Edge.holds (text : Array UInt8) (position : Nat) : Edge → Bool :=
  let before := 0 < position && (text[position - 1]?).any isWordByte
  let after := (text[position]?).any isWordByte
  fun
  | .lineStart => position = 0
  | .lineEnd => position = text.size
  | .wordStart => !before && after
  | .wordEnd => before && !after
  | .anyWord => before != after
  | .noWord => before == after

/-- A byte in the case that does not matter. -/
def folded (folding : Bool) (b : UInt8) : UInt8 :=
  if folding && 65 ≤ b && b ≤ 90 then b + 32 else b

/-- The part of a text between two positions. -/
def part (text : Array UInt8) (start stop : Nat) : Bytes := (text.extract start stop).toList

/-- All places to which repeating a step leads, those after most repetitions first; `fuel` bounds
the repetitions. -/
def repeatStep (step : Point → List Point) (least : Nat) (most : Option Nat) :
    (fuel count : Nat) → (frontier found : List Point) → List Point
  | 0, _, _, found => found
  | fuel + 1, count, frontier, found =>
      let found := if least ≤ count then
          frontier.filter (fun p => !found.any (·.position == p.position)) ++ found
        else found
      if most = some count || frontier.isEmpty then found
      else
        let next := distinct (frontier.flatMap step)
        let next := if least ≤ count then
            next.filter fun p => !found.any (·.position == p.position)
          else next
        repeatStep step least most fuel (count + 1) next found

/-- All places to which an expression leads from a place of a text. -/
def outcomes (text : Array UInt8) (folding : Bool) : Regex → Point → List Point
  | .empty, p => [p]
  | .any, p => if p.position < text.size then [{ p with position := p.position + 1 }] else []
  | .byte b, p =>
      if (text[p.position]?).map (folded folding) = some b then
        [{ p with position := p.position + 1 }]
      else []
  | .oneOf bs, p =>
      if (text[p.position]?).any bs.contains then [{ p with position := p.position + 1 }] else []
  | .edge e, p => if Edge.holds text p.position e then [p] else []
  | .seq a b, p => distinct ((outcomes text folding a p).flatMap (outcomes text folding b))
  | .either a b, p => distinct (outcomes text folding a p ++ outcomes text folding b p)
  | .repeated r least most, p =>
      repeatStep (outcomes text folding r) least most (text.size + least + 2) 0 [p] []
  | .group n r, p =>
      (outcomes text folding r p).map fun q =>
        { q with groups := (n, p.position, q.position) :: q.groups.filter (·.1 ≠ n) }
  | .again n, p =>
      match p.groups.lookup n with
      | none => []
      | some (start, stop) =>
          let old := (part text start stop).map (folded folding)
          let size := stop - start
          let new := (part text p.position (p.position + size)).map (folded folding)
          if old = new then [{ p with position := p.position + size }] else []

/-- A match: where it starts and ends, and what its groups matched. -/
structure Match where
  start : Nat
  stop : Nat
  groups : List (Nat × Nat × Nat) := []
deriving DecidableEq, Repr

/-- How a text is searched. -/
structure Search where
  folding : Bool := false
  /-- Whether a match may lie between two positions. -/
  admits : Nat → Nat → Bool := fun _ _ => true

/-- The longest match at a position. -/
def matchAt? (r : Regex) (text : Array UInt8) (s : Search) (start : Nat) : Option Match :=
  (outcomes text s.folding r { position := start }).foldl (fun best p =>
    let new : Match := { start, stop := p.position, groups := p.groups }
    if !s.admits start p.position then best
    else match best with
      | none => some new
      | some m => if m.stop < p.position then some new else best) none

/-- The first match from a position on; `fuel` bounds the positions. -/
def findFrom? (r : Regex) (text : Array UInt8) (s : Search) : (fuel start : Nat) → Option Match
  | 0, _ => none
  | fuel + 1, start =>
      match r.matchAt? text s start with
      | some m => some m
      | none => if text.size ≤ start then none else r.findFrom? text s fuel (start + 1)

/-- The first match in a text from a position on. -/
def find? (r : Regex) (text : Array UInt8) (s : Search := {}) (start : Nat := 0) : Option Match :=
  r.findFrom? text s (text.size + 1) start

/-- What a group matched; group 0 is the whole match. -/
def Match.part (m : Match) (text : Array UInt8) (group : Nat) : Bytes :=
  if group = 0 then Regex.part text m.start m.stop
  else match m.groups.lookup group with
    | some (start, stop) => Regex.part text start stop
    | none => []

end Regex

end JobShell.Machine
