import JobShell.Machine.Utility.Calendar
import JobShell.Machine.Utility.Files

/-!
# Comparing the lines of files

`diff` tells which lines have to be taken out of one file and put into it to come to another one.

Results:
1. The examples at the end: how lines are changed.
-/

namespace JobShell.Machine.Differing

open Program Report Files

/-! ## Lines -/

/-- The lines of a text with their newlines. -/
def pieces : Bytes → List Bytes
  | [] => []
  | b :: rest =>
      if b = Bytes.newline then [b] :: pieces rest
      else match pieces rest with
        | [] => [[b]]
        | l :: ls => (b :: l) :: ls

/-- What does not count when lines are compared. -/
structure Likeness where
  anyCase : Bool := false
  /-- All blanks, or only how many there are. -/
  noBlanks : Bool := false
  fewBlanks : Bool := false
deriving DecidableEq, Repr

/-- Blanks at the end are left out, all others become one space. -/
def squeeze : Bytes → Bytes
  | [] => []
  | b :: rest =>
      let after := squeeze rest
      if Bytes.isBlank b || b = Bytes.newline then
        match after with
        | [] => []
        | next :: _ => if next = Bytes.space then after else Bytes.space :: after
      else b :: after

/-- The text by which a line is compared. -/
def Likeness.key (k : Likeness) (line : Bytes) : Bytes :=
  let lower (b : UInt8) : UInt8 := if 65 ≤ b && b ≤ 90 then b + 32 else b
  let line := if k.anyCase then line.map lower else line
  if k.noBlanks then line.filter fun b => !Bytes.isBlank b && b ≠ Bytes.newline
  else if k.fewBlanks then squeeze line
  else line

/-! ## Steps from one text to another -/

/-- What has to be done with a line to come from one text to another. -/
inductive LineStep
  | keep (line : Bytes)
  | remove (line : Bytes)
  | add (line : Bytes)
deriving DecidableEq, Repr

/-- A line with the text by which it is compared. -/
abbrev Keyed := Bytes × Bytes

/-- The lengths of the longest lines in common of all ends of `bs` and of a text, given those for
the text without its first line `a`. -/
def tableRow (a : Keyed) : List Keyed → List Nat → List Nat
  | [], _ => [0]
  | b :: bs, below =>
      let rest := tableRow a bs below.tail
      let here := if a.1 = b.1 then below.tail.headD 0 + 1 else max (below.headD 0) (rest.headD 0)
      here :: rest

/-- The rows for all ends of a text. -/
def table (bs : List Keyed) : List Keyed → List (List Nat)
  | [] => [List.replicate (bs.length + 1) 0]
  | a :: as =>
      let rows := table bs as
      tableRow a bs (rows.headD []) :: rows

/-- The steps from one text to another along a table; `fuel` bounds them. -/
def stepsAlong : (fuel : Nat) → List (List Nat) → List Keyed → List Keyed → List LineStep
  | 0, _, _, _ => []
  | _ + 1, _, [], bs => bs.map fun b => .add b.2
  | _ + 1, _, as, [] => as.map fun a => .remove a.2
  | fuel + 1, rows, a :: as, b :: bs =>
      if a.1 = b.1 then
        .keep a.2 :: stepsAlong fuel (rows.tail.map List.tail) as bs
      else
        let below := (rows.tail.headD []).headD 0
        let beside := ((rows.headD []).tail).headD 0
        if beside ≤ below then .remove a.2 :: stepsAlong fuel rows.tail as (b :: bs)
        else .add b.2 :: stepsAlong fuel (rows.map List.tail) (a :: as) bs

def lineSteps (k : Likeness) (one two : Bytes) : List LineStep :=
  let keyed (text : Bytes) : List Keyed := (pieces text).map fun l => (k.key l, l)
  let as := keyed one
  let bs := keyed two
  stepsAlong (as.length + bs.length + 1) (table bs as) as bs

/-! ## Changes -/

/-- A change: the lines it takes out and puts in, and how many lines come before it. -/
structure Change where
  before : Nat := 0
  after : Nat := 0
  removed : List Bytes := []
  added : List Bytes := []
deriving DecidableEq, Repr

def Change.isEmpty (c : Change) : Bool := c.removed.isEmpty && c.added.isEmpty

/-- The changes that some steps make. -/
def changes : Change → List LineStep → List Change
  | c, [] => if c.isEmpty then [] else [c]
  | c, .keep _ :: rest =>
      let next : Change := {
        before := c.before + c.removed.length + 1, after := c.after + c.added.length + 1 }
      (if c.isEmpty then [] else [c]) ++ changes next rest
  | c, .remove line :: rest => changes { c with removed := c.removed ++ [line] } rest
  | c, .add line :: rest => changes { c with added := c.added ++ [line] } rest

/-- A line behind a mark; that it has no newline is told. -/
def marked (mark : String) (line : Bytes) : Bytes :=
  Bytes.ofText mark ++ line ++ if line.getLast? = some Bytes.newline then []
    else Bytes.ofText "\n\\ No newline at end of file\n"

/-- The numbers of some lines behind others. -/
def span (before : Nat) (count : Nat) : Bytes :=
  if count ≤ 1 then Bytes.ofNat (before + count)
  else Bytes.ofNat (before + 1) ++ 44 :: Bytes.ofNat (before + count)

/-- A change as it is shown. -/
def Change.text (c : Change) : Bytes :=
  let letter : UInt8 := if c.added.isEmpty then 100 else if c.removed.isEmpty then 97 else 99
  span c.before c.removed.length ++ letter :: span c.after c.added.length ++ [Bytes.newline] ++
    c.removed.flatMap (marked "< ") ++
    (if letter = 99 then Bytes.ofText "---\n" else []) ++ c.added.flatMap (marked "> ")

/-! ## Changes with the lines around them -/

/-- Some steps in a row, with the lines of both texts that come before them. -/
structure Hunk where
  before : Nat
  after : Nat
  steps : List LineStep
deriving DecidableEq, Repr

namespace LineStep

def changes : LineStep → Bool
  | .keep _ => false
  | _ => true

def isOld : LineStep → Bool
  | .add _ => false
  | _ => true

def isNew : LineStep → Bool
  | .remove _ => false
  | _ => true

def text : LineStep → Bytes
  | .keep line => marked " " line
  | .remove line => marked "-" line
  | .add line => marked "+" line

end LineStep

/-- The stretches of steps that lie no further than `around` from a change: for each step whether it
belongs to one. -/
def nearChange (around : Nat) (steps : List LineStep) : List (LineStep × Bool) :=
  steps.zipIdx.map fun (step, i) =>
    (step, ((steps.drop (i - around)).take (around + 1 + min i around)).any LineStep.changes)

/-- Gather the steps that belong together. -/
def hunks : Hunk → List (LineStep × Bool) → List Hunk
  | h, [] => if h.steps.isEmpty then [] else [h]
  | h, (step, near) :: rest =>
      if near then hunks { h with steps := h.steps ++ [step] } rest
      else
        let next : Hunk := {
          before := h.before + h.steps.countP LineStep.isOld + 1
          after := h.after + h.steps.countP LineStep.isNew + 1, steps := [] }
        (if h.steps.isEmpty then [] else [h]) ++ hunks next rest

def Hunk.text (h : Hunk) : Bytes :=
  let range (before count : Nat) : Bytes :=
    if count = 1 then Bytes.ofNat (before + 1)
    else Bytes.ofNat (if count = 0 then before else before + 1) ++ 44 :: Bytes.ofNat count
  Bytes.ofText "@@ -" ++ range h.before (h.steps.countP LineStep.isOld) ++ Bytes.ofText " +" ++
    range h.after (h.steps.countP LineStep.isNew) ++ Bytes.ofText " @@\n" ++
    h.steps.flatMap LineStep.text

/-! ## Files and directories -/

/-- What `diff` shows. -/
structure Manner where
  likeness : Likeness := {}
  brief : Bool := false
  tellsSame : Bool := false
  /-- The lines around a change that are shown, if there are to be some. -/
  around : Option Nat := none
  recursive : Bool := false
  /-- Whether files that are not there count as empty. -/
  absentEmpty : Bool := false
  /-- The options as they were given. -/
  given : List Bytes := []
deriving DecidableEq, Repr

/-- When a file was changed, as it stands in a heading. -/
def timeText (milliseconds : Nat) : Bytes :=
  let m : Calendar.Moment :=
    { seconds := milliseconds / 1000, fraction := milliseconds % 1000 * 1000000 }
  m.text "%Y-%m-%d %H:%M:%S.%N %z"

def heading (mark : String) (file : Bytes) : Program Bytes := do
  let time := match ← call (.examine file true) with
    | .ok facts => facts.modified
    | .error _ => 0
  return Bytes.ofText mark ++ file ++ Bytes.tab :: timeText time ++ [Bytes.newline]

/-- Compare two texts under their names; `front` stands before the changes, if there are some. -/
def compareTexts (m : Manner) (front first second one two : Bytes) : Program (Bytes × Nat) := do
  let text (s : String) : Bytes := Bytes.ofText s
  let names := first ++ text " and " ++ second
  let steps := lineSteps m.likeness one two
  if one = two || !steps.any LineStep.changes then
    return (if m.tellsSame then text "Files " ++ names ++ text " are identical\n" else [], 0)
  else if m.brief then return (text "Files " ++ names ++ text " differ\n", 1)
  else if one.contains 0 || two.contains 0 then
    return (text "Binary files " ++ names ++ text " differ\n", 1)
  else match m.around with
    | none => return (front ++ (changes {} steps).flatMap Change.text, 1)
    | some around =>
        let first ← heading "--- " first
        let second ← heading "+++ " second
        let found := hunks { before := 0, after := 0, steps := [] } (nearChange around steps)
        return (front ++ first ++ second ++ found.flatMap Hunk.text, 1)

/-- Compare two files, at least one of which is no directory. -/
def compareFiles (c : Caller) (m : Manner) (front first second : Bytes) :
    Program (Bytes × Nat) := do
  let content (file : Bytes) : Program (Option Bytes) := do
    match ← readWhole file with
    | .content bs => return some bs
    | .notOpened e | .notRead e =>
        if m.absentEmpty && e = .noEntry then return some []
        discard <| c.fail "" file e
        return none
  let one ← content first
  let two ← content second
  match one, two with
  | some one, some two => compareTexts m front first second one two
  | _, _ => return ([], 2)

/-- Compare two directories, the first of which holds `names`; `depth` bounds their nesting. -/
def compareDirectories (c : Caller) (m : Manner) : (depth : Nat) → (first second : Bytes) →
    Program (Bytes × Nat)
  | 0, _, _ => return ([], 2)
  | depth + 1, first, second => do
      let text (s : String) : Bytes := Bytes.ofText s
      let entries (directory : Bytes) : Program (List Bytes) := do
        match ← call (.entries directory) with
        | .ok names => return names
        | .error e =>
            if !(m.absentEmpty && e = .noEntry) then discard <| c.fail "" directory e
            return []
      let ones ← entries first
      let twos ← entries second
      let names := (ones ++ twos.filter (!ones.contains ·)).mergeSort Bytes.le
      let each (name : Bytes) : Program (Bytes × Nat) := do
        let a := within first name
        let b := within second name
        let only (directory : Bytes) : Bytes :=
          text "Only in " ++ directory ++ text ": " ++ name ++ [Bytes.newline]
        if !twos.contains name && !m.absentEmpty then return (only first, 1)
        else if !ones.contains name && !m.absentEmpty then return (only second, 1)
        let kindOf (path : Bytes) : Program (Option FileFacts) := do
          return (← call (.examine path true)).toOption
        let one ← kindOf a
        let two ← kindOf b
        let isDirectory (facts : Option FileFacts) : Bool :=
          facts.map (·.kind) = some .directory
        let absent := one.isNone || two.isNone
        match isDirectory one, isDirectory two with
        | false, false =>
            let front := [Bytes.space].intercalate (text "diff" :: m.given ++ [a, b])
            compareFiles c m (front ++ [Bytes.newline]) a b
        | isFirst, isSecond =>
            if (isFirst && isSecond) || absent then
              if m.recursive then compareDirectories c m depth a b
              else return (text "Common subdirectories: " ++ a ++ text " and " ++ b ++ text "\n", 0)
            else
              let kind (facts : Option FileFacts) : Bytes :=
                text ((facts.map kindName).getD "")
              return (text "File " ++ a ++ text " is a " ++ kind one ++ text " while file " ++ b ++
                text " is a " ++ kind two ++ text "\n", 1)
      names.foldlM (fun (all, code) name => do
        let (out, own) ← each name
        return (all ++ out, max code own)) ([], 0)

def compare (c : Caller) (m : Manner) (first second : Bytes) : Program (Bytes × Nat) := do
  let named (directory file : Bytes) : Bytes := within directory (lastPart file)
  match ← isDirectory first, ← isDirectory second with
  | true, true => compareDirectories c m greatestDepth first second
  | true, false => compareFiles c m [] (named first second) second
  | false, true => compareFiles c m [] first (named second first)
  | false, false => compareFiles c m [] first second

def diff (c : Caller) (arguments : List Bytes) : Program Nat :=
  c.withArguments {
      plain := "qsabBiwtNru", valued := "U"
      words := [("brief", 'q'), ("report-identical-files", 's'), ("recursive", 'r'),
        ("new-file", 'N'), ("ignore-case", 'i'), ("ignore-all-space", 'w'),
        ("ignore-space-change", 'b'), ("text", 'a')] } arguments
    fun a => do
      let text (s : String) : Bytes := Bytes.ofText s
      let m : Manner := {
        likeness := { anyCase := a.has 'i', noBlanks := a.has 'w', fewBlanks := a.has 'b' }
        brief := a.has 'q', tellsSame := a.has 's'
        around := if a.has 'U' then (a.value? 'U').bind Bytes.decimal?
          else if a.has 'u' then some 3 else none
        recursive := a.has 'r', absentEmpty := a.has 'N'
        given := arguments.filter fun w => w.head? = some Arguments.hyphen && 1 < w.length }
      match a.operands with
      | [first, second] =>
          let (out, code) ← compare c m first second
          c.finish out code
      | [] => c.refuse (text "missing operand after " ++ Quoting.plain c.name)
      | [one] => c.refuse (text "missing operand after " ++ Quoting.plain one)
      | _ :: _ :: extra :: _ => c.refuse (text "extra operand " ++ Quoting.plain extra)

/-! ## Examples -/

/-- What leads from one text to another. -/
def changed (one two : String) : Bytes :=
  (changes {} (lineSteps {} (Bytes.ofText one) (Bytes.ofText two))).flatMap Change.text

example : changed "a\nb\nc\n" "a\nx\nc\nd\n" =
    Bytes.ofText "2c2\n< b\n---\n> x\n3a4\n> d\n" := by decide +kernel

end JobShell.Machine.Differing
