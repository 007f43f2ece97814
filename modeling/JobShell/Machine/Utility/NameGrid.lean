import JobShell.Machine.Quoting

/-!
# Names laid out in columns

A listing for a screen puts as many names on a line as fit. Each column is as wide as its longest
name and two blanks, and of all numbers of columns the greatest that fits is taken. The way to the
next column is made of tabs as far as they reach.
-/

namespace JobShell.Machine.NameGrid

/-- The order in which names fill a grid. -/
inductive Order | downward | across
deriving DecidableEq, Repr

/-- The columns that a name takes on a screen. -/
def width (name : Bytes) : Nat := (name.filter Quoting.isPrintable).length

/-- The least width of a column. -/
def leastWidth : Nat := 3

/-- The lines that so many names take in so many columns. -/
def height (count columns : Nat) : Nat := (count + columns - 1) / columns

namespace Order

/-- The column of the name at an index. -/
def column (o : Order) (count columns index : Nat) : Nat :=
  match o with
  | .downward => index / height count columns
  | .across => index % columns

/-- The line of the name at an index. -/
def line (o : Order) (count columns index : Nat) : Nat :=
  match o with
  | .downward => index % height count columns
  | .across => index / columns

end Order

/-- The widths of the columns; the last one needs no blanks behind its names. -/
def widths (o : Order) (lengths : List Nat) (columns : Nat) : List Nat :=
  (List.range columns).map fun column =>
    let inside := lengths.zipIdx.filter fun (_, index) =>
      o.column lengths.length columns index = column
    (inside.map fun (length, _) => if column + 1 = columns then length else length + 2).foldl max
      leastWidth

/-- Whether columns fit on a line. Columns of the least width always do. -/
def fits (limit : Nat) (widths : List Nat) : Bool :=
  widths.all (· = leastWidth) || widths.foldl (· + ·) 0 < limit

/-- The number of columns for names on lines of limited length. -/
def columns (o : Order) (limit : Nat) (lengths : List Nat) : Nat :=
  let most := min ((limit + leastWidth - 1) / leastWidth) lengths.length
  (((List.range most).map (· + 1)).reverse.find? fun n => fits limit (widths o lengths n)).getD 1

/-- The way from one column of the screen to another. -/
def gap (start stop : Nat) : Bytes :=
  if start < stop then
    if (start + 1) / 8 < stop / 8 then Bytes.tab :: gap (start + (8 - start % 8)) stop
    else Bytes.space :: gap (start + 1) stop
  else []
termination_by stop - start
decreasing_by all_goals omega

/-- The names of a line, which starts at some column of the screen. -/
def row (start : Nat) : List Bytes → List Nat → Bytes
  | name :: next :: names, w :: ws =>
      name ++ gap (start + width name) (start + w) ++ row (start + w) (next :: names) ws
  | names, _ => names.flatten

/-- Names in columns, on lines of limited length. -/
def text (o : Order) (limit : Nat) (names : List Bytes) : Bytes :=
  let lengths := names.map width
  let count := names.length
  let n := columns o limit lengths
  let ws := widths o lengths n
  (List.range (height count n)).flatMap fun line =>
    let inside := names.zipIdx.filter fun (_, index) => o.line count n index = line
    row 0 (inside.map (·.1)) ws ++ [Bytes.newline]

/-- The names behind the first, with a separator before each; `position` is where the last one
ends. A limit of zero is none. -/
def following (limit : Nat) (separator : Bytes) (position : Nat) : List Bytes → Bytes
  | [] => [Bytes.newline]
  | name :: rest =>
      if limit = 0 || position + width name + 2 < limit then
        separator ++ Bytes.space :: name ++
          following limit separator (position + 2 + width name) rest
      else separator ++ Bytes.newline :: name ++ following limit separator (width name) rest

/-- Names one behind the other, on lines of limited length. -/
def running (limit : Nat) (separator : Bytes) : List Bytes → Bytes
  | [] => []
  | name :: rest => name ++ following limit separator (width name) rest

end JobShell.Machine.NameGrid
