import JobShell.Machine.Numeral
import JobShell.Machine.Utility.Report

/-!
# Dates

`date` shows a moment in a format. Moments count in seconds from the beginning of 1970; there is one
time zone.

Results:
1. The examples at the end: dates in formats, and words that name moments.
-/

namespace JobShell.Machine.Calendar

open Program Report

/-! ## Days -/

/-- A day of the calendar. -/
structure Day where
  year : Int
  month : Nat
  day : Nat
deriving DecidableEq, Repr

/-- The day that lies so many days after the first of January 1970. Years are counted from March,
so that the day that is left out of most years comes last. -/
def Day.ofCount (days : Int) : Day :=
  let shifted := days + 719468
  let era := shifted / 146097
  let ofEra := (shifted % 146097).toNat
  let year := (ofEra - ofEra / 1460 + ofEra / 36524 - ofEra / 146096) / 365
  let ofYear := ofEra - (365 * year + year / 4 - year / 100)
  let month := (5 * ofYear + 2) / 153
  let day := ofYear - (153 * month + 2) / 5 + 1
  let month := if month < 10 then month + 3 else month - 9
  { year := era * 400 + year + (if month ≤ 2 then 1 else 0), month, day }

/-- How many days lie between the first of January 1970 and a day. -/
def Day.count (d : Day) : Int :=
  let year := if d.month ≤ 2 then d.year - 1 else d.year
  let era := year / 400
  let ofEra := (year % 400).toNat
  let month := if d.month ≤ 2 then d.month + 9 else d.month - 3
  let ofYear := (153 * month + 2) / 5 + d.day - 1
  era * 146097 + (365 * ofEra + ofEra / 4 - ofEra / 100 + ofYear : Nat) - 719468

def Day.first (year : Int) : Day := ⟨year, 1, 1⟩

/-- The day of the week, 0 for a Sunday. -/
def weekday (count : Int) : Nat := ((count + 4) % 7).toNat

/-- The week that a day belongs to, and the year of that week: a week starts with a Monday and
belongs to the year that has most of its days. -/
def isoWeek (count : Int) : Int × Nat :=
  let thursday := count + 3 - ((weekday count + 6) % 7 : Nat)
  let year := (Day.ofCount thursday).year
  (year, ((thursday - (Day.first year).count) / 7).toNat + 1)

/-! ## Fields -/

/-- What a letter of a format stands for, before it is widened. -/
inductive Field
  | number (n : Int) (width : Nat) (blank : Bool)
  | word (text : Bytes)
deriving DecidableEq, Repr

def dayNames : List String :=
  ["Sunday", "Monday", "Tuesday", "Wednesday", "Thursday", "Friday", "Saturday"]

def monthNames : List String := ["January", "February", "March", "April", "May", "June", "July",
  "August", "September", "October", "November", "December"]

/-- A number in at least so many digits. -/
def padded (width : Nat) (n : Nat) : Bytes :=
  let digits := Bytes.ofNat n
  let zeros : Bytes := List.replicate (width - digits.length) 48
  zeros ++ digits

/-- A moment, cut into its parts. -/
structure Moment where
  seconds : Int
  /-- Billionths of a second. -/
  fraction : Nat := 0
deriving DecidableEq, Repr

namespace Moment

def days (m : Moment) : Int := m.seconds / 86400

def ofDay (m : Moment) : Nat := (m.seconds % 86400).toNat

def day (m : Moment) : Day := Day.ofCount m.days

def dayOfYear (m : Moment) : Nat := (m.days - (Day.first m.day.year).count).toNat

/-- The time of day, down to seconds or only to minutes. -/
def clock (m : Moment) (withSeconds : Bool) : Bytes :=
  let parts := [m.ofDay / 3600, m.ofDay / 60 % 60] ++ if withSeconds then [m.ofDay % 60] else []
  [58].intercalate (parts.map (padded 2))

/-- The time zone, with so many colons between its parts. -/
def zone (colons : Nat) : Bytes :=
  Bytes.ofText (["+0000", "+00:00", "+00:00:00", "+00"][colons]?.getD "+0000")

/-- What a letter in a format stands for, if it stands for something. -/
def field? (m : Moment) (colons : Nat) (letter : Char) : Option Field :=
  let d := m.day
  let days := weekday m.days
  let text (s : String) : Option Field := some (.word (Bytes.ofText s))
  let two (n : Nat) : Option Field := some (.number n 2 false)
  let year : Bytes := Bytes.ofText (toString d.year)
  let date : Bytes := year ++ 45 :: padded 2 d.month ++ 45 :: padded 2 d.day
  let dayName := dayNames[days]?.getD ""
  let monthName := monthNames[d.month - 1]?.getD ""
  let hour := m.ofDay / 3600
  let hour12 := (hour + 11) % 12 + 1
  let short (s : String) : Bytes := (Bytes.ofText s).take 3
  let half := if m.ofDay < 43200 then "AM" else "PM"
  match letter with
  | 'Y' => some (.number d.year 1 false)
  | 'C' => two (d.year / 100).toNat
  | 'y' => two (d.year % 100).toNat
  | 'm' => two d.month
  | 'd' => two d.day
  | 'e' => some (.number d.day 2 true)
  | 'H' => two hour
  | 'k' => some (.number hour 2 true)
  | 'I' => two hour12
  | 'l' => some (.number hour12 2 true)
  | 'M' => two (m.ofDay / 60 % 60)
  | 'S' => two (m.ofDay % 60)
  | 'p' => text half
  | 'P' => text half.toLower
  | 'j' => some (.number (m.dayOfYear + 1) 3 false)
  | 'u' => some (.number (if days = 0 then 7 else days) 1 false)
  | 'w' => some (.number days 1 false)
  | 'q' => some (.number ((d.month - 1) / 3 + 1 : Nat) 1 false)
  | 'U' => two ((m.dayOfYear + 7 - days) / 7)
  | 'W' => two ((m.dayOfYear + 7 - (days + 6) % 7) / 7)
  | 'V' => two (isoWeek m.days).2
  | 'G' => some (.number (isoWeek m.days).1 1 false)
  | 'g' => two ((isoWeek m.days).1 % 100).toNat
  | 'a' => some (.word (short dayName))
  | 'A' => text dayName
  | 'b' | 'h' => some (.word (short monthName))
  | 'B' => text monthName
  | 's' => some (.number m.seconds 1 false)
  | 'F' => some (.word date)
  | 'T' | 'X' => some (.word (m.clock true))
  | 'R' => some (.word (m.clock false))
  | 'r' => some (.word ([58].intercalate
      [padded 2 hour12, padded 2 (m.ofDay / 60 % 60), padded 2 (m.ofDay % 60)] ++
        Bytes.space :: Bytes.ofText half))
  | 'c' => some (.word (short dayName ++ Bytes.space :: short monthName ++
      (if d.day < 10 then [Bytes.space, Bytes.space] else [Bytes.space]) ++ Bytes.ofNat d.day ++
        Bytes.space :: m.clock true ++ Bytes.space :: year))
  | 'D' | 'x' => some (.word ([47].intercalate
      [padded 2 d.month, padded 2 d.day, padded 2 (d.year % 100).toNat]))
  | 'Z' => text "UTC"
  | 'z' => some (.word (zone colons))
  | 'n' => some (.word [Bytes.newline])
  | 't' => some (.word [Bytes.tab])
  | '%' => some (.word [37])
  | _ => none

end Moment

/-! ## Formats -/

/-- What stands between the percent sign and the letter of a field. -/
structure Manner where
  flags : Bytes := []
  width : Option Nat := none
  colons : Nat := 0
deriving DecidableEq, Repr

namespace Manner

/-- The last of the flags that say how a field is widened. -/
def filling (f : Manner) : Option UInt8 := f.flags.findRev? (Bytes.ofText "_-0+").contains

def lowered (b : UInt8) : UInt8 := if 65 ≤ b && b ≤ 90 then b + 32 else b

def raised (b : UInt8) : UInt8 := if 97 ≤ b && b ≤ 122 then b - 32 else b

/-- A field with its letters turned and its width filled up. -/
def shown (f : Manner) (letter : Char) : Field → Bytes
  | .word text =>
      let text := if f.flags.contains 94 then text.map raised
        else if f.flags.contains 35 then
          text.map (if letter = 'Z' || letter = 'p' then lowered else raised)
        else text
      let fill : UInt8 := if f.filling = some 48 || f.filling = some 43 then 48 else Bytes.space
      List.replicate (f.width.getD 0 - text.length) fill ++ text
  | .number n width blank =>
      let digits := Bytes.ofNat n.natAbs
      let sign : Bytes := if n < 0 then [45] else []
      let fill? : Option UInt8 := match f.filling with
        | some 95 => some Bytes.space
        | some 45 => none
        | some _ => some 48
        | none => some (if blank then Bytes.space else 48)
      match fill? with
      | none => sign ++ digits
      | some fill =>
          let missing := List.replicate (f.width.getD width - sign.length - digits.length) fill
          if fill = 48 then sign ++ missing ++ digits else missing ++ sign ++ digits

/-- Billionths of a second in so many digits. -/
def fraction (f : Manner) (n : Nat) : Bytes :=
  let digits := padded 9 n
  digits.take (f.width.getD 9)

end Manner

/-- Read the manner behind a percent sign. -/
def readManner (format : Bytes) : Manner × Bytes :=
  let flags := format.takeWhile (Bytes.ofText "_-0+^#").contains
  let rest := format.drop flags.length
  let digits := rest.takeWhile Bytes.isDigit
  let rest := rest.drop digits.length
  let colons := (rest.takeWhile (· = 58)).length
  let rest := rest.drop colons
  let rest := match rest with
    | 69 :: letter :: more =>
        if (Bytes.ofText "cCxXyY").contains letter then letter :: more else rest
    | 79 :: letter :: more =>
        if (Bytes.ofText "deHIkmMSuUVwWyqz").contains letter then letter :: more else rest
    | rest => rest
  ({ flags, width := Bytes.decimal? digits, colons }, rest)

/-- Fill the format of a date; `fuel` bounds its parts. -/
def Moment.fill (m : Moment) : (fuel : Nat) → Bytes → Bytes
  | 0, _ => []
  | _ + 1, [] => []
  | fuel + 1, 37 :: rest =>
      let (manner, after) := readManner rest
      match after with
      | [] => 37 :: rest
      | b :: after =>
          let letter := Char.ofNat b.toNat
          if letter = 'N' then manner.fraction m.fraction ++ m.fill fuel after
          else match m.field? manner.colons letter with
            | some field => manner.shown letter field ++ m.fill fuel after
            | none => 37 :: rest.take (rest.length - after.length) ++ m.fill fuel after
  | fuel + 1, b :: rest => b :: m.fill fuel rest

def Moment.text (m : Moment) (format : String) : Bytes :=
  m.fill (format.length + 1) (Bytes.ofText format)

/-! ## Words -/

/-- A count with nothing else around it. -/
def whole? (bs : Bytes) (most : Nat) : Option Nat :=
  (Bytes.decimal? bs).filter (· ≤ most)

/-- A day as it is written: `2020-01-31` or `20200131`. -/
def day? (word : Bytes) : Option Int := do
  let (year, month, day) ← match Bytes.splitOn 45 word with
    | [year, month, day] => some (year, month, day)
    | [all] => if all.length = 8 then some (all.take 4, (all.drop 4).take 2, all.drop 6) else none
    | _ => none
  let d : Day := ⟨← whole? year 9999, ← whole? month 12, ← whole? day 31⟩
  if Day.ofCount d.count = d then some d.count else none

/-- A time of day as it is written, in seconds. -/
def time? (word : Bytes) : Option Nat := do
  let word := if word.getLast? = some 90 then word.dropLast else word
  match Bytes.splitOn 58 word with
  | [hours, minutes] => return (← whole? hours 23) * 3600 + (← whole? minutes 59) * 60
  | [hours, minutes, seconds] =>
      return (← whole? hours 23) * 3600 + (← whole? minutes 59) * 60 + (← whole? seconds 59)
  | _ => none

/-- The moment that a text names, as seen from another moment. -/
def moment? (now : Moment) (text : Bytes) : Option Moment :=
  let words := (Bytes.splitOn Bytes.space text).filter fun w => !w.isEmpty && w ≠ Bytes.ofText "UTC"
  let at_ (days : Int) (seconds : Nat) : Moment := { seconds := days * 86400 + seconds }
  match words with
  | [] => some (at_ now.days 0)
  | [64 :: number] =>
      match Bytes.splitOn 46 number with
      | [whole] => (Numeral.number? true whole).map fun seconds => { seconds }
      | [whole, part] => do
          let seconds ← Numeral.number? true whole
          let digits := (part ++ List.replicate 9 48).take 9
          return { seconds, fraction := ← Bytes.decimal? digits }
      | _ => none
  | [word] =>
      let named : List (String × Int) :=
        [("now", 0), ("today", 0), ("yesterday", -1), ("tomorrow", 1)]
      match named.find? fun (name, _) => Bytes.ofText name = word with
      | some (_, days) => some { now with seconds := now.seconds + days * 86400 }
      | none =>
          match day? word, time? word, Bytes.splitOn 84 word with
          | some day, _, _ => some (at_ day 0)
          | none, some time, _ => some (at_ now.days time)
          | none, none, [day, time] => do return at_ (← day? day) (← time? time)
          | none, none, _ => none
  | [day, time] => do return at_ (← day? day) (← time? time)
  | _ => none

/-! ## The utility -/

/-- The formats that options name by how exact they are. -/
def isoFormats : List (String × String) :=
  [("hours", "%Y-%m-%dT%H%:z"), ("minutes", "%Y-%m-%dT%H:%M%:z"), ("date", "%Y-%m-%d"),
    ("seconds", "%Y-%m-%dT%H:%M:%S%:z"), ("ns", "%Y-%m-%dT%H:%M:%S,%N%:z")]

def rfcFormats : List (String × String) :=
  [("date", "%Y-%m-%d"), ("seconds", "%Y-%m-%d %H:%M:%S%:z"), ("ns", "%Y-%m-%d %H:%M:%S.%N%:z")]

/-- The format that the value of an option names, which can be cut short. -/
def namedFormat (option : String) (formats : List (String × String)) (value : Bytes) :
    Except Bytes String :=
  match formats.filter fun (name, _) => value.isPrefixOf (Bytes.ofText name) with
  | [(_, format)] => .ok format
  | found =>
      let kind := if found.isEmpty || value.isEmpty then "invalid" else "ambiguous"
      .error (Bytes.ofText (kind ++ " argument ") ++ Quoting.plain value ++
        Bytes.ofText (" for '--" ++ option ++ "'\nValid arguments are:" ++
          String.join (formats.map fun (name, _) => "\n  - '" ++ name ++ "'") ++
          "\nTry 'date --help' for more information."))

/-- The format that the arguments ask for. -/
def format (a : Arguments) : Except Bytes Bytes := do
  let named := a.options.filter fun o => ['I', 'R', 'ρ'].contains o.1
  let given := a.operands.filter fun w => w.head? = some 43
  if 1 < named.length + given.length then throw (Bytes.ofText "multiple output formats specified")
  match a.options.findRev? fun o => ['I', 'R', 'ρ'].contains o.1 with
  | some ('I', value) =>
      let value := if value.isEmpty then Bytes.ofText "date" else value
      return Bytes.ofText (← namedFormat "iso-8601" isoFormats value)
  | some ('R', _) => return Bytes.ofText "%a, %d %b %Y %H:%M:%S %z"
  | some (_, value) => return Bytes.ofText (← namedFormat "rfc-3339" rfcFormats value)
  | none =>
      match a.operands.head? with
      | some (43 :: format) => return format
      | _ => return Bytes.ofText "%a %b %e %H:%M:%S %Z %Y"

def date (c : Caller) (arguments : List Bytes) : Program Nat :=
  c.withArguments {
      plain := "uR", valued := "drρ", open_ := "I"
      words := [("utc", 'u'), ("universal", 'u'), ("date", 'd'), ("reference", 'r'),
        ("iso-8601", 'I'), ("rfc-email", 'R'), ("rfc-3339", 'ρ')] } arguments fun a => do
    match format a with
    | .error message => c.abort message
    | .ok format =>
        c.withOperands 1 a.operands do
          if let some word := a.operands.find? fun w => w.head? ≠ some 43 then
            return ← c.abort (Bytes.ofText "invalid date " ++ Quoting.plain word)
          let ofMilliseconds (n : Nat) : Moment :=
            { seconds := n / 1000, fraction := n % 1000 * 1000000 }
          let now := ofMilliseconds (← call .clock)
          let show_ (m : Moment) : Program Nat :=
            c.finish (m.fill (format.length + 1) format ++ [Bytes.newline])
          match a.value? 'd', a.value? 'r' with
          | some word, _ =>
              match moment? now word with
              | some m => show_ m
              | none => c.abort (Bytes.ofText "invalid date " ++ Quoting.shell word)
          | none, some file =>
              match ← call (.examine file true) with
              | .ok facts => show_ (ofMilliseconds facts.modified)
              | .error e =>
                  discard <| c.fail "" file e
                  return c.failure
          | none, none => show_ now

/-! ## Examples -/

/-- A moment in a format. -/
def shown (format : String) (seconds : Int) : Bytes := Moment.text { seconds } format

example : shown "%F %T" 0 = Bytes.ofText "1970-01-01 00:00:00" := by decide +kernel
example : shown "%a %j" 951782400 = Bytes.ofText "Tue 060" := by decide +kernel
example : shown "%-d|%_d|%05d|%^a" 0 = Bytes.ofText "1| 1|00001|THU" := by decide +kernel
example : shown "%G-%V" 1104537600 = Bytes.ofText "2004-53" := by decide +kernel
example : (moment? ⟨0, 0⟩ (Bytes.ofText "2000-02-29 12:30")).map (·.seconds) = some 951827400 := by
  decide +kernel
example : moment? ⟨0, 0⟩ (Bytes.ofText "2001-02-29") = none := by decide +kernel

end JobShell.Machine.Calendar
