import JobShell.Machine.Utility.Report

/-!
# Filters

A filter takes its input in chunks and answers each with what it writes. Some write as they go,
others keep what they read until the input, or the file at hand, ends.
-/

namespace JobShell.Machine

/-- A program that reads and writes, with what it remembers in between. -/
structure Filter (σ : Type) where
  /-- Take a chunk and give back what is written. -/
  feed : σ → Bytes → Bytes × σ
  /-- A file ends. -/
  endFile : σ → Bytes × σ := fun s => ([], s)
  /-- The input ends. -/
  finish : σ → Bytes := fun _ => []
  /-- Whether nothing more is wanted. -/
  isSated : σ → Bool := fun _ => false
  /-- How much is asked for at a time. -/
  appetite : Nat := 65536

namespace Filter

variable {σ : Type}

/-- A filter that goes from byte to byte. -/
def ofBytes (step : σ → UInt8 → Bytes × σ) : Filter σ where
  feed s chunk :=
    let (out, s) := chunk.foldl (fun (out, s) b =>
      let (new, s) := step s b
      (new :: out, s)) (([] : List Bytes), s)
    (out.reverse.flatten, s)

/-- What a filter of bytes writes, and what it comes to remember. -/
def feedAll (step : σ → UInt8 → Bytes × σ) : σ → Bytes → Bytes × σ
  | s, [] => ([], s)
  | s, b :: rest =>
      let (new, s) := step s b
      let (others, s) := feedAll step s rest
      (new ++ others, s)

/-- Cut a chunk at its newlines: the whole lines, and the beginning of the next one. -/
def wholeLines (pending chunk : Bytes) : List Bytes × Bytes :=
  match (Bytes.splitOn Bytes.newline chunk).reverse with
  | [] => ([], pending)
  | [start] => ([], pending ++ start)
  | start :: lines =>
      match lines.reverse with
      | first :: others => ((pending ++ first) :: others, start)
      | [] => ([], start)

/-- A filter that goes from line to line; the flag tells whether a line ended in a newline. -/
def ofLines (step : σ → Bytes → (ended : Bool) → Bytes × σ) (finish : σ → Bytes := fun _ => [])
    (isSated : σ → Bool := fun _ => false) : Filter (σ × Bytes) where
  feed := fun (s, pending) chunk =>
    let (lines, pending) := wholeLines pending chunk
    let (out, s) := lines.foldl (fun (out, s) line =>
      if isSated s then (out, s)
      else
        let (new, s) := step s line true
        (new :: out, s)) (([] : List Bytes), s)
    (out.reverse.flatten, (s, pending))
  endFile := fun (s, pending) =>
    if pending.isEmpty || isSated s then ([], (s, []))
    else
      let (out, s) := step s pending false
      (out, (s, []))
  finish := fun (s, _) => finish s
  isSated := fun (s, _) => isSated s

end Filter

namespace Report

open Program

/-- What a utility says about files that it cannot open or read. -/
structure Complaints where
  cannotOpen : Bytes → Bytes := Quoting.named
  cannotRead : Bytes → Bytes := Quoting.named
  /-- How standard input is called when it is closed, if anything is said then. -/
  closing : Bytes := standardInput

/-- Complaints that name the file behind some words. -/
def Complaints.behind (opening reading : String) : Complaints where
  cannotOpen file := Bytes.ofText opening ++ Quoting.shell file
  cannotRead file := Bytes.ofText reading ++ Quoting.shell file
  closing := []

/-- Read an open file to its end, or until the filter has enough. Nothing comes back if the output
cannot be written, else what the filter remembers and why the file could not be read further. -/
def pump {σ : Type} (c : Caller) (f : Filter σ) (fd : Nat) (s : σ) :
    Program (Option (σ × Option Errno)) :=
  iterate (fun (s : σ) => do
    if f.isSated s then return .inr (some (s, none))
    match ← call (.read fd f.appetite) with
    | .error e => return .inr (some (s, some e))
    | .ok [] => return .inr (some (s, none))
    | .ok chunk =>
        let (out, s) := f.feed s chunk
        if ← c.emit out then return .inl s else return .inr none) none patience s

/-- Run a filter over one source after another. Nothing comes back if the output cannot be written,
else what the filter remembers and whether all could be read. -/
def pumpAll {σ : Type} (c : Caller) (m : Complaints) (f : Filter σ) :
    List Bytes → σ → (good : Bool) → Program (Option (σ × Bool))
  | [], s, good => return some (s, good)
  | source :: rest, s, good => do
      match ← openSource source with
      | .error e =>
          let _ ← c.fail "" (m.cannotOpen source) e
          pumpAll c m f rest s false
      | .ok fd =>
          match ← pump c f fd s with
          | none => return none
          | some (s, failure) =>
              reportReading c "" (m.cannotRead source) m.closing source failure
              closeSource source fd
              let (out, s) := f.endFile s
              if ← c.emit out then pumpAll c m f rest s (good && failure.isNone)
              else return none

/-- Run a filter over the sources that the operands name. -/
def filter {σ : Type} (c : Caller) (f : Filter σ) (start : σ) (operands : List Bytes)
    (m : Complaints := {}) : Program Nat := do
  match ← pumpAll c m f (sources operands) start true with
  | none => return c.failure
  | some (s, good) => c.finish (f.finish s) (if good then 0 else c.failure)

end Report

end JobShell.Machine
