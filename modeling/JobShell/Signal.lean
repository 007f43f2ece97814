import JobShell.Errno

/-!
# Signals and sets of signals

Signals are the numbers 1 to 64 of a Linux system. The C library keeps 32 and 33 for itself: they
are in no set and cannot be added to one.

Results:
1. `SignalSet.mem_full_iff`: the full set holds exactly the signals that a set may hold.
2. `SignalSet.mem_with_iff`: adding a signal adds that signal and nothing else.
-/

namespace JobShell

/-- A signal number, as it came from outside: not every number names a signal. -/
abbrev Signal := Int

namespace Signal

def hup : Signal := 1
def int : Signal := 2
def quit : Signal := 3
def kill : Signal := 9
def usr1 : Signal := 10
def usr2 : Signal := 12
def pipe : Signal := 13
def alrm : Signal := 14
def term : Signal := 15
def chld : Signal := 17
def cont : Signal := 18
def stop : Signal := 19
def tstp : Signal := 20
def ttin : Signal := 21
def ttou : Signal := 22
def winch : Signal := 28

/-- The signals that the shell knows by name. -/
def names : List (Signal × String) := [
  (int, "SIGINT"), (quit, "SIGQUIT"), (tstp, "SIGTSTP"), (term, "SIGTERM"), (hup, "SIGHUP"),
  (alrm, "SIGALRM"), (pipe, "SIGPIPE"), (usr1, "SIGUSR1"), (usr2, "SIGUSR2"), (chld, "SIGCHLD"),
  (cont, "SIGCONT"), (winch, "SIGWINCH"), (ttin, "SIGTTIN"), (ttou, "SIGTTOU"),
  (kill, "SIGKILL"), (stop, "SIGSTOP")]

def name? (s : Signal) : Option String := names.lookup s

/-- The name of a signal, or its number where it has none. -/
def describe (s : Signal) : String :=
  s.name?.getD ("unknown signal #" ++ toString s)

/-- Whether the number names a signal that programs may use. -/
def IsUsable (s : Signal) : Prop := 1 ≤ s ∧ s ≤ 64 ∧ s ≠ 32 ∧ s ≠ 33

instance (s : Signal) : Decidable s.IsUsable := by unfold IsUsable; infer_instance

/-- All signals that programs may use, in ascending order. -/
def usable : List Signal := ((List.range 64).map fun (n : Nat) => (n + 1 : Int)).filter (·.IsUsable)

theorem mem_usable_iff {s : Int} : s ∈ usable ↔ Signal.IsUsable s := by
  simp only [usable, List.mem_filter, List.mem_map, List.mem_range, decide_eq_true_eq]
  constructor
  · exact And.right
  · intro h
    have inRange : 1 ≤ s ∧ s ≤ 64 := ⟨h.1, h.2.1⟩
    exact ⟨⟨(s - 1).toNat, by omega, by omega⟩, h⟩

/-- Whether signals of this number are queued one by one instead of merging while pending. -/
def isQueued (s : Signal) : Bool := 34 ≤ s

end Signal

/-- A set of signals. -/
structure SignalSet where
  holds : Signal → Bool

namespace SignalSet

instance : Membership Signal SignalSet where
  mem set s := set.holds s = true

instance (s : Signal) (set : SignalSet) : Decidable (s ∈ set) :=
  inferInstanceAs (Decidable (set.holds s = true))

def empty : SignalSet := ⟨fun _ => false⟩

def full : SignalSet := ⟨fun s => decide s.IsUsable⟩

/-- Add a signal; a number that is no usable signal is refused. -/
def with? (set : SignalSet) (s : Signal) : Except Errno SignalSet :=
  if s.IsUsable then .ok ⟨fun t => t == s || set.holds t⟩ else .error .invalid

def ofList (signals : List Signal) : SignalSet := ⟨fun s => signals.contains s⟩

/-- The members in ascending order. -/
def toList (set : SignalSet) : List Signal := Signal.usable.filter (· ∈ set)

def union (a b : SignalSet) : SignalSet := ⟨fun s => a.holds s || b.holds s⟩
def diff (a b : SignalSet) : SignalSet := ⟨fun s => a.holds s && !b.holds s⟩

/-- What a thread can block: everything but SIGKILL and SIGSTOP. -/
def blockable (set : SignalSet) : SignalSet := set.diff (ofList [Signal.kill, Signal.stop])

theorem mem_full_iff {s : Signal} : s ∈ full ↔ s.IsUsable := by
  simp [Membership.mem, full]

theorem mem_with_iff {set grown : SignalSet} {s t : Signal} (added : set.with? s = .ok grown) :
    t ∈ grown ↔ t = s ∨ t ∈ set := by
  unfold with? at added
  split at added
  · cases added; simp [Membership.mem]
  · cases added

theorem mem_ofList_iff {signals : List Signal} {s : Signal} : s ∈ ofList signals ↔ s ∈ signals := by
  simp [Membership.mem, ofList]

theorem mem_union_iff {a b : SignalSet} {s : Signal} : s ∈ a.union b ↔ s ∈ a ∨ s ∈ b := by
  simp [Membership.mem, union]

theorem mem_blockable_iff {set : SignalSet} {s : Signal} :
    s ∈ set.blockable ↔ s ∈ set ∧ s ≠ Signal.kill ∧ s ≠ Signal.stop := by
  show (blockable set).holds s = true ↔ set.holds s = true ∧ _
  simp [blockable, diff, ofList]

end SignalSet

end JobShell
