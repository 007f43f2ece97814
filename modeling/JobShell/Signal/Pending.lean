import JobShell.Signal

/-!
# Blocked and pending signals

A signal that is blocked when it is sent stays pending until it is unblocked or waited for. A
standard signal is pending once however often it was sent; from 34 on signals are queued. Signals
that report a fault of the program come before all others, and then the lowest number is first. A
signal that stops and the one that continues cancel each other while they are pending.

Results:
1. `SignalState.mem_pending_post`: sending makes at most the sent signal pending.
2. `SignalState.take?_mem`: a wait gives a signal that is pending and waited for.
3. `SignalState.take?_eq_none_iff`: a wait has to go on exactly if no such signal is pending.
4. `SignalState.mem_pending_cancel`: a continuation leaves no stop pending.
-/

namespace JobShell

namespace Signal

/-- The signals that report a fault of the program: SIGILL, SIGTRAP, SIGBUS, SIGFPE, SIGSEGV and
SIGSYS. -/
def faults : List Signal := [4, 5, 7, 8, 11, 31]

/-- The signals that stop a process. -/
def stops : List Signal := [stop, tstp, ttin, ttou]

/-- The pending signals that a signal does away with when it is sent. -/
def cancelled (s : Signal) : List Signal :=
  if s = cont then stops else if stops.contains s then [cont] else []

/-- Whether one pending signal is taken before another. -/
def precedes (a b : Signal) : Bool :=
  match faults.contains a, faults.contains b with
  | true, false => true
  | false, true => false
  | _, _ => a ≤ b

/-- The signal to be taken first. -/
def first? : List Signal → Option Signal
  | [] => none
  | s :: rest =>
      match first? rest with
      | none => some s
      | some t => some (if s.precedes t then s else t)

theorem first?_mem {signals : List Signal} {s : Signal} (first : first? signals = some s) :
    s ∈ signals := by
  induction signals generalizing s with
  | nil => simp [first?] at first
  | cons t rest ih =>
      unfold first? at first
      split at first
      · cases first; exact List.mem_cons_self
      · next u inside =>
          split at first
          · cases first; exact List.mem_cons_self
          · cases first; exact List.mem_cons_of_mem _ (ih inside)

theorem first?_eq_none_iff {signals : List Signal} : first? signals = none ↔ signals = [] := by
  cases signals with
  | nil => simp [first?]
  | cons s rest => unfold first?; split <;> simp

end Signal

/-- What a thread blocks, and what was sent to it meanwhile, in the order of arrival. -/
structure SignalState where
  blocked : SignalSet := .empty
  pending : List Signal := []

namespace SignalState

/-- The blocked signals in ascending order. -/
def mask (t : SignalState) : List Signal := t.blocked.toList

/-- Do away with the pending signals that a signal cancels. -/
def cancel (t : SignalState) (s : Signal) : SignalState :=
  { t with pending := t.pending.filter (!s.cancelled.contains ·) }

/-- A signal arrives that has to wait. -/
def post (t : SignalState) (s : Signal) : SignalState :=
  if s.isQueued || !t.pending.contains s then { t with pending := t.pending ++ [s] } else t

/-- Change the mask; what is no longer blocked is delivered at once. -/
def setBlocked (t : SignalState) (set : SignalSet) : SignalState where
  blocked := set.blockable
  pending := t.pending.filter (· ∈ set.blockable)

def block (t : SignalState) (set : SignalSet) : SignalState := t.setBlocked (t.blocked.union set)

def unblock (t : SignalState) (set : SignalSet) : SignalState := t.setBlocked (t.blocked.diff set)

/-- Send a signal: 0 only asks whether it could be sent, and a signal that is not blocked is
delivered at once. -/
def raise (t : SignalState) (s : Signal) : Except Errno SignalState :=
  if s = 0 then .ok t
  else if s.IsUsable then
    let t := t.cancel s
    .ok (if s ∈ t.blocked then t.post s else t)
  else .error .invalid

/-- Take the first pending signal of a set. -/
def take? (t : SignalState) (set : SignalSet) : Option (Signal × SignalState) :=
  (Signal.first? (t.pending.filter (· ∈ set))).map fun s =>
    (s, { t with pending := t.pending.erase s })

/-- What a thread starts with that this one creates: the same mask and nothing pending. -/
def inherited (t : SignalState) : SignalState := { blocked := t.blocked }

theorem mem_block_iff {t : SignalState} {set : SignalSet} {s : Signal} :
    s ∈ (t.block set).blocked ↔
      (s ∈ t.blocked ∨ s ∈ set) ∧ s ≠ Signal.kill ∧ s ≠ Signal.stop := by
  rw [block, setBlocked, SignalSet.mem_blockable_iff, SignalSet.mem_union_iff]

theorem mem_pending_post {t : SignalState} {s u : Signal} (mem : u ∈ (t.post s).pending) :
    u = s ∨ u ∈ t.pending := by
  unfold post at mem
  split at mem
  · rcases List.mem_append.1 mem with old | new
    · exact .inr old
    · exact .inl (List.mem_singleton.1 new)
  · exact .inr mem

theorem mem_pending_cancel {t : SignalState} {u : Signal}
    (mem : u ∈ (t.cancel Signal.cont).pending) : u ∈ t.pending ∧ u ∉ Signal.stops := by
  simpa [cancel, Signal.cancelled] using mem

theorem take?_mem {t after : SignalState} {set : SignalSet} {s : Signal}
    (taken : t.take? set = some (s, after)) : s ∈ t.pending ∧ s ∈ set := by
  simp only [take?, Option.map_eq_some_iff, Prod.mk.injEq] at taken
  obtain ⟨u, first, rfl, _⟩ := taken
  simpa using Signal.first?_mem first

theorem take?_eq_none_iff {t : SignalState} {set : SignalSet} :
    t.take? set = none ↔ ∀ s ∈ t.pending, s ∉ set := by
  simp [take?, Signal.first?_eq_none_iff, List.filter_eq_nil_iff]

end SignalState

end JobShell
