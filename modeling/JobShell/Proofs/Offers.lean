import JobShell.Proofs.Agreement
import JobShell.Proofs.Segments
import JobShell.Rehearsal
import Mathlib.Data.Nat.Find

/-!
# What is to be offered

Which requests the input thread is to offer in a rehearsal is read off the answers of `readLine`:
a command for every line that has one, up to the line where the thread stops, and a shutdown
unless the consumer has sent the thread away. No thread is needed to say so.

Results:
1. `Rehearsal.Brief.exists_isStop`: the lines come to an end.
2. `Rehearsal.Brief.IsStop.eq_of_stops`: there is one line at which the thread stops.
-/

namespace JobShell.Rehearsal

/-- A request on offer, with the reads that are left at that moment. -/
structure Offer where
  request : Request
  unread : Source

/-- What a rehearsal goes by: the limits, the request before whose release the exit flag is set,
and the reads to come. -/
structure Brief where
  limits : Limits
  last : Option Nat
  source : Source

/-- The result with which the input thread stops at a line, if it does: at `exit`, at the end of
the input and at a failed read. -/
def stopAt? (maxToken : Nat) : Except Errno Line → Option (Except Fault Unit)
  | .error e => some (.error (.input e))
  | .ok .endOfFile => some (.ok ())
  | .ok .tooLong => none
  | .ok (.text bytes) =>
      match Command.parse maxToken bytes with
      | .ok c => if c.argv.head? = some (Bytes.ofText "exit") then some (.ok ()) else none
      | .error _ => none

theorem stopAt?_text {maxToken : Nat} {bytes : Bytes} {c : Command}
    (parsed : Command.parse maxToken bytes = .ok c) :
    stopAt? maxToken (.ok (.text bytes)) =
      if Thread.Builtin.ofCommand? c = some .exit then some (.ok ()) else none := by
  simp only [stopAt?, parsed, Thread.Builtin.ofCommand?_eq_exit_iff]

namespace Brief

variable (b : Brief)

/-- The answer of `readLine` for line number `k`, counted from 0. -/
def answer (k : Nat) : Except Errno Line := b.source.line b.limits.line k

/-- The reads that are left after so many lines. -/
def unread (k : Nat) : Source := b.source.afterLines b.limits.line k

/-- The command that line number `k` hands over. -/
def command? (k : Nat) : Option Command :=
  match b.answer k with
  | .ok l => l.command? b.limits.token
  | .error _ => none

def stop? (k : Nat) : Option (Except Fault Unit) := stopAt? b.limits.token (b.answer k)

/-- The offers of the first `k` lines, each made when its own line has been read. -/
def offered (k : Nat) : List Offer :=
  (List.range k).filterMap fun j => (b.command? j).map fun c => ⟨.run c, b.unread (j + 1)⟩

/-- Whether the command of line number `k` is the request that the consumer has chosen. -/
def isChosen (k : Nat) : Bool :=
  (b.command? k).isSome && b.last = some (b.offered (k + 1)).length

def stops (k : Nat) : Bool := (b.stop? k).isSome || b.isChosen k

/-- The input thread reads line number `k` and none behind it. -/
structure IsStop (k : Nat) : Prop where
  stops : b.stops k = true
  first : ∀ j < k, b.stops j = false

/-- All offers of a rehearsal that stops at line number `k`. -/
def offers (k : Nat) : List Offer :=
  b.offered (k + 1) ++ if b.isChosen k then [] else [⟨.shutdown, b.unread (k + 1)⟩]

/-- The result of the input thread when it stops at line number `k`. -/
def result (k : Nat) : Except Fault Unit := (b.stop? k).getD (.ok ())

variable {b} {k m : Nat} {c : Command}

theorem readLine_unread (b : Brief) (k : Nat) :
    readLine b.limits.line (b.unread k) = (b.answer k, b.unread (k + 1)) :=
  Prod.ext rfl (Source.afterLines_succ ..).symm

theorem offered_succ (b : Brief) (k : Nat) :
    b.offered (k + 1) =
      b.offered k ++ ((b.command? k).map fun c => (⟨.run c, b.unread (k + 1)⟩ : Offer)).toList := by
  rw [offered, List.range_succ, List.filterMap_append]
  cases found : b.command? k <;> simp [found, offered]

theorem offered_succ_of_some (found : b.command? k = some c) :
    b.offered (k + 1) = b.offered k ++ [⟨.run c, b.unread (k + 1)⟩] := by
  rw [offered_succ, found]
  rfl

theorem offered_succ_of_none (none : b.command? k = none) : b.offered (k + 1) = b.offered k := by
  rw [offered_succ, none]
  exact List.append_nil _

theorem offered_prefix (before : k ≤ m) : b.offered k <+: b.offered m := by
  induction before with
  | refl => exact List.prefix_rfl
  | step _ ih => exact ih.trans (offered_succ b _ ▸ List.prefix_append ..)

theorem isChosen_of_none (none : b.command? k = none) : b.isChosen k = false := by
  simp [isChosen, none]

theorem isChosen_of_some (found : b.command? k = some c) :
    b.isChosen k = true ↔ b.last = some (b.offered (k + 1)).length := by
  simp [isChosen, found]

/-- The lines in front of a stop do not stop the thread, so the stop is not in front of them. -/
theorem IsStop.le_of_open (stop : b.IsStop m) (open_ : ∀ j < k, b.stops j = false) : k ≤ m := by
  by_contra beyond
  have passed := open_ m (by omega)
  rw [stop.stops] at passed
  cases passed

theorem IsStop.eq_of_stops (stop : b.IsStop m) (open_ : ∀ j < k, b.stops j = false)
    (stops : b.stops k = true) : m = k := by
  refine Nat.le_antisymm ?_ (stop.le_of_open open_)
  by_contra beyond
  have passed := stop.first k (by omega)
  rw [stops] at passed
  cases passed

/-- The lines come to an end with the source, if not before. -/
theorem exists_isStop (b : Brief) : ∃ k, b.IsStop k := by
  have ends : ∃ k, b.stops k = true := by
    refine ⟨b.source.segments.length, ?_⟩
    have last : b.answer b.source.segments.length = .ok .endOfFile := by
      rw [answer, Source.line_eq_answer, List.getD_eq_getElem?_getD,
        List.getElem?_eq_none (Nat.le_refl _)]
      rfl
    rw [stops, stop?, last]
    rfl
  classical
  exact ⟨Nat.find ends, Nat.find_spec ends, fun j before => by
    simpa using Nat.find_min ends before⟩

end Brief

end JobShell.Rehearsal
