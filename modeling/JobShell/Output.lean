import JobShell.Bytes
import JobShell.Errno

/-!
# Writers with little room

A writer takes at most a given number of bytes in all. A write that fits in part is taken in part;
a write that finds no room fails. Whoever has something to write does so piece by piece, goes on
behind what was taken, and gives up at the first write that fails.

Results:
1. `Writer.Wrote.append`, `Writer.Wrote.stop`: what two texts one after the other come to.
2. `Writer.wrote_writeAll`: what a writer takes does not depend on the pieces.
-/

namespace JobShell

/-- What was done to a writer. -/
inductive Writer.Event
  /-- A write of which these bytes were taken. -/
  | took (bs : Bytes)
  /-- A write that found no room. -/
  | refused
  | flushed
deriving DecidableEq, Repr

/-- A writer: how much it can still take (`none`: without end), and what was done to it so far, the
first thing in front. -/
structure Writer where
  room : Option Nat := none
  history : List Writer.Event := []
deriving DecidableEq, Repr

namespace Writer

def Event.bytes : Event → Bytes
  | .took bs => bs
  | .refused | .flushed => []

/-- All that the writer took. -/
def taken (w : Writer) : Bytes := w.history.flatMap Event.bytes

/-- How often the writer was flushed. -/
def flushes (w : Writer) : Nat := w.history.count .flushed

/-- How many of `n` bytes there is room for. -/
def roomFor (w : Writer) (n : Nat) : Nat :=
  match w.room with
  | none => n
  | some room => min room n

/-- What there is room for. -/
def accept (w : Writer) (bs : Bytes) : Bytes := bs.take (w.roomFor bs.length)

/-- Whether there is room for all of it. -/
def fits (w : Writer) (bs : Bytes) : Bool := w.roomFor bs.length == bs.length

/-- One write; the reply tells how much of it was taken. -/
def write (w : Writer) (bs : Bytes) : Except Errno Nat × Writer :=
  if w.accept bs = [] ∧ bs ≠ [] then
    (.error .noSpace, { w with history := w.history ++ [.refused] })
  else
    (.ok (w.accept bs).length,
      { room := w.room.map (· - (w.accept bs).length),
        history := w.history ++ [.took (w.accept bs)] })

def flush (w : Writer) : Writer := { w with history := w.history ++ [.flushed] }

/-- A write of something takes some of it or fails. -/
theorem pos_of_write_ok {w after : Writer} {bs : Bytes} {n : Nat} (filled : bs ≠ [])
    (written : w.write bs = (.ok n, after)) : 0 < n := by
  unfold write at written
  split at written
  · cases written
  · next room =>
      cases written
      exact List.length_pos_iff.2 fun none => room ⟨none, filled⟩

/-- Write the bytes, by as many writes as it takes. -/
def writeWhole (w : Writer) (bs : Bytes) : Except Errno Unit × Writer :=
  if _done : bs = [] then (.ok (), w)
  else
    match _written : w.write bs with
    | (.ok n, w) => w.writeWhole (bs.drop n)
    | (.error e, w) => (.error e, w)
termination_by bs.length
decreasing_by
  have taken : 0 < n := pos_of_write_ok _done _written
  have filled : 0 < bs.length := List.length_pos_iff.2 _done
  rw [List.length_drop]
  omega

/-- Write the pieces in order and stop at the first that does not fit. -/
def writeAll (w : Writer) : List Bytes → Except Errno Unit × Writer
  | [] => (.ok (), w)
  | piece :: rest =>
      match w.writeWhole piece with
      | (.ok (), w) => w.writeAll rest
      | (.error e, w) => (.error e, w)

/-! ## What is taken -/

variable {w mid after : Writer} {bs cs : Bytes} {m : Nat} {result : Except Errno Unit}

theorem roomFor_le (w : Writer) (n : Nat) : w.roomFor n ≤ n := by
  unfold roomFor
  split <;> omega

theorem roomFor_roomFor (w : Writer) (n : Nat) : w.roomFor (w.roomFor n) = w.roomFor n := by
  cases space : w.room with
  | none => simp only [roomFor, space]
  | some space =>
      simp only [roomFor, *]
      omega

/-- What comes behind finds the room that is left. -/
theorem roomFor_add (room : mid.room = w.room.map (· - w.roomFor m)) (n : Nat) :
    w.roomFor (m + n) = w.roomFor m + mid.roomFor n := by
  cases space : w.room with
  | none => simp only [roomFor, room, space, Option.map_none]
  | some space =>
      simp only [roomFor, *, Option.map_some]
      omega

/-- The room that is left behind both is that left behind the second. -/
theorem room_add (room : mid.room = w.room.map (· - w.roomFor m)) (n : Nat) :
    mid.room.map (· - mid.roomFor n) = w.room.map (· - w.roomFor (m + n)) := by
  rw [roomFor_add room, room, Option.map_map]
  exact congrArg w.room.map (funext fun _ => Nat.sub_sub ..)

theorem roomFor_of_lt (room : mid.room = w.room.map (· - w.roomFor m)) (short : w.roomFor m < m)
    (n : Nat) : mid.roomFor n = 0 := by
  cases space : w.room with
  | none =>
      simp only [roomFor, *] at short
      omega
  | some space =>
      simp only [roomFor, *, Option.map_some] at short ⊢
      omega

theorem fits_iff : w.fits bs = true ↔ w.roomFor bs.length = bs.length := beq_iff_eq

theorem not_fits_iff : w.fits bs = false ↔ w.roomFor bs.length < bs.length := by
  have := w.roomFor_le bs.length
  rw [fits, beq_eq_false_iff_ne]
  omega

theorem length_accept (w : Writer) (bs : Bytes) :
    (w.accept bs).length = w.roomFor bs.length := by
  rw [accept, List.length_take, Nat.min_eq_left (w.roomFor_le _)]

theorem accept_of_fits (fits : w.fits bs = true) : w.accept bs = bs := by
  rw [accept, fits_iff.1 fits, List.take_length]

theorem accept_append (room : mid.room = w.room.map (· - w.roomFor bs.length)) :
    w.accept (bs ++ cs) = w.accept bs ++ mid.accept cs := by
  have most := w.roomFor_le bs.length
  rw [accept, accept, accept, List.length_append, roomFor_add room]
  rcases Nat.eq_or_lt_of_le most with whole | short
  · rw [whole, List.take_length_add_append, List.take_length]
  · rw [roomFor_of_lt room short, Nat.add_zero, List.take_append_of_le_length most,
      List.take_zero, List.append_nil]

theorem accept_eq (w : Writer) (bs : Bytes) : w.accept bs = w.room.elim bs (bs.take ·) := by
  cases space : w.room with
  | none => simp only [accept, roomFor, space, List.take_length, Option.elim_none]
  | some space =>
      simp only [accept, roomFor, *, Option.elim_some]
      exact List.take_eq_take_min.symm

theorem fits_some {n : Nat} {history : List Event} :
    fits ⟨some n, history⟩ bs = true ↔ bs.length ≤ n :=
  fits_iff.trans ⟨fun all => all ▸ Nat.min_le_left .., Nat.min_eq_right⟩

@[simp] theorem taken_flush (w : Writer) : w.flush.taken = w.taken := by
  simp [taken, flush, Event.bytes]

@[simp] theorem flushes_flush (w : Writer) : w.flush.flushes = w.flushes + 1 := by
  simp [flushes, flush]

/-- `w.Wrote bs result after`: to write `bs` gave `result` and left `after`. As much was taken as
there was room for, and there was a refusal, behind all that was taken, exactly if that was not
all. -/
structure Wrote (w : Writer) (bs : Bytes) (result : Except Errno Unit) (after : Writer) : Prop where
  result : result = if w.fits bs then .ok () else .error .noSpace
  room : after.room = w.room.map (· - w.roomFor bs.length)
  history : ∃ chunks : List Bytes, chunks.flatten = w.accept bs ∧
    after.history = w.history ++ chunks.map .took ++ if w.fits bs then [] else [.refused]

namespace Wrote

theorem fits_of_ok (wrote : w.Wrote bs (.ok ()) after) : w.fits bs = true := by
  cases fits : w.fits bs with
  | true => rfl
  | false => simpa [fits] using wrote.result

theorem full_of_error {e : Errno} (wrote : w.Wrote bs (.error e) after) : w.fits bs = false := by
  cases fits : w.fits bs with
  | false => rfl
  | true => simpa [fits] using wrote.result

theorem taken (wrote : w.Wrote bs result after) : after.taken = w.taken ++ w.accept bs := by
  obtain ⟨chunks, all, grown⟩ := wrote.history
  have bytes : (chunks.map Event.took).flatMap Event.bytes = chunks.flatten := by
    rw [List.flatMap_map]
    exact List.flatMap_id
  have last : (if w.fits bs then [] else [Event.refused]).flatMap Event.bytes = [] := by
    split <;> rfl
  rw [Writer.taken, grown, List.flatMap_append, List.flatMap_append, bytes, last, all,
    List.append_nil]
  rfl

theorem flushes (wrote : w.Wrote bs result after) : after.flushes = w.flushes := by
  obtain ⟨chunks, _, grown⟩ := wrote.history
  have writes : (chunks.map Event.took).count .flushed = 0 :=
    List.count_eq_zero.2 fun mem => by simp at mem
  have last : (if w.fits bs then [] else [Event.refused]).count .flushed = 0 := by
    split <;> rfl
  rw [Writer.flushes, grown, List.count_append, List.count_append, writes, last]
  rfl

theorem nil (w : Writer) : w.Wrote [] (.ok ()) w := by
  have fits : w.fits [] = true := fits_iff.2 (Nat.le_zero.1 (w.roomFor_le 0))
  refine ⟨by rw [fits]; rfl, ?_, [], (accept_of_fits fits).symm, by simp [fits]⟩
  rw [fits_iff.1 fits]
  exact Option.map_id'.symm

/-- One text behind another that found room. -/
theorem append (first : w.Wrote bs (.ok ()) mid) (second : mid.Wrote cs result after) :
    w.Wrote (bs ++ cs) result after := by
  have fits := first.fits_of_ok
  have whole := fits_iff.1 fits
  have more := roomFor_add first.room cs.length
  have both : w.fits (bs ++ cs) = mid.fits cs := by
    rw [Bool.eq_iff_iff, fits_iff, fits_iff, List.length_append, more]
    omega
  obtain ⟨front, taken, before⟩ := first.history
  obtain ⟨back, rest, behind⟩ := second.history
  refine ⟨?_, ?_, front ++ back, ?_, ?_⟩
  · rw [both]
    exact second.result
  · rw [second.room, room_add first.room, List.length_append]
  · rw [List.flatten_append, taken, rest, accept_append first.room]
  · rw [behind, before, both, fits]
    simp

/-- What comes behind a text that found no room is not written. -/
theorem stop {e : Errno} (first : w.Wrote bs (.error e) after) (cs : Bytes) :
    w.Wrote (bs ++ cs) (.error e) after := by
  have full := first.full_of_error
  have short := not_fits_iff.1 full
  have none := roomFor_of_lt first.room short
  have same : w.roomFor (bs ++ cs).length = w.roomFor bs.length := by
    rw [List.length_append, roomFor_add first.room, none, Nat.add_zero]
  have both : w.fits (bs ++ cs) = false := by
    rw [not_fits_iff, same, List.length_append]
    omega
  have accepted : w.accept (bs ++ cs) = w.accept bs := by
    have rest : after.accept cs = [] := by rw [accept, none, List.take_zero]
    rw [accept_append first.room, rest, List.append_nil]
  refine ⟨?_, ?_, ?_⟩
  · rw [both, ← full]
    exact first.result
  · rw [same]
    exact first.room
  · rw [both, accepted, ← full]
    exact first.history

end Wrote

/-- What a write takes, it takes whole. -/
theorem wrote_of_write_ok {n : Nat} (written : w.write bs = (.ok n, after)) :
    w.Wrote (bs.take n) (.ok ()) after := by
  unfold write at written
  split at written
  · cases written
  · cases written
    have taken : bs.take (w.accept bs).length = w.accept bs := by rw [length_accept, accept]
    have whole : w.roomFor (w.accept bs).length = (w.accept bs).length := by
      rw [length_accept, roomFor_roomFor]
    have fits : w.fits (w.accept bs) = true := fits_iff.2 whole
    rw [taken]
    refine ⟨by rw [fits]; rfl, by rw [whole], [w.accept bs], ?_, by simp [fits]⟩
    rw [accept_of_fits fits, List.flatten_singleton]

theorem wrote_of_write_error {e : Errno} (written : w.write bs = (.error e, after)) :
    w.Wrote bs (.error e) after := by
  unfold write at written
  split at written
  · next refused =>
      cases written
      have none : w.roomFor bs.length = 0 := by
        rw [← length_accept, refused.1, List.length_nil]
      have full : w.fits bs = false := by
        rw [not_fits_iff, none]
        exact List.length_pos_iff.2 refused.2
      refine ⟨by rw [full]; rfl, ?_, [], refused.1.symm, by rw [full]; simp⟩
      rw [none]
      exact Option.map_id'.symm
  · cases written

theorem wrote_writeWhole (w : Writer) (bs : Bytes) :
    w.Wrote bs (w.writeWhole bs).1 (w.writeWhole bs).2 := by
  fun_induction writeWhole w bs with
  | case1 w => exact .nil w
  | case2 w bs filled n after written ih =>
      have first := (wrote_of_write_ok written).append ih
      rwa [List.take_append_drop] at first
  | case3 w bs filled e after written => exact wrote_of_write_error written

/-- The pieces are taken as far as there is room for them, as if they were one. -/
theorem wrote_writeAll (w : Writer) (pieces : List Bytes) :
    w.Wrote pieces.flatten (w.writeAll pieces).1 (w.writeAll pieces).2 := by
  fun_induction writeAll w pieces with
  | case1 w => exact .nil w
  | case2 w piece rest after written ih =>
      have first := w.wrote_writeWhole piece
      rw [written] at first
      exact first.append ih
  | case3 w piece rest e after written =>
      have first := w.wrote_writeWhole piece
      rw [written] at first
      exact first.stop _

end Writer

end JobShell
