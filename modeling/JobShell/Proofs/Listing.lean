import JobShell.Proofs.Roster
import JobShell.Shell

/-!
# A listing that does not fit is cut

The lines of a listing go out in pieces: the brackets, the number, the name and the end of the line
each on their own. A writer with little room may be full inside a piece, between two of them, or
just at the end of the last one. Where the pieces begin and end does not show: the writer holds the
front of the listing, as long as its room allows. It is flushed only behind a whole listing, and
nothing is written behind the write that failed.

Results:
1. `Registry.writeListing_cases`: the pieces come to the lines.
2. `listing_cut`: what a writer holds after a listing, and what the listing came to.
-/

namespace JobShell

namespace Registry

theorem flatten_flatMap_pieces (jobs : List Job) :
    (jobs.flatMap fun job => (pieces job.pid job.name).map Bytes.ofText).flatten =
      (jobs.map fun job => Bytes.ofText (line job.pid job.name)).flatten := by
  induction jobs with
  | nil => rfl
  | cons job jobs ih =>
      rw [List.flatMap_cons, List.flatten_append, flatten_pieces, ih, List.map_cons,
        List.flatten_cons]

/-- The listing is written as if it were one text; the flush comes behind all of it. -/
theorem writeListing_cases (r : Registry) (w : Writer) :
    (∃ mid, w.Wrote r.listing (.ok ()) mid ∧ r.writeListing w = (.ok (), mid.flush)) ∨
      ∃ e after, w.Wrote r.listing (.error e) after ∧ r.writeListing w = (.error e, after) := by
  have wrote := w.wrote_writeAll
    (r.listed.flatMap fun job => (pieces job.pid job.name).map Bytes.ofText)
  rw [flatten_flatMap_pieces] at wrote
  unfold writeListing
  split
  · next mid written =>
      rw [written] at wrote
      exact .inl ⟨mid, wrote, rfl⟩
  · next e after written =>
      rw [written] at wrote
      exact .inr ⟨e, after, wrote, rfl⟩

/-- What comes of writing the listing of `r` to the writer `w`, which can take `n` more bytes. -/
structure Cut (r : Registry) (w : Writer) (n : Nat) (result : Except Errno Unit) (after : Writer) :
    Prop where
  taken : after.taken = w.taken ++ r.listing.take n
  ok_iff : result = .ok () ↔ r.listing.length ≤ n
  /-- Otherwise the error is that of the writer. -/
  error_iff : result = .error .noSpace ↔ n < r.listing.length
  /-- Behind a whole listing there is one flush and nothing else. -/
  flushed : result = .ok () →
    ∃ chunks : List Bytes, after.history = w.history ++ chunks.map .took ++ [.flushed]
  /-- Behind the write that failed there is nothing. -/
  refused : result ≠ .ok () →
    ∃ chunks : List Bytes, after.history = w.history ++ chunks.map .took ++ [.refused]

theorem cut_writeListing (r : Registry) (n : Nat) (history : List Writer.Event) :
    r.Cut ⟨some n, history⟩ n (r.writeListing ⟨some n, history⟩).1
      (r.writeListing ⟨some n, history⟩).2 := by
  rcases r.writeListing_cases ⟨some n, history⟩ with
    ⟨mid, wrote, written⟩ | ⟨e, after, wrote, written⟩
  · have fits := wrote.fits_of_ok
    obtain ⟨chunks, _, grown⟩ := wrote.history
    rw [if_pos fits, List.append_nil] at grown
    rw [Writer.fits_some] at fits
    rw [written]
    refine ⟨?_, by simp [fits], by simp [fits], fun _ => ⟨chunks, ?_⟩,
      fun failed => absurd rfl failed⟩
    · rw [Writer.taken_flush, wrote.taken, Writer.accept_eq, Option.elim_some]
    · rw [Writer.flush, grown]
  · have full := wrote.full_of_error
    obtain ⟨chunks, _, grown⟩ := wrote.history
    have error := wrote.result
    rw [full] at grown error
    have short : ¬r.listing.length ≤ n := by
      intro fits
      rw [Writer.fits_some.2 fits] at full
      cases full
    cases error
    rw [written]
    refine ⟨?_, by simp [short], ⟨fun _ => Nat.lt_of_not_le short, fun _ => rfl⟩, by simp,
      fun _ => ⟨chunks, grown⟩⟩
    rw [wrote.taken, Writer.accept_eq, Option.elim_some]

/-- The listing has a line for each job, the most recent first. -/
structure IsListed (r : Registry) : Prop where
  lines : r.listing = (r.listed.map fun job =>
    Bytes.ofText ("[" ++ toString job.pid ++ "] " ++ job.name ++ "\n")).flatten
  jobs : r.listed.Perm r.table
  recent : r.listed.Pairwise fun a b => b.order ≤ a.order

end Registry

open Registry in
/-- A writer that can take `n` more bytes holds the first `n` bytes of a listing behind what it
held; the listing succeeds, and ends in a flush, exactly if that is all of it. The call that lists
the jobs gives the world this listing to print, and leaves the registry and all else as it is. -/
theorem listing_cut (r : Registry) (n : Nat) (history : List Writer.Event) :
    let w : Writer := ⟨some n, history⟩
    r.Cut w n (r.writeListing w).1 (r.writeListing w).2 ∧ r.IsListed ∧
      ∀ {W : Type} (world : World W) (s : Shared W),
        { s with jobs := r }.answer world .printJobs =
          some ((), { s with jobs := r, world := world.print r.listing s.world }) :=
  ⟨r.cut_writeListing n history, ⟨rfl, r.listed_perm, r.pairwise_listed⟩, fun _ _ => rfl⟩

end JobShell
