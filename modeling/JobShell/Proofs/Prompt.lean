import JobShell.Proofs.Names
import Mathlib.Data.List.Chain

/-!
# The user sits behind a prompt

In a run of the shell a thread that writes with the slot locked does so in one step. Here the lock
is looked at more closely: a thread takes it, sees whether the slot is occupied, writes piece by
piece and gives the lock back, and the other threads do in between what needs no lock. What the
shell writes to standard output is noted.

A prompt is a dollar sign with a space behind it. Listings and announcements hold names, which may
have dollar signs but no spaces, so nothing else that is written can be taken for a prompt.

Results:
1. `Guarded.Run.shell`, `Guarded.Run.exists_of_moves`: with the lock the threads do what they do
   without it.
2. `Guarded.Kept.step`: every step keeps what is known of the holder of the lock and of the end of
   the output.
3. `user_behind_prompt`: a prompt is written only while the slot is empty, and it is the last thing
   written while a line is read and nobody holds the lock.
-/

namespace JobShell

open Thread (Input Execution Signals Supervisor Status)

/-! ## What is written with the slot locked -/

theorem Call.concernsSlot_of_not_locksSlot {c : Call} (free : c.locksSlot = false) :
    c.concernsSlot = false := by
  cases c <;> first | rfl | cases free

theorem Shared.answer_withWorld {W : Type} {world : World W} {s after : Shared W} {c : Call}
    {reply : c.Reply} (answered : s.answer world c = some (reply, after))
    (locks : c.locksSlot = true) (w : W) :
    ∃ v, Shared.answer world { s with world := w } c = some (reply, { after with world := v }) := by
  cases c with
  | offer r =>
      simp only [answer] at answered ⊢
      split at answered <;> cases answered <;> exact ⟨w, rfl⟩
  | awaitVacancy =>
      simp only [answer] at answered ⊢
      split at answered <;> cases answered
      next vacant => exact ⟨w, if_neg vacant⟩
  | awaitRequest =>
      simp only [answer, Option.map_eq_some_iff] at answered ⊢
      obtain ⟨taken, found, same⟩ := answered
      cases same
      exact ⟨w, taken, found, rfl⟩
  | release | printByOccupancy =>
      cases answered
      exact ⟨_, rfl⟩
  | _ => cases locks

namespace Shell

variable {W : Type} {world : World W} {s after : Shell W} {e : Event} {thread : ThreadId}
  {c : Call}

theorem pieces_of_call? (next : s.call? thread = some c) :
    s.pieces thread = c.pieces s.shared.slot := by
  rw [pieces, next]

/-- The pieces are what the call writes when it is made in one step. -/
theorem flatten_pieces (next : s.call? thread = some c) (locks : c.locksSlot = true) :
    (s.pieces thread).flatten = c.output s.shared.slot s.shared.jobs := by
  rw [pieces_of_call? next, Call.output_of_locksSlot locks]

/-- A call that needs nothing but the slot comes to the same in every world. -/
theorem Moves.withWorld (moves : s.Moves world e after) (locks : e.call.locksSlot = true) (w : W) :
    ∃ v, (s.withWorld w).Moves world e (after.withWorld v) := by
  cases moves with
  | input at_ answered =>
      obtain ⟨v, same⟩ := Shared.answer_withWorld answered locks w
      exact ⟨v, .input at_ same⟩
  | execution at_ answered =>
      obtain ⟨v, same⟩ := Shared.answer_withWorld answered locks w
      exact ⟨v, .execution at_ same⟩
  | signals at_ answered =>
      obtain ⟨v, same⟩ := Shared.answer_withWorld answered locks w
      exact ⟨v, .signals at_ same⟩
  | @supervisor v reply shared at_ answered =>
      cases v with
      | offeringShutdown =>
          have offered : s.shared.answer world (.offer .shutdown) = some (reply, shared) := answered
          obtain ⟨v, same⟩ := Shared.answer_withWorld offered locks w
          exact ⟨v, .supervisor at_ same⟩
      | _ => cases locks

theorem Moves.pieces_of_ne (moves : s.Moves world e after) (other : e.thread ≠ thread)
    (free : e.call.locksSlot = false) : after.pieces thread = s.pieces thread := by
  rw [pieces, pieces, moves.call?_of_ne other,
    moves.slot_eq (Call.concernsSlot_of_not_locksSlot free)]

end Shell

/-! ## Prompts -/

/-- No prompt stands anywhere in a byte string: a dollar sign is never followed by a space. -/
def Bytes.IsPromptFree (bs : Bytes) : Prop := bs.IsChain fun a b => a = 36 → b ≠ space

namespace Bytes.IsPromptFree

variable {bs cs : Bytes}

theorem no_prompt_inside (free : bs.IsPromptFree) : ¬ Input.prompt <:+: bs := by
  intro inside
  have chain := List.IsChain.infix free inside
  rw [show Input.prompt = [36, space] by decide, List.isChain_cons_cons] at chain
  exact chain.1 rfl rfl

theorem of_not_mem_dollar (none : 36 ∉ bs) : bs.IsPromptFree := by
  refine List.Pairwise.isChain (List.pairwise_iff_forall_sublist.2 ?_)
  intro a b pair dollar
  exact absurd (dollar ▸ pair.subset List.mem_cons_self) none

theorem of_not_mem_space (none : space ∉ bs) : bs.IsPromptFree := by
  refine List.Pairwise.isChain (List.pairwise_iff_forall_sublist.2 ?_)
  intro a b pair _ blank
  exact none (blank ▸ pair.subset (List.mem_cons_of_mem _ List.mem_cons_self))

theorem append (front : bs.IsPromptFree) (back : cs.IsPromptFree)
    (apart : bs.getLast? ≠ some 36) : IsPromptFree (bs ++ cs) := by
  refine List.isChain_append.2 ⟨front, back, ?_⟩
  intro a last b _ dollar
  exact absurd (dollar ▸ last) apart

end Bytes.IsPromptFree

theorem not_mem_repr {c : Char} (other : c.isDigit = false) (n : Nat) : c ∉ n.repr.toList := by
  intro mem
  rw [Nat.toList_repr] at mem
  rw [Nat.isDigit_of_mem_toDigits (by decide) (by decide) mem] at other
  cases other

theorem not_mem_toString {c : Char} (other : c.isDigit = false) (unsigned : c ≠ '-') (n : Int) :
    c ∉ (toString n).toList := by
  rw [Int.toString_eq_repr, Int.repr_eq_if]
  split
  · exact not_mem_repr other _
  · simpa [unsigned] using not_mem_repr other _

theorem Bytes.not_mem_ofText {b : UInt8} {s : String} (none : Char.ofNat b.toNat ∉ s.toList)
    (small : b.toNat < 128) : b ∉ ofText s :=
  fun mem => none (char_mem_of_mem_ofText mem small)

theorem JobReport.isPromptFree_text (r : JobReport) : (textLine r.text).IsPromptFree := by
  refine .of_not_mem_dollar (Bytes.not_mem_ofText (?_ : '$' ∉ _) (by decide))
  have event : '$' ∉ r.event.text.toList := by
    cases r.event with
    | exit code => simpa [JobEvent.text] using not_mem_repr (by decide) code
    | done | killed | stopped => decide
  simpa [text, event] using not_mem_toString (by decide) (by decide) r.pid

namespace Registry

theorem isPromptFree_line (pid : Pid) {name : String} (solid : IsSolid name) :
    (Bytes.ofText (line pid name)).IsPromptFree := by
  have front : 36 ∉ Bytes.ofText ("[" ++ toString pid ++ "] ") :=
    Bytes.not_mem_ofText
      (show '$' ∉ _ by simpa using not_mem_toString (by decide) (by decide) pid) (by decide)
  have back : Bytes.space ∉ Bytes.ofText (name ++ "\n") := by
    rw [Bytes.ofText_append, List.mem_append, not_or]
    exact ⟨solid, by decide⟩
  rw [line, String.append_assoc, Bytes.ofText_append]
  exact .append (.of_not_mem_dollar front) (.of_not_mem_space back)
    fun last => front (List.mem_of_getLast? last)

theorem isPromptFree_listing {jobs : Registry} (solid : ∀ job ∈ jobs.table, IsSolid job.name) :
    jobs.listing.IsPromptFree := by
  have listed : ∀ job ∈ jobs.listed, IsSolid job.name := fun job mem =>
    solid job (jobs.listed_perm.mem_iff.1 mem)
  rw [listing, lines]
  generalize jobs.listed = jobs at listed
  induction jobs with
  | nil => exact .of_not_mem_dollar List.not_mem_nil
  | cons job rest ih =>
      have final : (Bytes.ofText (line job.pid job.name)).getLast? = some Bytes.newline := by
        rw [line, Bytes.ofText_append, show Bytes.ofText "\n" = [Bytes.newline] by decide,
          List.getLast?_concat]
      rw [List.map_cons, List.flatten_cons]
      refine .append (isPromptFree_line _ (listed job List.mem_cons_self))
        (ih fun job mem => listed job (List.mem_cons_of_mem _ mem)) ?_
      rw [final]
      decide

end Registry

namespace Thread

/-- The input thread has come to read a line, or is about to. -/
def Input.IsAtLine : Input → Prop
  | .prompting | .reading _ => True
  | _ => False

/-- Before a line is read its prompt is written. -/
theorem Input.of_resume_reading {limits : Limits} {i : Input} {reply} {r : LineReader}
    (reads : (i.turn limits).resume reply = .running (.reading r)) :
    i = .prompting ∨ ∃ r, i = .reading r := by
  cases i with
  | prompting => exact .inl rfl
  | reading r => exact .inr ⟨r, rfl⟩
  | looking | leaving => cases reply <;> cases reads
  | moving | offering | offeringShutdown => cases reply <;> cases reads
  | complaining | blank | listing | waiting | endingInput | settingExit => cases reads

end Thread

/-- While the input thread reads a line, nothing is published, nothing runs, and the execution
thread waits for a request. -/
theorem Alternation.vacant_of_atLine {i : Input} {x : Status Execution (Except LaunchError Unit)}
    {slot : Slot} {exiting : Bool} (alternation : Alternation (.running i) x slot exiting)
    (line : i.IsAtLine) : slot = .empty ∧ x = .running .awaiting := by
  cases alternation with
  | reading => exact ⟨rfl, rfl⟩
  | failed dismissed => cases dismissed <;> exact absurd line id
  | offered | serving | failing | stopping => exact absurd line id

namespace Shell

variable {W : Type} {world : World W} {s after : Shell W} {e : Event} {thread : ThreadId}

/-- A call that needs no lock writes no prompt. -/
theorem isPromptFree_output {c : Call} (named : s.Named) (next : s.call? thread = some c)
    (free : c.locksSlot = false) : (c.output s.shared.slot s.shared.jobs).IsPromptFree := by
  have nothing : Bytes.IsPromptFree [] := .of_not_mem_dollar List.not_mem_nil
  have returned : (Bytes.ofText "\r").IsPromptFree := .of_not_mem_dollar (by decide)
  have ended : (Bytes.ofText "\n").IsPromptFree := .of_not_mem_dollar (by decide)
  cases atCall_of_call? next with
  | @input i at_ =>
      cases i with
      | listing => exact Registry.isPromptFree_listing named.jobs
      | blank => exact returned
      | endingInput => exact ended
      | prompting | offering | waiting | offeringShutdown => cases free
      | _ => exact nothing
  | @execution x at_ =>
      cases x with
      | launching c l =>
          cases l with
          | announcing pid =>
              exact Registry.isPromptFree_line pid
                (named.execution c (at_ ▸ List.mem_cons_self))
          | endingLine => exact ended
          | _ => exact nothing
      | releasing result => cases result <;> cases free
      | awaiting => cases free
      | deciding | settingExit => exact nothing
  | @signals g at_ =>
      cases g with
      | reaping r => cases r <;> exact nothing
      | redrawing | reporting => cases free
      | awaiting | checkingExit => exact nothing
  | @supervisor v at_ =>
      cases v with
      | offeringShutdown => cases free
      | _ => exact nothing

theorem pieces_of_prompting (at_ : s.input = .running .prompting) :
    s.pieces .input = [Input.prompt] := by
  simp only [pieces, call?, at_, Input.turn, Call.pieces, ite_self]

/-- Who writes with the slot locked, and what: the input thread its prompt, and the signal thread a
new line or a report, each with a prompt behind it unless the slot is occupied. -/
inductive WritesLocked (s : Shell W) : ThreadId → List Bytes → Prop
  | prompting : s.input = .running .prompting → WritesLocked s .input [Input.prompt]
  | redrawing : s.shared.slot.isBusy = false →
      WritesLocked s .signals [Bytes.ofText "\n" ++ Input.prompt]
  | finishing : s.shared.slot.isBusy = true → WritesLocked s .signals [Bytes.ofText "\n"]
  | reporting (r : JobReport) : s.shared.slot.isBusy = false →
      WritesLocked s .signals [textLine r.text, Input.prompt]
  | reportingOnly (r : JobReport) : s.shared.slot.isBusy = true →
      WritesLocked s .signals [textLine r.text]

theorem writesLocked_of_pieces (filled : s.pieces thread ≠ []) :
    s.WritesLocked thread (s.pieces thread) := by
  cases next : s.call? thread with
  | none => exact absurd (by rw [pieces, next]) filled
  | some c =>
      rw [pieces_of_call? next] at filled ⊢
      cases atCall_of_call? next with
      | @input i at_ =>
          cases i with
          | prompting =>
              rw [Input.turn, Call.pieces, ite_self]
              exact .prompting at_
          | _ => exact absurd rfl filled
      | @execution x at_ =>
          cases x with
          | launching c l => cases l <;> exact absurd rfl filled
          | releasing result => cases result <;> exact absurd rfl filled
          | _ => exact absurd rfl filled
      | @signals g at_ =>
          cases g with
          | redrawing =>
              cases busy : s.shared.slot.isBusy <;> simp only [Signals.turn, Call.pieces, busy]
              · exact .redrawing busy
              · exact .finishing busy
          | reporting r rest =>
              cases busy : s.shared.slot.isBusy <;> simp only [Signals.turn, Call.pieces, busy]
              · exact .reporting r busy
              · exact .reportingOnly r busy
          | reaping r => cases r <;> exact absurd rfl filled
          | _ => exact absurd rfl filled
      | @supervisor v at_ => cases v <;> exact absurd rfl filled

/-- Among what is written under the lock are prompts, but only while the slot is empty. -/
theorem empty_of_prompt {piece : Bytes} (ordered : s.Coordinated)
    (written : piece ∈ s.pieces thread) (prompt : Input.prompt <:+: piece) :
    s.shared.slot = .empty := by
  have writes := writesLocked_of_pieces (List.ne_nil_of_mem written)
  revert written
  generalize s.pieces thread = pieces at writes
  intro written
  cases writes with
  | prompting at_ =>
      have alternation := ordered.alternation
      rw [at_] at alternation
      exact (alternation.vacant_of_atLine trivial).1
  | redrawing vacant | reporting _ vacant => exact Slot.isBusy_eq_false_iff.1 vacant
  | finishing =>
      rw [List.mem_singleton.1 written] at prompt
      have free : (Bytes.ofText "\n").IsPromptFree := .of_not_mem_dollar (by decide)
      exact absurd prompt free.no_prompt_inside
  | reportingOnly r =>
      rw [List.mem_singleton.1 written] at prompt
      exact absurd prompt r.isPromptFree_text.no_prompt_inside

theorem Moves.of_reading {r : LineReader} (moves : s.Moves world e after)
    (reads : after.input = .running (.reading r)) :
    (∃ r, s.input = .running (.reading r)) ∨
      s.input = .running .prompting ∧ e.thread = .input ∧ e.call.locksSlot = true := by
  cases moves with
  | input at_ =>
      rcases Input.of_resume_reading reads with rfl | ⟨r, rfl⟩
      · exact .inr ⟨at_, rfl, rfl⟩
      · exact .inl ⟨r, at_⟩
  | execution | signals | supervisor => exact .inl ⟨r, reads⟩

/-- While a line is read, what another thread writes under the lock ends with a prompt. -/
theorem prompt_pieces (vacant : s.shared.slot = .empty) (other : thread ≠ .input) :
    (s.pieces thread).flatten = [] ∨ Input.prompt <:+ (s.pieces thread).flatten := by
  rcases eq_or_ne (s.pieces thread) [] with none | filled
  · exact .inl (by rw [none, List.flatten_nil])
  have free : s.shared.slot.isBusy = false := Slot.isBusy_eq_false_iff.2 vacant
  have writes := writesLocked_of_pieces filled
  generalize s.pieces thread = pieces at writes
  cases writes with
  | prompting => exact absurd rfl other
  | redrawing => exact .inr (by decide)
  | reporting r => exact .inr ⟨textLine r.text, by simp⟩
  | finishing busy | reportingOnly _ busy =>
      rw [free] at busy
      cases busy

/-- While a line is read, nobody writes without the lock. -/
theorem output_of_atLine {i : Input} (ordered : s.Coordinated) (at_ : s.input = .running i)
    (line : i.IsAtLine) (moves : s.Moves world e after) (free : e.call.locksSlot = false)
    (slot : Slot) (jobs : Registry) : e.call.output slot jobs = [] := by
  obtain ⟨alternation, supervision⟩ := ordered
  rw [at_] at alternation supervision
  cases moves with
  | input own =>
      cases at_.symm.trans own
      cases i with
      | reading => rfl
      | prompting => cases free
      | _ => exact absurd line id
  | execution own =>
      cases own.symm.trans (alternation.vacant_of_atLine line).2
      cases free
  | @signals g _ _ own =>
      cases g with
      | reaping r => cases r <;> rfl
      | redrawing | reporting => cases free
      | awaiting | checkingExit => rfl
  | supervisor own =>
      cases own.symm.trans supervision.of_input_running
      rfl

end Shell

/-! ## The lock -/

/-- The shell with the lock on its slot, and what it has written to standard output. -/
structure Guarded (W : Type) where
  shell : Shell W
  /-- Who holds the lock, and what it writes before it gives the lock back. -/
  lock : Option (ThreadId × List Bytes) := none
  written : Bytes := []

namespace Guarded

variable {W : Type}

def boot (limits : Limits) (w : W) : Guarded W := { shell := .boot limits w }

/-- What the holder of the lock has still to write. -/
def ahead (g : Guarded W) : Bytes :=
  match g.lock with
  | some (_, rest) => rest.flatten
  | none => []

/-- `g.Steps world bs after`: a thread takes one step, and `bs` is what it writes. -/
inductive Steps (world : World W) (g : Guarded W) : Bytes → Guarded W → Prop
  | take {thread : ThreadId} {c : Call} :
      g.lock = none → g.shell.call? thread = some c → c.locksSlot = true →
      Steps world g [] { g with lock := some (thread, g.shell.pieces thread) }
  | write {thread : ThreadId} {piece : Bytes} {rest : List Bytes} :
      g.lock = some (thread, piece :: rest) →
      Steps world g piece {
        shell := g.shell.withWorld (world.print piece g.shell.shared.world)
        lock := some (thread, rest)
        written := g.written ++ piece }
  /-- The call is made and the lock given back. What the call writes has been written before. -/
  | leave {e : Event} {after : Shell W} :
      g.lock = some (e.thread, []) → g.shell.Moves world e after →
      Steps world g [] { g with shell := after.withWorld g.shell.shared.world, lock := none }
  /-- A thread that has to wait gives the lock back, too. -/
  | wait {thread : ThreadId} :
      g.lock = some (thread, []) → (∀ {e after}, g.shell.Moves world e after → e.thread ≠ thread) →
      Steps world g [] { g with lock := none }
  /-- A call that needs no lock. -/
  | move {e : Event} {after : Shell W} :
      g.shell.Moves world e after → e.call.locksSlot = false →
      Steps world g (e.call.output g.shell.shared.slot g.shell.shared.jobs) {
        g with
        shell := after
        written := g.written ++ e.call.output g.shell.shared.slot g.shell.shared.jobs }

/-- A run of the shell with the lock on its slot. -/
inductive Run (world : World W) (outside : W → W → Prop) (g : Guarded W) : Guarded W → Prop
  | start : Run world outside g g
  | step {now after : Guarded W} {bs : Bytes} :
      Run world outside g now → now.Steps world bs after → Run world outside g after
  | outside {now : Guarded W} {w : W} :
      Run world outside g now → outside now.shell.shared.world w →
      Run world outside g { now with shell := now.shell.withWorld w }

variable {world : World W} {outside : W → W → Prop} {first g after : Guarded W} {bs : Bytes}

/-- With the lock the threads do nothing that they would not do without it: what they write is a
change of the world, from whichever side it comes. -/
theorem Run.shell (run : Run world outside first g) :
    ∃ t, JobShell.Run world (fun _ _ => True) first.shell t g.shell := by
  induction run with
  | start => exact ⟨[], .start⟩
  | step _ steps ih =>
      obtain ⟨t, run⟩ := ih
      cases steps with
      | take | wait => exact ⟨t, run⟩
      | write => exact ⟨t, run.outside trivial⟩
      | leave _ moves => exact ⟨_, (run.move moves).outside trivial⟩
      | move moves => exact ⟨_, run.move moves⟩
  | outside _ _ ih =>
      obtain ⟨t, run⟩ := ih
      exact ⟨t, run.outside trivial⟩

theorem Run.writes {thread : ThreadId} {pieces : List Bytes} (run : Run world outside first g)
    (held : g.lock = some (thread, pieces)) :
    ∃ w, Run world outside first {
      shell := g.shell.withWorld w
      lock := some (thread, [])
      written := g.written ++ pieces.flatten } := by
  induction pieces generalizing g with
  | nil =>
      obtain ⟨shell, lock, written⟩ := g
      cases held
      refine ⟨shell.shared.world, ?_⟩
      rw [List.flatten_nil, List.append_nil]
      exact run
  | cons piece rest ih =>
      obtain ⟨w, later⟩ := ih (run.step (.write held)) rfl
      refine ⟨w, ?_⟩
      rw [List.flatten_cons, ← List.append_assoc]
      exact later

/-- While nobody holds the lock, the threads can do with it what they can do without it. -/
theorem Run.exists_of_moves {e : Event} {later : Shell W} (run : Run world outside first g)
    (free : g.lock = none) (moves : g.shell.Moves world e later) :
    ∃ w, Run world outside first {
      shell := later.withWorld w
      written := g.written ++ e.call.output g.shell.shared.slot g.shell.shared.jobs } := by
  cases locks : e.call.locksSlot with
  | false =>
      obtain ⟨shell, lock, written⟩ := g
      cases free
      exact ⟨later.shared.world, run.step (.move moves locks)⟩
  | true =>
      obtain ⟨w, wrote⟩ := (run.step (.take free moves.call?_eq locks)).writes rfl
      obtain ⟨v, moves'⟩ := moves.withWorld locks w
      rw [Shell.flatten_pieces moves.call?_eq locks] at wrote
      have left := wrote.step (.leave rfl moves')
      exact ⟨w, left⟩

/-! ## The end of the output -/

/-- The input thread has its prompt behind it, or under way. -/
def HasPrompted (g : Guarded W) : Prop :=
  (∃ r, g.shell.input = .running (.reading r)) ∨
    g.shell.input = .running .prompting ∧ ∃ rest, g.lock = some (.input, rest)

/-- What is known of the holder of the lock and of the end of the output. -/
structure Kept (g : Guarded W) : Prop where
  /-- The holder stays at its call, and what it has still to write is the end of its pieces. -/
  held : ∀ {thread rest}, g.lock = some (thread, rest) →
    ∃ c, g.shell.call? thread = some c ∧ c.locksSlot = true ∧ rest <:+ g.shell.pieces thread
  /-- The output ends with a prompt, or will when the lock is given back. -/
  shown : g.HasPrompted → Input.prompt <:+ g.written ++ g.ahead

theorem Kept.boot (limits : Limits) (w : W) : (boot limits w).Kept where
  held := nofun
  shown prompted := by rcases prompted with ⟨_, at_⟩ | ⟨at_, _⟩ <;> cases at_

namespace Kept

variable {thread : ThreadId} {rest : List Bytes} {piece : Bytes} {e : Event} {later : Shell W}

theorem take {c : Call} (kept : g.Kept) (ordered : g.shell.Coordinated) (free : g.lock = none)
    (next : g.shell.call? thread = some c) (locks : c.locksSlot = true) :
    Kept { g with lock := some (thread, g.shell.pieces thread) } where
  held same := by
    cases same
    exact ⟨c, next, locks, List.suffix_refl _⟩
  shown prompted := by
    show Input.prompt <:+ g.written ++ (g.shell.pieces thread).flatten
    rcases prompted with
      ⟨r, (at_ : g.shell.input = .running (.reading r))⟩ |
      ⟨(at_ : g.shell.input = .running .prompting), rest, holds⟩
    · have before := kept.shown (.inl ⟨r, at_⟩)
      have alternation := ordered.alternation
      rw [at_] at alternation
      -- the input thread reads, so it is another thread that takes the lock
      have other : thread ≠ .input := by
        rintro rfl
        simp only [Shell.call?, at_, Option.some.injEq] at next
        rw [← next] at locks
        cases locks
      rcases Shell.prompt_pieces (alternation.vacant_of_atLine trivial).1 other with none | ends
      · rw [none]
        simpa [ahead, free] using before
      · exact ends.trans (List.suffix_append ..)
    · obtain rfl : thread = .input := congrArg Prod.fst (Option.some.inj holds)
      rw [Shell.pieces_of_prompting at_]
      exact List.suffix_append ..

theorem write (kept : g.Kept) (holds : g.lock = some (thread, piece :: rest)) (w : W) :
    Kept { shell := g.shell.withWorld w, lock := some (thread, rest),
           written := g.written ++ piece } where
  held same := by
    cases same
    obtain ⟨c, next, locks, left⟩ := kept.held holds
    exact ⟨c, next, locks, (List.suffix_cons ..).trans left⟩
  shown prompted := by
    have before : g.HasPrompted := by
      rcases prompted with reads | ⟨prompts, _, same⟩
      · exact .inl reads
      · cases same
        exact .inr ⟨prompts, _, holds⟩
    have ends := kept.shown before
    simp only [ahead, holds, List.flatten_cons, ← List.append_assoc] at ends
    exact ends

theorem leave (kept : g.Kept) (holds : g.lock = some (e.thread, []))
    (moves : g.shell.Moves world e later) (w : W) :
    Kept { g with shell := later.withWorld w, lock := none } where
  held same := by cases same
  shown prompted := by
    rcases prompted with ⟨r, (reads : later.input = .running (.reading r))⟩ | ⟨_, _, same⟩
    · have before : g.HasPrompted := by
        rcases moves.of_reading reads with reading | ⟨prompting, thread, _⟩
        · exact .inl reading
        · exact .inr ⟨prompting, [], thread ▸ holds⟩
      simpa [ahead, holds] using kept.shown before
    · cases same

theorem wait (kept : g.Kept) (holds : g.lock = some (thread, [])) :
    Kept { g with lock := none } where
  held same := by cases same
  shown prompted := by
    rcases prompted with reads | ⟨_, _, same⟩
    · simpa [ahead, holds] using kept.shown (.inl reads)
    · cases same

theorem move (kept : g.Kept) (ordered : g.shell.Coordinated)
    (moves : g.shell.Moves world e later) (free : e.call.locksSlot = false) :
    Kept { g with
      shell := later
      written := g.written ++ e.call.output g.shell.shared.slot g.shell.shared.jobs } := by
  -- the holder of the lock does not move, because its call needs the lock
  have other {thread rest} (holds : g.lock = some (thread, rest)) : e.thread ≠ thread := by
    rintro rfl
    obtain ⟨c, next, locks, _⟩ := kept.held holds
    cases moves.call?_eq.symm.trans next
    rw [free] at locks
    cases locks
  constructor
  · intro thread rest holds
    obtain ⟨c, next, locks, left⟩ := kept.held holds
    refine ⟨c, (moves.call?_of_ne (other holds)).trans next, locks, ?_⟩
    show rest <:+ later.pieces thread
    rwa [moves.pieces_of_ne (other holds) free]
  · intro prompted
    obtain ⟨i, at_, line, before⟩ :
        ∃ i, g.shell.input = .running i ∧ i.IsAtLine ∧ g.HasPrompted := by
      rcases prompted with ⟨r, (reads : later.input = .running (.reading r))⟩ | ⟨at_, rest, holds⟩
      · rcases moves.of_reading reads with ⟨r, reading⟩ | ⟨_, _, locks⟩
        · exact ⟨_, reading, trivial, .inl ⟨r, reading⟩⟩
        · rw [free] at locks
          cases locks
      · have stays := (moves.input_eq (other holds)).symm.trans at_
        exact ⟨_, stays, trivial, .inr ⟨stays, rest, holds⟩⟩
    have nothing := Shell.output_of_atLine ordered at_ line moves free
      g.shell.shared.slot g.shell.shared.jobs
    rw [nothing, List.append_nil]
    exact kept.shown before

theorem step (kept : g.Kept) (ordered : g.shell.Coordinated)
    (steps : g.Steps world bs after) : after.Kept := by
  cases steps with
  | take free next locks => exact kept.take ordered free next locks
  | write holds => exact kept.write holds _
  | leave holds moves => exact kept.leave holds moves _
  | wait holds => exact kept.wait holds
  | move moves free => exact kept.move ordered moves free

end Kept

theorem Run.kept {limits : Limits} {w : W} (run : Run world outside (boot limits w) g) :
    g.Kept := by
  induction run with
  | start => exact .boot limits w
  | step run steps ih =>
      obtain ⟨t, shell⟩ := run.shell
      exact ih.step shell.coordinated steps
  | outside _ _ ih => exact ⟨ih.held, ih.shown⟩

end Guarded

/-! ## Every run -/

/-- How the prompts stand at one moment of a run. -/
structure Prompted {W : Type} (world : World W) (g : Guarded W) : Prop where
  /-- Whoever writes a prompt next, no command is published and none runs. -/
  vacant : ∀ {bs after}, g.Steps world bs after → Bytes.ofText "$ " <:+: bs →
    g.shell.shared.slot = .empty
  /-- While the input thread reads its line and nobody holds the lock, a prompt is the last thing
  that the shell has written. -/
  shown : ∀ {r}, g.shell.input = .running (.reading r) → g.lock = none →
    Bytes.ofText "$ " <:+ g.written

/-- Whatever signals come, and in whatever order the threads take their steps, the user who is to
type a line sits behind a prompt. -/
theorem user_behind_prompt {W : Type} {world : World W} {outside : W → W → Prop} {limits : Limits}
    {w : W} {g : Guarded W} (run : Guarded.Run world outside (Guarded.boot limits w) g) :
    Prompted world g := by
  have kept := run.kept
  obtain ⟨t, shell⟩ := run.shell
  constructor
  · intro bs after steps prompt
    cases steps with
    | take | leave | wait => exact absurd prompt (by decide)
    | write holds =>
        obtain ⟨c, _, _, left⟩ := kept.held holds
        exact Shell.empty_of_prompt shell.coordinated (left.subset List.mem_cons_self) prompt
    | move moves free =>
        have plain := Shell.isPromptFree_output shell.named moves.call?_eq free
        exact absurd prompt plain.no_prompt_inside
  · intro r reads free
    have ends := kept.shown (.inl ⟨r, reads⟩)
    rw [Guarded.ahead, free, List.append_nil] at ends
    exact ends

/-- A world in which somebody presses the interrupt key all the time. -/
def World.impatient : World Source :=
  { World.still with awaitSignal := fun source => some (.ok Signal.int, source) }

/-- An interrupt while the line is read: the shell writes a newline and another prompt. -/
theorem user_behind_prompt_after_interrupt :
    ∃ g : Guarded Source,
      Guarded.Run World.impatient (fun _ _ => False) (Guarded.boot {} []) g ∧
        g.written = Bytes.ofText "$ \n$ " ∧ Bytes.ofText "$ " <:+ g.written := by
  have booted : Guarded.Run World.impatient (fun _ _ => False) (Guarded.boot {} [])
      (Guarded.boot {} []) := .start
  have looked := booted.step (.move (.input rfl rfl) rfl)
  have locked := looked.step (@Guarded.Steps.take _ _ _ .input _ rfl rfl rfl)
  have wrote := locked.step (.write rfl)
  have reading := wrote.step (.leave rfl (.input rfl rfl))
  have interrupted := reading.step (.move (.signals rfl rfl) rfl)
  have lockedAgain := interrupted.step (@Guarded.Steps.take _ _ _ .signals _ rfl rfl rfl)
  have wroteAgain := lockedAgain.step (.write rfl)
  have run := wroteAgain.step (.leave rfl (.signals rfl rfl))
  exact ⟨_, run, by decide, (user_behind_prompt run).shown rfl rfl⟩

end JobShell
