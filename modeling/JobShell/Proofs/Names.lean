import JobShell.Proofs.Agreement
import JobShell.Proofs.Grammar

/-!
# The names of jobs

A program is a word of a command line, so it holds no blank, and neither does the name under which
messages and the job list show it: what replaces ill-formed bytes is not a space, and no other
character is encoded with one. This is so for all names in the registry, at every moment of every
run.

Results:
1. `Bytes.mem_of_mem_lossy`: a text that is read from bytes has no spaces but theirs.
2. `Command.isSolid_of_parse`: a command that was parsed has a name without spaces.
3. `Run.named`: so has every job in the registry.
-/

namespace JobShell

open Thread (Input Execution Signals Supervisor Status)

/-! ## Texts and their bytes -/

namespace Bytes

/-- A byte below 128 encodes the character of the same number and stands in no other encoding. -/
theorem toNat_of_mem_utf8EncodeChar {c : Char} {b : UInt8} (mem : b ∈ String.utf8EncodeChar c)
    (small : b.toNat < 128) : c.toNat = b.toNat := by
  have value : c.toNat = c.val.toNat := rfl
  simp only [String.utf8EncodeChar] at mem
  -- one case for each length of the encoding; all bytes of the longer ones are above 127
  repeat' split at mem
  all_goals
    simp only [List.mem_cons, List.not_mem_nil, or_false] at mem
  · rw [mem, UInt8.toNat_ofNat', value]
    omega
  · rcases mem with rfl | rfl <;> rw [UInt8.toNat_ofNat'] at small <;> omega
  · rcases mem with rfl | rfl | rfl <;> rw [UInt8.toNat_ofNat'] at small <;> omega
  · rcases mem with rfl | rfl | rfl | rfl <;> rw [UInt8.toNat_ofNat'] at small <;> omega

theorem char_mem_of_mem_ofText {s : String} {b : UInt8} (mem : b ∈ ofText s)
    (small : b.toNat < 128) : Char.ofNat b.toNat ∈ s.toList := by
  have encoded : ofText s = s.toList.flatMap String.utf8EncodeChar := by
    rw [ofText, String.toUTF8_eq_toByteArray, ← String.utf8Encode_toList, List.utf8Encode,
      List.toList_data_toByteArray]
  rw [encoded] at mem
  obtain ⟨c, there, inside⟩ := List.mem_flatMap.1 mem
  rwa [← toNat_of_mem_utf8EncodeChar inside small, Char.ofNat_toNat]

/-- Only the number of a character gives the character; all that is no number of one gives NUL. -/
theorem ofNat_ne {c : Char} {code : Nat} (some : c ≠ '\x00') (other : code ≠ c.toNat) :
    Char.ofNat code ≠ c := by
  intro same
  by_cases valid : code.isValidChar
  · have value : Char.ofNat code = Char.ofNatAux code valid := dif_pos valid
    exact other (congrArg Char.toNat (value.symm.trans same))
  · have value : Char.ofNat code = '\x00' := dif_neg valid
    exact some (same.symm.trans value)

theorem replacement_ne {c : Char} (low : c.toNat ≤ 32) : '\uFFFD' ≠ c := by
  rintro rfl
  exact absurd low (by decide)

theorem resume_suffix (more : Nat) (lo hi : UInt8) (code : Nat) (bs : Bytes) :
    (resume more lo hi code bs).2 <:+ bs := by
  induction bs generalizing more lo hi code with
  | nil => cases more <;> exact List.suffix_rfl
  | cons b rest ih =>
      cases more with
      | zero => exact List.suffix_rfl
      | succ more =>
          unfold resume
          split
          · exact (ih ..).trans (List.suffix_cons ..)
          · exact List.suffix_rfl

/-- Every continuation byte multiplies the code by 64, so it is soon beyond that of a space. -/
theorem resume_ne {c : Char} (some : c ≠ '\x00') (low : c.toNat ≤ 32) {more : Nat} {lo hi : UInt8}
    {code : Nat} {bs : Bytes} (known : 0 < code) (enough : more = 0 → 32 < code) :
    (resume more lo hi code bs).1 ≠ c := by
  have last (zero : more = 0) : Char.ofNat code ≠ c :=
    ofNat_ne some (Nat.ne_of_gt (Nat.lt_of_le_of_lt low (enough zero)))
  induction bs generalizing more lo hi code with
  | nil =>
      cases more with
      | zero => exact last rfl
      | succ more => exact replacement_ne low
  | cons b rest ih =>
      cases more with
      | zero => exact last rfl
      | succ more =>
          unfold resume
          split
          · have grown : more = 0 → 32 < code * 64 + b.toNat % 64 := fun _ => by omega
            exact ih (by omega) grown fun zero =>
              ofNat_ne some (Nat.ne_of_gt (Nat.lt_of_le_of_lt low (grown zero)))
          · exact replacement_ne low

/-- Where a lead byte carries no bits, the bounds of the byte behind it leave out the zero. -/
theorem lead?_cases {b lo hi : UInt8} {more : Nat} (lead : lead? b = some (more, lo, hi)) :
    0 < more ∧ (0 < leadBits more b ∨ 1 < more ∧ 128 < lo.toNat) ∧ hi.toNat < 192 := by
  unfold lead? at lead
  repeat' split at lead
  all_goals
    simp only [Option.some.injEq, Prod.mk.injEq, reduceCtorEq] at lead
  all_goals
    obtain ⟨rfl, rfl, rfl⟩ := lead
    simp only [UInt8.lt_iff_toNat_lt, UInt8.le_iff_toNat_le, leadBits, ← UInt8.toNat_inj] at *
    simp only [UInt8.toNat_ofNat, Nat.shiftLeft_eq] at *
    simp only [Nat.reduceSub, Nat.reducePow, Nat.one_mul] at *
    omega

theorem lead_ne {c : Char} (some : c ≠ '\x00') (low : c.toNat ≤ 32) {b lo hi : UInt8} {more : Nat}
    (lead : lead? b = .some (more, lo, hi)) (rest : Bytes) :
    (resume more lo hi (leadBits more b) rest).1 ≠ c := by
  obtain ⟨positive, known, bound⟩ := lead?_cases lead
  cases more with
  | zero => cases positive
  | succ more =>
      cases rest with
      | nil => exact replacement_ne low
      | cons c rest =>
          unfold resume
          split
          · next fits =>
              simp only [UInt8.le_iff_toNat_le] at fits
              exact resume_ne some low (by omega) (fun _ => by omega)
          · exact replacement_ne low

/-- A text that is read from bytes has no spaces and no control characters but theirs. -/
theorem mem_of_mem_lossy {c : Char} {b : UInt8} {bs : Bytes} (number : c.toNat = b.toNat)
    (some : c ≠ '\x00') (low : c.toNat ≤ 32) (mem : c ∈ lossyChars bs) : b ∈ bs := by
  fun_induction lossyChars bs with
  | case1 => cases mem
  | case2 d rest small ih =>
      rcases List.mem_cons.1 mem with first | later
      · by_cases here : d = b
        · exact here ▸ List.mem_cons_self
        · refine absurd first.symm (ofNat_ne some fun same => here (UInt8.toNat_inj.1 ?_))
          exact same.trans number
      · exact List.mem_cons_of_mem _ (ih later)
  | case3 d rest large lead ih =>
      rcases List.mem_cons.1 mem with first | later
      · exact absurd first.symm (replacement_ne low)
      · exact List.mem_cons_of_mem _ (ih later)
  | case4 d rest large more lo hi lead ih =>
      rcases List.mem_cons.1 mem with first | later
      · exact absurd first.symm (lead_ne some low lead rest)
      · exact List.mem_cons_of_mem _ ((resume_suffix ..).subset (ih later))

end Bytes

/-! ## Commands -/

/-- Whether a name is in one piece. -/
def IsSolid (name : String) : Prop := Bytes.space ∉ Bytes.ofText name

namespace Command

theorem mem_tokens_of_parse {maxToken : Nat} {line word : Bytes} {c : Command}
    (parsed : parse maxToken line = .ok c) (mem : word ∈ c.argv) : word ∈ tokens line := by
  obtain ⟨result, reading⟩ := exists_reading maxToken (tokens line)
  obtain rfl : result = .ok c := reading.ofTokens_eq.symm.trans parsed
  generalize tokens line = toks at reading
  cases reading with
  | accepted _ ends =>
      have inside := (List.mem_filter.1 mem).1
      cases ends with
      | background => exact List.mem_append_left _ inside
      | foreground => exact inside

theorem isSolid_of_parse {maxToken : Nat} {line : Bytes} {c : Command}
    (parsed : parse maxToken line = .ok c) : IsSolid c.name := by
  intro space
  have char := Bytes.char_mem_of_mem_ofText space (by decide)
  cases at_ : c.program with
  | none => simp [name, at_] at char
  | some program =>
      simp only [name, at_, Option.map_some, Option.getD_some, Bytes.lossy,
        String.toList_ofList] at char
      have blank := Bytes.mem_of_mem_lossy (b := Bytes.space) rfl (by decide) (by decide) char
      have word := mem_tokens_of_parse parsed (List.mem_of_head? at_)
      exact absurd (not_isBlank_of_mem_tokens word blank) (by decide)

end Command

theorem Line.isSolid_of_command? {maxToken : Nat} {l : Line} {c : Command}
    (found : l.command? maxToken = some c) : IsSolid c.name := by
  cases l with
  | tooLong | endOfFile => cases found
  | text bytes =>
      cases parsed : Command.parse maxToken bytes with
      | error e => simp [command?, parsed] at found
      | ok d =>
          simp only [command?, parsed] at found
          split at found
          · cases found
          · cases found
            exact Command.isSolid_of_parse parsed

/-! ## Every run -/

namespace Thread

/-- The command that the execution thread has in hand. -/
def Execution.serving : Status Execution (Except LaunchError Unit) → List Command
  | .running (.deciding c) | .running (.launching c _) => [c]
  | _ => []

theorem Input.isSolid_of_resume {limits : Limits} {i : Input} {reply} {c : Command}
    (mem : c ∈ carried ((i.turn limits).resume reply)) : IsSolid c.name := by
  cases i with
  | reading r =>
      have read : carried ((turn limits (.reading r)).resume reply) = _ :=
        carried_readOn 0 limits.token r reply
      rw [read] at mem
      obtain ⟨l, _, found⟩ := List.mem_filterMap.1 mem
      exact Line.isSolid_of_command? found
  | looking | leaving | moving | offering | offeringShutdown => cases reply <;> cases mem
  | _ => cases mem

theorem Execution.serving_afterLaunch {c d : Command} {p : Launch.Progress}
    (mem : d ∈ serving (afterLaunch c p)) : d = c := by
  cases p with
  | running l => exact List.mem_singleton.1 mem
  | ended result => cases result <;> cases mem

end Thread

namespace Shared

variable {W : Type} {world : World W} {s after : Shared W} {c : Call} {reply : c.Reply}

/-- A job is entered by `track` and by no other call. -/
theorem jobs_of_answer {job : Job} (answered : s.answer world c = some (reply, after))
    (mem : job ∈ after.jobs.table) : job ∈ s.jobs.table ∨ ∃ pid, c = .track pid job.name := by
  cases quiet : c.concernsJobs with
  | false => exact .inl (jobs_answer answered quiet ▸ mem)
  | true =>
      cases c with
      | track pid name =>
          simp only [answer] at answered
          split at answered <;> cases answered
          · rcases Registry.mem_insert_iff.1 mem with rfl | ⟨mem, _⟩
            · exact .inr ⟨pid, rfl⟩
            · exact .inl mem
          · exact .inl mem
      | untrack pid =>
          cases answered
          exact .inl (Registry.mem_remove_iff.1 mem).1
      | forgetJobs =>
          cases answered
          cases mem
      | _ => cases quiet

/-- A command comes into the slot by an offer of it and in no other way. -/
theorem carried_of_answer {d : Command} (answered : s.answer world c = some (reply, after))
    (mem : d ∈ after.slot.carried) : d ∈ s.slot.carried ∨ c = .offer (.run d) := by
  cases quiet : c.concernsSlot with
  | false => exact .inl (slot_answer answered quiet ▸ mem)
  | true =>
      cases c with
      | offer r =>
          simp only [answer] at answered
          split at answered <;> cases answered
          · next accepted =>
              obtain ⟨_, rfl⟩ := Slot.offer_eq_ok_iff.1 accepted
              cases r with
              | run c => exact .inr (List.mem_singleton.1 mem ▸ rfl)
              | shutdown => cases mem
          · exact .inl mem
      | awaitRequest =>
          simp only [answer, Option.map_eq_some_iff] at answered
          obtain ⟨⟨r, slot⟩, taken, same⟩ := answered
          cases same
          cases at_ : s.slot with
          | ready r =>
              rw [at_] at taken
              cases taken
              cases mem
          | empty | running =>
              rw [at_] at taken
              cases taken
      | release =>
          cases answered
          cases mem
      | _ => cases quiet

end Shared

namespace Shell

variable {W : Type} {world : World W} {s after : Shell W} {e : Event}

namespace AtCall

variable {thread : ThreadId}

/-- Commands are offered by the input thread. -/
theorem of_offer {c : Command} (at_ : s.AtCall thread (.offer (.run c))) :
    c ∈ Input.carried s.input := by
  generalize same : Call.offer (.run c) = call at at_
  cases at_ with
  | @input i at_ =>
      cases i <;> cases same
      exact at_ ▸ List.mem_cons_self
  | @execution x at_ =>
      cases x with
      | launching c l => cases l <;> cases same
      | releasing result => cases result <;> cases same
      | _ => cases same
  | @signals g at_ =>
      cases g with
      | reaping r => cases r <;> cases same
      | _ => cases same
  | @supervisor v at_ => cases v <;> cases same

/-- Jobs are entered by the execution thread, under the name of the command that it has in hand. -/
theorem of_track {pid : Pid} {name : String} (at_ : s.AtCall thread (.track pid name)) :
    ∃ c ∈ Execution.serving s.execution, c.name = name := by
  generalize same : Call.track pid name = call at at_
  cases at_ with
  | @input i at_ => cases i <;> cases same
  | @execution x at_ =>
      cases x with
      | launching c l =>
          cases l <;> cases same
          exact ⟨c, at_ ▸ List.mem_cons_self, rfl⟩
      | releasing result => cases result <;> cases same
      | _ => cases same
  | @signals g at_ =>
      cases g with
      | reaping r => cases r <;> cases same
      | _ => cases same
  | @supervisor v at_ => cases v <;> cases same

end AtCall

namespace Moves

theorem carried_of (moves : s.Moves world e after) {c : Command}
    (mem : c ∈ after.shared.slot.carried) :
    c ∈ s.shared.slot.carried ∨ c ∈ Input.carried s.input := by
  rcases moves.answered with answered | ⟨_, same⟩
  · refine (Shared.carried_of_answer answered mem).imp_right fun offers => ?_
    exact (offers ▸ atCall_of_call? moves.call?_eq).of_offer
  · exact .inl (same ▸ mem)

theorem jobs_of (moves : s.Moves world e after) {job : Job}
    (mem : job ∈ after.shared.jobs.table) :
    job ∈ s.shared.jobs.table ∨ ∃ c ∈ Execution.serving s.execution, c.name = job.name := by
  rcases moves.answered with answered | ⟨_, same⟩
  · refine (Shared.jobs_of_answer answered mem).imp_right fun ⟨pid, tracks⟩ => ?_
    exact (tracks ▸ atCall_of_call? moves.call?_eq).of_track
  · exact .inl (same ▸ mem)

/-- The execution thread comes to a command by taking it out of the slot. -/
theorem serving_of (moves : s.Moves world e after) {c : Command}
    (mem : c ∈ Execution.serving after.execution) :
    c ∈ Execution.serving s.execution ∨ c ∈ s.shared.slot.carried := by
  cases moves with
  | @execution x reply shared at_ answered =>
      rw [at_]
      cases x with
      | awaiting =>
          simp only [Execution.turn, Shared.answer, Option.map_eq_some_iff] at answered
          obtain ⟨⟨r, slot⟩, taken, same⟩ := answered
          cases same
          cases holds : s.shared.slot with
          | ready request =>
              rw [holds] at taken
              cases taken
              cases r with
              | run d => exact .inr mem
              | shutdown => cases mem
          | empty | running =>
              rw [holds] at taken
              cases taken
      | deciding d =>
          cases reply with
          | true => cases mem
          | false => exact .inl mem
      | launching d l => exact .inl (List.mem_singleton.2 (Execution.serving_afterLaunch mem))
      | settingExit => cases mem
      | releasing result => cases result <;> cases mem
  | input | signals | supervisor => exact .inl mem

end Moves

/-- No name in the registry or on its way to it has a space. -/
structure Named (s : Shell W) : Prop where
  input : ∀ c ∈ Input.carried s.input, IsSolid c.name
  slot : ∀ c ∈ s.shared.slot.carried, IsSolid c.name
  execution : ∀ c ∈ Execution.serving s.execution, IsSolid c.name
  jobs : ∀ job ∈ s.shared.jobs.table, IsSolid job.name

namespace Named

theorem boot (limits : Limits) (w : W) : (Shell.boot limits w).Named := ⟨nofun, nofun, nofun, nofun⟩

theorem withWorld (named : s.Named) (w : W) : (s.withWorld w).Named :=
  ⟨named.input, named.slot, named.execution, named.jobs⟩

theorem moves (named : s.Named) (moves : s.Moves world e after) : after.Named where
  input c mem := by
    cases moves with
    | input => exact Input.isSolid_of_resume mem
    | execution | signals | supervisor => exact named.input c mem
  slot c mem := (moves.carried_of mem).elim (named.slot c) (named.input c)
  execution c mem := (moves.serving_of mem).elim (named.execution c) (named.slot c)
  jobs job mem := by
    rcases moves.jobs_of mem with mem | ⟨c, serves, same⟩
    · exact named.jobs job mem
    · exact same ▸ named.execution c serves

end Named

end Shell

/-- At every moment of every run the names of the jobs have no spaces. -/
theorem Run.named {W : Type} {world : World W} {outside : W → W → Prop} {limits : Limits} {w : W}
    {t : Trace} {s : Shell W} (run : Run world outside (Shell.boot limits w) t s) : s.Named :=
  run.invariant (P := fun _ s => s.Named) (.boot limits w) (fun named => named.moves)
    fun named _ => named.withWorld _

end JobShell
