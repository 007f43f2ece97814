import JobShell.Proofs.Course
import JobShell.Proofs.Handover

/-!
# The transcript of the input thread

The input thread prompts, reads a line and answers it, and this is one round. Its course is a list
of whole rounds and the part that is done of the round at hand; line number `k` of the script
belongs to round number `k`, and nothing is written outside the rounds. What a round writes is
decided by its line, except that the list of jobs is the one of the moment.

Around the thread the registry and the files may change as they like, and the exit flag may be set
and unset. The consumer of the requests may take its time, and leaves the slot empty while nothing
is handed over. The script, the two streams and the working directory are the thread's own.

Results:
1. `Input.accepts_accept`: what is done about a line, case by case.
2. `Input.InHand.step`: one call takes the round at hand further, or completes it.
3. `LineRound.isLine_errors`: a diagnostic is one line, whatever stands in the line it is about.
4. `input_transcribes`: the acts, the two streams and the working directory of the input thread.
-/

namespace JobShell

open Thread
open Machine (NodeId)
open Rehearsal (Stage)

/-! ## What is done about a line -/

namespace Thread.Input

/-- What the input thread does about a line that it has read. -/
inductive Accepts (maxToken : Nat) : Line → Input → Prop
  | tooLong : Accepts maxToken .tooLong (.complaining ParseError.argumentTooLong.message)
  | refused {bytes : Bytes} {e : ParseError} :
      Command.parse maxToken bytes = .error e →
      Accepts maxToken (.text bytes) (.complaining e.message)
  | blank {bytes : Bytes} {c : Command} :
      Command.parse maxToken bytes = .ok c → c.argv = [] → Accepts maxToken (.text bytes) .blank
  | jobs {bytes : Bytes} {c : Command} :
      Command.parse maxToken bytes = .ok c → c.program = some (Bytes.ofText "jobs") →
      Accepts maxToken (.text bytes) .listing
  | cd {bytes dir : Bytes} {c : Command} :
      Command.parse maxToken bytes = .ok c → c.argv = [Bytes.ofText "cd", dir] →
      Accepts maxToken (.text bytes) (.moving dir)
  | misused {bytes : Bytes} {c : Command} :
      Command.parse maxToken bytes = .ok c → c.program = some (Bytes.ofText "cd") →
      c.arguments.length ≠ 1 →
      Accepts maxToken (.text bytes) (.complaining CdError.argumentCount.message)
  | exit {bytes : Bytes} {c : Command} :
      Command.parse maxToken bytes = .ok c → c.program = some (Bytes.ofText "exit") →
      Accepts maxToken (.text bytes) (.leaving (.ok ()))
  | other {bytes program : Bytes} {c : Command} :
      Command.parse maxToken bytes = .ok c → c.program = some program →
      program ∉ [Bytes.ofText "exit", Bytes.ofText "jobs", Bytes.ofText "cd"] →
      Accepts maxToken (.text bytes) (.offering c)
  | endOfFile : Accepts maxToken .endOfFile .endingInput

theorem accepts_cd {maxToken : Nat} {bytes : Bytes} {c : Command}
    (parsed : Command.parse maxToken bytes = .ok c)
    (named : c.program = some (Bytes.ofText "cd")) :
    Accepts maxToken (.text bytes)
      (match directoryArgument c.arguments with
        | .ok dir => .moving dir
        | .error e => .complaining e.message) := by
  cases arguments : c.arguments with
  | nil => exact .misused parsed named (by simp [arguments])
  | cons dir more =>
      cases more with
      | nil =>
          refine .cd parsed ?_
          rw [← List.cons_head?_tail (Option.mem_def.2 named)]
          exact congrArg _ arguments
      | cons => exact .misused parsed named (by simp [arguments])

theorem accepts_dispatch {maxToken : Nat} {bytes program : Bytes} {c : Command}
    (parsed : Command.parse maxToken bytes = .ok c) (named : c.program = some program) :
    Accepts maxToken (.text bytes) (dispatch c) := by
  simp only [dispatch, Builtin.ofCommand?, named]
  by_cases exit : program = Bytes.ofText "exit"
  · rw [if_pos exit]
    exact .exit parsed (exit ▸ named)
  · rw [if_neg exit]
    by_cases jobs : program = Bytes.ofText "jobs"
    · rw [if_pos jobs]
      exact .jobs parsed (jobs ▸ named)
    · rw [if_neg jobs]
      by_cases cd : program = Bytes.ofText "cd"
      · rw [if_pos cd]
        exact accepts_cd parsed (cd ▸ named)
      · rw [if_neg cd]
        exact .other parsed named (by simp [exit, jobs, cd])

theorem accepts_accept (maxToken : Nat) (l : Line) : Accepts maxToken l (accept maxToken l) := by
  cases l with
  | tooLong => exact .tooLong
  | endOfFile => exact .endOfFile
  | text bytes =>
      cases parsed : Command.parse maxToken bytes with
      | error e =>
          simp only [accept, parsed]
          exact .refused parsed
      | ok c =>
          simp only [accept, parsed]
          cases argv : c.argv with
          | nil =>
              rw [Command.isBlank, argv]
              exact .blank parsed argv
          | cons program arguments =>
              rw [Command.isBlank, argv]
              exact accepts_dispatch parsed (by rw [Command.program, argv, List.head?_cons])

end Thread.Input

/-! ## What a call does to the stage -/

/-- What a call writes to standard error. -/
def Call.complaint : Call → Bytes
  | .complain bs => bs
  | _ => []

/-- What an act writes to standard error. -/
def Act.complaint {W : Type} (d : Act W) : Bytes := d.call.complaint

/-- The directory that an act has moved to, if it has moved. -/
def Act.cwd? : Act Stage → Option NodeId
  | ⟨_, .changeDirectory _, .ok (), after⟩ => some after.world.cwd
  | _ => none

namespace Rehearsal.Stage

/-- What a call does to the stage, apart from what it reads. -/
structure Written (s : Shared Stage) (d : Act Stage) (after : Shared Stage) : Prop where
  stdout_eq : after.world.stdout = s.world.stdout ++ d.output
  stderr_eq : after.world.stderr = s.world.stderr ++ d.complaint
  cwd_eq : after.world.cwd = d.cwd?.getD s.world.cwd
  source_eq : d.call ≠ .readByte → after.world.source = s.world.source

theorem written_of_answer {s after : Shared Stage} {c : Call} {reply : c.Reply}
    (answered : s.answer Stage.world c = some (reply, after)) :
    Written s ⟨s, c, reply, after⟩ after := by
  cases c with
  | print | printJobs | printByOccupancy =>
      cases answered
      exact ⟨rfl, (List.append_nil _).symm, rfl, fun _ => rfl⟩
  | complain bs =>
      cases answered
      exact ⟨(List.append_nil _).symm, rfl, rfl, fun _ => rfl⟩
  | changeDirectory dir =>
      cases moved : s.world.tree.changeDirectory s.world.cwd dir <;>
      · simp only [Shared.answer, world, changeDirectory, moved] at answered
        cases answered
        exact ⟨(List.append_nil _).symm, (List.append_nil _).symm, rfl, fun _ => rfl⟩
  | readByte =>
      have read : some (s.world.readByte.1, { s with world := s.world.readByte.2 }) =
        some (reply, after) := answered
      unfold readByte at read
      split at read <;> cases read <;>
      exact ⟨(List.append_nil _).symm, (List.append_nil _).symm, rfl, fun other => absurd rfl other⟩
  | offer | awaitVacancy =>
      simp only [Shared.answer] at answered
      split at answered <;> cases answered <;>
      exact ⟨(List.append_nil _).symm, (List.append_nil _).symm, rfl, fun _ => rfl⟩
  | awaitRequest =>
      simp only [Shared.answer, Option.map_eq_some_iff] at answered
      obtain ⟨_, _, same⟩ := answered
      cases same
      exact ⟨(List.append_nil _).symm, (List.append_nil _).symm, rfl, fun _ => rfl⟩
  | joinInput | joinExecution | joinSignals | awaitSignal => cases answered
  | _ =>
      cases answered
      exact ⟨(List.append_nil _).symm, (List.append_nil _).symm, rfl, fun _ => rfl⟩

/-- A directory that is refused leaves everything as it was. -/
theorem changeDirectory_cases {s after : Shared Stage} {dir : Bytes} {reply : Except IoError Unit}
    (answered : s.answer Stage.world (.changeDirectory dir) = some (reply, after)) :
    (reply = .ok () ∧ s.world.tree.changeDirectory s.world.cwd dir = .ok after.world.cwd) ∨
      ∃ e, reply = .error e ∧ after = s := by
  cases moved : s.world.tree.changeDirectory s.world.cwd dir with
  | ok cwd =>
      simp only [Shared.answer, world, changeDirectory, moved] at answered
      cases answered
      exact .inl ⟨rfl, rfl⟩
  | error e =>
      simp only [Shared.answer, world, changeDirectory, moved] at answered
      cases answered
      exact .inr ⟨e, rfl, rfl⟩

end Rehearsal.Stage

/-! ## Rounds -/

/-- The acts from a look at the exit flag to the last read of a line. -/
inductive Opens : List (Act Stage) → Prop
  | prompt {s before after : Shared Stage} :
      s.exiting = false →
      Opens [⟨s, .isExiting, false, s⟩,
        ⟨before, .printByOccupancy [Bytes.ofText "$ "] [Bytes.ofText "$ "], (), after⟩]
  | read {acts : List (Act Stage)} {before after : Shared Stage} {outcome : ReadOutcome} :
      Opens acts → Opens (acts ++ [⟨before, .readByte, outcome, after⟩])

/-- Writing a diagnostic. -/
abbrev Act.complain (before : Shared Stage) (message : String) (after : Shared Stage) :
    Act Stage :=
  ⟨before, .complain (textLine message), (), after⟩

/-- `Deals maxToken l acts out errors`: about the line `l`, which does not stop it, the thread does
`acts`; it writes `out` and complains with `errors`. -/
inductive Deals (maxToken : Nat) : Line → List (Act Stage) → Bytes → Bytes → Prop
  | complains {l : Line} {message : String} {before after : Shared Stage} :
      Input.Accepts maxToken l (.complaining message) →
      Deals maxToken l [.complain before message after] [] (textLine message)
  | blank {l : Line} {before after : Shared Stage} :
      Input.Accepts maxToken l .blank →
      Deals maxToken l [⟨before, .print (Bytes.ofText "\r"), (), after⟩] (Bytes.ofText "\r") []
  | lists {l : Line} {before after : Shared Stage} :
      Input.Accepts maxToken l .listing →
      Deals maxToken l [⟨before, .printJobs, (), after⟩] before.jobs.listing []
  | moves {l : Line} {dir : Bytes} {before after : Shared Stage} :
      Input.Accepts maxToken l (.moving dir) →
      Deals maxToken l [⟨before, .changeDirectory dir, Except.ok (), after⟩] [] []
  | stays {l : Line} {dir : Bytes} {e : IoError} {before between now after : Shared Stage} :
      Input.Accepts maxToken l (.moving dir) →
      Deals maxToken l
        [⟨before, .changeDirectory dir, Except.error e, between⟩,
          .complain now (CdError.ofIoError dir e).message after]
        [] (textLine (CdError.ofIoError dir e).message)
  | handsOver {l : Line} {c : Command} {before between now after : Shared Stage} :
      Input.Accepts maxToken l (.offering c) →
      Deals maxToken l
        [⟨before, .offer (.run c), Except.ok (), between⟩, ⟨now, .awaitVacancy, (), after⟩] [] []

/-- A line that was read and does not stop the thread, what was done up to its last read and about
it, and what was written about it. -/
structure LineRound where
  line : Line
  opening : List (Act Stage)
  work : List (Act Stage)
  out : Bytes
  errors : Bytes

namespace LineRound

def acts (r : LineRound) : List (Act Stage) := r.opening ++ r.work

structure IsWhole (maxToken : Nat) (r : LineRound) : Prop where
  opens : Opens r.opening
  deals : Deals maxToken r.line r.work r.out r.errors

end LineRound

namespace Thread.Input

/-- `Leaves limits source k acts out result`: with line number `k` in hand the thread has done
`acts` and written `out`, and it is about to leave with `result`. -/
inductive Leaves (limits : Limits) (source : Source) (k : Nat) :
    List (Act Stage) → Bytes → Except Fault Unit → Prop
  /-- The exit flag was set, and the line is not read. -/
  | dismissed {s : Shared Stage} :
      s.exiting = true → Leaves limits source k [⟨s, .isExiting, true, s⟩] [] (.ok ())
  | exit {opening : List (Act Stage)} {l : Line} :
      Opens opening → source.line limits.line k = .ok l →
      Accepts limits.token l (.leaving (.ok ())) →
      Leaves limits source k opening (Bytes.ofText "$ ") (.ok ())
  | endOfFile {opening : List (Act Stage)} {before after : Shared Stage} :
      Opens opening → source.line limits.line k = .ok .endOfFile →
      Leaves limits source k (opening ++ [⟨before, .print (Bytes.ofText "\n"), (), after⟩])
        (Bytes.ofText "$ " ++ Bytes.ofText "\n") (.ok ())
  | failed {opening : List (Act Stage)} {e : Errno} :
      Opens opening → source.line limits.line k = .error e →
      Leaves limits source k opening (Bytes.ofText "$ ") (.error (.input e))

/-- `InHand limits source k work out t unread`: what the thread has done and written with line
number `k` in hand, where it stands, and the reads that are left. -/
inductive InHand (limits : Limits) (source : Source) (k : Nat) :
    List (Act Stage) → Bytes → Status Input (Except Fault Unit) → Source → Prop
  | looking : InHand limits source k [] [] (.running .looking) (source.afterLines limits.line k)
  | prompting {s : Shared Stage} :
      s.exiting = false →
      InHand limits source k [⟨s, .isExiting, false, s⟩] [] (.running .prompting)
        (source.afterLines limits.line k)
  | reading {opening : List (Act Stage)} {r : LineReader} {unread : Source} :
      Opens opening →
      r.run unread = (source.line limits.line k, source.afterLines limits.line (k + 1)) →
      InHand limits source k opening (Bytes.ofText "$ ") (.running (.reading r)) unread
  | read {opening : List (Act Stage)} {l : Line} {x : Input} :
      Opens opening → source.line limits.line k = .ok l → Accepts limits.token l x →
      (∀ result, x ≠ .leaving result) →
      InHand limits source k opening (Bytes.ofText "$ ") (.running x)
        (source.afterLines limits.line (k + 1))
  | staying {opening : List (Act Stage)} {l : Line} {dir : Bytes} {e : IoError}
      {before after : Shared Stage} :
      Opens opening → source.line limits.line k = .ok l → Accepts limits.token l (.moving dir) →
      InHand limits source k (opening ++ [⟨before, .changeDirectory dir, Except.error e, after⟩])
        (Bytes.ofText "$ ") (.running (.complaining (CdError.ofIoError dir e).message))
        (source.afterLines limits.line (k + 1))
  | waiting {opening : List (Act Stage)} {l : Line} {c : Command}
      {before after : Shared Stage} :
      Opens opening → source.line limits.line k = .ok l → Accepts limits.token l (.offering c) →
      InHand limits source k (opening ++ [⟨before, .offer (.run c), Except.ok (), after⟩])
        (Bytes.ofText "$ ") (.running .waiting) (source.afterLines limits.line (k + 1))
  | leaving {acts : List (Act Stage)} {out : Bytes} {result : Except Fault Unit}
      {unread : Source} :
      Leaves limits source k acts out result →
      InHand limits source k acts out (.running (.leaving result)) unread
  | settingExit {acts : List (Act Stage)} {out : Bytes} {result : Except Fault Unit}
      {unread : Source} {s : Shared Stage} :
      Leaves limits source k acts out result → s.exiting = false →
      InHand limits source k (acts ++ [⟨s, .isExiting, false, s⟩]) out
        (.running (.settingExit result)) unread
  | offeringShutdown {acts : List (Act Stage)} {out : Bytes} {result : Except Fault Unit}
      {unread : Source} {s before after : Shared Stage} :
      Leaves limits source k acts out result → s.exiting = false →
      InHand limits source k
        (acts ++ [⟨s, .isExiting, false, s⟩, ⟨before, .setExiting, (), after⟩]) out
        (.running (.offeringShutdown result)) unread
  /-- Somebody else has set the flag before. -/
  | leftAlone {acts : List (Act Stage)} {out : Bytes} {result : Except Fault Unit}
      {unread : Source} {s : Shared Stage} :
      Leaves limits source k acts out result → s.exiting = true →
      InHand limits source k (acts ++ [⟨s, .isExiting, true, s⟩]) out (.ended result) unread
  | woken {acts : List (Act Stage)} {out : Bytes} {result : Except Fault Unit}
      {unread : Source} {s before between now after : Shared Stage} :
      Leaves limits source k acts out result → s.exiting = false →
      InHand limits source k
        (acts ++ [⟨s, .isExiting, false, s⟩, ⟨before, .setExiting, (), between⟩,
          ⟨now, .offer .shutdown, Except.ok (), after⟩]) out
        (.ended result) unread

/-- The round is at hand, or it was completed and the thread looks at the next line. -/
def Settles (limits : Limits) (source : Source) (k : Nat) (work : List (Act Stage))
    (t : Status Input (Except Fault Unit)) (unread : Source) : Prop :=
  (∃ out, InHand limits source k work out t unread) ∨
    t = .running .looking ∧ unread = source.afterLines limits.line (k + 1) ∧
      ∃ r : LineRound,
        r.IsWhole limits.token ∧ source.line limits.line k = .ok r.line ∧ r.acts = work

variable {limits : Limits} {source unread : Source} {k : Nat} {opening work : List (Act Stage)}
  {out errors : Bytes} {l : Line} {x : Input} {now after : Shared Stage}
  {t : Status Input (Except Fault Unit)}

theorem Settles.of_deals (opens : Opens opening) (answer : source.line limits.line k = .ok l)
    (deals : Deals limits.token l work out errors) :
    Settles limits source k (opening ++ work) (.running .looking)
      (source.afterLines limits.line (k + 1)) :=
  .inr ⟨rfl, rfl, ⟨l, opening, work, out, errors⟩, ⟨opens, deals⟩, answer, rfl⟩

/-- When the last byte of a line has been read. -/
theorem Settles.of_line (opens : Opens opening) (answer : source.line limits.line k = .ok l) :
    Settles limits source k opening (.running (accept limits.token l))
      (source.afterLines limits.line (k + 1)) := by
  have accepts := accepts_accept limits.token l
  by_cases leaves : ∃ result, accept limits.token l = .leaving result
  · obtain ⟨result, leaves⟩ := leaves
    rw [leaves] at accepts ⊢
    cases accepts with
    | exit parsed named => exact .inl ⟨_, .leaving (.exit opens answer (.exit parsed named))⟩
  · exact .inl ⟨_, .read opens answer accepts fun result same => leaves ⟨result, same⟩⟩

/-- When one more byte has been read. -/
theorem Settles.of_read {r : LineReader} {outcome : ReadOutcome} {stage later : Stage}
    (opens : Opens opening) (rest : r.run stage.source =
      (source.line limits.line k, source.afterLines limits.line (k + 1)))
    (read : stage.readByte = (outcome, later)) :
    Settles limits source k (opening ++ [⟨now, .readByte, outcome, after⟩])
      (.running (readOn limits.token r outcome)) later.source := by
  unfold readOn
  rcases stage.feed_cases rest read with
    ⟨left, l, line, answer⟩ | ⟨left, e, failed, answer⟩ | ⟨next, more, rest⟩
  · rw [line, left]
    exact .of_line opens.read answer
  · rw [failed]
    exact .inl ⟨_, .leaving (.failed opens.read answer)⟩
  · rw [more]
    exact .inl ⟨_, .reading opens.read rest⟩

/-- When the first call about a line has been made. -/
theorem Settles.of_accepts {reply : (x.turn limits).call.Reply} (opens : Opens opening)
    (answer : source.line limits.line k = .ok l) (accepts : Accepts limits.token l x)
    (stays : ∀ result, x ≠ .leaving result) (free : now.slot = .empty)
    (answered : now.answer Stage.world (x.turn limits).call = some (reply, after))
    (unread : now.world.source = source.afterLines limits.line (k + 1)) :
    Settles limits source k (opening ++ [⟨now, (x.turn limits).call, reply, after⟩])
      ((x.turn limits).resume reply) after.world.source := by
  have kept : after.world.source = now.world.source :=
    (Stage.written_of_answer answered).source_eq (by cases accepts <;> rintro ⟨⟩)
  rw [kept, unread]
  cases accepts with
  | exit => exact absurd rfl (stays _)
  | tooLong => exact .of_deals opens answer (.complains .tooLong)
  | refused parsed => exact .of_deals opens answer (.complains (.refused parsed))
  | misused parsed named count =>
      exact .of_deals opens answer (.complains (.misused parsed named count))
  | blank parsed empty => exact .of_deals opens answer (.blank (.blank parsed empty))
  | jobs parsed named => exact .of_deals opens answer (.lists (.jobs parsed named))
  | cd parsed argv =>
      cases reply with
      | ok => exact .of_deals opens answer (.moves (.cd parsed argv))
      | error e => exact .inl ⟨_, .staying opens answer (.cd parsed argv)⟩
  | other parsed named foreign =>
      simp only [Input.turn, Shared.answer, free, Slot.offer] at answered
      cases answered
      exact .inl ⟨_, .waiting opens answer (.other parsed named foreign)⟩
  | endOfFile => exact .inl ⟨_, .leaving (.endOfFile opens answer)⟩

theorem InHand.step {reply : (x.turn limits).call.Reply}
    (inHand : InHand limits source k work out (.running x) unread)
    (here : now.world.source = unread) (free : x = .waiting ∨ now.slot = .empty)
    (answered : now.answer Stage.world (x.turn limits).call = some (reply, after)) :
    Settles limits source k (work ++ [⟨now, (x.turn limits).call, reply, after⟩])
      ((x.turn limits).resume reply) after.world.source := by
  have written := Stage.written_of_answer answered
  cases inHand with
  | looking =>
      cases answered
      rw [here]
      cases flag : now.exiting with
      | true => exact .inl ⟨_, .leaving (.dismissed flag)⟩
      | false => exact .inl ⟨_, .prompting flag⟩
  | prompting clear =>
      rw [written.source_eq (by rintro ⟨⟩), here]
      cases answered
      exact .inl ⟨_, .reading (.prompt clear) (Prod.ext rfl (Source.afterLines_succ ..).symm)⟩
  | reading opens rest =>
      simp only [Input.turn, Shared.answer, Option.map_eq_some_iff] at answered
      obtain ⟨⟨outcome, later⟩, found, same⟩ := answered
      cases same
      exact .of_read opens (here ▸ rest) (Option.some.inj found)
  | read opens answer accepts stays =>
      refine .of_accepts opens answer accepts stays (free.resolve_left ?_) answered here
      cases accepts <;> rintro ⟨⟩
  | staying opens answer accepts =>
      rw [written.source_eq (by rintro ⟨⟩), here, List.append_assoc]
      exact .of_deals opens answer (.stays accepts)
  | waiting opens answer accepts =>
      rw [written.source_eq (by rintro ⟨⟩), here, List.append_assoc]
      exact .of_deals opens answer (.handsOver accepts)
  | leaving leaves =>
      cases answered
      cases flag : now.exiting with
      | true => exact .inl ⟨_, .leftAlone leaves flag⟩
      | false => exact .inl ⟨_, .settingExit leaves flag⟩
  | settingExit leaves clear =>
      rw [List.append_assoc]
      exact .inl ⟨_, .offeringShutdown leaves clear⟩
  | offeringShutdown leaves clear =>
      have empty : now.slot = .empty := free.resolve_left (by rintro ⟨⟩)
      simp only [Input.turn, Shared.answer, empty, Slot.offer] at answered
      cases answered
      rw [List.append_assoc]
      exact .inl ⟨_, .woken leaves clear⟩

end Thread.Input

/-! ## What is written -/

namespace Act

variable {W : Type} {acts more : List (Act W)} {out errors out' errors' : Bytes}

/-- What some acts write to standard error. -/
def complaints (acts : List (Act W)) : Bytes := acts.flatMap Act.complaint

/-- What some acts write to the two streams. -/
structure Writes (acts : List (Act W)) (out errors : Bytes) : Prop where
  written : Act.written acts = out
  complaints : complaints acts = errors

theorem Writes.append (front : Writes acts out errors) (back : Writes more out' errors') :
    Writes (acts ++ more) (out ++ out') (errors ++ errors') where
  written := by rw [written_append, front.written, back.written]
  complaints := by
    rw [Act.complaints, List.flatMap_append, ← front.complaints, ← back.complaints]
    rfl

theorem complaints_concat (acts : List (Act W)) (d : Act W) :
    Act.complaints (acts ++ [d]) = Act.complaints acts ++ d.complaint := by
  simp [Act.complaints]

/-- Acts behind which nothing is written. -/
theorem Writes.silent (front : Writes acts out errors) (back : Writes more [] []) :
    Writes (acts ++ more) out errors := by
  have whole := front.append back
  rwa [List.append_nil, List.append_nil] at whole

end Act

section Written

open Thread.Input

variable {limits : Limits} {source unread : Source} {k maxToken : Nat}
  {opening work : List (Act Stage)} {out errors : Bytes} {l : Line}
  {t : Status Input (Except Fault Unit)} {result : Except Fault Unit}

theorem Opens.writes (opens : Opens opening) : Act.Writes opening (Bytes.ofText "$ ") [] := by
  induction opens with
  | @prompt s before =>
      refine ⟨?_, rfl⟩
      simp [Act.written, Act.output, Call.output]
  | read _ ih => exact ih.silent ⟨rfl, rfl⟩

theorem Deals.writes (deals : Deals maxToken l work out errors) :
    Act.Writes work out errors := by
  cases deals with
  | complains | stays => exact ⟨rfl, List.append_nil _⟩
  | blank | lists => exact ⟨List.append_nil _, rfl⟩
  | moves | handsOver => exact ⟨rfl, rfl⟩

theorem LineRound.IsWhole.writes {r : LineRound} (whole : r.IsWhole maxToken) :
    Act.Writes r.acts (Bytes.ofText "$ " ++ r.out) r.errors :=
  whole.opens.writes.append whole.deals.writes

theorem LineRound.writes_flatMap {rounds : List LineRound}
    (whole : ∀ r ∈ rounds, r.IsWhole maxToken) :
    Act.Writes (rounds.flatMap LineRound.acts) (rounds.flatMap fun r => Bytes.ofText "$ " ++ r.out)
      (rounds.flatMap LineRound.errors) := by
  induction rounds with
  | nil => exact ⟨rfl, rfl⟩
  | cons r rounds ih =>
      exact (whole r List.mem_cons_self).writes.append (ih fun r mem => whole r (.tail _ mem))

theorem Thread.Input.Leaves.writes (leaves : Leaves limits source k work out result) :
    Act.Writes work out [] := by
  cases leaves with
  | dismissed => exact ⟨rfl, rfl⟩
  | exit opens | failed opens => exact opens.writes
  | endOfFile opens => exact opens.writes.append ⟨rfl, rfl⟩

theorem Thread.Input.InHand.writes (inHand : InHand limits source k work out t unread) :
    Act.Writes work out [] := by
  cases inHand with
  | looking | prompting => exact ⟨rfl, rfl⟩
  | reading opens | read opens => exact opens.writes
  | staying opens | waiting opens => exact opens.writes.silent ⟨rfl, rfl⟩
  | leaving leaves => exact leaves.writes
  | settingExit leaves | offeringShutdown leaves | leftAlone leaves | woken leaves =>
      exact leaves.writes.silent ⟨rfl, rfl⟩

end Written

/-! ## Diagnostics are lines -/

theorem Source.newline_not_mem_of_line {maxLen k : Nat} {source : Source} {bytes : Bytes}
    (text : source.line maxLen k = .ok (.text bytes)) : Bytes.newline ∉ bytes := by
  have plain (segment : Source) : Bytes.newline ∉ segment.content := by
    intro mem
    obtain ⟨outcome, _, same⟩ := List.mem_filterMap.1 mem
    split at same
    · split at same
      · cases same
      · next other => exact other (Option.some.inj same)
    · cases same
  rw [Source.line_eq_answer, answer] at text
  split at text
  · cases text
  · split at text
    · cases text
    · split at text <;> cases text
      exact plain _

theorem Command.mem_of_mem_tokens {line token : Bytes} {b : UInt8} (mem : token ∈ tokens line)
    (inside : b ∈ token) : b ∈ line := by
  fun_induction tokens line with
  | case1 => cases mem
  | case2 c rest blank ih => exact .tail _ (ih mem)
  | case3 c rest blank ih =>
      rcases List.mem_cons.1 mem with rfl | mem
      · rcases List.mem_cons.1 inside with rfl | inside
        · exact List.mem_cons_self
        · exact .tail _ ((List.takeWhile_prefix _).subset inside)
      · exact .tail _ ((List.dropWhile_suffix _).subset (ih mem))

theorem ParseError.newline_not_mem_message (e : ParseError) :
    Bytes.newline ∉ Bytes.ofText e.message := by
  cases e with
  | spaceAfterOperator op | missingTarget op => cases op <;> decide
  | _ => decide

theorem Bytes.newline_not_mem_toString (n : Int) : newline ∉ ofText (toString n) :=
  not_mem_ofText (not_mem_toString (by decide) (by decide) n) (by decide)

theorem Errno.newline_not_mem_text (e : Errno) : Bytes.newline ∉ Bytes.ofText e.text := by
  have table : ∀ entry ∈ texts, Bytes.newline ∉ Bytes.ofText entry.2 := by decide +kernel
  unfold text
  split
  · next text found =>
      obtain ⟨front, back, same, _⟩ := List.lookup_eq_some_iff.1 found
      exact table (e.number, text) (same ▸ List.mem_append_right _ List.mem_cons_self)
  · rw [Bytes.ofText_append, List.mem_append, not_or]
    exact ⟨by decide, Bytes.newline_not_mem_toString _⟩

theorem IoError.newline_not_mem_message (e : IoError) :
    Bytes.newline ∉ Bytes.ofText e.message := by
  cases e with
  | os e =>
      simp only [message, Errno.message, Bytes.ofText_append, List.mem_append, not_or]
      exact ⟨⟨⟨e.newline_not_mem_text, by decide⟩, Bytes.newline_not_mem_toString _⟩, by decide⟩
  | _ => decide

theorem CdError.newline_not_mem_message {dir : Bytes} (plain : Bytes.newline ∉ dir) (e : IoError) :
    Bytes.newline ∉ Bytes.ofText (ofIoError dir e).message := by
  have lossy : Bytes.newline ∉ Bytes.ofText (Bytes.lossy dir) := by
    refine Bytes.not_mem_ofText (fun mem => plain ?_) (by decide)
    rw [Bytes.lossy, String.toList_ofList] at mem
    exact Bytes.mem_of_mem_lossy rfl (by decide) (by decide) mem
  unfold ofIoError
  split <;> simp only [message, Bytes.ofText_append, List.mem_append, not_or]
  · exact ⟨⟨by decide, lossy⟩, by decide⟩
  · exact ⟨⟨⟨by decide, lossy⟩, by decide⟩, e.newline_not_mem_message⟩

/-- Whether a newline is the last byte of a text and no other byte of it is one. -/
def Bytes.IsLine (bs : Bytes) : Prop := ∃ content, bs = content ++ [newline] ∧ newline ∉ content

theorem isLine_textLine {message : String} (plain : Bytes.newline ∉ Bytes.ofText message) :
    (textLine message).IsLine := by
  refine ⟨Bytes.ofText message, ?_, plain⟩
  rw [textLine, Bytes.ofText_append]
  rfl

theorem LineRound.isLine_errors {r : LineRound} {maxLen maxToken k : Nat} {source : Source}
    (whole : r.IsWhole maxToken) (answer : source.line maxLen k = .ok r.line) :
    r.errors = [] ∨ r.errors.IsLine := by
  obtain ⟨line, opening, work, out, errors⟩ := r
  cases whole.deals with
  | complains accepts =>
      refine .inr (isLine_textLine ?_)
      cases accepts with
      | tooLong => exact ParseError.newline_not_mem_message _
      | refused => exact ParseError.newline_not_mem_message _
      | misused => decide
  | stays accepts =>
      cases accepts with
      | cd parsed argv =>
          refine .inr (isLine_textLine (CdError.newline_not_mem_message (fun mem => ?_) _))
          have token := Command.mem_tokens_of_parse parsed
            (argv.symm ▸ List.mem_cons_of_mem _ List.mem_cons_self)
          exact Source.newline_not_mem_of_line answer (Command.mem_of_mem_tokens token mem)
  | blank | lists | moves | handsOver => exact .inl rfl

/-! ## Where the thread moves -/

theorem Opens.cwd?_eq {opening : List (Act Stage)} (opens : Opens opening) :
    ∀ d ∈ opening, d.cwd? = none := by
  induction opens with
  | prompt => simp [Act.cwd?]
  | read _ ih => simpa [or_imp, forall_and, Act.cwd?] using ih

theorem Thread.Input.InHand.cwd?_eq {limits : Limits} {source unread : Source} {k : Nat}
    {work : List (Act Stage)} {out : Bytes} {t : Status Input (Except Fault Unit)}
    (inHand : InHand limits source k work out t unread) : ∀ d ∈ work, d.cwd? = none := by
  have leaves {work : List (Act Stage)} {out : Bytes} {result : Except Fault Unit}
      (leaves : Leaves limits source k work out result) : ∀ d ∈ work, d.cwd? = none := by
    cases leaves with
    | dismissed => simp [Act.cwd?]
    | exit opens | failed opens => exact opens.cwd?_eq
    | endOfFile opens => simpa [or_imp, forall_and, Act.cwd?] using opens.cwd?_eq
  cases inHand with
  | looking => simp
  | prompting => simp [Act.cwd?]
  | reading opens | read opens => exact opens.cwd?_eq
  | staying opens | waiting opens =>
      simpa [or_imp, forall_and, Act.cwd?] using opens.cwd?_eq
  | leaving left => exact leaves left
  | settingExit left | offeringShutdown left | leftAlone left | woken left =>
      simpa [or_imp, forall_and, Act.cwd?] using leaves left

/-- The directory changes only where a line asks for it, and then to where the line says. -/
theorem LineRound.moved {r : LineRound} {maxToken : Nat} (whole : r.IsWhole maxToken)
    {d : Act Stage} (within : d ∈ r.acts) (answered : d.IsAnswered Stage.world) :
    d.after.world.cwd = d.before.world.cwd ∨ ∃ bytes c dir, r.line = .text bytes ∧
      Command.parse maxToken bytes = .ok c ∧ c.argv = [Bytes.ofText "cd", dir] ∧
      d.before.world.tree.changeDirectory d.before.world.cwd dir = .ok d.after.world.cwd := by
  have kept (still : d.cwd? = none) : d.after.world.cwd = d.before.world.cwd := by
    rw [(Stage.written_of_answer answered).cwd_eq, still]
    rfl
  rcases List.mem_append.1 within with opening | within
  · exact .inl (kept (whole.opens.cwd?_eq d opening))
  · obtain ⟨line, opening, work, out, errors⟩ := r
    cases whole.deals with
    | @moves dir _ _ accepts =>
        cases accepts with
        | @cd bytes _ c parsed argv =>
            obtain rfl := List.mem_singleton.1 within
            rcases Stage.changeDirectory_cases answered with ⟨_, moved⟩ | ⟨_, other, _⟩
            · exact .inr ⟨bytes, c, dir, rfl, parsed, argv, moved⟩
            · cases other
    | complains | blank | lists =>
        obtain rfl := List.mem_singleton.1 within
        exact .inl (kept rfl)
    | stays | handsOver =>
        rcases List.mem_pair.1 within with rfl | rfl <;> exact .inl (kept rfl)

/-! ## The course of the thread -/

namespace Thread.Input

/-- What others may do around the input thread: the slot stays empty while nothing is handed over,
and the script, the two streams and the working directory are left alone. -/
structure Respects (s after : Shared Stage) : Prop where
  slot : s.slot = .empty → after.slot = .empty
  source : after.world.source = s.world.source
  stdout : after.world.stdout = s.world.stdout
  stderr : after.world.stderr = s.world.stderr
  cwd : after.world.cwd = s.world.cwd

variable {others : Shared Stage → Shared Stage → Prop} {limits : Limits}
  {first now after : Shared Stage} {acts : List (Act Stage)} {x : Input}
  {t : Status Input (Except Fault Unit)}

/-- The slot is empty, but while the thread waits and after its end. -/
def HasRoom (t : Status Input (Except Fault Unit)) (now : Shared Stage) : Prop :=
  t = .running .waiting ∨ (∃ result, t = .ended result) ∨ now.slot = .empty

theorem HasRoom.slot_eq (room : HasRoom (.running x) now) (other : x ≠ .waiting) :
    now.slot = .empty := by
  rcases room with waits | ⟨_, ended⟩ | empty
  · exact absurd (Status.running.inj waits) other
  · cases ended
  · exact empty

theorem HasRoom.step {reply : (x.turn limits).call.Reply} (room : HasRoom (.running x) now)
    (answered : now.answer Stage.world (x.turn limits).call = some (reply, after)) :
    HasRoom ((x.turn limits).resume reply) after ∧ now.slot.work ≤ after.slot.work := by
  cases x with
  | waiting =>
      simp only [Input.turn, Shared.answer] at answered
      split at answered
      · cases answered
      · next vacant =>
          cases answered
          exact ⟨.inr (.inr (Slot.isBusy_eq_false_iff.1 (by simpa using vacant))), Nat.le_refl _⟩
  | offering c =>
      have empty := room.slot_eq (by rintro ⟨⟩)
      simp only [Input.turn, Shared.answer, empty, Slot.offer] at answered
      cases answered
      exact ⟨.inl rfl, by simp [empty, Slot.work]⟩
  | offeringShutdown result =>
      have empty := room.slot_eq (by rintro ⟨⟩)
      simp only [Input.turn, Shared.answer, empty, Slot.offer] at answered
      cases answered
      exact ⟨.inr (.inl ⟨result, rfl⟩), by simp [empty, Slot.work]⟩
  | _ =>
      have same := Shared.slot_answer answered rfl
      exact ⟨.inr (.inr (same.trans (room.slot_eq (by rintro ⟨⟩)))), same ▸ Nat.le_refl _⟩

/-- How the acts of the thread add up to whole rounds and the one at hand. -/
def AddsUp (limits : Limits) (source : Source) (acts : List (Act Stage))
    (t : Status Input (Except Fault Unit)) (unread : Source) : Prop :=
  ∃ (rounds : List LineRound) (work : List (Act Stage)) (out : Bytes),
    acts = rounds.flatMap LineRound.acts ++ work ∧ (∀ r ∈ rounds, r.IsWhole limits.token) ∧
      rounds.map (fun r => Except.ok r.line) =
        (List.range rounds.length).map (fun k => source.line limits.line k) ∧
      InHand limits source rounds.length work out t unread

theorem AddsUp.of_settles {source unread : Source} {rounds : List LineRound}
    {work : List (Act Stage)} (whole : ∀ r ∈ rounds, r.IsWhole limits.token)
    (lines : rounds.map (fun r => Except.ok r.line) =
      (List.range rounds.length).map (fun k => source.line limits.line k))
    (settles : Settles limits source rounds.length work t unread) :
    AddsUp limits source (rounds.flatMap LineRound.acts ++ work) t unread := by
  rcases settles with ⟨out, inHand⟩ | ⟨looks, left, r, last, answer, same⟩
  · exact ⟨rounds, work, out, rfl, whole, lines, inHand⟩
  · refine ⟨rounds ++ [r], [], [], ?_, ?_, ?_, ?_⟩
    · rw [← same, List.flatMap_append, List.flatMap_singleton, List.append_nil]
    · simpa [or_imp, forall_and] using ⟨whole, last⟩
    · rw [List.length_append, List.length_singleton, List.range_succ, List.map_append,
        List.map_append, lines, List.map_singleton, List.map_singleton, answer]
    · rw [looks, left, List.length_append, List.length_singleton]
      exact .looking

/-- What holds throughout a course. -/
structure Abides (limits : Limits) (first : Shared Stage) (acts : List (Act Stage))
    (t : Status Input (Except Fault Unit)) (now : Shared Stage) : Prop where
  room : HasRoom t now
  addsUp : AddsUp limits first.world.source acts t now.world.source
  stdout_eq : now.world.stdout = first.world.stdout ++ Act.written acts
  stderr_eq : now.world.stderr = first.world.stderr ++ Act.complaints acts
  cwd_eq : now.world.cwd = (acts.filterMap Act.cwd?).getLast?.getD first.world.cwd
  /-- Every call brings the thread nearer to its end. -/
  bound : acts.length + (20 * now.world.source.length + work t) ≤
    20 * first.world.source.length + 11

namespace Abides

theorem start (empty : first.slot = .empty) :
    Abides limits first [] (.running .start) first where
  room := .inr (.inr empty)
  addsUp := ⟨[], [], [], rfl, by simp, rfl, .looking⟩
  stdout_eq := (List.append_nil _).symm
  stderr_eq := (List.append_nil _).symm
  cwd_eq := rfl
  bound := by simp [Input.start, work]

theorem call {reply : (x.turn limits).call.Reply}
    (abides : Abides limits first acts (.running x) now)
    (answered : now.answer Stage.world (x.turn limits).call = some (reply, after)) :
    Abides limits first (acts ++ [⟨now, (x.turn limits).call, reply, after⟩])
      ((x.turn limits).resume reply) after := by
  have written := Stage.written_of_answer answered
  obtain ⟨room, more⟩ := abides.room.step answered
  refine ⟨room, ?_, ?_, ?_, ?_, ?_⟩
  · obtain ⟨rounds, work, out, same, whole, lines, inHand⟩ := abides.addsUp
    rw [same, List.append_assoc]
    refine .of_settles whole lines (inHand.step rfl ?_ answered)
    by_cases waits : x = .waiting
    · exact .inl waits
    · exact .inr (abides.room.slot_eq waits)
  · rw [written.stdout_eq, abides.stdout_eq, Act.written_concat, List.append_assoc]
  · rw [written.stderr_eq, abides.stderr_eq, Act.complaints_concat, List.append_assoc]
  · rw [written.cwd_eq, abides.cwd_eq, List.filterMap_append]
    cases moved : Act.cwd? ⟨now, (x.turn limits).call, reply, after⟩ <;> simp [moved]
  · have less := Rehearsal.Scene.work_input answered
    have bound := abides.bound
    rw [List.length_append, List.length_singleton]
    omega

theorem change (abides : Abides limits first acts t now) (respects : Respects now after) :
    Abides limits first acts t after where
  room := abides.room.imp_right (.imp_right respects.slot)
  addsUp := respects.source.symm ▸ abides.addsUp
  stdout_eq := respects.stdout.trans abides.stdout_eq
  stderr_eq := respects.stderr.trans abides.stderr_eq
  cwd_eq := respects.cwd.trans abides.cwd_eq
  bound := respects.source.symm ▸ abides.bound

theorem of_course (respect : ∀ {s after}, others s after → Respects s after)
    (empty : first.slot = .empty)
    (course : Course Stage.world (turn limits) others .start first acts t now) :
    Abides limits first acts t now :=
  course.invariant (.start empty) (fun abides answered => abides.call answered)
    fun abides changes => abides.change (respect changes)

end Abides

/-- Only waiting for the slot may take a while. -/
theorem exists_answer_or_busy (limits : Limits) (x : Input) (now : Shared Stage) :
    (x = .waiting ∧ now.slot ≠ .empty) ∨
      ∃ reply after, now.answer Stage.world (x.turn limits).call = some (reply, after) := by
  cases x with
  | waiting =>
      cases busy : now.slot.isBusy with
      | true => exact .inl ⟨rfl, fun empty => by simp [empty, Slot.isBusy] at busy⟩
      | false => exact .inr ⟨(), now, by simp [Input.turn, Shared.answer, busy]⟩
  | offering | offeringShutdown =>
      simp only [Input.turn, Shared.answer]
      split <;> exact .inr ⟨_, _, rfl⟩
  | _ => exact .inr ⟨_, _, rfl⟩

end Thread.Input

/-- What a course of the input thread comes to: its rounds, and what it has done and written of the
one at hand. -/
structure Transcribes (limits : Limits) (first : Shared Stage) (acts : List (Act Stage))
    (t : Status Input (Except Fault Unit)) (now : Shared Stage) (rounds : List LineRound)
    (work : List (Act Stage)) (out : Bytes) : Prop where
  acts_eq : acts = rounds.flatMap LineRound.acts ++ work
  answered : ∀ d ∈ acts, d.IsAnswered Stage.world
  whole : ∀ r ∈ rounds, r.IsWhole limits.token
  /-- The rounds go through the lines of the script in their order. -/
  lines : rounds.map (fun r => Except.ok r.line) =
    (List.range rounds.length).map (fun k => first.world.source.line limits.line k)
  inHand : Input.InHand limits first.world.source rounds.length work out t now.world.source
  stdout_eq : now.world.stdout = first.world.stdout ++
    (rounds.flatMap (fun r => Bytes.ofText "$ " ++ r.out) ++ out)
  stderr_eq : now.world.stderr = first.world.stderr ++ rounds.flatMap LineRound.errors
  errors : ∀ r ∈ rounds, r.errors = [] ∨ r.errors.IsLine
  jobs_eq : ∀ d ∈ acts, d.after.jobs = d.before.jobs
  /-- The working directory is the one that the thread has moved to last. -/
  cwd_eq : now.world.cwd = (acts.filterMap Act.cwd?).getLast?.getD first.world.cwd
  moved : ∀ r ∈ rounds, ∀ d ∈ r.acts, d.after.world.cwd = d.before.world.cwd ∨
    ∃ bytes c dir, r.line = .text bytes ∧ Command.parse limits.token bytes = .ok c ∧
      c.argv = [Bytes.ofText "cd", dir] ∧
      d.before.world.tree.changeDirectory d.before.world.cwd dir = .ok d.after.world.cwd
  unmoved : ∀ d ∈ work, d.after.world.cwd = d.before.world.cwd
  refused : ∀ before dir e after,
    ⟨before, .changeDirectory dir, Except.error e, after⟩ ∈ acts → after = before
  goesOn : ∀ x, t = .running x → (x = .waiting ∧ now.slot ≠ .empty) ∨
    ∃ reply after, now.answer Stage.world (x.turn limits).call = some (reply, after)
  bound : acts.length + (20 * now.world.source.length + Input.work t) ≤
    20 * first.world.source.length + 11

open Input in
/-- Whatever the script is and whatever becomes of the requests, the input thread answers one line
after another, and the two streams and the working directory are what its rounds make of them. -/
theorem input_transcribes {limits : Limits} {others : Shared Stage → Shared Stage → Prop}
    {first now : Shared Stage} {acts : List (Act Stage)}
    {t : Status Input (Except Fault Unit)}
    (respect : ∀ s after, others s after → Respects s after) (empty : first.slot = .empty)
    (course : Course Stage.world (turn limits) others .start first acts t now) :
    ∃ rounds work out, Transcribes limits first acts t now rounds work out := by
  have abides := Abides.of_course (fun {s after} => respect s after) empty course
  obtain ⟨rounds, work, out, same, whole, lines, inHand⟩ := abides.addsUp
  have answered := course.answered
  have writes : Act.Writes acts (rounds.flatMap (fun r => Bytes.ofText "$ " ++ r.out) ++ out)
      (rounds.flatMap LineRound.errors) := by
    rw [same, ← List.append_nil (rounds.flatMap LineRound.errors)]
    exact (LineRound.writes_flatMap whole).append inHand.writes
  refine ⟨rounds, work, out, ?_⟩
  exact {
    acts_eq := same
    answered
    whole
    lines
    inHand
    stdout_eq := writes.written ▸ abides.stdout_eq
    stderr_eq := writes.complaints ▸ abides.stderr_eq
    errors := by
      intro r mem
      have read : Except.ok r.line ∈ rounds.map (fun r => (Except.ok r.line : Except Errno Line)) :=
        List.mem_map.2 ⟨r, mem, rfl⟩
      rw [lines] at read
      obtain ⟨k, _, answer⟩ := List.mem_map.1 read
      exact LineRound.isLine_errors (whole r mem) answer
    jobs_eq := by
      intro d mem
      obtain ⟨x, call⟩ := course.exists_turn d mem
      refine (answered d mem).jobs_eq ?_
      rw [call]
      cases x <;> rfl
    cwd_eq := abides.cwd_eq
    moved r mem d within :=
      LineRound.moved (whole r mem) within
        (answered d (same ▸ List.mem_append_left _ (List.mem_flatMap.2 ⟨r, mem, within⟩)))
    unmoved d within := by
      have written := Stage.written_of_answer (answered d (same ▸ List.mem_append_right _ within))
      rw [written.cwd_eq, inHand.cwd?_eq d within]
      rfl
    refused before dir e after mem := by
      rcases Stage.changeDirectory_cases (answered _ mem) with ⟨other, _⟩ | ⟨_, _, kept⟩
      · cases other
      · exact kept
    goesOn x _ := x.exists_answer_or_busy limits now
    bound := abides.bound }

/-- A tree with one directory in its root. -/
def Machine.FileTree.nested : Machine.FileTree :=
  ⟨#[{ mode := 0o755, kind := .directory 0 [(Bytes.ofText "d", 1)] },
    { mode := 0o755, kind := .directory 0 [] }]⟩

/-- A line of each kind: blank, a list of no jobs, too long, one that does not parse, two uses of
`cd` that are refused, a command that becomes a job, the list with that job, and a use of `cd` that
moves. -/
theorem input_transcribes_every_kind :
    let script := "\njobs 1\ntoolongtoolong\na & b\ncd\ncd \x00\nsleep\njobs\ncd d\n"
    let first : Shared Stage :=
      { world := { source := Source.ofBytes (Bytes.ofText script), tree := .nested, cwd := 0 } }
    let limits : Limits := { line := 12, token := 8 }
    let out := Bytes.ofText "$ \r$ $ $ $ $ $ $ [7] sleep\n$ "
    let errors := Bytes.ofText ("Argument too long!\n" ++
      "'&' is only allowed at the end of a command\n" ++ "cd: one argument required\n" ++
      "cd: \x00: data provided contains a nul byte\n")
    ∃ acts now rounds work more,
      Course Stage.world (Input.turn limits) Input.Respects .start first acts (.running .looking)
        now ∧
      now.world.stdout = out ∧ now.world.stderr = errors ∧ now.world.cwd = 1 ∧
      Transcribes limits first acts (.running .looking) now rounds work more := by
  intro script first limits out errors
  let steps : List (Nat × (Shared Stage → Shared Stage)) :=
    [(65, fun s => { s with slot := .empty, jobs := s.jobs.insert 7 "sleep" }), (16, id)]
  have allowed : ∀ step ∈ steps, ∀ s, Input.Respects s (step.2 s) := by
    intro step mem s
    rcases List.mem_pair.1 mem with rfl | rfl
    · exact ⟨fun _ => rfl, rfl, rfl, rfl, rfl⟩
    · exact ⟨id, rfl, rfl, rfl, rfl⟩
  -- all lines up to the last one, of which the byte behind it has been read
  have made : (Thread.callsAround Stage.world (Input.turn limits) steps (.running .start) first).any
      (fun r =>
        (match r.2.1 with
          | .running (.moving dir) => decide (dir = Bytes.ofText "d")
          | .running _ | .ended _ => false) &&
        (decide (r.2.2.world.stdout = out) && (decide (r.2.2.world.stderr = errors) &&
          (decide (r.2.2.world.cwd = 0) &&
            decide (r.2.2.world.tree.nodes = Machine.FileTree.nested.nodes))))) = true := by
    decide +kernel
  obtain ⟨⟨acts, t, now⟩, made, found⟩ := (Option.any_eq_true _ _).1 made
  simp only [Bool.and_eq_true, decide_eq_true_eq] at found
  obtain ⟨asks, stdout, stderr, cwd, tree⟩ := found
  split at asks
  · next dir =>
      obtain rfl := of_decide_eq_true asks
      have found : Machine.FileTree.nested.changeDirectory 0 (Bytes.ofText "d") = .ok 1 := by
        decide +kernel
      have nested : now.world.tree = .nested := congrArg Machine.FileTree.mk tree
      have answered : now.answer Stage.world (.changeDirectory (Bytes.ofText "d")) =
          some (.ok (), { now with world := { now.world with cwd := 1 } }) := by
        simp only [Shared.answer, Stage.world, Stage.changeDirectory, nested, cwd, found]
      have course : Course Stage.world (Input.turn limits) Input.Respects .start first _
          (.running .looking) _ := (Course.start.callsAround allowed made).call answered
      obtain ⟨rounds, work, more, transcribes⟩ := input_transcribes (fun _ _ => id) rfl course
      exact ⟨_, _, rounds, work, more, course, stdout, stderr, rfl, transcribes⟩
  · cases asks
  · cases asks

end JobShell
