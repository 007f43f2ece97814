import JobShell.Launch.Child

/-!
# What a launched child asks for

Whatever the system answers, the child asks for the same things in the same order until one of them
fails: the file that takes its output, the file that its input comes from, a group of its own, its
mask and the program. The files are the two that the command names, and there are no others. After
a failure nothing is left but to say so and to exit.

Results:
1. `ChildHalf.Asks.tries`: at each place it is known what was asked for and what came of it.
-/

namespace JobShell

/-- A call of a launched child and its reply. -/
structure ChildDeed where
  call : ChildCall
  reply : call.Reply

/-- Whether something has come of a deed that the program will find. -/
def ChildDeed.counts : ChildDeed → Bool
  | ⟨.openOutput _, .ok _⟩ | ⟨.openInput _, .ok _⟩ | ⟨.joinOwnGroup, .ok _⟩
  | ⟨.setMask _, .ok _⟩ => true
  | _ => false

namespace ChildHalf

/-! ## What a child asks for -/

/-- `Asks c deeds h`: the child has asked for `deeds`, whatever the replies were, and is at `h`. -/
inductive Asks (c : Command) : List ChildDeed → ChildHalf → Prop
  | start : Asks c [] (start c)
  | call {deeds : List ChildDeed} {h : ChildHalf} (reply : (turn c h).call.Reply) :
      Asks c deeds h → h ≠ .exiting →
      Asks c (deeds ++ [⟨(turn c h).call, reply⟩]) ((turn c h).resume reply)

/-- The output has been opened, if a file is named for it. -/
def outputDone (c : Command) : List ChildDeed :=
  (c.stdout.map fun path => ⟨.openOutput path, Except.ok ()⟩).toList

/-- And the input. -/
def inputDone (c : Command) : List ChildDeed :=
  (c.stdin.map fun path => ⟨.openInput path, Except.ok ()⟩).toList

def groupDone (c : Command) : List ChildDeed :=
  if c.background then [⟨.joinOwnGroup, Except.ok ()⟩] else []

def maskDone (c : Command) : List ChildDeed := [⟨.setMask (mask c), Except.ok ()⟩]

/-- All that comes before the program. -/
def allDone (c : Command) : List ChildDeed :=
  outputDone c ++ inputDone c ++ groupDone c ++ maskDone c

section Done

variable {c : Command} {path : Bytes}

theorem openOutput_mem_iff :
    ⟨.openOutput path, Except.ok ()⟩ ∈ allDone c ↔ c.stdout = some path := by
  cases background : c.background <;>
    simp [allDone, outputDone, inputDone, groupDone, maskDone, background]

theorem openInput_mem_iff :
    ⟨.openInput path, Except.ok ()⟩ ∈ allDone c ↔ c.stdin = some path := by
  cases background : c.background <;>
    simp [allDone, outputDone, inputDone, groupDone, maskDone, background]

theorem joinOwnGroup_mem_iff :
    ⟨.joinOwnGroup, Except.ok ()⟩ ∈ allDone c ↔ c.background = true := by
  cases background : c.background <;>
    simp [allDone, outputDone, inputDone, groupDone, maskDone, background]

theorem setMask_mem_iff {blocked : List Signal} :
    ⟨.setMask blocked, Except.ok ()⟩ ∈ allDone c ↔ blocked = mask c := by
  cases background : c.background <;>
    simp [allDone, outputDone, inputDone, groupDone, maskDone, background]

end Done

/-- No word holds a NUL byte. -/
def IsPlain (c : Command) : Prop := c.argv.any (·.contains 0) = false

/-- `Fails c deeds failure`: how a child comes to say that it did not become the program. -/
inductive Fails (c : Command) : List ChildDeed → ChildFailure → Prop
  | unnamed : c.argv = [] → Fails c [] (.notFound c.name)
  | output {path : Bytes} {e : IoError} :
      c.stdout = some path → Fails c [⟨.openOutput path, Except.error e⟩] (.redirection path e)
  | input {path : Bytes} {e : IoError} :
      c.stdin = some path →
      Fails c (outputDone c ++ [⟨.openInput path, Except.error e⟩]) (.redirection path e)
  | nul : ¬ IsPlain c → Fails c (outputDone c ++ inputDone c) (.refused c.name .nulInArgument)
  | group {e : Errno} :
      IsPlain c → c.background = true →
      Fails c (outputDone c ++ inputDone c ++ [⟨.joinOwnGroup, Except.error e⟩])
        (.ofIoError c.name (.os e))
  | mask {e : Errno} :
      IsPlain c →
      Fails c (outputDone c ++ inputDone c ++ groupDone c ++ [⟨.setMask (mask c), Except.error e⟩])
        (.ofIoError c.name (.os e))
  | execute {e : IoError} :
      IsPlain c →
      Fails c (allDone c ++ [⟨.execute c.argv, e⟩]) (.ofIoError c.name e)

/-- `Tries c deeds h`: what a child has asked for when it is at `h`. -/
inductive Tries (c : Command) : List ChildDeed → ChildHalf → Prop
  | openingOutput {path : Bytes} : c.stdout = some path → Tries c [] (.openingOutput path)
  | openingInput {path : Bytes} : c.stdin = some path → Tries c (outputDone c) (.openingInput path)
  | grouping : IsPlain c → c.background = true → Tries c (outputDone c ++ inputDone c) .grouping
  | masking : IsPlain c → Tries c (outputDone c ++ inputDone c ++ groupDone c) .masking
  | executing : IsPlain c → Tries c (allDone c) .executing
  | complaining {deeds : List ChildDeed} {failure : ChildFailure} :
      Fails c deeds failure → Tries c deeds (.complaining failure)
  | exiting {deeds : List ChildDeed} {failure : ChildFailure} :
      Fails c deeds failure →
      Tries c (deeds ++ [⟨.complain (failure.message ++ "\n"), ()⟩]) .exiting

theorem able_mask (c : Command) : Signal.kill ∉ mask c ∧ Signal.stop ∉ mask c := by
  unfold mask
  split <;> decide

theorem prepared_ne (c : Command) :
    prepared c ≠ .exiting ∧ ∀ path, prepared c ≠ .openingOutput path := by
  unfold prepared
  split
  · exact ⟨nofun, nofun⟩
  · split <;> exact ⟨nofun, nofun⟩

theorem outputOpened_ne_exiting (c : Command) : outputOpened c ≠ .exiting := by
  unfold outputOpened
  split
  · exact nofun
  · exact (prepared_ne c).1

theorem start_ne_exiting (c : Command) : start c ≠ .exiting := by
  unfold start named
  repeat' split
  · exact nofun
  · exact outputOpened_ne_exiting c
  · exact nofun

namespace Tries

variable {c : Command} {deeds : List ChildDeed} {h : ChildHalf}

theorem prepared (c : Command) : Tries c (outputDone c ++ inputDone c) (prepared c) := by
  unfold ChildHalf.prepared
  cases nul : c.argv.any (·.contains 0) with
  | true =>
      refine .complaining (.nul fun plain => ?_)
      rw [IsPlain, nul] at plain
      cases plain
  | false =>
      cases background : c.background with
      | true => exact .grouping nul background
      | false =>
          have none : groupDone c = [] := by simp [groupDone, background]
          have whole := Tries.masking (c := c) nul
          rwa [none, List.append_nil] at whole

theorem outputOpened (c : Command) : Tries c (outputDone c) (outputOpened c) := by
  unfold ChildHalf.outputOpened
  cases input : c.stdin with
  | some path => exact .openingInput input
  | none =>
      have whole := Tries.prepared c
      rwa [inputDone, input, Option.map_none, Option.toList_none, List.append_nil] at whole

theorem named (c : Command) : Tries c [] (named c) := by
  unfold ChildHalf.named
  cases output : c.stdout with
  | some path => exact .openingOutput output
  | none =>
      have whole := Tries.outputOpened c
      rwa [outputDone, output, Option.map_none, Option.toList_none] at whole

theorem start (c : Command) : Tries c [] (start c) := by
  unfold ChildHalf.start
  cases program : c.program with
  | some => exact .named c
  | none => exact .complaining (.unnamed (List.head?_eq_none_iff.1 program))

theorem step (tries : Tries c deeds h) (reply : (turn c h).call.Reply) (left : h ≠ .exiting) :
    Tries c (deeds ++ [⟨(turn c h).call, reply⟩]) ((turn c h).resume reply) := by
  cases tries with
  | @openingOutput path output =>
      cases reply with
      | error e => exact .complaining (.output output)
      | ok done =>
          have whole := Tries.outputOpened c
          rwa [outputDone, output] at whole
  | @openingInput path input =>
      cases reply with
      | error e => exact .complaining (.input input)
      | ok done =>
          have whole := Tries.prepared c
          rwa [inputDone, input] at whole
  | grouping plain background =>
      cases reply with
      | error e => exact .complaining (.group plain background)
      | ok done =>
          have whole := Tries.masking (c := c) plain
          rwa [groupDone, if_pos background] at whole
  | masking plain =>
      cases reply with
      | error e => exact .complaining (.mask plain)
      | ok done => exact .executing plain
  | executing plain => exact .complaining (.execute plain)
  | complaining fails => exact .exiting fails
  | exiting => exact absurd rfl left

end Tries

theorem Asks.tries {c : Command} {deeds : List ChildDeed} {h : ChildHalf}
    (asks : Asks c deeds h) : Tries c deeds h := by
  induction asks with
  | start => exact .start c
  | call reply _ left ih => exact ih.step reply left

end ChildHalf

end JobShell
