import JobShell.Proofs.Prompt

/-!
# One thread among others

A thread is followed through its calls while others run. What it shares with them may change between
two of its calls in every way that the others are allowed, so what is proved about a course does not
depend on who they are or on how often they take a step. An act is a call of the thread with its
reply, and with what was shared before and after it.

Results:
1. `Course.invariant`: what every act and every change by others keeps holds throughout a course.
2. `Course.answered`: every act is a call as it is answered.
3. `Course.callsAround`: calls that a thread makes on its own, and changes between them, continue a
   course.
-/

namespace JobShell

open Thread (Status Turn)

/-- A call of a thread, its reply, and what was shared before and after it. -/
structure Act (W : Type) where
  before : Shared W
  call : Call
  reply : call.Reply
  after : Shared W

namespace Act

variable {W : Type}

/-- What the act writes to standard output. -/
def output (d : Act W) : Bytes := d.call.output d.before.slot d.before.jobs

def IsAnswered (world : World W) (d : Act W) : Prop :=
  d.before.answer world d.call = some (d.reply, d.after)

namespace IsAnswered

variable {world : World W} {d : Act W}

theorem slot_eq (answered : d.IsAnswered world) (other : d.call.concernsSlot = false) :
    d.after.slot = d.before.slot :=
  Shared.slot_answer answered other

theorem exiting_eq (answered : d.IsAnswered world) (other : d.call ≠ .setExiting) :
    d.after.exiting = d.before.exiting :=
  Shared.exiting_answer answered other

theorem jobs_eq (answered : d.IsAnswered world) (other : d.call.concernsJobs = false) :
    d.after.jobs = d.before.jobs :=
  Shared.jobs_answer answered other

end IsAnswered

/-- What some acts write to standard output. -/
def written (acts : List (Act W)) : Bytes := acts.flatMap output

theorem written_append (acts more : List (Act W)) :
    written (acts ++ more) = written acts ++ written more :=
  List.flatMap_append

theorem written_cons (d : Act W) (acts : List (Act W)) :
    written (d :: acts) = d.output ++ written acts :=
  List.flatMap_cons

theorem written_concat (acts : List (Act W)) (d : Act W) :
    written (acts ++ [d]) = written acts ++ d.output := by
  simp [written]

end Act

/-- `Course world turn others state first acts t now`: a thread that began in `state`, when `first`
was shared, has done `acts` and is `t`, and `now` is shared; `others` are the changes that are not
its own. -/
inductive Course {σ ρ W : Type} (world : World W) (turn : σ → Turn σ ρ)
    (others : Shared W → Shared W → Prop) (state : σ) (first : Shared W) :
    List (Act W) → Status σ ρ → Shared W → Prop
  | start : Course world turn others state first [] (.running state) first
  | call {acts : List (Act W)} {x : σ} {now after : Shared W} {reply : (turn x).call.Reply} :
      Course world turn others state first acts (.running x) now →
      now.answer world (turn x).call = some (reply, after) →
      Course world turn others state first (acts ++ [⟨now, (turn x).call, reply, after⟩])
        ((turn x).resume reply) after
  | others {acts : List (Act W)} {t : Status σ ρ} {now after : Shared W} :
      Course world turn others state first acts t now → others now after →
      Course world turn others state first acts t after

namespace Thread

variable {σ ρ W : Type}

/-- Let a thread make so many calls with nobody else around. -/
def calls (world : World W) (turn : σ → Turn σ ρ) :
    Nat → Status σ ρ → Shared W → Option (List (Act W) × Status σ ρ × Shared W)
  | 0, t, s => some ([], t, s)
  | _ + 1, .ended _, _ => none
  | n + 1, .running x, s =>
      (s.answer world (turn x).call).bind fun (reply, after) =>
        (calls world turn n ((turn x).resume reply) after).map fun (acts, rest) =>
          (⟨s, (turn x).call, reply, after⟩ :: acts, rest)

/-- Let a thread make so many calls before each of some changes by others. -/
def callsAround (world : World W) (turn : σ → Turn σ ρ) :
    List (Nat × (Shared W → Shared W)) → Status σ ρ → Shared W →
      Option (List (Act W) × Status σ ρ × Shared W)
  | [], t, s => some ([], t, s)
  | (n, change) :: rest, t, s =>
      (calls world turn n t s).bind fun (acts, t, s) =>
        (callsAround world turn rest t (change s)).map fun (more, rest) => (acts ++ more, rest)

theorem calls_running (world : World W) (turn : σ → Turn σ ρ) (n : Nat) (x : σ) (s : Shared W) :
    calls world turn (n + 1) (.running x) s =
      (s.answer world (turn x).call).bind fun (reply, after) =>
        (calls world turn n ((turn x).resume reply) after).map fun (acts, rest) =>
          (⟨s, (turn x).call, reply, after⟩ :: acts, rest) :=
  rfl

/-- With nobody else around the thread comes from one state to another. -/
def Comes (world : World W) (turn : σ → Turn σ ρ) (t : Status σ ρ) (s : Shared W)
    (u : Status σ ρ) (last : Shared W) : Prop :=
  ∃ n acts, calls world turn n t s = some (acts, u, last)

theorem Comes.refl (world : World W) (turn : σ → Turn σ ρ) (t : Status σ ρ) (s : Shared W) :
    Comes world turn t s t s :=
  ⟨0, [], rfl⟩

theorem Comes.call {world : World W} {turn : σ → Turn σ ρ} {x : σ} {s after last : Shared W}
    {u : Status σ ρ} {reply : (turn x).call.Reply}
    (answered : s.answer world (turn x).call = some (reply, after))
    (rest : Comes world turn ((turn x).resume reply) after u last) :
    Comes world turn (.running x) s u last := by
  obtain ⟨n, acts, made⟩ := rest
  refine ⟨n + 1, ⟨s, (turn x).call, reply, after⟩ :: acts, ?_⟩
  simp only [calls_running, answered, Option.bind_some, made, Option.map_some]

end Thread

namespace Course

variable {σ ρ W : Type} {world : World W} {turn : σ → Turn σ ρ}
  {others : Shared W → Shared W → Prop} {state : σ} {first now last : Shared W}
  {acts more : List (Act W)} {t u : Status σ ρ}

/-- What holds at first, and what every act and every change by others keeps, holds throughout. -/
theorem invariant {P : List (Act W) → Status σ ρ → Shared W → Prop}
    (course : Course world turn others state first acts t now)
    (begins : P [] (.running state) first)
    (called : ∀ {acts x now after reply}, P acts (.running x) now →
      now.answer world (turn x).call = some (reply, after) →
      P (acts ++ [⟨now, (turn x).call, reply, after⟩]) ((turn x).resume reply) after)
    (changed : ∀ {acts t now after}, P acts t now → others now after → P acts t after) :
    P acts t now := by
  induction course with
  | start => exact begins
  | call _ answered ih => exact called ih answered
  | others _ changes ih => exact changed ih changes

/-- Every act is the call of some state of the thread. -/
theorem exists_turn (course : Course world turn others state first acts t now) :
    ∀ d ∈ acts, ∃ x, d.call = (turn x).call := by
  induction course with
  | start => simp
  | call _ _ ih =>
      intro d mem
      rcases List.mem_append.1 mem with mem | mem
      · exact ih d mem
      · rw [List.mem_singleton.1 mem]
        exact ⟨_, rfl⟩
  | others _ _ ih => exact ih

theorem answered (course : Course world turn others state first acts t now) :
    ∀ d ∈ acts, d.IsAnswered world := by
  induction course with
  | start => simp
  | call _ answered ih =>
      intro d mem
      rcases List.mem_append.1 mem with mem | mem
      · exact ih d mem
      · rw [List.mem_singleton.1 mem]
        exact answered
  | others _ _ ih => exact ih

theorem calls {n : Nat} (course : Course world turn others state first acts t now)
    (made : Thread.calls world turn n t now = some (more, u, last)) :
    Course world turn others state first (acts ++ more) u last := by
  induction n generalizing acts t now more with
  | zero =>
      simp only [Thread.calls, Option.some.injEq, Prod.mk.injEq] at made
      obtain ⟨rfl, rfl, rfl⟩ := made
      rw [List.append_nil]
      exact course
  | succ n ih =>
      cases t with
      | ended result => simp [Thread.calls] at made
      | running x =>
          rw [Thread.calls_running] at made
          obtain ⟨⟨reply, after⟩, answered, made⟩ := Option.bind_eq_some_iff.1 made
          obtain ⟨⟨rest, u, last⟩, later, same⟩ := Option.map_eq_some_iff.1 made
          cases same
          have whole := ih (course.call answered) later
          rwa [List.append_assoc, List.singleton_append] at whole

theorem callsAround {steps : List (Nat × (Shared W → Shared W))}
    (course : Course world turn others state first acts t now)
    (allowed : ∀ step ∈ steps, ∀ s, others s (step.2 s))
    (made : Thread.callsAround world turn steps t now = some (more, u, last)) :
    Course world turn others state first (acts ++ more) u last := by
  induction steps generalizing acts t now more with
  | nil =>
      simp only [Thread.callsAround, Option.some.injEq, Prod.mk.injEq] at made
      obtain ⟨rfl, rfl, rfl⟩ := made
      rw [List.append_nil]
      exact course
  | cons step steps ih =>
      obtain ⟨n, change⟩ := step
      simp only [Thread.callsAround, Option.bind_eq_some_iff, Option.map_eq_some_iff] at made
      obtain ⟨⟨own, middle, between⟩, first, ⟨rest, u, last⟩, later, same⟩ := made
      cases same
      rw [← List.append_assoc]
      exact ih ((course.calls first).others (allowed _ List.mem_cons_self _))
        (fun step mem => allowed step (.tail _ mem)) later

end Course

end JobShell
