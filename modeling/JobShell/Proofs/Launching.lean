import JobShell.Proofs.Course
import JobShell.Proofs.Roster
import JobShell.Signal.Pending

/-!
# What a launch does in the shell

A launch is a short sequence of calls, and there is one place where it may stay for long: the wait
for a command in the foreground. So what it has done can be told for each of its states. The first
call decides whether there is a child at all; with the second, all signals are blocked, and from
then on the two kinds of commands have nothing in common. A command in the background is entered,
announced and followed by a SIGCHLD; nothing waits for it. For a command in the foreground the
registry is left alone, and each wait is made again for as long as it says nothing.

Results:
1. `Launch.Underway.step`: each call takes a launch from one of these states to another.
2. `launch_proceeds`: acts, output, registry and mask of every launch, and its return.
-/

namespace JobShell

open Thread

variable {W : Type}

/-! ## What has been done -/

namespace Act

/-- Entering a background command in the registry. -/
abbrev enter (c : Command) (pid : Pid) (before : Shared W) (reply : Except RegistrationError Unit)
    (after : Shared W) : Act W :=
  ⟨before, .track pid c.name, reply, after⟩

/-- Announcing it. -/
abbrev announce (c : Command) (pid : Pid) (before after : Shared W) : Act W :=
  ⟨before, .print (Bytes.ofText ("[" ++ toString pid ++ "] " ++ c.name ++ "\n")), (), after⟩

/-- Waiting for a child until it has ended. -/
abbrev attend (pid : Pid) (before : Shared W) (reply : WaitReply) (after : Shared W) : Act W :=
  ⟨before, .waitFor pid {}, reply, after⟩

end Act

namespace Launch

/-- A fork that succeeded, and all signals blocked behind it. -/
inductive Opening (c : Command) (pid : Pid) : List (Act W) → Prop
  | intro {before forked now after : Shared W} :
      Opening c pid [⟨before, .fork c, Except.ok pid, forked⟩, ⟨now, .blockSignals, (), after⟩]

/-- Waits for a child that came back without an answer. -/
inductive Retries (pid : Pid) : List (Act W) → Prop
  | none : Retries pid []
  | again {waits : List (Act W)} {before after : Shared W} {reply : WaitReply} :
      Retries pid waits → reply = .failed .interrupted ∨ reply = .notReady →
      Retries pid (waits ++ [.attend pid before reply after])

/-- `Underway c acts p`: what the launch of a command has done, and where it stands. -/
inductive Underway (c : Command) : List (Act W) → Progress → Prop
  | forking : Underway c [] (.running .forking)
  | refused {before after : Shared W} {e : Errno} :
      Underway c [⟨before, .fork c, Except.error e, after⟩] (.ended (.error (.fork e)))
  | shielding {pid : Pid} {before after : Shared W} :
      Underway c [⟨before, .fork c, Except.ok pid, after⟩] (.running (.shielding pid))
  | registering {pid : Pid} {front : List (Act W)} :
      Opening c pid front → c.background = true → Underway c front (.running (.registering pid))
  | unregistered {pid : Pid} {front : List (Act W)} {before after : Shared W}
      {e : RegistrationError} :
      Opening c pid front → c.background = true →
      Underway c (front ++ [.enter c pid before (.error e) after])
        (.ended (.error (.registration e)))
  | announcing {pid : Pid} {front : List (Act W)} {before after : Shared W} :
      Opening c pid front → c.background = true →
      Underway c (front ++ [.enter c pid before (.ok ()) after]) (.running (.announcing pid))
  | raising {pid : Pid} {front : List (Act W)} {before entered now after : Shared W} :
      Opening c pid front → c.background = true →
      Underway c (front ++ [.enter c pid before (.ok ()) entered, .announce c pid now after])
        (.running (.raising pid))
  | background {pid : Pid} {front : List (Act W)}
      {before entered now told later after : Shared W} :
      Opening c pid front → c.background = true →
      Underway c (front ++ [.enter c pid before (.ok ()) entered, .announce c pid now told,
        ⟨later, .raiseChild, (), after⟩]) (.ended (.ok (.background pid)))
  | waiting {pid : Pid} {front waits : List (Act W)} :
      Opening c pid front → c.background = false → Retries pid waits →
      Underway c (front ++ waits) (.running (.waiting pid))
  | left {pid : Pid} {front waits : List (Act W)} {before after : Shared W}
      {status : WaitStatus} :
      Opening c pid front → c.background = false → Retries pid waits → status.isDeath = false →
      Underway c (front ++ (waits ++ [.attend pid before (.status status) after]))
        (.ended (.ok (.foreground pid (some status))))
  | endingLine {pid : Pid} {front waits : List (Act W)} {before after : Shared W}
      {status : WaitStatus} :
      Opening c pid front → c.background = false → Retries pid waits → status.isDeath = true →
      Underway c (front ++ (waits ++ [.attend pid before (.status status) after]))
        (.running (.endingLine pid status))
  | killed {pid : Pid} {front waits : List (Act W)} {before heard now after : Shared W}
      {status : WaitStatus} :
      Opening c pid front → c.background = false → Retries pid waits → status.isDeath = true →
      Underway c (front ++ (waits ++ [.attend pid before (.status status) heard,
        ⟨now, .print (Bytes.ofText "\n"), (), after⟩]))
        (.ended (.ok (.foreground pid (some status))))
  /-- Another one collected the child. -/
  | collected {pid : Pid} {front waits : List (Act W)} {before after : Shared W} :
      Opening c pid front → c.background = false → Retries pid waits →
      Underway c (front ++ (waits ++ [.attend pid before (.failed .noChild) after]))
        (.ended (.ok (.foreground pid none)))
  | failed {pid : Pid} {front waits : List (Act W)} {before after : Shared W} {e : Errno} :
      Opening c pid front → c.background = false → Retries pid waits → e ≠ .interrupted →
      e ≠ .noChild →
      Underway c (front ++ (waits ++ [.attend pid before (.failed e) after]))
        (.ended (.error (.wait e)))

/-- What a launch that has come back wrote. -/
def printed (c : Command) : Except LaunchError Launched → Bytes
  | .ok (.background pid) => Bytes.ofText ("[" ++ toString pid ++ "] " ++ c.name ++ "\n")
  | .ok (.foreground _ (some status)) => if status.isDeath then Bytes.ofText "\n" else []
  | .ok (.foreground _ none) | .error _ => []

/-- How often a launch that has come back sent a SIGCHLD. -/
def raised : Except LaunchError Launched → Nat
  | .ok (.background _) => 1
  | .ok (.foreground ..) | .error _ => 0

variable {c : Command} {pid : Pid} {acts front waits : List (Act W)} {now after : Shared W}
  {l : Launch} {result : Except LaunchError Launched}

/-- After a wait. -/
theorem Underway.of_reply (opening : Opening c pid front) (foreground : c.background = false)
    (retries : Retries pid waits) (reply : WaitReply) :
    Underway c (front ++ (waits ++ [.attend pid now reply after])) (afterWait pid reply) := by
  cases reply with
  | notReady => exact .waiting opening foreground (.again retries (.inr rfl))
  | status status =>
      cases death : status.isDeath with
      | true =>
          simp only [afterWait, death, if_true]
          exact .endingLine opening foreground retries death
      | false =>
          simp only [afterWait, death]
          exact .left opening foreground retries death
  | failed e =>
      by_cases interrupted : e = .interrupted
      · subst interrupted
        exact .waiting opening foreground (.again retries (.inl rfl))
      · by_cases gone : e = .noChild
        · subst gone
          exact .collected opening foreground retries
        · simp only [afterWait, if_neg interrupted, if_neg gone]
          exact .failed opening foreground retries interrupted gone

theorem Underway.step {reply : (turn c l).call.Reply} (underway : Underway c acts (.running l)) :
    Underway c (acts ++ [⟨now, (turn c l).call, reply, after⟩]) ((turn c l).resume reply) := by
  cases underway with
  | forking =>
      cases reply with
      | error e => exact .refused
      | ok pid => exact .shielding
  | @shielding pid before forked =>
      have opening : Opening c pid [⟨before, .fork c, Except.ok pid, forked⟩,
        ⟨now, .blockSignals, (), after⟩] := .intro
      simp only [turn]
      cases background : c.background with
      | true => exact .registering opening background
      | false =>
          rw [← List.append_nil ([_] ++ [_])]
          exact .waiting opening background .none
  | registering opening background =>
      cases reply with
      | error e => exact .unregistered opening background
      | ok done => exact .announcing opening background
  | announcing opening background =>
      rw [List.append_assoc]
      exact .raising opening background
  | raising opening background =>
      rw [List.append_assoc]
      exact .background opening background
  | waiting opening foreground retries =>
      rw [List.append_assoc]
      exact .of_reply opening foreground retries reply
  | endingLine opening foreground retries death =>
      rw [List.append_assoc, List.append_assoc]
      exact .killed opening foreground retries death

/-! ## What is written, entered and blocked -/

theorem Opening.written_eq (opening : Opening c pid front) : Act.written front = [] := by
  cases opening
  rfl

theorem Retries.written_eq (retries : Retries pid waits) : Act.written waits = [] := by
  induction retries with
  | none => rfl
  | again _ _ ih => rw [Act.written_concat, ih, List.nil_append]; rfl

theorem Underway.written_eq (underway : Underway c acts (.ended result)) :
    Act.written acts = printed c result := by
  cases underway with
  | refused => rfl
  | unregistered opening => rw [Act.written_append, opening.written_eq]; rfl
  | background opening =>
      rw [Act.written_append, opening.written_eq]
      simp [Act.written, Act.output, Call.output, printed]
  | left opening _ retries lives =>
      rw [Act.written_append, Act.written_append, opening.written_eq, retries.written_eq]
      simp [Act.written, Act.output, Call.output, printed, lives]
  | killed opening _ retries death =>
      rw [Act.written_append, Act.written_append, opening.written_eq, retries.written_eq]
      simp [Act.written, Act.output, Call.output, printed, death]
  | collected opening _ retries | failed opening _ retries =>
      rw [Act.written_append, Act.written_append, opening.written_eq, retries.written_eq]
      rfl

/-- Signals are blocked in every launch that has come back with a child. -/
theorem Underway.exists_block (underway : Underway c acts (.ended result))
    (forked : ∀ e, result ≠ .error (.fork e)) : ∃ d ∈ acts, d.call = .blockSignals := by
  have shown {pid : Pid} {front : List (Act W)} (opening : Opening c pid front)
      (more : List (Act W)) : ∃ d ∈ front ++ more, d.call = .blockSignals := by
    cases opening
    exact ⟨_, List.mem_append_left _ (.tail _ (.head _)), rfl⟩
  cases underway with
  | refused => exact absurd rfl (forked _)
  | unregistered opening | background opening | left opening | killed opening
  | collected opening | failed opening => exact shown opening _

/-- The calls that are made in a launch: only for a background command is anything entered, and only
for one in the foreground is anything waited for. -/
inductive Makes (c : Command) : Call → Prop
  | fork : Makes c (.fork c)
  | block : Makes c .blockSignals
  | enter {pid : Pid} : c.background = true → Makes c (.track pid c.name)
  | announce {pid : Pid} : c.background = true →
      Makes c (.print (Bytes.ofText ("[" ++ toString pid ++ "] " ++ c.name ++ "\n")))
  | raise : c.background = true → Makes c .raiseChild
  | attend {pid : Pid} : c.background = false → Makes c (.waitFor pid {})
  | endLine : c.background = false → Makes c (.print (Bytes.ofText "\n"))

theorem Makes.frame {call : Call} (makes : Makes c call) :
    call.concernsSlot = false ∧ call ≠ .setExiting ∧
      (call.concernsJobs = false ∨ ∃ pid, call = .track pid c.name) := by
  cases makes with
  | @enter pid _ => exact ⟨rfl, nofun, .inr ⟨pid, rfl⟩⟩
  | _ => exact ⟨rfl, nofun, .inl rfl⟩

/-- An act that enters no job leaves the registry as it is. -/
theorem Makes.jobs_eq {world : World W} {d : Act W} (makes : Makes c d.call)
    (answered : d.IsAnswered world)
    (unentered : ∀ before pid after, d ≠ .enter c pid before (.ok ()) after) :
    d.after.jobs = d.before.jobs := by
  obtain ⟨-, -, other | ⟨pid, enters⟩⟩ := makes.frame
  · exact answered.jobs_eq other
  · obtain ⟨before, call, reply, after⟩ := d
    cases enters
    cases reply with
    | error e => exact Shared.jobs_refused answered
    | ok done => exact absurd rfl (unentered before pid after)

theorem Opening.makes (opening : Opening c pid front) : ∀ d ∈ front, Makes c d.call := by
  cases opening
  simp only [List.forall_mem_cons]
  exact ⟨.fork, .block, by simp⟩

theorem Retries.makes (retries : Retries pid waits) (foreground : c.background = false) :
    ∀ d ∈ waits, Makes c d.call := by
  induction retries with
  | none => simp
  | again _ _ ih =>
      rw [List.forall_mem_append, List.forall_mem_singleton]
      exact ⟨ih, .attend foreground⟩

theorem Underway.makes {p : Progress} (underway : Underway c acts p) :
    ∀ d ∈ acts, Makes c d.call := by
  cases underway with
  | forking => simp
  | refused | shielding => simpa using Makes.fork
  | registering opening _ => exact opening.makes
  | unregistered opening background | announcing opening background =>
      rw [List.forall_mem_append, List.forall_mem_singleton]
      exact ⟨opening.makes, .enter background⟩
  | raising opening background =>
      rw [List.forall_mem_append, List.forall_mem_cons, List.forall_mem_singleton]
      exact ⟨opening.makes, .enter background, .announce background⟩
  | background opening background =>
      rw [List.forall_mem_append, List.forall_mem_cons, List.forall_mem_cons,
        List.forall_mem_singleton]
      exact ⟨opening.makes, .enter background, .announce background, .raise background⟩
  | waiting opening foreground retries =>
      rw [List.forall_mem_append]
      exact ⟨opening.makes, retries.makes foreground⟩
  | left opening foreground retries | endingLine opening foreground retries
  | collected opening foreground retries | failed opening foreground retries =>
      rw [List.forall_mem_append, List.forall_mem_append, List.forall_mem_singleton]
      exact ⟨opening.makes, retries.makes foreground, .attend foreground⟩
  | killed opening foreground retries =>
      rw [List.forall_mem_append, List.forall_mem_append, List.forall_mem_cons,
        List.forall_mem_singleton]
      exact ⟨opening.makes, retries.makes foreground, .attend foreground, .endLine foreground⟩

/-- SIGCHLD is sent once for a command that was entered and announced, and for no other. -/
theorem Underway.count_raise (underway : Underway c acts (.ended result)) :
    acts.countP (·.call = .raiseChild) = raised result := by
  have opened {pid : Pid} {front : List (Act W)} (opening : Opening c pid front) :
      front.countP (·.call = .raiseChild) = 0 := by
    cases opening
    rfl
  have retried {pid : Pid} {waits : List (Act W)} (retries : Retries pid waits) :
      waits.countP (·.call = .raiseChild) = 0 := by
    induction retries with
    | none => rfl
    | again _ _ ih => simp [ih]
  cases underway with
  | refused => rfl
  | unregistered opening | background opening =>
      rw [List.countP_append, opened opening]
      rfl
  | left opening _ retries | killed opening _ retries | collected opening _ retries
  | failed opening _ retries =>
      rw [List.countP_append, List.countP_append, opened opening, retried retries]
      rfl

end Launch

/-! ## The mask -/

/-- The signals of the thread that launches: they are blocked on its request, and no other call of
it touches its mask. -/
structure World.Masks (world : World W) (signals : W → SignalState) : Prop where
  block : ∀ w, signals (world.blockSignals w) = (signals w).block .full
  keeps : ∀ {c : Call} {reply : c.Reply} {w after : W}, world.Does c reply w after →
    c ≠ .blockSignals → (signals after).blocked = (signals w).blocked

/-- Once signals are blocked they stay blocked. -/
theorem World.Masks.blocked_of_course {σ ρ : Type} {world : World W} {turn : σ → Turn σ ρ}
    {others : Shared W → Shared W → Prop} {state : σ} {first now : Shared W}
    {acts : List (Act W)} {t : Status σ ρ} {signals : W → SignalState}
    (masks : world.Masks signals)
    (keeps : ∀ s after, others s after →
      (signals after.world).blocked = (signals s.world).blocked)
    (course : Course world turn others state first acts t now) :
    (∃ d ∈ acts, d.call = .blockSignals) →
      ∀ s, s ∈ SignalSet.full.blockable → s ∈ (signals now.world).blocked := by
  refine course.invariant (P := fun acts _ now => (∃ d ∈ acts, d.call = .blockSignals) →
    ∀ s, s ∈ SignalSet.full.blockable → s ∈ (signals now.world).blocked) (by simp) ?_ ?_
  · intro acts x now after reply ih answered done s mem
    have does := Shared.does_answer answered
    by_cases blocks : (turn x).call = .blockSignals
    · revert does
      generalize reply = r
      revert r
      rw [blocks]
      intro r does
      rw [does, masks.block, SignalState.mem_block_iff]
      obtain ⟨usable, able⟩ := SignalSet.mem_blockable_iff.1 mem
      exact ⟨.inr usable, able⟩
    · rw [masks.keeps does blocks]
      refine ih ?_ s mem
      obtain ⟨d, within, call⟩ := done
      rcases List.mem_append.1 within with within | last
      · exact ⟨d, within, call⟩
      · rw [List.mem_singleton.1 last] at call
        exact absurd call blocks
  · intro acts t now after ih changes done s mem
    rw [keeps now after changes]
    exact ih done s mem

/-! ## With nobody else around -/

/-- `world.Awaits pid n w reply after`: so many waits for a process are interrupted, and the next
one gives an answer. -/
inductive World.Awaits (world : World W) (pid : Pid) : Nat → W → WaitReply → W → Prop
  | now {w after : W} {reply : WaitReply} :
      world.waitFor pid {} w = some (reply, after) → reply ≠ .failed .interrupted →
      reply ≠ .notReady → Awaits world pid 0 w reply after
  | interrupted {n : Nat} {w between after : W} {reply : WaitReply} :
      world.waitFor pid {} w = some (.failed .interrupted, between) →
      Awaits world pid n between reply after → Awaits world pid (n + 1) w reply after

theorem World.Awaits.isAnswer {world : World W} {pid : Pid} {n : Nat} {w after : W}
    {reply : WaitReply} (awaits : world.Awaits pid n w reply after) :
    reply ≠ .failed .interrupted ∧ reply ≠ .notReady := by
  induction awaits with
  | now _ uninterrupted ready => exact ⟨uninterrupted, ready⟩
  | interrupted _ _ ih => exact ih

namespace Launch

/-- `Returns world c s result after`: with nobody else around the launch comes back. -/
inductive Returns (world : World W) (c : Command) (s : Shared W) :
    Except LaunchError Launched → Shared W → Prop
  | refused {e : Errno} {w : W} :
      world.fork c s.world = (.error e, w) →
      Returns world c s (.error (.fork e)) { s with world := w }
  | unregistered {pid : Pid} {e : RegistrationError} {forked w : W} :
      world.fork c s.world = (.ok pid, forked) → c.background = true →
      world.reserve (world.blockSignals forked) = (.error e, w) →
      Returns world c s (.error (.registration e)) { s with world := w }
  | background {pid : Pid} {forked ready : W} :
      world.fork c s.world = (.ok pid, forked) → c.background = true →
      world.reserve (world.blockSignals forked) = (.ok (), ready) →
      Returns world c s (.ok (.background pid)) { s with
        jobs := s.jobs.insert pid c.name
        world := world.raiseChild
          (world.print (Bytes.ofText ("[" ++ toString pid ++ "] " ++ c.name ++ "\n")) ready) }
  | answered {pid : Pid} {status : WaitStatus} {n : Nat} {forked w : W} :
      world.fork c s.world = (.ok pid, forked) → c.background = false →
      world.Awaits pid n (world.blockSignals forked) (.status status) w →
      Returns world c s (.ok (.foreground pid (some status))) { s with
        world := if status.isDeath then world.print (Bytes.ofText "\n") w else w }
  | collected {pid : Pid} {n : Nat} {forked w : W} :
      world.fork c s.world = (.ok pid, forked) → c.background = false →
      world.Awaits pid n (world.blockSignals forked) (.failed .noChild) w →
      Returns world c s (.ok (.foreground pid none)) { s with world := w }
  | failed {pid : Pid} {e : Errno} {n : Nat} {forked w : W} :
      world.fork c s.world = (.ok pid, forked) → c.background = false →
      world.Awaits pid n (world.blockSignals forked) (.failed e) w → e ≠ .noChild →
      Returns world c s (.error (.wait e)) { s with world := w }

variable {world : World W} {c : Command} {pid : Pid} {n : Nat} {s last : Shared W}
  {t : Progress} {result : Except LaunchError Launched}

/-- The wait goes on until there is an answer. -/
theorem comes_of_awaits {w after : W} {reply : WaitReply}
    (awaits : world.Awaits pid n w reply after) (s : Shared W)
    (rest : Thread.Comes world (turn c) (afterWait pid reply) { s with world := after } t last) :
    Thread.Comes world (turn c) (.running (.waiting pid)) { s with world := w } t last := by
  induction awaits with
  | now waited => exact .call (by simp [turn, Shared.answer, waited]) rest
  | @interrupted n w between after reply waited _ ih =>
      have answered : Shared.answer world { s with world := w } (.waitFor pid {}) =
          some (WaitReply.failed .interrupted, { s with world := between }) := by
        simp [Shared.answer, waited]
      exact .call answered (ih rest)

/-- A launch alone comes to its result. -/
theorem Returns.comes (returns : Returns world c s result last) :
    Thread.Comes world (turn c) (.running .start) s (.ended result) last := by
  have forks {pid : Pid} {w : W} (forked : world.fork c s.world = (.ok pid, w))
      (rest : Thread.Comes world (turn c)
        (.running (if c.background then .registering pid else .waiting pid))
        { s with world := world.blockSignals w } (.ended result) last) :
      Thread.Comes world (turn c) (.running .start) s (.ended result) last := by
    have answered : s.answer world (.fork c) = some (Except.ok pid, { s with world := w }) := by
      simp [Shared.answer, forked]
    exact .call answered (.call rfl rest)
  cases returns with
  | @refused e w refused =>
      have answered : s.answer world (.fork c) = some (Except.error e, { s with world := w }) := by
        simp [Shared.answer, refused]
      exact .call answered (.refl ..)
  | @unregistered pid e forked w ok background full =>
      refine forks ok ?_
      rw [if_pos background]
      have answered : Shared.answer world { s with world := world.blockSignals forked }
          (.track pid c.name) = some (Except.error e, { s with world := w }) := by
        simp [Shared.answer, full]
      exact .call answered (.refl ..)
  | @background pid forked ready ok background room =>
      refine forks ok ?_
      rw [if_pos background]
      have answered : Shared.answer world { s with world := world.blockSignals forked }
          (.track pid c.name) =
            some (Except.ok (), { s with jobs := s.jobs.insert pid c.name, world := ready }) := by
        simp [Shared.answer, room]
      exact .call answered (.call rfl (.call rfl (.refl ..)))
  | @answered pid status n forked w ok foreground awaits =>
      refine forks ok ?_
      rw [foreground, if_neg Bool.false_ne_true]
      refine comes_of_awaits awaits s ?_
      cases death : status.isDeath with
      | true =>
          simp only [afterWait, death, if_true]
          exact .call rfl (.refl ..)
      | false =>
          simp only [afterWait, death]
          exact .refl ..
  | collected ok foreground awaits =>
      refine forks ok ?_
      rw [foreground, if_neg Bool.false_ne_true]
      exact comes_of_awaits awaits s (.refl ..)
  | @failed pid e n forked w ok foreground awaits apart =>
      refine forks ok ?_
      rw [foreground, if_neg Bool.false_ne_true]
      refine comes_of_awaits awaits s ?_
      have uninterrupted : e ≠ .interrupted := fun same => awaits.isAnswer.1 (same ▸ rfl)
      rw [afterWait, if_neg uninterrupted, if_neg apart]
      exact .refl ..

/-- A launch alone comes back, if there is an answer behind the interrupted waits. -/
theorem exists_returns (c : Command) (s : Shared W)
    (answers : c.background = false → ∀ pid w, ∃ n reply after, world.Awaits pid n w reply after) :
    ∃ result last, Returns world c s result last := by
  cases forks : world.fork c s.world with
  | mk reply w =>
      cases reply with
      | error e => exact ⟨_, _, .refused forks⟩
      | ok pid =>
          cases background : c.background with
          | true =>
              cases room : world.reserve (world.blockSignals w) with
              | mk reply ready =>
                  cases reply with
                  | error e => exact ⟨_, _, .unregistered forks background room⟩
                  | ok done => exact ⟨_, _, .background forks background room⟩
          | false =>
              obtain ⟨n, reply, after, awaits⟩ := answers background pid (world.blockSignals w)
              cases reply with
              | status status => exact ⟨_, _, .answered forks background awaits⟩
              | notReady => exact absurd rfl awaits.isAnswer.2
              | failed e =>
                  by_cases gone : e = .noChild
                  · subst gone
                    exact ⟨_, _, .collected forks background awaits⟩
                  · exact ⟨_, _, .failed forks background awaits gone⟩

/-- Only a wait may take a while. -/
theorem exists_answer (world : World W) (c : Command) (l : Launch) (now : Shared W) :
    (∃ pid, l = .waiting pid) ∨ ∃ reply after, now.answer world (turn c l).call =
      some (reply, after) := by
  cases l with
  | waiting pid => exact .inl ⟨pid, rfl⟩
  | registering pid =>
      refine .inr ?_
      show ∃ reply after, now.answer world (.track pid c.name) = some (reply, after)
      simp only [Shared.answer]
      split <;> exact ⟨_, _, rfl⟩
  | _ => exact .inr ⟨_, _, rfl⟩

/-- What a course of a launch comes to. -/
structure Proceeds (world : World W) (c : Command) (acts : List (Act W)) (p : Progress)
    (now : Shared W) : Prop where
  underway : Underway c acts p
  answered : ∀ d ∈ acts, d.IsAnswered world
  makes : ∀ d ∈ acts, Makes c d.call
  written_eq : ∀ result, p = .ended result → Act.written acts = printed c result
  raised_eq : ∀ result, p = .ended result → acts.countP (·.call = .raiseChild) = raised result
  /-- The command that is entered becomes the most recent one. -/
  entered : ∀ before pid after, .enter c pid before (.ok ()) after ∈ acts →
    after.jobs = before.jobs.insert pid c.name ∧
      (before.jobs.IsNumbered → before.jobs.next.toNat + 1 < 2 ^ 64 →
        after.jobs.entries = (pid, c.name) :: before.jobs.entries.filter (·.1 ≠ pid))
  jobs_eq : ∀ d ∈ acts, (∀ before pid after, d ≠ .enter c pid before (.ok ()) after) →
    d.after.jobs = d.before.jobs
  slot_eq : ∀ d ∈ acts, d.after.slot = d.before.slot
  exiting_eq : ∀ d ∈ acts, d.after.exiting = d.before.exiting
  goesOn : ∀ l, p = .running l → (∃ pid, l = .waiting pid) ∨
    ∃ reply after, now.answer world (turn c l).call = some (reply, after)

end Launch

open Launch in
/-- Whatever the system answers and whatever others do meanwhile, a launch does what its kind of
command asks for and nothing else, and unless the fork failed it leaves all signals blocked. Alone
it comes back, with the first answer that is behind the interrupted waits. -/
theorem launch_proceeds {world : World W} {c : Command} :
    (∀ (others : Shared W → Shared W → Prop) (first now : Shared W) (acts : List (Act W))
        (p : Progress),
      Course world (turn c) others .start first acts p now →
      Proceeds world c acts p now ∧
      ∀ signals : W → SignalState, world.Masks signals →
        (∀ s after, others s after →
          (signals after.world).blocked = (signals s.world).blocked) →
        ∀ result, p = .ended result → (∀ e, result ≠ .error (.fork e)) →
          ∀ s, s ∈ SignalSet.full.blockable → s ∈ (signals now.world).blocked) ∧
    (∀ (s last : Shared W) (result : Except LaunchError Launched),
      Returns world c s result last →
      Comes world (turn c) (.running .start) s (.ended result) last) ∧
    ((c.background = false → ∀ pid w, ∃ n reply after, world.Awaits pid n w reply after) →
      ∀ s, ∃ result last, Returns world c s result last) := by
  refine ⟨?_, fun _ _ _ returns => returns.comes, fun answers s => exists_returns c s answers⟩
  intro others first now acts p course
  have underway : Underway c acts p :=
    course.invariant (P := fun acts p _ => Underway c acts p) .forking
      (fun underway _ => underway.step) (fun underway _ => underway)
  have answered := course.answered
  refine ⟨?_, ?_⟩
  · exact {
      underway
      answered
      makes := underway.makes
      written_eq := by
        rintro result rfl
        exact underway.written_eq
      raised_eq := by
        rintro result rfl
        exact underway.count_raise
      entered before pid after mem := by
        have tracked : after.jobs = before.jobs.insert pid c.name :=
          Shared.jobs_tracked (answered _ mem)
        refine ⟨tracked, fun numbered room => ?_⟩
        rw [tracked]
        exact numbered.entries_insert room pid c.name
      jobs_eq d mem := (underway.makes d mem).jobs_eq (answered d mem)
      slot_eq d mem := (answered d mem).slot_eq (underway.makes d mem).frame.1
      exiting_eq d mem := (answered d mem).exiting_eq (underway.makes d mem).frame.2.1
      goesOn l _ := exists_answer world c l now }
  · rintro signals masks keeps result rfl forked
    exact masks.blocked_of_course keeps course (underway.exists_block forked)

/-- A place in which commands are launched. -/
structure Desk where
  /-- How many waits are still to be interrupted. -/
  interruptions : Nat := 0
  signals : SignalState := {}
  written : Bytes := []

/-- Every child is number 7, and ends with one answer. -/
def World.desk (reply : WaitReply) : World Desk where
  print bs d := { d with written := d.written ++ bs }
  complain _ d := d
  readByte d := some (.endOfFile, d)
  changeDirectory _ d := (.ok (), d)
  fork _ d := (.ok 7, d)
  blockSignals d := { d with signals := d.signals.block .full }
  waitFor _ _ d :=
    match d.interruptions with
    | 0 => some (reply, d)
    | n + 1 => some (.failed .interrupted, { d with interruptions := n })
  reserve d := (.ok (), d)
  raiseChild d := { d with signals := d.signals.post Signal.chld }
  awaitSignal _ := none
  sendStop d := (.ok (), d)

theorem World.Masks.desk (reply : WaitReply) : (World.desk reply).Masks Desk.signals where
  block _ := rfl
  keeps {c r w after} does other := by
    cases c with
    | blockSignals => exact absurd rfl other
    | raiseChild =>
        cases does
        simp only [World.desk, SignalState.post]
        split <;> rfl
    | waitFor pid options =>
        simp only [World.Does, World.desk] at does
        split at does <;> cases does <;> rfl
    | print | printByOccupancy | printJobs =>
        obtain ⟨bs, rfl⟩ := does
        rfl
    | _ => cases does <;> rfl

theorem World.awaits_desk {reply : WaitReply} (answer : reply ≠ .failed .interrupted)
    (ready : reply ≠ .notReady) (pid : Pid) (d : Desk) :
    ∃ n after, (World.desk reply).Awaits pid n d reply after := by
  obtain ⟨interruptions, signals, written⟩ := d
  induction interruptions with
  | zero => exact ⟨0, _, .now rfl answer ready⟩
  | succ n ih =>
      obtain ⟨m, after, awaits⟩ := ih
      exact ⟨m + 1, after, .interrupted rfl awaits⟩

open Launch in
/-- A command is killed behind two interrupted waits, while another thread forgets the jobs; alone,
a command in the background is entered as the most recent one. -/
theorem launch_proceeds_killed_and_background :
    let world := World.desk (.status (.killed Signal.kill))
    let front : Command := { argv := [Bytes.ofText "a"] }
    let behind : Command := { front with background := true }
    let first : Shared Desk :=
      { jobs := Registry.insert {} 3 "b"
        world := { interruptions := 2, signals := { blocked := .ofList [Signal.usr2] } } }
    let others : Shared Desk → Shared Desk → Prop := fun s after => after.world = s.world
    (∃ acts now, Course world (turn front) others .start first acts
        (.ended (.ok (.foreground 7 (some (.killed Signal.kill))))) now ∧
      now.jobs = Registry.clear first.jobs ∧ now.world.written = Bytes.ofText "\n" ∧
      Proceeds world front acts (.ended (.ok (.foreground 7 (some (.killed Signal.kill))))) now ∧
      ∀ s, s ∈ SignalSet.full.blockable → s ∈ now.world.signals.blocked) ∧
    (∃ last, Comes world (turn behind) (.running .start) first
        (.ended (.ok (.background 7))) last ∧
      last.jobs = Registry.insert first.jobs 7 "a" ∧
      last.world.written = Bytes.ofText "[7] a\n" ∧
      last.world.signals.pending = [Signal.chld]) ∧
    ∀ s, ∃ result last, Returns world front s result last := by
  intro world front behind first others
  obtain ⟨proceeds, -, returns⟩ := @launch_proceeds _ world front
  refine ⟨?_, ?_, returns fun _ pid w => ?_⟩
  · let steps : List (Nat × (Shared Desk → Shared Desk)) :=
      [(3, fun s => { s with jobs := s.jobs.clear }), (3, id)]
    have allowed : ∀ step ∈ steps, ∀ s, others s (step.2 s) := by simp [steps, others]
    have made : (Thread.callsAround world (turn front) steps (.running .start) first).any
        (fun (_, t, now) =>
          decide (Shell.endOf t = some (.ok (.foreground 7 (some (.killed Signal.kill))))) &&
          (decide (now.jobs = Registry.clear first.jobs) &&
            decide (now.world.written = Bytes.ofText "\n"))) = true := by
      decide +kernel
    obtain ⟨⟨acts, t, now⟩, made, found⟩ := (Option.any_eq_true _ _).1 made
    simp only [Bool.and_eq_true, decide_eq_true_eq, Shell.endOf_eq_some_iff] at found
    obtain ⟨rfl, forgotten, written⟩ := found
    have course : Course world (turn front) others .start first ([] ++ acts) _ now :=
      Course.start.callsAround allowed made
    obtain ⟨proceeded, blocked⟩ := proceeds _ _ _ _ _ course
    refine ⟨_, now, course, forgotten, written, proceeded, ?_⟩
    exact blocked Desk.signals (.desk _) (fun s after same => by rw [same]) _ rfl nofun
  · have alone := (@launch_proceeds _ world behind).2.1 first _ _
      (.background rfl rfl rfl)
    exact ⟨_, alone, by decide +kernel, by decide +kernel, by decide +kernel⟩
  · obtain ⟨n, after, awaits⟩ := @World.awaits_desk (.status (.killed Signal.kill))
      nofun nofun pid w
    exact ⟨n, _, after, awaits⟩

end JobShell
