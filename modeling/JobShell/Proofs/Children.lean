import JobShell.Proofs.Run

/-!
# The children of the shell

What the shell relies on about its children: a child that ends or stops has news, which stay until
somebody waits for the child, and SIGCHLD is then pending; it is one bit, set by every such change
and by whoever raises it, and taken by whoever waits for it. `Lawful` says that the operations of
a world keep to this account, however else the world is made, and `Tended` that, moreover, no job
is refused.

Results:
1. `Lawful.serves_of_does`: what each call does to the children and to the pending signal.
2. `Children.Goes.news`: news that come from outside make SIGCHLD pending.
-/

namespace JobShell

/-- A child as the system keeps it for the shell. A stop that has been collected, or that is over
before anybody collected it, leaves nothing behind. -/
inductive Child
  | unborn
  | quiet
  | stopped (signal : Signal)
  | exited (code : Nat)
  | killed (signal : Signal)
  | collected
deriving DecidableEq, Repr

namespace Child

/-- The change of state that nobody has collected yet. -/
def news : Child → Option WaitStatus
  | .stopped signal => some (.stopped signal)
  | .exited code => some (.exited code)
  | .killed signal => some (.killed signal)
  | .unborn | .quiet | .collected => none

/-- Whether the system still knows the child. -/
def isPresent : Child → Bool
  | .unborn | .collected => false
  | _ => true

/-- Whether the child has not come to its end. -/
def isAlive : Child → Bool
  | .quiet | .stopped _ => true
  | _ => false

/-- What is left of a child whose news have been collected. -/
def settled : WaitStatus → Child
  | .stopped _ => .quiet
  | _ => .collected

theorem isPresent_of_news {c : Child} (news : c.news ≠ none) : c.isPresent = true := by
  cases c <;> first | rfl | exact absurd rfl news

theorem isPresent_of_isAlive {c : Child} (alive : c.isAlive = true) : c.isPresent = true := by
  cases c <;> first | rfl | cases alive

/-- Every change of state is worth telling, and all but stops are final. -/
theorem event_of_news {c : Child} {s : WaitStatus} (news : c.news = some s) :
    ∃ event, JobEvent.ofStatus? s = some event ∧ event.isFinal = !s.isStop := by
  cases c <;> cases news
  · exact ⟨_, rfl, rfl⟩
  · refine ⟨_, rfl, ?_⟩
    split <;> rfl
  · exact ⟨_, rfl, rfl⟩

theorem settled_eq (s : WaitStatus) :
    settled s = if s.isStop = true then .quiet else .collected := by
  cases s <;> rfl

theorem news_settled (s : WaitStatus) : (settled s).news = none := by cases s <;> rfl

end Child

/-- The children, and whether SIGCHLD is pending. -/
structure Children where
  child : Pid → Child
  pending : Bool

namespace Children

def set (k : Children) (pid : Pid) (c : Child) : Children :=
  { k with child := fun p => if p = pid then c else k.child p }

@[simp]
theorem child_set_self (k : Children) (pid : Pid) (c : Child) : (k.set pid c).child pid = c :=
  if_pos rfl

theorem child_set_of_ne {k : Children} {pid other : Pid} {c : Child} (apart : other ≠ pid) :
    (k.set pid c).child other = k.child other :=
  if_neg apart

@[simp]
theorem pending_set (k : Children) (pid : Pid) (c : Child) : (k.set pid c).pending = k.pending :=
  rfl

/-- A new child has a number that no child had before. -/
def Forks (k : Children) : Except Errno Pid → Children → Prop
  | .ok pid, after => k.child pid = .unborn ∧ after = k.set pid .quiet
  | .error _, after => after = k

/-- A wait collects the news of a child; stops only if they are asked for. Without news there is
nothing to report, and a child that the system does not know cannot be waited for. -/
def Waits (k : Children) (pid : Pid) (options : WaitOptions) : WaitReply → Children → Prop
  | .status s, after =>
      (k.child pid).news = some s ∧ (s.isStop = true → options.untraced = true) ∧
        after = k.set pid (.settled s)
  | .notReady, after =>
      (k.child pid).isPresent = true ∧
        (∀ s, (k.child pid).news = some s → s.isStop = true ∧ options.untraced = false) ∧ after = k
  | .failed e, after =>
      (e = .noChild ↔ (k.child pid).isPresent = false) ∧
        (options.noHang = true → e = .noChild) ∧ after = k

/-- Only a pending SIGCHLD is taken, and then it is pending no more. -/
def Takes (k : Children) : Except Errno Signal → Children → Prop
  | .ok s, after =>
      if s = Signal.chld then k.pending = true ∧ after = { k with pending := false } else after = k
  | .error _, after => after = k

/-- Children stop, go on and end without the shell; every stop and every end makes SIGCHLD
pending. -/
def Goes (k after : Children) : Prop :=
  (k.pending = true → after.pending = true) ∧
    ∀ pid, after.child pid = k.child pid ∨
      (k.child pid).isAlive = true ∧
        (after.child pid = .quiet ∨ (after.child pid).news ≠ none ∧ after.pending = true)

/-- What a call does to the children. -/
def Serves (k : Children) : (c : Call) → c.Reply → Children → Prop
  | .fork _, reply, after => k.Forks reply after
  | .waitFor pid options, reply, after => k.Waits pid options reply after
  | .awaitSignal, reply, after => k.Takes reply after
  | .raiseChild, _, after => after = { k with pending := true }
  | _, _, after => after = k

theorem Goes.news {k after : Children} {pid : Pid} (goes : k.Goes after)
    (news : (after.child pid).news ≠ none) :
    (k.child pid).news ≠ none ∧ (k.pending = true → after.pending = true) ∨
      after.pending = true := by
  rcases goes.2 pid with same | ⟨_, quiet | ⟨_, pending⟩⟩
  · exact .inl ⟨same ▸ news, goes.1⟩
  · rw [quiet] at news
    exact absurd rfl news
  · exact .inr pending

theorem Goes.collected_iff {k after : Children} {pid : Pid} (goes : k.Goes after) :
    after.child pid = .collected ↔ k.child pid = .collected := by
  rcases goes.2 pid with same | ⟨alive, changed⟩
  · rw [same]
  · constructor
    · intro collected
      rcases changed with quiet | ⟨news, _⟩
      · rw [quiet] at collected
        cases collected
      · rw [collected] at news
        exact absurd rfl news
    · intro collected
      rw [collected] at alive
      cases alive

end Children

/-- A world whose operations treat the children, as `view` shows them, in the way of the system.
Raising SIGCHLD succeeds. -/
structure Lawful {W : Type} (world : World W) (outside : W → W → Prop) (view : W → Children) :
    Prop where
  print : ∀ bs w, view (world.print bs w) = view w
  complain : ∀ bs w, view (world.complain bs w) = view w
  readByte : ∀ w r after, world.readByte w = some (r, after) → view after = view w
  changeDirectory : ∀ dir w, view (world.changeDirectory dir w).2 = view w
  fork : ∀ c w, (view w).Forks (world.fork c w).1 (view (world.fork c w).2)
  blockSignals : ∀ w, view (world.blockSignals w) = view w
  waitFor : ∀ pid options w r after, world.waitFor pid options w = some (r, after) →
    (view w).Waits pid options r (view after)
  reserve : ∀ w, view (world.reserve w).2 = view w
  raiseChild : ∀ w, view (world.raiseChild w) = { view w with pending := true }
  awaitSignal : ∀ w r after, world.awaitSignal w = some (r, after) → (view w).Takes r (view after)
  sendStop : ∀ w, view (world.sendStop w).2 = view w
  outside : ∀ w after, outside w after → (view w).Goes (view after)

/-- A lawful world in which there is always room for another job. -/
structure Tended {W : Type} (world : World W) (outside : W → W → Prop) (view : W → Children) :
    Prop extends Lawful world outside view where
  room : ∀ w, (world.reserve w).1 = .ok ()

namespace Lawful

variable {W : Type} {world : World W} {outside : W → W → Prop} {view : W → Children}

theorem serves_of_does {w after : W} {c : Call} {reply : c.Reply}
    (lawful : Lawful world outside view) (does : world.Does c reply w after) :
    (view w).Serves c reply (view after) := by
  cases c with
  | print | printByOccupancy | printJobs =>
      obtain ⟨bs, rfl⟩ := does
      exact lawful.print bs w
  | complain bs =>
      cases does
      exact lawful.complain bs w
  | readByte => exact lawful.readByte _ _ _ does
  | changeDirectory dir =>
      obtain rfl : (world.changeDirectory dir w).2 = after := congrArg Prod.snd does
      exact lawful.changeDirectory dir w
  | fork c =>
      have forks := lawful.fork c w
      rwa [show world.fork c w = (reply, after) from does] at forks
  | blockSignals =>
      cases does
      exact lawful.blockSignals w
  | waitFor pid options => exact lawful.waitFor _ _ _ _ _ does
  | track pid name =>
      obtain rfl : (world.reserve w).2 = after := congrArg Prod.snd does
      exact lawful.reserve w
  | raiseChild =>
      cases does
      exact lawful.raiseChild w
  | awaitSignal => exact lawful.awaitSignal _ _ _ does
  | sendStop =>
      obtain rfl : (world.sendStop w).2 = after := congrArg Prod.snd does
      exact lawful.sendStop w
  | _ =>
      cases does
      rfl

theorem serves {s after : Shared W} {c : Call} {reply : c.Reply}
    (lawful : Lawful world outside view) (answered : s.answer world c = some (reply, after)) :
    (view s.world).Serves c reply (view after.world) :=
  lawful.serves_of_does (Shared.does_answer answered)

theorem serves_of_moves {s after : Shell W} {e : Event} (lawful : Lawful world outside view)
    (moves : s.Moves world e after) :
    (view s.shared.world).Serves e.call e.reply (view after.shared.world) :=
  lawful.serves_of_does moves.does

end Lawful

/-- In a tended world every job is registered. -/
theorem Tended.eq_ok_of_track {W : Type} {world : World W} {outside : W → W → Prop}
    {view : W → Children} {s after : Shared W} {pid : Pid} {name : String}
    {reply : Except RegistrationError Unit} (tended : Tended world outside view)
    (answered : s.answer world (.track pid name) = some (reply, after)) : reply = .ok () := by
  have room := tended.room s.world
  have reserved : world.reserve s.world = (reply, after.world) := Shared.does_answer answered
  rwa [reserved] at room

/-- A world of children and of what can still be read; children get their numbers in turn. -/
structure Nursery where
  children : Children := { child := fun _ => .unborn, pending := false }
  next : Nat := 1
  input : Source

namespace Nursery

def of (input : Source) : Nursery := { input }

/-- Let a child come into a new state, which makes SIGCHLD pending. -/
def change (n : Nursery) (pid : Pid) (c : Child) : Nursery :=
  { n with children := { n.children.set pid c with pending := true } }

def Changes (n after : Nursery) : Prop :=
  n.children.Goes after.children

def fork (n : Nursery) : Except Errno Pid × Nursery :=
  if n.children.child n.next = .unborn then
    (.ok n.next, { n with children := n.children.set n.next .quiet, next := n.next + 1 })
  else (.error .wouldBlock, n)

/-- There is nothing to report: the caller waits or is told so. -/
def silent (n : Nursery) (options : WaitOptions) : Option (WaitReply × Nursery) :=
  if options.noHang then some (.notReady, n) else none

def waitFor (n : Nursery) (pid : Pid) (options : WaitOptions) : Option (WaitReply × Nursery) :=
  match (n.children.child pid).news with
  | some s =>
      if s.isStop = true ∧ options.untraced = false then n.silent options
      else some (.status s, { n with children := n.children.set pid (.settled s) })
  | none =>
      if (n.children.child pid).isPresent then n.silent options else some (.failed .noChild, n)

def awaitSignal (n : Nursery) : Option (Except Errno Signal × Nursery) :=
  if n.children.pending then
    some (.ok Signal.chld, { n with children := { n.children with pending := false } })
  else none

theorem goes_change {n : Nursery} {pid : Pid} {c : Child}
    (alive : (n.children.child pid).isAlive = true) (news : c.news ≠ none) :
    n.Changes (n.change pid c) := by
  refine ⟨fun _ => rfl, fun other => ?_⟩
  by_cases same : other = pid
  · subst same
    refine .inr ⟨alive, .inr ⟨?_, rfl⟩⟩
    show ((n.children.set other c).child other).news ≠ none
    rw [Children.child_set_self]
    exact news
  · exact .inl (Children.child_set_of_ne same)

theorem silent_eq {n after : Nursery} {options : WaitOptions} {reply : WaitReply}
    (told : n.silent options = some (reply, after)) : reply = .notReady ∧ after = n := by
  unfold silent at told
  split at told <;> cases told
  exact ⟨rfl, rfl⟩

theorem waits {n after : Nursery} {pid : Pid} {options : WaitOptions} {reply : WaitReply}
    (waited : n.waitFor pid options = some (reply, after)) :
    n.children.Waits pid options reply after.children := by
  unfold waitFor at waited
  cases news : (n.children.child pid).news with
  | some s =>
      simp only [news] at waited
      -- a stop that the caller has not asked for is kept from it
      by_cases hidden : s.isStop = true ∧ options.untraced = false
      · rw [if_pos hidden] at waited
        obtain ⟨rfl, rfl⟩ := silent_eq waited
        refine ⟨Child.isPresent_of_news (by rw [news]; nofun), fun r told => ?_, rfl⟩
        rw [news] at told
        cases told
        exact hidden
      · rw [if_neg hidden] at waited
        cases waited
        refine ⟨news, fun stop => ?_, rfl⟩
        simpa [stop] using hidden
  | none =>
      simp only [news] at waited
      by_cases present : (n.children.child pid).isPresent = true
      · rw [if_pos present] at waited
        obtain ⟨rfl, rfl⟩ := silent_eq waited
        refine ⟨present, fun r told => ?_, rfl⟩
        rw [news] at told
        cases told
      · rw [if_neg present] at waited
        cases waited
        exact ⟨⟨fun _ => Bool.not_eq_true _ ▸ present, fun _ => rfl⟩, fun _ => rfl, rfl⟩

end Nursery

/-- The shell among its children: all that it does besides succeeds and is forgotten. -/
def World.nursery : World Nursery where
  print _ n := n
  complain _ n := n
  readByte n :=
    match n.input with
    | [] => some (.endOfFile, n)
    | outcome :: rest => some (outcome, { n with input := rest })
  changeDirectory _ n := (.ok (), n)
  fork _ n := n.fork
  blockSignals n := n
  waitFor pid options n := n.waitFor pid options
  reserve n := (.ok (), n)
  raiseChild n := { n with children := { n.children with pending := true } }
  awaitSignal n := n.awaitSignal
  sendStop n := (.ok (), n)

theorem Tended.nursery : Tended World.nursery Nursery.Changes Nursery.children where
  print _ _ := rfl
  complain _ _ := rfl
  readByte n r after read := by
    simp only [World.nursery] at read
    split at read <;> cases read <;> rfl
  changeDirectory _ _ := rfl
  fork c n := by
    simp only [World.nursery, Nursery.fork]
    split
    · next unborn => exact ⟨unborn, rfl⟩
    · rfl
  blockSignals _ := rfl
  waitFor _ _ _ _ _ waited := Nursery.waits waited
  reserve _ := rfl
  room _ := rfl
  raiseChild _ := rfl
  awaitSignal n r after taken := by
    simp only [World.nursery, Nursery.awaitSignal] at taken
    split at taken
    · next pending =>
        cases taken
        simp only [Children.Takes, if_true]
        exact ⟨pending, trivial⟩
    · cases taken
  sendStop _ := rfl
  outside _ _ changes := changes

end JobShell
