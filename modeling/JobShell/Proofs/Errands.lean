import JobShell.Proofs.Run
import JobShell.Proofs.Session
import Mathlib.Logic.Relation

/-!
# Programs run as children

In a session without threads a program runs in one go. For the shell it is a child: it is forked,
does its work at some time of its own, and is waited for. `Staged` says that the operations of a
world keep to this account of a session, and that the signals that come are none from the
keyboard. `Obliging` says that what the shell waits for can come.

Results:
1. `Staged.staging`, `Obliging.staging`: there is a world that keeps the account and obliges.
-/

namespace JobShell

/-- The child that the execution thread has to wait for: it has yet to do its work, or it has done
it and the wait will end like this. -/
inductive Errand
  | none
  | running (pid : Pid) (c : Command)
  | finished (pid : Pid) (ending : Ending)

/-- What a session works on while the shell has children. -/
structure Setting (D F : Type) where
  surface : Surface D F
  errand : Errand := .none

/-- A world whose operations treat a session, as `view` shows it, as the system does: programs
start as their behaviour says and do their work before the wait for them ends, which may be
interrupted any number of times. No SIGINT and no SIGTSTP comes, and waiting for signals and
sending SIGUSR1 do not fail. -/
structure Staged {D F W : Type} (b : Behaviour D F) (world : World W) (outside : W → W → Prop)
    (view : W → Setting D F) : Prop where
  print : ∀ bs w,
    view (world.print bs w) = { view w with surface := (view w).surface.print bs }
  complain : ∀ bs w,
    view (world.complain bs w) = { view w with surface := (view w).surface.complain bs }
  readByte : ∀ w r after, world.readByte w = some (r, after) →
    r = (view w).surface.read.1 ∧ view after = { view w with surface := (view w).surface.read.2 }
  changeDirectory : ∀ dir w,
    (world.changeDirectory dir w).1 = (b.enter dir (view w).surface).1 ∧
      view (world.changeDirectory dir w).2 =
        { view w with surface := (b.enter dir (view w).surface).2 }
  refused : ∀ c w e, b.perform c (view w).surface = .error e →
    (world.fork c w).1 = .error e ∧ view (world.fork c w).2 = view w
  started : ∀ c w done, b.perform c (view w).surface = .ok done →
    ∃ pid, (world.fork c w).1 = .ok pid ∧
      view (world.fork c w).2 = { view w with errand := .running pid c }
  blockSignals : ∀ w, view (world.blockSignals w) = view w
  waitFor : ∀ pid w r after, world.waitFor pid {} w = some (r, after) →
    (∃ ending, (view w).errand = .finished pid ending ∧ r = ending.reply ∧
      view after = { view w with errand := .none }) ∨
    (r = .failed .interrupted ∧ view after = view w)
  awaitSignal : ∀ w r after, world.awaitSignal w = some (r, after) →
    (r = .error .interrupted ∨ ∃ signal, r = .ok signal ∧ signal ≠ Signal.int ∧
      signal ≠ Signal.tstp) ∧ view after = view w
  sendStop : ∀ w, (world.sendStop w).1 = .ok () ∧ view (world.sendStop w).2 = view w
  outside : ∀ w after, outside w after → view after = view w ∨
    ∃ pid c ending v, (view w).errand = .running pid c ∧
      b.perform c (view w).surface = .ok (ending, v) ∧
      view after = { surface := v, errand := .finished pid ending }

/-- What the shell waits for can come, after some changes from outside: a read comes to its outcome,
a child does its work, and the wait for a child that has done it ends. -/
structure Obliging {D F W : Type} (b : Behaviour D F) (world : World W) (outside : W → W → Prop)
    (view : W → Setting D F) : Prop where
  readByte : ∀ w, ∃ later, Relation.ReflTransGen outside w later ∧ view later = view w ∧
    (world.readByte later).isSome
  work : ∀ w pid c done, (view w).errand = .running pid c →
    b.perform c (view w).surface = .ok done →
    ∃ later ending, Relation.ReflTransGen outside w later ∧
      (view later).errand = .finished pid ending
  waitFor : ∀ w pid ending, (view w).errand = .finished pid ending →
    ∃ later after, Relation.ReflTransGen outside w later ∧ view later = view w ∧
      world.waitFor pid {} later = some (ending.reply, after)

namespace Setting

variable {D F : Type} (b : Behaviour D F)

/-- The child of this number is to do its work, or it has done it. -/
def HasChild (pid : Pid) (z : Setting D F) : Prop :=
  (∃ c done, z.errand = .running pid c ∧ b.perform c z.surface = .ok done) ∨
    ∃ ending, z.errand = .finished pid ending

/-- Let the child do its work, if there is one that has not done it. -/
def work (z : Setting D F) : Setting D F :=
  match z.errand with
  | .running pid c =>
      match b.perform c z.surface with
      | .ok (ending, v) => ⟨v, .finished pid ending⟩
      | .error _ => z
  | _ => z

def Works (z after : Setting D F) : Prop := after = z.work b

theorem work_cases (z : Setting D F) :
    z.work b = z ∨ ∃ pid c ending v, z.errand = .running pid c ∧
      b.perform c z.surface = .ok (ending, v) ∧ z.work b = ⟨v, .finished pid ending⟩ := by
  obtain ⟨surface, errand⟩ := z
  cases errand with
  | none | finished => exact .inl rfl
  | running pid c =>
      cases done : b.perform c surface with
      | error e => exact .inl (by simp only [work, done])
      | ok result => exact .inr ⟨pid, c, result.1, result.2, rfl, done, by simp only [work, done]⟩

def fork (c : Command) (z : Setting D F) : Except Errno Pid × Setting D F :=
  match b.perform c z.surface with
  | .error e => (.error e, z)
  | .ok _ => (.ok 1, { z with errand := .running 1 c })

/-- How the wait for a child ends, if it has done its work. -/
def ending? (pid : Pid) (z : Setting D F) : Option Ending :=
  match z.errand with
  | .finished p ending => if p = pid then some ending else none
  | _ => none

/-- A child that has not done its work keeps those waiting who do not want to return at once. -/
def waitFor (pid : Pid) (options : WaitOptions) (z : Setting D F) :
    Option (WaitReply × Setting D F) :=
  match z.ending? pid with
  | some ending => some (ending.reply, { z with errand := .none })
  | none => if options.noHang then some (.notReady, z) else none

theorem ending?_eq_some_iff {pid : Pid} {z : Setting D F} {ending : Ending} :
    z.ending? pid = some ending ↔ z.errand = .finished pid ending := by
  unfold ending?
  split <;> simp_all [eq_comm]

end Setting

/-- The world that is nothing but a session. A stray SIGUSR1 is always there. -/
def World.staging {D F : Type} (b : Behaviour D F) : World (Setting D F) where
  print bs z := { z with surface := z.surface.print bs }
  complain bs z := { z with surface := z.surface.complain bs }
  readByte z := some (z.surface.read.1, { z with surface := z.surface.read.2 })
  changeDirectory dir z :=
    ((b.enter dir z.surface).1, { z with surface := (b.enter dir z.surface).2 })
  fork c z := z.fork b c
  blockSignals z := z
  waitFor pid options z := z.waitFor pid options
  reserve z := (.ok (), z)
  raiseChild z := z
  awaitSignal z := some (.ok Signal.usr1, z)
  sendStop z := (.ok (), z)

theorem Staged.staging {D F : Type} (b : Behaviour D F) :
    Staged b (World.staging b) (Setting.Works b) id where
  print _ _ := rfl
  complain _ _ := rfl
  readByte _ _ _ read := by
    cases read
    exact ⟨rfl, rfl⟩
  changeDirectory _ _ := ⟨rfl, rfl⟩
  refused c z e fails := by
    show (z.fork b c).1 = _ ∧ (z.fork b c).2 = z
    rw [Setting.fork, show b.perform c z.surface = .error e from fails]
    exact ⟨rfl, rfl⟩
  started c z done works := by
    refine ⟨1, ?_⟩
    show (z.fork b c).1 = _ ∧ (z.fork b c).2 = _
    rw [Setting.fork, show b.perform c z.surface = .ok done from works]
    exact ⟨rfl, rfl⟩
  blockSignals _ := rfl
  waitFor pid z r after waited := by
    simp only [World.staging, Setting.waitFor] at waited
    split at waited
    · next ending halted =>
        cases waited
        exact .inl ⟨ending, Setting.ending?_eq_some_iff.1 halted, rfl, rfl⟩
    · cases waited
  awaitSignal _ _ _ taken := by
    cases taken
    exact ⟨.inr ⟨Signal.usr1, rfl, by decide, by decide⟩, rfl⟩
  sendStop _ := ⟨rfl, rfl⟩
  outside z _ works := by
    rw [show _ = z.work b from works]
    exact z.work_cases b

theorem Obliging.staging {D F : Type} (b : Behaviour D F) :
    Obliging b (World.staging b) (Setting.Works b) id where
  readByte z := ⟨z, .refl, rfl, rfl⟩
  work z pid c done running works := by
    refine ⟨z.work b, done.1, .single rfl, ?_⟩
    have running : z.errand = .running pid c := running
    have works : b.perform c z.surface = .ok done := works
    simp only [Setting.work, running, works, id_eq]
  waitFor z pid ending finished := by
    refine ⟨z, { z with errand := .none }, .refl, rfl, ?_⟩
    have halted : z.ending? pid = some ending := Setting.ending?_eq_some_iff.2 finished
    simp only [World.staging, Setting.waitFor, halted]

end JobShell
