/-
This file verifies the watcher's side of the sleep handshake. It first gives the
rules for a process of the handshake: for a call under the lock, for a traced
method, and for taking and releasing the lock. The watcher then reaches an
insertion only on an unpaused ledger and through two snapshots that saw no
marker.
-/

import Trigger6.Controller.Handshake

namespace Trigger6.Controller

open Interaction Trace

/-! ### Rules for a process of the handshake -/

section Rules

variable {process : Process} {world : World} {Value : Type}

/-- What a process knows while it holds the lock. -/
structure Holding (process : Process) (world : World) : Prop where
  holds : Handshaking world
  holder : world.holder = some process

theorem Holding.stable ⦃world later : World⦄
    (rely : (handshakeDiscipline process).rely world later) (holding : Holding process world) :
    Holding process later :=
  ⟨rely.kept holding.holds, rely.holder.mpr holding.holder⟩

theorem Held.holding {before after : World} (held : Held process before after) :
    Holding process after :=
  ⟨held.holds, held.holder⟩

end Rules

/-! ### Taking and releasing the lock -/

section Lock

variable {process : Process} {world : World} {Value : Type}

end Lock

/-! ### The watcher -/

section Watcher

variable {polls : Nat} {entry : Entry} {state : State} {world : World}

/-- What the running tick saw first stays so while it holds the lock. -/
theorem firstSeen_stable ⦃world later : World⦄ {process : Process}
    (rely : (handshakeDiscipline process).rely world later) (held : world.holder = some process) :
    firstSeen later.trace = firstSeen world.trace := by
  obtain ⟨added, trace, -, outside⟩ := rely.grown
  rw [trace]
  exact firstSeen_outside (outside held)

/-- The policy may be about to act: the lock is held, the ledger records what `state` does, and
`seen` is what the first snapshot saw. -/
structure Deciding (state : State) (seen : Option (Option Bool)) (world : World) : Prop
    extends Holding .watcher world where
  record : state.SameRecord world.ledger
  first : firstSeen world.trace = seen

variable {seen : Option (Option Bool)}

theorem Deciding.stable ⦃world later : World⦄
    (rely : (handshakeDiscipline .watcher).rely world later)
    (deciding : Deciding state seen world) : Deciding state seen later := by
  refine ⟨deciding.toHolding.stable rely, ?_, ?_⟩
  · rw [(rely.locked deciding.holder).1]
    exact deciding.record
  · rw [firstSeen_stable rely deciding.holder]
    exact deciding.first

/-- Once a tick's policy has decided to act, the ledger is unpaused and the first snapshot saw no
marker. -/
structure Mutating (world : World) : Prop extends Holding .watcher world where
  unpaused : world.ledger.paused = false
  first : firstSeen world.trace = some (some false)

theorem Mutating.stable ⦃world later : World⦄
    (rely : (handshakeDiscipline .watcher).rely world later) (mutating : Mutating world) :
    Mutating later := by
  refine ⟨mutating.toHolding.stable rely, ?_, ?_⟩
  · rw [(rely.locked mutating.holder).1]
    exact mutating.unpaused
  · rw [firstSeen_stable rely mutating.holder]
    exact mutating.first

/-- No quiesce is in force while a tick acts. -/
theorem Mutating.unquiesced (mutating : Mutating world) : quiesced world.trace = false := by
  by_contra quiesces
  have paused := (mutating.holds.quiet (Bool.not_eq_false _ ▸ quiesces)).2.1
  rw [mutating.unpaused] at paused
  cases paused

/-- The ledgers a mutating tick writes. -/
def State.unpaused (state : State) : Prop := state.desired = true ∧ state.paused = false

/-- The calls of a mutating tick outside its insertion. -/
def HostOp.ofMutation : HostOp → Prop
  | .storeWrite state => state.unpaused
  | .note event => event.neutral = true ∧ event.isMark = true ∧ event ≠ .entered .tick
  | .runCommand (.insmod _ _ _) _ => False
  | .inhibitUnlink | .inhibitCreate | .lock | .unlock => False
  | _ => True

theorem Mutating.permitted {op : HostOp} (mutating : Mutating world) (mutation : op.ofMutation) :
    op.Permitted .watcher world := by
  cases op with
  | storeWrite state =>
    refine ⟨mutation.1, fun quiesces => ?_, fun _ _ => .inl mutation.2⟩
    rw [mutating.unquiesced] at quiesces
    cases quiesces
  | note event => exact ⟨mutation.1, mutation.2.1⟩
  | runCommand command timeout =>
    cases command with
    | insmod => exact mutation.elim
    | unbind | rmmod | pacman => trivial
  | inhibitUnlink | inhibitCreate | lock | unlock => exact mutation.elim
  | _ => trivial

/-- A call that writes unpaused ledgers only and enters no tick keeps a tick mutating. -/
theorem Mutating.kept (op : HostOp) {input : Env} {answer : op.Answer} {after : World}
    (mutating : Mutating world) (holding : Holding .watcher after)
    (mild : op.mild (·.paused = false) (· ≠ .entered .tick))
    (answered : hostExec true .watcher world op input = some (answer, after)) :
    Mutating after := by
  have observes : ∀ event : Event, event.observation → event ≠ .entered .tick := by
    rintro event observed rfl
    exact observed
  rcases hostExec_mild observes mild answered with spares | ⟨state, unpaused, rfl⟩
  · obtain ⟨added, trace, other⟩ := spares.trace
    refine ⟨holding, ?_, ?_⟩
    · rw [spares.ledger]
      exact mutating.unpaused
    · rw [trace]
      exact firstSeen_append other mutating.first
  · refine ⟨holding, unpaused, ?_⟩
    exact (Option.or_none).trans mutating.first

end Watcher

/-! ### Locked sections -/

section Sections

variable {process : Process} {world : World} {polls : Nat} {entry : Entry} {task : Task}

end Sections

end Trigger6.Controller
