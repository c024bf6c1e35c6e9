/-
This file is about an incomplete pre-sleep quiesce: a pause that persisted its
inflight marker and was killed, or saw its stop fail, before it persisted its
completion. Such a pause blocks every start and keeps the sleep marker, through
any ticks, resumes and further pauses, as long as no further pause's stop
returns. A further pause whose stop does return overwrites the marker of the
incomplete one, and the block is lost.
-/

import Trigger6.Controller.FailedStop

namespace Trigger6.Controller

open Interaction

/-! ### Traces since a point -/

/-- In what was traced since a point, the inflight marker was persisted and no ledger without
one was. -/
def Incomplete (segment : List Event) : Prop :=
  (∃ state, .wrote state ∈ segment) ∧ ∀ state, .wrote state ∈ segment → state.inflight.isSome

/-- The events the block forbids: the entry of `start_module`, the removal of the sleep marker. -/
def Event.unblocks : Event → Bool
  | .entered .startModule | .markerRemoved => true
  | _ => false

/-- A pre-sleep stop has returned. -/
def SleepStopped (segment : List Event) : Prop := .returned (.stopModule .sleepStop) ∈ segment

instance {segment : List Event} : Decidable (SleepStopped segment) :=
  inferInstanceAs (Decidable (_ ∈ _))

/-- A predicate on what was traced since `base`. -/
def Since (base : List Event) (holds : List Event → World → Prop) (world : World) : Prop :=
  ∃ segment, world.trace = segment ++ base ∧ holds segment world

theorem Since.cons {base : List Event} {holds next : List Event → World → Prop}
    {before after : World} {event : Event} (since : Since base holds before)
    (trace : after.trace = event :: before.trace)
    (step : ∀ segment, holds segment before → next (event :: segment) after) :
    Since base next after := by
  obtain ⟨segment, same, kept⟩ := since
  exact ⟨event :: segment, by rw [trace, same, List.cons_append], step segment kept⟩

theorem Since.spares {base : List Event} {holds : List Event → World → Prop} {before after : World}
    {allowed : Event → Prop} (since : Since base holds before)
    (spares : Spares allowed before after)
    (step : ∀ segment added, (∀ event ∈ added, allowed event) → holds segment before →
      holds (added ++ segment) after) : Since base holds after := by
  obtain ⟨segment, same, kept⟩ := since
  obtain ⟨added, trace, permitted⟩ := spares.trace
  exact ⟨added ++ segment, by rw [trace, same, List.append_assoc], step segment added permitted kept⟩

/-! ### The incomplete pause -/

section Pause

variable {base : List Event} {self : Process} {polls : Nat} {state : State} {world : World}

/-- Where a pause is incomplete the ledger in store is marked and intent is kept. -/
abbrev Pausing (base : List Event) : World → Prop :=
  Since base fun segment world => Incomplete segment →
    world.ledger.inflight.isSome ∧ world.ledger.desired = true

theorem incomplete_of_cons {event : Event} {segment : List Event}
    (incomplete : Incomplete (event :: segment)) (other : ∀ state, event ≠ .wrote state) :
    Incomplete segment := by
  obtain ⟨⟨state, member⟩, marked⟩ := incomplete
  refine ⟨⟨state, ?_⟩, fun state member => marked state (List.mem_cons_of_mem event member)⟩
  rcases List.mem_cons.mp member with same | older
  · exact absurd same.symm (other state)
  · exact older

theorem incomplete_of_append {added segment : List Event}
    (incomplete : Incomplete (added ++ segment)) (other : ∀ event ∈ added, ∀ state, event ≠ .wrote state) :
    Incomplete segment := by
  induction added with
  | nil => exact incomplete
  | cons event rest inductionHypothesis =>
    refine inductionHypothesis (incomplete_of_cons incomplete (other event List.mem_cons_self)) ?_
    exact fun event member => other event (List.mem_cons_of_mem _ member)

theorem Pausing.record {event : Event} (pausing : Pausing base world)
    (other : ∀ state, event ≠ .wrote state) : Pausing base (world.record event) :=
  pausing.cons rfl fun _ holds incomplete => holds (incomplete_of_cons incomplete other)

theorem Pausing.write {next : State} (pausing : Pausing base world) (desired : next.desired = true) :
    Pausing base (world.write next) :=
  pausing.cons rfl fun _ _ incomplete => ⟨incomplete.2 next List.mem_cons_self, desired⟩

theorem Pausing.ofStop {after : World} (pausing : Pausing base world)
    (leaves : Leaves Event.ofStop world after) : Pausing base after := by
  refine pausing.spares (leaves.spares fun _ stop => stop) fun segment added stop holds incomplete => ?_
  rw [leaves.ledger]
  refine holds (incomplete_of_append incomplete fun event member state same => ?_)
  have stopped := stop event member
  rw [same] at stopped
  exact stopped

end Pause

/-! ### What follows it -/

section Later

variable {base : List Event} {self : Process} {polls : Nat} {entry : Entry} {state : State}
  {world : World}

/-- A later pre-sleep stop has returned. -/
abbrev Overtaken (base : List Event) : World → Prop := Since base fun newer _ => SleepStopped newer

/-- Nothing was started and the sleep marker was not removed, and the ledger keeps it so. -/
abbrev Blocked (base : List Event) : World → Prop := Since base fun newer world =>
  (∀ event ∈ newer, event.unblocks = false) ∧
    world.ledger.inflight.isSome ∧ world.ledger.desired = true

theorem Blocked.spares {after : World} (blocked : Blocked base world)
    (spares : Spares (fun event => event.unblocks = false) world after) : Blocked base after := by
  refine Since.spares blocked spares fun segment added fine holds => ⟨fun event member => ?_, ?_⟩
  · rcases List.mem_append.mp member with new | old
    · exact fine event new
    · exact holds.1 event old
  · rw [spares.ledger]
    exact holds.2

theorem Blocked.record {event : Event} (blocked : Blocked base world)
    (fine : event.unblocks = false) : Blocked base (world.record event) :=
  blocked.spares ⟨rfl, le_rfl, [event], rfl, fun _ member => List.mem_singleton.mp member ▸ fine⟩

theorem Blocked.write {next : State} (blocked : Blocked base world) (marked : next.inflight.isSome)
    (desired : next.desired = true) : Blocked base (world.write next) := by
  refine Since.cons blocked rfl fun segment holds => ⟨fun event member => ?_, marked, desired⟩
  rcases List.mem_cons.mp member with rfl | old
  · rfl
  · exact holds.1 event old

theorem Overtaken.write {next : State} (overtaken : Overtaken base world) :
    Overtaken base (world.write next) :=
  Since.cons overtaken rfl fun _ holds => List.mem_cons_of_mem _ holds

end Later

/-! ### The block -/

end Trigger6.Controller
