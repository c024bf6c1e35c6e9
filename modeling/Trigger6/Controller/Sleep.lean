/-
This file verifies the two sleep hooks and proves the handshake. The pre-sleep
hook returns only with the module gone and the ledger paused under its marker,
and the post-sleep hook takes the marker away only after such a return. With
the watcher's side, every process is safe in its own discipline, so the
invariant holds in every interleaving, and the guarantees of the handshake are
read off the invariant.
-/

import Trigger6.Controller.Watcher

namespace Trigger6.Controller

open Interaction Trace

/-! ### The pre-sleep hook -/

section PreSleep

variable {world : World} {polls : Nat} {entry : Entry}

/-- Other processes trace none of the pre-sleep hook's events. -/
theorem ofPre_mem {before after : World} (rely : Rely (.sleepHook .pre) before after)
    {event : Event} (own : event.ofPre = true) : event ∈ after.trace ↔ event ∈ before.trace := by
  obtain ⟨added, trace, foreign, -⟩ := rely.grown
  rw [trace, List.mem_append]
  refine or_iff_right fun member => ?_
  have other := foreign rfl event member
  rw [own] at other
  cases other

/-- The hook has not created its marker yet. -/
structure Fresh (world : World) : Prop where
  holds : Handshaking world
  uncreated : .markerCreated ∉ world.trace
  unreturned : .returned .pause ∉ world.trace
  admitted : .sleepHook .pre ∉ world.turnedAway
  unheld : world.holder ≠ some (.sleepHook .pre)

theorem Fresh.stable ⦃world later : World⦄
    (rely : (handshakeDiscipline (.sleepHook .pre)).rely world later) (fresh : Fresh world) :
    Fresh later where
  holds := rely.kept fresh.holds
  uncreated := (ofPre_mem rely rfl).not.mpr fresh.uncreated
  unreturned := (ofPre_mem rely rfl).not.mpr fresh.unreturned
  admitted := rely.turnedAway.not.mpr fresh.admitted
  unheld := rely.holder.not.mpr fresh.unheld

/-- The marker was created, and the hook has not had the lock yet. -/
structure Announced (world : World) : Prop where
  holds : Handshaking world
  created : .markerCreated ∈ world.trace
  unreturned : .returned .pause ∉ world.trace
  admitted : .sleepHook .pre ∉ world.turnedAway
  unheld : world.holder ≠ some (.sleepHook .pre)

theorem Announced.stable ⦃world later : World⦄
    (rely : (handshakeDiscipline (.sleepHook .pre)).rely world later)
    (announced : Announced world) : Announced later where
  holds := rely.kept announced.holds
  created := (ofPre_mem rely rfl).mpr announced.created
  unreturned := (ofPre_mem rely rfl).not.mpr announced.unreturned
  admitted := rely.turnedAway.not.mpr announced.admitted
  unheld := rely.holder.not.mpr announced.unheld

/-- What the hook knows under the lock until its pause returns. -/
structure Quiescing (known : State → Prop) (world : World) : Prop
    extends Holding (.sleepHook .pre) world where
  created : .markerCreated ∈ world.trace
  unreturned : .returned .pause ∉ world.trace
  ledger : known world.ledger

/-- A ledger on which no resume proceeds. -/
def State.unresumable (state : State) : Prop := state.paused = false ∨ state.inflight.isSome

/-- A ledger whose pre-sleep stop is under way. -/
def State.stopping (state : State) : Prop := state.paused = true ∧ state.inflight.isSome

variable {known : State → Prop}

theorem Quiescing.stable ⦃world later : World⦄
    (rely : (handshakeDiscipline (.sleepHook .pre)).rely world later)
    (quiescing : Quiescing known world) :
    Quiescing known later ∧ later.module = world.module := by
  obtain ⟨ledger, module⟩ := rely.locked quiescing.holder
  refine ⟨⟨quiescing.toHolding.stable rely, (ofPre_mem rely rfl).mpr quiescing.created,
    (ofPre_mem rely rfl).not.mpr quiescing.unreturned, ?_⟩, module⟩
  rw [ledger]
  exact quiescing.ledger

theorem Quiescing.mono {wider : State → Prop} (quiescing : Quiescing known world)
    (widen : known world.ledger → wider world.ledger) : Quiescing wider world :=
  ⟨quiescing.toHolding, quiescing.created, quiescing.unreturned, widen quiescing.ledger⟩

/-- What the hook leaves when it releases the lock. -/
structure Paused (world : World) : Prop extends Holding (.sleepHook .pre) world where
  unresumable : .returned .pause ∉ world.trace → world.ledger.unresumable

theorem Paused.stable ⦃world later : World⦄
    (rely : (handshakeDiscipline (.sleepHook .pre)).rely world later) (paused : Paused world) :
    Paused later := by
  refine ⟨paused.toHolding.stable rely, fun absent => ?_⟩
  rw [(rely.locked paused.holder).1]
  exact paused.unresumable ((ofPre_mem rely rfl).not.mp absent)

theorem Quiescing.paused (quiescing : Quiescing State.unresumable world) : Paused world :=
  ⟨quiescing.toHolding, fun _ => quiescing.ledger⟩

/-- A pause that has done its work: the module is gone and the ledger paused. -/
structure Quiesced (world : World) : Prop extends Quiescing (·.paused = true) world where
  removed : world.module = false

theorem Quiesced.stable ⦃world later : World⦄
    (rely : (handshakeDiscipline (.sleepHook .pre)).rely world later) (quiesced : Quiesced world) :
    Quiesced later := by
  obtain ⟨quiescing, same⟩ := quiesced.toQuiescing.stable rely
  exact ⟨quiescing, same.trans quiesced.removed⟩

theorem Quiescing.failed (stopping : Quiescing State.stopping world) :
    Quiescing State.unresumable world :=
  stopping.mono fun known => .inr known.2

/-- What the idle pre-sleep hook promises: it has not run, or it has exited for good. -/
structure PreIdle (world : World) : Prop where
  holds : Handshaking world
  fresh : .exited .pre ∉ world.trace → Fresh world

theorem PreIdle.stable ⦃world later : World⦄
    (rely : (handshakeDiscipline (.sleepHook .pre)).rely world later) (idle : PreIdle world) :
    PreIdle later :=
  ⟨rely.kept idle.holds, fun absent => (idle.fresh ((ofPre_mem rely rfl).not.mp absent)).stable rely⟩

end PreSleep

/-! ### The post-sleep hook -/

section PostSleep

variable {world : World} {state : State}

/-- The post-sleep hook holds the lock, and a pause has returned. -/
structure Resuming (world : World) : Prop extends Holding (.sleepHook .post) world where
  returned : .returned .pause ∈ world.trace

theorem Resuming.stable ⦃world later : World⦄
    (rely : (handshakeDiscipline (.sleepHook .post)).rely world later)
    (resuming : Resuming world) : Resuming later := by
  obtain ⟨added, trace, -⟩ := rely.grown
  refine ⟨resuming.toHolding.stable rely, ?_⟩
  rw [trace]
  exact List.mem_append_right _ resuming.returned

/-- The marker is gone too. -/
structure Released (world : World) : Prop extends Resuming world where
  unquiesced : quiesced world.trace = false

theorem Released.stable ⦃world later : World⦄
    (rely : (handshakeDiscipline (.sleepHook .post)).rely world later)
    (released : Released world) : Released later := by
  refine ⟨released.toResuming.stable rely, ?_⟩
  obtain ⟨added, trace, -, outside⟩ := rely.grown
  rw [trace, quiesced_append (outside released.holder)]
  exact released.unquiesced

/-- After a pause has returned, removing the marker keeps the invariant. -/
theorem Resuming.removes (resuming : Resuming world) : Released world.removeMarker ∧
    (handshakeDiscipline (.sleepHook .post)).guar world world.removeMarker := by
  have returned : .returned .pause ∈ world.removeMarker.trace :=
    List.mem_cons_of_mem _ resuming.returned
  have kept : Handshaking world.removeMarker := {
    marker := rfl
    desired := resuming.holds.desired
    sound := ⟨trivial, resuming.holds.sound⟩
    once := by
      show List.countP _ (_ :: world.trace) ≤ 1
      rw [List.countP_cons_of_neg]
      · exact resuming.holds.once
      · decide
    quiet := fun quiesces => nomatch quiesces
    early := fun absent => absurd returned absent
    unpaused := fun absent => absurd returned absent
    busy := fun away => absurd resuming.returned (resuming.holds.busy away).1 }
  refine ⟨⟨⟨⟨kept, resuming.holder⟩, returned⟩, rfl⟩,
    guar_of_holder resuming.holder resuming.holder (fun _ => kept) rfl [_] rfl ?_⟩
  intro _ event member
  rw [List.mem_singleton.mp member]
  rfl

end PostSleep

/-! ### The handshake -/

section Handshakes

/-- A marker that is down stays down until one is created. -/
theorem markerUp_down {newer older : List Event} (uncreated : .markerCreated ∉ newer)
    (down : markerUp older = false) : markerUp (newer ++ older) = false := by
  induction newer with
  | nil => exact down
  | cons event rest inductionHypothesis =>
    have before := inductionHypothesis fun member => uncreated (List.mem_cons_of_mem _ member)
    cases event with
    | markerCreated => exact absurd List.mem_cons_self uncreated
    | markerRemoved => rfl
    | _ => exact before

/-- In the tick that runs at the end of `older`, `snapshot` was the first snapshot, and it was
taken after everything in `earlier`. -/
structure FirstSnapshot (older : List Event) (snapshot : Event) (earlier : List Event) : Prop where
  taken : snapshot.sight.isSome
  since : ∃ recent, older = recent ++ snapshot :: earlier ∧ .entered .tick ∉ recent
  first : ∃ before rest, earlier = before ++ .entered .tick :: rest ∧
    ∀ event ∈ before, event.sight = none

theorem firstSeen_of_firstSnapshot {older earlier : List Event} {snapshot : Event}
    (first : FirstSnapshot older snapshot earlier) : firstSeen older = snapshot.sight := by
  obtain ⟨taken, ⟨recent, rfl, same⟩, before, rest, rfl, unseen⟩ := first
  have none : firstSeen (before ++ .entered .tick :: rest) = none := by
    induction before with
    | nil => rfl
    | cons event others inductionHypothesis =>
      by_cases entered : event = .entered .tick
      · rw [entered]
        rfl
      · rw [List.cons_append, firstSeen_cons _ entered, unseen event List.mem_cons_self,
          Option.or_none]
        exact inductionHypothesis fun other member => unseen other (List.mem_cons_of_mem _ member)
  have other : snapshot ≠ .entered .tick := by
    rintro rfl
    cases taken
  obtain ⟨seen, sight⟩ := Option.isSome_iff_exists.mp taken
  rw [sight]
  refine firstSeen_append (fun event member entered => same (entered ▸ member)) ?_
  rw [firstSeen_cons _ other, none, Option.none_or, sight]

/-- A snapshot that told the marker's absence. -/
theorem sight_absent {event : Event} (sight : event.sight = some (some false)) :
    event = .observed (some false) := by
  cases event with
  | observed inhibited => rw [Option.some.inj sight]
  | unobserved error => cases sight
  | _ => cases sight

theorem Handshaking.clear {world : World} (holds : Handshaking world) {newer older : List Event}
    {path devicePath : String} {arguments : List String}
    (same : world.trace = newer ++ .command (.insmod path devicePath arguments) :: older) :
    ClearToInsert older :=
  holds.sound.split same

/-- At an insertion whose tick looked first after the marker was created, the marker is gone. -/
theorem Handshaking.marked {world : World} (holds : Handshaking world)
    {newer older earlier : List Event} {path devicePath : String} {arguments : List String}
    {snapshot : Event}
    (same : world.trace = newer ++ .command (.insmod path devicePath arguments) :: older)
    (first : FirstSnapshot older snapshot earlier) (created : .markerCreated ∈ earlier) :
    markerUp older = false := by
  have sight : snapshot.sight = some (some false) :=
    (firstSeen_of_firstSnapshot first).symm.trans (holds.clear same).2.1
  obtain ⟨recent, rfl, -⟩ := first.since
  rw [sight_absent sight] at same ⊢
  have split : world.trace = (newer ++ .command (.insmod path devicePath arguments) :: recent) ++
      .observed (some false) :: earlier := by
    rw [same, List.append_assoc, List.cons_append]
  have down : false = markerUp earlier := holds.sound.split split
  have uncreated : .markerCreated ∉ recent := by
    intro member
    have once := holds.once
    rw [split, List.countP_append, List.countP_append, List.countP_cons, List.countP_cons] at once
    have before : 0 < earlier.countP (· = .markerCreated) :=
      List.countP_pos_iff.mpr ⟨_, created, decide_eq_true rfl⟩
    have again : 0 < recent.countP (· = .markerCreated) :=
      List.countP_pos_iff.mpr ⟨_, member, decide_eq_true rfl⟩
    omega
  exact markerUp_down uncreated down.symm

end Handshakes

end Trigger6.Controller
