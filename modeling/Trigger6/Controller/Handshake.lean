/-
This file models the sleep handshake: the watcher's loop, the pre-sleep hook and
the post-sleep hook as the threads of one pool, where observations report the
sleep marker and the module's residence as they are. It states the invariant
the handshake rests on, and what each thread may rely on while it does or does
not hold the ledger lock.

The order of things is read off the trace: what the newest snapshot and the
first snapshot of the running tick saw, whether the marker is up, and whether a
pause has returned that no resume has undone.
-/

import Trigger6.Controller.Runs
import Trigger6.Lib.Pool
import Trigger6.Lib.Trace

namespace Trigger6.Controller

open Interaction Trace

/-! ### The three processes -/

/-- What varies from one process to the next. -/
structure Job where
  polls : Nat
  entry : Entry

/-- Whether the sleep marker is up. -/
def markerUp : List Event → Bool
  | [] => false
  | .markerCreated :: _ => true
  | .markerRemoved :: _ => false
  | _ :: older => markerUp older

/-- What a snapshot saw of the marker; `none` when it could not tell. -/
def Event.sight : Event → Option (Option Bool)
  | .observed inhibited => some inhibited
  | .unobserved _ => some none
  | _ => none

/-- What the newest snapshot saw. -/
def lastSeen : List Event → Option (Option Bool)
  | [] => none
  | event :: older => event.sight.or (lastSeen older)

/-- What the first snapshot since the newest entry of a tick saw. -/
def firstSeen : List Event → Option (Option Bool)
  | [] => none
  | .entered .tick :: _ => none
  | event :: older => (firstSeen older).or event.sight

/-- A pause has returned and no marker was removed since. -/
def quiesced : List Event → Bool
  | [] => false
  | .returned .pause :: _ => true
  | .markerRemoved :: _ => false
  | _ :: older => quiesced older

/-- The events other processes may trace while the lock is held. -/
def Event.outside : Event → Bool
  | .markerCreated | .exited _ => true
  | _ => false

/-- The events only the pre-sleep hook traces. -/
def Event.ofPre : Event → Bool
  | .markerCreated | .exited .pre | .returned .pause => true
  | _ => false

/-- Both snapshots an insertion rests on saw no marker, and no quiesce is in force. -/
def ClearToInsert (older : List Event) : Prop :=
  lastSeen older = some (some false) ∧ firstSeen older = some (some false) ∧
    quiesced older = false

theorem firstSeen_cons {event : Event} (older : List Event) (other : event ≠ .entered .tick) :
    firstSeen (event :: older) = (firstSeen older).or event.sight := by
  cases event with
  | entered method =>
    cases method with
    | tick => exact absurd rfl other
    | _ => rfl
  | _ => rfl

/-- Other processes' events are no snapshots, and enter no tick. -/
theorem outside_unseen {event : Event} (outside : event.outside = true) :
    event.sight = none ∧ event ≠ .entered .tick := by
  cases event with
  | markerCreated | exited => exact ⟨rfl, fun same => nomatch same⟩
  | _ => cases outside

theorem firstSeen_outside {added older : List Event}
    (outside : ∀ event ∈ added, event.outside = true) :
    firstSeen (added ++ older) = firstSeen older := by
  induction added with
  | nil => rfl
  | cons event rest inductionHypothesis =>
    obtain ⟨unseen, other⟩ := outside_unseen (outside event List.mem_cons_self)
    rw [List.cons_append, firstSeen_cons _ other, unseen, Option.or_none]
    exact inductionHypothesis fun other member => outside other (List.mem_cons_of_mem _ member)

/-- What the first snapshot of a tick saw stays so until the next tick. -/
theorem firstSeen_append {added older : List Event} {seen : Option Bool}
    (same : ∀ event ∈ added, event ≠ .entered .tick) (first : firstSeen older = some seen) :
    firstSeen (added ++ older) = some seen := by
  induction added with
  | nil => exact first
  | cons event rest inductionHypothesis =>
    have before := inductionHypothesis fun other member => same other (List.mem_cons_of_mem _ member)
    rw [List.cons_append, firstSeen_cons _ (same event List.mem_cons_self), before, Option.some_or]

theorem quiesced_append {added older : List Event} (outside : ∀ event ∈ added, event.outside = true) :
    quiesced (added ++ older) = quiesced older := by
  induction added with
  | nil => rfl
  | cons event rest inductionHypothesis =>
    have before := inductionHypothesis fun other member => outside other (List.mem_cons_of_mem _ member)
    have first := outside event List.mem_cons_self
    cases event with
    | markerCreated | exited => exact before
    | _ => cases first

/-! ### The invariant -/

/-- What holds at each event: a snapshot that could tell saw the marker as it was, and an
insertion was clear. -/
def Event.sound (event : Event) (older : List Event) : Prop :=
  match event with
  | .observed (some inhibited) => inhibited = markerUp older
  | .command (.insmod _ _ _) => ClearToInsert older
  | _ => True

/-- What the handshake rests on. -/
structure Handshaking (world : World) : Prop where
  marker : world.marker = markerUp world.trace
  desired : world.ledger.desired = true
  sound : AtEach Event.sound world.trace
  once : world.trace.countP (· = .markerCreated) ≤ 1
  quiet : quiesced world.trace = true →
    world.module = false ∧ world.ledger.paused = true ∧ world.marker = true
  early : .returned .pause ∉ world.trace →
    .markerRemoved ∉ world.trace ∧ .returned .resume ∉ world.trace
  unpaused : .returned .pause ∉ world.trace → world.holder ≠ some (.sleepHook .pre) →
    world.ledger.paused = false ∨ world.ledger.inflight.isSome
  busy : .sleepHook .pre ∈ world.turnedAway →
    .returned .pause ∉ world.trace ∧ .markerCreated ∈ world.trace ∧
      world.holder ≠ some (.sleepHook .pre)

/-- Everything the handshake starts from. -/
theorem Handshaking.begin {ledger : State} (desired : ledger.desired = true)
    (unpaused : ledger.paused = false) (module : Bool) (clock steady : ℚ) :
    Handshaking (.begin ledger false module clock steady) where
  marker := rfl
  desired := desired
  sound := trivial
  once := Nat.zero_le _
  quiet := fun quiet => nomatch quiet
  early := fun _ => ⟨fun member => (nomatch member), fun member => (nomatch member)⟩
  unpaused := fun _ _ => .inl unpaused
  busy := fun member => nomatch member

/-- The invariant does not depend on the clocks. -/
theorem Handshaking.congr {before after : World} (holds : Handshaking before)
    (ledger : after.ledger = before.ledger) (marker : after.marker = before.marker)
    (module : after.module = before.module) (holder : after.holder = before.holder)
    (turnedAway : after.turnedAway = before.turnedAway) (trace : after.trace = before.trace) :
    Handshaking after where
  marker := by rw [marker, trace, holds.marker]
  desired := by rw [ledger, holds.desired]
  sound := by rw [trace]; exact holds.sound
  once := by rw [trace]; exact holds.once
  quiet := by rw [trace, module, ledger, marker]; exact holds.quiet
  early := by rw [trace]; exact holds.early
  unpaused := by rw [trace, holder, ledger]; exact holds.unpaused
  busy := by rw [turnedAway, trace, holder]; exact holds.busy

/-- The events that change none of what the invariant reads off the trace. -/
def Event.neutral : Event → Bool
  | .markerCreated | .markerRemoved | .returned .pause | .returned .resume => false
  | _ => true

theorem neutral_reads {event : Event} (older : List Event) (neutral : event.neutral = true) :
    markerUp (event :: older) = markerUp older ∧ quiesced (event :: older) = quiesced older := by
  cases event with
  | markerCreated | markerRemoved => cases neutral
  | returned method =>
    cases method with
    | pause | resume => cases neutral
    | _ => exact ⟨rfl, rfl⟩
  | _ => exact ⟨rfl, rfl⟩

/-- A neutral event keeps the invariant if it is sound, whatever else changed with it. -/
theorem Handshaking.neutral {before after : World} {event : Event} (holds : Handshaking before)
    (neutral : event.neutral = true) (sound : event.sound before.trace)
    (trace : after.trace = event :: before.trace) (marker : after.marker = before.marker)
    (holder : after.holder = before.holder) (turnedAway : after.turnedAway = before.turnedAway)
    (desired : after.ledger.desired = true)
    (quiet : quiesced before.trace = true → after.module = false ∧ after.ledger.paused = true)
    (unpaused : .returned .pause ∉ before.trace → before.holder ≠ some (.sleepHook .pre) →
      after.ledger.paused = false ∨ after.ledger.inflight.isSome) : Handshaking after := by
  have other : ∀ {target : Event}, target.neutral = false → (target ∉ event :: before.trace ↔
      target ∉ before.trace) := by
    intro target unneutral
    rw [List.mem_cons, not_or]
    refine and_iff_right fun same => ?_
    rw [same, neutral] at unneutral
    cases unneutral
  have reads := neutral_reads before.trace neutral
  refine ⟨?_, desired, ?_, ?_, ?_, ?_, ?_, ?_⟩
  · rw [marker, trace, reads.1, holds.marker]
  · rw [trace]
    exact ⟨sound, holds.sound⟩
  · rw [trace, List.countP_cons_of_neg]
    · exact holds.once
    · rw [decide_eq_true_eq]
      rintro rfl
      cases neutral
  · rw [trace, reads.2]
    intro quiesces
    obtain ⟨gone, paused⟩ := quiet quiesces
    exact ⟨gone, paused, marker.trans (holds.quiet quiesces).2.2⟩
  · rw [trace, other rfl, other rfl, other rfl]
    exact holds.early
  · rw [trace, other rfl, holder]
    exact unpaused
  · rw [turnedAway, trace, other rfl, holder]
    intro away
    obtain ⟨unreturned, created, free⟩ := holds.busy away
    exact ⟨unreturned, List.mem_cons_of_mem _ created, free⟩

/-! ### What a process may rely on -/

/-- What the other processes may do between two calls of a process: keep the invariant, trace no
events of its own, and, while it holds the lock, leave the ledger and the module alone and trace
outside events only. -/
structure Rely (process : Process) (before after : World) : Prop where
  kept : Handshaking before → Handshaking after
  holder : after.holder = some process ↔ before.holder = some process
  turnedAway : process ∈ after.turnedAway ↔ process ∈ before.turnedAway
  grown : ∃ added, after.trace = added ++ before.trace ∧
    (process = .sleepHook .pre → ∀ event ∈ added, event.ofPre = false) ∧
    (before.holder = some process → ∀ event ∈ added, event.outside = true)
  locked : before.holder = some process →
    after.ledger = before.ledger ∧ after.module = before.module

theorem Rely.refl (process : Process) (world : World) : Rely process world world :=
  ⟨fun holds => holds, Iff.rfl, Iff.rfl,
    ⟨[], rfl, fun _ _ member => (nomatch member), fun _ _ member => (nomatch member)⟩,
    fun _ => ⟨rfl, rfl⟩⟩

theorem Rely.trans {process : Process} {first second third : World} (left : Rely process first second)
    (right : Rely process second third) : Rely process first third := by
  obtain ⟨earlier, earlierTrace, earlierForeign, earlierOutside⟩ := left.grown
  obtain ⟨later, laterTrace, laterForeign, laterOutside⟩ := right.grown
  refine ⟨fun holds => right.kept (left.kept holds), right.holder.trans left.holder,
    right.turnedAway.trans left.turnedAway, ⟨later ++ earlier, ?_, ?_, ?_⟩, fun held => ?_⟩
  · rw [laterTrace, earlierTrace, List.append_assoc]
  · intro pre event member
    rcases List.mem_append.mp member with inLater | inEarlier
    · exact laterForeign pre event inLater
    · exact earlierForeign pre event inEarlier
  · intro held event member
    rcases List.mem_append.mp member with inLater | inEarlier
    · exact laterOutside (left.holder.mpr held) event inLater
    · exact earlierOutside held event inEarlier
  · obtain ⟨ledger, module⟩ := left.locked held
    obtain ⟨laterLedger, laterModule⟩ := right.locked (left.holder.mpr held)
    exact ⟨laterLedger.trans ledger, laterModule.trans module⟩

/-- A process guarantees what every other one relies on. -/
def handshakeDiscipline (process : Process) : Discipline hostInterface World Env where
  exec := hostExec true process
  rely := Rely process
  guar := fun before after => (Handshaking before → Handshaking after) ∧
    ∀ other, other ≠ process → Rely other before after
  rely_refl := Rely.refl process
  rely_trans := Rely.trans

/-- A step of the lock's holder that keeps the invariant and traces only events it may. -/
theorem guar_of_holder {process : Process} {before after : World}
    (held : before.holder = some process) (holds : after.holder = some process)
    (kept : Handshaking before → Handshaking after)
    (turnedAway : after.turnedAway = before.turnedAway) (added : List Event)
    (trace : after.trace = added ++ before.trace)
    (own : process ≠ .sleepHook .pre → ∀ event ∈ added, event.ofPre = false) :
    (handshakeDiscipline process).guar before after := by
  refine ⟨kept, fun other different => ?_⟩
  have free : ∀ {world : World}, world.holder = some process → world.holder ≠ some other :=
    fun same equal => different (Option.some.inj (equal.symm.trans same))
  refine ⟨kept, ?_, by rw [turnedAway], ⟨added, trace, ?_, ?_⟩, ?_⟩
  · exact ⟨fun equal => absurd equal (free holds), fun equal => absurd equal (free held)⟩
  · rintro rfl
    exact own (Ne.symm different)
  · exact fun equal => absurd equal (free held)
  · exact fun equal => absurd equal (free held)

/-- The marks of methods. -/
def Event.isMark : Event → Bool
  | .entered _ | .returned _ | .raised _ => true
  | _ => false

/-- What a write under the lock must keep of the ledger. -/
structure WriteKeeps (process : Process) (world : World) (state : State) : Prop where
  desired : state.desired = true
  quiet : quiesced world.trace = true → state.paused = true
  unpaused : process ≠ .sleepHook .pre → .returned .pause ∉ world.trace →
    state.paused = false ∨ state.inflight.isSome

/-- The calls that keep the invariant when made under the lock. -/
def HostOp.Permitted (process : Process) (world : World) : HostOp → Prop
  | .storeWrite state => WriteKeeps process world state
  | .note event => event.neutral = true ∧ event.isMark = true
  | .runCommand (.insmod _ _ _) _ => ClearToInsert world.trace
  | .inhibitUnlink | .inhibitCreate | .lock | .unlock => False
  | _ => True

/-- What such a call leaves: the invariant, the lock, and what the others rely on. -/
structure Held (process : Process) (before after : World) : Prop where
  holds : Handshaking after
  holder : after.holder = some process
  guar : (handshakeDiscipline process).guar before after

end Trigger6.Controller
