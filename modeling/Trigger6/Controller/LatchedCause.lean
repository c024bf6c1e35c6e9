/-
This file proves when a tick keeps the cause it finds latched. The policy never
replaces a latched cause, with or without an inflight marker. The branch of
`tick` that catches a failed snapshot does replace it, with the text of the
failure.
-/

import Trigger6.Controller.Runs

namespace Trigger6.Controller

open Interaction

/-! ### The policy -/

/-- On a latched circuit the policy waits and keeps the cause. -/
theorem decide_latched {state : State} (latched : truthy state.circuit = true)
    (observation : Observation) (now : ℚ) :
    (decide state observation now).2 = .wait ∧
      (decide state observation now).1.circuit = state.circuit := by
  obtain ⟨cause, held⟩ : ∃ cause, state.circuit = some cause := by
    cases held : state.circuit with
    | none => rw [held] at latched; cases latched
    | some cause => exact ⟨cause, rfl⟩
  unfold decide
  by_cases marked : state.inflight.isSome = true
  · rw [if_pos marked]
    refine ⟨rfl, ?_⟩
    show some (unfinishedReason state) = _
    rw [unfinishedReason, if_pos latched, held]
    rfl
  · rw [if_neg marked, if_pos latched]
    exact ⟨rfl, rfl⟩

/-! ### A tick -/

/-- The tick that ends in `after` with `result` kept the cause latched in `before`, in the state
it persisted and in the one it returned, and issued no command. -/
structure CauseKept (before : World) (result : Except PyError State) (after : World) : Prop where
  persisted : after.ledger.circuit = before.ledger.circuit
  returned : ∀ state, result = .ok state → state.circuit = before.ledger.circuit
  commands : ∀ command, .command command ∈ after.trace → .command command ∈ before.trace

/-- The snapshot of a tick raises an error that `tick` catches with a text other than `circuit`,
and the ledger write that follows succeeds. Input 0 of a tick is read at its entry, input 1 by
its snapshot and input 2 by that write. -/
def SnapshotOverwrites (circuit : Option String) (script : Nat → Env) : Prop :=
  ∃ error text, (script 1).raises = some error ∧ error.caught = some text ∧
    some text ≠ circuit ∧ (script 2).raises = none

section Tick

variable {truthful : Bool} {self : Process} {polls : Nat} {entry : Entry} {world : World}
  {script : Nat → Env}

/-- A tick on a latched circuit whose snapshot succeeds writes the policy's answer and returns it,
or raises what the write raised. -/
theorem tick_observed (latched : truthy world.ledger.circuit = true)
    (seen : (script 1).raises = none) :
    ∃ result after,
      (tick polls entry world.ledger).run.eval (hostExec truthful self) world script =
        some (result, after) ∧ CauseKept world result after := by
  have waits := decide_latched latched
    ((world.record (.entered .tick)).observe truthful (script 1))
  cases wrote : (script 3).raises with
  | none =>
    simp [tick, traced, tickObserve, tickObserved, tickDecided, caughtBy, storeWrite, persist,
      note, snapshot, now, raising, calling, steadily, hostExec, Env.attempt, waits, seen, wrote,
      Program.eval, Program.bind, Program.perform, ExceptT.run, ExceptT.mk, ExceptT.lift,
      ExceptT.bind, ExceptT.bindCont, ExceptT.pure, ExceptT.map, ExceptT.tryCatch, tryCatch,
      tryCatchThe, MonadExceptOf.tryCatch, throw, throwThe, MonadExceptOf.throw, Bind.bind,
      Pure.pure, Functor.map, Function.comp]
    refine ⟨(waits _).2, ?_, by simp [World.record, World.write]⟩
    intro state same
    rw [← Except.ok.inj same]
    exact (waits _).2
  | some refused =>
    simp [tick, traced, tickObserve, tickObserved, tickDecided, caughtBy, storeWrite, persist,
      note, snapshot, now, raising, calling, steadily, hostExec, Env.attempt, waits, seen, wrote,
      Program.eval, Program.bind, Program.perform, ExceptT.run, ExceptT.mk, ExceptT.lift,
      ExceptT.bind, ExceptT.bindCont, ExceptT.pure, ExceptT.map, ExceptT.tryCatch, tryCatch,
      tryCatchThe, MonadExceptOf.tryCatch, throw, throwThe, MonadExceptOf.throw, Bind.bind,
      Pure.pure, Functor.map, Function.comp]
    exact ⟨rfl, (fun _ same => by cases same), by simp [World.record]⟩

/-- A tick whose snapshot raises what it does not catch raises it. -/
theorem tick_raised {error : PyError} (unseen : (script 1).raises = some error)
    (uncaught : error.caught = none) :
    ∃ result after,
      (tick polls entry world.ledger).run.eval (hostExec truthful self) world script =
        some (result, after) ∧ CauseKept world result after := by
  simp [tick, traced, tickObserve, tickObserved, tickDecided, caughtBy, storeWrite, persist,
    note, snapshot, now, raising, calling, steadily, hostExec, Env.attempt, unseen, uncaught,
    Program.eval, Program.bind, Program.perform, ExceptT.run, ExceptT.mk, ExceptT.lift,
    ExceptT.bind, ExceptT.bindCont, ExceptT.pure, ExceptT.map, ExceptT.tryCatch, tryCatch,
    tryCatchThe, MonadExceptOf.tryCatch, throw, throwThe, MonadExceptOf.throw, Bind.bind,
    Pure.pure, Functor.map, Function.comp]
  exact ⟨rfl, (fun _ same => by cases same), by simp [World.record]⟩

/-- A tick whose snapshot raises what it catches latches that text, unless the write raises. -/
theorem tick_unobserved {error : PyError} {text : String}
    (unseen : (script 1).raises = some error) (caught : error.caught = some text) :
    ∃ result after,
      (tick polls entry world.ledger).run.eval (hostExec truthful self) world script =
        some (result, after) ∧
      (CauseKept world result after ↔
        ((script 2).raises = none → some text = world.ledger.circuit)) := by
  cases wrote : (script 2).raises with
  | none =>
    simp [tick, traced, tickObserve, tickObserved, tickDecided, caughtBy, storeWrite, persist,
      note, snapshot, now, raising, calling, steadily, hostExec, Env.attempt, unseen, caught, wrote,
      Program.eval, Program.bind, Program.perform, ExceptT.run, ExceptT.mk, ExceptT.lift,
      ExceptT.bind, ExceptT.bindCont, ExceptT.pure, ExceptT.map, ExceptT.tryCatch, tryCatch,
      tryCatchThe, MonadExceptOf.tryCatch, throw, throwThe, MonadExceptOf.throw, Bind.bind,
      Pure.pure, Functor.map, Function.comp]
    constructor
    · intro kept
      exact kept.persisted
    · intro same
      refine ⟨same, ?_, by simp [World.record, World.write]⟩
      intro state returned
      rw [← Except.ok.inj returned]
      exact same
  | some refused =>
    simp [tick, traced, tickObserve, tickObserved, tickDecided, caughtBy, storeWrite, persist,
      note, snapshot, now, raising, calling, steadily, hostExec, Env.attempt, unseen, caught, wrote,
      Program.eval, Program.bind, Program.perform, ExceptT.run, ExceptT.mk, ExceptT.lift,
      ExceptT.bind, ExceptT.bindCont, ExceptT.pure, ExceptT.map, ExceptT.tryCatch, tryCatch,
      tryCatchThe, MonadExceptOf.tryCatch, throw, throwThe, MonadExceptOf.throw, Bind.bind,
      Pure.pure, Functor.map, Function.comp]
    exact ⟨rfl, (fun _ same => by cases same), by simp [World.record]⟩

end Tick

/-- A tick on a latched circuit comes to its end, and keeps the cause and issues no command
exactly when its snapshot does not overwrite it. -/
theorem latched_cause_kept {world : World} (latched : truthy world.ledger.circuit = true)
    (truthful : Bool) (self : Process) (polls : Nat) (entry : Entry) (script : Nat → Env) :
    ∃ result after,
      (tick polls entry world.ledger).run.eval (hostExec truthful self) world script =
        some (result, after) ∧
      (CauseKept world result after ↔ ¬ SnapshotOverwrites world.ledger.circuit script) := by
  cases raises : (script 1).raises with
  | none =>
    obtain ⟨result, after, ran, kept⟩ := tick_observed latched raises
    refine ⟨result, after, ran, iff_of_true kept ?_⟩
    rintro ⟨error, text, raised, -⟩
    rw [raises] at raised
    cases raised
  | some error =>
    cases caught : error.caught with
    | none =>
      obtain ⟨result, after, ran, kept⟩ := tick_raised raises caught
      refine ⟨result, after, ran, iff_of_true kept ?_⟩
      rintro ⟨other, text, raised, texted, -⟩
      rw [raises] at raised
      rw [← Option.some.inj raised, caught] at texted
      cases texted
    | some text =>
      obtain ⟨result, after, ran, kept⟩ := tick_unobserved raises caught
      refine ⟨result, after, ran, kept.trans ⟨?_, ?_⟩⟩
      · rintro same ⟨other, otherText, raised, texted, differs, wrote⟩
        rw [raises] at raised
        rw [← Option.some.inj raised, caught] at texted
        exact differs (texted ▸ same wrote)
      · intro kept wrote
        by_contra differs
        exact kept ⟨error, text, raises, caught, differs, wrote⟩

/-- A paused ledger whose stop failed on a held module. -/
def stopFailedWorld : World :=
  .begin { freshState (some "0b5f3b1e-54f1-4f0b-9a47-3c1df6b9c1de") with
    desired := true
    paused := true
    circuit := some "pause failed: module acquired a new reference after settle; no removal" }
    false true 0 0

/-- A host on which two devices match. -/
def ambiguousScript (index : Nat) : Env :=
  if index = 1 then
    { sampleEnv true "0" with
      raises := some (.refusal "multiple exact devices: automatic selection refused") }
  else
    sampleEnv true "0"

/-- The cause of a failed stop is replaced by the refusal of the next snapshot. -/
theorem stopFailed_overwritten :
    truthy stopFailedWorld.ledger.circuit = true ∧
      ∃ result after,
        (tick 2 sampleEntry stopFailedWorld.ledger).run.eval (hostExec true .watcher)
          stopFailedWorld ambiguousScript = some (result, after) ∧
        ¬ CauseKept stopFailedWorld result after := by
  refine ⟨rfl, _, _, rfl, fun kept => ?_⟩
  exact absurd kept.persisted (by decide)

/-- A healthy snapshot keeps it. -/
theorem stopFailed_kept :
    ∃ result after,
      (tick 2 sampleEntry stopFailedWorld.ledger).run.eval (hostExec true .watcher)
        stopFailedWorld (fun _ => sampleEnv true "0") = some (result, after) ∧
      CauseKept stopFailedWorld result after := by
  obtain ⟨result, after, ran, kept⟩ :=
    latched_cause_kept (show truthy stopFailedWorld.ledger.circuit = true from rfl) true .watcher 2
      sampleEntry
      fun _ => sampleEnv true "0"
  refine ⟨result, after, ran, kept.mpr ?_⟩
  rintro ⟨error, text, raised, -⟩
  cases raised

end Trigger6.Controller
