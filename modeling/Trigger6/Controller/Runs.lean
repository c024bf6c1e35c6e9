/-
This file runs the controller. An invocation is one process that runs one task
and may be killed between any two of its calls; a history is a list of
invocations, one after the other, as the ledger lock serialises them. A killed
process drops the lock and leaves the ledger of its last write.

The rules of this file reduce an invariant of a whole history to what one task
does under the lock.
-/

import Trigger6.Controller.Rules

namespace Trigger6.Controller

open Interaction

/-! ### Invocations and histories -/

/-- The process that runs a task. -/
def Task.process : Task → Process
  | .tick => .watcher
  | .operate .pause => .sleepHook .pre
  | .operate .resume => .sleepHook .post
  | .operate _ => .operator

/-- One process running an allowed task. Its inputs may end before the task does: it is then
killed there. -/
structure Invocation (allowed : Task → Prop) where
  task : Task
  permitted : allowed task
  entry : Entry
  polls : Nat
  inputs : List Env

/-- The world an invocation leaves; the lock goes with its process. -/
def Invocation.run {allowed : Task → Prop} (invocation : Invocation allowed) (world : World) :
    World :=
  { ((mainCommand invocation.polls invocation.entry invocation.task).run.killed
      (hostExec false invocation.task.process) world invocation.inputs).1 with holder := none }

/-- The world a history of invocations leaves. -/
def runHistory {allowed : Task → Prop} (world : World) (history : List (Invocation allowed)) :
    World :=
  history.foldl (fun world invocation => invocation.run world) world

/-- A world in which nothing has been traced yet. -/
def World.begin (ledger : State) (marker module : Bool) (clock steady : ℚ) : World where
  ledger := ledger
  marker := marker
  module := module
  holder := none
  turnedAway := []
  clock := clock
  steady := steady
  trace := []

/-! ### From a task to a history -/

section Histories

variable {invariant : World → Prop} {world : World}

/-- A locked section keeps an invariant that ignores the lock if its body does. -/
theorem withLock_safe {self : Process} {Value : Type} {section_ : Host Value}
    (holds : ∀ {world} holder turnedAway, invariant world →
      invariant { world with holder := holder, turnedAway := turnedAway })
    (body : ∀ {world}, invariant world → (keeping false self invariant).Safe
      (fun _ after => invariant after) section_.run world)
    (start : invariant world) :
    (keeping false self invariant).Safe (fun _ after => invariant after)
      (withLock section_).run world := by
  have released : ∀ {world}, invariant world → (keeping false self invariant).Safe
      (fun _ after => invariant after) unlock.run world := by
    intro world kept
    refine Discipline.sequential_bind.mpr (Discipline.sequential_perform.mpr ?_)
    intro input answer after answered
    obtain ⟨rfl, rfl⟩ := Prod.mk.inj (Option.some.inj answered)
    exact ⟨holds none _ kept, Discipline.sequential_done.mpr (holds none _ kept)⟩
  have locking : (keeping false self invariant).Safe (fun _ after => invariant after)
      lock.run world := by
    refine Discipline.sequential_perform.mpr fun input answer after answered => ?_
    simp only [hostExec] at answered
    split at answered
    · obtain ⟨-, rfl⟩ := Prod.mk.inj (Option.some.inj answered)
      exact ⟨holds _ _ start, holds _ _ start⟩
    · obtain ⟨-, rfl⟩ := Prod.mk.inj (Option.some.inj answered)
      cases input.raises with
      | none => exact ⟨holds _ _ start, holds _ _ start⟩
      | some error => exact ⟨start, start⟩
  refine Discipline.sequential_tryBind.mpr (locking.mono fun result after kept => ?_)
  cases result with
  | error error => exact kept
  | ok _ =>
    refine Discipline.sequential_tryBind.mpr (Discipline.sequential_tryCatch.mpr ?_)
    refine (body kept).mono fun result after kept => ?_
    cases result with
    | ok value =>
      refine Discipline.sequential_tryBind.mpr ((released kept).mono fun result after kept => ?_)
      cases result with
      | ok _ => exact Discipline.sequential_tryPure.mpr kept
      | error error => exact kept
    | error error =>
      refine Discipline.sequential_tryBind.mpr ((released kept).mono fun result after kept => ?_)
      cases result with
      | ok _ => exact Discipline.sequential_throw.mpr kept
      | error error => exact kept

/-- The locked section runs its task on the ledger it reads. -/
theorem lockedBody_safe {self : Process} {polls : Nat} {entry : Entry} {task : Task}
    (start : invariant world)
    (body : (keeping false self invariant).Safe (fun _ after => invariant after)
      (taskBody polls entry task world.ledger).run world) :
    (keeping false self invariant).Safe (fun _ after => invariant after)
      (lockedBody polls entry task).run world :=
  Discipline.sequential_tryBind.mpr (storeRead_safe start body fun _ => start)

/-- A command keeps an invariant that ignores the lock and, for `pause`, the new marker, if
its task keeps it on the ledger the locked section reads. -/
theorem mainCommand_safe {self : Process} {polls : Nat} {entry : Entry} {task : Task}
    (holds : ∀ {world} holder turnedAway, invariant world →
      invariant { world with holder := holder, turnedAway := turnedAway })
    (creates : task = .operate .pause → ∀ {world}, invariant world → invariant world.createMarker)
    (body : ∀ {world}, invariant world → (keeping false self invariant).Safe
      (fun _ after => invariant after) (taskBody polls entry task world.ledger).run world)
    (start : invariant world) :
    (keeping false self invariant).Safe (fun _ after => invariant after)
      (mainCommand polls entry task).run world := by
  have config : ∀ {world}, invariant world → (keeping false self invariant).Safe
      (fun _ after => invariant after) readConfig.run world := by
    intro world kept
    refine Discipline.sequential_perform.mpr fun input answer after answered => ?_
    obtain ⟨-, rfl⟩ := Prod.mk.inj (Option.some.inj answered)
    exact ⟨kept, kept⟩
  have before : (keeping false self invariant).Safe (fun _ after => invariant after)
      (beforeLock task).run world := by
    cases task with
    | tick => exact Discipline.sequential_tryPure.mpr start
    | operate operation =>
      cases operation with
      | pause =>
        refine Discipline.sequential_tryBind.mpr (Discipline.sequential_perform.mpr ?_)
        intro input answer after answered
        obtain ⟨rfl, rfl⟩ := Prod.mk.inj (Option.some.inj answered)
        unfold Env.attempt
        cases input.raises with
        | none => exact ⟨creates rfl start, config (creates rfl start)⟩
        | some error => exact ⟨start, start⟩
      | resume | stop | clearCircuit | start => exact config start
  refine Discipline.sequential_tryBind.mpr (before.mono fun result after kept => ?_)
  cases result with
  | error error => exact kept
  | ok _ =>
    exact withLock_safe holds (fun held => lockedBody_safe held (body held)) kept

/-- An invariant that ignores the lock and, for `pause`, the new marker is kept by an invocation,
killed wherever, if its task keeps it on the ledger it reads. -/
theorem run_keeps {allowed : Task → Prop} (invariant : World → Prop)
    (holds : ∀ {world} holder turnedAway, invariant world →
      invariant { world with holder := holder, turnedAway := turnedAway })
    (creates : allowed (.operate .pause) → ∀ {world}, invariant world →
      invariant world.createMarker)
    (body : ∀ task, allowed task → ∀ {world}, invariant world → ∀ polls entry,
      (keeping false task.process invariant).Safe (fun _ after => invariant after)
        (taskBody polls entry task world.ledger).run world)
    (invocation : Invocation allowed) ⦃world : World⦄ (start : invariant world) :
    invariant (invocation.run world) := by
  refine holds none _ (Discipline.Safe.killed_invariant (mainCommand_safe holds ?_ ?_ start)
    (fun kept _ => kept) start invocation.inputs)
  · intro paused
    exact creates (paused ▸ invocation.permitted)
  · intro world kept
    exact body invocation.task invocation.permitted kept _ _

/-- An invariant that invocations keep is kept by a history. -/
theorem runHistory_keeps {allowed : Task → Prop} (invariant : World → Prop)
    (each : ∀ (invocation : Invocation allowed) ⦃world⦄, invariant world →
      invariant (invocation.run world))
    (history : List (Invocation allowed)) (start : invariant world) :
    invariant (runHistory world history) := by
  induction history generalizing world with
  | nil => exact start
  | cons invocation rest inductionHypothesis =>
    exact inductionHypothesis (each invocation start)

end Histories

/-! ### A sample host -/

def sampleDevice : Device where
  path := "/sys/bus/usb/devices/1-1"
  interface := "1-1:1.0"
  devnum := 2
  idPath := "pci-0000:00:14.0-usb-0:1"
  driver := none
  generation := "1-1:2"

/-- The device is unbound and everything is ready; an owned module may be resident. -/
def sampleObservation (modulePresent : Bool) : Observation where
  device := some sampleDevice
  modulePresent := modulePresent
  ownedModule := modulePresent
  modulePath := none
  panelReady := true
  hyprlandPresent := true
  inhibited := some false
  fault := false
  drmPresent := false
  scanoutActive := false
  pending := none
  error := none

/-- The input of a call that succeeds on that host, with a text for the calls that read one. -/
def sampleEnv (modulePresent : Bool) (text : String) : Env where
  raises := none
  observation := sampleObservation modulePresent
  device := some sampleDevice
  identity := (modulePresent, modulePresent, none)
  text := some text
  present := modulePresent
  time := 1000

/-- The input of a call that times out on that host. -/
def sampleTimeout : Env :=
  { sampleEnv true "0" with raises := some (.osError "timed out") }

/-- Intent is on and the device has been stable since the boot. -/
def sampleLedger : State :=
  { freshState none with desired := true, candidate := some sampleDevice.generation }

def sampleEntry : Entry where
  path := "/lib/modules/trigger6.ko"
  sha256 := "sha256"
  srcversion := "srcversion"
  vermagic := "vermagic"

/-- One invocation on the sample host. -/
def sampleInvocation {allowed : Task → Prop} (task : Task) (permitted : allowed task)
    (inputs : List Env) : Invocation allowed where
  task := task
  permitted := permitted
  entry := sampleEntry
  polls := 2
  inputs := inputs

end Trigger6.Controller
