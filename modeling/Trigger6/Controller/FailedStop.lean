/-
This file is about the rule that a failed stop is never repeated automatically.
The code breaks it in two places: the cleanup of a failed start repeats a
removal that `start_module` had already tried and seen fail, and a pre-sleep
hook stops the module whatever a failed stop left in the ledger. In every
history in which neither place is reached after a failed stop, no `unbind` and
no `rmmod` follows a failed stop.
-/

import Trigger6.Controller.Runs
import Trigger6.Lib.Trace

namespace Trigger6.Controller

open Interaction Trace

/-! ### Failed stops in a trace -/

/-- A `stop_module` invocation that raised. -/
def Event.stopRaised : Event → Bool
  | .raised (.stopModule _) => true
  | _ => false

/-- An `unbind` or `rmmod` command. -/
def Event.removes : Event → Bool
  | .command issued => issued.removes
  | _ => false

/-- The stops made without asking whether an earlier stop failed: the cleanup of a failed
start, and the stop of a pre-sleep hook. -/
def Event.unaskedStop : Event → Bool
  | .entered (.stopModule .cleanup) | .entered (.stopModule .sleepStop) => true
  | _ => false

/-- Some stop has failed. -/
def StopFailed (trace : List Event) : Prop := ∃ event ∈ trace, event.stopRaised = true

theorem stopFailed_cons {event : Event} {older : List Event} :
    StopFailed (event :: older) ↔ event.stopRaised = true ∨ StopFailed older := by
  unfold StopFailed
  simp only [List.mem_cons, exists_eq_or_imp]

/-! ### The invariant -/

/-- No unasked stop came after a failed stop. -/
abbrev Asked (trace : List Event) : Prop := NeverAfter Event.stopRaised Event.unaskedStop trace

/-- If no unasked stop came after a failed stop, no stop has failed. -/
def Calm (world : World) : Prop := Asked world.trace → ¬ StopFailed world.trace

/-- If no unasked stop came after a failed stop, then no removal did, and a failed stop has left
the ledger marked. -/
def Heeded (world : World) : Prop :=
  Asked world.trace → NeverAfter Event.stopRaised Event.removes world.trace ∧
    (StopFailed world.trace → world.ledger.inflight.isSome)

theorem Calm.heeded {world : World} (calm : Calm world) : Heeded world := fun asked =>
  ⟨neverAfter_of_none (calm asked), fun failed => absurd failed (calm asked)⟩

/-- An event that is no failed stop keeps the calm, whatever else changes. -/
theorem Calm.cons {before after : World} {event : Event} (calm : Calm before)
    (trace : after.trace = event :: before.trace) (fine : event.stopRaised = false) :
    Calm after := by
  unfold Calm
  rw [trace, stopFailed_cons, fine]
  intro asked failed
  rcases failed with raised | earlier
  · cases raised
  · exact calm (neverAfter_cons.mp asked).2 earlier

/-- An unasked stop restores the calm: if a stop had failed it would come after it. -/
theorem calm_of_unaskedStop {before after : World} {event : Event}
    (trace : after.trace = event :: before.trace) (unasked : event.unaskedStop = true)
    (fine : event.stopRaised = false) : Calm after := by
  unfold Calm
  rw [trace, stopFailed_cons, fine]
  intro asked failed
  rcases failed with raised | ⟨earlier, member, failed⟩
  · cases raised
  · have refused := (neverAfter_cons.mp asked).1 earlier member failed
    rw [unasked] at refused
    cases refused

theorem Calm.ofStop {before after : World} (calm : Calm before)
    (leaves : Leaves Event.ofStop before after) : Calm after := by
  refine (leaves.spares fun _ stop => stop).keeps (fun trace => Asked trace → ¬ StopFailed trace)
    ?_ calm
  intro event older stop holds asked failed
  rcases stopFailed_cons.mp failed with raised | earlier
  · cases event <;> first | exact stop.elim | cases raised
  · exact holds (neverAfter_cons.mp asked).2 earlier

theorem Calm.ofInsert {before after : World} (calm : Calm before)
    (leaves : Leaves Event.ofInsert before after) : Calm after := by
  refine (leaves.spares fun _ insert => insert).keeps
    (fun trace => Asked trace → ¬ StopFailed trace) ?_ calm
  intro event older insert holds asked failed
  rcases stopFailed_cons.mp failed with raised | earlier
  · cases event <;> first | exact insert.elim | cases raised
  · exact holds (neverAfter_cons.mp asked).2 earlier

/-- A failing stop that began calmly is the first to fail. -/
theorem Calm.raised {before after : World} {site : StopSite} (calm : Calm before)
    (trace : after.trace = .raised (.stopModule site) :: before.trace)
    (marked : after.ledger.inflight.isSome) : Heeded after := by
  unfold Heeded
  rw [trace]
  intro asked
  have quiet := calm (neverAfter_cons.mp asked).2
  exact ⟨neverAfter_cons.mpr ⟨fun _ _ _ => rfl, neverAfter_of_none quiet⟩, fun _ => marked⟩

/-- An event that is neither a failed stop nor a removal keeps the rule heeded, if the marker
is kept. -/
theorem Heeded.cons {before after : World} {event : Event} (heeded : Heeded before)
    (trace : after.trace = event :: before.trace) (fine : event.stopRaised = false)
    (keeps : event.removes = false)
    (marked : before.ledger.inflight.isSome → after.ledger.inflight.isSome) : Heeded after := by
  unfold Heeded
  rw [trace]
  intro asked
  obtain ⟨never, inflight⟩ := heeded (neverAfter_cons.mp asked).2
  refine ⟨neverAfter_cons.mpr ⟨fun _ _ _ => keeps, never⟩, fun failed => marked (inflight ?_)⟩
  rcases stopFailed_cons.mp failed with raised | earlier
  · rw [fine] at raised
    cases raised
  · exact earlier

/-- An unmarked ledger shows that no stop has failed. -/
theorem Heeded.calm {world : World} (heeded : Heeded world)
    (unmarked : world.ledger.inflight = none) : Calm world := by
  intro asked failed
  have marked := (heeded asked).2 failed
  rw [unmarked] at marked
  cases marked

/-! ### Stops and starts -/

section Tasks

variable {self : Process} {polls : Nat} {entry : Entry} {state : State} {world : World}

/-- The rule is heeded and the ledger in store is the one in hand. -/
def HeededAt (state : State) (world : World) : Prop := Heeded world ∧ world.ledger = state

theorem heededAt_within ⦃state : State⦄ ⦃world : World⦄ (holds : HeededAt state world) :
    Heeded world := holds.1

theorem HeededAt.record {event : Event} (heeded : HeededAt state world)
    (fine : event.stopRaised = false) (keeps : event.removes = false) :
    HeededAt state (world.record event) :=
  ⟨heeded.1.cons rfl fine keeps fun marked => marked, heeded.2⟩

theorem HeededAt.write {next : State} (heeded : HeededAt state world)
    (marked : state.inflight.isSome → next.inflight.isSome) :
    HeededAt next (world.write next) :=
  ⟨heeded.1.cons rfl rfl rfl fun before => marked (heeded.2 ▸ before), rfl⟩

/-- The events that are neither a failed stop nor a removal. -/
def Event.harmless (event : Event) : Prop := event.stopRaised = false ∧ event.removes = false

/-- Harmless events keep the rule heeded. -/
theorem HeededAt.spares {after : World} (heeded : HeededAt state world)
    (spares : Spares Event.harmless world after) : HeededAt state after := by
  refine ⟨?_, spares.ledger.trans heeded.2⟩
  unfold Heeded
  rw [spares.ledger]
  refine spares.keeps (fun trace => Asked trace →
    NeverAfter Event.stopRaised Event.removes trace ∧
      (StopFailed trace → world.ledger.inflight.isSome)) ?_ heeded.1
  intro event older harmless holds asked
  obtain ⟨never, inflight⟩ := holds (neverAfter_cons.mp asked).2
  refine ⟨neverAfter_cons.mpr ⟨fun _ _ _ => harmless.2, never⟩, fun failed => inflight ?_⟩
  rcases stopFailed_cons.mp failed with raised | earlier
  · rw [harmless.1] at raised
    cases raised
  · exact earlier

theorem ofTick_harmless {event : Event} (mark : event.ofTick) : event.harmless := by
  cases event with
  | raised method => cases method <;> first | exact mark.elim | exact ⟨rfl, rfl⟩
  | _ => first | exact mark.elim | exact ⟨rfl, rfl⟩

theorem observation_harmless {event : Event} (observation : event.observation) :
    event.harmless := by
  cases event <;> first | exact observation.elim | exact ⟨rfl, rfl⟩

/-- A stop entered calmly ends calmly, or is the first to fail. -/
theorem stopModule_heeded {site : StopSite} (marked : state.inflight.isSome)
    (calm : Calm (world.record (.entered (.stopModule site)))) (same : world.ledger = state) :
    (keeping false self Heeded).Safe (fun result after => HeededAt state after ∧
        match result with
        | .ok _ => Calm after
        | .error _ => True) (stopModule polls site).run world := by
  let kept : World → Prop := fun world => Calm world ∧ world.ledger = state
  have body : (keeping false self Heeded).Safe (fun _ after => kept after)
      (stopModuleBody polls).run (world.record (.entered (.stopModule site))) := by
    refine stopModuleBody_keeps rfl (fun same holds => same ▸ holds) ?_ polls ⟨calm, same⟩
    intro before after holds leaves
    have after := holds.1.ofStop leaves
    exact ⟨after.heeded, after, leaves.ledger.trans holds.2⟩
  refine traced_safe calm.heeded (body.mono fun result after holds => ?_)
  cases result with
  | ok _ =>
    have returned : Calm (after.record (.returned (.stopModule site))) := holds.1.cons rfl rfl
    exact ⟨returned.heeded, ⟨returned.heeded, holds.2⟩, returned⟩
  | error error =>
    have raised : Heeded (after.record (.raised (.stopModule site))) :=
      holds.1.raised rfl (holds.2 ▸ marked)
    exact ⟨raised, ⟨raised, holds.2⟩, trivial⟩

/-- An unasked stop is calm from its entry on. -/
theorem unaskedStop_heeded {site : StopSite}
    (unasked : (Event.entered (.stopModule site)).unaskedStop = true)
    (marked : state.inflight.isSome) (same : world.ledger = state) :
    (keeping false self Heeded).Safe (fun result after => HeededAt state after ∧
        match result with
        | .ok _ => Calm after
        | .error _ => True) (stopModule polls site).run world :=
  stopModule_heeded marked (calm_of_unaskedStop rfl unasked rfl) same

/-- A start begun calmly ends calmly, or fails with the rule heeded. -/
theorem startModule_heeded {generation : String} (marked : state.inflight.isSome)
    (calm : Calm world) (same : world.ledger = state) :
    (keeping false self Heeded).Safe (fun result after => HeededAt state after ∧
        match result with
        | .ok _ => Calm after
        | .error _ => True) (startModule polls entry generation).run world := by
  let kept : World → Prop := fun world => Calm world ∧ world.ledger = state
  have entered : kept (world.record (.entered .startModule)) := ⟨calm.cons rfl rfl, same⟩
  have calls : ∀ ⦃before after⦄, kept before → Leaves Event.ofInsert before after → kept after :=
    fun _ _ holds leaves => ⟨holds.1.ofInsert leaves, leaves.ledger.trans holds.2⟩
  have removal : ∀ ⦃world⦄, kept world →
      (keeping false self Heeded).Safe (fun result after => match result with
          | .ok _ => kept after
          | .error _ => HeededAt state after) (stopModule polls .removal).run world := by
    intro world holds
    have entering : Calm (world.record (.entered (.stopModule .removal))) := holds.1.cons rfl rfl
    refine (stopModule_heeded marked entering holds.2).mono fun result after stopped => ?_
    cases result with
    | ok _ => exact ⟨stopped.2, stopped.1.2⟩
    | error error => exact stopped.1
  refine traced_safe entered.1.heeded ((startModuleBody_safe (fun _ holds => holds.1.heeded) calls
    (fun _ holds => ⟨holds.1.heeded, holds.2⟩) removal entered).mono fun result after holds => ?_)
  cases result with
  | ok _ =>
    have returned : Calm (after.record (.returned .startModule)) := holds.1.cons rfl rfl
    exact ⟨returned.heeded, ⟨returned.heeded, holds.2⟩, returned⟩
  | error error =>
    have raised : HeededAt state (after.record (.raised .startModule)) := holds.record rfl rfl
    exact ⟨raised.1, raised, trivial⟩

/-! ### Every task heeds the rule -/

/-- The start of a tick begun calmly on a marked ledger heeds the rule, its cleanup too. -/
theorem tickStart_heeded {generation : String} (marked : state.inflight.isSome)
    (calm : Calm world) (same : world.ledger = state) :
    (keeping false self Heeded).Safe (fun _ after => ∃ last, HeededAt last after)
      (tickStart polls entry state generation >>= persist).run world := by
  have kept : ∀ ⦃world⦄, HeededAt state world → ∃ last, HeededAt last world :=
    fun _ holds => ⟨state, holds⟩
  refine persisted_safe _ heededAt_within (fun _ thrown => thrown)
    (tickStart_safe (HeededAt state) ((startModule_heeded marked calm same).mono ?_) ?_)
  · intro result after started
    cases result with
    | ok _ => exact ⟨kept started.1, (started.2.cons rfl rfl).heeded, rfl⟩
    | error error => exact ⟨kept started.1, started.1⟩
  · intro text world failed
    refine (unaskedStop_heeded rfl marked failed.2).mono fun result after stopped => ?_
    cases result with
    | ok _ => exact ⟨kept stopped.1, (stopped.2.cons rfl rfl).heeded, rfl⟩
    | error error =>
      refine ⟨kept stopped.1, fun _ => ⟨kept stopped.1, stopped.1.write fun before => ?_⟩⟩
      exact (Option.isSome_map).trans before

/-- A tick heeds the rule. -/
theorem tick_heeded (heeded : HeededAt state world) :
    (keeping false self Heeded).Safe (fun _ after => ∃ last, HeededAt last after)
      (tick polls entry state).run world := by
  refine tick_safe heededAt_within 
    (fun _ _ _ holds marks => holds.spares (marks.spares fun _ => ofTick_harmless))
    (fun _ _ _ holds record => holds.write fun marked => record.inflight ▸ marked) ?_ heeded
  intro observation device now action world decided acts present bound holds
  have cleared : (decide state observation now).1.inflight = none := by
    rw [(decide_sameRecord state observation now).inflight]
    exact (decide_cleared (decided ▸ acts)).inflight
  have calm : ∀ {world}, HeededAt (decide state observation now).1 world → Calm world :=
    fun holds => holds.1.calm (holds.2 ▸ cleared)
  cases action with
  | wait => exact absurd rfl acts
  | stop =>
    have marked : Calm (world.write { (decide state observation now).1 with
        inflight := some (.begin "stop" (some device.generation)) }) := (calm holds).cons rfl rfl
    refine tickMutate_stop_safe heededAt_within ⟨marked.heeded, ?_⟩ holds
    refine persisted_safe _ heededAt_within (fun _ thrown => thrown) (tickStop_safe ?_)
    refine (stopModule_heeded rfl (marked.cons rfl rfl) rfl).mono fun result after stopped => ?_
    cases result with
    | ok _ => exact ⟨⟨_, stopped.1⟩, (stopped.2.cons rfl rfl).heeded, rfl⟩
    | error error => exact ⟨⟨_, stopped.1⟩, fun _ => ⟨⟨_, stopped.1⟩, stopped.1.write fun _ => rfl⟩⟩
  | start =>
    refine tickMutate_start_safe heededAt_within (fun _ _ _ holds quiet =>
      holds.spares (quiet.spares fun _ => observation_harmless)) ?_ holds
    intro stamp last later _ _ kept
    have marked : Calm (later.write
        ((decide state observation now).1.attempting device.generation stamp last)) :=
      (calm kept).cons rfl rfl
    exact ⟨marked.heeded, tickStart_heeded rfl marked rfl⟩

/-- A pre-sleep hook heeds the rule. -/
theorem operatePause_heeded (heeded : HeededAt state world) :
    (keeping false self Heeded).Safe (fun _ after => Heeded after)
      (operatePause polls state).run world := by
  refine operatePause_safe heeded.1 heeded.1 (fun _ => ?_) (fun _ => ?_)
  · have removed : Heeded world.removeMarker := heeded.1.cons rfl rfl rfl fun marked => marked
    exact ⟨removed, removed⟩
  · have marked : HeededAt state.pausing (world.write state.pausing) := heeded.write fun _ => rfl
    refine ⟨marked.1, (unaskedStop_heeded rfl rfl marked.2).mono fun result after stopped => ?_⟩
    refine ⟨stopped.1.1, stopped.1.1, ?_⟩
    cases result with
    | ok _ =>
      have cleared : Calm (after.write state.pausing.stopped) := stopped.2.cons rfl rfl
      exact ⟨cleared.heeded, cleared.heeded⟩
    | error error =>
      intro text
      have failed : HeededAt _ (after.write (state.pausing.stopFailed "pause" text)) :=
        stopped.1.write fun _ => rfl
      exact ⟨failed.1, failed.1⟩

/-- A post-sleep hook writes no other marker and issues no command. -/
theorem operateResume_harmless (state : State) :
    (operateResume state).run.Only
      (HostOp.mild (fun next => next.inflight = state.inflight) Event.harmless) := by
  refine Program.Only.tryBind (Program.Only.ite (Program.Only.tryMap ?_) trivial) fun idle => ?_
  · exact raising_only.mpr (calling_only.mpr trivial)
  refine Program.Only.ite trivial (Program.Only.ite (refuse_only _) ?_)
  refine Program.Only.tryBind (Program.Only.tryBind ?_ fun _ => Program.Only.ite ?_ trivial) fun _ => ?_
  · exact raising_only.mpr (calling_only.mpr trivial)
  · refine Program.Only.tryBind (raising_only.mpr (calling_only.mpr trivial)) fun _ => ?_
    exact raising_only.mpr (calling_only.mpr ⟨rfl, rfl⟩)
  · exact Program.Only.tryBind (raising_only.mpr (calling_only.mpr rfl)) fun _ => trivial

/-- A post-sleep hook heeds the rule. -/
theorem operateResume_heeded (heeded : HeededAt state world) :
    (keeping false self Heeded).Safe (fun _ after => Heeded after)
      (operateResume state).run world := by
  have safe : (keeping false self Heeded).Safe
      (fun _ after => ∃ last, HeededAt last after ∧ last.inflight = state.inflight)
      (operateResume state).run world := by
    refine only_safe (operateResume_harmless state) (fun holds => holds.choose_spec.1.1) ?_
      ⟨state, heeded, rfl⟩
    intro op mild before input answer after ⟨last, holds, same⟩ answered
    rcases hostExec_mild (fun _ => observation_harmless) mild answered with spares | ⟨next, marker, rfl⟩
    · exact ⟨last, holds.spares spares, same⟩
    · exact ⟨next, holds.write fun marked => (marker.trans same.symm) ▸ marked, marker⟩
  exact safe.mono fun _ after holds => holds.choose_spec.1.1

end Tasks

/-! ### The rule -/

/-- The tasks of the watcher and the sleep hooks. -/
def automatic (task : Task) : Prop :=
  task = .tick ∨ task = .operate .pause ∨ task = .operate .resume

theorem automatic_tick : automatic .tick := .inl rfl

theorem automatic_pause : automatic (.operate .pause) := .inr (.inl rfl)

/-- The marks of a method that is no stop keep the rule heeded. -/
theorem traced_heeded {self : Process} {method : Method} {body : Host State} {state : State}
    {world : World} (other : ∀ site, method ≠ .stopModule site) (heeded : HeededAt state world)
    (safe : ∀ {world}, HeededAt state world →
      (keeping false self Heeded).Safe (fun _ after => Heeded after) body.run world) :
    (keeping false self Heeded).Safe (fun _ after => Heeded after) (traced method body).run world := by
  have marked : ∀ {world event}, Heeded world → Event.stopRaised event = false →
      event.removes = false → Heeded (world.record event) := fun holds fine keeps =>
    holds.cons rfl fine keeps fun same => same
  have entered : HeededAt state (world.record (.entered method)) := heeded.record rfl rfl
  refine traced_safe entered.1 ((safe entered).mono fun result after kept => ?_)
  have left : Heeded (after.record (method.left result)) := by
    cases result with
    | ok _ => exact marked kept rfl rfl
    | error error =>
      refine marked kept ?_ rfl
      cases method with
      | stopModule site => exact absurd rfl (other site)
      | tick | pause | resume | startModule => rfl
  exact ⟨left, left⟩

theorem runHistory_heeded {world : World} (history : List (Invocation automatic))
    (heeded : Heeded world) : Heeded (runHistory world history) := by
  refine runHistory_keeps Heeded (run_keeps _ ?_ ?_ ?_) history heeded
  · exact fun _ _ holds => holds
  · exact fun _ _ holds => holds.cons rfl rfl rfl fun marked => marked
  · intro task permitted world holds polls entry
    rcases permitted with rfl | rfl | rfl
    · refine (tick_heeded ⟨holds, rfl⟩).mono fun _ after kept => ?_
      exact kept.choose_spec.1
    · exact traced_heeded (fun _ same => nomatch same) ⟨holds, rfl⟩ operatePause_heeded
    · exact traced_heeded (fun _ same => nomatch same) ⟨holds, rfl⟩ operateResume_heeded

/-- In every history of ticks and sleep hooks in which no cleanup of a failed start and no
pre-sleep stop is entered after a failed stop, no `unbind` and no `rmmod` is issued after a
failed stop. -/
theorem failed_stop_never_repeated (ledger : State) (marker module : Bool) (clock steady : ℚ)
    (history : List (Invocation automatic)) :
    let trace := (runHistory (.begin ledger marker module clock steady) history).trace
    NeverAfter Event.stopRaised Event.unaskedStop trace →
      NeverAfter Event.stopRaised Event.removes trace := by
  intro trace asked
  have heeded : Heeded (runHistory (.begin ledger marker module clock steady) history) :=
    runHistory_heeded history fun _ => ⟨.nil, fun ⟨_, member, _⟩ => nomatch member⟩
  exact (heeded asked).1

/-- A tick whose `rmmod` of an old module times out, in the removal of `start_module`. -/
def timedOutRemoval : Invocation automatic :=
  sampleInvocation .tick automatic_tick (List.replicate 12 (sampleEnv true "0") ++
    [sampleEnv true compositorPackages] ++ List.replicate 11 (sampleEnv true "0") ++
    [sampleTimeout] ++ List.replicate 22 (sampleEnv true "0"))

/-- The cleanup of that tick issues `rmmod` again. -/
theorem timedOutRemoval_repeated :
    ¬ NeverAfter Event.stopRaised Event.removes
      (runHistory (.begin sampleLedger false true 0 0) [timedOutRemoval]).trace := by
  decide +kernel

/-- A pre-sleep hook whose stop cannot take its snapshot, and a tick after it. -/
def failedPause : List (Invocation automatic) :=
  [sampleInvocation (.operate .pause) automatic_pause
      (List.replicate 8 (sampleEnv true "0") ++ [sampleTimeout] ++
        List.replicate 4 (sampleEnv true "0")),
    sampleInvocation .tick automatic_tick (List.replicate 12 (sampleEnv true "0"))]

theorem failedPause_not_repeated :
    NeverAfter Event.stopRaised Event.removes
      (runHistory (.begin sampleLedger false true 0 0) failedPause).trace :=
  failed_stop_never_repeated sampleLedger false true 0 0 failedPause (by decide)

end Trigger6.Controller
