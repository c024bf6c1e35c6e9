/-
This file gives the proof rules for an undisturbed controller process: one rule
for each kind of call, and one for each of the programs every task is built
from. A process keeps an invariant when each of its calls does, so the rules
speak of the world after every single call and hold at every point the process
may be killed at.
-/

import Trigger6.Controller.Frames

namespace Trigger6.Controller

open Interaction

/-! ### Rules for single calls -/

section Rules

/-- The discipline of an undisturbed process whose calls must keep an invariant. -/
abbrev keeping (truthful : Bool) (self : Process) (invariant : World → Prop) :
    Discipline hostInterface World Env :=
  Discipline.sequential (hostExec truthful self) fun _ after => invariant after

variable {truthful : Bool} {self : Process} {invariant : World → Prop} {Value : Type}
  {world : World}

/-- The calls that observe, check or wait. -/
def HostOp.quiet : HostOp → Prop
  | .readConfig | .verifyArtifact | .bootId | .storeRead | .inhibitExists | .inhibitCheck | .now =>
    True
  | .runCommand _ _ => False
  | op => op.ofStop

/-- Only observations were traced, and the clocks may have advanced. -/
abbrev Quiet : World → World → Prop := Leaves Event.observation

theorem Leaves.mono {narrow wide : Event → Prop} {before after : World}
    (leaves : Leaves narrow before after) (widen : ∀ event, narrow event → wide event) :
    Leaves wide before after := by
  obtain ⟨added, trace, allowed⟩ := leaves.trace
  exact ⟨leaves.ledger, leaves.marker, leaves.holder, leaves.clock, added, trace,
    fun event member => widen event (allowed event member)⟩

theorem hostExec_quiet {op : HostOp} {after : World} {input : Env} {answer : op.Answer}
    (quiet : op.quiet) (answered : hostExec truthful self world op input = some (answer, after)) :
    Quiet world after := by
  cases op with
  | readConfig | verifyArtifact | bootId | storeRead | inhibitExists | inhibitCheck =>
    obtain ⟨-, rfl⟩ := Prod.mk.inj (Option.some.inj answered)
    exact .refl world
  | now =>
    obtain ⟨-, rfl⟩ := Prod.mk.inj (Option.some.inj answered)
    exact ⟨rfl, rfl, rfl, le_max_left _ _, [], rfl, fun _ member => nomatch member⟩
  | runCommand | storeWrite | inhibitUnlink | inhibitCreate | lock | unlock | note =>
    exact quiet.elim
  | snapshot | discover | residentIdentity | refcnt | moduleExists | monotonic | sleep
  | print | hang =>
    refine hostExec_leaves ?_ ?_ (fun _ observation => observation) ?_ answered
    · trivial
    · intro command timeout same
      cases same
    · intro event same
      cases same

/-- A quiet call may answer anything and leaves a quiet world. -/
theorem quiet_safe {op : HostOp} {post : op.Answer → World → Prop} (quiet : op.quiet)
    (each : ∀ answer after, Quiet world after → invariant after ∧ post answer after) :
    (keeping truthful self invariant).Safe post (calling op) world :=
  Discipline.sequential_perform.mpr fun _ answer after answered =>
    each answer after (hostExec_quiet quiet answered)

/-- Reading the wall clock answers a time no earlier than any read before. -/
theorem now_safe {post : Except PyError ℚ → World → Prop}
    (each : ∀ time, Quiet world { world with clock := time } →
      invariant { world with clock := time } ∧ post (.ok time) { world with clock := time }) :
    (keeping truthful self invariant).Safe post now.run world := by
  refine Discipline.sequential_bind.mpr (Discipline.sequential_perform.mpr ?_)
  intro input answer after answered
  have quiet : Quiet world after :=
    hostExec_quiet (show HostOp.now.quiet from trivial) answered
  obtain ⟨rfl, rfl⟩ := Prod.mk.inj (Option.some.inj answered)
  exact ⟨(each _ quiet).1, Discipline.sequential_done.mpr (each _ quiet).2⟩

/-- Reading the ledger answers the ledger of the last write, or raises. -/
theorem storeRead_safe {post : Except PyError State → World → Prop} (kept : invariant world)
    (read : post (.ok world.ledger) world) (raised : ∀ error, post (.error error) world) :
    (keeping truthful self invariant).Safe post storeRead.run world := by
  refine Discipline.sequential_perform.mpr fun input answer after answered => ?_
  obtain ⟨rfl, rfl⟩ := Prod.mk.inj (Option.some.inj answered)
  refine ⟨kept, ?_⟩
  unfold Env.attempt
  cases input.raises with
  | none => exact read
  | some error => exact raised error

/-- A ledger write happens whole or raises without effect. -/
theorem storeWrite_safe {state : State} {post : Except PyError Unit → World → Prop}
    (kept : invariant world)
    (wrote : invariant (world.write state) ∧ post (.ok ()) (world.write state))
    (raised : ∀ error, post (.error error) world) :
    (keeping truthful self invariant).Safe post (storeWrite state).run world := by
  refine Discipline.sequential_perform.mpr fun input answer after answered => ?_
  obtain ⟨rfl, rfl⟩ := Prod.mk.inj (Option.some.inj answered)
  unfold Env.attempt
  cases input.raises with
  | none => exact wrote
  | some error => exact ⟨kept, raised error⟩

/-- Writing a ledger and returning it. -/
theorem persist_safe {state : State} {post : Except PyError State → World → Prop}
    (kept : invariant world)
    (wrote : invariant (world.write state) ∧ post (.ok state) (world.write state))
    (raised : ∀ error, post (.error error) world) :
    (keeping truthful self invariant).Safe post (persist state).run world := by
  refine Discipline.sequential_tryBind.mpr (storeWrite_safe kept ?_ raised)
  exact ⟨wrote.1, Discipline.sequential_tryPure.mpr wrote.2⟩

theorem note_safe {event : Event} {post : Except PyError Unit → World → Prop}
    (noted : invariant (world.record event) ∧ post (.ok ()) (world.record event)) :
    (keeping truthful self invariant).Safe post (note event).run world := by
  refine Discipline.sequential_bind.mpr (Discipline.sequential_perform.mpr ?_)
  intro input answer after answered
  obtain ⟨rfl, rfl⟩ := Prod.mk.inj (Option.some.inj answered)
  exact ⟨noted.1, Discipline.sequential_done.mpr noted.2⟩

/-- The mark a method leaves when it ends with a result. -/
def Method.left (method : Method) : Except PyError Value → Event
  | .ok _ => .returned method
  | .error _ => .raised method

/-- A traced method: its marks, and its body between them. -/
theorem traced_safe {method : Method} {body : Host Value}
    {post : Except PyError Value → World → Prop}
    (entered : invariant (world.record (.entered method)))
    (safe : (keeping truthful self invariant).Safe (fun result after =>
        invariant (after.record (method.left result)) ∧
          post result (after.record (method.left result)))
      body.run (world.record (.entered method))) :
    (keeping truthful self invariant).Safe post (traced method body).run world := by
  refine Discipline.sequential_tryBind.mpr (note_safe ⟨entered, ?_⟩)
  refine Discipline.sequential_tryBind.mpr (Discipline.sequential_tryCatch.mpr ?_)
  refine safe.mono fun result after marked => ?_
  cases result with
  | ok value =>
    refine Discipline.sequential_tryBind.mpr (note_safe ⟨marked.1, ?_⟩)
    exact Discipline.sequential_tryPure.mpr marked.2
  | error error =>
    refine Discipline.sequential_tryBind.mpr (note_safe ⟨marked.1, ?_⟩)
    exact Discipline.sequential_throw.mpr marked.2

/-- A handler of `Refusal` and `OSError` runs on the error's text; other errors pass it. -/
theorem caughtBy_safe {handler : String → Host Value} {error : PyError}
    {post : Except PyError Value → World → Prop}
    (handled : ∀ text, error.caught = some text →
      (keeping truthful self invariant).Safe post (handler text).run world)
    (passed : post (.error error) world) :
    (keeping truthful self invariant).Safe post (caughtBy handler error).run world := by
  unfold caughtBy
  cases caught : error.caught with
  | none => exact Discipline.sequential_throw.mpr passed
  | some text => exact handled text caught

/-- A program whose calls all keep a predicate at least as strong as the invariant. -/
theorem only_safe {allowed : HostOp → Prop} {kept : World → Prop}
    {program : Host Value} (only : program.run.Only allowed)
    (within : ∀ {world}, kept world → invariant world)
    (each : ∀ op, allowed op → ∀ {world input answer after}, kept world →
      hostExec truthful self world op input = some (answer, after) → kept after)
    (start : kept world) :
    (keeping truthful self invariant).Safe (fun _ after => kept after) program.run world :=
  Discipline.Safe.of_only (fun same holds => same ▸ holds)
    (fun op permitted _ _ _ _ holds answered =>
      have after := each op permitted holds answered
      ⟨within after, after⟩) only start

/-- A part of `start_module` outside the removal keeps what its calls keep. -/
theorem insert_safe {program : Host Value} {kept : World → Prop}
    (only : program.run.Only HostOp.ofInsert)
    (within : ∀ ⦃world⦄, kept world → invariant world)
    (calls : ∀ ⦃before after⦄, kept before → Leaves Event.ofInsert before after → kept after)
    (start : kept world) :
    (keeping truthful self invariant).Safe (fun _ after => kept after) program.run world :=
  only_safe only (fun holds => within holds)
    (fun _ insert _ _ _ _ holds answered => calls holds (hostExec_leaves_ofInsert insert answered))
    start

section Starts

variable {polls : Nat} {entry : Entry} {generation : String} {kept failed : World → Prop}

/-- `start_module` on a device keeps what its own calls keep, unless the removal of an old
module fails. -/
theorem startOn_safe {before : Observation} {device : Device}
    (within : ∀ ⦃world⦄, kept world → invariant world)
    (calls : ∀ ⦃before after⦄, kept before → Leaves Event.ofInsert before after → kept after)
    (raised : ∀ ⦃world⦄, kept world → failed world)
    (removal : ∀ ⦃world⦄, kept world →
      (keeping truthful self invariant).Safe (fun result after => match result with
          | .ok _ => kept after
          | .error _ => failed after) (stopModule polls .removal).run world)
    (start : kept world) :
    (keeping truthful self invariant).Safe (fun result after => match result with
        | .ok _ => kept after
        | .error _ => failed after) (startOn polls entry generation before device).run world := by
  have queried : (runCommand .pacman 2).run.Only HostOp.ofInsert :=
    raising_only.mpr (calling_only.mpr trivial)
  have inserted : ∀ ⦃world⦄, kept world → (keeping truthful self invariant).Safe
      (fun result after => match result with
        | .ok _ => kept after
        | .error _ => failed after) (insertModule entry device generation).run world := by
    intro world holds
    refine (insert_safe (insertModule_only entry device generation) within calls holds).mono ?_
    intro result after holds
    cases result with
    | ok _ => exact holds
    | error error => exact raised holds
  unfold startOn
  split
  · exact Discipline.sequential_throw.mpr (raised start)
  refine Discipline.sequential_tryBind.mpr
    ((insert_safe queried within calls start).mono fun result after holds => ?_)
  cases result with
  | error error => exact raised holds
  | ok packages =>
    dsimp only
    split
    · exact Discipline.sequential_throw.mpr (raised holds)
    refine Discipline.sequential_tryBind.mpr ?_
    unfold removeOld
    split
    · refine (removal holds).mono fun result after holds => ?_
      cases result with
      | ok _ => exact inserted holds
      | error error => exact holds
    · exact Discipline.sequential_tryPure.mpr (inserted holds)

/-- `start_module` keeps what its own calls keep, unless the removal of an old module fails. -/
theorem startModuleBody_safe (within : ∀ ⦃world⦄, kept world → invariant world)
    (calls : ∀ ⦃before after⦄, kept before → Leaves Event.ofInsert before after → kept after)
    (raised : ∀ ⦃world⦄, kept world → failed world)
    (removal : ∀ ⦃world⦄, kept world →
      (keeping truthful self invariant).Safe (fun result after => match result with
          | .ok _ => kept after
          | .error _ => failed after) (stopModule polls .removal).run world)
    (start : kept world) :
    (keeping truthful self invariant).Safe (fun result after => match result with
        | .ok _ => kept after
        | .error _ => failed after) (startModuleBody polls entry generation).run world := by
  have verified : verifyArtifact.run.Only HostOp.ofInsert :=
    raising_only.mpr (calling_only.mpr trivial)
  have observed : (snapshot none).run.Only HostOp.ofInsert :=
    raising_only.mpr (calling_only.mpr trivial)
  refine Discipline.sequential_tryBind.mpr
    ((insert_safe verified within calls start).mono fun result after holds => ?_)
  cases result with
  | error error => exact raised holds
  | ok _ =>
    refine Discipline.sequential_tryBind.mpr
      ((insert_safe observed within calls holds).mono fun result after holds => ?_)
    cases result with
    | error error => exact raised holds
    | ok before =>
      show (keeping truthful self invariant).Safe _ (startObserved polls entry generation before).run _
      unfold startObserved
      cases before.device with
      | none => exact Discipline.sequential_throw.mpr (raised holds)
      | some device => exact startOn_safe within calls raised removal holds

end Starts

end Rules

/-! ### Programs without mutations -/

/-- The ledger is the same, the clock may have advanced, and the trace was extended by allowed
events. -/
structure Spares (allowed : Event → Prop) (before after : World) : Prop where
  ledger : after.ledger = before.ledger
  clock : before.clock ≤ after.clock
  trace : ∃ added, after.trace = added ++ before.trace ∧ ∀ event ∈ added, allowed event

theorem Leaves.spares {narrow wide : Event → Prop} {before after : World}
    (leaves : Leaves narrow before after) (widen : ∀ event, narrow event → wide event) :
    Spares wide before after :=
  ⟨leaves.ledger, leaves.clock, (leaves.mono widen).trace⟩

/-- A predicate on traces that allowed events keep survives any number of them. -/
theorem Spares.keeps {allowed : Event → Prop} {before after : World}
    (spares : Spares allowed before after) (holds : List Event → Prop)
    (each : ∀ event older, allowed event → holds older → holds (event :: older))
    (start : holds before.trace) : holds after.trace := by
  obtain ⟨added, same, permitted⟩ := spares.trace
  rw [same]
  clear same
  induction added with
  | nil => exact start
  | cons event rest inductionHypothesis =>
    refine each event _ (permitted event List.mem_cons_self) (inductionHypothesis fun other member => ?_)
    exact permitted other (List.mem_cons_of_mem event member)

/-- The calls that write only ledgers in `writes` and trace only events in `events`. -/
def HostOp.mild (writes : State → Prop) (events : Event → Prop) : HostOp → Prop
  | .storeWrite state => writes state
  | .note event => events event
  | .runCommand command _ => events (.command command)
  | .inhibitUnlink => events .markerRemoved
  | .inhibitCreate => events .markerCreated
  | _ => True

theorem hostExec_mild {truthful : Bool} {self : Process} {writes : State → Prop}
    {events : Event → Prop} {world after : World} {op : HostOp} {input : Env} {answer : op.Answer}
    (observes : ∀ event : Event, event.observation → events event) (mild : op.mild writes events)
    (answered : hostExec truthful self world op input = some (answer, after)) :
    Spares events world after ∨ ∃ state, writes state ∧ after = world.write state := by
  have same : ∀ {after : World}, after.ledger = world.ledger → world.clock ≤ after.clock →
      after.trace = world.trace → Spares events world after := fun ledger clock trace =>
    ⟨ledger, clock, [], trace, fun _ member => nomatch member⟩
  have recorded : ∀ {after : World} event, events event → after.ledger = world.ledger →
      world.clock ≤ after.clock → after.trace = event :: world.trace →
      Spares events world after := fun event permitted ledger clock trace =>
    ⟨ledger, clock, [event], trace, fun _ member => List.mem_singleton.mp member ▸ permitted⟩
  cases op with
  | hang => exact nomatch answered
  | lock =>
    simp only [hostExec] at answered
    split at answered
    · obtain ⟨-, rfl⟩ := Prod.mk.inj (Option.some.inj answered)
      exact .inl (same rfl le_rfl rfl)
    · obtain ⟨-, rfl⟩ := Prod.mk.inj (Option.some.inj answered)
      cases input.raises with
      | none => exact .inl (same rfl le_rfl rfl)
      | some error => exact .inl (same rfl le_rfl rfl)
  | storeWrite state =>
    obtain ⟨-, rfl⟩ := Prod.mk.inj (Option.some.inj answered)
    cases input.raises with
    | none => exact .inr ⟨state, mild, rfl⟩
    | some error => exact .inl (same rfl le_rfl rfl)
  | inhibitUnlink =>
    obtain ⟨-, rfl⟩ := Prod.mk.inj (Option.some.inj answered)
    cases input.raises with
    | none => exact .inl (recorded .markerRemoved mild rfl le_rfl rfl)
    | some error => exact .inl (same rfl le_rfl rfl)
  | inhibitCreate =>
    obtain ⟨-, rfl⟩ := Prod.mk.inj (Option.some.inj answered)
    cases input.raises with
    | none => exact .inl (recorded .markerCreated mild rfl le_rfl rfl)
    | some error => exact .inl (same rfl le_rfl rfl)
  | now =>
    obtain ⟨-, rfl⟩ := Prod.mk.inj (Option.some.inj answered)
    exact .inl (same rfl (le_max_left _ _) rfl)
  | snapshot deadline =>
    obtain ⟨-, rfl⟩ := Prod.mk.inj (Option.some.inj answered)
    refine .inl (recorded _ (observes _ ?_) rfl le_rfl rfl)
    cases input.raises with
    | none => trivial
    | some error => trivial
  | runCommand command timeout =>
    obtain ⟨-, rfl⟩ := Prod.mk.inj (Option.some.inj answered)
    exact .inl (recorded _ mild rfl le_rfl rfl)
  | note event =>
    obtain ⟨-, rfl⟩ := Prod.mk.inj (Option.some.inj answered)
    exact .inl (recorded event mild rfl le_rfl rfl)
  | discover | residentIdentity | refcnt | moduleExists | monotonic | sleep | bootId | readConfig
  | verifyArtifact | print | storeRead | inhibitExists | inhibitCheck | unlock =>
    obtain ⟨-, rfl⟩ := Prod.mk.inj (Option.some.inj answered)
    exact .inl (same rfl le_rfl rfl)

theorem HostOp.ofStop_mild {writes : State → Prop} {events : Event → Prop} {op : HostOp}
    (commands : ∀ command : Command, command.removes → events (.command command))
    (stop : op.ofStop) : op.mild writes events := by
  cases op with
  | runCommand command timeout => exact commands command stop
  | storeWrite | inhibitUnlink | inhibitCreate | note => exact stop.elim
  | _ => exact trivial

/-! ### Rules for the tick -/

section Ticks

variable {truthful : Bool} {self : Process} {invariant : World → Prop} {polls : Nat}
  {entry : Entry} {world : World}

/-- The events of a tick outside its mutation. -/
def Event.ofTick : Event → Prop
  | .observed _ | .unobserved _ | .entered .tick | .returned .tick | .raised .tick => True
  | _ => False

theorem fail_sameRecord (state : State) (text : String) : state.SameRecord (state.fail text) :=
  ⟨rfl, rfl, rfl, rfl, rfl, rfl, rfl⟩

theorem left_tick_ofTick {Value : Type} (result : Except PyError Value) :
    (Method.tick.left result).ofTick := by
  cases result with
  | ok value => trivial
  | error error => trivial

section Observing

variable {kept : State → World → Prop} {state : State}

/-- The observation of a tick ends with it, or with the failure written or raised. -/
theorem tickObserve_safe (within : ∀ ⦃state world⦄, kept state world → invariant world)
    (quiet : ∀ ⦃state before after⦄, kept state before → Quiet before after → kept state after)
    (writes : ∀ ⦃before after : State⦄ ⦃world⦄, kept before world → before.SameRecord after →
      kept after (world.write after))
    (start : kept state world) :
    (keeping truthful self invariant).Safe (fun result after => match result with
        | .ok (.inl _) => kept state after
        | _ => ∃ last, kept last after) (tickObserve state).run world := by
  refine Discipline.sequential_tryCatch.mpr (Discipline.sequential_tryMap.mpr ?_)
  refine quiet_safe trivial fun answer after observed => ?_
  have unchanged := quiet start observed
  refine ⟨within unchanged, ?_⟩
  cases answer with
  | ok observation => exact unchanged
  | error error =>
    refine caughtBy_safe (fun text _ => Discipline.sequential_tryMap.mpr ?_) ⟨state, unchanged⟩
    have failed := writes unchanged (fail_sameRecord state text)
    exact persist_safe (within unchanged) ⟨within failed, _, failed⟩ fun _ => ⟨state, unchanged⟩

/-- A tick whose policy has answered persists the answer and acts on it. -/
theorem tickDecided_safe {observation : Observation} {action : Action}
    (kept_start : invariant world)
    (within : ∀ ⦃state world⦄, kept state world → invariant world)
    (wrote : kept state (world.write state)) (raised : ∃ last, kept last world)
    (mutates : ∀ device, action ≠ .wait → observation.device = some device →
      (keeping truthful self invariant).Safe (fun _ after => ∃ last, kept last after)
        (tickMutate polls entry state action device.generation).run (world.write state)) :
    (keeping truthful self invariant).Safe (fun _ after => ∃ last, kept last after)
      (tickDecided polls entry observation state action).run world := by
  refine Discipline.sequential_tryBind.mpr
    (storeWrite_safe kept_start ⟨within wrote, ?_⟩ fun _ => raised)
  cases action with
  | wait => exact Discipline.sequential_tryPure.mpr ⟨state, wrote⟩
  | start | stop =>
    cases present : observation.device with
    | none => exact Discipline.sequential_throw.mpr ⟨state, wrote⟩
    | some device => exact mutates device (by intro same; cases same) present

/-- A tick keeps what its marks, its observations and its policy writes keep, if the mutation it
may begin does. -/
theorem tick_safe (within : ∀ ⦃state world⦄, kept state world → invariant world)
    (leaves : ∀ ⦃state before after⦄, kept state before → Leaves Event.ofTick before after →
      kept state after)
    (writes : ∀ ⦃before after : State⦄ ⦃world⦄, kept before world → before.SameRecord after →
      kept after (world.write after))
    (mutates : ∀ ⦃observation device now action world⦄,
      (decide state observation now).2 = action → action ≠ .wait →
      observation.device = some device → now ≤ world.clock →
      kept (decide state observation now).1 world →
      (keeping truthful self invariant).Safe (fun _ after => ∃ last, kept last after)
        (tickMutate polls entry (decide state observation now).1 action device.generation).run
        world)
    (start : kept state world) :
    (keeping truthful self invariant).Safe (fun _ after => ∃ last, kept last after)
      (tick polls entry state).run world := by
  have quiet : ∀ ⦃state before after⦄, kept state before → Quiet before after →
      kept state after := fun _ _ _ holds calm =>
    leaves holds (calm.mono fun event observed => by
      cases event <;> first | exact observed | trivial)
  have entered : kept state (world.record (.entered .tick)) := leaves start (.record trivial)
  have body : (keeping truthful self invariant).Safe (fun _ after => ∃ last, kept last after)
      (tickBody polls entry state).run (world.record (.entered .tick)) := by
    refine Discipline.sequential_tryBind.mpr
      ((tickObserve_safe within quiet writes entered).mono fun result after holds => ?_)
    rcases result with error | observation | failed
    · exact holds
    · refine Discipline.sequential_tryBind.mpr (now_safe fun time calm => ?_)
      have unchanged := quiet holds calm
      have wrote := writes unchanged (decide_sameRecord state observation time)
      refine ⟨within unchanged, tickDecided_safe (within unchanged) within wrote
        ⟨state, unchanged⟩ fun device acts present => ?_⟩
      exact mutates rfl acts present le_rfl wrote
    · exact Discipline.sequential_tryPure.mpr holds
  refine traced_safe (within entered) (body.mono fun result after holds => ?_)
  obtain ⟨last, holds⟩ := holds
  have marked := leaves holds (.record (left_tick_ofTick result))
  exact ⟨within marked, last, marked⟩

/-- Writing the ledger a mutation ends with. -/
theorem persisted_safe {program : Host State} (thrown : World → Prop)
    (within : ∀ ⦃state world⦄, kept state world → invariant world)
    (thrown_kept : ∀ ⦃world⦄, thrown world → ∃ last, kept last world)
    (safe : (keeping truthful self invariant).Safe (fun result after => match result with
        | .ok next => thrown after ∧ kept next (after.write next)
        | .error _ => thrown after) program.run world) :
    (keeping truthful self invariant).Safe (fun _ after => ∃ last, kept last after)
      (program >>= persist).run world := by
  refine Discipline.sequential_tryBind.mpr (safe.mono fun result after holds => ?_)
  cases result with
  | error error => exact thrown_kept holds
  | ok next =>
    obtain ⟨last, unwritten⟩ := thrown_kept holds.1
    exact persist_safe (within unwritten) ⟨within holds.2, next, holds.2⟩ fun _ => ⟨last, unwritten⟩

/-- A start reads the clock twice, and consumes its attempt before it begins. -/
theorem tickMutate_start_safe {generation : String}
    (within : ∀ ⦃state world⦄, kept state world → invariant world)
    (quiet : ∀ ⦃state before after⦄, kept state before → Quiet before after → kept state after)
    (runs : ∀ ⦃stamp last later⦄, world.clock ≤ stamp → stamp ≤ last → kept state later →
      invariant (later.write (state.attempting generation stamp last)) ∧
        (keeping truthful self invariant).Safe (fun _ after => ∃ last, kept last after)
          (tickStart polls entry (state.attempting generation stamp last) generation >>=
            persist).run (later.write (state.attempting generation stamp last)))
    (start : kept state world) :
    (keeping truthful self invariant).Safe (fun _ after => ∃ last, kept last after)
      (tickMutate polls entry state .start generation).run world := by
  refine Discipline.sequential_tryBind.mpr (now_safe fun stamp calm => ?_)
  have first := quiet start calm
  refine ⟨within first, Discipline.sequential_tryBind.mpr (now_safe fun last calmer => ?_)⟩
  have second := quiet first calmer
  have begun := runs calm.clock calmer.clock second
  refine ⟨within second, Discipline.sequential_tryBind.mpr
    (storeWrite_safe (within second) ⟨begun.1, begun.2⟩ fun _ => ⟨state, second⟩)⟩

/-- A stop writes its marker before it begins. -/
theorem tickMutate_stop_safe {generation : String}
    (within : ∀ ⦃state world⦄, kept state world → invariant world)
    (runs : let marked := { state with inflight := some (.begin "stop" (some generation)) }
      invariant (world.write marked) ∧
        (keeping truthful self invariant).Safe (fun _ after => ∃ last, kept last after)
          (tickStop polls marked >>= persist).run (world.write marked))
    (start : kept state world) :
    (keeping truthful self invariant).Safe (fun _ after => ∃ last, kept last after)
      (tickMutate polls entry state .stop generation).run world :=
  Discipline.sequential_tryBind.mpr
    (storeWrite_safe (within start) ⟨runs.1, runs.2⟩ fun _ => ⟨state, start⟩)

end Observing

/-- The start of a tick, and its one cleanup when the start fails. -/
theorem tickStart_safe {state : State} {generation : String} {thrown : World → Prop}
    {post : State → World → Prop} (failed : World → Prop)
    (starts : (keeping truthful self invariant).Safe (fun result after => match result with
        | .ok _ => post (state.started generation) after
        | .error _ => thrown after ∧ failed after)
      (startModule polls entry generation).run world)
    (cleans : ∀ text ⦃world⦄, failed world →
      (keeping truthful self invariant).Safe (fun result after => match result with
          | .ok _ => post (state.fail text).stopped after
          | .error _ => thrown after ∧
            ∀ cleanupText, post ((state.fail text).cleanupFailed cleanupText) after)
        (stopModule polls .cleanup).run world) :
    (keeping truthful self invariant).Safe (fun result after => match result with
        | .ok next => post next after
        | .error _ => thrown after)
      (tickStart polls entry state generation).run world := by
  refine Discipline.sequential_tryCatch.mpr (Discipline.sequential_tryBind.mpr ?_)
  refine starts.mono fun result after holds => ?_
  cases result with
  | ok _ => exact Discipline.sequential_tryPure.mpr holds
  | error error =>
    refine caughtBy_safe (fun text _ => ?_) holds.1
    refine Discipline.sequential_tryCatch.mpr (Discipline.sequential_tryBind.mpr ?_)
    refine (cleans text holds.2).mono fun result after holds => ?_
    cases result with
    | ok _ => exact Discipline.sequential_tryPure.mpr holds
    | error error =>
      exact caughtBy_safe (fun text _ => Discipline.sequential_tryPure.mpr (holds.2 text)) holds.1

/-- The stop of a tick is not repeated when it fails. -/
theorem tickStop_safe {state : State} {thrown : World → Prop} {post : State → World → Prop}
    (stops : (keeping truthful self invariant).Safe (fun result after => match result with
        | .ok _ => post state.stopped after
        | .error _ => thrown after ∧ ∀ text, post (state.fail text) after)
      (stopModule polls .faultStop).run world) :
    (keeping truthful self invariant).Safe (fun result after => match result with
        | .ok next => post next after
        | .error _ => thrown after)
      (tickStop polls state).run world := by
  refine Discipline.sequential_tryCatch.mpr (Discipline.sequential_tryBind.mpr ?_)
  refine stops.mono fun result after holds => ?_
  cases result with
  | ok _ => exact Discipline.sequential_tryPure.mpr holds
  | error error =>
    exact caughtBy_safe (fun text _ => Discipline.sequential_tryPure.mpr (holds.2 text)) holds.1

/-- A stop whose failure is persisted before it is raised. -/
theorem stopPreservingFailure_safe {site : StopSite} {command : String} {state : State}
    {post : Except PyError Unit → World → Prop}
    (stops : (keeping truthful self invariant).Safe (fun result after => match result with
        | .ok _ => post (.ok ()) after
        | .error _ => invariant after ∧ ∀ error, post (.error error) after ∧
          ∀ text, invariant (after.write (state.stopFailed command text)) ∧
            post (.error error) (after.write (state.stopFailed command text)))
      (stopModule polls site).run world) :
    (keeping truthful self invariant).Safe post
      (stopPreservingFailure polls site command state).run world := by
  refine Discipline.sequential_tryCatch.mpr (stops.mono fun result after holds => ?_)
  cases result with
  | ok _ => exact holds
  | error error =>
    refine caughtBy_safe (fun text _ => ?_) (holds.2 error).1
    refine Discipline.sequential_tryBind.mpr (storeWrite_safe holds.1 ?_ fun other => (holds.2 other).1)
    exact ⟨((holds.2 error).2 text).1,
      Discipline.sequential_throw.mpr ((holds.2 (.refusal (stopMessage command text))).2 text).2⟩

/-- A pre-sleep hook under the lock: without intent it releases the marker it created; with
intent it stops the module between the write of its marker and the write that clears it. -/
theorem operatePause_safe {state : State} {post : World → Prop} (kept : invariant world)
    (unchanged : post world)
    (releases : state.desired = false → invariant world.removeMarker ∧ post world.removeMarker)
    (stops : state.desired = true → invariant (world.write state.pausing) ∧
      (keeping truthful self invariant).Safe (fun result after => invariant after ∧ post after ∧
        match result with
        | .ok _ => invariant (after.write state.pausing.stopped) ∧
          post (after.write state.pausing.stopped)
        | .error _ => ∀ text, invariant (after.write (state.pausing.stopFailed "pause" text)) ∧
          post (after.write (state.pausing.stopFailed "pause" text)))
        (stopModule polls .sleepStop).run (world.write state.pausing)) :
    (keeping truthful self invariant).Safe (fun _ after => post after)
      (operatePause polls state).run world := by
  unfold operatePause
  cases desired : state.desired with
  | false =>
    refine Discipline.sequential_tryBind.mpr (Discipline.sequential_perform.mpr ?_)
    intro input answer after answered
    obtain ⟨rfl, rfl⟩ := Prod.mk.inj (Option.some.inj answered)
    unfold Env.attempt
    cases input.raises with
    | some error => exact ⟨kept, unchanged⟩
    | none =>
      refine ⟨kept, Discipline.sequential_tryBind.mpr (Discipline.sequential_perform.mpr ?_)⟩
      intro input answer after answered
      obtain ⟨rfl, rfl⟩ := Prod.mk.inj (Option.some.inj answered)
      unfold Env.attempt
      cases input.raises with
      | some error => exact ⟨kept, unchanged⟩
      | none =>
        exact ⟨(releases desired).1, Discipline.sequential_tryPure.mpr (releases desired).2⟩
  | true =>
    obtain ⟨marked, stopping⟩ := stops desired
    refine Discipline.sequential_tryBind.mpr (storeWrite_safe kept ⟨marked, ?_⟩ fun _ => unchanged)
    refine Discipline.sequential_tryBind.mpr (stopPreservingFailure_safe
      (stopping.mono fun result after holds => ?_))
    cases result with
    | ok _ => exact persist_safe holds.1 holds.2.2 fun _ => holds.2.1
    | error error => exact ⟨holds.1, fun _ => ⟨holds.2.1, fun text => holds.2.2 text⟩⟩

end Ticks

end Trigger6.Controller
