/-
This file states what the two module mutations leave alone. `stop_module` and
`start_module` never touch the ledger, the sleep marker or the ledger lock;
all they do to the trace is to add observations, commands, and the marks of the
nested removal. Each is proved once from the calls its body can reach, and later
files use the resulting rule instead of walking the bodies again.
-/

import Trigger6.Controller.Operations

namespace Trigger6.Controller

open Interaction

/-! ### The calls of the two mutations -/

/-- The calls of `stop_module`: observations, waits, and the two removal commands. -/
def HostOp.ofStop : HostOp → Prop
  | .snapshot _ | .discover _ | .residentIdentity | .refcnt | .moduleExists | .monotonic
  | .sleep _ | .print _ | .hang => True
  | .runCommand command _ => command.removes
  | _ => False

/-- The marks of the removal nested in `start_module`. -/
def Event.removalMark : Event → Prop
  | .entered (.stopModule .removal) | .returned (.stopModule .removal)
  | .raised (.stopModule .removal) => True
  | _ => False

/-- The calls of `start_module` itself: those of `stop_module`, the artifact check, and any
command. -/
def HostOp.ofInsert : HostOp → Prop
  | .verifyArtifact | .runCommand _ _ => True
  | op => op.ofStop

/-- The calls of `start_module`, the marks of the nested removal among them. -/
def HostOp.ofStart : HostOp → Prop
  | .note event => event.removalMark
  | op => op.ofInsert

theorem HostOp.ofStop_ofInsert {op : HostOp} (stop : op.ofStop) : op.ofInsert := by
  cases op <;> first | exact stop | trivial

theorem HostOp.ofInsert_ofStart {op : HostOp} (insert : op.ofInsert) : op.ofStart := by
  cases op <;> first | exact insert | exact insert.elim

theorem HostOp.ofStop_ofStart {op : HostOp} (stop : op.ofStop) : op.ofStart :=
  HostOp.ofInsert_ofStart (HostOp.ofStop_ofInsert stop)

theorem calling_only {allowed : HostOp → Prop} {op : HostOp} :
    (calling op).Only allowed ↔ allowed op :=
  @Program.only_perform hostInterface allowed op

theorem raising_only {allowed : HostOp → Prop} {Value : Type}
    {program : Program hostInterface (Except PyError Value)} :
    (raising program).run.Only allowed ↔ program.Only allowed := Iff.rfl

theorem steadily_only {allowed : HostOp → Prop} {Value : Type}
    {program : Program hostInterface Value} :
    (steadily program).run.Only allowed ↔ program.Only allowed :=
  Program.only_lift program

theorem refuse_only {allowed : HostOp → Prop} {Value : Type} (text : String) :
    (refuse text : Host Value).run.Only allowed := trivial

theorem caughtBy_only {allowed : HostOp → Prop} {Value : Type} {handler : String → Host Value}
    (handled : ∀ text, (handler text).run.Only allowed) (error : PyError) :
    (caughtBy handler error).run.Only allowed := by
  unfold caughtBy
  cases error.caught with
  | none => trivial
  | some text => exact handled text

theorem remainingTimeout_only (deadline maximum : ℚ) (phase : String) :
    (remainingTimeout deadline maximum phase).run.Only HostOp.ofStop :=
  Program.Only.tryBind (steadily_only.mpr (calling_only.mpr trivial)) fun _ =>
    Program.Only.ite (refuse_only _) trivial

theorem settleLoop_only (started limit : ℚ) (polls : Nat) :
    (settleLoop started limit polls).run.Only HostOp.ofStop := by
  induction polls with
  | zero => exact ⟨trivial, fun impossible => nomatch impossible⟩
  | succ polls inductionHypothesis =>
    refine Program.Only.tryBind (raising_only.mpr (calling_only.mpr trivial)) fun answer => ?_
    cases answer with
    | none => exact refuse_only _
    | some references =>
      refine Program.Only.ite (refuse_only _) (Program.Only.ite ?_ ?_)
      · exact Program.Only.tryBind (steadily_only.mpr (calling_only.mpr trivial)) fun _ => trivial
      · refine Program.Only.tryBind (steadily_only.mpr (calling_only.mpr trivial)) fun _ => ?_
        refine Program.Only.ite (refuse_only _) ?_
        exact Program.Only.tryBind (steadily_only.mpr (calling_only.mpr trivial)) fun _ =>
          inductionHypothesis

theorem settleModuleReferences_only (polls : Nat) (deadline : ℚ) :
    (settleModuleReferences polls deadline).run.Only HostOp.ofStop :=
  Program.Only.tryBind (steadily_only.mpr (calling_only.mpr trivial)) fun _ =>
    settleLoop_only _ _ _

theorem stopCommand_only (deadline : ℚ) (phase failure : String) {command : Command}
    (removes : command.removes) :
    (stopCommand deadline phase failure command).run.Only HostOp.ofStop := by
  refine Program.Only.tryCatch ?_ (caughtBy_only fun _ => refuse_only _)
  refine Program.Only.tryBind (remainingTimeout_only _ _ _) fun _ => ?_
  exact Program.Only.tryBind (raising_only.mpr (calling_only.mpr removes)) fun _ => trivial

theorem unbindExact_only (deadline : ℚ) (device : Device) :
    (unbindExact deadline device).run.Only HostOp.ofStop := by
  refine Program.Only.tryBind (raising_only.mpr (calling_only.mpr trivial)) fun _ => ?_
  refine Program.Only.ite (refuse_only _) ?_
  exact Program.Only.tryBind (stopCommand_only _ _ _ rfl) fun _ =>
    raising_only.mpr (calling_only.mpr trivial)

theorem unbindIfBound_only (deadline : ℚ) (device : Option Device) :
    (unbindIfBound deadline device).run.Only HostOp.ofStop := by
  cases device with
  | none => trivial
  | some device => exact Program.Only.ite (unbindExact_only _ _) trivial

theorem removeModule_only (polls : Nat) (deadline : ℚ) (observation : Observation) :
    (removeModule polls deadline observation).run.Only HostOp.ofStop := by
  refine Program.Only.tryBind (settleModuleReferences_only _ _) fun _ => ?_
  refine Program.Only.tryBind (raising_only.mpr (calling_only.mpr trivial)) fun identity => ?_
  refine Program.Only.ite (refuse_only _) ?_
  refine Program.Only.tryBind (raising_only.mpr (calling_only.mpr trivial)) fun _ => ?_
  refine Program.Only.ite (refuse_only _) (Program.Only.ite (refuse_only _) ?_)
  refine Program.Only.tryBind (raising_only.mpr (calling_only.mpr trivial)) fun _ => ?_
  refine Program.Only.ite (refuse_only _) ?_
  refine Program.Only.tryBind (raising_only.mpr (calling_only.mpr trivial)) fun _ => ?_
  refine Program.Only.tryBind (stopCommand_only _ _ _ rfl) fun _ => ?_
  refine Program.Only.tryBind (raising_only.mpr (calling_only.mpr trivial)) fun _ => ?_
  exact Program.Only.ite (refuse_only _) trivial

/-- `stop_module` makes no other calls than its own. -/
theorem stopModuleBody_only (polls : Nat) : (stopModuleBody polls).run.Only HostOp.ofStop := by
  refine Program.Only.tryBind (steadily_only.mpr (calling_only.mpr trivial)) fun _ => ?_
  refine Program.Only.tryBind (raising_only.mpr (calling_only.mpr trivial)) fun _ => ?_
  refine Program.Only.ite trivial (Program.Only.ite (refuse_only _) ?_)
  exact Program.Only.tryBind (unbindIfBound_only _ _) fun _ => removeModule_only _ _ _

theorem traced_only {allowed : HostOp → Prop} {Value : Type} {method : Method}
    {body : Host Value} (entered : allowed (.note (.entered method)))
    (raised : allowed (.note (.raised method))) (returned : allowed (.note (.returned method)))
    (only : body.run.Only allowed) : (traced method body).run.Only allowed := by
  refine Program.Only.tryBind (steadily_only.mpr (calling_only.mpr entered)) fun _ => ?_
  refine Program.Only.tryBind (Program.Only.tryCatch only fun _ => ?_) fun _ => ?_
  · exact Program.Only.tryBind (steadily_only.mpr (calling_only.mpr raised)) fun _ => trivial
  · exact Program.Only.tryBind (steadily_only.mpr (calling_only.mpr returned)) fun _ => trivial

theorem insertModule_only (entry : Entry) (device : Device) (generation : String) :
    (insertModule entry device generation).run.Only HostOp.ofInsert := by
  refine Program.Only.tryBind (raising_only.mpr (calling_only.mpr trivial)) fun _ => ?_
  refine Program.Only.ite (refuse_only _) ?_
  refine Program.Only.tryBind (raising_only.mpr (calling_only.mpr trivial)) fun _ => ?_
  refine Program.Only.tryBind (raising_only.mpr (calling_only.mpr trivial)) fun _ => ?_
  exact Program.Only.ite (refuse_only _) trivial

theorem startObserved_only (polls : Nat) (entry : Entry) (generation : String)
    (before : Observation) :
    (startObserved polls entry generation before).run.Only HostOp.ofStart := by
  unfold startObserved
  cases before.device with
  | none => exact refuse_only _
  | some device =>
    refine Program.Only.ite (refuse_only _) ?_
    refine Program.Only.tryBind (raising_only.mpr (calling_only.mpr trivial)) fun _ => ?_
    refine Program.Only.ite (refuse_only _) ?_
    refine Program.Only.tryBind (Program.Only.ite ?_ trivial) fun _ =>
      (insertModule_only _ _ _).mono fun _ => HostOp.ofInsert_ofStart
    exact traced_only trivial trivial trivial
      ((stopModuleBody_only polls).mono fun _ => HostOp.ofStop_ofStart)

/-- `start_module` makes no other calls than its own. -/
theorem startModuleBody_only (polls : Nat) (entry : Entry) (generation : String) :
    (startModuleBody polls entry generation).run.Only HostOp.ofStart := by
  refine Program.Only.tryBind (raising_only.mpr (calling_only.mpr trivial)) fun _ => ?_
  refine Program.Only.tryBind (raising_only.mpr (calling_only.mpr trivial)) fun before => ?_
  exact startObserved_only polls entry generation before

/-! ### What those calls leave alone -/

/-- The events of a snapshot. -/
def Event.observation : Event → Prop
  | .observed _ | .unobserved _ => True
  | _ => False

/-- The events `stop_module` adds to the trace. -/
def Event.ofStop : Event → Prop
  | .command issued => issued.removes
  | .observed _ | .unobserved _ => True
  | _ => False

/-- The events `start_module` itself adds to the trace. -/
def Event.ofInsert : Event → Prop
  | .command _ | .observed _ | .unobserved _ => True
  | _ => False

/-- The events `start_module` adds to the trace, the marks of the nested removal among them. -/
def Event.ofStart : Event → Prop
  | .command _ | .observed _ | .unobserved _ => True
  | event => event.removalMark

/-- `after` differs from `before` only in the module's residence, later clocks, and a trace
extended by allowed events. -/
structure Leaves (allowed : Event → Prop) (before after : World) : Prop where
  ledger : after.ledger = before.ledger
  marker : after.marker = before.marker
  holder : after.holder = before.holder
  clock : before.clock ≤ after.clock
  trace : ∃ added, after.trace = added ++ before.trace ∧ ∀ event ∈ added, allowed event

variable {allowed : Event → Prop}

theorem Leaves.refl (world : World) : Leaves allowed world world :=
  ⟨rfl, rfl, rfl, le_rfl, [], rfl, fun _ member => nomatch member⟩

theorem Leaves.trans {first second third : World} (left : Leaves allowed first second)
    (right : Leaves allowed second third) : Leaves allowed first third := by
  obtain ⟨earlier, earlierTrace, earlierAllowed⟩ := left.trace
  obtain ⟨later, laterTrace, laterAllowed⟩ := right.trace
  refine ⟨right.ledger.trans left.ledger, right.marker.trans left.marker,
    right.holder.trans left.holder, left.clock.trans right.clock, later ++ earlier, ?_, ?_⟩
  · rw [laterTrace, earlierTrace, List.append_assoc]
  · intro event member
    rcases List.mem_append.mp member with inLater | inEarlier
    · exact laterAllowed event inLater
    · exact earlierAllowed event inEarlier

theorem Leaves.record {world : World} {event : Event} (permitted : allowed event) :
    Leaves allowed world (world.record event) :=
  ⟨rfl, rfl, rfl, le_rfl, [event], rfl, fun _ member =>
    List.mem_singleton.mp member ▸ permitted⟩

/-- A call that only observes or waits, or one of the commands, leaves the rest alone. -/
theorem hostExec_leaves {truthful : Bool} {self : Process} {world after : World} {op : HostOp} {input : Env}
    {answer : op.Answer} (start : op.ofStart)
    (commands : ∀ command timeout, op = .runCommand command timeout → allowed (.command command))
    (observes : ∀ event : Event, event.observation → allowed event)
    (marks : ∀ event, op = .note event → allowed event)
    (answered : hostExec truthful self world op input = some (answer, after)) :
    Leaves allowed world after := by
  cases op with
  | snapshot deadline =>
    obtain ⟨-, rfl⟩ := Prod.mk.inj (Option.some.inj answered)
    refine .record (observes _ ?_)
    cases input.raises with
    | none => trivial
    | some error => trivial
  | runCommand command timeout =>
    obtain ⟨-, rfl⟩ := Prod.mk.inj (Option.some.inj answered)
    exact ⟨rfl, rfl, rfl, le_rfl, [_], rfl, fun _ member =>
      List.mem_singleton.mp member ▸ commands command timeout rfl⟩
  | note event =>
    obtain ⟨-, rfl⟩ := Prod.mk.inj (Option.some.inj answered)
    exact .record (marks event rfl)
  | monotonic =>
    obtain ⟨-, rfl⟩ := Prod.mk.inj (Option.some.inj answered)
    exact ⟨rfl, rfl, rfl, le_rfl, [], rfl, fun _ member => nomatch member⟩
  | hang => exact nomatch answered
  | storeRead | storeWrite | inhibitExists | inhibitCheck | inhibitUnlink | inhibitCreate | lock
  | unlock | bootId | readConfig | now => exact start.elim
  | discover | residentIdentity | refcnt | moduleExists | sleep | verifyArtifact | print =>
    obtain ⟨-, rfl⟩ := Prod.mk.inj (Option.some.inj answered)
    exact .refl world

theorem observation_ofStop {event : Event} (observation : event.observation) : event.ofStop := by
  cases event <;> first | exact observation | trivial

theorem hostExec_leaves_ofStop {truthful : Bool} {self : Process} {world after : World} {op : HostOp} {input : Env}
    {answer : op.Answer} (stop : op.ofStop)
    (answered : hostExec truthful self world op input = some (answer, after)) :
    Leaves Event.ofStop world after := by
  refine hostExec_leaves (HostOp.ofStop_ofStart stop) ?_ (fun _ => observation_ofStop) ?_ answered
  · rintro command timeout rfl
    exact stop
  · rintro event rfl
    exact stop.elim

theorem observation_ofInsert {event : Event} (observation : event.observation) :
    event.ofInsert := by
  cases event <;> first | exact observation | trivial

theorem hostExec_leaves_ofInsert {truthful : Bool} {self : Process} {world after : World}
    {op : HostOp} {input : Env} {answer : op.Answer} (insert : op.ofInsert)
    (answered : hostExec truthful self world op input = some (answer, after)) :
    Leaves Event.ofInsert world after := by
  refine hostExec_leaves (HostOp.ofInsert_ofStart insert) (fun _ _ _ => trivial)
    (fun _ => observation_ofInsert) ?_ answered
  rintro event rfl
  exact insert.elim

section Rules

variable {D : Discipline hostInterface World Env} {truthful : Bool} {self : Process} {kept : World → Prop}

/-- `stop_module` keeps whatever its kind of step keeps. -/
theorem stopModuleBody_keeps (answers : D.exec = hostExec truthful self)
    (stable : ∀ {world later}, D.rely world later → kept world → kept later)
    (each : ∀ {before after}, kept before → Leaves Event.ofStop before after →
      D.guar before after ∧ kept after)
    (polls : Nat) {world : World} (start : kept world) :
    D.Safe (fun _ later => kept later) (stopModuleBody polls).run world :=
  Discipline.Safe.of_only stable
    (fun _ stop _ _ _ _ holds answered =>
      each holds (hostExec_leaves_ofStop stop (answers ▸ answered)))
    (stopModuleBody_only polls) start

section Removals

variable {process : Process} (answers : D.exec = hostExec true process)
  (stable : ∀ ⦃world later⦄, D.rely world later → kept world →
    kept later ∧ later.module = world.module)
  (each : ∀ op, HostOp.ofStop op → ∀ ⦃before input answer after⦄, kept before →
    hostExec true process before op input = some (answer, after) →
      D.guar before after ∧ kept after)

include answers stable each

end Removals

end Rules

end Trigger6.Controller
