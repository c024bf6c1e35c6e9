/-
This file proves what every transcript of `stop_module` looks like, whatever the
host answers. Its commands are at most one unbind and then at most one removal.
Each is issued only after the observations that call for it, in order, with
nothing refused before it, and with a timeout that ends before the shared
deadline.
-/

import Trigger6.Controller.Transcripts

namespace Trigger6.Controller

open Interaction Program Trace

/-- A call that neither observes nor mutates anything but the clock and the log. -/
def HostOp.idle : HostOp → Prop
  | .monotonic | .print _ => True
  | _ => False

/-! ### What justifies a command of the stop -/

/-- The device an observation shows bound to the driver. -/
def Observation.bound (observation : Observation) : Option Device :=
  observation.device.filter fun device => device.driver = some "trigger6"

/-- The command was issued right after a clock reading before the deadline, which counts from
the first reading, with a timeout within the time remaining. -/
def InTime (timeout : ℚ) (older : Calls) : Prop :=
  ∃ started reading : ℚ, (readings older).getLast? = some started ∧
    older.head? = some ⟨.monotonic, reading⟩ ∧ reading < started + stopSeconds ∧
    0 < timeout ∧ timeout ≤ started + stopSeconds - reading

/-- What must come before an unbind: an owned module bound in the snapshot, and the same
generation still bound in a second discovery. -/
def UnbindJustified (interface : String) (older : Calls) : Prop :=
  ∃ observation device fresh deadline,
    List.Sublist [⟨.discover deadline, .ok (some fresh)⟩,
      ⟨.snapshot (some deadline), .ok observation⟩] older ∧
    observation.modulePresent ∧ observation.ownedModule ∧ observation.bound = some device ∧
    device.interface = interface ∧ fresh.generation = device.generation ∧
    fresh.driver = some "trigger6" ∧ commands older = []

/-- The unbind the observation called for, as the calls that must have been made. -/
def Unbound (observation : Observation) (calls : Calls) : Prop :=
  match observation.bound with
  | none => calls = []
  | some device => ∃ timeout output,
      calls = [⟨.runCommand (.unbind device.interface) timeout, .ok output⟩]

/-- What must come before a removal, in order: the snapshot of an owned module, the unbind it
called for, a settled count of zero, the same owned module again, the same generation without
a driver, and a last count of zero with no observation after it. -/
def RemovalJustified (older : Calls) : Prop :=
  ∃ observation fresh deadline unbinding idle rest,
    observation.modulePresent ∧ observation.ownedModule ∧ Unbound observation unbinding ∧
    fresh.map Device.generation = observation.device.map Device.generation ∧
    boundAtAll fresh = false ∧
    older = idle ++ ⟨.refcnt, .ok (some "0")⟩ :: rest ∧ (∀ call ∈ idle, call.op.idle) ∧
    List.Sublist ([⟨.discover deadline, .ok fresh⟩,
      ⟨.residentIdentity, .ok (true, true, observation.modulePath)⟩,
      ⟨.refcnt, .ok (some "0")⟩] ++ unbinding ++
      [⟨.snapshot (some deadline), .ok observation⟩]) rest ∧
    commands older = commands unbinding

/-- What must come before a call of the stop. -/
def StopJustified (call : Interaction.Call hostInterface) (older : Calls) : Prop :=
  match call.op with
  | .runCommand (.unbind interface) timeout =>
    UnbindJustified interface older ∧ InTime timeout older ∧ ∀ call ∈ older, raisedBy call = false
  | .runCommand .rmmod timeout =>
    RemovalJustified older ∧ InTime timeout older ∧ ∀ call ∈ older, raisedBy call = false
  | .runCommand _ _ => False
  | .note event => event.issued = none
  | _ => True

theorem stopJustified_judges : JudgesCommands StopJustified := by
  intro call older plain
  obtain ⟨op, answer⟩ := call
  cases op with
  | runCommand command timeout => cases plain
  | note event => exact plain
  | _ => trivial

/-! ### The parts of the stop -/

section Parts

variable {history : Calls} {deadline : ℚ}

theorem remainingTimeout_succeeds (maximum : ℚ) (positive : 0 < maximum) (phase : String) :
    Succeeds StopJustified history (remainingTimeout deadline maximum phase) fun later (timeout : ℚ) =>
      ∃ reading : ℚ, later = ⟨.monotonic, reading⟩ :: history ∧ reading < deadline ∧
        0 < timeout ∧ timeout ≤ deadline - reading := by
  refine Succeeds.bind (succeeds_monotonic stopJustified_judges fun reading => ?_)
  refine Succeeds.ite (fun _ => succeeds_refuse _ _) fun remains => ?_
  have remaining : 0 < deadline - reading := not_le.mp remains
  refine succeeds_pure ⟨reading, rfl, sub_pos.mp remaining, lt_min positive remaining, ?_⟩
  exact min_le_right _ _

/-- A command of the stop needs its justification right after a reading before the deadline. -/
theorem stopCommand_succeeds (phase failure : String) {command : Command}
    (justified : ∀ answer (timeout reading : ℚ), reading < deadline → 0 < timeout →
      timeout ≤ deadline - reading →
      StopJustified ⟨.runCommand command timeout, answer⟩ (⟨.monotonic, reading⟩ :: history)) :
    Succeeds StopJustified history (stopCommand deadline phase failure command) fun later _ =>
      ∃ timeout output, Adds [⟨.runCommand command timeout, .ok output⟩] history later := by
  refine Succeeds.catching ?_ fun _ _ => succeeds_refuse _ _
  refine Succeeds.bind ((remainingTimeout_succeeds (3 / 2) (by norm_num) phase).mono ?_)
  rintro later timeout ⟨reading, rfl, early, positive, within⟩
  refine Succeeds.bind (succeeds_runCommand (fun answer => ?_) fun output => ?_)
  · exact justified answer timeout reading early positive within
  · exact succeeds_pure ⟨timeout, output, .keep rfl (.skip rfl rfl (adds_nothing _))⟩

/-- The settle loop returns only after it read a count of zero. -/
theorem settleLoop_succeeds (started limit : ℚ) (polls : Nat) :
    Succeeds StopJustified history (settleLoop started limit polls) fun later _ =>
      Adds [⟨.refcnt, .ok (some "0")⟩] history later := by
  induction polls generalizing history with
  | zero => exact fun impossible => nomatch impossible
  | succ polls inductionHypothesis =>
    refine Succeeds.bind (succeeds_refcnt stopJustified_judges fun count => ?_)
    cases count with
    | none => exact succeeds_refuse _ _
    | some references =>
      refine Succeeds.ite (fun _ => succeeds_refuse _ _) fun _ => Succeeds.ite ?_ ?_
      · rintro rfl
        refine Succeeds.bind (succeeds_monotonic stopJustified_judges fun reading => ?_)
        exact succeeds_pure (.skip rfl rfl (.keep rfl (adds_nothing _)))
      · intro _
        refine Succeeds.bind (succeeds_monotonic stopJustified_judges fun reading => ?_)
        refine Succeeds.ite (fun _ => succeeds_refuse _ _) fun _ => ?_
        refine Succeeds.bind (succeeds_sleep stopJustified_judges ?_)
        refine inductionHypothesis.mono fun later _ adds => ?_
        exact Adds.trans (.skip rfl rfl (.skip rfl rfl (.skip rfl rfl (adds_nothing _)))) adds

theorem settleModuleReferences_succeeds (polls : Nat) :
    Succeeds StopJustified history (settleModuleReferences polls deadline) fun later _ =>
      Adds [⟨.refcnt, .ok (some "0")⟩] history later := by
  refine Succeeds.bind (succeeds_monotonic stopJustified_judges fun started => ?_)
  refine (settleLoop_succeeds _ _ polls).mono fun later _ adds => ?_
  exact Adds.trans (.skip rfl rfl (adds_nothing _)) adds

/-- An unbind before the removal, at the device the snapshot showed bound. -/
theorem unbindExact_succeeds {device : Device} {observation : Observation} {started : ℚ}
    (late : deadline = started + stopSeconds)
    (seen : history = [⟨.snapshot (some deadline), .ok observation⟩, ⟨.monotonic, started⟩])
    (present : observation.modulePresent) (owned : observation.ownedModule)
    (bound : observation.bound = some device) :
    Succeeds StopJustified history (unbindExact deadline device) fun later _ =>
      ∃ timeout output,
        Adds [⟨.runCommand (.unbind device.interface) timeout, .ok output⟩] history later := by
  refine Succeeds.bind (succeeds_discover stopJustified_judges fun fresh => ?_)
  refine Succeeds.ite (fun _ => succeeds_refuse _ _) fun same => ?_
  simp only [Bool.not_eq_true, Bool.or_eq_false_iff, Bool.not_eq_false', bne_eq_false_iff_eq]
    at same
  refine Succeeds.bind ((stopCommand_succeeds "unbind" "exact-interface unbind failed"
    fun answer timeout reading early positive within => ?_).mono ?_)
  · cases fresh with
    | none => exact absurd same.1 (by decide)
    | some fresh =>
      refine ⟨⟨observation, device, fresh, deadline, ?_, present, owned, bound, rfl,
        Option.some.inj same.2, of_decide_eq_true same.1, ?_⟩, ⟨started, reading, ?_, rfl, ?_⟩, ?_⟩
      · rw [seen]
        exact .cons _ (.cons_cons _ (.cons_cons _ (List.nil_sublist _)))
      · rw [seen]
        rfl
      · rw [seen]
        rfl
      · rw [← late]
        exact ⟨early, positive, within⟩
      · rw [seen]
        simp only [List.forall_mem_cons, List.not_mem_nil, false_imp_iff, implies_true, and_true]
        exact ⟨rfl, rfl, rfl, rfl⟩
  · rintro later - ⟨timeout, output, adds⟩
    refine succeeds_printEvent stopJustified_judges ⟨timeout, output, ?_⟩
    exact .skip rfl rfl (Adds.trans (.skip rfl rfl (adds_nothing _)) adds)

/-- The unbind the observation called for was made, or none was called for. -/
theorem unbindIfBound_succeeds {observation : Observation} {started : ℚ}
    (late : deadline = started + stopSeconds)
    (seen : history = [⟨.snapshot (some deadline), .ok observation⟩, ⟨.monotonic, started⟩])
    (present : observation.modulePresent) (owned : observation.ownedModule) :
    Succeeds StopJustified history (unbindIfBound deadline observation.device) fun later _ =>
      ∃ unbinding, Unbound observation unbinding ∧ Adds unbinding history later := by
  cases shown : observation.device with
  | none =>
    refine succeeds_pure ⟨[], ?_, adds_nothing _⟩
    unfold Unbound Observation.bound
    rw [shown]
    rfl
  | some device =>
    refine Succeeds.ite (fun driven => ?_) fun free => succeeds_pure ⟨[], ?_, adds_nothing _⟩
    · have bound : observation.bound = some device := by
        rw [Observation.bound, shown, Option.filter_some, if_pos (decide_eq_true driven)]
      refine (unbindExact_succeeds late seen present owned bound).mono ?_
      rintro later - ⟨timeout, output, adds⟩
      refine ⟨_, ?_, adds⟩
      unfold Unbound
      rw [bound]
      exact ⟨timeout, output, rfl⟩
    · unfold Unbound Observation.bound
      rw [shown, Option.filter_some, if_neg (by simpa using free)]

/-- The removal and everything checked between it and the unbind. -/
theorem removeModule_succeeds (polls : Nat) {observation : Observation} {started : ℚ}
    {before unbinding : Calls} (late : deadline = started + stopSeconds)
    (seen : before = [⟨.snapshot (some deadline), .ok observation⟩, ⟨.monotonic, started⟩])
    (present : observation.modulePresent) (owned : observation.ownedModule)
    (unbound : Unbound observation unbinding) (adds : Adds unbinding before history) :
    Succeeds StopJustified history (removeModule polls deadline observation)
      fun _ _ => True := by
  refine Succeeds.bind ((settleModuleReferences_succeeds polls).mono fun settled _ settles => ?_)
  refine Succeeds.bind (succeeds_residentIdentity stopJustified_judges fun identity => ?_)
  obtain ⟨resident, mine, selected⟩ := identity
  refine Succeeds.ite (fun _ => succeeds_refuse _ _) fun identified => ?_
  refine Succeeds.bind (succeeds_discover stopJustified_judges fun fresh => ?_)
  refine Succeeds.ite (fun _ => succeeds_refuse _ _) fun same => ?_
  refine Succeeds.ite (fun _ => succeeds_refuse _ _) fun free => ?_
  refine Succeeds.bind (succeeds_refcnt stopJustified_judges fun count => ?_)
  refine Succeeds.ite (fun _ => succeeds_refuse _ _) fun zero => ?_
  refine Succeeds.bind (succeeds_printEvent stopJustified_judges ?_)
  refine Succeeds.bind ((stopCommand_succeeds "ordinary removal" "ordinary module removal failed"
    fun answer timeout reading early positive within => ?_).mono fun later _ _ => ?_)
  · have identity : resident = true ∧ mine = true ∧ selected = observation.modulePath := by
      simpa [and_assoc] using identified
    have shown : count = some "0" := by simpa using zero
    obtain ⟨rfl, rfl, rfl⟩ := identity
    rw [shown]
    have all : Adds ([⟨.refcnt, .ok (some "0")⟩] ++ unbinding) before (⟨.monotonic, reading⟩ ::
        ⟨.print "module-references-released", .ok ()⟩ :: ⟨.refcnt, .ok (some "0")⟩ ::
        ⟨.discover deadline, .ok fresh⟩ ::
        ⟨.residentIdentity, .ok (true, true, observation.modulePath)⟩ :: settled) :=
      .skip rfl rfl (.skip rfl rfl (.skip rfl rfl (.skip rfl rfl (.skip rfl rfl
        (adds.trans settles)))))
    refine ⟨?_, ⟨started, reading, all.started (by rw [seen]; rfl), rfl, ?_⟩, all.quiet ?_⟩
    · refine ⟨observation, fresh, deadline, unbinding, [⟨.monotonic, reading⟩, ⟨.print _, .ok ()⟩],
        _, present, owned, unbound, by simpa using same, by simpa using free, rfl, ?_, ?_, ?_⟩
      · exact List.forall_mem_cons.mpr ⟨trivial, List.forall_mem_singleton.mpr trivial⟩
      · refine .cons_cons _ (.cons_cons _ (.trans ?_ (adds.trans settles).sublist))
        rw [seen, List.singleton_append, List.cons_append]
        exact .cons_cons _ ((List.Sublist.refl unbinding).append (.cons_cons _ (List.nil_sublist _)))
      · rw [all.commands, commands_append, seen]
        exact List.append_nil _
    · rw [← late]
      exact ⟨early, positive, within⟩
    · rw [seen]
      exact List.forall_mem_cons.mpr ⟨rfl, List.forall_mem_singleton.mpr rfl⟩
  · refine Succeeds.bind (succeeds_moduleExists stopJustified_judges fun remains => ?_)
    exact Succeeds.ite (fun _ => succeeds_refuse _ _) fun _ => succeeds_pure trivial

end Parts

/-! ### Every transcript of the stop -/

theorem stopModuleBody_succeeds (polls : Nat) :
    Succeeds StopJustified [] (stopModuleBody polls) fun _ _ => True := by
  refine Succeeds.bind (succeeds_monotonic stopJustified_judges fun started => ?_)
  refine Succeeds.bind (succeeds_snapshot stopJustified_judges fun observation => ?_)
  refine Succeeds.ite (fun _ => succeeds_pure trivial) fun present => ?_
  refine Succeeds.ite (fun _ => succeeds_refuse _ _) fun owned => ?_
  have present : observation.modulePresent := by simpa using present
  have owned : observation.ownedModule := by simpa using owned
  refine Succeeds.bind ((unbindIfBound_succeeds rfl rfl present owned).mono ?_)
  rintro later - ⟨unbinding, unbound, adds⟩
  exact removeModule_succeeds polls rfl rfl present owned unbound adds

/-- Justified commands come in one of four orders. -/
theorem commands_justified {calls : Calls} (justified : AtEach StopJustified calls) :
    commands calls = [] ∨ (∃ interface, commands calls = [.unbind interface]) ∨
      commands calls = [.rmmod] ∨ ∃ interface, commands calls = [.rmmod, .unbind interface] := by
  induction calls with
  | nil => exact .inl rfl
  | cons call older inductionHypothesis =>
    obtain ⟨head, rest⟩ := justified
    cases issued : commandOf call with
    | none =>
      rw [commands, List.filterMap_cons_none issued]
      exact inductionHypothesis rest
    | some command =>
      rw [commands, List.filterMap_cons_some issued, ← commands]
      obtain ⟨op, answer⟩ := call
      cases op with
      | runCommand issuedCommand timeout =>
        obtain rfl : issuedCommand = command := Option.some.inj issued
        cases issuedCommand with
        | unbind interface =>
          obtain ⟨⟨_, _, _, _, _, _, _, _, _, _, _, none⟩, -⟩ := head
          exact .inr (.inl ⟨interface, by rw [none]⟩)
        | rmmod =>
          obtain ⟨⟨observation, _, _, unbinding, _, _, _, _, unbound, _, _, _, _, _, same⟩, -⟩ := head
          unfold Unbound at unbound
          rw [same]
          cases bound : observation.bound with
          | none =>
            rw [bound] at unbound
            exact .inr (.inr (.inl (by rw [unbound]; rfl)))
          | some device =>
            rw [bound] at unbound
            obtain ⟨timeout, output, only⟩ := unbound
            exact .inr (.inr (.inr ⟨device.interface, by rw [only]; rfl⟩))
        | insmod => exact head.elim
        | pacman => exact head.elim
      | note event => cases issued.symm.trans head
      | _ => cases issued

/-- No justified command comes after a call that raised. -/
theorem quiet_justified {calls : Calls} (justified : AtEach StopJustified calls) :
    NeverAfter raisedBy (fun call => (commandOf call).isSome) calls := by
  induction calls with
  | nil => exact neverAfter_nil
  | cons call older inductionHypothesis =>
    refine neverAfter_cons.mpr ⟨fun earlier member raised => ?_, inductionHypothesis justified.2⟩
    obtain ⟨op, answer⟩ := call
    cases op with
    | runCommand command timeout =>
      cases command with
      | unbind interface =>
        exact absurd raised (by rw [justified.1.2.2 earlier member]; decide)
      | rmmod => exact absurd raised (by rw [justified.1.2.2 earlier member]; decide)
      | insmod => exact justified.1.elim
      | pacman => exact justified.1.elim
    | note event => exact (congrArg Option.isSome justified.1).trans rfl
    | _ => rfl

/-- Every transcript of `stop_module`, complete or cut short: at most one unbind and then at
most one removal, each justified and in time, and no command after a call that raised. -/
theorem exact_stop (polls : Nat) (transcript : Calls) (outcome : Option (Except PyError Unit))
    (reaches : (stopModuleBody polls).run.Reaches [] transcript outcome) :
    (∃ interface, (commands transcript).reverse <+: [.unbind interface, .rmmod] ∨
      (commands transcript).reverse <+: [.rmmod]) ∧
    (∀ newer older interface timeout answer,
      transcript = newer ++ ⟨.runCommand (.unbind interface) timeout, answer⟩ :: older →
        UnbindJustified interface older ∧ InTime timeout older) ∧
    (∀ newer older timeout answer,
      transcript = newer ++ ⟨.runCommand .rmmod timeout, answer⟩ :: older →
        RemovalJustified older ∧ InTime timeout older) ∧
    NeverAfter raisedBy (fun call => (commandOf call).isSome) transcript := by
  obtain ⟨justified, -⟩ := (stopModuleBody_succeeds polls).reaches trivial reaches
  refine ⟨?_, fun newer older interface timeout answer same => ?_,
    fun newer older timeout answer same => ?_, quiet_justified justified⟩
  · rcases commands_justified justified with none | ⟨interface, unbind⟩ | remove | ⟨interface, both⟩
    · exact ⟨"", .inl (by rw [none]; exact List.nil_prefix)⟩
    · exact ⟨interface, .inl (by rw [unbind]; exact ⟨[.rmmod], rfl⟩)⟩
    · exact ⟨"", .inr (by rw [remove]; exact List.prefix_refl _)⟩
    · exact ⟨interface, .inl (by rw [both]; exact List.prefix_refl _)⟩
  · have head : StopJustified _ older := justified.split same
    exact ⟨head.1, head.2.1⟩
  · have head : StopJustified _ older := justified.split same
    exact ⟨head.1, head.2.1⟩

/-- The input of a call on the sample host while its device is bound to the driver. -/
def boundEnv : Env :=
  { sampleEnv true "0" with
    observation := { sampleObservation true with
      device := some { sampleDevice with driver := some "trigger6" } }
    device := some { sampleDevice with driver := some "trigger6" } }

/-- A stop on the sample host: one unbind, one removal. -/
def boundStop : Calls :=
  (stopModuleBody 2).run.transcript (hostExec false .operator) (.begin sampleLedger false true 0 0)
    (List.replicate 5 boundEnv ++ List.replicate 11 (sampleEnv true "0"))

theorem boundStop_exact : commands boundStop = [.rmmod, .unbind "1-1:1.0"] ∧
    NeverAfter raisedBy (fun call => (commandOf call).isSome) boundStop := by
  have reaches := reaches_transcript (hostExec false .operator) (stopModuleBody 2).run
    (.begin sampleLedger false true 0 0)
    (List.replicate 5 boundEnv ++ List.replicate 11 (sampleEnv true "0")) []
  rw [List.append_nil] at reaches
  exact ⟨by decide +kernel, (exact_stop 2 boundStop _ reaches).2.2.2⟩

end Trigger6.Controller
