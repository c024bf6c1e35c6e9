/-
This file proves what every transcript of `start_module` looks like, whatever
the host answers: at most one insertion, made only between two snapshots that
both show the generation ready and unbound, and a normal return only after a
third that shows the insertion took. A tick makes at most one cleanup stop, and
only after its start has raised.
-/

import Trigger6.Controller.ExactStop

namespace Trigger6.Controller

open Interaction Program Trace

/-! ### What justifies a command of the start -/

/-- The command inserts the module. -/
def Command.inserts : Command → Bool
  | insmod _ _ _ => true
  | _ => false

/-- What must come before an insertion of `generation` at `devicePath`: the artifact check, a
first ready snapshot, the reviewed packages, the removal of an old module if there was one, and
a second ready snapshot that shows none. Nothing else was called. -/
def InsertJustified (generation devicePath : String) (older : Calls) : Prop :=
  ∃ before fresh device removing,
    before.device = some device ∧ device.path = devicePath ∧
    readyFor before generation ∧ before.hyprlandPresent ∧
    readyFor fresh generation ∧ fresh.modulePresent = false ∧
    older = ⟨.snapshot none, .ok fresh⟩ :: (removing ++
      [⟨.runCommand .pacman 2, .ok compositorPackages⟩, ⟨.snapshot none, .ok before⟩,
        ⟨.verifyArtifact, .ok ()⟩]) ∧
    (before.modulePresent = false → removing = []) ∧
    ∀ command ∈ commands removing, command.removes

/-- What must come before a call of the start. The commands of the nested removal are judged by
its own calls. -/
def StartJustified (entry : Entry) (generation : String) (call : Interaction.Call hostInterface)
    (older : Calls) : Prop :=
  match call.op with
  | .runCommand (.unbind interface) _ => ∃ own rest, older = own ++ rest ∧ UnbindJustified interface own
  | .runCommand .rmmod _ => ∃ own rest, older = own ++ rest ∧ RemovalJustified own
  | .runCommand (.insmod path devicePath arguments) _ =>
    path = entry.path ∧ arguments = profileArguments ∧ InsertJustified generation devicePath older
  | .runCommand .pacman _ => True
  | .note event => event.issued = none
  | _ => True

variable {entry : Entry} {generation : String}

theorem startJustified_judges : JudgesCommands (StartJustified entry generation) := by
  intro call older plain
  obtain ⟨op, answer⟩ := call
  cases op with
  | runCommand command timeout => cases plain
  | note event => exact plain
  | _ => trivial

/-- A call of the nested removal is judged by the calls of that removal. -/
theorem startJustified_of_stop {call : Interaction.Call hostInterface} {own rest : Calls}
    (justified : StopJustified call own) : StartJustified entry generation call (own ++ rest) := by
  obtain ⟨op, answer⟩ := call
  cases op with
  | runCommand command timeout =>
    cases command with
    | unbind interface => exact ⟨own, rest, rfl, justified.1⟩
    | rmmod => exact ⟨own, rest, rfl, justified.1⟩
    | insmod => exact justified.elim
    | pacman => trivial
  | note event => exact justified
  | _ => trivial

theorem removes_justified {calls : Calls} (justified : AtEach StopJustified calls) :
    ∀ command ∈ commands calls, command.removes := by
  rcases commands_justified justified with none | ⟨interface, unbind⟩ | remove | ⟨interface, both⟩
  · rw [none]
    exact fun _ member => nomatch member
  · rw [unbind]
    exact List.forall_mem_singleton.mpr rfl
  · rw [remove]
    exact List.forall_mem_singleton.mpr rfl
  · rw [both]
    exact List.forall_mem_cons.mpr ⟨rfl, List.forall_mem_singleton.mpr rfl⟩

/-! ### The parts of the start -/

section Parts

variable {history : Calls}

/-- The marks of a traced method come around the calls of its body. -/
theorem traced_succeeds {good : Interaction.Call hostInterface → Calls → Prop} {Value : Type} {method : Method}
    {body : Host Value} {post : Calls → Value → Prop} (judges : JudgesCommands good)
    (succeeds : Succeeds good (⟨.note (.entered method), ()⟩ :: history) body
      fun later value => post (⟨.note (.returned method), ()⟩ :: later) value) :
    Succeeds good history (traced method body) post := by
  refine Succeeds.bind fun _ => ⟨judges _ _ rfl, fun _ _ => ?_⟩
  refine Succeeds.bind ?_
  refine Records.tryCatch (Records.mono succeeds fun later result holds => ?_)
  cases result with
  | ok value =>
    intro other same
    rw [← Except.ok.inj same]
    exact Succeeds.bind fun _ => ⟨judges _ _ rfl, fun _ _ => succeeds_pure (holds value rfl)⟩
  | error error => exact Succeeds.bind fun _ => ⟨judges _ _ rfl, fun _ _ => succeeds_throw _ _⟩

/-- The removal of an old module adds only removing commands. -/
theorem removeOld_succeeds (polls : Nat) (present : Bool) :
    Succeeds (StartJustified entry generation) history (removeOld polls present) fun later _ =>
      ∃ removing, later = removing ++ history ∧ (present = false → removing = []) ∧
        ∀ command ∈ commands removing, command.removes := by
  refine Succeeds.ite (fun shown => ?_) fun absent => ?_
  · refine traced_succeeds startJustified_judges ?_
    have framed := ((stopModuleBody_succeeds polls).each trivial).frame
      (⟨.note (.entered (.stopModule .removal)), ()⟩ :: history)
    refine (framed.weaken ?_).mono ?_
    · rintro call older ⟨mine, rfl, justified⟩
      exact startJustified_of_stop justified
    · rintro later result ⟨mine, rfl, justified, -⟩ value -
      refine ⟨⟨.note (.returned (.stopModule .removal)), ()⟩ :: (mine ++
        [⟨.note (.entered (.stopModule .removal)), ()⟩]), ?_, fun absent => ?_, ?_⟩
      · rw [List.cons_append, List.append_assoc, List.singleton_append]
      · rw [shown] at absent
        cases absent
      · rw [commands, List.filterMap_cons_none rfl, List.filterMap_append, ← commands]
        refine fun command member => removes_justified justified command ?_
        simpa [commandOf, Event.issued] using member
  · exact succeeds_pure ⟨[], rfl, fun _ => rfl, fun _ member => absurd member List.not_mem_nil⟩

/-- The insertion was made on this device, and the last snapshot shows it took. -/
def Inserted (entry : Entry) (generation : String) (device : Device) (later : Calls) : Prop :=
  ∃ after output older,
    later = ⟨.snapshot none, .ok after⟩ ::
      ⟨.runCommand (.insmod entry.path device.path profileArguments) 8, .ok output⟩ :: older ∧
    insertedAs after generation

theorem insertModule_succeeds {device : Device}
    (justified : ∀ fresh, readyFor fresh generation → fresh.modulePresent = false →
      InsertJustified generation device.path (⟨.snapshot none, .ok fresh⟩ :: history)) :
    Succeeds (StartJustified entry generation) history (insertModule entry device generation)
      fun later _ => Inserted entry generation device later := by
  refine Succeeds.bind (succeeds_snapshot startJustified_judges fun fresh => ?_)
  refine Succeeds.ite (fun _ => succeeds_refuse _ _) fun ready => ?_
  have fit : readyFor fresh generation ∧ fresh.modulePresent = false := by simpa using ready
  refine Succeeds.bind (succeeds_runCommand (fun answer => ?_) fun output => ?_)
  · exact ⟨rfl, rfl, justified fresh fit.1 fit.2⟩
  · refine Succeeds.bind (succeeds_snapshot startJustified_judges fun after => ?_)
    refine Succeeds.ite (fun _ => succeeds_refuse _ _) fun took => ?_
    exact succeeds_pure ⟨after, output, _, rfl, by simpa using took⟩

theorem startOn_succeeds (polls : Nat) {before : Observation} {device : Device}
    (shown : before.device = some device)
    (seen : history = [⟨.snapshot none, .ok before⟩, ⟨.verifyArtifact, .ok ()⟩]) :
    Succeeds (StartJustified entry generation) history
      (startOn polls entry generation before device)
      fun later _ => Inserted entry generation device later := by
  refine Succeeds.ite (fun _ => succeeds_refuse _ _) fun ready => ?_
  have fit : readyFor before generation ∧ before.hyprlandPresent := by simpa using ready
  refine Succeeds.bind (succeeds_runCommand (fun _ => trivial) fun packages => ?_)
  refine Succeeds.ite (fun _ => succeeds_refuse _ _) fun reviewed => ?_
  have reviewed : packages = compositorPackages := by simpa using reviewed
  refine Succeeds.bind ((removeOld_succeeds polls before.modulePresent).mono ?_)
  rintro later - ⟨removing, rfl, absent, removes⟩
  refine insertModule_succeeds fun fresh again gone => ?_
  refine ⟨before, fresh, device, removing, shown, rfl, fit.1, fit.2, again, gone, ?_, absent, removes⟩
  rw [reviewed, seen]

theorem startModuleBody_succeeds (polls : Nat) :
    Succeeds (StartJustified entry generation) [] (startModuleBody polls entry generation)
      fun later _ => ∃ device, Inserted entry generation device later := by
  refine Succeeds.bind fun verified => ⟨trivial, ?_⟩
  rintro - rfl
  refine Succeeds.bind (succeeds_snapshot startJustified_judges fun before => ?_)
  unfold startObserved
  cases shown : before.device with
  | none => exact succeeds_refuse _ _
  | some device =>
    exact (startOn_succeeds polls shown rfl).mono fun later _ inserted => ⟨device, inserted⟩

end Parts

/-! ### Every transcript of the start -/

/-- A justified insertion is the first. -/
theorem insertJustified_first {generation devicePath : String} {older : Calls}
    (justified : InsertJustified generation devicePath older) :
    (commands older).countP Command.inserts = 0 := by
  obtain ⟨_, _, _, removing, -, -, -, -, -, -, rfl, -, removes⟩ := justified
  rw [commands, List.filterMap_cons_none rfl, List.filterMap_append, ← commands,
    List.countP_append, List.countP_eq_zero.mpr]
  · rfl
  · intro command member inserts
    have taken := removes command member
    cases command with
    | insmod => cases taken
    | _ => cases inserts

theorem insertions_justified {calls : Calls}
    (justified : AtEach (StartJustified entry generation) calls) :
    (commands calls).countP Command.inserts ≤ 1 := by
  induction calls with
  | nil => exact Nat.zero_le 1
  | cons call older inductionHypothesis =>
    have rest := inductionHypothesis justified.2
    cases issued : commandOf call with
    | none =>
      rw [commands, List.filterMap_cons_none issued]
      exact rest
    | some command =>
      rw [commands, List.filterMap_cons_some issued, ← commands, List.countP_cons]
      by_cases inserts : command.inserts
      · obtain ⟨op, answer⟩ := call
        cases op with
        | runCommand issuedCommand timeout =>
          obtain rfl : issuedCommand = command := Option.some.inj issued
          cases issuedCommand with
          | insmod path devicePath arguments =>
            rw [insertJustified_first justified.1.2.2, if_pos inserts]
          | _ => cases inserts
        | note event => cases issued.symm.trans justified.1
        | _ => cases issued
      · rw [if_neg inserts]
        exact rest

/-! ### The cleanup of a failed start -/

/-- The call leaves this mark in the trace. -/
def marks (event : Event) (call : Interaction.Call hostInterface) : Bool :=
  match call.op with
  | .note noted => noted = event
  | _ => false

/-- A cleanup stop has begun. -/
abbrev cleanupBegins : Interaction.Call hostInterface → Bool := marks (.entered (.stopModule .cleanup))

/-- A start has raised. -/
abbrev startRaises : Interaction.Call hostInterface → Bool := marks (.raised .startModule)

/-- A cleanup stop begins only after a start has raised, and only once. -/
def CleanupJustified (call : Interaction.Call hostInterface) (older : Calls) : Prop :=
  cleanupBegins call → (∃ earlier ∈ older, startRaises earlier) ∧
    ∀ earlier ∈ older, cleanupBegins earlier = false

/-- The operation begins no cleanup stop. -/
def HostOp.noCleanup (op : HostOp) : Prop :=
  op ≠ .note (.entered (.stopModule .cleanup))

/-- No cleanup stop has begun yet. -/
def NoCleanup (calls : Calls) : Prop :=
  ∀ call ∈ calls, cleanupBegins call = false

theorem cleanupBegins_eq {call : Interaction.Call hostInterface} (other : call.op.noCleanup) :
    cleanupBegins call = false := by
  obtain ⟨op, answer⟩ := call
  cases op with
  | note event => exact decide_eq_false fun same => other (congrArg HostOp.note same)
  | _ => rfl

theorem noCleanup_of_ofStart {op : HostOp} (start : op.ofStart) : op.noCleanup := by
  rintro rfl
  exact start

section Cleanup

variable {Value : Type} {history : Calls}

/-- A program that begins no cleanup leaves it so. -/
theorem only_noCleanup {program : Program hostInterface Value}
    (only : program.Only HostOp.noCleanup) (none : NoCleanup history) :
    program.Records CleanupJustified (fun later _ => NoCleanup later) history := by
  refine (Records.of_only only fun op other answer before begins => ?_).mono ?_
  · exact absurd begins (by rw [cleanupBegins_eq other]; decide)
  · rintro later _ ⟨own, rfl, others⟩ call member
    rcases List.mem_append.mp member with newer | older
    · exact cleanupBegins_eq (others call newer)
    · exact none call older

/-- A program that begins no cleanup may run after anything. -/
theorem only_justified {program : Program hostInterface Value}
    (only : program.Only HostOp.noCleanup) :
    program.Records CleanupJustified (fun _ _ => True) history := by
  refine (Records.of_only only fun op other answer before begins => ?_).mono fun _ _ _ => trivial
  exact absurd begins (by rw [cleanupBegins_eq other]; decide)

/-- A mark that begins no cleanup is on record afterwards. -/
theorem note_marked {event : Event} {post : Calls → Except PyError Unit → Prop}
    (other : event ≠ .entered (.stopModule .cleanup))
    (marked : post (⟨.note event, ()⟩ :: history) (.ok ())) :
    (note event).run.Records CleanupJustified post history :=
  fun _ => ⟨fun begins => absurd (of_decide_eq_true begins) other, marked⟩

theorem noCleanup_cons {event : Event} (other : event ≠ .entered (.stopModule .cleanup))
    (none : NoCleanup history) : NoCleanup (⟨.note event, ()⟩ :: history) :=
  List.forall_mem_cons.mpr ⟨decide_eq_false other, none⟩

/-- A start begins no cleanup, and says when it raises. -/
theorem startModule_marked (polls : Nat) (none : NoCleanup history) :
    (startModule polls entry generation).run.Records CleanupJustified
      (fun later result => NoCleanup later ∧
        ∀ error, result = .error error → ∃ call ∈ later, startRaises call) history := by
  refine Records.tryBind (note_marked (by decide) ?_)
  have entered : NoCleanup (⟨.note (.entered .startModule), ()⟩ :: history) :=
    noCleanup_cons (by decide) none
  have only := (startModuleBody_only polls entry generation).mono fun _ => noCleanup_of_ofStart
  refine Records.tryBind (Records.tryCatch ((only_noCleanup only entered).mono ?_))
  intro later result begun
  cases result with
  | ok value =>
    refine Records.tryBind (note_marked (by decide) ?_)
    exact ⟨noCleanup_cons (by decide) begun, fun _ same => nomatch same⟩
  | error error =>
    refine Records.tryBind (note_marked (by decide) ?_)
    exact ⟨noCleanup_cons (by decide) begun, fun _ _ => ⟨_, List.mem_cons_self, rfl⟩⟩

/-- The cleanup stop, entered for the first time after a start that raised. -/
theorem cleanup_justified (polls : Nat) (none : NoCleanup history)
    (raised : ∃ call ∈ history, startRaises call) :
    (stopModule polls .cleanup).run.Records CleanupJustified (fun _ _ => True) history := by
  refine Records.tryBind fun _ => ⟨fun _ => ⟨raised, none⟩, ?_⟩
  have only := (stopModuleBody_only polls).mono fun _ stop =>
    noCleanup_of_ofStart (HostOp.ofStop_ofStart stop)
  refine Records.tryBind (Records.tryCatch ((only_justified only).mono fun later result _ => ?_))
  cases result with
  | ok value => exact Records.tryBind (note_marked (by decide) trivial)
  | error error => exact Records.tryBind (note_marked (by decide) trivial)

theorem caughtBy_justified {handler : String → Host Value} {error : PyError}
    (handled : ∀ text, (handler text).run.Records CleanupJustified (fun _ _ => True) history) :
    (caughtBy handler error).run.Records CleanupJustified (fun _ _ => True) history := by
  unfold caughtBy
  cases error.caught with
  | none => trivial
  | some text => exact handled text

theorem tickStart_justified (polls : Nat) (state : State) (none : NoCleanup history) :
    (tickStart polls entry state generation).run.Records CleanupJustified (fun _ _ => True)
      history := by
  refine Records.tryCatch (Records.tryBind ((startModule_marked polls none).mono ?_))
  rintro later result ⟨still, raised⟩
  cases result with
  | ok value => trivial
  | error error =>
    refine caughtBy_justified fun text => Records.tryCatch (Records.tryBind ?_)
    refine (cleanup_justified polls still (raised error rfl)).mono fun last result _ => ?_
    cases result with
    | ok value => trivial
    | error error => exact caughtBy_justified fun _ => trivial

theorem now_noCleanup : now.run.Only HostOp.noCleanup :=
  steadily_only.mpr (calling_only.mpr fun same => nomatch same)

theorem storeWrite_noCleanup (state : State) : (storeWrite state).run.Only HostOp.noCleanup :=
  raising_only.mpr (calling_only.mpr fun same => nomatch same)

theorem persist_noCleanup (state : State) : (persist state).run.Only HostOp.noCleanup :=
  Only.tryBind (storeWrite_noCleanup state) fun _ => trivial

/-- A part of the tick that begins no cleanup, before one that is justified without any. -/
theorem noCleanup_then {Next : Type} {first : Host Value} {rest : Value → Host Next}
    (only : first.run.Only HostOp.noCleanup) (none : NoCleanup history)
    (justified : ∀ {later} value, NoCleanup later →
      (rest value).run.Records CleanupJustified (fun _ _ => True) later) :
    (first >>= rest).run.Records CleanupJustified (fun _ _ => True) history := by
  refine Records.tryBind ((only_noCleanup only none).mono fun later result still => ?_)
  cases result with
  | ok value => exact justified value still
  | error error => trivial

/-- A part of the tick after which nothing begins a cleanup. -/
theorem then_noCleanup {Next : Type} {first : Host Value} {rest : Value → Host Next}
    (justified : first.run.Records CleanupJustified (fun _ _ => True) history)
    (only : ∀ value, (rest value).run.Only HostOp.noCleanup) :
    (first >>= rest).run.Records CleanupJustified (fun _ _ => True) history := by
  refine Records.tryBind (justified.mono fun later result _ => ?_)
  cases result with
  | ok value => exact only_justified (only value)
  | error error => trivial

theorem tickStop_noCleanup (polls : Nat) (state : State) :
    (tickStop polls state).run.Only HostOp.noCleanup := by
  refine Only.tryCatch (Only.tryBind ?_ fun _ => trivial) (caughtBy_only fun _ => trivial)
  exact traced_only (fun same => nomatch same) (fun same => nomatch same) (fun same => nomatch same)
    ((stopModuleBody_only polls).mono fun _ stop => noCleanup_of_ofStart (HostOp.ofStop_ofStart stop))

theorem tickMutate_justified (polls : Nat) (state : State) (action : Action)
    (none : NoCleanup history) :
    (tickMutate polls entry state action generation).run.Records CleanupJustified
      (fun _ _ => True) history := by
  cases action with
  | wait => trivial
  | start =>
    refine noCleanup_then now_noCleanup none fun stamp still => ?_
    refine noCleanup_then now_noCleanup still fun last still => ?_
    refine noCleanup_then (storeWrite_noCleanup _) still fun _ still => ?_
    exact then_noCleanup (tickStart_justified polls _ still) persist_noCleanup
  | stop =>
    refine only_justified (Only.tryBind (storeWrite_noCleanup _) fun _ => ?_)
    exact Only.tryBind (tickStop_noCleanup polls _) persist_noCleanup

theorem tickDecided_justified (polls : Nat) (observation : Observation) (state : State)
    (action : Action) (none : NoCleanup history) :
    (tickDecided polls entry observation state action).run.Records CleanupJustified
      (fun _ _ => True) history := by
  refine noCleanup_then (storeWrite_noCleanup state) none fun _ still => ?_
  cases action with
  | wait => trivial
  | start | stop =>
    cases observation.device with
    | none => trivial
    | some device => exact tickMutate_justified polls state _ still

/-- A tick justifies its cleanup. -/
theorem tick_justified (polls : Nat) (state : State) :
    (tick polls entry state).run.Records CleanupJustified (fun _ _ => True) [] := by
  refine Records.tryBind (note_marked (by decide) ?_)
  have entered : NoCleanup [⟨.note (.entered .tick), ()⟩] :=
    noCleanup_cons (by decide) fun _ member => absurd member List.not_mem_nil
  have body : (tickBody polls entry state).run.Records CleanupJustified (fun _ _ => True)
      [⟨.note (.entered .tick), ()⟩] := by
    refine noCleanup_then ?_ entered fun seen still => ?_
    · refine Only.tryCatch (Only.tryMap (raising_only.mpr (calling_only.mpr fun same => by cases same))) ?_
      exact caughtBy_only fun _ => Only.tryMap (persist_noCleanup _)
    · cases seen with
      | inl observation =>
        exact noCleanup_then now_noCleanup still fun time still =>
          tickDecided_justified polls observation _ _ still
      | inr failed => trivial
  refine then_noCleanup (Records.tryCatch (body.mono fun later result _ => ?_)) fun _ => ?_
  · cases result with
    | ok value => trivial
    | error error => exact Records.tryBind (note_marked (by decide) trivial)
  · exact Only.tryBind (steadily_only.mpr (calling_only.mpr fun same => by cases same)) fun _ => trivial

end Cleanup

theorem cleanups_justified {calls : Calls} (justified : AtEach CleanupJustified calls) :
    calls.countP cleanupBegins ≤ 1 := by
  induction calls with
  | nil => exact Nat.zero_le 1
  | cons call older inductionHypothesis =>
    rw [List.countP_cons]
    by_cases begins : cleanupBegins call
    · rw [List.countP_eq_zero.mpr fun earlier member => by
        rw [(justified.1 begins).2 earlier member]; decide, if_pos begins]
    · rw [if_neg begins]
      exact inductionHypothesis justified.2

/-! ### The guarantee -/

/-- Every transcript of `start_module` inserts at most once, each insertion and each removal
justified, and a normal return comes right after an insertion that a snapshot shows took. Every
transcript of a tick begins at most one cleanup stop, after its start has raised. -/
theorem guarded_insertion (polls : Nat) (entry : Entry) (generation : String) (state : State) :
    (∀ transcript outcome,
      (startModuleBody polls entry generation).run.Reaches [] transcript outcome →
        (commands transcript).countP Command.inserts ≤ 1 ∧
        (∀ newer older path devicePath arguments timeout answer, transcript =
            newer ++ ⟨.runCommand (.insmod path devicePath arguments) timeout, answer⟩ :: older →
          path = entry.path ∧ arguments = profileArguments ∧
            InsertJustified generation devicePath older) ∧
        (∀ newer older timeout answer,
          transcript = newer ++ ⟨.runCommand .rmmod timeout, answer⟩ :: older →
            ∃ own rest, older = own ++ rest ∧ RemovalJustified own) ∧
        (outcome = some (.ok ()) → ∃ device, Inserted entry generation device transcript)) ∧
    ∀ transcript outcome, (tick polls entry state).run.Reaches [] transcript outcome →
      transcript.countP cleanupBegins ≤ 1 ∧
      ∀ newer call older, transcript = newer ++ call :: older → cleanupBegins call →
        ∃ earlier ∈ older, startRaises earlier := by
  refine ⟨fun transcript outcome reaches => ?_, fun transcript outcome reaches => ?_⟩
  · obtain ⟨justified, ends⟩ := (startModuleBody_succeeds polls).reaches trivial reaches
    refine ⟨insertions_justified justified, ?_, ?_, fun same => ends _ same () rfl⟩
    · intro newer older path devicePath arguments timeout answer same
      exact justified.split same
    · intro newer older timeout answer same
      exact justified.split same
  · obtain ⟨justified, -⟩ := (tick_justified polls state).reaches trivial reaches
    refine ⟨cleanups_justified justified, fun newer call older same begins => ?_⟩
    exact ((justified.split same : CleanupJustified call older) begins).1

/-- A start on the sample host whose insertion takes. -/
def sampleStart : Calls :=
  (startModuleBody 2 sampleEntry sampleDevice.generation).run.transcript (hostExec false .watcher)
    (.begin sampleLedger false false 0 0)
    (List.replicate 2 (sampleEnv false "0") ++ [sampleEnv false compositorPackages] ++
      List.replicate 2 (sampleEnv false "0") ++ [boundEnv])

theorem sampleStart_guarded : commands sampleStart =
      [.insmod sampleEntry.path sampleDevice.path profileArguments, .pacman] ∧
    InsertJustified sampleDevice.generation sampleDevice.path (sampleStart.drop 2) := by
  have reaches := reaches_transcript (hostExec false .watcher)
    (startModuleBody 2 sampleEntry sampleDevice.generation).run
    (.begin sampleLedger false false 0 0)
    (List.replicate 2 (sampleEnv false "0") ++ [sampleEnv false compositorPackages] ++
      List.replicate 2 (sampleEnv false "0") ++ [boundEnv]) []
  rw [List.append_nil] at reaches
  have guarded := (guarded_insertion 2 sampleEntry sampleDevice.generation sampleLedger).1
    sampleStart _ reaches
  refine ⟨by decide, ?_⟩
  exact (guarded.2.1 (sampleStart.take 1) (sampleStart.drop 2) _ _ _ 8 (.ok "0") rfl).2.2

end Trigger6.Controller
