/-
This file reads the transcripts of controller programs: the commands, the clock
readings and the calls that raised. It gives one rule for each kind of call and
each way of combining programs, for showing that every command a program issues
is justified by the calls before it and that a run that returns has added the
calls it should.
-/

import Trigger6.Controller.Runs
import Trigger6.Lib.Transcript

namespace Trigger6.Controller

open Interaction Program

/-! ### Reading a transcript -/

/-- The calls of a controller process, newest first. -/
abbrev Calls := Transcript hostInterface

/-- The command an event of the trace records. -/
def Event.issued : Event → Option Command
  | .command issued => some issued
  | _ => none

/-- The command a call issued, or noted in the trace. -/
def commandOf (call : Interaction.Call hostInterface) : Option Command :=
  match call.op with
  | .runCommand command _ => some command
  | .note event => event.issued
  | _ => none

/-- The reading of the monotonic clock a call made. -/
def readingOf : Interaction.Call hostInterface → Option ℚ
  | ⟨.monotonic, time⟩ => some time
  | _ => none

/-- The call raised. -/
def raisedBy : Interaction.Call hostInterface → Bool
  | ⟨.snapshot _, .error _⟩ | ⟨.discover _, .error _⟩ | ⟨.residentIdentity, .error _⟩
  | ⟨.refcnt, .error _⟩ | ⟨.moduleExists, .error _⟩ | ⟨.bootId, .error _⟩
  | ⟨.readConfig, .error _⟩ | ⟨.verifyArtifact, .error _⟩ | ⟨.runCommand _ _, .error _⟩
  | ⟨.print _, .error _⟩ | ⟨.storeRead, .error _⟩ | ⟨.storeWrite _, .error _⟩
  | ⟨.inhibitExists, .error _⟩ | ⟨.inhibitCheck, .error _⟩ | ⟨.inhibitUnlink, .error _⟩
  | ⟨.inhibitCreate, .error _⟩ | ⟨.lock, .error _⟩ => true
  | _ => false

/-- The commands issued, newest first. -/
def commands (calls : Calls) : List Command := calls.filterMap commandOf

/-- The readings of the monotonic clock, newest first. -/
def readings (calls : Calls) : List ℚ := calls.filterMap readingOf

theorem commands_append (newer older : Calls) :
    commands (newer ++ older) = commands newer ++ commands older :=
  List.filterMap_append

theorem readings_append (newer older : Calls) :
    readings (newer ++ older) = readings newer ++ readings older :=
  List.filterMap_append

/-- Calls were added, these among them in order, and no other command nor any call that
raised. -/
def Adds (calls before after : Calls) : Prop :=
  ∃ own, after = own ++ before ∧ calls.Sublist own ∧ commands own = commands calls ∧
    ∀ call ∈ own, raisedBy call = false

theorem Adds.trans {first second before middle after : Calls} (left : Adds first before middle)
    (right : Adds second middle after) : Adds (second ++ first) before after := by
  obtain ⟨own, rfl, within, same, quiet⟩ := left
  obtain ⟨newer, rfl, newerWithin, newerSame, newerQuiet⟩ := right
  refine ⟨newer ++ own, (List.append_assoc _ _ _).symm, newerWithin.append within, ?_, ?_⟩
  · rw [commands_append, commands_append, same, newerSame]
  · intro call member
    rcases List.mem_append.mp member with newest | newer
    · exact newerQuiet call newest
    · exact quiet call newer

theorem adds_nothing (before : Calls) : Adds [] before before :=
  ⟨[], rfl, List.nil_sublist _, rfl, fun _ member => nomatch member⟩

/-- One more call, kept. -/
theorem Adds.keep {call : Interaction.Call hostInterface} {calls before after : Calls}
    (quiet : raisedBy call = false) (adds : Adds calls before after) :
    Adds (call :: calls) before (call :: after) := by
  obtain ⟨own, rfl, within, same, ownQuiet⟩ := adds
  refine ⟨call :: own, rfl, within.cons_cons call, ?_, List.forall_mem_cons.mpr ⟨quiet, ownQuiet⟩⟩
  rw [commands, commands, List.filterMap_cons, List.filterMap_cons, ← commands, ← commands, same]

/-- One more call, forgotten. -/
theorem Adds.skip {call : Interaction.Call hostInterface} {calls before after : Calls}
    (plain : commandOf call = none) (quiet : raisedBy call = false)
    (adds : Adds calls before after) : Adds calls before (call :: after) := by
  obtain ⟨own, rfl, within, same, ownQuiet⟩ := adds
  refine ⟨call :: own, rfl, within.cons call, ?_, List.forall_mem_cons.mpr ⟨quiet, ownQuiet⟩⟩
  rw [commands, List.filterMap_cons_none plain]
  exact same

theorem Adds.sublist {calls before after : Calls} (adds : Adds calls before after) :
    (calls ++ before).Sublist after := by
  obtain ⟨own, rfl, within, -, -⟩ := adds
  exact within.append_right before

theorem Adds.commands {calls before after : Calls} (adds : Adds calls before after) :
    commands after = commands calls ++ commands before := by
  obtain ⟨own, rfl, -, same, -⟩ := adds
  rw [commands_append, same]

theorem Adds.quiet {calls before after : Calls} (adds : Adds calls before after)
    (quiet : ∀ call ∈ before, raisedBy call = false) : ∀ call ∈ after, raisedBy call = false := by
  obtain ⟨own, rfl, -, -, ownQuiet⟩ := adds
  intro call member
  rcases List.mem_append.mp member with newer | older
  · exact ownQuiet call newer
  · exact quiet call older

/-- The oldest reading stays the oldest. -/
theorem Adds.started {calls before after : Calls} {started : ℚ} (adds : Adds calls before after)
    (first : (readings before).getLast? = some started) :
    (readings after).getLast? = some started := by
  obtain ⟨own, rfl, -, -, -⟩ := adds
  rw [readings_append, List.getLast?_append, first, Option.some_or]

/-! ### The trace of a killed run -/

/-- The trace records the commands the calls issue. -/
theorem hostExec_commands {truthful : Bool} {self : Process} {world after : World} {op : HostOp}
    {input : Env} {answer : op.Answer}
    (answered : hostExec truthful self world op input = some (answer, after)) :
    after.trace.filterMap Event.issued =
      (commandOf ⟨op, answer⟩).toList ++ world.trace.filterMap Event.issued := by
  cases op with
  | snapshot deadline =>
    obtain ⟨-, rfl⟩ := Prod.mk.inj (Option.some.inj answered)
    cases input.raises <;> rfl
  | storeWrite state =>
    obtain ⟨-, rfl⟩ := Prod.mk.inj (Option.some.inj answered)
    cases input.raises <;> rfl
  | inhibitUnlink =>
    obtain ⟨-, rfl⟩ := Prod.mk.inj (Option.some.inj answered)
    cases input.raises <;> rfl
  | inhibitCreate =>
    obtain ⟨-, rfl⟩ := Prod.mk.inj (Option.some.inj answered)
    cases input.raises <;> rfl
  | lock =>
    simp only [hostExec] at answered
    by_cases held : world.holder.isSome
    · rw [if_pos held] at answered
      obtain ⟨-, rfl⟩ := Prod.mk.inj (Option.some.inj answered)
      rfl
    · rw [if_neg held] at answered
      obtain ⟨-, rfl⟩ := Prod.mk.inj (Option.some.inj answered)
      cases input.raises <;> rfl
  | note event =>
    obtain ⟨-, rfl⟩ := Prod.mk.inj (Option.some.inj answered)
    show (event :: world.trace).filterMap Event.issued = event.issued.toList ++ _
    cases issued : event.issued with
    | none => exact List.filterMap_cons_none issued
    | some command => exact List.filterMap_cons_some issued
  | hang => cases answered
  | _ =>
    obtain ⟨-, rfl⟩ := Prod.mk.inj (Option.some.inj answered)
    rfl

/-- The commands a killed run adds to the trace are those of its transcript. -/
theorem killed_commands {Value : Type} (truthful : Bool) (self : Process) (program : Host Value)
    (world : World) (inputs : List Env) :
    (program.run.killed (hostExec truthful self) world inputs).1.trace.filterMap Event.issued =
      commands (program.run.transcript (hostExec truthful self) world inputs) ++
        world.trace.filterMap Event.issued :=
  log_transcript (fun _ _ _ _ _ => hostExec_commands) program.run world inputs

/-! ### Successful runs -/

/-- Every call is justified, and a run that returns has added what it should. -/
def Succeeds {Value : Type} (good : Interaction.Call hostInterface → Calls → Prop) (history : Calls)
    (program : Host Value) (post : Calls → Value → Prop) : Prop :=
  program.run.Records good
    (fun later result => ∀ value, result = .ok value → post later value) history

/-- Only commands need a justification. -/
def JudgesCommands (good : Interaction.Call hostInterface → Calls → Prop) : Prop :=
  ∀ call older, commandOf call = none → good call older

section Rules

variable {good : Interaction.Call hostInterface → Calls → Prop} {Value First Second : Type} {history : Calls}

theorem succeeds_pure {value : Value} {post : Calls → Value → Prop} (holds : post history value) :
    Succeeds good history (pure value) post := by
  intro other same
  rw [← Except.ok.inj same]
  exact holds

theorem succeeds_throw (error : PyError) (post : Calls → Value → Prop) :
    Succeeds good history (throw error) post :=
  fun _ same => nomatch same

theorem succeeds_refuse (text : String) (post : Calls → Value → Prop) :
    Succeeds good history (refuse text) post :=
  succeeds_throw _ post

theorem Succeeds.bind {program : Host First} {rest : First → Host Second}
    {post : Calls → Second → Prop}
    (first : Succeeds good history program fun later value => Succeeds good later (rest value) post) :
    Succeeds good history (program >>= rest) post := by
  refine Records.tryBind (first.mono fun later result holds => ?_)
  cases result with
  | ok value => exact holds value rfl
  | error error => exact fun value same => nomatch same

theorem Succeeds.mono {program : Host Value} {post weaker : Calls → Value → Prop}
    (succeeds : Succeeds good history program post)
    (weaken : ∀ later value, post later value → weaker later value) :
    Succeeds good history program weaker :=
  Records.mono succeeds fun later _ holds value same => weaken later value (holds value same)

theorem Succeeds.ite {condition : Prop} [Decidable condition] {yes no : Host Value}
    {post : Calls → Value → Prop} (first : condition → Succeeds good history yes post)
    (second : ¬ condition → Succeeds good history no post) :
    Succeeds good history (if condition then yes else no) post :=
  Records.tryIte first second

/-- A failure turned into another failure changes nothing for the runs that return. -/
theorem Succeeds.catching {program : Host Value} {handler : String → Host Value}
    {post : Calls → Value → Prop} (succeeds : Succeeds good history program post)
    (fails : ∀ text later, Succeeds good later (handler text) post) :
    Succeeds good history (tryCatch program (caughtBy handler)) post := by
  refine Records.tryCatch (Records.mono succeeds fun later result holds => ?_)
  cases result with
  | ok value => exact holds
  | error error =>
    show Succeeds good later (caughtBy handler error) post
    unfold caughtBy
    cases error.caught with
    | none => exact succeeds_throw _ _
    | some text => exact fails text later

theorem succeeds_snapshot {deadline : Option ℚ} {post : Calls → Observation → Prop}
    (judges : JudgesCommands good)
    (each : ∀ observation, post (⟨.snapshot deadline, .ok observation⟩ :: history) observation) :
    Succeeds good history (snapshot deadline) post := by
  refine fun answer => ⟨judges _ _ rfl, ?_⟩
  rintro value rfl
  exact each value

theorem succeeds_discover {deadline : ℚ} {post : Calls → Option Device → Prop}
    (judges : JudgesCommands good)
    (each : ∀ device, post (⟨.discover deadline, .ok device⟩ :: history) device) :
    Succeeds good history (discover deadline) post := by
  refine fun answer => ⟨judges _ _ rfl, ?_⟩
  rintro value rfl
  exact each value

theorem succeeds_residentIdentity {post : Calls → Bool × Bool × Option String → Prop}
    (judges : JudgesCommands good)
    (each : ∀ identity, post (⟨.residentIdentity, .ok identity⟩ :: history) identity) :
    Succeeds good history residentIdentity post := by
  refine fun answer => ⟨judges _ _ rfl, ?_⟩
  rintro value rfl
  exact each value

theorem succeeds_refcnt {post : Calls → Option String → Prop}
    (judges : JudgesCommands good)
    (each : ∀ count, post (⟨.refcnt, .ok count⟩ :: history) count) :
    Succeeds good history refcnt post := by
  refine fun answer => ⟨judges _ _ rfl, ?_⟩
  rintro value rfl
  exact each value

theorem succeeds_moduleExists {post : Calls → Bool → Prop}
    (judges : JudgesCommands good)
    (each : ∀ present, post (⟨.moduleExists, .ok present⟩ :: history) present) :
    Succeeds good history moduleExists post := by
  refine fun answer => ⟨judges _ _ rfl, ?_⟩
  rintro value rfl
  exact each value

theorem succeeds_printEvent {event : String} {post : Calls → Unit → Prop}
    (judges : JudgesCommands good)
    (each : post (⟨.print event, .ok ()⟩ :: history) ()) :
    Succeeds good history (printEvent event) post := by
  refine fun answer => ⟨judges _ _ rfl, ?_⟩
  rintro value rfl
  exact each

theorem succeeds_monotonic {post : Calls → ℚ → Prop}
    (judges : JudgesCommands good)
    (each : ∀ time : ℚ, post (⟨.monotonic, time⟩ :: history) time) :
    Succeeds good history monotonic post := by
  refine fun time => ⟨judges _ _ rfl, ?_⟩
  rintro value same
  rw [← Except.ok.inj same]
  exact each time

theorem succeeds_sleep {duration : ℚ} {post : Calls → Unit → Prop}
    (judges : JudgesCommands good)
    (each : post (⟨.sleep duration, ()⟩ :: history) ()) :
    Succeeds good history (sleep duration) post :=
  fun _ => ⟨judges _ _ rfl, fun _ _ => each⟩

theorem succeeds_runCommand {command : Command} {timeout : ℚ} {post : Calls → String → Prop}
    (justified : ∀ answer, good ⟨.runCommand command timeout, answer⟩ history)
    (each : ∀ output, post (⟨.runCommand command timeout, .ok output⟩ :: history) output) :
    Succeeds good history (runCommand command timeout) post := by
  refine fun answer => ⟨justified answer, ?_⟩
  rintro value rfl
  exact each value

end Rules

end Trigger6.Controller
