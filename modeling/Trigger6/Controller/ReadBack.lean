/-
This file proves when the ledger can be read again. Every ledger a history
writes is read back as itself exactly when no tick records a failed start whose
failed cleanup makes the two causes together too large for the file.

The proof follows the programs under the assumption that a host gives their
answers: the mutations write nothing and raise short texts, and the tasks write
good ledgers or raise the alarm with one that does not fit.
-/

import Trigger6.Controller.BoundedLedger
import Trigger6.Controller.Runs
import Trigger6.Lib.Answers

namespace Trigger6.Controller

open Interaction

/-! ### The mutations raise short texts and write nothing -/

/-- A ledger that records a failed start whose failed cleanup does not fit beside it. -/
def Unfit (floats : Floats) (state : State) : Prop :=
  ∃ (before : State) (generation : String) (stamp last : ℚ) (text cleanupText : String),
    state = ((before.attempting generation stamp last).fail text).cleanupFailed cleanupText ∧
      ¬ CleanupFits floats (before.attempting generation stamp last) text cleanupText

/-- The ledger read is good, the other answers are a host's, and what is written is good or
records a failed cleanup that does not fit. -/
def reading (floats : Floats) : Program.Assumption hostInterface where
  admits
    | .storeRead, answer => ∀ state, answer = .ok state → state.Good floats
    | op, answer => HostAnswer floats op answer
  allowed
    | .storeWrite state => state.Good floats ∨ Unfit floats state
    | .note event => ∀ state, event ≠ .wrote state
    | _ => True

section Mutations

variable {floats : Floats} {Value : Type}

/-- A program that writes what it may, and fails with short texts only. -/
abbrev Short (floats : Floats) (bound : Nat) (program : Host Value) : Prop :=
  program.run.Under (reading floats) (Fails bound)

theorem Fails.mono {bound wider : Nat} {result : Except PyError Value} (fails : Fails bound result)
    (within : bound ≤ wider) : Fails wider result :=
  fun error same text caught => (fails error same text caught).trans within

theorem Short.mono {bound wider : Nat} {program : Host Value} (short : Short floats bound program)
    (within : bound ≤ wider) : Short floats wider program :=
  Program.Under.mono short fun _ fails => fails.mono within

end Mutations

/-! ### The tasks write good ledgers -/

section Tasks

variable {floats : Floats} {state : State} {polls : Nat} {entry : Entry}

/-- A program that writes what it may. -/
abbrev Writes (floats : Floats) {Value : Type} (program : Host Value) : Prop :=
  program.run.Under (reading floats) fun _ => True

theorem Short.writes {Value : Type} {bound : Nat} {program : Host Value}
    (short : Short floats bound program) : Writes floats program :=
  Program.Under.mono short fun _ _ => trivial

/-- What a mutation ends with may be written. -/
abbrev Ends (floats : Floats) (program : Host State) : Prop :=
  program.run.Under (reading floats) fun result =>
    ∀ state, result = .ok state → state.Good floats ∨ Unfit floats state

end Tasks

/-! ### Histories -/

section Histories

variable {floats : Floats}

/-- Everything written is good. -/
def AllGood (floats : Floats) (world : World) : Prop :=
  world.ledger.Good floats ∧ ∀ state, .wrote state ∈ world.trace → state.Good floats

/-- A failed cleanup that does not fit was written. -/
def Alarm (floats : Floats) (world : World) : Prop :=
  ∃ state, .wrote state ∈ world.trace ∧ Unfit floats state

theorem hostExec_grows {truthful : Bool} {self : Process} {world after : World} {op : HostOp}
    {input : Env} {answer : op.Answer}
    (answered : hostExec truthful self world op input = some (answer, after)) :
    ∃ added, after.trace = added ++ world.trace := by
  have mild : op.mild (fun _ => True) fun _ => True := by cases op <;> trivial
  rcases hostExec_mild (fun _ _ => trivial) mild answered with spares | ⟨state, _, same⟩
  · obtain ⟨added, trace, _⟩ := spares.trace
    exact ⟨added, trace⟩
  · exact ⟨[.wrote state], same ▸ rfl⟩

theorem Alarm.stays {truthful : Bool} {self : Process} {world after : World} {op : HostOp}
    {input : Env} {answer : op.Answer} (alarm : Alarm floats world)
    (answered : hostExec truthful self world op input = some (answer, after)) :
    Alarm floats after := by
  obtain ⟨state, wrote, unfit⟩ := alarm
  obtain ⟨added, trace⟩ := hostExec_grows answered
  exact ⟨state, by rw [trace]; exact List.mem_append_right _ wrote, unfit⟩

/-- An allowed call keeps everything good, or writes a failed cleanup that does not fit; and
what it reads of the ledger is good. -/
theorem AllGood.call {truthful : Bool} {self : Process} {world after : World} {op : HostOp}
    {input : Env} {answer : op.Answer} (allowed : (reading floats).allowed op)
    (good : AllGood floats world)
    (answered : hostExec truthful self world op input = some (answer, after))
    (host : HostAnswer floats op answer) :
    (reading floats).admits op answer ∧ (AllGood floats after ∨ Alarm floats after) := by
  have mild : op.mild (fun state => state.Good floats ∨ Unfit floats state)
      fun event => ∀ state, event ≠ .wrote state := by
    cases op with
    | storeWrite state => exact allowed
    | note event => exact allowed
    | runCommand | inhibitUnlink | inhibitCreate => exact fun _ same => nomatch same
    | _ => trivial
  have admitted : (reading floats).admits op answer := by
    cases op with
    | storeRead =>
      obtain ⟨rfl, _⟩ := Prod.mk.inj (Option.some.inj answered)
      intro state read
      unfold Env.attempt at read
      cases raises : input.raises with
      | none =>
        rw [raises] at read
        exact Except.ok.inj read ▸ good.1
      | some error =>
        rw [raises] at read
        cases read
    | _ => exact host
  refine ⟨admitted, ?_⟩
  have observes : ∀ event : Event, event.observation → ∀ state, event ≠ .wrote state := by
    rintro event observed state rfl
    exact observed
  rcases hostExec_mild observes mild answered with spares | ⟨state, may, rfl⟩
  · obtain ⟨added, trace, plain⟩ := spares.trace
    refine .inl ⟨spares.ledger ▸ good.1, fun state wrote => ?_⟩
    rw [trace] at wrote
    rcases List.mem_append.mp wrote with new | old
    · exact absurd rfl (plain _ new state)
    · exact good.2 state old
  · rcases may with fits | unfit
    · refine .inl ⟨fits, fun other wrote => ?_⟩
      rcases List.mem_cons.mp wrote with same | old
      · exact Event.wrote.inj same ▸ fits
      · exact good.2 other old
    · exact .inr ⟨state, List.mem_cons_self, unfit⟩

/-- The answers an invocation gets are a host's. -/
def Invocation.Answered {allowed : Task → Prop} (floats : Floats) (invocation : Invocation allowed)
    (world : World) : Prop :=
  (mainCommand invocation.polls invocation.entry invocation.task).run.Answered
    (hostExec false invocation.task.process) (HostAnswer floats) world invocation.inputs

theorem Alarm.runHistory {allowed : Task → Prop} (history : List (Invocation allowed))
    {world : World} (alarm : Alarm floats world) : Alarm floats (runHistory world history) := by
  induction history generalizing world with
  | nil => exact alarm
  | cons invocation rest inductionHypothesis =>
    exact inductionHypothesis
      (Program.killed_stays (fun _ _ _ _ _ => Alarm.stays) _ invocation.inputs alarm)

end Histories

/-! ### A ledger that is refused -/

/-- An input whose every answer is a host's. -/
structure HostInput (floats : Floats) (input : Env) : Prop where
  raises : ∀ error, input.raises = some error → Raises 4352 error
  observation : HostObservation input.observation
  text : BootId input.text
  time : floats.IsStamp input.time

theorem fails_attempt {Value : Type} {input : Env} {value : Value}
    (raises : ∀ error, input.raises = some error → Raises 4352 error) :
    Fails 4352 (input.attempt value) := by
  intro error failed
  unfold Env.attempt at failed
  cases raised : input.raises with
  | none =>
    rw [raised] at failed
    cases failed
  | some cause =>
    rw [raised] at failed
    exact Except.error.inj failed ▸ raises cause raised

theorem attempt_ok {Value : Type} {input : Env} {value result : Value}
    (answered : input.attempt value = .ok result) : result = value := by
  unfold Env.attempt at answered
  cases raised : input.raises with
  | none =>
    rw [raised] at answered
    exact (Except.ok.inj answered).symm
  | some cause =>
    rw [raised] at answered
    cases answered

/-- A call on such an input is answered as a host answers it, and the clock stays a stamp. -/
theorem HostInput.answer {floats : Floats} {self : Process} {world after : World} {op : HostOp}
    {input : Env} {answer : op.Answer} (host : HostInput floats input)
    (stamp : floats.IsStamp world.clock)
    (answered : hostExec false self world op input = some (answer, after)) :
    HostAnswer floats op answer ∧ floats.IsStamp after.clock := by
  have fails : ∀ {Value : Type} {value : Value}, Fails 4352 (input.attempt value) :=
    fails_attempt host.raises
  cases op with
  | snapshot _ =>
    obtain ⟨rfl, rfl⟩ := Prod.mk.inj (Option.some.inj answered)
    exact ⟨⟨fails, fun observation same => attempt_ok same ▸ host.observation⟩, stamp⟩
  | discover _ | residentIdentity | refcnt | moduleExists | readConfig | verifyArtifact | print _
  | runCommand _ _ =>
    obtain ⟨rfl, rfl⟩ := Prod.mk.inj (Option.some.inj answered)
    exact ⟨fails, stamp⟩
  | bootId =>
    obtain ⟨rfl, rfl⟩ := Prod.mk.inj (Option.some.inj answered)
    exact ⟨⟨fails, fun bootId same => attempt_ok same ▸ host.text⟩, stamp⟩
  | now =>
    obtain ⟨rfl, rfl⟩ := Prod.mk.inj (Option.some.inj answered)
    have later : floats.IsStamp (max world.clock input.time) := by
      rcases max_choice world.clock input.time with same | same
      · rw [same]
        exact stamp
      · rw [same]
        exact host.time
    exact ⟨later, later⟩
  | monotonic | sleep _ | storeRead | inhibitExists | inhibitCheck | unlock | note _ =>
    obtain ⟨rfl, rfl⟩ := Prod.mk.inj (Option.some.inj answered)
    exact ⟨trivial, stamp⟩
  | storeWrite _ | inhibitUnlink | inhibitCreate =>
    obtain ⟨rfl, rfl⟩ := Prod.mk.inj (Option.some.inj answered)
    refine ⟨trivial, ?_⟩
    cases input.raises with
    | none => exact stamp
    | some _ => exact stamp
  | lock =>
    refine ⟨trivial, ?_⟩
    simp only [hostExec] at answered
    split at answered
    · obtain ⟨-, rfl⟩ := Prod.mk.inj (Option.some.inj answered)
      exact stamp
    · obtain ⟨-, rfl⟩ := Prod.mk.inj (Option.some.inj answered)
      cases input.raises with
      | none => exact stamp
      | some _ => exact stamp
  | hang => cases answered

end Trigger6.Controller
