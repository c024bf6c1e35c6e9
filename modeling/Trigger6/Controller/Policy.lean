/-
This file models the pure policy of the controller: the ledger it persists, the
observation a host snapshot returns, and `decide`, which maps a ledger, an
observation and a clock reading to a new ledger and one bounded action.

Stamps and clock readings are exact rationals. Python truth values of optional
texts are kept apart from presence by `truthy`: an empty text is present and
false.
-/

import Mathlib.Algebra.Order.Field.Rat
import Mathlib.Tactic.Linarith

namespace Trigger6.Controller

/-! ### Constants -/

def stableSeconds : ℚ := 15
def cooldownSeconds : ℚ := 120
def rapidLossSeconds : ℚ := 60
def hourSeconds : ℚ := 3600
def hourlyAttempts : Nat := 3
def bootAttempts : Nat := 6
def stopSeconds : ℚ := 5 / 2
def refcountSettleSeconds : ℚ := 1 / 2
def refcountPollSeconds : ℚ := 1 / 40

/-! ### The ledger and the observation -/

/-- The marker of a mutation that has begun and has not been reported complete. -/
structure Inflight where
  action : String
  generation : Option String
  error : Option String
  cleanupError : Option String
deriving DecidableEq

/-- The ledger the controller persists between operations. -/
structure State where
  bootId : Option String
  desired : Bool
  paused : Bool
  circuit : Option String
  attempts : List ℚ
  candidate : Option String
  candidateSince : ℚ
  managedGeneration : Option String
  lastAttempt : Option ℚ
  inflight : Option Inflight
  reason : String
deriving DecidableEq

/-- The ledger of a boot in which nothing has happened. -/
def freshState (bootId : Option String) : State where
  bootId := bootId
  desired := false
  paused := false
  circuit := none
  attempts := []
  candidate := none
  candidateSince := 0
  managedGeneration := none
  lastAttempt := none
  inflight := none
  reason := "not started"

/-- The exact device a discovery returns. -/
structure Device where
  path : String
  interface : String
  devnum : Nat
  idPath : String
  driver : Option String
  generation : String
deriving DecidableEq

/-- One cached observation of the host. `inhibited` is `none` when the sleep marker could not
be inspected. -/
structure Observation where
  device : Option Device
  modulePresent : Bool
  ownedModule : Bool
  modulePath : Option String
  panelReady : Bool
  hyprlandPresent : Bool
  inhibited : Option Bool
  fault : Bool
  drmPresent : Bool
  scanoutActive : Bool
  pending : Option String
  error : Option String
deriving DecidableEq

/-- The Python truth value of an optional text. -/
def truthy : Option String → Bool
  | none => false
  | some text => text != ""

inductive Action
  | wait
  | start
  | stop
deriving DecidableEq

/-! ### The policy -/

/-- `answer(action, reason)`. -/
def State.answer (state : State) (action : Action) (reason : String) : State × Action :=
  ({ state with reason := reason }, action)

/-- `answer(action, reason, True)`: the reason also latches the circuit. -/
def State.trip (state : State) (action : Action) (reason : String) : State × Action :=
  ({ state with reason := reason, circuit := some reason }, action)

/-- The managed generation was attempted less than `rapidLossSeconds` ago. -/
def rapidLoss (state : State) (now : ℚ) : Bool :=
  truthy state.managedGeneration &&
    match state.lastAttempt with
    | none => false
    | some last => now - last < rapidLossSeconds

/-- `decide` once no device is present. -/
def decideAbsent (state : State) (observation : Observation) (now : ℚ) : State × Action :=
  let state := { state with candidate := none }
  if rapidLoss state now then
    state.trip .wait "rapid device loss: automatic recovery blocked"
  else
    state.answer .wait (observation.pending.getD "exact device absent")

/-- `decide` once a present device is bound to some driver. -/
def decideBound (state : State) (observation : Observation) (device : Device) :
    State × Action :=
  if device.driver != some "trigger6" || !observation.ownedModule then
    state.trip .wait "foreign binding or unapproved resident module"
  else if some device.generation != state.managedGeneration then
    state.trip .wait "bound generation was not started/adopted by controller"
  else if observation.fault then
    state.trip .stop "active transport fault: circuit breaker latched"
  else if !observation.drmPresent then
    state.trip .stop "managed DRM device missing"
  else
    state.answer .wait (if observation.scanoutActive then "active" else "connected; CRTC off")

/-- The attempt budget of a boot or of the last hour is used up. -/
def budgetExhausted (attempts : List ℚ) (now : ℚ) : Bool :=
  bootAttempts ≤ attempts.length ||
    hourlyAttempts ≤ attempts.countP fun stamp => now - stamp < hourSeconds

/-- The last attempt is less than `cooldownSeconds` old. -/
def coolingDown (state : State) (now : ℚ) : Bool :=
  match state.lastAttempt with
  | none => false
  | some last => now - last < cooldownSeconds

/-- `decide` once a present device is bound to no driver. -/
def decideUnbound (state : State) (observation : Observation) (device : Device) (now : ℚ) :
    State × Action :=
  if observation.modulePresent && !observation.ownedModule then
    state.trip .wait "unapproved resident module"
  else if some device.generation = state.managedGeneration then
    state.trip .wait "binding lost without a new device generation"
  else if rapidLoss state now then
    state.trip .wait "rapid re-enumeration: automatic recovery blocked"
  else if !observation.panelReady || !observation.hyprlandPresent then
    state.answer .wait "waiting for active laptop panel and Hyprland"
  else if now - state.candidateSince < stableSeconds then
    state.answer .wait "waiting for stable exact generation"
  else if budgetExhausted state.attempts now then
    state.trip .wait "attempt budget exhausted: manual recovery required"
  else if coolingDown state now then
    state.answer .wait "automatic attempt cooldown"
  else
    state.answer .start "stable approved generation ready"

/-- The debounce: a new generation restarts the candidate's clock. -/
def State.consider (state : State) (generation : String) (now : ℚ) : State :=
  if state.candidate != some generation then
    { state with candidate := some generation, candidateSince := now }
  else
    state

/-- `state["circuit"] or "unfinished prior mutation: manual recovery required"`. -/
def unfinishedReason (state : State) : String :=
  if truthy state.circuit then state.circuit.getD "" else
    "unfinished prior mutation: manual recovery required"

/-- Pure policy: a new ledger and one bounded action, never I/O. -/
def decide (state : State) (observation : Observation) (now : ℚ) : State × Action :=
  if state.inflight.isSome then
    state.trip .wait (unfinishedReason state)
  else if truthy state.circuit then
    state.answer .wait (state.circuit.getD "")
  else if !state.desired || state.paused || observation.inhibited = some true then
    state.answer .wait "stopped or sleep-inhibited"
  else if observation.inhibited.isNone then
    state.trip .wait "sleep inhibition state unavailable: manual review required"
  else if truthy observation.error then
    state.trip .wait (observation.error.getD "")
  else match observation.device with
    | none => decideAbsent state observation now
    | some device =>
      let state := state.consider device.generation now
      if truthy device.driver then
        decideBound state observation device
      else
        decideUnbound state observation device now

/-! ### What the policy leaves alone -/

/-- Two ledgers agree on everything but the circuit, the debounce and the reason. -/
structure State.SameRecord (before after : State) : Prop where
  bootId : after.bootId = before.bootId
  desired : after.desired = before.desired
  paused : after.paused = before.paused
  attempts : after.attempts = before.attempts
  managedGeneration : after.managedGeneration = before.managedGeneration
  lastAttempt : after.lastAttempt = before.lastAttempt
  inflight : after.inflight = before.inflight

theorem State.SameRecord.rfl {state : State} : state.SameRecord state :=
  ⟨Eq.refl _, Eq.refl _, Eq.refl _, Eq.refl _, Eq.refl _, Eq.refl _, Eq.refl _⟩

theorem State.SameRecord.trans {first second third : State} (left : first.SameRecord second)
    (right : second.SameRecord third) : first.SameRecord third where
  bootId := right.bootId.trans left.bootId
  desired := right.desired.trans left.desired
  paused := right.paused.trans left.paused
  attempts := right.attempts.trans left.attempts
  managedGeneration := right.managedGeneration.trans left.managedGeneration
  lastAttempt := right.lastAttempt.trans left.lastAttempt
  inflight := right.inflight.trans left.inflight

theorem answer_sameRecord (state : State) (action : Action) (reason : String) :
    state.SameRecord (state.answer action reason).1 :=
  ⟨rfl, rfl, rfl, rfl, rfl, rfl, rfl⟩

theorem trip_sameRecord (state : State) (action : Action) (reason : String) :
    state.SameRecord (state.trip action reason).1 :=
  ⟨rfl, rfl, rfl, rfl, rfl, rfl, rfl⟩

theorem consider_sameRecord (state : State) (generation : String) (now : ℚ) :
    state.SameRecord (state.consider generation now) := by
  unfold State.consider
  split
  · exact ⟨rfl, rfl, rfl, rfl, rfl, rfl, rfl⟩
  · exact .rfl

theorem decideAbsent_sameRecord (state : State) (observation : Observation) (now : ℚ) :
    state.SameRecord (decideAbsent state observation now).1 := by
  simp only [decideAbsent]
  split <;> exact ⟨rfl, rfl, rfl, rfl, rfl, rfl, rfl⟩

theorem decideBound_sameRecord (state : State) (observation : Observation) (device : Device) :
    state.SameRecord (decideBound state observation device).1 := by
  unfold decideBound
  split_ifs <;> first | exact trip_sameRecord _ _ _ | exact answer_sameRecord _ _ _

theorem decideUnbound_sameRecord (state : State) (observation : Observation) (device : Device)
    (now : ℚ) : state.SameRecord (decideUnbound state observation device now).1 := by
  unfold decideUnbound
  split_ifs <;> first | exact trip_sameRecord _ _ _ | exact answer_sameRecord _ _ _

/-- The policy never touches intent, attempts, the managed generation or the inflight
marker. -/
theorem decide_sameRecord (state : State) (observation : Observation) (now : ℚ) :
    state.SameRecord (decide state observation now).1 := by
  unfold decide
  split_ifs
  · exact trip_sameRecord _ _ _
  · exact answer_sameRecord _ _ _
  · exact answer_sameRecord _ _ _
  · exact trip_sameRecord _ _ _
  · exact trip_sameRecord _ _ _
  · cases observation.device with
    | none => exact decideAbsent_sameRecord _ _ _
    | some device =>
      refine (consider_sameRecord state device.generation now).trans ?_
      show State.SameRecord _ (if truthy device.driver then _ else _ : State × Action).1
      split_ifs
      · exact decideBound_sameRecord _ _ _
      · exact decideUnbound_sameRecord _ _ _ _

/-! ### When the policy acts -/

/-- What must hold of the ledger and the observation for the policy to act at all. -/
structure Cleared (state : State) (observation : Observation) : Prop where
  inflight : state.inflight = none
  circuit : truthy state.circuit = false
  desired : state.desired = true
  paused : state.paused = false
  inhibited : observation.inhibited = some false
  device : observation.device.isSome

/-- The policy acts only on a cleared ledger and observation. -/
theorem decide_cleared {state : State} {observation : Observation} {now : ℚ}
    (acts : (decide state observation now).2 ≠ .wait) : Cleared state observation := by
  unfold decide at acts
  split_ifs at acts with marked latched stopped unknown damaged
  · exact absurd rfl acts
  · exact absurd rfl acts
  · exact absurd rfl acts
  · exact absurd rfl acts
  · exact absurd rfl acts
  · cases present : observation.device with
    | none =>
      rw [present] at acts
      refine absurd ?_ acts
      simp only [decideAbsent]
      split_ifs <;> rfl
    | some device =>
      refine ⟨by simpa using marked, by simpa using latched, ?_, ?_, ?_, by simp [present]⟩
      · grind
      · grind
      · cases marker : observation.inhibited with
        | none => simp [marker] at unknown
        | some value => cases value <;> simp_all

/-- What must hold of the attempts for the policy to start a module. -/
structure Affordable (attempts : List ℚ) (lastAttempt : Option ℚ) (now : ℚ) : Prop where
  boot : attempts.length < bootAttempts
  hourly : attempts.countP (fun stamp => now - stamp < hourSeconds) < hourlyAttempts
  cooled : ∀ last, lastAttempt = some last → cooldownSeconds ≤ now - last

end Trigger6.Controller
