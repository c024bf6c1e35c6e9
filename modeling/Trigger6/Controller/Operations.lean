/-
This file models the operations of the controller: the watcher's `tick`, the
operator's and the sleep hooks' `operate`, and the locked programs `main` runs
them as. Every ledger write is one atomic call, so a process killed between two
calls leaves exactly the ledger of its last write.
-/

import Trigger6.Controller.Host

namespace Trigger6.Controller

open Interaction

/-! ### The watcher's tick -/

/-- `state["circuit"] = state["reason"] = str(error)`. -/
def State.fail (state : State) (text : String) : State :=
  { state with circuit := some text, reason := text }

/-- `str(error)[:2048]`. -/
def clipped (text : String) : String := (text.take 2048).toString

/-- The inflight marker of an operation that has just begun. -/
def Inflight.begin (action : String) (generation : Option String) : Inflight where
  action := action
  generation := generation
  error := none
  cleanupError := none

/-- The ledger after a cleanup stop that failed too: both causes are kept. -/
def State.cleanupFailed (state : State) (text : String) : State :=
  let cause := state.circuit.getD ""
  let circuit := s!"{cause}; cleanup failed: {clipped text}"
  { state with
    inflight := state.inflight.map fun marker => { marker with cleanupError := some (clipped text) }
    circuit := some circuit
    reason := circuit }

/-- The ledger after a clean stop. -/
def State.stopped (state : State) : State :=
  { state with managedGeneration := none, inflight := none }

/-- The ledger after a clean start of `generation`. -/
def State.started (state : State) (generation : String) : State :=
  { state with
    managedGeneration := some generation
    reason := "managed KMS started; physical confirmation remains separate"
    inflight := none }

/-- The ledger that consumes an attempt on `generation` before it is made. -/
def State.attempting (state : State) (generation : String) (stamp last : ℚ) : State :=
  { state with
    inflight := some (.begin "start" (some generation))
    attempts := state.attempts ++ [stamp]
    lastAttempt := some last }

/-- The start branch of `tick` after its attempt was recorded: the start, and on a failure
one bounded cleanup. -/
def tickStart (polls : Nat) (entry : Entry) (state : State) (generation : String) :
    Host State :=
  tryCatch
    (do
      startModule polls entry generation
      return state.started generation)
    (caughtBy fun text =>
      let state := state.fail text
      tryCatch
        (do
          stopModule polls .cleanup
          return state.stopped)
        (caughtBy fun cleanupText => return state.cleanupFailed cleanupText))

/-- The stop branch of `tick` after its marker was recorded. A failed stop is not retried. -/
def tickStop (polls : Nat) (state : State) : Host State :=
  tryCatch
    (do
      stopModule polls .faultStop
      return state.stopped)
    (caughtBy fun text => return state.fail text)

/-- Persists a ledger and returns it. -/
def persist (state : State) : Host State := do
  storeWrite state
  return state

/-- `tick` once the policy has asked for a mutation of `generation`. -/
def tickMutate (polls : Nat) (entry : Entry) (state : State) (action : Action)
    (generation : String) : Host State :=
  match action with
  | .wait => return state
  | .start => do
    let stamp ← now
    let last ← now
    let recorded := state.attempting generation stamp last
    storeWrite recorded
    persist (← tickStart polls entry recorded generation)
  | .stop => do
    let marked := { state with inflight := some (.begin "stop" (some generation)) }
    storeWrite marked
    persist (← tickStop polls marked)

/-- `tick` once the policy has answered: its ledger is persisted before it acts. -/
def tickDecided (polls : Nat) (entry : Entry) (observation : Observation) (state : State)
    (action : Action) : Host State := do
  storeWrite state
  match action with
  | .wait => return state
  | action =>
    match observation.device with
    | none => throw (.other "TypeError: device is None")
    | some device => tickMutate polls entry state action device.generation

/-- `tick` once an observation was made. -/
def tickObserved (polls : Nat) (entry : Entry) (state : State) (observation : Observation) :
    Host State := do
  let decided := decide state observation (← now)
  tickDecided polls entry observation decided.1 decided.2

/-- The observation of `tick`, or the ledger persisted because it failed. -/
def tickObserve (state : State) : Host (Observation ⊕ State) :=
  tryCatch (Sum.inl <$> snapshot none) (caughtBy fun text =>
    Sum.inr <$> persist (state.fail text))

/-- `tick`. -/
def tick (polls : Nat) (entry : Entry) (state : State) : Host State :=
  traced .tick do
    match ← tickObserve state with
    | .inl observation => tickObserved polls entry state observation
    | .inr failed => return failed

/-- What `tick` does between its marks. -/
def tickBody (polls : Nat) (entry : Entry) (state : State) : Host State := do
  match ← tickObserve state with
  | .inl observation => tickObserved polls entry state observation
  | .inr failed => return failed

/-! ### Explicit operations and the sleep hooks -/

inductive Operation
  | pause
  | resume
  | stop
  | clearCircuit
  | start
deriving DecidableEq

/-- `f"{command} failed: {str(error)[:2048]}"`. -/
def stopMessage (command text : String) : String :=
  s!"{command} failed: {clipped text}"

/-- The ledger `stop_preserving_failure` persists. -/
def State.stopFailed (state : State) (command text : String) : State :=
  { state.fail (stopMessage command text) with
    inflight := state.inflight.map fun marker => { marker with error := some (clipped text) } }

/-- `stop_preserving_failure`: the cause of a failed stop is persisted before it is raised. -/
def stopPreservingFailure (polls : Nat) (site : StopSite) (command : String) (state : State) :
    Host Unit :=
  tryCatch (stopModule polls site) (caughtBy fun text => do
    storeWrite (state.stopFailed command text)
    refuse (stopMessage command text))

/-- The ledger of a pre-sleep stop that has begun. -/
def State.pausing (state : State) : State :=
  { state with paused := true, inflight := some (.begin "sleep-stop" none) }

/-- `operate("pause", ...)`. -/
def operatePause (polls : Nat) (state : State) : Host State := do
  if !state.desired then
    inhibitCheck
    inhibitUnlink
    return state
  else
    storeWrite state.pausing
    stopPreservingFailure polls .sleepStop "pause" state.pausing
    persist state.pausing.stopped

/-- Removes the sleep marker if there is one. -/
def releaseInhibit : Host Unit := do
  if ← inhibitExists then
    inhibitCheck
    inhibitUnlink

/-- `not state["desired"] and not state["paused"] and not inhibit.exists()`. -/
def nothingToResume (state : State) : Host Bool :=
  if !state.desired && !state.paused then (!·) <$> inhibitExists else return false

/-- `operate("resume", ...)`. -/
def operateResume (state : State) : Host State := do
  if ← nothingToResume state then
    return state
  else if !state.paused || state.inflight.isSome then
    refuse "sleep quiesce was incomplete: inhibit retained for manual recovery"
  else
    releaseInhibit
    persist { state with paused := false, candidate := none }

/-- `operate("stop", ...)`. -/
def operateStop (polls : Nat) (state : State) : Host State := do
  let marked := { state with desired := false, inflight := some (.begin "stop" none) }
  storeWrite marked
  stopPreservingFailure polls .explicitStop "stop" marked
  persist marked.stopped

/-- `operate("clear-circuit", ...)`. -/
def operateClearCircuit : Host State := do
  let observation ← snapshot none
  if boundAtAll observation.device then
    refuse "stop the module before explicit circuit recovery"
  else
    let state := freshState (← bootId)
    releaseInhibit
    persist state

/-- `operate("start", ...)`, which is also what `watch` runs first. -/
def operateStart (state : State) : Host State := do
  verifyArtifact
  persist { state with desired := true }

/-- `operate`. -/
def operate (polls : Nat) (operation : Operation) (state : State) : Host State :=
  match operation with
  | .pause => traced .pause (operatePause polls state)
  | .resume => traced .resume (operateResume state)
  | .stop => operateStop polls state
  | .clearCircuit => operateClearCircuit
  | .start => operateStart state

/-! ### Ledger-locked programs -/

/-- What runs under the ledger lock: one tick of the watcher, or one operation. -/
inductive Task
  | tick
  | operate (operation : Operation)
deriving DecidableEq

/-- A task on the ledger the locked section has read. -/
def taskBody (polls : Nat) (entry : Entry) (task : Task) (state : State) : Host State :=
  match task with
  | .tick => tick polls entry state
  | .operate operation => operate polls operation state

/-- The body of one locked section of `main`: read the ledger, run the task on it. -/
def lockedBody (polls : Nat) (entry : Entry) (task : Task) : Host State := do
  taskBody polls entry task (← storeRead)

/-- `with store.lock():` the lock is refused at once when taken, and released on every way
out of the body. -/
def withLock {Value : Type} (body : Host Value) : Host Value := do
  lock
  let value ← tryCatch body fun error => do
    unlock
    throw error
  unlock
  return value

/-- What a command of `main` does before it tries the lock: `pause` creates the sleep marker,
and every operation reads the configuration. -/
def beforeLock : Task → Host Unit
  | .tick => return
  | .operate .pause => do
    inhibitCreate
    readConfig
  | .operate _ => readConfig

/-- One command of `main`, or one iteration of its watcher loop. -/
def mainCommand (polls : Nat) (entry : Entry) (task : Task) : Host State := do
  beforeLock task
  withLock (lockedBody polls entry task)

end Trigger6.Controller
