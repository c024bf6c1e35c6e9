/-
This file models what the controller can do to its host: the calls it makes,
what each may answer, and the two module mutations built from them,
`stop_module` and `start_module`.

A call is answered by an environment input, so every observation, failure and
clock advance is the adversary's choice. The world keeps only what the calls
share: the persisted ledger, the sleep marker, the module's residence, the
ledger lock, the two clocks, and a trace of what happened, newest first. An
executor is truthful when observations report the marker and the residence the
world really has; otherwise they are arbitrary.

`settle_module_references` polls without a bound of its own. Its model explores
a given number of polls and then hangs, so a statement for every number of
polls covers every finite run of the loop.
-/

import Trigger6.Controller.Policy
import Trigger6.Lib.RelyGuarantee

namespace Trigger6.Controller

open Interaction

/-! ### Calls, events and the world -/

/-- What a call can raise. `refusal` covers the subclass `NotReady`; `busy` is the subclass
`Busy`. -/
inductive PyError
  | refusal (text : String)
  | busy (text : String)
  | osError (text : String)
  | other (text : String)
deriving DecidableEq

/-- `except (Refusal, OSError) as error`: the text of the errors such a clause catches. -/
def PyError.caught : PyError → Option String
  | refusal text => some text
  | busy text => some text
  | osError text => some text
  | other _ => none

/-- The fixed commands the controller runs itself; `modinfo` and `udevadm` are part of the
observations that use them. -/
inductive Command
  | unbind (interface : String)
  | rmmod
  | insmod (path devicePath : String) (arguments : List String)
  | pacman
deriving DecidableEq

/-- The commands that mutate the module or its binding. -/
def Command.mutates : Command → Bool
  | pacman => false
  | _ => true

/-- The commands that take a module away: `unbind` and `rmmod`. -/
def Command.removes : Command → Bool
  | unbind _ => true
  | rmmod => true
  | _ => false

/-- The places that call `stop_module`. -/
inductive StopSite
  | faultStop
  | removal
  | cleanup
  | sleepStop
  | explicitStop
deriving DecidableEq

/-- The invocations the trace records at entry and exit. -/
inductive Method
  | tick
  | pause
  | resume
  | startModule
  | stopModule (site : StopSite)
deriving DecidableEq

/-- The two invocations of the system-sleep hook. -/
inductive SleepHook
  | pre
  | post
deriving DecidableEq

inductive Event
  | entered (method : Method)
  | returned (method : Method)
  | raised (method : Method)
  | command (command : Command)
  | wrote (state : State)
  | observed (inhibited : Option Bool)
  | unobserved (error : PyError)
  | markerCreated
  | markerRemoved
  | exited (hook : SleepHook)
deriving DecidableEq

inductive HostOp
  | snapshot (deadline : Option ℚ)
  | discover (deadline : ℚ)
  | residentIdentity
  | refcnt
  | moduleExists
  | monotonic
  | sleep (duration : ℚ)
  | now
  | bootId
  | readConfig
  | verifyArtifact
  | runCommand (command : Command) (timeout : ℚ)
  | print (event : String)
  | hang
  | storeRead
  | storeWrite (state : State)
  | inhibitExists
  | inhibitCheck
  | inhibitUnlink
  | inhibitCreate
  | lock
  | unlock
  | note (event : Event)

/-- The answer to each call; `Except` where the call may raise. -/
def HostOp.Answer : HostOp → Type
  | snapshot _ => Except PyError Observation
  | discover _ => Except PyError (Option Device)
  | residentIdentity => Except PyError (Bool × Bool × Option String)
  | refcnt => Except PyError (Option String)
  | moduleExists => Except PyError Bool
  | monotonic => ℚ
  | sleep _ => Unit
  | now => ℚ
  | bootId => Except PyError (Option String)
  | readConfig => Except PyError Unit
  | verifyArtifact => Except PyError Unit
  | runCommand _ _ => Except PyError String
  | print _ => Except PyError Unit
  | hang => Empty
  | storeRead => Except PyError State
  | storeWrite _ => Except PyError Unit
  | inhibitExists => Except PyError Bool
  | inhibitCheck => Except PyError Unit
  | inhibitUnlink => Except PyError Unit
  | inhibitCreate => Except PyError Unit
  | lock => Except PyError Unit
  | unlock => Unit
  | note _ => Unit

/-- The interface of controller programs. -/
abbrev hostInterface : Interface where
  Op := HostOp
  Answer := HostOp.Answer

/-- A controller program: host calls, with Python exceptions. -/
abbrev Host := ExceptT PyError (Program hostInterface)

/-- The processes that run the controller. -/
inductive Process
  | watcher
  | sleepHook (hook : SleepHook)
  | operator
deriving DecidableEq

/-- `holder` is the process that holds the ledger lock; `turnedAway` lists the processes that
found it held. -/
structure World where
  ledger : State
  marker : Bool
  module : Bool
  holder : Option Process
  turnedAway : List Process
  clock : ℚ
  steady : ℚ
  trace : List Event

/-- One environment input. A call reads the fields it needs. -/
structure Env where
  raises : Option PyError
  observation : Observation
  device : Option Device
  identity : Bool × Bool × Option String
  text : Option String
  present : Bool
  time : ℚ

def World.record (world : World) (event : Event) : World :=
  { world with trace := event :: world.trace }

/-- One atomic ledger write. -/
def World.write (world : World) (state : State) : World :=
  { world.record (.wrote state) with ledger := state }

def World.createMarker (world : World) : World :=
  { world.record .markerCreated with marker := true }

def World.removeMarker (world : World) : World :=
  { world.record .markerRemoved with marker := false }

/-- The answer of a call that may raise: what the input says it raises, or `value`. -/
def Env.attempt {Value : Type} (env : Env) (value : Value) : Except PyError Value :=
  match env.raises with
  | none => .ok value
  | some error => .error error

/-- The observation a snapshot makes: the input's, with the marker and the module's residence
as they are when the executor is truthful. -/
def World.observe (world : World) (truthful : Bool) (env : Env) : Observation :=
  if truthful then
    { env.observation with
      modulePresent := world.module
      inhibited := env.observation.inhibited.map fun _ => world.marker }
  else
    env.observation

/-- The residence of the module after a command, which may or may not have taken effect. -/
def Command.residence (command : Command) (module present : Bool) : Bool :=
  match command with
  | unbind _ => module
  | rmmod => module && present
  | insmod _ _ _ => module || present
  | pacman => module

/-- How the world answers each call of a process. A raising `storeWrite`, `inhibitUnlink` or
`inhibitCreate` has no effect (each is one atomic file operation); a raising command may
have had its effect. -/
def hostExec (truthful : Bool) (self : Process) : Executor hostInterface World Env
  | world, .snapshot _, env =>
    let observation := world.observe truthful env
    some (env.attempt observation, world.record (match env.raises with
      | none => .observed observation.inhibited
      | some error => .unobserved error))
  | world, .discover _, env => some (env.attempt env.device, world)
  | world, .residentIdentity, env =>
    some (env.attempt (if truthful then (world.module, env.identity.2) else env.identity), world)
  | world, .refcnt, env => some (env.attempt env.text, world)
  | world, .moduleExists, env =>
    some (env.attempt (if truthful then world.module else env.present), world)
  | world, .monotonic, env =>
    let steady := max world.steady env.time
    some (steady, { world with steady := steady })
  | world, .sleep _, _ => some ((), world)
  | world, .now, env =>
    let clock := max world.clock env.time
    some (clock, { world with clock := clock })
  | world, .bootId, env => some (env.attempt env.text, world)
  | world, .readConfig, env => some (env.attempt (), world)
  | world, .verifyArtifact, env => some (env.attempt (), world)
  | world, .runCommand command _, env =>
    some (env.attempt (env.text.getD ""),
      { world.record (.command command) with
        module := command.residence world.module env.present })
  | world, .print _, env => some (env.attempt (), world)
  | _, .hang, _ => none
  | world, .storeRead, env => some (env.attempt world.ledger, world)
  | world, .storeWrite state, env =>
    some (env.attempt (), match env.raises with
      | none => world.write state
      | some _ => world)
  | world, .inhibitExists, env => some (env.attempt world.marker, world)
  | world, .inhibitCheck, env => some (env.attempt (), world)
  | world, .inhibitUnlink, env =>
    some (env.attempt (), match env.raises with
      | none => world.removeMarker
      | some _ => world)
  | world, .inhibitCreate, env =>
    some (env.attempt (), match env.raises with
      | none => world.createMarker
      | some _ => world)
  | world, .lock, env =>
    if world.holder.isSome then
      some (.error (.busy "controller busy; operation refused without waiting"),
        { world with turnedAway := self :: world.turnedAway })
    else
      some (env.attempt (), match env.raises with
        | none => { world with holder := some self }
        | some _ => world)
  | world, .unlock, _ => some ((), { world with holder := none })
  | world, .note event, _ => some ((), world.record event)

/-! ### The calls as programs -/

def calling (op : HostOp) : Program hostInterface op.Answer := @Program.perform hostInterface op

/-- A call that may raise. -/
def raising {Value : Type} (program : Program hostInterface (Except PyError Value)) :
    Host Value :=
  ExceptT.mk program

/-- A call that cannot raise. -/
def steadily {Value : Type} (program : Program hostInterface Value) : Host Value :=
  ExceptT.lift program

def snapshot (deadline : Option ℚ) : Host Observation := raising (calling (.snapshot deadline))
def discover (deadline : ℚ) : Host (Option Device) := raising (calling (.discover deadline))
def residentIdentity : Host (Bool × Bool × Option String) := raising (calling .residentIdentity)
def refcnt : Host (Option String) := raising (calling .refcnt)
def moduleExists : Host Bool := raising (calling .moduleExists)
def monotonic : Host ℚ := steadily (calling .monotonic)
def sleep (duration : ℚ) : Host Unit := steadily (calling (.sleep duration))
def now : Host ℚ := steadily (calling .now)
def bootId : Host (Option String) := raising (calling .bootId)
def readConfig : Host Unit := raising (calling .readConfig)
def verifyArtifact : Host Unit := raising (calling .verifyArtifact)
def runCommand (command : Command) (timeout : ℚ) : Host String :=
  raising (calling (.runCommand command timeout))
def printEvent (event : String) : Host Unit := raising (calling (.print event))
def hang {Value : Type} : Host Value :=
  ExceptT.mk (@Program.call hostInterface _ .hang fun impossible => nomatch impossible)
def storeRead : Host State := raising (calling .storeRead)
def storeWrite (state : State) : Host Unit := raising (calling (.storeWrite state))
def inhibitExists : Host Bool := raising (calling .inhibitExists)
def inhibitCheck : Host Unit := raising (calling .inhibitCheck)
def inhibitUnlink : Host Unit := raising (calling .inhibitUnlink)
def inhibitCreate : Host Unit := raising (calling .inhibitCreate)
def lock : Host Unit := raising (calling .lock)
def unlock : Host Unit := steadily (calling .unlock)
def note (event : Event) : Host Unit := steadily (calling (.note event))

/-- `raise Refusal(text)`. -/
def refuse {Value : Type} (text : String) : Host Value := throw (.refusal text)

/-- Runs the body of a method between the trace marks of its entry and exit. -/
def traced {Value : Type} (method : Method) (body : Host Value) : Host Value := do
  note (.entered method)
  let value ← tryCatch body fun error => do
    note (.raised method)
    throw error
  note (.returned method)
  return value

/-- `except (Refusal, OSError) as error: handler(str(error))`; anything else propagates. -/
def caughtBy {Value : Type} (handler : String → Host Value) (error : PyError) : Host Value :=
  match error.caught with
  | some text => handler text
  | none => throw error

/-! ### Stopping the module -/

/-- `remaining_timeout`. -/
def remainingTimeout (deadline maximum : ℚ) (phase : String) : Host ℚ := do
  let remaining := deadline - (← monotonic)
  if remaining ≤ 0 then
    refuse s!"stop deadline exhausted before {phase}; no further mutation"
  else
    return min maximum remaining

/-- `re.fullmatch(r"0|[1-9][0-9]{0,8}", references)`. -/
def wellFormedCount (references : String) : Bool :=
  match references.toList with
  | ['0'] => true
  | first :: rest =>
    first != '0' && first.isDigit && rest.all Char.isDigit && rest.length ≤ 8
  | [] => false

/-- The loop of `settle_module_references`, explored for a number of polls. -/
def settleLoop (started limit : ℚ) : Nat → Host ℚ
  | 0 => hang
  | polls + 1 => do
    match ← refcnt with
    | none => refuse "module refcount unavailable/malformed after unbind; no removal"
    | some references =>
      if !wellFormedCount references then
        refuse "module refcount unavailable/malformed after unbind; no removal"
      else if references = "0" then
        return (← monotonic) - started
      else
        let remaining := limit - (← monotonic)
        if remaining ≤ 0 then
          refuse s!"module still referenced after bounded settle (refcnt={references}); no removal or force"
        else
          sleep (min refcountPollSeconds remaining)
          settleLoop started limit polls

/-- `settle_module_references`. -/
def settleModuleReferences (polls : Nat) (deadline : ℚ) : Host ℚ := do
  let started ← monotonic
  settleLoop started (min deadline (started + refcountSettleSeconds)) polls

/-- The device is present and bound to the named driver. -/
def boundTo (device : Option Device) (driver : String) : Bool :=
  match device with
  | none => false
  | some device => device.driver = some driver

/-- The device is present and bound to some driver. -/
def boundAtAll (device : Option Device) : Bool :=
  match device with
  | none => false
  | some device => truthy device.driver

/-- A command of `stop_module` under the shared deadline; a failure is reported as
`failure: cause`. -/
def stopCommand (deadline : ℚ) (phase failure : String) (command : Command) : Host Unit :=
  tryCatch
    (do
      let timeout ← remainingTimeout deadline (3 / 2) phase
      let _ ← runCommand command timeout
      return)
    (caughtBy fun text => refuse s!"{failure}: {text}")

/-- The exact-interface unbind of `stop_module`, after a second discovery of the same bound
generation. -/
def unbindExact (deadline : ℚ) (device : Device) : Host Unit := do
  let fresh ← discover deadline
  if !boundTo fresh "trigger6" || fresh.map Device.generation != some device.generation then
    refuse "generation changed before exact unbind"
  else
    stopCommand deadline "unbind" "exact-interface unbind failed" (.unbind device.interface)
    printEvent "exact-interface-unbound"

/-- The rest of `stop_module` once nothing is bound: settle, check again, remove. -/
def removeModule (polls : Nat) (deadline : ℚ) (observation : Observation) : Host Unit := do
  let _ ← settleModuleReferences polls deadline
  let (present, owned, selected) ← residentIdentity
  if !present || !owned || selected != observation.modulePath then
    refuse "resident identity changed during stop; no removal"
  else
    let fresh ← discover deadline
    if fresh.map Device.generation != observation.device.map Device.generation then
      refuse "generation changed during stop; no removal"
    else if boundAtAll fresh then
      refuse "interface rebound during stop; no removal"
    else if (← refcnt) != some "0" then
      refuse "module acquired a new reference after settle; no removal"
    else
      printEvent "module-references-released"
      stopCommand deadline "ordinary removal" "ordinary module removal failed" .rmmod
      if ← moduleExists then
        refuse "module remains resident after normal removal"

/-- The unbind `stop_module` makes only when its snapshot showed the driver bound. -/
def unbindIfBound (deadline : ℚ) : Option Device → Host Unit
  | none => return
  | some device =>
    if device.driver = some "trigger6" then unbindExact deadline device else return

/-- The body of `Host.stop_module`. -/
def stopModuleBody (polls : Nat) : Host Unit := do
  let started ← monotonic
  let deadline := started + stopSeconds
  let observation ← snapshot (some deadline)
  if !observation.modulePresent then
    return
  else if !observation.ownedModule then
    refuse "refusing removal of unapproved resident module"
  else
    unbindIfBound deadline observation.device
    removeModule polls deadline observation

/-- `Host.stop_module`, called from `site`. -/
def stopModule (polls : Nat) (site : StopSite) : Host Unit :=
  traced (.stopModule site) (stopModuleBody polls)

/-! ### Starting the module -/

/-- The reviewed artifact `read_config` approved for the running kernel. -/
structure Entry where
  path : String
  sha256 : String
  srcversion : String
  vermagic : String

/-- `COMPOSITOR_PACKAGES`. -/
def compositorPackages : String := "hyprland 0.56.2-1\naquamarine 0.14.0-2"

/-- `PROFILE`, as the module arguments `start_module` derives from it. -/
def profileArguments : List String :=
  ["manual_only=0", "output_mask=1", "query_only=0", "query_timings=0", "query_timing_page1=0",
    "aquamarine_evdi_name=1", "raw_idle_refresh=1", "final_monitor_off=1",
    "serialize_usb_bus=1", "experimental_secondary_raw=0", "secondary_userspace_jpeg=0"]

/-- The readiness both pre-insertion snapshots must show for `generation`. -/
def readyFor (observation : Observation) (generation : String) : Bool :=
  !truthy observation.error && observation.inhibited = some false && observation.panelReady &&
    observation.device.map Device.generation = some generation && !boundAtAll observation.device

/-- The success `start_module` demands of the snapshot after the insertion. -/
def insertedAs (observation : Observation) (generation : String) : Bool :=
  observation.device.map Device.generation = some generation &&
    boundTo observation.device "trigger6" && observation.ownedModule && !observation.fault &&
    observation.drmPresent

/-- The insertion itself: the last snapshot before it, the command, the snapshot after it. -/
def insertModule (entry : Entry) (device : Device) (generation : String) : Host Unit := do
  let fresh ← snapshot none
  if !readyFor fresh generation || fresh.modulePresent then
    refuse "state changed while removing old one-attempt module"
  else
    let _ ← runCommand (.insmod entry.path device.path profileArguments) 8
    let after ← snapshot none
    if !insertedAs after generation then
      refuse "single insertion failed its binding/DRM/transport checks"

/-- The removal of a module left by an earlier attempt. -/
def removeOld (polls : Nat) (present : Bool) : Host Unit :=
  if present then stopModule polls .removal else return

/-- `start_module` once its first snapshot has shown a device. -/
def startOn (polls : Nat) (entry : Entry) (generation : String) (before : Observation)
    (device : Device) : Host Unit := do
  if !readyFor before generation || !before.hyprlandPresent then
    refuse "generation/panel/readiness changed before insertion"
  else if (← runCommand .pacman 2) != compositorPackages then
    refuse "unreviewed compositor packages; name-shim compatibility review required"
  else
    removeOld polls before.modulePresent
    insertModule entry device generation

/-- `start_module` once its first snapshot was taken. -/
def startObserved (polls : Nat) (entry : Entry) (generation : String) (before : Observation) :
    Host Unit :=
  match before.device with
  | none => refuse "generation/panel/readiness changed before insertion"
  | some device => startOn polls entry generation before device

/-- The body of `Host.start_module`. -/
def startModuleBody (polls : Nat) (entry : Entry) (generation : String) : Host Unit := do
  verifyArtifact
  startObserved polls entry generation (← snapshot none)

/-- `Host.start_module`. -/
def startModule (polls : Nat) (entry : Entry) (generation : String) : Host Unit :=
  traced .startModule (startModuleBody polls entry generation)

end Trigger6.Controller
