/-
This file gives the steps of which driver code is made. A step is one access to
shared memory, one critical section of `tx_lock`, one kernel primitive or one USB
request; between two steps of a thread the others may run. What a step can
touch is visible from its constructor.

A request comes with the check of the fault latch that guards it in the source,
and the two are one step: nothing can latch the fault between the check and the
request. A request made without a check would be one whose check is always
passed.
-/

import Trigger6.Driver.Queue
import Trigger6.Lib.Program

namespace Trigger6.Driver

open Bytes Interaction

variable {c : Config}

/-! ### Steps -/

inductive Op (c : Config)
  /-- A read of one field of the state. -/
  | read
  /-- The clock, an allocation, or what the USB core says of the device. -/
  | ask
  | tune (head : HeadId) (change : Sender c → Sender c)
  | tuneDevice (change : DeviceMetrics → DeviceMetrics)
  | setNextHead (head : HeadId)
  | setScanoutActive (head : HeadId) (active : Bool)
  | setKeepaliveDue (head : HeadId) (due : Bool)
  | setIoLastError (errno : Errno)
  | setIoFaulted
  /-- Copies bytes into the reference frame. -/
  | copyLastSent (head : HeadId) (offset : Nat) (block : List Byte)
  | setLastSentValid (head : HeadId) (valid : Bool)
  | lockIo
  | unlockIo
  | devEnter
  | devExit
  | setUnplugged
  | awaitSections
  | submit (check : Dev c → Bool) (allocates : Bool) (transfer : Transfer)
  | take (head : HeadId)
  | requeue (head : HeadId) (popped : Popped)
  | yieldTurn (head : HeadId) (popped : Popped)
  | pickNextPending
  /-- Packs and stages a frame, and queues the worker. -/
  | stage (head : HeadId) (src : Nat → Byte) (pitch : Nat)
  | packBack (head : HeadId) (src : Nat → Byte) (pitch : Nat)
  | swapExport (head : HeadId)
  | trip (head : HeadId) (errno : Errno) (source : String)
  | arm (head : HeadId) (work : Work)
  /-- Removes a pending instance and waits for a running one. -/
  | cancelSync (head : HeadId) (work : Work)
  | flushWorkqueue
  | destroyWorkqueue
  | freeBuffers (head : HeadId)
  | freeBulkChunk
  | clearIntfdata
  | noteSent (head : HeadId) (frame : Frame c)
  | note (event : Event c)

/-- What the outside answers with. -/
structure Env where
  status : Option Errno := none
  actual : Nat := 0
  data : List Byte := []
  allocated : Bool := true
  jiffies : BitVec 64 := 0
  ns : Nat := 0
  usbConfigured : Bool := true
  unbinding : Bool := true

/-- The answer to a guarded request. -/
inductive Submission
  | refused
  | noMemory
  | returned (outcome : Outcome) (data : List Byte)

/-- The call a guarded request makes cannot move more than was asked. -/
def Env.outcome (env : Env) (transfer : Transfer) : Outcome where
  status := env.status
  actual := min env.actual transfer.size

abbrev Op.Answer : Op c → Type
  | .read => Dev c
  | .ask => Env
  | .devEnter => Bool
  | .submit _ _ _ => Submission
  | .take _ => Option Popped
  | .yieldTurn _ _ => Option HeadId
  | .pickNextPending => Option HeadId
  | .stage _ _ _ => Except Errno Unit
  | .packBack _ _ _ => Except Errno Unit
  | .trip _ _ _ => Bool
  | _ => Unit

abbrev calls (c : Config) : Interface where
  Op := Op c
  Answer := Op.Answer

abbrev Prog (c : Config) := Program (calls c)

/-- Programs that return a negative error code or a value. -/
abbrev Fallible (c : Config) := ExceptT Errno (Prog c)

/-! ### What a step does -/

/-- Whether a work item that may block a flush of the workqueue is under way. -/
def workqueueBusy (dev : Dev c) : Bool :=
  heads.any fun head =>
    ((dev.heads head).jobs .txWork).pending || ((dev.heads head).jobs .txWork).running ||
      ((dev.heads head).jobs .txDeferWork).running ||
      ((dev.heads head).jobs .bootKeepaliveWork).running

/-- Queues a work item or arms a timer. -/
def Dev.armJob (dev : Dev c) (thread : Thread) (head : HeadId) (work : Work) : Dev c :=
  (dev.setJob head work fun job => { job with pending := true }).record
    (.armed thread head work)

def freeHeadBuffers (state : HeadState c) : HeadState c :=
  { state with
    queue := { state.queue with
      allocated := false
      txLen := 0
      txStride := 0
      txPending := false
      fbExportLen := 0 }
    lastSentFrame := none
    lastSentValid := false
    sender := { state.sender with videoStaging := false, jpegStaging := none } }

/-- How the world answers a step of a thread; `none` where the step blocks. -/
def exec (thread : Thread) : Executor (calls c) (Dev c) Env := fun dev op env =>
  match op with
  | .read => some (dev, dev)
  | .ask => some (env, dev)
  | .tune head change =>
    some ((), dev.setHead head fun state => { state with sender := change state.sender })
  | .tuneDevice change => some ((), { dev with metrics := change dev.metrics })
  | .setNextHead head => some ((), { dev with txNextHead := head })
  | .setScanoutActive head active =>
    some ((), dev.setHead head fun state => { state with scanoutActive := active })
  | .setKeepaliveDue head due =>
    some ((), dev.setHead head fun state => { state with keepaliveDue := due })
  | .setIoLastError errno => some ((), { dev with ioLastError := some errno })
  | .setIoFaulted => some ((), { dev with ioFaulted := true, traffic := .latched :: dev.traffic })
  | .copyLastSent head offset block =>
    some ((), dev.setHead head fun state =>
      { state with lastSentFrame := state.lastSentFrame.map fun frame => frame.copy offset block })
  | .setLastSentValid head valid =>
    some ((), dev.setHead head fun state => { state with lastSentValid := valid })
  | .lockIo => if dev.ioLock = none then some ((), { dev with ioLock := some thread }) else none
  | .unlockIo => some ((), { dev with ioLock := none })
  | .devEnter =>
    if dev.unplugged then some (false, dev)
    else some (true, { dev with sections := dev.sections + 1 })
  | .devExit => some ((), { dev with sections := dev.sections - 1 })
  | .setUnplugged => some ((), { dev with unplugged := true })
  | .awaitSections => if dev.sections = 0 then some ((), dev) else none
  | .submit check allocates transfer =>
    if check dev then some (.refused, dev)
    else if allocates && !env.allocated then some (.noMemory, dev)
    else
      let outcome := env.outcome transfer
      some (.returned outcome env.data,
        { dev with traffic := .submitted thread transfer outcome :: dev.traffic })
  | .take head =>
    match takeActivity dev head with
    | none => some (none, dev)
    | some (popped, state) => some (some popped, dev.setHead head fun _ => state)
  | .requeue head popped =>
    some ((), dev.setHead head fun state => requeueActivity state popped)
  | .yieldTurn head popped =>
    match yieldTo dev head env.jiffies with
    | none => some (none, dev)
    | some next => some (some next, dev.setHead head fun state => requeueActivity state popped)
  | .pickNextPending => some (pickNextPendingHeadLocked dev false env.jiffies, dev)
  | .stage head src pitch =>
    match stageFrame (dev.heads head).queue src pitch env.ns with
    | .error errno => some (.error errno, dev)
    | .ok queue =>
      let staged := (dev.setHead head fun state => { state with queue := queue }).record
        (.staged head (queue.contents queue.txBack))
      some (.ok (), if dev.wq then staged.armJob thread head .txWork else staged)
  | .packBack head src pitch =>
    let queue := (dev.heads head).queue
    match packXrgb8888Tight queue src pitch with
    | .error errno => some (.error errno, dev)
    | .ok frame => some (.ok (), dev.setHead head fun state =>
        { state with queue := queue.fill queue.txBack ⟨frame, queue.stagings⟩ })
  | .swapExport head =>
    some ((), dev.setHead head fun state => { state with queue := state.queue.swapExport })
  | .trip head errno source =>
    some ((dev.heads head).ioFaulted, dev.setHead head fun state => tripHead state errno source)
  | .arm head work => some ((), dev.armJob thread head work)
  | .cancelSync head work =>
    if ((dev.heads head).jobs work).running then none
    else some ((), (dev.setJob head work fun job => { job with pending := false }).record
      (.cancelled thread head work))
  | .flushWorkqueue => if workqueueBusy dev then none else some ((), dev)
  | .destroyWorkqueue => if workqueueBusy dev then none else some ((), { dev with wq := false })
  | .freeBuffers head => some ((), dev.setHead head freeHeadBuffers)
  | .freeBulkChunk => some ((), { dev with bulkChunk := false })
  | .clearIntfdata => some ((), { dev with intfdata := false })
  | .noteSent head frame =>
    some ((), { dev with traffic := .rawSent head frame :: dev.traffic })
  | .note event => some ((), dev.record event)

/-! ### Calling steps -/

/-- One step, as a program. -/
def act (op : Op c) : Prog c (Op.Answer op) := Program.perform (I := calls c) op

/-- A program that cannot fail, where one that may is expected. -/
abbrev lift {Result : Type} (program : Prog c Result) : Fallible c Result := ExceptT.lift program

/-- A read of the state. -/
def readDev : Prog c (Dev c) := act .read

/-- A read of a head's state. -/
def readHead (head : HeadId) : Prog c (HeadState c) := do
  return (← readDev).heads head

/-- A change of a head's counters. -/
def count (head : HeadId) (change : HeadMetrics → HeadMetrics) : Prog c Unit :=
  act (.tune head fun sender => { sender with metrics := change sender.metrics })

end Trigger6.Driver
