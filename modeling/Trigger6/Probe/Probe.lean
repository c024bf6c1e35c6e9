/-
This file embeds the probe. It runs on one thread, before anything else of the
driver can run on the device: it checks the module parameters, asks the device
for its RAM, the selected head's status and EDID and, in a timing query, for the
timing table, and takes what an active device needs. Its failures give back
what was taken, in the order of the source's labels.

The requests are recorded with the size of the buffer their answer goes to, and
so is what the gate of query mode refuses.
-/

import Trigger6.Diagnostics.TimingQuery
import Trigger6.Lib.TotalRuns

namespace Trigger6.Probe

open Bytes Driver Interaction

/-! ### Parameters -/

/-- The module parameters the probe reads. -/
structure Params where
  devicePath : String
  outputMask : Nat
  manualOnly : Bool
  queryOnly : Bool
  queryTimings : Bool
  queryTimingPage1 : Bool
  aquamarineEvdiName : Bool
  rawIdleRefresh : Bool
  finalMonitorOff : Bool
  serializeUsbBus : Bool
  experimentalSecondaryRaw : Bool
  secondaryUserspaceJpeg : Bool

/-- The interface the USB core offers, by what `t6_match_interface` says of its descriptors and by
the name of its device. -/
structure UsbInterface where
  profileMatches : Bool
  device : String

def outputMaskValid (mask : Nat) : Bool := mask == 1 || mask == 2

/-- The combinations of parameters that end with `-EINVAL`. -/
def paramsRefused (params : Params) : Bool :=
  (!outputMaskValid params.outputMask || params.experimentalSecondaryRaw ||
    params.secondaryUserspaceJpeg || !params.serializeUsbBus ||
    (params.aquamarineEvdiName && params.outputMask != 1) ||
    (params.rawIdleRefresh && params.outputMask != 1)) ||
  (params.queryTimingPage1 && !params.queryTimings) ||
  (params.finalMonitorOff && (params.queryOnly || params.outputMask != 1)) ||
  (params.queryTimings && (!params.queryOnly || params.outputMask != 1 ||
    params.aquamarineEvdiName || params.rawIdleRefresh))

/-- The output mask selects a head. -/
def Params.selects (params : Params) (head : HeadId) : Bool :=
  params.outputMask.testBit head.outputIdx

/-! ### The device while it is probed -/

def edidDataSize : Nat := 256

/-- A head as the probe finds it. -/
structure ProbedHead where
  transport : Transport
  status : Nat
  connected : Bool
  edidData : Buffer edidDataSize
  edidLen : Nat

/-- `t6_head_defaults`. -/
def ProbedHead.defaults (params : Params) (head : HeadId) : ProbedHead where
  transport :=
    match head with
    | .primary => .raw
    | .secondary =>
      if params.secondaryUserspaceJpeg then .userJpeg
      else if params.experimentalSecondaryRaw then .raw
      else .nv12
  status := 0
  connected := false
  edidData := .zeroed edidDataSize
  edidLen := 0

/-- The buffers of a head. -/
inductive HeadBuffer
  | txFront
  | txBack
  | videoStaging
  | lastSentFrame
  | jpegStaging
  | fbExportBuf
deriving DecidableEq

/-- The objects the display subsystem keeps for a head. -/
inductive HeadObject
  | connector
  | plane
  | crtc
  | encoder
  | attachment
deriving DecidableEq

/-- What the probe takes. -/
inductive Resource
  | drmDevice
  | usbDevice
  | dmaDevice
  | intfdata
  | workqueue
  | bulkChunk
  | buffer (head : HeadId) (kind : HeadBuffer)
  | modeConfig
  | object (head : HeadId) (kind : HeadObject)
  | jpegDevice (head : HeadId)
  | drmRegistration
  | sysfsGroup
deriving DecidableEq

/-- A request that was made, the size of the buffer its answer goes to, and what that buffer holds
after it. -/
structure Request where
  transfer : Transfer
  target : Nat
  outcome : Outcome
  received : List Byte

/-- A request by its four fields. -/
structure Asked where
  request : Nat
  value : Nat
  index : Nat
  size : Nat
deriving DecidableEq

structure Probing where
  /-- `t6_active_probe_used`. -/
  probeUsed : Bool
  ioFaulted : Bool
  ioLastError : Option Errno
  ramMb : Nat
  heads : HeadId → ProbedHead
  held : Resource → Bool
  /-- The requests made, the oldest first. -/
  traffic : List Request
  /-- The requests the gate of query mode refused. -/
  refused : List Asked

/-! ### Steps -/

inductive Op
  | read
  /-- `atomic_cmpxchg(&t6_active_probe_used, 0, 1)`. -/
  | claim
  | resetFault
  | latchIoError (errno : Errno)
  | setRam (ramMb : Nat)
  | changeHead (head : HeadId) (change : ProbedHead → ProbedHead)
  | refuse (asked : Asked)
  /-- An allocation that is freed again. -/
  | allocate
  | submit (transfer : Transfer) (target : Nat)
  | acquire (resource : Resource)
  /-- Takes what is never refused. -/
  | take (resource : Resource)
  | release (resource : Resource)
  /-- Cancels a work item or timer, and waits for it. -/
  | cancelSync (head : HeadId) (work : Work)

abbrev Op.Answer : Op → Type
  | .read => Probing
  | .claim => Bool
  | .allocate => Bool
  | .submit _ _ => Outcome × List Byte
  | .acquire _ => Option Errno
  | _ => Unit

abbrev calls : Interface where
  Op := Op
  Answer := Op.Answer

abbrev Prog := Program calls

abbrev Fallible := ExceptT Errno Prog

/-- The bytes in a zeroed buffer after a transfer into it. -/
def receive (outcome : Outcome) (transfer : Transfer) (data : List Byte) : List Byte :=
  if outcome.complete transfer then (data ++ List.replicate transfer.size 0).take transfer.size
  else List.replicate transfer.size 0

def exec : Executor calls Probing Env := fun dev op env =>
  match op with
  | .read => some (dev, dev)
  | .claim => some (dev.probeUsed, { dev with probeUsed := true })
  | .resetFault => some ((), { dev with ioFaulted := false, ioLastError := none })
  | .latchIoError errno => some ((), { dev with ioFaulted := true, ioLastError := some errno })
  | .setRam ramMb => some ((), { dev with ramMb := ramMb })
  | .changeHead head change =>
    some ((), { dev with heads := Function.update dev.heads head (change (dev.heads head)) })
  | .refuse asked => some ((), { dev with refused := dev.refused ++ [asked] })
  | .allocate => some (env.allocated, dev)
  | .submit transfer target =>
    let outcome := env.outcome transfer
    let received := receive outcome transfer env.data
    some ((outcome, received),
      { dev with traffic := dev.traffic ++ [⟨transfer, target, outcome, received⟩] })
  | .acquire resource =>
    match env.status with
    | some errno => some (some errno, dev)
    | none => some (none, { dev with held := Function.update dev.held resource true })
  | .take resource => some ((), { dev with held := Function.update dev.held resource true })
  | .release resource =>
    some ((), { dev with held := Function.update dev.held resource false })
  -- nothing here says what is queued or armed
  | .cancelSync _ _ => some ((), dev)

def act (op : Op) : Prog (Op.Answer op) := Program.perform (I := calls) op

abbrev lift {Result : Type} (program : Prog Result) : Fallible Result := ExceptT.lift program

/-- A step that must succeed. -/
def acquire (resource : Resource) : Fallible Unit := do
  match ← lift (act (.acquire resource)) with
  | none => return
  | some errno => throw errno

/-- An allocation that must succeed. -/
def allocate (resource : Resource) : Fallible Unit := do
  if (← lift (act (.acquire resource))).isSome then throw .noMemory

/-- Gives back what was taken before a failure is returned. -/
def onFailure {Value : Type} (cleanup : Prog Unit) (body : Fallible Value) : Fallible Value :=
  tryCatch body fun errno => do
    lift cleanup
    throw errno

/-! ### Control transfers -/

/-- `t6_query_in_allowed`. -/
def queryInAllowed (outputMask : Nat) (timings page1 : Bool) (asked : Asked) : Bool :=
  let head := if outputMask = 1 then 0 else 1
  if outputMask ≠ 1 ∧ outputMask ≠ 2 then false
  else if timings && outputMask != 1 then false
  else if page1 && !timings then false
  else if asked.request = reqGetRam then asked.value == 0 && asked.index == 0 && asked.size == 4
  else if asked.request = reqGetStatus then
    asked.value == head && asked.index == 0 && asked.size == 1
  else if asked.request = reqGetEdid then
    asked.value == 0 && asked.index == head && asked.size == 128
  else if asked.request = reqGetResCount then
    timings && asked.value == 0 && asked.index == 0 && asked.size == 4
  else if asked.request = reqGetResTable then
    if page1 then timings && asked.value == 0 && asked.index == 512 && asked.size == 512
    else timings && asked.value == 0 && asked.index == 0 && asked.size != 0 &&
      asked.size ≤ resTableSize && asked.size % resEntrySize == 0
  else false

/-- The gate of a probed device is that of its probe. -/
theorem queryInAllowed_driver (c : Config) (asked : Asked) :
    Driver.queryInAllowed c asked.request asked.value asked.index asked.size =
      queryInAllowed (if c.selected = .primary then 1 else 2) c.queryTimings c.queryTimingPage1
        asked := by
  unfold Driver.queryInAllowed queryInAllowed
  cases c.selected <;> rfl

section Functions

variable (params : Params)

/-- The end of a control transfer: anything but a complete one latches the fault. -/
def finishControl (transfer : Transfer) (answer : Outcome × List Byte) : Fallible (List Byte) := do
  if answer.1.complete transfer then return answer.2
  else
    lift (act (.latchIoError (answer.1.status.getD .io)))
    throw (answer.1.status.getD .io)

def ctrlOut (request value index : Nat) (data : List Byte) : Fallible Unit := do
  if params.queryOnly then throw .perm
  if params.manualOnly || (← lift (act .read)).ioFaulted then throw .io
  if data.length ≠ 0 && !(← lift (act .allocate)) then throw .noMemory
  let transfer := .controlOut request value index data
  let _ ← finishControl transfer (← lift (act (.submit transfer data.length)))

/-- `t6_ctrl_in`, into a buffer of `target` bytes. -/
def ctrlIn (asked : Asked) (target : Nat) : Fallible (List Byte) := do
  if params.manualOnly || (← lift (act .read)).ioFaulted then throw .io
  if params.queryOnly &&
      !queryInAllowed params.outputMask params.queryTimings params.queryTimingPage1 asked then
    lift (act (.refuse asked))
    throw .perm
  if asked.size = 0 then throw .invalid
  if !(← lift (act .allocate)) then throw .noMemory
  let transfer := .controlIn asked.request asked.value asked.index asked.size
  finishControl transfer (← lift (act (.submit transfer target)))

/-! ### The queries -/

def queryRam : Fallible Unit := do
  let ram ← tryCatch (ctrlIn params ⟨reqGetRam, 0, 0, 4⟩ 4) fun _ => throw .io
  lift (act (.setRam (fromLittleEndian ram)))
  if fromLittleEndian ram ≠ ramMb then throw .noDevice

def edidHeader : List Byte := [0x00, 0xff, 0xff, 0xff, 0xff, 0xff, 0xff, 0x00]

def edidBaseBlockValid (edid : List Byte) : Bool :=
  edid.take 8 == edidHeader && (edid.take 128).sum == 0

/-- The base block with the number of extensions cleared, and the checksum of that. -/
def withoutExtensions (edid : Buffer edidDataSize) : Buffer edidDataSize :=
  (edid.copy 127 [edid.bytes.getD 127 0 + edid.bytes.getD 126 0]).copy 126 [0]

/-- The reading of the EDID of a connected head. -/
def probeEdid (head : HeadId) : Fallible Unit := do
  lift (act (.changeHead head fun state => { state with edidLen := 0 }))
  let edid ← ctrlIn params ⟨reqGetEdid, 0, head.outputIdx, 128⟩ edidDataSize
  lift (act (.changeHead head fun state => { state with edidData := state.edidData.copy 0 edid }))
  if !edidBaseBlockValid edid then throw .noDevice
  lift (act (.changeHead head fun state =>
    { state with edidLen := 128, edidData := withoutExtensions state.edidData }))

def probeHead (head : HeadId) : Fallible Unit := do
  if params.selects head then
    let status := fromLittleEndian (← ctrlIn params ⟨reqGetStatus, head.outputIdx, 0, 1⟩ 1)
    lift (act (.changeHead head fun state =>
      { state with status := status, connected := status == 1 }))
    if status = 1 then probeEdid params head

/-- One round of the loop over the heads. -/
def setUpHead (head : HeadId) : Fallible Unit := do
  lift (act (.changeHead head fun _ => .defaults params head))
  probeHead params head

/-- The record the page begins with. -/
def firstEntry : Nat := if params.queryTimingPage1 then Diagnostics.resMaxEntries else 0

/-- `t6_query_head0_timings`, which returns the lines it prints of the page. -/
def queryHead0Timings : Fallible (List (List Char)) := do
  let head := (← lift (act .read)).heads .primary
  if !params.queryOnly || !params.queryTimings || params.outputMask != 1 || !head.connected ||
      head.status != 1 || head.edidLen != 128 then
    throw .noDevice
  let count := fromLittleEndian (← ctrlIn params ⟨reqGetResCount, 0, 0, 4⟩ 4)
  if params.queryTimingPage1 && count != 36 then throw .protocol
  let entries := Diagnostics.timingQueryEntries
    (Diagnostics.remainingEntries count (firstEntry params))
  if entries = 0 then throw .protocol
  let size := entries * resEntrySize
  if !(← lift (act .allocate)) then throw .noMemory
  let table ← ctrlIn params ⟨reqGetResTable, 0, firstEntry params * resEntrySize, size⟩ size
  return Diagnostics.timingLines count (firstEntry params) entries table

/-! ### An active device -/

/-- The buffers `t6_alloc_head_buffers` allocates for a head, by its transport. The first two are
allocated together. -/
def buffersOf (transport : Transport) : List HeadBuffer :=
  (if transport = .raw then [.videoStaging, .lastSentFrame] else [.jpegStaging]) ++
    (if transport = .nv12 then [.lastSentFrame] else []) ++
    (if transport = .userJpeg then [.fbExportBuf] else [])

def allocBuffersOf (head : HeadId) : Fallible Unit := do
  let front ← lift (act (.acquire (.buffer head .txFront)))
  let back ← lift (act (.acquire (.buffer head .txBack)))
  if front.isSome || back.isSome then throw .noMemory
  let transport := ((← lift (act .read)).heads head).transport
  (buffersOf transport).forM fun kind => allocate (.buffer head kind)

def allocHeadBuffers : Fallible Unit := do
  allocate .bulkChunk
  allocBuffersOf .primary
  allocBuffersOf .secondary

def reqSetResolution : Nat := 0x12
def reqSetColor : Nat := 0x23
def reqSetTiming : Nat := 0x24
def reqSetReady : Nat := 0x31
def reqReset : Nat := 0x1c

def initColor : List Byte :=
  [0x00, 0x00, 0x00, 0x00, 0x00, 0x00, 0x00, 0x1f, 0x00, 0x00, 0x00, 0x1f, 0x00, 0x00, 0x00, 0x0f,
    0x00, 0x00, 0x00, 0x0f, 0x00, 0x00, 0x00, 0x0f, 0x00, 0x00, 0x00, 0x0f, 0x00, 0x00, 0x00, 0x0f,
    0x00, 0x00, 0x00, 0x0f, 0x00, 0x00, 0x00, 0x00]

def initTimingPre : List Byte :=
  [0x00, 0x00, 0x00, 0x00, 0x00, 0x00, 0x00, 0x00, 0x80, 0x25, 0x00, 0x00, 0x00, 0x00, 0x02, 0x00]

def initTimingPost : List Byte :=
  [0x01, 0x00, 0x00, 0x00, 0x00, 0x00, 0x00, 0x00, 0x80, 0x25, 0x00, 0x00, 0x00, 0x00, 0x02, 0x00]

def mode1080p : List Byte :=
  [0x14, 0x44, 0x02, 0x00, 0x3c, 0x00, 0x98, 0x08, 0x80, 0x07, 0xd8, 0x07, 0x2c, 0x00, 0x65, 0x04,
    0x38, 0x04, 0x3c, 0x04, 0x05, 0x00, 0xbb, 0x02, 0xe8, 0x03, 0x1d, 0x01, 0x01, 0x01, 0x00, 0x00]

/-- The requests `t6_chip_init` makes for a head. -/
def initHead (head : HeadId) : Fallible Unit := do
  ctrlOut params reqSetResolution head.outputIdx 0 mode1080p
  ctrlOut params reqSetReady head.outputIdx 0 []
  ctrlOut params reqMonitorCtrl head.outputIdx 1 []

def chipInit : Fallible Unit := do
  let initPrimary := ((← lift (act .read)).heads .primary).connected
  let initSecondary := ((← lift (act .read)).heads .secondary).connected
  if !initPrimary && !initSecondary then throw .noDevice
  ctrlOut params reqReset 0x0000 0 []
  ctrlOut params reqReset 0x0100 0 []
  ctrlOut params reqSetColor 0 0 initColor
  ctrlOut params reqSetTiming 0 0 initTimingPre
  if initPrimary then initHead params .primary
  if initSecondary then initHead params .secondary
  ctrlOut params reqSetTiming 0 0 initTimingPost
  ctrlOut params reqReset 0x0002 0 []

/-- The objects the display subsystem is given for a head. -/
def createHead (head : HeadId) : Fallible Unit := do
  acquire (.object head .connector)
  acquire (.object head .plane)
  acquire (.object head .crtc)
  acquire (.object head .encoder)
  acquire (.object head .attachment)

def registerJpegDevice (head : HeadId) : Fallible Unit := do
  let state := (← lift (act .read)).heads head
  if state.connected && head == .secondary && state.transport == .userJpeg then
    acquire (.jpegDevice head)

/-! ### Failures -/

def unregisterJpegDevices : Prog Unit := do
  act (.release (.jpegDevice .primary))
  act (.release (.jpegDevice .secondary))

def cancelActivityOf (head : HeadId) : Prog Unit := do
  act (.cancelSync head .keepaliveTimer)
  act (.cancelSync head .bootKeepaliveWork)
  act (.cancelSync head .txDeferWork)
  act (.cancelSync head .txWork)

def cancelHeadActivity : Prog Unit := do
  cancelActivityOf .primary
  cancelActivityOf .secondary

def freeBuffersOf (head : HeadId) : Prog Unit := do
  act (.release (.buffer head .txBack))
  act (.release (.buffer head .txFront))
  act (.release (.buffer head .videoStaging))
  act (.release (.buffer head .lastSentFrame))
  act (.release (.buffer head .jpegStaging))
  act (.release (.buffer head .fbExportBuf))
  act (.cancelSync head .keepaliveTimer)

def freeHeadBuffers : Prog Unit := do
  freeBuffersOf .primary
  freeBuffersOf .secondary
  act (.release .bulkChunk)

/-- What stands under `err_buffers`. -/
def errBuffers : Prog Unit := do
  cancelHeadActivity
  act (.release .workqueue)
  freeHeadBuffers

/-- What stands under `err_put`. -/
def errPut : Prog Unit := do
  act (.release .intfdata)
  act (.release .dmaDevice)
  act (.release .usbDevice)

/-! ### The probe -/

/-- The probe of an active device from where its queries are answered. -/
def activate : Fallible Unit := do
  onFailure errBuffers do
    allocate .workqueue
    tryCatch allocHeadBuffers fun _ => throw .noMemory
    chipInit params
    acquire .modeConfig
    createHead .primary
    createHead .secondary
    onFailure unregisterJpegDevices do
      registerJpegDevice .primary
      registerJpegDevice .secondary
      acquire .drmRegistration
  -- a missing sysfs group is only a warning
  let _ ← lift (act (.acquire .sysfsGroup))

/-- The queries of every probe. -/
def queryDevice : Fallible Unit := do
  queryRam params
  setUpHead params .primary
  setUpHead params .secondary

/-- The probe of a device the parameters admit. -/
def probeDevice : Fallible Unit := do
  acquire .drmDevice
  lift (act .resetFault)
  lift (act (.take .usbDevice))
  -- there may be no device for DMA
  let _ ← lift (act (.acquire .dmaDevice))
  lift (act (.take .intfdata))
  onFailure errPut (queryDevice params)
  if params.queryOnly then
    onFailure errPut do
      if params.queryTimings then
        let _ ← queryHead0Timings params
    lift errPut
  else
    onFailure errPut (activate params)

/-- `t6_usb_probe`. -/
def usbProbe (interface : UsbInterface) : Fallible Unit := do
  if !interface.profileMatches then throw .noDevice
  if params.devicePath = "" || params.devicePath != interface.device then throw .noDevice
  if params.manualOnly then
    lift (act (.release .intfdata))
  else
    if paramsRefused params then throw .invalid
    if ← lift (act .claim) then throw .noDevice
    probeDevice params

end Functions

/-! ### Disconnect -/

/-- What `t6_usb_disconnect` gives back, in its order. -/
def usbDisconnect : Prog Unit := do
  let bound := (← act .read).held .intfdata
  act (.release .intfdata)
  if !bound then return
  act (.release .drmRegistration)
  cancelHeadActivity
  act (.release .workqueue)
  unregisterJpegDevices
  freeHeadBuffers
  act (.release .dmaDevice)
  act (.release .usbDevice)

end Trigger6.Probe
