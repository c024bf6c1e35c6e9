/-
This file embeds what runs on the driver's workqueue and timers: the frame
worker with its two pacing gates, the deferred work, the keepalive timer and the
boot keepalive.
-/

import Trigger6.Driver.Send

namespace Trigger6.Driver

open Bytes Interaction

variable {c : Config}

/-! ### Shared parts -/

/-- `t6_head_runtime_connected`: every flag is read on its own. -/
def headRuntimeConnected (head : HeadId) : Prog c Bool := do
  let headFaulted := (← readHead head).ioFaulted
  let faulted := (← readDev).ioFaulted
  return c.connected head && !headFaulted && c.drmScanoutEnabled head && !faulted

def queueHeadTxWork (head : HeadId) : Prog c Unit := do
  if (← readDev).wq then act (.arm head .txWork)

def queueNextPendingHead : Prog c Unit := do
  match ← act .pickNextPending with
  | some next => queueHeadTxWork next
  | none => return

def deferHeadActivity (head : HeadId) (popped : Popped) (reason : TxDeferReason) :
    Prog c Unit := do
  act (.requeue head popped)
  match reason with
  | .adapter => act (.tuneDevice fun metrics =>
      { metrics with txAdapterDefers := metrics.txAdapterDefers + 1 })
  | .head => count head fun metrics => { metrics with pacingDefers := metrics.pacingDefers + 1 }
  | .none => pure ()
  if (← readDev).wq then act (.arm head .txDeferWork)

def shouldYieldTurn (head : HeadId) (popped : Popped) : Prog c Bool := do
  match c.transport head with
  | .raw | .userJpeg => return false
  | .jpegCmd | .nv12 =>
    match ← act (.yieldTurn head popped) with
    | none => return false
    | some next =>
      queueHeadTxWork next
      return true

def countKeepalive (head : HeadId) : Prog c Unit :=
  count head fun metrics => { metrics with keepaliveSent := metrics.keepaliveSent + 1 }

/-- How long the worker has to wait, by its own bookkeeping and the clock. -/
def readTxDelay (head : HeadId) : Prog c (Nat × TxDeferReason) := do
  let sender := (← readHead head).sender
  return headTxDelayJiffies head sender (← act .ask).jiffies

def tripTransportFault (head : HeadId) (errno : Errno) (source : String) : Prog c Unit := do
  if ← act (.trip head errno source) then return
  act (.setIoLastError errno)
  act .setIoFaulted
  if !(← readDev).unplugged then act (.note .hotplug)

/-- The kernel's `time_before`, on counters that wrap around. -/
def timeBefore (first second : BitVec 64) : Bool :=
  (first - second).msb

/-- When the raw frame last sent is due for a refresh. -/
def refreshDeadline (head : HeadId) : Prog c (BitVec 64) := do
  return (← readHead head).sender.rawLastSentJiffies +
    BitVec.ofNat 64 (c.msecsToJiffies rawIdleRefreshMs)

/-! ### Timers and deferred work -/

def frameDeferWork (head : HeadId) : Prog c Unit := queueHeadTxWork head

def keepaliveTimeout (head : HeadId) : Prog c Unit := do
  let active := (← readHead head).scanoutActive
  let headFaulted := (← readHead head).ioFaulted
  let faulted := (← readDev).ioFaulted
  if !c.connected head || !active || headFaulted || faulted then return
  match c.transport head with
  | .raw =>
    let deadline ← refreshDeadline head
    if !(← rawRefreshEligible head) then return
    -- a real frame may have postponed the deadline meanwhile
    if timeBefore (← act .ask).jiffies deadline then
      act (.arm head .keepaliveTimer)
      return
  | _ => if (← readHead head).sender.cache.lastJpegData.isNone then return
  act (.setKeepaliveDue head true)
  queueHeadTxWork head

def bootKeepaliveFn (head : HeadId) : Prog c Unit := do
  let headFaulted := (← readHead head).ioFaulted
  let faulted := (← readDev).ioFaulted
  if !c.connected head || headFaulted || faulted then return
  let cached := (← readHead head).sender.cache
  if cached.lastJpegData.isNone || cached.lastJpegLen = 0 then return
  act .lockIo
  let cache := (← readHead head).sender.cache
  let header : BulkHeader := {
    payloadLength := cache.lastJpegLen
    payloadAddress := fbAddr c head
    packetLength := cache.lastJpegLen }
  let _ ← (bulkWrite header.bytes sizeofBulkHeader).run
  let _ ← (bulkWrite cache.payload cache.lastJpegLen).run
  act .unlockIo
  countKeepalive head
  if (← readDev).wq && c.connected head then act (.arm head .bootKeepaliveWork)

/-! ### The frame worker -/

/-- What the worker has ready when it takes `io_lock`. -/
inductive Prepared
  | keepalive
  | raw (damage : FrameDamage)
  | encoded (len : EncodedLength)

/-- The frame in hand has been sent, or needed no sending. -/
def noteCompleted (head : HeadId) : Prog c Unit := do
  act (.note (.completed head (← readHead head).queue.front))

/-- The damage of the frame in hand. -/
def frameDamage (head : HeadId) : Prog c FrameDamage := do
  let front := (← readHead head).queue.front
  let lastSentFrame := (← readHead head).lastSentFrame
  let lastSentValid := (← readHead head).lastSentValid
  return computeFrameDamage front.frame lastSentFrame lastSentValid

/-- The work before `io_lock`: encoding and the damage scan. There is nothing left to do for
an NV12 frame without damage. -/
def prepareFrame (head : HeadId) (popped : Popped) : Fallible c (Option Prepared) := do
  if popped.keepaliveDue then return some .keepalive
  match c.transport head with
  | .jpegCmd =>
    let front := (← lift (readHead head)).queue.front
    return some (.encoded (← prepareFrameJpegCmd head front.frame popped.len))
  | .raw => return some (.raw (← lift (frameDamage head)))
  | .nv12 =>
    let damage ← lift (frameDamage head)
    if !damage.fullFrame && damage.ranges.isEmpty then
      lift (count head fun metrics => { metrics with skippedFrames := metrics.skippedFrames + 1 })
      lift (noteCompleted head)
      return none
    let front := (← lift (readHead head)).queue.front
    return some (.encoded (← prepareFrameNv12 head front.frame))
  | .userJpeg => return some (.encoded .zero)

/-- The keepalive of an NV12 head: the cached payload, to the slot of the last flip. -/
def sendNv12Keepalive (head : HeadId) : Fallible c Unit := do
  let sender := (← lift (readHead head)).sender
  writeRecord
    { payloadLength := sender.cache.lastJpegLen
      payloadAddress := slotAddr c head (sender.fbSlotIndex % fbSlotCount c head)
      packetLength := sender.cache.lastJpegLen } sender.cache.payload sender.cache.lastJpegLen

/-- The idle refresh of a raw head, unless disable or a newer frame has won. -/
def sendRefresh (head : HeadId) : Fallible c Bool := do
  let deadline ← lift (refreshDeadline head)
  if !(← lift (rawRefreshEligible head)) then return false
  if timeBefore (← lift (act .ask)).jiffies deadline then return false
  match (← lift (readHead head)).lastSentFrame with
  -- an eligible head has a reference frame
  | none => throw .invalid
  | some frame =>
    sendFrameRaw head frame true c.frameSize none
    return true

/-- Sends again what was sent last, and says whether it did. -/
def resend (head : HeadId) : Fallible c Bool :=
  match c.transport head with
  | .raw => sendRefresh head
  | .nv12 => do
    sendNv12Keepalive head
    return true
  | .jpegCmd | .userJpeg => do
    let cache := (← lift (readHead head)).sender.cache
    sendJpegBlob head (.external cache.payload) ⟨cache.lastJpegLen, cache.small⟩
    return true

def countKeepaliveError (head : HeadId) : Prog c Unit :=
  count head fun metrics => { metrics with keepaliveErrors := metrics.keepaliveErrors + 1 }

def sendKeepalive (head : HeadId) : Fallible c Unit :=
  tryCatch (do if ← resend head then lift (countKeepalive head)) fun errno => do
    lift (countKeepaliveError head)
    lift (headRecordSendError head errno "keepalive")
    throw errno

/-- The send under `io_lock`. -/
def sendPrepared (head : HeadId) (popped : Popped) : Prepared → Fallible c Unit
  | .keepalive => sendKeepalive head
  | .raw damage => do
    let front := (← lift (readHead head)).queue.front
    sendFrameRaw head front.frame false popped.len (some damage)
  | .encoded len =>
    match c.transport head with
    | .nv12 => sendPreparedNv12 head len
    | _ => sendPreparedJpegCmd head len

/-- After a frame has been sent: an NV12 head keeps it as the reference. -/
def finishFrame (head : HeadId) : Prog c Unit := do
  noteCompleted head
  match c.transport head with
  | .nv12 =>
    if (← readHead head).lastSentFrame.isSome then
      act (.copyLastSent head 0 (← readHead head).queue.front.frame.bytes)
      act (.setLastSentValid head true)
  | _ => return

/-- The worker from `io_lock` on. -/
def transmit (head : HeadId) (popped : Popped) (prepared : Prepared) : Prog c Unit := do
  act .lockIo
  let (delay, reason) ← readTxDelay head
  if delay ≠ 0 then
    act .unlockIo
    deferHeadActivity head popped reason
    return
  if !(← act .devEnter) then
    act .unlockIo
    return
  let sent ← (sendPrepared head popped prepared).run
  act .unlockIo
  act .devExit
  let now := (← act .ask).jiffies
  act (.tune head fun sender => { sender with txLastJiffies := now })
  act (.setNextHead head.next)
  match sent with
  | .error errno => if !popped.keepaliveDue then tripTransportFault head errno "drm"
  | .ok () =>
    if !popped.keepaliveDue then finishFrame head
    -- new frames can arrive while USB work is in flight
    queueNextPendingHead

/-- The worker with a frame or a keepalive in hand. -/
def processActivity (head : HeadId) (popped : Popped) : Prog c Unit := do
  if !(← headRuntimeConnected head) then return
  if ← shouldYieldTurn head popped then return
  let (delay, reason) ← readTxDelay head
  if delay ≠ 0 then
    deferHeadActivity head popped reason
    return
  match ← (prepareFrame head popped).run with
  | .error errno => tripTransportFault head errno "drm"
  | .ok none => return
  | .ok (some prepared) => transmit head popped prepared

def frameWork (head : HeadId) : Prog c Unit := do
  act (.tuneDevice fun metrics => { metrics with txWorkRuns := metrics.txWorkRuns + 1 })
  let faulted := (← readDev).ioFaulted
  let headFaulted := (← readHead head).ioFaulted
  if faulted || headFaulted then return
  match ← act (.take head) with
  | none =>
    act (.tuneDevice fun metrics => { metrics with txWorkEmpty := metrics.txWorkEmpty + 1 })
  | some popped => processActivity head popped

end Trigger6.Driver
