/-
This file embeds the callbacks the display subsystem makes on a head, and the
write end of the JPEG device.
-/

import Trigger6.Driver.Work

namespace Trigger6.Driver

open Bytes Interaction

variable {c : Config}

/-! ### Enable and disable -/

/-- Switches the monitor of a head on or off. -/
def monitorControl (head : HeadId) (on : Bool) : Fallible c Unit :=
  ctrlOut reqMonitorCtrl head.outputIdx (if on then 1 else 0) []

def crtcAtomicEnable (head : HeadId) : Prog c Unit := do
  if !(← headRuntimeConnected head) then return
  act (.cancelSync head .bootKeepaliveWork)
  act (.cancelSync head .keepaliveTimer)
  if !(← act .devEnter) then return
  act .lockIo
  match ← (monitorControl head true).run with
  | .error _ => pure ()
  | .ok () =>
    act (.setScanoutActive head true)
    if ← rawRefreshEligible head then act (.arm head .keepaliveTimer)
  act .unlockIo
  act .devExit

/-- The cancellation sequence of `t6_crtc_atomic_disable`. -/
def stopHeadActivity (head : HeadId) : Prog c Unit := do
  act (.setScanoutActive head false)
  act (.cancelSync head .bootKeepaliveWork)
  act (.cancelSync head .keepaliveTimer)
  act (.cancelSync head .txDeferWork)
  act (.cancelSync head .txWork)
  -- a worker already in flight may have rearmed the timer before it saw the head inactive
  act (.cancelSync head .keepaliveTimer)

def crtcAtomicDisable (thread : Thread) (head : HeadId) : Prog c Unit := do
  stopHeadActivity head
  act (.note (.drained thread head))
  act (.setKeepaliveDue head false)
  act (.setLastSentValid head false)
  act (.tune head fun sender => { sender with cache := .empty })
  if !c.connected head then return
  if !(← act .devEnter) then return
  act .lockIo
  let _ ← (monitorControl head false).run
  act .unlockIo
  act .devExit

/-! ### Plane updates -/

/-- The export of a frame to the reader of the JPEG device. -/
def exportFrame (head : HeadId) (fb : Framebuffer) : Prog c Unit := do
  match fb.vaddr with
  | none => return
  | some src =>
    if (← readHead head).queue.txBufSize < c.frameSize then return
    match ← act (.packBack head src fb.pitch) with
    | .error _ => return
    | .ok () => act (.swapExport head)

def planeAtomicUpdate (head : HeadId) (fb : Framebuffer) : Prog c Unit := do
  if c.transport head = .userJpeg then
    exportFrame head fb
    return
  if c.manualOnly then return
  if (← readDev).ioFaulted then return
  if !(← headRuntimeConnected head) then return
  match fb.vaddr with
  | none => return
  | some src =>
    if c.width = 0 || c.height = 0 then return
    if fb.pitch = 0 || (← readHead head).queue.txBufSize < c.frameSize then return
    if !(← act .devEnter) then return
    count head fun metrics => { metrics with queueAttempts := metrics.queueAttempts + 1 }
    let _ ← act (.stage head src fb.pitch)
    act .devExit

/-! ### The JPEG device -/

/-- The error a write returns where a fault is latched. -/
def latchedErrno (ioLastError : Option Errno) : Errno := ioLastError.getD .io

/-- The section of `io_lock` in `t6_jpeg_misc_write`. -/
def sendUserJpeg (head : HeadId) (data : List Byte) (len : BlobLength) :
    Prog c (Except Errno Unit) := do
  act .lockIo
  if !(← act .devEnter) then
    act .unlockIo
    return .error .noDevice
  let sent ← (sendJpegBlob head (.external data) len).run
  act .devExit
  act .unlockIo
  return sent

def jpegMiscWrite (head : HeadId) (ppos : Nat) (data : List Byte) : Fallible c Nat := do
  if ppos ≠ 0 then throw .wrongSeek
  let size := (← lift (readHead head)).queue.txBufSize
  if bounded : data.length = 0 ∨ c.frameSize < data.length ∨ size < data.length then
    throw .invalid
  else
    if !c.connected head then throw .noDevice
    if (← lift (readHead head)).ioFaulted then
      throw (latchedErrno (← lift (readHead head)).ioLastError)
    if (← lift readDev).ioFaulted then throw (latchedErrno (← lift readDev).ioLastError)
    if c.transport head ≠ .userJpeg then throw .notSupported
    if !(← lift (act .ask)).allocated then throw .noMemory
    match ← lift (sendUserJpeg head data ⟨data.length, by
        have := c.frame_fits
        have := ramMb_mebibyte
        have := jpegPaddingSize_eq
        omega⟩) with
    | .error errno =>
      lift (headRecordSendError head errno "userspace-jpeg")
      lift (tripTransportFault head errno "userspace-jpeg")
      throw errno
    | .ok () => return data.length

end Trigger6.Driver
