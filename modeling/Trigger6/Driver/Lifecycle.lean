/-
This file embeds what the USB core calls on an active device: suspend, resume,
and disconnect with its one private request, the final monitor-off.
-/

import Trigger6.Driver.Display

namespace Trigger6.Driver

open Bytes Interaction

variable {c : Config}

/-- One part of the loop of `t6_cancel_head_activity`. -/
def cancelActivityOf (thread : Thread) (head : HeadId) : Prog c Unit := do
  act (.setScanoutActive head false)
  act (.cancelSync head .keepaliveTimer)
  act (.cancelSync head .bootKeepaliveWork)
  act (.cancelSync head .txDeferWork)
  act (.cancelSync head .txWork)
  act (.setKeepaliveDue head false)
  act (.note (.drained thread head))

def cancelHeadActivity (thread : Thread) : Prog c Unit := do
  cancelActivityOf thread .primary
  cancelActivityOf thread .secondary

/-! ### Suspend and resume -/

/-- What suspend and resume do to the latch. -/
def latchHostDown : Prog c Unit := do
  act .setIoFaulted
  act (.setIoLastError .hostDown)

def usbSuspend : Prog c Unit := do
  if !(← readDev).intfdata then return
  latchHostDown
  cancelHeadActivity .bus

def usbResume : Prog c Unit := do
  if !(← readDev).intfdata then return
  latchHostDown
  if !(← readDev).unplugged then act (.note .hotplug)

/-! ### The final monitor-off -/

structure FinalOffState where
  enabled : Bool
  manualOnly : Bool
  queryOnly : Bool
  primarySelected : Bool
  profileMatches : Bool
  pathMatches : Bool
  primaryRaw : Bool
  wasActive : Bool
  sinkValid : Bool
  edidValid : Bool
  faulted : Bool
  usbConfigured : Bool
  unbinding : Bool
  drained : Bool

/-- Why the final monitor-off is skipped; `none` alone permits it. -/
def finalOffSkip (state : FinalOffState) : Option String :=
  if !state.enabled then some "disabled"
  else if state.manualOnly || state.queryOnly then some "read-only-mode"
  else if !state.primarySelected || !state.primaryRaw then some "not-primary-raw"
  else if !state.profileMatches || !state.pathMatches then some "device-mismatch"
  else if !state.wasActive then some "already-inactive"
  else if !state.sinkValid || !state.edidValid then some "invalid-cached-sink"
  else if state.faulted then some "prior-io-fault"
  else if !state.usbConfigured || !state.unbinding then some "not-configured-unbind"
  else if !state.drained then some "activity-not-drained"
  else none

/-- The state of the policy, from what it reads of the device and of the USB core. -/
def finalOffState (dev : Dev c) (core : Env) (wasActive : Bool) : FinalOffState where
  enabled := c.finalMonitorOff
  manualOnly := c.manualOnly
  queryOnly := c.queryOnly
  primarySelected := c.selected == .primary
  profileMatches := c.profileMatches
  pathMatches := c.pathMatches
  primaryRaw := c.transport .primary == .raw
  wasActive := wasActive
  sinkValid := c.connected .primary && c.status .primary == 1
  edidValid := c.edidValid .primary
  faulted := dev.ioFaulted || (dev.heads .primary).ioFaulted
  usbConfigured := core.usbConfigured
  unbinding := core.unbinding
  drained := dev.unplugged && !dev.wq

def finalOffPolicy (wasActive : Bool) : Prog c (Option String) := do
  return finalOffSkip (finalOffState (← readDev) (← act .ask) wasActive)

/-- The policy's fault check, which guards the request. -/
def finalOffFaulted (dev : Dev c) : Bool :=
  dev.ioFaulted || (dev.heads .primary).ioFaulted

def finalOffDisconnect (wasActive : Bool) : Prog c Unit := do
  if !c.finalMonitorOff then return
  if (← finalOffPolicy wasActive).isSome then return
  act .lockIo
  if (← finalOffPolicy wasActive).isNone then
    -- the result is logged and changes nothing
    let _ ← act (.submit finalOffFaulted false (.finalOff 0x03 0 0))
  act .unlockIo

/-! ### Disconnect -/

def disableIfActive (active : HeadId → Bool) (head : HeadId) : Prog c Unit :=
  if active head then crtcAtomicDisable .bus head else pure ()

/-- The display subsystem's shutdown: every output that is still on is disabled. -/
def drmAtomicHelperShutdown (active : HeadId → Bool) : Prog c Unit := do
  disableIfActive active .primary
  disableIfActive active .secondary

def freeBuffersOf (head : HeadId) : Prog c Unit := do
  act (.freeBuffers head)
  act (.cancelSync head .keepaliveTimer)
  act (.tune head fun sender => { sender with cache := .empty })

def stopWorkqueue : Prog c Unit := do
  if (← readDev).wq then
    act .flushWorkqueue
    act .destroyWorkqueue

def usbDisconnect (active : HeadId → Bool) : Prog c Unit := do
  let bound := (← readDev).intfdata
  act .clearIntfdata
  if !bound then return
  let wasActive := (← readHead .primary).scanoutActive
  act .setUnplugged
  act .awaitSections
  cancelHeadActivity .bus
  stopWorkqueue
  finalOffDisconnect wasActive
  drmAtomicHelperShutdown active
  freeBuffersOf .primary
  freeBuffersOf .secondary
  act .freeBulkChunk

end Trigger6.Driver
