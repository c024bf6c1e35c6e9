/-
This file embeds what the driver does to the frame queues under `tx_lock`:
packing and staging a frame, popping it, putting it back, choosing the next head
and the fault trip. Each function is one critical section, or one function that
runs inside one, as a function on the state it changes.
-/

import Trigger6.Driver.State

namespace Trigger6.Driver

open Bytes

variable {c : Config}

/-! ### Packing -/

/-- A mapped framebuffer: the bytes from its start, and the length of a row. -/
structure Framebuffer where
  vaddr : Option (Nat → Byte)
  pitch : Nat

/-- The rows of an image, without the gaps between them. -/
def tightRows (c : Config) (src : Nat → Byte) (srcStride : Nat) : List Byte :=
  (List.range c.height).flatMap fun y => (List.range c.stride).map fun x => src (y * srcStride + x)

theorem length_tightRows (c : Config) (src : Nat → Byte) (srcStride : Nat) :
    (tightRows c src srcStride).length = c.frameSize := by
  rw [tightRows, List.length_flatMap]
  simp only [List.length_map, List.length_range, List.map_const', List.sum_replicate_nat]
  rw [Config.frameSize, Nat.mul_comm]

def FrameQueue.txBufSize (queue : FrameQueue c) : Nat :=
  if queue.allocated then c.frameSize else 0

def packXrgb8888Tight (queue : FrameQueue c) (src : Nat → Byte) (srcStride : Nat) :
    Except Errno (Frame c) :=
  if !queue.allocated || srcStride < c.stride then .error .invalid
  else if queue.txBufSize < c.stride * c.height then .error .tooBig
  else .ok ⟨tightRows c src srcStride, length_tightRows c src srcStride⟩

/-- Writes a buffer of the queue. -/
def FrameQueue.fill (queue : FrameQueue c) (buffer : BufferId) (slot : Slot c) : FrameQueue c :=
  { queue with contents := Function.update queue.contents buffer slot }

/-! ### Swapping buffers -/

/-- Swaps the two transmit buffers. -/
def FrameQueue.swap (queue : FrameQueue c) : FrameQueue c :=
  { queue with
    txFront := queue.txBack
    txBack := queue.txFront
    distinct := ⟨queue.distinct.1.symm, queue.distinct.2.2, queue.distinct.2.1⟩ }

/-- Hands the freshly packed back buffer to the readers of the export device. -/
def FrameQueue.swapExport (queue : FrameQueue c) : FrameQueue c :=
  { queue with
    fbExport := queue.txBack
    txBack := queue.fbExport
    fbExportLen := c.frameSize
    fbExportSeq := queue.fbExportSeq + 1
    distinct := ⟨queue.distinct.2.1, queue.distinct.1, queue.distinct.2.2.symm⟩ }

/-! ### Popping, putting back and staging -/

/-- What the worker takes from its queue: a frame's length and the time it was queued, or a
keepalive. -/
structure Popped where
  len : Nat
  queuedNs : Nat
  keepaliveDue : Bool

def popPendingFrameLocked (queue : FrameQueue c) : Option (Nat × Nat × FrameQueue c) :=
  if !queue.txPending || !queue.allocated then none
  else some (queue.txLen, queue.txQueuedNs, { queue.swap with txPending := false, txQueuedNs := 0 })

def requeuePoppedHeadLocked (queue : FrameQueue c) (len queuedNs : Nat) : FrameQueue c :=
  { queue.swap with
    txPending := true
    txLen := len
    txQueuedNs := if queuedNs ≠ 0 then queuedNs else queue.txQueuedNs }

def stagePendingHeadLocked (queue : FrameQueue c) (len stride queuedNs : Nat) : FrameQueue c :=
  { queue with
    coalescedOverwrites := queue.coalescedOverwrites + if queue.txPending then 1 else 0
    queuedFrames := queue.queuedFrames + if queue.txPending then 0 else 1
    txLen := len
    txStride := stride
    txPending := true
    txQueuedNs := queuedNs }

/-- The staging section of `t6_plane_atomic_update`: pack into the back buffer, then stage. -/
def stageFrame (queue : FrameQueue c) (src : Nat → Byte) (pitch queuedNs : Nat) :
    Except Errno (FrameQueue c) :=
  match packXrgb8888Tight queue src pitch with
  | .error errno => .error errno
  | .ok frame =>
    let packed := queue.fill queue.txBack { frame := frame, serial := queue.stagings }
    .ok { stagePendingHeadLocked packed c.frameSize c.stride queuedNs with
      stagings := queue.stagings + 1 }

/-! ### Pacing -/

inductive TxDeferReason
  | none
  | adapter
  | head
deriving DecidableEq

/-- The pacing gate of the encoding transports, in milliseconds. -/
def gateMs (c : Config) (lastEncodeNs : Nat) : Nat :=
  let cap := c.secondaryFrameMinIntervalMs
  let gate :=
    if lastEncodeNs ≠ 0 then lastEncodeNs / 1000000 % 2 ^ 32
    else if cap ≠ 0 then cap else 50
  if cap ≠ 0 then min (max gate 5) cap else max gate 5

def headTxDelayJiffies (head : HeadId) (sender : Sender c) (jiffies : BitVec 64) :
    Nat × TxDeferReason :=
  let gate :=
    match c.transport head with
    | .raw | .userJpeg => 0
    | .jpegCmd | .nv12 => gateMs c sender.metrics.lastEncodeNs
  let elapsed := (jiffies - sender.txLastJiffies).toNat
  if gate ≠ 0 ∧ sender.txLastJiffies ≠ 0 ∧ elapsed < c.msecsToJiffies gate then
    (c.msecsToJiffies gate - elapsed, .head)
  else (0, .none)

/-- A raw head is never made to wait. -/
theorem headTxDelayJiffies_raw {head : HeadId} (raw : c.transport head = .raw)
    (sender : Sender c) (jiffies : BitVec 64) :
    headTxDelayJiffies head sender jiffies = (0, .none) := by
  simp [headTxDelayJiffies, raw]

/-! ### Choosing a head -/

def headHasPendingActivityLocked (state : HeadState c) : Bool :=
  state.queue.txPending || state.keepaliveDue

def pickNextPendingHeadLocked (dev : Dev c) (skipHeadDeferred : Bool) (jiffies : BitVec 64) :
    Option HeadId :=
  [dev.txNextHead, dev.txNextHead.next].find? fun candidate =>
    headHasPendingActivityLocked (dev.heads candidate) &&
      !(skipHeadDeferred &&
        (headTxDelayJiffies candidate (dev.heads candidate).sender jiffies).2 == .head)

/-- Only a head with something pending is picked. -/
theorem pending_of_pick {dev : Dev c} {skip : Bool} {jiffies : BitVec 64} {head : HeadId}
    (picked : pickNextPendingHeadLocked dev skip jiffies = some head) :
    headHasPendingActivityLocked (dev.heads head) = true := by
  have := List.find?_some picked
  rw [Bool.and_eq_true] at this
  exact this.1

def rawRefreshAllowed (enabled primaryRaw manualOnly active connected validFrame faulted : Bool) :
    Bool :=
  enabled && primaryRaw && !manualOnly && active && connected && validFrame && !faulted

def primaryRaw (c : Config) (head : HeadId) : Bool :=
  head == .primary && c.transport head == .raw

/-- `t6_raw_refresh_eligible` inside a critical section. -/
def rawRefreshEligibleAt (dev : Dev c) (head : HeadId) : Bool :=
  rawRefreshAllowed c.rawIdleRefresh (primaryRaw c head) c.manualOnly
    (dev.heads head).scanoutActive (c.connected head) (dev.heads head).lastSentValid
    (dev.ioFaulted || (dev.heads head).ioFaulted)

/-- The first section of `t6_frame_work`: a pending frame, or else a due keepalive that can
be sent. -/
def takeActivity (dev : Dev c) (head : HeadId) : Option (Popped × HeadState c) :=
  let state := dev.heads head
  match popPendingFrameLocked state.queue with
  | some (len, queuedNs, queue) => some (⟨len, queuedNs, false⟩, { state with queue := queue })
  | none =>
    if state.keepaliveDue &&
        (state.sender.cache.lastJpegData.isSome || rawRefreshEligibleAt dev head) then
      some (⟨0, 0, true⟩, { state with keepaliveDue := false })
    else none

/-- The section of `t6_requeue_head_activity`. -/
def requeueActivity (state : HeadState c) (popped : Popped) : HeadState c :=
  if state.queue.txPending then state
  else if popped.keepaliveDue then { state with keepaliveDue := true }
  else { state with queue := requeuePoppedHeadLocked state.queue popped.len popped.queuedNs }

/-- The choice `t6_should_yield_turn` makes: another head with a raw transport. -/
def yieldTo (dev : Dev c) (head : HeadId) (jiffies : BitVec 64) : Option HeadId :=
  match pickNextPendingHeadLocked dev true jiffies with
  | some next => if next ≠ head ∧ c.transport next = .raw then some next else none
  | none => none

/-! ### The fault trip -/

def HeadMetrics.setError (metrics : HeadMetrics) (errno : Errno) (source : String) :
    HeadMetrics :=
  { metrics with lastError := some (errno, source) }

/-- The section of `t6_trip_transport_fault`. -/
def tripHead (state : HeadState c) (errno : Errno) (source : String) : HeadState c :=
  if state.ioFaulted then state
  else { state with
    ioFaulted := true
    ioLastError := some errno
    queue := { state.queue with txPending := false, txLen := 0, txQueuedNs := 0 }
    sender := { state.sender with
      metrics := { state.sender.metrics with
        transportFaults := state.sender.metrics.transportFaults + 1 }.setError errno source } }

end Trigger6.Driver
