/-
This file gives the mutable state of an active device: the frame queue of each
head, its worker and timers, the reference copy of the last frame sent, the
senders' own bookkeeping, the fault latches, the locks, and the record of what
happened on the USB pipes.

Work items and timers are pairs of flags, pending and running; when a pending
timer expires is left to the scheduler. The two numbers that count stagings are
there for the proofs only.
-/

import Trigger6.Driver.Types

namespace Trigger6.Driver

open Bytes

/-! ### Threads and work items -/

/-- Who may run driver code: the work items and timers of each head, the display subsystem's
commits on each head, the USB core, and any number of processes writing to the JPEG device. -/
inductive Thread
  | worker (head : HeadId)
  | deferred (head : HeadId)
  | timer (head : HeadId)
  | boot (head : HeadId)
  | commit (head : HeadId)
  | bus
  | writer (index : Nat)
deriving DecidableEq

/-- The work items and timers of a head. -/
inductive Work
  | txWork
  | txDeferWork
  | keepaliveTimer
  | bootKeepaliveWork
deriving DecidableEq

/-- The thread a work item runs on. -/
def Work.thread (head : HeadId) : Work → Thread
  | .txWork => .worker head
  | .txDeferWork => .deferred head
  | .keepaliveTimer => .timer head
  | .bootKeepaliveWork => .boot head

structure Job where
  pending : Bool
  running : Bool
deriving DecidableEq

/-! ### The frame queue -/

/-- The buffers a head's queue hands around. -/
inductive BufferId
  | first
  | second
  | third
deriving DecidableEq

/-- What a buffer holds; `serial` is the number of the staging that filled it. -/
structure Slot (c : Config) where
  frame : Frame c
  serial : Nat
deriving DecidableEq

/-- The double-buffered queue of a head, and the buffer for export to user space. The three
buffers are distinct. `stagings` counts the stagings. -/
structure FrameQueue (c : Config) where
  contents : BufferId → Slot c
  txFront : BufferId
  txBack : BufferId
  fbExport : BufferId
  distinct : txFront ≠ txBack ∧ txFront ≠ fbExport ∧ txBack ≠ fbExport
  allocated : Bool
  txLen : Nat
  txStride : Nat
  txPending : Bool
  txQueuedNs : Nat
  fbExportLen : Nat
  fbExportSeq : Nat
  queuedFrames : Nat
  coalescedOverwrites : Nat
  stagings : Nat

/-- The frame the worker reads. -/
def FrameQueue.front {c : Config} (queue : FrameQueue c) : Slot c :=
  queue.contents queue.txFront

/-! ### The senders' bookkeeping -/

/-- The counters of a head that do not belong to its queue. -/
structure HeadMetrics where
  queueAttempts : Nat := 0
  skippedFrames : Nat := 0
  sentFrames : Nat := 0
  sentBytes : Nat := 0
  sendErrors : Nat := 0
  keepaliveSent : Nat := 0
  keepaliveErrors : Nat := 0
  transportFaults : Nat := 0
  pacingDefers : Nat := 0
  lastEncodeNs : Nat := 0
  lastPayloadBytes : Nat := 0
  lastError : Option (Errno × String) := none

/-- The last JPEG or NV12 payload, for keepalives. Its length lies within the buffer, and is
small enough for the length computations of a resend. -/
structure KeepaliveCache where
  lastJpegData : Option (List Byte)
  lastJpegLen : Nat
  within : lastJpegLen ≤ (lastJpegData.getD []).length
  small : lastJpegLen + sizeofFlipHeader + jpegPaddingSize < 2 ^ 32

def KeepaliveCache.empty : KeepaliveCache where
  lastJpegData := none
  lastJpegLen := 0
  within := Nat.zero_le _
  small := by rw [jpegPaddingSize_eq, sizeofFlipHeader]; decide

/-- The cached payload. -/
def KeepaliveCache.payload (cache : KeepaliveCache) : List Byte :=
  (cache.lastJpegData.getD []).take cache.lastJpegLen

/-- Copies a payload into the cache. -/
def KeepaliveCache.store (cache : KeepaliveCache) (payload : List Byte)
    (small : payload.length + sizeofFlipHeader + jpegPaddingSize < 2 ^ 32) : KeepaliveCache :=
  match cache.lastJpegData with
  | none => cache
  | some buffer => {
      lastJpegData := some (payload ++ buffer.drop payload.length)
      lastJpegLen := payload.length
      within := by
        show payload.length ≤ (payload ++ buffer.drop payload.length).length
        rw [List.length_append]
        exact Nat.le_add_right _ _
      small := small }

/-- The cache around a fresh buffer, or without one where there is no memory. -/
def KeepaliveCache.allocate (allocated : Bool) (len : Nat) : KeepaliveCache where
  lastJpegData := if allocated then some (List.replicate len 0) else none
  lastJpegLen := 0
  within := Nat.zero_le _
  small := by rw [jpegPaddingSize_eq, sizeofFlipHeader]; decide

/-- What only the code that sends for a head reads and writes. -/
structure Sender (c : Config) where
  frameSeq : Nat
  fbSlotIndex : Nat
  cmdCursorAddr : Nat
  txLastJiffies : BitVec 64
  rawLastSentJiffies : BitVec 64
  jpegAdaptiveQuality : Nat
  videoStaging : Bool
  jpegStaging : Option (Buffer jpegStagingSize)
  cache : KeepaliveCache
  metrics : HeadMetrics

/-! ### Heads and devices -/

structure HeadState (c : Config) where
  queue : FrameQueue c
  jobs : Work → Job
  keepaliveDue : Bool
  scanoutActive : Bool
  ioFaulted : Bool
  ioLastError : Option Errno
  lastSentFrame : Option (Frame c)
  lastSentValid : Bool
  sender : Sender c

/-- The counters of the device. -/
structure DeviceMetrics where
  bulkCalls : Nat := 0
  bulkChunks : Nat := 0
  bulkBytes : Nat := 0
  bulkErrors : Nat := 0
  bulkShortWrites : Nat := 0
  txWorkRuns : Nat := 0
  txWorkEmpty : Nat := 0
  txAdapterDefers : Nat := 0
  lastBulkBytes : Nat := 0

/-- A USB request. The final monitor-off is the one request that is made without the
driver's transfer functions. -/
inductive Transfer
  | controlOut (request value index : Nat) (data : List Byte)
  | controlIn (request value index size : Nat)
  | bulk (chunk : List Byte)
  | finalOff (request value index : Nat)
deriving DecidableEq

/-- The number of bytes a request asks to move. -/
def Transfer.size : Transfer → Nat
  | .controlOut _ _ _ data => data.length
  | .controlIn _ _ _ size => size
  | .bulk chunk => chunk.length
  | .finalOff _ _ _ => 0

/-- The error the USB core returned, if any, and the number of bytes moved. -/
structure Outcome where
  status : Option Errno
  actual : Nat
deriving DecidableEq

/-- Every byte was moved, and without an error. -/
def Outcome.complete (outcome : Outcome) (transfer : Transfer) : Bool :=
  outcome.status == none && outcome.actual == transfer.size

/-- The record of the USB traffic, the newest entry first: the requests made, the latching of
the fault, and the raw frames a send reported as sent. -/
inductive Traffic (c : Config)
  | submitted (thread : Thread) (transfer : Transfer) (outcome : Outcome)
  | latched
  | rawSent (head : HeadId) (frame : Frame c)

/-- The record of what the work items, timers and queues did, the newest event first. -/
inductive Event (c : Config)
  | staged (head : HeadId) (slot : Slot c)
  | completed (head : HeadId) (slot : Slot c)
  | armed (thread : Thread) (head : HeadId) (work : Work)
  | cancelled (thread : Thread) (head : HeadId) (work : Work)
  | drained (thread : Thread) (head : HeadId)
  | hotplug
deriving DecidableEq

/-- An active device. -/
structure Dev (c : Config) where
  heads : HeadId → HeadState c
  ioFaulted : Bool
  ioLastError : Option Errno
  ioLock : Option Thread
  unplugged : Bool
  sections : Nat
  wq : Bool
  bulkChunk : Bool
  intfdata : Bool
  txNextHead : HeadId
  metrics : DeviceMetrics
  traffic : List (Traffic c)
  trace : List (Event c)

namespace Dev

variable {c : Config}

def setHead (dev : Dev c) (head : HeadId) (change : HeadState c → HeadState c) : Dev c :=
  { dev with heads := Function.update dev.heads head (change (dev.heads head)) }

def record (dev : Dev c) (event : Event c) : Dev c :=
  { dev with trace := event :: dev.trace }

def setJob (dev : Dev c) (head : HeadId) (work : Work) (change : Job → Job) : Dev c :=
  dev.setHead head fun state =>
    { state with jobs := Function.update state.jobs work (change (state.jobs work)) }

section Fields

variable (dev : Dev c) (head other : HeadId) (change : HeadState c → HeadState c)
  (event : Event c)

@[simp] theorem setHead_self : (dev.setHead head change).heads head = change (dev.heads head) :=
  Function.update_self ..

@[simp] theorem setHead_ioFaulted : (dev.setHead head change).ioFaulted = dev.ioFaulted := rfl
@[simp] theorem setHead_ioLock : (dev.setHead head change).ioLock = dev.ioLock := rfl
@[simp] theorem setHead_unplugged : (dev.setHead head change).unplugged = dev.unplugged := rfl
@[simp] theorem setHead_bulkChunk : (dev.setHead head change).bulkChunk = dev.bulkChunk := rfl
@[simp] theorem setHead_traffic : (dev.setHead head change).traffic = dev.traffic := rfl
@[simp] theorem setHead_trace : (dev.setHead head change).trace = dev.trace := rfl
@[simp] theorem record_heads : (dev.record event).heads = dev.heads := rfl
@[simp] theorem record_ioFaulted : (dev.record event).ioFaulted = dev.ioFaulted := rfl
@[simp] theorem record_ioLock : (dev.record event).ioLock = dev.ioLock := rfl
@[simp] theorem record_unplugged : (dev.record event).unplugged = dev.unplugged := rfl
@[simp] theorem record_bulkChunk : (dev.record event).bulkChunk = dev.bulkChunk := rfl
@[simp] theorem record_traffic : (dev.record event).traffic = dev.traffic := rfl
@[simp] theorem record_trace : (dev.record event).trace = event :: dev.trace := rfl

theorem setHead_other (different : other ≠ head) :
    (dev.setHead head change).heads other = dev.heads other :=
  Function.update_of_ne different ..

end Fields

end Dev

/-! ### The bytes on the bulk pipe -/

variable {c : Config}

/-- The bytes an entry delivered on the bulk OUT endpoint. -/
def Traffic.delivered : Traffic c → List Byte
  | .submitted _ (.bulk chunk) outcome => chunk.take outcome.actual
  | _ => []

/-- All bytes delivered on the bulk OUT endpoint, in order. -/
def wire : List (Traffic c) → List Byte
  | [] => []
  | entry :: older => wire older ++ entry.delivered

end Trigger6.Driver
