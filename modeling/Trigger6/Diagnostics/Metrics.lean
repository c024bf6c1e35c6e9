/-
This file embeds the text that the driver prints of its counters: one page at
most, written line by line, with a look at the room left before some of the
lines. The fields carry the machine types of the driver; a counter is a signed
64-bit number that has never been negative.
-/

import Trigger6.Driver.Types
import Trigger6.Lib.Fields

namespace Trigger6.Diagnostics

open Driver Fields Text

/-! ### The state that is printed -/

/-- The value of an `atomic64_t` that counts. -/
abbrev Counter := Fin (2 ^ 63)

/-- The number of samples, their sum, the last one and the greatest, in nanoseconds. -/
structure Timing where
  samples : UInt64
  nsTotal : UInt64
  lastNs : UInt64
  maxNs : UInt64

structure MetricsHead where
  transport : Transport
  connected : Bool
  ioFaulted : Bool
  status : UInt8
  txPending : Bool
  width : Int32
  height : Int32
  frameSeq : UInt32
  scanoutActive : Bool
  queueAttempts : Counter
  queuedFrames : Counter
  coalescedOverwrites : Counter
  skippedFrames : Counter
  pacingDefers : Counter
  transportFaults : Counter
  jpegAdaptiveQuality : UInt32
  sentFrames : Counter
  sentBytes : Counter
  sendErrors : Counter
  keepaliveSent : Counter
  keepaliveErrors : Counter
  lastPayloadBytes : UInt64
  stage : Timing
  queueWait : Timing
  encode : Timing
  usb : Timing
  send : Timing
  lastError : Int32
  /-- The name that came with the last error; it is one word, or nothing. -/
  lastErrorSource : Word

structure MetricsDevice where
  busnum : UInt32
  devnum : UInt32
  devName : Word
  manualOnly : Bool
  ioFaulted : Bool
  ioLastError : Int32
  bulkCalls : Counter
  bulkChunks : Counter
  bulkBytes : Counter
  bulkErrors : Counter
  bulkShortWrites : Counter
  txWorkRuns : Counter
  txWorkEmpty : Counter
  txAdapterDefers : Counter
  lastBulkNs : UInt64
  maxBulkNs : UInt64
  lastBulkBytes : UInt64
  rawIdleRefresh : Bool
  heads : HeadId → MetricsHead

/-! ### The fields of each line -/

/-- `%lld` of a counter. -/
def lld (counter : Counter) : Word := .decimal counter.val

/-- `%llu` of nanoseconds divided down to microseconds. -/
def micros (ns : UInt64) : Word := .decimal (ns.toNat / 1000)

/-- `t6_metrics_avg_ns`. -/
def Timing.avgNs (timing : Timing) : UInt64 :=
  if timing.samples = 0 then 0 else timing.nsTotal / timing.samples

/-- `t6_transport_name`. -/
def transportName : Transport → Word
  | .jpegCmd => .named "jpeg-cmd"
  | .userJpeg => .named "user-jpeg"
  | .nv12 => .named "nv12"
  | .raw => .named "raw"

def deviceWord : List Char := "trigger6".toList

def identity (dev : MetricsDevice) : List Field :=
  [⟨.named "bus", .padded dev.busnum.toNat⟩,
    ⟨.named "dev", .padded dev.devnum.toNat⟩,
    ⟨.named "interface", dev.devName⟩,
    ⟨.named "manual_only", .flag dev.manualOnly⟩,
    ⟨.named "io_faulted", .flag dev.ioFaulted⟩,
    ⟨.named "io_last_error", .integer dev.ioLastError.toInt⟩]

def bulkFields (dev : MetricsDevice) : List Field :=
  [⟨.named "bulk_calls", lld dev.bulkCalls⟩,
    ⟨.named "bulk_chunks", lld dev.bulkChunks⟩,
    ⟨.named "bulk_bytes", lld dev.bulkBytes⟩,
    ⟨.named "bulk_errors", lld dev.bulkErrors⟩,
    ⟨.named "bulk_short_writes", lld dev.bulkShortWrites⟩,
    ⟨.named "tx_work_runs", lld dev.txWorkRuns⟩,
    ⟨.named "tx_work_empty", lld dev.txWorkEmpty⟩,
    ⟨.named "tx_adapter_defers", lld dev.txAdapterDefers⟩,
    ⟨.named "last_bulk_us", micros dev.lastBulkNs⟩,
    ⟨.named "max_bulk_us", micros dev.maxBulkNs⟩,
    ⟨.named "last_bulk_bytes", .decimal dev.lastBulkBytes.toNat⟩]

def headFields (refresh : Bool) (head : MetricsHead) : List Field :=
  [⟨.named "transport", transportName head.transport⟩,
    ⟨.named "connected", .flag head.connected⟩,
    ⟨.named "io_faulted", .flag head.ioFaulted⟩,
    ⟨.named "status", .decimal head.status.toNat⟩,
    ⟨.named "pending", .flag head.txPending⟩,
    ⟨.named "width", .integer head.width.toInt⟩,
    ⟨.named "height", .integer head.height.toInt⟩,
    ⟨.named "frame_seq", .decimal head.frameSeq.toNat⟩,
    ⟨.named "scanout_active", .flag head.scanoutActive⟩,
    ⟨.named "raw_idle_refresh", .flag refresh⟩]

def queueFields (head : MetricsHead) : List Field :=
  [⟨.named "queue_attempts", lld head.queueAttempts⟩,
    ⟨.named "queued_frames", lld head.queuedFrames⟩,
    ⟨.named "coalesced_overwrites", lld head.coalescedOverwrites⟩,
    ⟨.named "skipped_frames", lld head.skippedFrames⟩,
    ⟨.named "pacing_defers", lld head.pacingDefers⟩,
    ⟨.named "transport_faults", lld head.transportFaults⟩,
    ⟨.named "jpeg_quality", .decimal head.jpegAdaptiveQuality.toNat⟩]

def sentFields (head : MetricsHead) : List Field :=
  [⟨.named "sent_frames", lld head.sentFrames⟩,
    ⟨.named "sent_bytes", lld head.sentBytes⟩,
    ⟨.named "send_errors", lld head.sendErrors⟩,
    ⟨.named "keepalive_sent", lld head.keepaliveSent⟩,
    ⟨.named "keepalive_errors", lld head.keepaliveErrors⟩,
    ⟨.named "last_payload_bytes", .decimal head.lastPayloadBytes.toNat⟩]

def stageFields (head : MetricsHead) : List Field :=
  [⟨.named "stage_avg_us", micros head.stage.avgNs⟩,
    ⟨.named "stage_last_us", micros head.stage.lastNs⟩,
    ⟨.named "stage_max_us", micros head.stage.maxNs⟩,
    ⟨.named "queue_wait_avg_us", micros head.queueWait.avgNs⟩,
    ⟨.named "queue_wait_last_us", micros head.queueWait.lastNs⟩,
    ⟨.named "queue_wait_max_us", micros head.queueWait.maxNs⟩]

def sendFields (head : MetricsHead) : List Field :=
  [⟨.named "encode_avg_us", micros head.encode.avgNs⟩,
    ⟨.named "encode_last_us", micros head.encode.lastNs⟩,
    ⟨.named "encode_max_us", micros head.encode.maxNs⟩,
    ⟨.named "usb_avg_us", micros head.usb.avgNs⟩,
    ⟨.named "usb_last_us", micros head.usb.lastNs⟩,
    ⟨.named "usb_max_us", micros head.usb.maxNs⟩,
    ⟨.named "send_avg_us", micros head.send.avgNs⟩,
    ⟨.named "send_last_us", micros head.send.lastNs⟩,
    ⟨.named "send_max_us", micros head.send.maxNs⟩]

/-- The last error's source, or `none` for an empty one. -/
def sourceWord (head : MetricsHead) : Word :=
  if head.lastErrorSource.1 = [] then .named "none" else head.lastErrorSource

def errorFields (head : MetricsHead) : List Field :=
  [⟨.named "last_error", .integer head.lastError.toInt⟩,
    ⟨.named "last_error_source", sourceWord head⟩]

/-! ### Writing the page -/

/-- What the function does next: it writes a line, or returns if the page is nearly full. -/
inductive Emission
  | line (text : List Char)
  | leaveIfFull

/-- One line, with its line feed. -/
def row (first : List Char) (fields : List Field) : Emission :=
  .line (first ++ spaced fields ++ ['\n'])

/-- `head%u`. -/
def headWord (head : HeadId) : List Char := "head".toList ++ decimal head.outputIdx

/-- The emissions of one turn of the loop over the heads. -/
def headEmissions (dev : MetricsDevice) (head : HeadId) : List Emission :=
  let state := dev.heads head
  let refresh := dev.rawIdleRefresh && head.outputIdx == 0
  [.leaveIfFull, row (headWord head) (headFields refresh state),
    row (headWord head) (queueFields state), row (headWord head) (sentFields state), .leaveIfFull,
    row (headWord head) (stageFields state), row (headWord head) (sendFields state),
    row (headWord head) (errorFields state)]

def emissions (dev : MetricsDevice) : List Emission :=
  [row deviceWord (identity dev), .leaveIfFull, row "device".toList (bulkFields dev)] ++
    Driver.heads.flatMap (headEmissions dev)

/-- The emissions one after the other, from what is in the buffer; `sysfs_emit_at` writes what
still fits a page with the byte that ends it. -/
def emit (pageSize : Nat) : (buf : List Char) → List Emission → List Char
  | buf, [] => buf
  | buf, .line text :: rest => emit pageSize (buf ++ text.take (pageSize - 1 - buf.length)) rest
  | buf, .leaveIfFull :: rest =>
    if pageSize - 256 ≤ buf.length then buf else emit pageSize buf rest

/-- `t6_metrics_show`; there is no device behind an interface that has been disconnected. -/
def metricsShow (pageSize : Nat) : Option MetricsDevice → List Char
  | none => "trigger6=disconnected\n".toList
  | some dev => emit pageSize [] (emissions dev)

/-- All the lines, whether or not they fit. -/
def allLines (dev : MetricsDevice) : List Char :=
  (emissions dev).flatMap fun
    | .line text => text
    | .leaveIfFull => []

/-- The page limit has cut nothing off. -/
def Untruncated (pageSize : Nat) (dev : MetricsDevice) : Prop :=
  metricsShow pageSize (some dev) = allLines dev

instance (pageSize : Nat) (dev : MetricsDevice) : Decidable (Untruncated pageSize dev) := by
  unfold Untruncated
  infer_instance

end Trigger6.Diagnostics
