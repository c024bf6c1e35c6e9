/-
This file embeds the driver's three transfer functions. All of them latch the
device's fault on the first transfer that fails or comes short, and all of them
refuse to transfer once it is latched.
-/

import Trigger6.Driver.Calls

namespace Trigger6.Driver

open Bytes Interaction

variable {c : Config}

/-- The latch check that guards a transfer. -/
def latchCheck (dev : Dev c) : Bool := dev.ioFaulted

def latchIoError (errno : Errno) : Prog c Unit := do
  act (.setIoLastError errno)
  act .setIoFaulted

/-! ### Control transfers -/

def reqGetEdid : Nat := 0x80
def reqGetResCount : Nat := 0x84
def reqGetStatus : Nat := 0x87
def reqGetRam : Nat := 0x88
def reqGetResTable : Nat := 0x89
def resEntrySize : Nat := 32
def resTableSize : Nat := 512

/-- The requests that query mode admits. -/
def queryInAllowed (c : Config) (request value index size : Nat) : Bool :=
  if c.queryTimings && c.selected != .primary then false
  else if c.queryTimingPage1 && !c.queryTimings then false
  else if request = reqGetRam then value == 0 && index == 0 && size == 4
  else if request = reqGetStatus then value == c.selected.outputIdx && index == 0 && size == 1
  else if request = reqGetEdid then value == 0 && index == c.selected.outputIdx && size == 128
  else if request = reqGetResCount then c.queryTimings && value == 0 && index == 0 && size == 4
  else if request = reqGetResTable then
    if c.queryTimingPage1 then c.queryTimings && value == 0 && index == 512 && size == 512
    else c.queryTimings && value == 0 && index == 0 && size != 0 && size ≤ resTableSize &&
      size % resEntrySize == 0
  else false

/-- The end of a control transfer: anything but a complete one latches the fault. -/
def finishControl (transfer : Transfer) (submission : Submission) : Fallible c (List Byte) :=
  match submission with
  | .refused => throw .io
  | .noMemory => throw .noMemory
  | .returned outcome data =>
    if outcome.complete transfer then return data.take transfer.size
    else do
      lift (latchIoError (outcome.status.getD .io))
      throw (outcome.status.getD .io)

def ctrlOut (request value index : Nat) (data : List Byte) : Fallible c Unit := do
  if c.queryOnly then throw .perm
  if c.manualOnly then throw .io
  let transfer := .controlOut request value index data
  let _ ← finishControl transfer (← lift (act (.submit latchCheck (data.length != 0) transfer)))

def ctrlIn (request value index size : Nat) : Fallible c (List Byte) := do
  if c.manualOnly || (← lift readDev).ioFaulted then throw .io
  if c.queryOnly && !queryInAllowed c request value index size then throw .perm
  if size = 0 then throw .invalid
  let transfer := .controlIn request value index size
  finishControl transfer (← lift (act (.submit latchCheck true transfer)))

/-! ### Bulk transfers -/

/-- A chunk that fails is counted and latches the fault. -/
def failBulk (change : DeviceMetrics → DeviceMetrics) (errno : Errno) : Fallible c Unit := do
  lift (act (.tuneDevice change))
  lift (latchIoError errno)
  throw errno

/-- The chunk loop of `t6_bulk_write`. The first argument bounds the number of chunks; the
number of bytes remaining is always enough, since no chunk is empty. -/
def bulkChunks : (bound : Nat) → (cursor : List Byte) → (remaining : Nat) → Fallible c Unit
  | 0, _, _ => return
  | bound + 1, cursor, remaining => do
    if remaining = 0 then return
    let chunk := min xferChunkSize remaining
    match ← lift (act (.submit latchCheck false (.bulk (cursor.take chunk)))) with
    | .refused => throw .io
    | .noMemory => throw .noMemory
    | .returned outcome _ =>
      lift (act (.tuneDevice fun metrics => { metrics with bulkChunks := metrics.bulkChunks + 1 }))
      match outcome.status with
      | some errno => failBulk (fun metrics =>
          { metrics with bulkErrors := metrics.bulkErrors + 1 }) errno
      | none =>
        if outcome.actual = chunk then bulkChunks bound (cursor.drop chunk) (remaining - chunk)
        else failBulk (fun metrics =>
          { metrics with bulkShortWrites := metrics.bulkShortWrites + 1 }) .io

def bulkWrite (src : List Byte) (len : Nat) : Fallible c Unit := do
  if c.queryOnly then throw .perm
  if c.manualOnly || (← lift readDev).ioFaulted then throw .io
  if len = 0 then return
  if !(← lift readDev).bulkChunk then throw .noMemory
  lift (act (.tuneDevice fun metrics =>
    { metrics with
      bulkCalls := metrics.bulkCalls + 1
      bulkBytes := metrics.bulkBytes + len
      lastBulkBytes := len }))
  bulkChunks len src len

/-- A header and its payload, each in a bulk write of its own. -/
def writeRecord (header : BulkHeader) (payload : List Byte) (len : Nat) : Fallible c Unit := do
  bulkWrite header.bytes sizeofBulkHeader
  bulkWrite payload len

end Trigger6.Driver
