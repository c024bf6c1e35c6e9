/-
This file embeds the sending of JPEG blobs as accesses to memory, where the
cache for the keepalive is a block that is allocated and freed, and the blob
that is sent may lie in the staging buffer, in the cache or elsewhere. The
other files of the driver keep contents instead of blocks.

An access that C leaves undefined blocks.
-/

import Trigger6.Driver.Send
import Trigger6.Lib.Blocks
import Trigger6.Lib.TotalRuns

namespace Trigger6.Driver.Blob

open Bytes Interaction

/-! ### Memory -/

/-- The fields of a head that `t6_send_jpeg_blob` reads and writes. -/
structure Fields where
  jpegStaging : Option Address
  lastJpegData : Option Address
  lastJpegLen : Nat
  frameSeq : Nat
  cmdCursorAddr : Nat
  fbSlotIndex : Nat

inductive Access
  | wrote (target : Pointer) (bytes : List Byte)
  | freed (block : Address)
  /-- There was no memory. -/
  | refused
deriving DecidableEq

structure Heap where
  blocks : Blocks
  fields : Fields
  /-- The accesses that change memory, the oldest first. -/
  accesses : List Access

/-- What an access that changes memory leaves. -/
def Heap.after (heap : Heap) (access : Access) (blocks : Blocks) : Heap :=
  { heap with
    blocks := blocks
    accesses := heap.accesses ++ [access] }

/-! ### Steps -/

inductive Op
  | fields
  | tune (change : Fields → Fields)
  | memcpy (target : Pointer) (source : Option Pointer) (count : Nat)
  | memmove (target source : Pointer) (count : Nat)
  /-- Copies a local variable, or what comes from outside. -/
  | put (target : Pointer) (bytes : List Byte)
  | kvmalloc (len : Nat)
  | kvfree (block : Option Address)
  /-- `t6_bulk_write` of a local variable. -/
  | writeLocal (bytes : List Byte)
  | bulkWrite (source : Pointer) (count : Nat)

abbrev Op.Answer : Op → Type
  | .fields => Fields
  | .kvmalloc _ => Option Address
  | .writeLocal _ => Option Errno
  | .bulkWrite _ _ => Option Errno
  | _ => Unit

abbrev calls : Interface where
  Op := Op
  Answer := Op.Answer

/-- What the outside answers with: the result of a transfer, and where a block may be allocated and
what was there. -/
structure Answers where
  status : Option Errno
  offer : Option Address
  garbage : Nat → Byte

/-- Copies bytes that were read. -/
def copied (heap : Heap) (target : Pointer) (bytes : Option (List Byte)) : Option (Unit × Heap) :=
  bytes.bind fun bytes => (heap.blocks.store target bytes).map fun blocks =>
    ((), heap.after (.wrote target bytes) blocks)

def exec : Executor calls Heap Answers := fun heap op answers =>
  match op with
  | .fields => some (heap.fields, heap)
  | .tune change => some ((), { heap with fields := change heap.fields })
  | .memcpy _ none _ => none
  | .memcpy target (some source) count =>
    if Blocks.Apart target source count then copied heap target (heap.blocks.load source count)
    else none
  | .memmove target source count => copied heap target (heap.blocks.load source count)
  | .put target bytes => copied heap target (some bytes)
  | .kvmalloc len =>
    match heap.blocks.allocate answers.offer ((List.range len).map answers.garbage) with
    | (none, _) => some (none, heap.after .refused heap.blocks)
    | (some block, blocks) => some (some block, { heap with blocks := blocks })
  | .kvfree none => some ((), heap)
  | .kvfree (some block) =>
    (heap.blocks.free (some block)).map fun blocks => ((), heap.after (.freed block) blocks)
  | .writeLocal _ => some (answers.status, heap)
  | .bulkWrite source count =>
    (heap.blocks.load source count).map fun _ => (answers.status, heap)

abbrev Prog := Program calls

abbrev Fallible := ExceptT Errno Prog

def act (op : Op) : Prog (Op.Answer op) := Program.perform (I := calls) op

abbrev lift {Result : Type} (program : Prog Result) : Fallible Result := ExceptT.lift program

/-- A transfer that must succeed. -/
def transfer (op : Op) (answer : Op.Answer op → Option Errno) : Fallible Unit := do
  match answer (← lift (act op)) with
  | none => return
  | some errno => throw errno

/-! ### Sending -/

/-- Puts the blob behind the place of the flip header. -/
def moveBlob (video payload : Pointer) (data : Option Pointer) (len : Nat) : Prog Unit :=
  if data = some payload then pure ()
  else if data ≠ some video then act (.memcpy payload data len)
  else act (.memmove payload video len)

/-- Stores a blob that was sent for the keepalive. -/
def storeBlob (payload : Pointer) (len : Nat) : Prog Unit := do
  let last ← act .fields
  if last.lastJpegData.isNone || last.lastJpegLen < len then
    act (.kvfree last.lastJpegData)
    act (.tune fun fields => { fields with lastJpegData := none, lastJpegLen := 0 })
    let block ← act (.kvmalloc len)
    act (.tune fun fields => { fields with lastJpegData := block })
  match (← act .fields).lastJpegData with
  | none => return
  | some block =>
    act (.memcpy (.start block) (some payload) len)
    act (.tune fun fields => { fields with lastJpegLen := len })

section Functions

variable (c : Config) (head : HeadId)

/-- The send of a blob from where its size has been found to fit. -/
def sendStaged (staging : Address) (fields : Fields) (cmdStep : Nat) (data : Option Pointer)
    (len : Nat) : Fallible Unit := do
  let totalPayload := sizeofFlipHeader + len + jpegPaddingSize
  let cmdAddr := cmdAddrFor c head fields.cmdCursorAddr cmdStep
  let wrapped := cmdWraps c head fields.cmdCursorAddr cmdStep
  let slot := nextSlot c head fields.fbSlotIndex
  let flag := if fields.frameSeq < 10 || wrapped then flagReset else 0
  let video := Pointer.start staging
  let payload := video.add sizeofFlipHeader
  lift (moveBlob video payload data len)
  lift (act (.put (payload.add len) (List.replicate jpegPaddingSize 0)))
  lift (act (.put video (jpegFlipHeader c head len (slotAddr c head slot) flag).bytes))
  let header : BulkHeader := {
    payloadLength := totalPayload
    payloadAddress := cmdAddr
    packetLength := totalPayload }
  transfer (.writeLocal header.bytes) id
  transfer (.bulkWrite video totalPayload) id
  lift (act (.tune fun fields =>
    { fields with
      frameSeq := (fields.frameSeq + 1) % 2 ^ 32
      cmdCursorAddr := (cmdAddr + cmdStep) % 2 ^ 32
      fbSlotIndex := slot }))
  lift (storeBlob payload len)

/-- `t6_send_jpeg_blob`. -/
def sendJpegBlob (data : Option Pointer) (len : Nat) : Fallible Unit := do
  if len = 0 then throw .invalid
  let fields ← lift (act .fields)
  let totalPayload := (sizeofFlipHeader + len + jpegPaddingSize) % 2 ^ 32
  match cmdStepFor totalPayload, fields.jpegStaging with
  | some cmdStep, some staging =>
    if jpegStagingSize < totalPayload then throw .tooBig
    sendStaged c head staging fields cmdStep data len
  -- without a staging buffer its size is zero
  | _, _ => throw .tooBig

/-! ### The calls -/

/-- What is done with the blobs of a head. -/
inductive Call
  /-- A frame is encoded to its place in the staging buffer. -/
  | encode (data : { data : List Byte //
      data.length + sizeofFlipHeader + jpegPaddingSize ≤ jpegStagingSize })
  | sendPrepared (len : BlobLength)
  /-- A blob that starts where the staging buffer does. -/
  | sendShifted (len : BlobLength)
  /-- A blob from user space, in a block of its own. -/
  | write (data : { data : List Byte // data.length + sizeofFlipHeader + jpegPaddingSize < 2 ^ 32 })
  | resend
  | disable

/-- A place in the staging buffer. -/
def stagingPlace (fields : Fields) (offset : Nat) : Option Pointer :=
  fields.jpegStaging.map fun staging => (Pointer.start staging).add offset

def encodeBlob (data : List Byte) : Prog Unit := do
  match stagingPlace (← act .fields) sizeofFlipHeader with
  | none => return
  | some place => act (.put place data)

/-- What `t6_jpeg_misc_write` does with the blob. -/
def writeBlob (data : List Byte) : Fallible Unit := do
  match ← lift (act (.kvmalloc data.length)) with
  | none => throw .noMemory
  | some block =>
    lift (act (.put (.start block) data))
    let sent ← lift (sendJpegBlob c head (some (.start block)) data.length).run
    lift (act (.kvfree (some block)))
    match sent with
    | .ok () => return
    | .error errno => throw errno

/-- The keepalive of `t6_frame_work`. -/
def resendBlob : Fallible Unit := do
  let fields ← lift (act .fields)
  sendJpegBlob c head (fields.lastJpegData.map Pointer.start) fields.lastJpegLen

/-- What `t6_crtc_atomic_disable` does to the cache. -/
def forgetBlob : Prog Unit := do
  act (.kvfree (← act .fields).lastJpegData)
  act (.tune fun fields => { fields with lastJpegData := none, lastJpegLen := 0 })

def Call.program : Call → Fallible Unit
  | .encode data => lift (encodeBlob data.val)
  | .sendPrepared len => do
    let fields ← lift (act .fields)
    sendJpegBlob c head (stagingPlace fields sizeofFlipHeader) len.val
  | .sendShifted len => do
    let fields ← lift (act .fields)
    sendJpegBlob c head (stagingPlace fields 0) len.val
  | .write data => writeBlob c head data.val
  | .resend => resendBlob c head
  | .disable => lift forgetBlob

end Functions

/-! ### Runs -/

/-- The blob a call sends, from the memory before it. -/
def Call.blob (heap : Heap) : Call → Option (List Byte)
  | .encode _ | .disable => none
  | .sendPrepared len => (stagingPlace heap.fields sizeofFlipHeader).bind fun place =>
    heap.blocks.load place len.val
  | .sendShifted len => (stagingPlace heap.fields 0).bind fun place =>
    heap.blocks.load place len.val
  | .write data => some data.val
  | .resend => heap.fields.lastJpegData.bind fun block =>
    heap.blocks.load (.start block) heap.fields.lastJpegLen

/-- A heap with the blob that was sent last, and the one that is cached: the blob that was sent
last, unless there was no memory for it or the output was disabled since. -/
structure History where
  heap : Heap
  lastSent : Option (List Byte)
  cached : Option (List Byte)

/-- What happens to the two blobs at a call. -/
def History.note (history : History) (call : Call) (result : Except Errno Unit) (after : Heap) :
    History :=
  match call, result, call.blob history.heap with
  | .disable, _, _ => ⟨after, history.lastSent, none⟩
  | _, .ok (), some blob =>
    ⟨after, some blob,
      if Access.refused ∈ after.accesses.drop history.heap.accesses.length then none
      else some blob⟩
  | _, _, _ => ⟨after, history.lastSent, history.cached⟩

def History.step (c : Config) (head : HeadId) (history : History)
    (step : Call × (Nat → Answers)) : Option History :=
  ((step.1.program c head).run.eval exec history.heap step.2).map fun (result, after) =>
    history.note step.1 result after

def History.run (c : Config) (head : HeadId) (history : History)
    (steps : List (Call × (Nat → Answers))) : Option History :=
  steps.foldlM (History.step c head) history

/-- A head after the probe: it has a staging buffer, and nothing is cached. -/
def History.probed (staging : Address) (content : Buffer jpegStagingSize) (others : Blocks)
    (frameSeq cmdCursorAddr fbSlotIndex : Nat) : History where
  heap := {
    blocks := Function.update others staging (some content.bytes)
    fields := {
      jpegStaging := some staging
      lastJpegData := none
      lastJpegLen := 0
      frameSeq := frameSeq
      cmdCursorAddr := cmdCursorAddr
      fbSlotIndex := fbSlotIndex }
    accesses := [] }
  lastSent := none
  cached := none

end Trigger6.Driver.Blob
