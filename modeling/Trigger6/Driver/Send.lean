/-
This file embeds the driver's senders. Each of them pairs bulk headers with
payloads by hand; all run under `io_lock`. The frame or payload a sender is
given is read once, when it is called, which stands for the reads it makes while
it sends: the buffer belongs to the sender until it returns.
-/

import Trigger6.Codec.Nv12
import Trigger6.Driver.Damage
import Trigger6.Driver.Usb

namespace Trigger6.Driver

open Bytes Interaction

variable {c : Config}

def headSetError (head : HeadId) (errno : Errno) (source : String) : Prog c Unit :=
  count head fun metrics => metrics.setError errno source

def headRecordSendError (head : HeadId) (errno : Errno) (source : String) : Prog c Unit := do
  count head fun metrics => { metrics with sendErrors := metrics.sendErrors + 1 }
  headSetError head errno source

/-- A failure of `body` goes to the function's exit, which records it. -/
def recordingErrors {Result : Type} (head : HeadId) (source : String) (body : Fallible c Result) :
    Fallible c Result :=
  tryCatch body fun errno => do
    lift (headRecordSendError head errno source)
    throw errno

def countSent (head : HeadId) (bytes : Nat) : Prog c Unit :=
  count head fun metrics =>
    { metrics with
      sentFrames := metrics.sentFrames + 1
      sentBytes := metrics.sentBytes + bytes
      lastPayloadBytes := bytes }

/-- `t6_raw_refresh_eligible`: every flag is read on its own. -/
def rawRefreshEligible (head : HeadId) : Prog c Bool := do
  let active := (← readHead head).scanoutActive
  let valid := (← readHead head).lastSentValid
  let faulted := (← readDev).ioFaulted
  let headFaulted := (← readHead head).ioFaulted
  return rawRefreshAllowed c.rawIdleRefresh (primaryRaw c head) c.manualOnly active
    (c.connected head) valid (faulted || headFaulted)

/-! ### Raw frames -/

/-- The ranges of a damage descriptor that does not ask for the full frame. -/
def partialRanges : Option FrameDamage → Option (List DirtyRange)
  | none => none
  | some damage => if damage.fullFrame then none else some damage.ranges

def rawFlipHeader (c : Config) (head : HeadId) (frameSeq yFbOffset : Nat) : FlipHeader where
  command := flipCommand head
  payloadSize := c.frameSize
  targetFormat := fmtRgb32
  yPitch := c.stride
  uvPitch := 0
  yFbOffset := yFbOffset
  uOffset := 0
  sourceFormat := fmtRgb32
  flag := if frameSeq < 10 then flagReset else 0

/-- The partial path of the primary head: every range of rows, then the flip header. -/
def sendRows (head : HeadId) (pixels : Frame c) (flip : FlipHeader) :
    (ranges : List DirtyRange) → (totalSent : Nat) → Fallible c Nat
  | [], totalSent => do
    writeRecord
      { payloadLength := sizeofFlipHeader
        payloadAddress := fbAddr c head
        packetLength := sizeofFlipHeader } flip.bytes sizeofFlipHeader
    return totalSent + sizeofFlipHeader
  | range :: rest, totalSent => do
    writeRecord
      { payloadLength := range.size c
        payloadAddress := fbAddr c head + sizeofFlipHeader + range.offset c
        packetLength := range.size c } (pixels.bytes.drop (range.offset c)) (range.size c)
    sendRows head pixels flip rest (totalSent + range.size c)

/-- The full-frame path of the primary head: one record of flip header and frame. -/
def sendFull (head : HeadId) (pixels : Frame c) (flip : FlipHeader) : Fallible c Nat := do
  let totalPayload := sizeofFlipHeader + c.frameSize
  writeRecord
    { payloadLength := totalPayload
      payloadAddress := fbAddr c head
      packetLength := totalPayload } (flip.bytes ++ pixels.bytes) totalPayload
  return totalPayload

/-- Whether a command of some size would run past the end of the ring. -/
def cmdWraps (c : Config) (head : HeadId) (cursor step : Nat) : Bool :=
  cmdBaseAddr head < cmdLimitAddr c head && cmdLimitAddr c head < (cursor + step) % 2 ^ 32

/-- Where a command of some size goes: at the cursor, or back at the start of the ring. -/
def cmdAddrFor (c : Config) (head : HeadId) (cursor step : Nat) : Nat :=
  if cmdWraps c head cursor step then cmdBaseAddr head else cursor

/-- The path of the secondary head: the frame to the next slot, then a flip command. -/
def sendSlot (head : HeadId) (pixels : Frame c) (sender : Sender c) : Fallible c Nat := do
  let slot := nextSlot c head sender.fbSlotIndex
  let fbDest := slotAddr c head slot
  let cmdStep := mebibyte
  let cmdAddr := cmdAddrFor c head sender.cmdCursorAddr cmdStep
  writeRecord
    { payloadLength := c.frameSize
      payloadAddress := fbDest
      packetLength := c.frameSize } pixels.bytes c.frameSize
  writeRecord
    { payloadLength := sizeofFlipHeader
      payloadAddress := cmdAddr
      packetLength := sizeofFlipHeader }
    (rawFlipHeader c head sender.frameSeq fbDest).bytes sizeofFlipHeader
  lift (act (.tune head fun sender =>
    { sender with cmdCursorAddr := (cmdAddr + cmdStep) % 2 ^ 32, fbSlotIndex := slot }))
  return c.frameSize + sizeofFlipHeader

/-- The transfers of `t6_send_frame_raw`, by head and damage. -/
def rawTransfers (head : HeadId) (pixels : Frame c) (damage : Option FrameDamage) :
    Fallible c Nat := do
  let sender := (← lift (readHead head)).sender
  let flip := rawFlipHeader c head sender.frameSeq (fbAddr c head + sizeofFlipHeader)
  match head, partialRanges damage with
  | .primary, some ranges => recordingErrors head "raw" (sendRows head pixels flip ranges 0)
  | .primary, none =>
    if !sender.videoStaging then throw .noMemory
    recordingErrors head "raw" (sendFull head pixels flip)
  | .secondary, _ =>
    if !sender.videoStaging then throw .noMemory
    recordingErrors head "raw" (sendSlot head pixels sender)

def copyRanges (head : HeadId) (pixels : Frame c) : List DirtyRange → Prog c Unit
  | [] => return
  | range :: rest => do
    act (.copyLastSent head (range.offset c) (rangeOf pixels range))
    copyRanges head pixels rest

/-- Brings the reference frame up to date, unless it is what was sent. -/
def updateLastSent (head : HeadId) (pixels : Frame c) (isLastSent : Bool)
    (damage : Option FrameDamage) : Prog c Unit := do
  if (← readHead head).lastSentFrame.isSome && !isLastSent then
    match partialRanges damage with
    | some ranges => copyRanges head pixels ranges
    | none => act (.copyLastSent head 0 pixels.bytes)
    act (.setLastSentValid head true)

/-- What `t6_send_frame_raw` does after its transfers: the reference frame, the refresh timer
and the counters. -/
def finishRaw (head : HeadId) (pixels : Frame c) (isLastSent : Bool)
    (damage : Option FrameDamage) (totalSent : Nat) : Prog c Unit := do
  updateLastSent head pixels isLastSent damage
  let now := (← act .ask).jiffies
  act (.tune head fun sender => { sender with rawLastSentJiffies := now })
  if ← rawRefreshEligible head then act (.arm head .keepaliveTimer)
  act (.tune head fun sender => { sender with frameSeq := (sender.frameSeq + 1) % 2 ^ 32 })
  countSent head totalSent

def sendFrameRaw (head : HeadId) (pixels : Frame c) (isLastSent : Bool) (pixelLen : Nat)
    (damage : Option FrameDamage) : Fallible c Unit := do
  if !c.connected head then throw .noDevice
  if pixelLen < c.frameSize then throw .invalid
  if partialRanges damage = some [] then
    lift (count head fun metrics => { metrics with skippedFrames := metrics.skippedFrames + 1 })
  else
    let totalSent ← rawTransfers head pixels damage
    lift (finishRaw head pixels isLastSent damage totalSent)
  lift (act (.noteSent head pixels))

/-! ### JPEG blobs -/

/-- The length of a blob, small enough for the length of its record. -/
abbrev BlobLength := { len : Nat // len + sizeofFlipHeader + jpegPaddingSize < 2 ^ 32 }

/-- The length of an encoded frame, which fits the staging buffer. -/
abbrev EncodedLength :=
  { len : Nat // len + sizeofFlipHeader + jpegPaddingSize ≤ jpegStagingSize }

def EncodedLength.zero : EncodedLength :=
  ⟨0, by rw [jpegStagingSize_eq, jpegPaddingSize_eq, sizeofFlipHeader]; decide⟩

def EncodedLength.blob (len : EncodedLength) : BlobLength :=
  ⟨len.val, Nat.lt_of_le_of_lt len.property (by rw [jpegStagingSize_eq]; decide)⟩

/-- Where a blob is: at its place in the staging buffer, or in another buffer. -/
inductive BlobSource
  | inPlace
  | external (data : List Byte)

/-- The step of the command ring for a record of some size. -/
def cmdStepFor (totalPayload : Nat) : Option Nat :=
  if totalPayload ≤ mebibyte then some mebibyte
  else if totalPayload ≤ 2 * mebibyte then some (2 * mebibyte)
  else if totalPayload ≤ 3 * mebibyte then some (3 * mebibyte)
  else none

def jpegFlipHeader (c : Config) (head : HeadId) (len fbAddr flag : Nat) : FlipHeader :=
  let yPitch := align c.width 32 % 2 ^ 16
  { command := flipCommand head
    payloadSize := len + jpegPaddingSize
    targetFormat := fmtNv12
    yPitch := yPitch
    uvPitch := yPitch
    yFbOffset := fbAddr
    uOffset := fbAddr + (yPitch * align c.height 32 + jpegPaddingSize)
    sourceFormat := fmtJpeg
    flag := flag }

/-- The staging buffer with a blob in it, between the flip header and the padding. -/
def placeBlob (staging : Buffer jpegStagingSize) (source : BlobSource) (len : Nat)
    (flip : FlipHeader) : Buffer jpegStagingSize :=
  let placed :=
    match source with
    | .inPlace => staging
    | .external data => staging.copy sizeofFlipHeader (data.take len)
  (placed.copy (sizeofFlipHeader + len) (List.replicate jpegPaddingSize 0)).copy 0 flip.bytes

/-- Stores a blob that was sent for the keepalive, with a new buffer if the old one is too
small. -/
def storeBlob (head : HeadId) (payload : List Byte)
    (small : payload.length + sizeofFlipHeader + jpegPaddingSize < 2 ^ 32) : Prog c Unit := do
  let cache := (← readHead head).sender.cache
  if cache.lastJpegData.isNone || cache.lastJpegLen < payload.length then
    let allocated := (← act .ask).allocated
    act (.tune head fun sender =>
      { sender with cache := .allocate allocated payload.length })
  act (.tune head fun sender => { sender with cache := sender.cache.store payload small })

/-- `t6_send_jpeg_blob` from where its size has been found to fit a step of the ring. -/
def sendStagedBlob (head : HeadId) (sender : Sender c) (staging : Buffer jpegStagingSize)
    (cmdStep : Nat) (source : BlobSource) (len : BlobLength) : Fallible c Unit := do
  let totalPayload := sizeofFlipHeader + len.val + jpegPaddingSize
  let cmdAddr := cmdAddrFor c head sender.cmdCursorAddr cmdStep
  let wrapped := cmdWraps c head sender.cmdCursorAddr cmdStep
  let slot := nextSlot c head sender.fbSlotIndex
  let flag := if sender.frameSeq < 10 || wrapped then flagReset else 0
  if jpegStagingSize < totalPayload then throw .tooBig
  let staged := placeBlob staging source len.val
    (jpegFlipHeader c head len.val (slotAddr c head slot) flag)
  lift (act (.tune head fun sender => { sender with jpegStaging := some staged }))
  writeRecord
    { payloadLength := totalPayload
      payloadAddress := cmdAddr
      packetLength := totalPayload } staged.bytes totalPayload
  lift (act (.tune head fun sender =>
    { sender with
      frameSeq := (sender.frameSeq + 1) % 2 ^ 32
      cmdCursorAddr := (cmdAddr + cmdStep) % 2 ^ 32
      fbSlotIndex := slot }))
  lift (countSent head totalPayload)
  lift (storeBlob head ((staged.bytes.drop sizeofFlipHeader).take len.val) (by
    have := List.length_take_le len.val (staged.bytes.drop sizeofFlipHeader)
    have := len.property
    omega))
  lift (act (.arm head .keepaliveTimer))

def sendJpegBlob (head : HeadId) (source : BlobSource) (len : BlobLength) : Fallible c Unit := do
  if len.val = 0 then throw .invalid
  let state ← lift (readHead head)
  match cmdStepFor (sizeofFlipHeader + len.val + jpegPaddingSize), state.sender.jpegStaging with
  | some cmdStep, some staging => sendStagedBlob head state.sender staging cmdStep source len
  | _, _ => throw .tooBig

/-- The quality the next frame is encoded with, after a frame that took `encodeMs`. -/
def adaptQuality (quality encodeMs : Nat) : Nat :=
  let adapted :=
    if 30 < encodeMs ∧ 25 < quality then quality - 5
    else if encodeMs < 30 * 7 / 10 ∧ quality < 93 then quality + 2
    else quality
  min (max adapted 20) 95

/-- `t6_metrics_record_timing` for the encode time: a time of zero is not recorded. -/
def recordEncode (head : HeadId) (encodeNs : Nat) : Prog c Unit :=
  count head fun metrics =>
    { metrics with lastEncodeNs := if encodeNs = 0 then metrics.lastEncodeNs else encodeNs }

def strideOrTight (c : Config) (txStride : Nat) : Nat :=
  if txStride ≠ 0 then txStride else c.stride

def prepareFrameJpegCmd (head : HeadId) (pixels : Frame c) (pixelLen : Nat) :
    Fallible c EncodedLength := do
  if c.transport head = .userJpeg then return .zero
  if !c.connected head then throw .noDevice
  if pixelLen = 0 then throw .invalid
  if pixelLen < c.frameSize then throw .invalid
  let state ← lift (readHead head)
  match state.sender.jpegStaging with
  | none => throw .noMemory
  | some staging =>
    let quality :=
      if state.sender.jpegAdaptiveQuality ≠ 0 then state.sender.jpegAdaptiveQuality
      else c.jpegQuality
    let started := (← lift (act .ask)).ns
    match c.jpegEncodeXrgb8888 pixels.bytes (strideOrTight c state.queue.txStride) quality with
    | .error errno =>
      lift (headRecordSendError head errno "jpeg-encode")
      throw errno
    | .ok encoded =>
      lift (act (.tune head fun sender =>
        { sender with jpegStaging := some (staging.copy sizeofFlipHeader encoded.val) }))
      let encodeNs := (← lift (act .ask)).ns - started
      lift (recordEncode head encodeNs)
      lift (act (.tune head fun sender =>
        { sender with jpegAdaptiveQuality := adaptQuality quality (encodeNs / 1000000) }))
      return ⟨encoded.val.length, encoded.property⟩

def sendPreparedJpegCmd (head : HeadId) (jpegLen : EncodedLength) : Fallible c Unit :=
  recordingErrors head "jpeg-cmd" (sendJpegBlob head .inPlace jpegLen.blob)

/-! ### NV12 frames -/

def nv12Pitch (c : Config) : Nat := align c.width 16 % 2 ^ 16

def nv12LumaSize (c : Config) : Nat := nv12Pitch c * c.height

def nv12Size (c : Config) : Nat := nv12LumaSize c + nv12Pitch c * (c.height / 2)

def prepareFrameNv12 (head : HeadId) (pixels : Frame c) : Fallible c EncodedLength := do
  let state ← lift (readHead head)
  match state.sender.jpegStaging with
  | none => throw .noMemory
  | some staging =>
    if fits : nv12Size c + sizeofFlipHeader + jpegPaddingSize ≤ jpegStagingSize then
      if !c.connected head then throw .noDevice
      let started := (← lift (act .ask)).ns
      match Codec.convertXrgb8888ToNv12 pixels.bytes c.width c.height
          (strideOrTight c state.queue.txStride) staging sizeofFlipHeader
          (sizeofFlipHeader + nv12LumaSize c) (nv12Pitch c) (nv12Pitch c) with
      | none => throw .invalid
      | some planes =>
        let converted := planes.copy (sizeofFlipHeader + nv12Size c)
          (List.replicate jpegPaddingSize 0)
        lift (act (.tune head fun sender => { sender with jpegStaging := some converted }))
        lift (recordEncode head ((← lift (act .ask)).ns - started))
        return ⟨nv12Size c, fits⟩
    else throw .noMemory

def nv12FlipHeader (c : Config) (head : HeadId) (len fbAddr frameSeq : Nat) : FlipHeader where
  command := flipCommand head
  payloadSize := len + jpegPaddingSize
  targetFormat := fmtNv12
  yPitch := nv12Pitch c
  uvPitch := nv12Pitch c
  yFbOffset := fbAddr + sizeofFlipHeader
  uOffset := fbAddr + sizeofFlipHeader + nv12LumaSize c
  sourceFormat := fmtNv12
  flag := if frameSeq < 10 then flagReset else 0

/-- Stores a frame that was sent for the keepalive, if there is a cache for it. -/
def stashNv12 (head : HeadId) (payload : List Byte)
    (small : payload.length + sizeofFlipHeader + jpegPaddingSize < 2 ^ 32) : Prog c Unit := do
  let state ← readHead head
  if state.sender.cache.lastJpegData.isSome && payload.length ≤ state.queue.txBufSize then
    act (.tune head fun sender => { sender with cache := sender.cache.store payload small })

/-- `t6_send_prepared_nv12` on the staging buffer that holds the frame. -/
def sendStagedNv12 (head : HeadId) (sender : Sender c) (staging : Buffer jpegStagingSize)
    (nv12Len : EncodedLength) : Fallible c Unit := do
  let totalPayload := sizeofFlipHeader + nv12Len.val + jpegPaddingSize
  let slot := nextSlot c head sender.fbSlotIndex
  let fbAddr := slotAddr c head slot
  let staged := staging.copy 0 (nv12FlipHeader c head nv12Len.val fbAddr sender.frameSeq).bytes
  lift (act (.tune head fun sender => { sender with jpegStaging := some staged }))
  recordingErrors head "nv12" (writeRecord
    { payloadLength := totalPayload
      payloadAddress := fbAddr
      packetLength := totalPayload } staged.bytes totalPayload)
  lift (act (.tune head fun sender =>
    { sender with frameSeq := (sender.frameSeq + 1) % 2 ^ 32, fbSlotIndex := slot }))
  lift (countSent head totalPayload)
  lift (stashNv12 head (staged.bytes.take totalPayload) (by
    have := List.length_take_le totalPayload staged.bytes
    have := nv12Len.property
    have := jpegStagingSize_eq
    have := jpegPaddingSize_eq
    have : sizeofFlipHeader = 48 := rfl
    omega))
  lift (act (.arm head .keepaliveTimer))

def sendPreparedNv12 (head : HeadId) (nv12Len : EncodedLength) : Fallible c Unit := do
  let state ← lift (readHead head)
  match state.sender.jpegStaging with
  -- the frame was prepared in the staging buffer
  | none => throw .noMemory
  | some staging => sendStagedNv12 head state.sender staging nv12Len

end Trigger6.Driver
