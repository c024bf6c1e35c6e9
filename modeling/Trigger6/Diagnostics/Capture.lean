/-
This file models `inspect_timing_capture.py`, which reads a packet capture and
reports the timing-table reads and the video-mode writes in it: the blocks of
the container, the two formats of a USB packet, and the table of the reads that
wait for their completion.

What the loop of `inspect` finds in a packet is a value of its own, a `View`,
apart from what it does with it. The bytes of a record stand for `data_hex`.
-/

import Mathlib.Logic.Function.Basic
import Trigger6.Lib.Bytes

namespace Trigger6.Diagnostics.Capture

open Bytes

/-! ### Blocks of the container -/

/-- How reading a capture ends early; no stream leads to `unfinished`. -/
inductive Failure
  | valueError (text : String)
  | unfinished
  deriving DecidableEq

/-- `struct.unpack_from`, of one unsigned field. -/
def field (data : List Byte) (offset width : Nat) : Nat :=
  fromLittleEndian ((data.drop offset).take width)

/-- A signed field of four bytes. -/
def signedField (data : List Byte) (offset : Nat) : Int :=
  let value := field data offset 4
  if value < 2 ^ 31 then value else (value : Int) - 2 ^ 32

/-- A USB packet of the capture. -/
structure Packet where
  link : Nat
  data : List Byte
  deriving DecidableEq

/-- One block: its kind, its body and the stream behind it; nothing at the end of the stream. -/
def readBlock (stream : List Byte) : Except Failure (Option (Nat × List Byte × List Byte)) :=
  let front := stream.take 8
  if front = [] then return none
  else if front.length ≠ 8 then throw (.valueError "truncated block header")
  else
    let kind := field front 0 4
    let length := field front 4 4
    if length < 12 ∨ 16 * 1024 * 1024 < length ∨ length % 4 ≠ 0 then
      throw (.valueError "unsupported block length or byte order")
    else
      let rest := (stream.drop 8).take (length - 8)
      if rest.length ≠ length - 8 ∨ field rest (rest.length - 4) 4 ≠ length then
        throw (.valueError "truncated block or mismatching trailer")
      else return some (kind, rest.take (rest.length - 4), stream.drop length)

/-- What a block does to the links of the interfaces, and the packet it yields. -/
def readBody (links : List Nat) (kind : Nat) (body : List Byte) :
    Except Failure (List Nat × Option Packet) :=
  if kind = 0x0A0D0D0A then
    if body.length < 16 ∨ body.take 4 ≠ [0x4d, 0x3c, 0x2b, 0x1a] then
      throw (.valueError "only little-endian pcapng sections are supported")
    else return ([], none)
  else if kind = 1 then
    if body.length < 8 then throw (.valueError "short interface descriptor")
    else return (links ++ [field body 0 2], none)
  else if kind = 6 then
    if body.length < 20 then throw (.valueError "short enhanced packet")
    else
      let interface := field body 0 4
      let captured := field body 12 4
      let original := field body 16 4
      match links[interface]? with
      | none => throw (.valueError "invalid enhanced packet bounds")
      | some link =>
        if original < captured ∨ body.length - 20 < captured then
          throw (.valueError "invalid enhanced packet bounds")
        else if link = 220 ∨ link = 249 then
          return (links, some ⟨link, (body.drop 20).take captured⟩)
        else return (links, none)
  else return (links, none)

/-- The packets that `packets` yields, and the error it raises behind them. The first argument
bounds the number of blocks. -/
def packets : (fuel : Nat) → (links : List Nat) → List Byte → List Packet × Option Failure
  | 0, _, _ => ([], some .unfinished)
  | fuel + 1, links, stream =>
    match readBlock stream with
    | .error failure => ([], some failure)
    | .ok none => ([], none)
    | .ok (some (kind, body, behind)) =>
      match readBody links kind body with
      | .error failure => ([], some failure)
      | .ok (links, packet) =>
        let later := packets fuel links behind
        (packet.toList ++ later.1, later.2)

/-! ### Packets -/

/-- `(bus, device, irp)`. -/
structure Key where
  bus : Nat
  device : Nat
  irp : Nat
  deriving DecidableEq

/-- A control submission as a record begins with it. -/
structure Submission where
  packet : Nat
  bus : Nat
  device : Nat
  type : Nat
  request : Nat
  value : Nat
  index : Nat
  expected : Nat
  deriving DecidableEq

/-- What is reported of a submission; only a read has the status of its completion. -/
structure Record where
  submission : Submission
  status : Option Int
  captured : Nat
  data : List Byte
  deriving DecidableEq

/-- What a packet holds: a control submission, with its setup and its payload when the setup was
captured; a completion of a control transfer; or neither. -/
inductive View
  | submission (key : Key) (setup : Option (List Byte × List Byte))
  | completion (key : Key) (status : Int) (payload : List Byte)
  | other
  deriving DecidableEq

/-- A packet of Linux's usbmon. -/
def viewUsbmon (data : List Byte) : Except Failure View :=
  if data.length < 64 then throw (.valueError "truncated usbmon header")
  else
    let irp := field data 0 8
    let event := field data 8 1
    let transfer := field data 9 1
    let device := field data 11 1
    let bus := field data 12 2
    let setupFlag := field data 14 1
    let status := signedField data 28
    let captured := field data 36 4
    if data.length - 64 < captured then throw (.valueError "invalid usbmon capture length")
    else if transfer ≠ 2 then return .other
    else
      let key := ⟨bus, device, irp⟩
      let payload := (data.drop 64).take captured
      if event = 'S'.toNat then
        return .submission key (if setupFlag = 0 then some (data.drop 40, payload) else none)
      else if event = 'C'.toNat then return .completion key status payload
      else return .other

/-- A packet of USBPcap; its setup is the beginning of its payload. -/
def viewUsbPcap (data : List Byte) : Except Failure View :=
  if data.length < 27 then throw (.valueError "truncated USBPcap header")
  else
    let size := field data 0 2
    let irp := field data 2 8
    let status := field data 10 4
    let info := field data 16 1
    let bus := field data 17 2
    let device := field data 19 2
    let transfer := field data 22 1
    let length := field data 23 4
    if size < 27 ∨ data.length < size ∨ data.length - size < length then
      throw (.valueError "invalid USBPcap payload bounds")
    else if transfer ≠ 2 then return .other
    else if size < 28 then throw (.valueError "short control header")
    else
      let stage := field data 27 1
      let payload := (data.drop size).take length
      let key := ⟨bus, device, irp⟩
      if stage = 0 then
        if payload.length < 8 then throw (.valueError "short USB setup packet")
        else return .submission key (some (payload, payload.drop 8))
      else if (stage = 1 ∨ stage = 3) ∧ info % 2 = 1 then return .completion key status payload
      else return .other

def Packet.view (packet : Packet) : Except Failure View :=
  if packet.link = 220 then viewUsbmon packet.data else viewUsbPcap packet.data

/-! ### Records -/

/-- `pending` and `records`. -/
structure State where
  pending : Key → Option Submission
  records : List Record

/-- The request of a setup: its direction and its number. -/
def requestOf (setup : List Byte) : Nat × Nat := (field setup 0 1, field setup 1 1)

/-- A read of the timing table. -/
def timingRead : Nat × Nat := (0xC0, 0x89)

/-- A write of the video mode. -/
def modeWrite : Nat × Nat := (0x40, 0x12)

def submissionOf (sequence : Nat) (key : Key) (setup : List Byte) : Submission where
  packet := sequence
  bus := key.bus
  device := key.device
  type := (requestOf setup).1
  request := (requestOf setup).2
  value := field setup 2 2
  index := field setup 4 2
  expected := field setup 6 2

def State.submit (state : State) (sequence : Nat) (key : Key) (setup payload : List Byte) : State :=
  let pending := Function.update state.pending key none
  if requestOf setup = modeWrite then
    { pending, records := state.records ++
        [⟨submissionOf sequence key setup, none, payload.length, payload⟩] }
  else if requestOf setup = timingRead then
    { state with pending := Function.update pending key (some (submissionOf sequence key setup)) }
  else { state with pending }

def State.complete (state : State) (key : Key) (status : Int) (payload : List Byte) : State :=
  match state.pending key with
  | some submission =>
    { pending := Function.update state.pending key none
      records := state.records ++ [⟨submission, some status, payload.length, payload⟩] }
  | none => state

/-- What the loop of `inspect` does with a packet. -/
def State.see (state : State) (sequence : Nat) : View → State
  | .submission key (some (setup, payload)) => state.submit sequence key setup payload
  | .submission _ none => state
  | .completion key status payload => state.complete key status payload
  | .other => state

def inspectPackets : (sequence : Nat) → State → List Packet → Except Failure State
  | _, state, [] => return state
  | sequence, state, packet :: rest => do
    let view ← packet.view
    inspectPackets (sequence + 1) (state.see sequence view) rest

/-- The packets of a stream. -/
def captured (stream : List Byte) : List Packet × Option Failure :=
  packets (stream.length + 1) [] stream

def inspect (stream : List Byte) : Except Failure (List Record) := do
  let state ← inspectPackets 0 ⟨fun _ => none, []⟩ (captured stream).1
  match (captured stream).2 with
  | some failure => throw failure
  | none => return state.records

end Trigger6.Diagnostics.Capture
