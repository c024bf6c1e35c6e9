/-
This file gives the data of the kernel driver that does not change while the
device is active: the two heads and their transports, what the module
parameters and the probe have fixed, the layout of the device's memory, and the
two headers that go over the bulk pipe.

The geometry is a parameter. It comes with the bound that keeps every 32-bit
length and address computation of the driver from wrapping.
-/

import Mathlib.Data.List.Basic
import Mathlib.Tactic.Ring
import Trigger6.Lib.Bytes

namespace Trigger6.Driver

open Bytes

/-! ### Errors -/

/-- The errors a driver function returns; `usb` is a code the USB core returned. -/
inductive Errno
  | perm
  | io
  | noMemory
  | invalid
  | noDevice
  | tooBig
  | hostDown
  | wrongSeek
  | notSupported
  | protocol
  | usb (code : Nat)
deriving DecidableEq

/-! ### Heads -/

/-- The two heads, by output index. -/
inductive HeadId
  | primary
  | secondary
deriving DecidableEq

def HeadId.outputIdx : HeadId → Nat
  | .primary => 0
  | .secondary => 1

/-- The head after this one, round robin. -/
def HeadId.next : HeadId → HeadId
  | .primary => .secondary
  | .secondary => .primary

/-- The heads in the order the driver's loops visit them. -/
def heads : List HeadId := [.primary, .secondary]

inductive Transport
  | raw
  | jpegCmd
  | userJpeg
  | nv12
deriving DecidableEq

/-! ### Constants of the driver -/

def outputCount : Nat := 2
def maxDirtyRanges : Nat := 32
def xferChunkSize : Nat := 102400
def jpegPaddingSize : Nat := 1024
def jpegFbSlotCount : Nat := 3
def jpegStagingSize : Nat := 3 * 1024 * 1024
def keepaliveIntervalMs : Nat := 2000
def bootKeepaliveIntervalMs : Nat := 1500
def rawIdleRefreshMs : Nat := 1000
def reqMonitorCtrl : Nat := 0x03
def cmdFlipPrimary : Nat := 3
def cmdFlipSecondary : Nat := 4
def fmtNv12 : Nat := 6
def fmtJpeg : Nat := 13
def fmtRgb32 : Nat := 8
def flagReset : Nat := 0x80
def sizeofBulkHeader : Nat := 32
def sizeofFlipHeader : Nat := 48

/-- The memory size the probe insists on. -/
def ramMb : Nat := 58

def mebibyte : Nat := 1024 * 1024

theorem jpegPaddingSize_eq : jpegPaddingSize = 1024 := rfl

theorem jpegStagingSize_eq : jpegStagingSize = 3145728 := rfl

theorem mebibyte_eq : mebibyte = 1048576 := rfl

theorem ramMb_mebibyte : ramMb * mebibyte = 60817408 := rfl

-- comparing a length with these would otherwise count them out in unary
attribute [irreducible] jpegPaddingSize jpegStagingSize mebibyte

/-- The kernel's `ALIGN`. -/
def align (value unit : Nat) : Nat :=
  (value + unit - 1) / unit * unit

theorem align_lt {value unit : Nat} (positive : 0 < unit) : align value unit < value + unit := by
  have := Nat.div_mul_le_self (value + unit - 1) unit
  rw [align]
  omega

/-! ### What the probe and the module parameters fix -/

/-- Everything that is constant on an active device. The JPEG encoder stands for that of the
codec, and returns at most what fits the space it was given. -/
structure Config where
  width : Nat
  height : Nat
  fits : ramMb * mebibyte + (width + 32) * 4 * (height + 32) ≤ 2 ^ 32
  hz : Nat
  manualOnly : Bool
  queryOnly : Bool
  queryTimings : Bool
  queryTimingPage1 : Bool
  rawIdleRefresh : Bool
  finalMonitorOff : Bool
  secondaryFrameMinIntervalMs : Nat
  jpegQuality : Nat
  /-- The one head the output mask selects. -/
  selected : HeadId
  connected : HeadId → Bool
  connected_selected : ∀ head, connected head = true → head = selected
  status : HeadId → Nat
  edidValid : HeadId → Bool
  profileMatches : Bool
  pathMatches : Bool
  /-- The transport of the secondary head; the primary head is always raw. -/
  secondaryTransport : Transport
  jpegEncodeXrgb8888 : (pixels : List Byte) → (stride quality : Nat) → Except Errno
    { encoded : List Byte // encoded.length + sizeofFlipHeader + jpegPaddingSize ≤ jpegStagingSize }

namespace Config

variable (c : Config)

def transport : HeadId → Transport
  | .primary => .raw
  | .secondary => c.secondaryTransport

/-- The bytes of one tight row. -/
def stride : Nat := c.width * 4

def frameSize : Nat := c.stride * c.height

theorem frame_fits : ramMb * mebibyte + sizeofFlipHeader + c.frameSize < 2 ^ 32 := by
  have area : c.width * 4 * c.height + 128 * 32 ≤ (c.width + 32) * 4 * (c.height + 32) := by
    rw [show (c.width + 32) * 4 * (c.height + 32) =
      c.width * 4 * c.height + 128 * 32 + (c.width * 4 * 32 + 128 * c.height) by ring]
    exact Nat.le_add_right _ _
  have bound := c.fits
  rw [frameSize, stride, sizeofFlipHeader]
  omega

/-- The kernel's `msecs_to_jiffies`. -/
def msecsToJiffies (ms : Nat) : Nat :=
  if 2 ^ 31 ≤ ms then 2 ^ 62 - 2 else (ms * c.hz + 999) / 1000

/-- Whether the output mask and the mode allow scanout on a head. -/
def drmScanoutEnabled (head : HeadId) : Bool :=
  !c.manualOnly && head == c.selected

end Config

/-- A tightly packed frame. -/
abbrev Frame (c : Config) := Buffer c.frameSize

/-! ### The layout of the device's memory -/

section Addressing

variable (c : Config)

def mib (count : Nat) : Nat := count * 1024 * 1024

/-- The framebuffer slots of a head, as `t6_init_head_addressing` lays them out. -/
def fbSlots (head : HeadId) (slot : Nat) : Nat :=
  match head, c.transport head, slot with
  | .primary, _, 0 => mib (ramMb - 18 - 12)
  | .primary, _, _ => 0
  | .secondary, .raw, 0 => mib (ramMb - 18 + 2)
  | .secondary, .raw, 1 => mib (ramMb - 18 + 10)
  | .secondary, .raw, _ => 0
  | .secondary, _, 0 => mib (ramMb - 12)
  | .secondary, _, 1 => mib (ramMb - 8)
  | .secondary, _, 2 => mib (ramMb - 4)
  | .secondary, _, _ => 0

def fbSlotCount (head : HeadId) : Nat :=
  match head, c.transport head with
  | .primary, _ => 1
  | .secondary, .raw => 2
  | .secondary, _ => jpegFbSlotCount

def fbAddr (head : HeadId) : Nat := fbSlots c head 0

/-- Where the command ring of a head starts; the primary head has none. -/
def cmdBaseAddr : HeadId → Nat
  | .primary => 0
  | .secondary => mib (ramMb - 18)

/-- Where the command ring of a head ends. -/
def cmdLimitAddr : HeadId → Nat
  | .primary => 0
  | .secondary => fbSlots c .secondary 0

/-- A slot's address, or the head's first one where the slot is empty. -/
def slotAddr (head : HeadId) (slot : Nat) : Nat :=
  if fbSlots c head slot ≠ 0 then fbSlots c head slot else fbAddr c head

/-- The slot after this one, round robin. -/
def nextSlot (head : HeadId) (slot : Nat) : Nat :=
  if 1 < fbSlotCount c head then (slot + 1) % fbSlotCount c head else 0

end Addressing

/-! ### The headers on the bulk pipe -/

/-- A `t6_bulk_header`; the fields the driver leaves zero are left out. -/
structure BulkHeader where
  payloadLength : Nat
  payloadAddress : Nat
  packetLength : Nat

def BulkHeader.bytes (header : BulkHeader) : List Byte :=
  littleEndian 4 0 ++ littleEndian 4 header.payloadLength ++
    littleEndian 4 header.payloadAddress ++ littleEndian 4 header.packetLength ++
    littleEndian 4 0 ++ littleEndian 4 0 ++ littleEndian 8 0

@[simp]
theorem BulkHeader.length_bytes (header : BulkHeader) :
    header.bytes.length = sizeofBulkHeader := by
  simp [BulkHeader.bytes, sizeofBulkHeader]

/-- A `t6_flip_header`; the fence, the second chroma offset and the padding stay zero. -/
structure FlipHeader where
  command : Nat
  payloadSize : Nat
  targetFormat : Nat
  yPitch : Nat
  uvPitch : Nat
  yFbOffset : Nat
  uOffset : Nat
  sourceFormat : Nat
  flag : Nat

def FlipHeader.bytes (header : FlipHeader) : List Byte :=
  littleEndian 4 header.command ++ littleEndian 4 header.payloadSize ++ littleEndian 4 0 ++
    littleEndian 4 header.targetFormat ++ littleEndian 2 header.yPitch ++
    littleEndian 2 header.uvPitch ++ littleEndian 4 header.yFbOffset ++
    littleEndian 4 header.uOffset ++ littleEndian 4 0 ++ littleEndian 4 header.sourceFormat ++
    littleEndian 11 0 ++ littleEndian 1 header.flag

@[simp]
theorem FlipHeader.length_bytes (header : FlipHeader) :
    header.bytes.length = sizeofFlipHeader := by
  simp [FlipHeader.bytes, sizeofFlipHeader]

/-- The command that flips a head. -/
def flipCommand : HeadId → Nat
  | .primary => cmdFlipPrimary
  | .secondary => cmdFlipSecondary

end Trigger6.Driver
