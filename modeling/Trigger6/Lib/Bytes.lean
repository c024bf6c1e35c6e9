/-
This file is a small library about byte strings: little-endian fields,
buffers of a fixed size, overwriting part of a string, and byte-addressed
memory. Writing a block to memory and overwriting the same part of a string
that the memory holds keep the two equal, which is all that later files need
to know about the two.
-/

import Mathlib.Algebra.Ring.Int.Defs
import Mathlib.Data.List.Basic
import Mathlib.Data.UInt
import Mathlib.Tactic.Common

namespace Bytes

abbrev Byte := UInt8

/-! ### Little-endian fields -/

/-- The low `count` bytes of a number, lowest first. -/
def littleEndian : (count value : Nat) → List Byte
  | 0, _ => []
  | count + 1, value => UInt8.ofNat value :: littleEndian count (value / 256)

/-- The number a little-endian field holds. -/
def fromLittleEndian : List Byte → Nat
  | [] => 0
  | low :: rest => low.toNat + 256 * fromLittleEndian rest

@[simp]
theorem length_littleEndian (count value : Nat) : (littleEndian count value).length = count := by
  induction count generalizing value with
  | zero => rfl
  | succ count inductionHypothesis =>
    rw [littleEndian, List.length_cons, inductionHypothesis]

/-- A field holds its number up to the field's width. -/
theorem fromLittleEndian_littleEndian (count value : Nat) :
    fromLittleEndian (littleEndian count value) = value % 256 ^ count := by
  induction count generalizing value with
  | zero => rw [littleEndian, fromLittleEndian, Nat.pow_zero, Nat.mod_one]
  | succ count inductionHypothesis =>
    have low : (UInt8.ofNat value).toNat = value % 256 := by simp
    rw [littleEndian, fromLittleEndian, inductionHypothesis, low, Nat.pow_succ,
      Nat.mul_comm (256 ^ count), Nat.mod_mul]

theorem fromLittleEndian_lt (bytes : List Byte) : fromLittleEndian bytes < 256 ^ bytes.length := by
  induction bytes with
  | nil => exact Nat.one_pos
  | cons low rest inductionHypothesis =>
    have small : low.toNat < 256 := low.toNat_lt
    rw [fromLittleEndian, List.length_cons, Nat.pow_succ]
    omega

/-- The numbers of consecutive little-endian fields of these widths. -/
def unpack : (widths : List Nat) → List Byte → List Nat
  | [], _ => []
  | width :: widths, bytes => fromLittleEndian (bytes.take width) :: unpack widths (bytes.drop width)

def pack (widths values : List Nat) : List Byte :=
  (widths.zip values).flatMap fun field => littleEndian field.1 field.2

@[simp]
theorem length_unpack (widths : List Nat) (bytes : List Byte) :
    (unpack widths bytes).length = widths.length := by
  induction widths generalizing bytes with
  | nil => rfl
  | cons width widths inductionHypothesis =>
    rw [unpack, List.length_cons, List.length_cons, inductionHypothesis]

variable {α : Type}

/-- `block` in place of what stands at `offset`. -/
def splice (offset : Nat) (block string : List α) : List α :=
  string.take offset ++ block ++ string.drop (offset + block.length)

theorem length_splice {offset : Nat} {block string : List α}
    (fits : offset + block.length ≤ string.length) :
    (splice offset block string).length = string.length := by
  rw [splice, List.length_append, List.length_append, List.length_take, List.length_drop]
  omega

theorem getElem?_splice {offset : Nat} {block string : List α}
    (fits : offset + block.length ≤ string.length) (index : Nat) :
    (splice offset block string)[index]? =
      if offset ≤ index ∧ index < offset + block.length then block[index - offset]?
      else string[index]? := by
  have before : (string.take offset).length = offset := by
    rw [List.length_take]
    omega
  rw [splice, List.append_assoc, List.getElem?_append, before]
  by_cases left : index < offset
  · rw [if_pos left, if_neg (by omega), List.getElem?_take_of_lt left]
  · rw [if_neg left, List.getElem?_append]
    by_cases inside : index - offset < block.length
    · rw [if_pos inside, if_pos (by omega)]
    · rw [if_neg inside, if_neg (by omega), List.getElem?_drop]
      congr 1
      omega

/-! ### Buffers -/

/-- Memory of a fixed size. -/
structure Buffer (size : Nat) where
  bytes : List Byte
  length : bytes.length = size

@[ext]
theorem Buffer.ext {size : Nat} {left right : Buffer size} (same : left.bytes = right.bytes) :
    left = right := by
  cases left
  cases right
  cases same
  rfl

instance {size : Nat} : DecidableEq (Buffer size) := fun left right =>
  decidable_of_iff (left.bytes = right.bytes) ⟨Buffer.ext, congrArg Buffer.bytes⟩

/-- A buffer of zeros. -/
def Buffer.zeroed (size : Nat) : Buffer size where
  bytes := List.replicate size 0
  length := List.length_replicate

/-- Copies `block` to `offset`, as far as it fits. -/
def Buffer.copy {size : Nat} (buffer : Buffer size) (offset : Nat) (block : List Byte) :
    Buffer size :=
  if fits : offset + block.length ≤ size then
    ⟨splice offset block buffer.bytes, by
      rw [length_splice (by rw [buffer.length]; exact fits), buffer.length]⟩
  else
    buffer

/-- Copies rows to an image whose rows are `pitch` apart. -/
def Buffer.copyRows {size : Nat} (buffer : Buffer size) (offset pitch : Nat) :
    (rows : List (List Byte)) → Buffer size
  | [] => buffer
  | row :: rest => (buffer.copy offset row).copyRows (offset + pitch) pitch rest

section Rows

variable {size offset pitch : Nat} {rows : List (List Byte)}

theorem Buffer.getElem?_copy (buffer : Buffer size) {block : List Byte}
    (fits : offset + block.length ≤ size) (index : Nat) :
    (buffer.copy offset block).bytes[index]? =
      if offset ≤ index ∧ index < offset + block.length then block[index - offset]?
      else buffer.bytes[index]? := by
  rw [Buffer.copy, dif_pos fits]
  exact getElem?_splice (by rw [buffer.length]; exact fits) index

/-- Rows that lie in the buffer, each shorter than the pitch. -/
structure RowsFit (size offset pitch : Nat) (rows : List (List Byte)) : Prop where
  short : ∀ row ∈ rows, row.length ≤ pitch
  inside : ∀ index row, rows[index]? = some row → offset + index * pitch + row.length ≤ size

theorem RowsFit.rest {row : List Byte} (fit : RowsFit size offset pitch (row :: rows)) :
    RowsFit size (offset + pitch) pitch rows := by
  refine ⟨fun other member => fit.short other (List.mem_cons_of_mem _ member), ?_⟩
  intro index other found
  have inside := fit.inside (index + 1) other found
  rw [Nat.add_mul, Nat.one_mul] at inside
  omega

/-- Copied rows leave what lies outside them. -/
theorem Buffer.copyRows_outside (buffer : Buffer size) (fit : RowsFit size offset pitch rows)
    {at_ : Nat} (outside : ∀ index row, rows[index]? = some row →
      at_ < offset + index * pitch ∨ offset + index * pitch + row.length ≤ at_) :
    (buffer.copyRows offset pitch rows).bytes[at_]? = buffer.bytes[at_]? := by
  induction rows generalizing offset buffer with
  | nil => rfl
  | cons row rows inductionHypothesis =>
    have first := outside 0 row rfl
    have fits := fit.inside 0 row rfl
    rw [Nat.zero_mul, Nat.add_zero] at first fits
    rw [Buffer.copyRows, inductionHypothesis _ fit.rest, buffer.getElem?_copy fits,
      if_neg (by omega)]
    intro index other found
    have later := outside (index + 1) other found
    rw [Nat.add_mul, Nat.one_mul] at later
    omega

/-- Copied rows are read back. -/
theorem Buffer.copyRows_inside (buffer : Buffer size) (fit : RowsFit size offset pitch rows)
    {index column : Nat} {row : List Byte} (found : rows[index]? = some row)
    (within : column < row.length) :
    (buffer.copyRows offset pitch rows).bytes[offset + index * pitch + column]? = row[column]? := by
  induction rows generalizing offset buffer index with
  | nil => cases found
  | cons first rows inductionHypothesis =>
    rw [Buffer.copyRows]
    cases index with
    | zero =>
      obtain rfl := Option.some.inj found
      have fits := fit.inside 0 first rfl
      have short := fit.short first List.mem_cons_self
      rw [Nat.zero_mul, Nat.add_zero] at fits ⊢
      rw [Buffer.copyRows_outside _ fit.rest, buffer.getElem?_copy fits, if_pos (by omega),
        Nat.add_sub_cancel_left]
      intro later row _
      omega
    | succ index =>
      rw [← inductionHypothesis (buffer.copy offset first) fit.rest found, Nat.add_mul,
        Nat.one_mul]
      congr 1
      omega

end Rows

/-! ### Memory -/

/-- Byte-addressed memory. -/
abbrev Memory := Nat → Byte

/-- Copies a block to an address. -/
def Memory.write (memory : Memory) (address : Nat) (block : List Byte) : Memory := fun at_ =>
  if address ≤ at_ ∧ at_ < address + block.length then block.getD (at_ - address) 0
  else memory at_

/-- The memory holds `string` at an address. -/
def Memory.Holds (memory : Memory) (address : Nat) (string : List Byte) : Prop :=
  ∀ index, index < string.length → string[index]? = some (memory (address + index))

theorem Memory.holds_write (memory : Memory) (address : Nat) (block : List Byte) :
    (memory.write address block).Holds address block := by
  intro index inside
  rw [Memory.write, if_pos ⟨by omega, by omega⟩, Nat.add_sub_cancel_left,
    List.getD_eq_getElem?_getD, List.getElem?_eq_getElem inside, Option.getD_some]

/-- A write elsewhere leaves a string alone. -/
theorem Memory.Holds.write_apart {memory : Memory} {address target : Nat}
    {string block : List Byte} (holds : memory.Holds address string)
    (apart : target + block.length ≤ address ∨ address + string.length ≤ target) :
    (memory.write target block).Holds address string := by
  intro index inside
  rw [Memory.write, if_neg (by omega)]
  exact holds index inside

/-- Writing inside a string the memory holds overwrites it there. -/
theorem Memory.Holds.write {memory : Memory} {address offset : Nat} {string block : List Byte}
    (holds : memory.Holds address string) (fits : offset + block.length ≤ string.length) :
    (memory.write (address + offset) block).Holds address (splice offset block string) := by
  intro index inside
  rw [length_splice fits] at inside
  rw [getElem?_splice fits, Memory.write]
  by_cases within : offset ≤ index ∧ index < offset + block.length
  · rw [if_pos within, if_pos ⟨by omega, by omega⟩]
    have near : index - offset < block.length := by omega
    rw [Nat.add_sub_add_left, List.getD_eq_getElem?_getD, List.getElem?_eq_getElem near,
      Option.getD_some]
  · rw [if_neg within, if_neg (by omega)]
    exact holds index inside

/-- A part of a string the memory holds. -/
theorem Memory.Holds.drop {memory : Memory} {address : Nat} {left right : List Byte}
    (holds : memory.Holds address (left ++ right)) :
    memory.Holds (address + left.length) right := by
  intro index inside
  have whole := holds (left.length + index) (by rw [List.length_append]; omega)
  rw [List.getElem?_append_right (Nat.le_add_right _ _), Nat.add_sub_cancel_left] at whole
  rw [whole, Nat.add_assoc]

end Bytes
