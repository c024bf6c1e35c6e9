/-
This file is a small library about memory that is allocated in blocks. A
pointer is a block and an offset in it. An access outside of the block, or to a
block that is not allocated, has no result, and so has a copy between places
that overlap, unless it is a move.
-/

import Trigger6.Lib.Bytes
import Mathlib.Logic.Function.Basic

namespace Bytes

abbrev Address := Nat

structure Pointer where
  block : Address
  offset : Nat
deriving DecidableEq

def Pointer.start (block : Address) : Pointer := ⟨block, 0⟩

def Pointer.add (pointer : Pointer) (count : Nat) : Pointer :=
  ⟨pointer.block, pointer.offset + count⟩

/-- The blocks that are allocated, with their contents. -/
abbrev Blocks := Address → Option (List Byte)

namespace Blocks

def load (blocks : Blocks) (source : Pointer) (count : Nat) : Option (List Byte) :=
  match blocks source.block with
  | none => none
  | some content =>
    if source.offset + count ≤ content.length then some ((content.drop source.offset).take count)
    else none

def store (blocks : Blocks) (target : Pointer) (bytes : List Byte) : Option Blocks :=
  match blocks target.block with
  | none => none
  | some content =>
    if target.offset + bytes.length ≤ content.length then
      some (Function.update blocks target.block (some (splice target.offset bytes content)))
    else none

/-- Two places of one size do not overlap. -/
def Apart (first second : Pointer) (count : Nat) : Prop :=
  first.block ≠ second.block ∨ first.offset + count ≤ second.offset ∨
    second.offset + count ≤ first.offset

instance (first second : Pointer) (count : Nat) : Decidable (Apart first second count) :=
  inferInstanceAs (Decidable (_ ∨ _ ∨ _))

/-- The null pointer is freed without effect. -/
def free (blocks : Blocks) : Option Address → Option Blocks
  | none => some blocks
  | some block =>
    match blocks block with
    | none => none
    | some _ => some (Function.update blocks block none)

/-- Allocates at an address that is on offer, if it is vacant. The block holds what was there. -/
def allocate (blocks : Blocks) (offer : Option Address) (content : List Byte) :
    Option Address × Blocks :=
  match offer with
  | none => (none, blocks)
  | some block =>
    match blocks block with
    | some _ => (none, blocks)
    | none => (some block, Function.update blocks block (some content))

section Accesses

variable {blocks : Blocks} {content bytes : List Byte}

theorem load_of_block {source : Pointer} {count : Nat} (found : blocks source.block = some content)
    (fits : source.offset + count ≤ content.length) :
    blocks.load source count = some ((content.drop source.offset).take count) := by
  rw [load, found]
  exact if_pos fits

theorem store_of_block {target : Pointer} (found : blocks target.block = some content)
    (fits : target.offset + bytes.length ≤ content.length) :
    blocks.store target bytes =
      some (Function.update blocks target.block (some (splice target.offset bytes content))) := by
  rw [store, found]
  exact if_pos fits

theorem load_eq_some {source : Pointer} {count : Nat}
    (loaded : blocks.load source count = some bytes) :
    ∃ content, blocks source.block = some content ∧
      source.offset + count ≤ content.length ∧ bytes = (content.drop source.offset).take count := by
  rw [load] at loaded
  cases found : blocks source.block with
  | none =>
    rw [found] at loaded
    cases loaded
  | some content =>
    rw [found] at loaded
    by_cases fits : source.offset + count ≤ content.length
    · exact ⟨content, rfl, fits, (Option.some.inj ((if_pos fits).symm.trans loaded)).symm⟩
    · cases (if_neg fits).symm.trans loaded

theorem length_load {source : Pointer} {count : Nat}
    (loaded : blocks.load source count = some bytes) : bytes.length = count := by
  obtain ⟨content, _, fits, rfl⟩ := load_eq_some loaded
  rw [List.length_take, List.length_drop]
  omega

/-- Memory where one block changed reads the same elsewhere. -/
theorem load_update_other {source : Pointer} {block : Address} {changed : Option (List Byte)}
    (other : source.block ≠ block) (count : Nat) :
    Blocks.load (Function.update blocks block changed) source count = blocks.load source count := by
  rw [load, load, Function.update_of_ne other]

end Accesses

end Blocks

/-! ### What overwriting leaves -/

section Splice

variable {α : Type} {block string : List α} {offset : Nat}

theorem take_splice (fits : offset + block.length ≤ string.length) :
    ((splice offset block string).drop offset).take block.length = block := by
  have before : (string.take offset).length = offset := by
    rw [List.length_take]
    omega
  rw [splice, List.append_assoc, List.drop_append_of_le_length (Nat.le_of_eq before.symm),
    List.drop_of_length_le (Nat.le_of_eq before), List.nil_append, List.take_left']
  rfl

/-- Overwriting a string with a part of itself leaves it as it is. -/
theorem splice_self (same : block = (string.drop offset).take block.length) : splice offset block string = string := by
  have rest : string.drop (offset + block.length) = (string.drop offset).drop block.length := by
    rw [List.drop_drop]
  rw [splice, rest]
  conv_lhs => lhs; rhs; rw [same]
  rw [List.append_assoc, List.take_append_drop, List.take_append_drop]

/-- Overwriting leaves what lies apart. -/
theorem take_splice_apart {start count : Nat}
    (apart : start + count ≤ offset ∨ offset + block.length ≤ start)
    (fits : offset + block.length ≤ string.length) :
    ((splice offset block string).drop start).take count = (string.drop start).take count := by
  refine List.ext_getElem? fun index => ?_
  rw [List.getElem?_take, List.getElem?_take, List.getElem?_drop, List.getElem?_drop,
    getElem?_splice fits]
  by_cases inside : index < count
  · rw [if_pos inside, if_pos inside, if_neg (by omega)]
  · rw [if_neg inside, if_neg inside]

end Splice

end Bytes
