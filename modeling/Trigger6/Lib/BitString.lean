/-
This file is a small library about bit strings, the most significant bit first:
numbers written as bit strings and read back, bytes as strings of eight bits,
and the escaping of one byte value in a byte string by a byte after it.
-/

import Mathlib.Data.List.Basic
import Mathlib.Data.List.TakeDrop
import Mathlib.Tactic.Ring

namespace BitString

/-! ### Numbers as bit strings -/

/-- The low `count` bits of a number. -/
def ofNat : (count value : Nat) → List Bool
  | 0, _ => []
  | count + 1, value => value.testBit count :: ofNat count value

/-- The number a bit string spells. -/
def toNat (bits : List Bool) : Nat :=
  bits.foldl (fun value bit => 2 * value + bit.toNat) 0

@[simp]
theorem length_ofNat (count value : Nat) : (ofNat count value).length = count := by
  induction count with
  | zero => rfl
  | succ count inductionHypothesis => rw [ofNat, List.length_cons, inductionHypothesis]

theorem foldl_toNat (bits : List Bool) (value : Nat) :
    bits.foldl (fun value bit => 2 * value + bit.toNat) value =
      value * 2 ^ bits.length + toNat bits := by
  induction bits generalizing value with
  | nil => simp [toNat]
  | cons bit rest inductionHypothesis =>
    rw [toNat, List.foldl_cons, List.foldl_cons, inductionHypothesis, inductionHypothesis (2 * 0 + _),
      List.length_cons]
    ring

@[simp] theorem toNat_nil : toNat [] = 0 := rfl

@[simp]
theorem toNat_cons (bit : Bool) (bits : List Bool) :
    toNat (bit :: bits) = bit.toNat * 2 ^ bits.length + toNat bits := by
  rw [toNat, List.foldl_cons, foldl_toNat, Nat.mul_zero, Nat.zero_add]

theorem toNat_append (left right : List Bool) :
    toNat (left ++ right) = toNat left * 2 ^ right.length + toNat right := by
  rw [toNat, List.foldl_append, foldl_toNat]
  rfl

theorem toNat_lt (bits : List Bool) : toNat bits < 2 ^ bits.length := by
  induction bits with
  | nil => exact Nat.one_pos
  | cons bit rest inductionHypothesis =>
    rw [toNat_cons, List.length_cons, Nat.pow_succ]
    cases bit <;> simp only [Bool.toNat_false, Bool.toNat_true] <;> omega

theorem toNat_ofNat (count value : Nat) : toNat (ofNat count value) = value % 2 ^ count := by
  induction count with
  | zero => rw [Nat.pow_zero, Nat.mod_one]; rfl
  | succ count inductionHypothesis =>
    rw [ofNat, toNat_cons, inductionHypothesis, length_ofNat, Nat.mod_pow_succ, Nat.toNat_testBit,
      Nat.mul_comm, Nat.add_comm]

theorem toNat_ofNat_of_lt {count value : Nat} (small : value < 2 ^ count) :
    toNat (ofNat count value) = value := by
  rw [toNat_ofNat, Nat.mod_eq_of_lt small]

/-- A bit string is determined by its length and the number it spells. -/
theorem eq_of_toNat_eq {left right : List Bool} (length : left.length = right.length)
    (same : toNat left = toNat right) : left = right := by
  induction left generalizing right with
  | nil => exact (List.length_eq_zero_iff.mp length.symm).symm
  | cons bit rest inductionHypothesis =>
    cases right with
    | nil => cases length
    | cons other others =>
      have lengths : rest.length = others.length := Nat.succ.inj length
      rw [toNat_cons, toNat_cons, lengths] at same
      have small := toNat_lt rest
      have smaller := toNat_lt others
      rw [lengths] at small
      have bits : bit = other ∧ toNat rest = toNat others := by
        cases bit <;> cases other <;> simp only [Bool.toNat_false, Bool.toNat_true] at same <;>
          constructor <;> first | rfl | omega
      rw [bits.1, inductionHypothesis lengths bits.2]

theorem ofNat_toNat (bits : List Bool) : ofNat bits.length (toNat bits) = bits :=
  eq_of_toNat_eq (length_ofNat _ _) (toNat_ofNat_of_lt (toNat_lt bits))

theorem ofNat_length_toNat {bits : List Bool} {count : Nat} (length : bits.length = count) :
    ofNat count (toNat bits) = bits := by
  rw [← length, ofNat_toNat]

/-- The first bits of a bit string spell its number without the last ones. -/
theorem toNat_take_append (left right : List Bool) :
    toNat (left ++ right) / 2 ^ right.length = toNat left := by
  rw [toNat_append, Nat.add_comm, Nat.add_mul_div_right _ _ (Nat.two_pow_pos _),
    Nat.div_eq_of_lt (toNat_lt right), Nat.zero_add]

theorem toNat_drop_append (left right : List Bool) :
    toNat (left ++ right) % 2 ^ right.length = toNat right := by
  rw [toNat_append, Nat.add_comm, Nat.add_mul_mod_self_right, Nat.mod_eq_of_lt (toNat_lt right)]

theorem toNat_replicate_true (count : Nat) : toNat (List.replicate count true) = 2 ^ count - 1 := by
  induction count with
  | zero => rfl
  | succ count inductionHypothesis =>
    have positive := Nat.two_pow_pos count
    rw [List.replicate_succ, toNat_cons, inductionHypothesis, List.length_replicate, Nat.pow_succ,
      Bool.toNat_true]
    omega

/-! ### Bytes as bit strings -/

/-- The bits of a byte string. -/
def ofBytes (bytes : List UInt8) : List Bool := bytes.flatMap fun byte => ofNat 8 byte.toNat

@[simp] theorem ofBytes_nil : ofBytes [] = [] := rfl

@[simp]
theorem ofBytes_cons (byte : UInt8) (bytes : List UInt8) :
    ofBytes (byte :: bytes) = ofNat 8 byte.toNat ++ ofBytes bytes := rfl

@[simp]
theorem ofBytes_append (left right : List UInt8) :
    ofBytes (left ++ right) = ofBytes left ++ ofBytes right := List.flatMap_append

@[simp]
theorem length_ofBytes (bytes : List UInt8) : (ofBytes bytes).length = 8 * bytes.length := by
  induction bytes with
  | nil => rfl
  | cons byte rest inductionHypothesis =>
    rw [ofBytes_cons, List.length_append, length_ofNat, inductionHypothesis, List.length_cons]
    ring

/-- Eight bits are those of the byte with their number. -/
theorem ofNat_byte {bits : List Bool} (octet : bits.length = 8) :
    ofNat 8 (UInt8.ofNat (toNat bits)).toNat = bits := by
  have small : toNat bits < 2 ^ 8 := octet ▸ toNat_lt bits
  rw [UInt8.toNat_ofNat_of_lt' small]
  exact ofNat_length_toNat octet

/-! ### Escaping -/

/-- Puts an escape after every byte of one value. -/
def stuff (mark escape : UInt8) (bytes : List UInt8) : List UInt8 :=
  bytes.flatMap fun byte => if byte = mark then [byte, escape] else [byte]

/-- Drops the byte after every byte of one value, if it is an escape. -/
def unstuff (mark escape : UInt8) : List UInt8 → List UInt8
  | [] => []
  | [byte] => [byte]
  | byte :: next :: rest =>
    if byte = mark ∧ next = escape then byte :: unstuff mark escape rest
    else byte :: unstuff mark escape (next :: rest)

/-- After every byte of one value there is an escape. -/
def Escaped (mark escape : UInt8) (bytes : List UInt8) : Prop :=
  ∀ index : Nat, bytes[index]? = some mark → bytes[index + 1]? = some escape

section Escaping

variable {mark escape : UInt8} {bytes : List UInt8}

@[simp] theorem stuff_nil : stuff mark escape [] = [] := rfl

@[simp]
theorem stuff_append (left right : List UInt8) :
    stuff mark escape (left ++ right) = stuff mark escape left ++ stuff mark escape right :=
  List.flatMap_append

theorem stuff_cons (byte : UInt8) : stuff mark escape (byte :: bytes) =
    (if byte = mark then [byte, escape] else [byte]) ++ stuff mark escape bytes := rfl

theorem length_stuff_le (bytes : List UInt8) : (stuff mark escape bytes).length ≤ 2 * bytes.length := by
  induction bytes with
  | nil => exact Nat.le_refl 0
  | cons byte rest inductionHypothesis =>
    rw [stuff_cons, List.length_append, List.length_cons]
    split <;> simp only [List.length_cons, List.length_nil] <;> omega

theorem unstuff_cons_of_ne {byte : UInt8} (other : byte ≠ mark) :
    unstuff mark escape (byte :: bytes) = byte :: unstuff mark escape bytes := by
  cases bytes with
  | nil => rfl
  | cons next rest => rw [unstuff, if_neg fun both => other both.1]

theorem unstuff_stuff (bytes : List UInt8) : unstuff mark escape (stuff mark escape bytes) = bytes := by
  induction bytes with
  | nil => rfl
  | cons byte rest inductionHypothesis =>
    rw [stuff_cons]
    by_cases marked : byte = mark
    · rw [if_pos marked, List.cons_append, List.cons_append, List.nil_append, unstuff,
        if_pos ⟨marked, rfl⟩, inductionHypothesis]
    · rw [if_neg marked, List.cons_append, List.nil_append, unstuff_cons_of_ne marked,
        inductionHypothesis]

theorem Escaped.append {left right : List UInt8} (first : Escaped mark escape left)
    (second : Escaped mark escape right) : Escaped mark escape (left ++ right) := by
  intro index marked
  by_cases within : index < left.length
  · rw [List.getElem?_append_left within] at marked
    have next := first index marked
    have inside : index + 1 < left.length := (List.getElem?_eq_some_iff.mp next).1
    rw [List.getElem?_append_left inside]
    exact next
  · rw [List.getElem?_append_right (by omega)] at marked ⊢
    rw [show index + 1 - left.length = index - left.length + 1 by omega]
    exact second _ marked

/-- Nothing is left unescaped, provided the escape is not itself escaped. -/
theorem escaped_stuff (different : escape ≠ mark) (bytes : List UInt8) :
    Escaped mark escape (stuff mark escape bytes) := by
  induction bytes with
  | nil => exact fun index marked => by cases marked
  | cons byte rest inductionHypothesis =>
    rw [stuff_cons]
    refine Escaped.append ?_ inductionHypothesis
    by_cases marked : byte = mark
    · rw [if_pos marked]
      intro index at_
      match index, at_ with
      | 0, _ => rfl
      | 1, at_ => exact absurd (Option.some.inj at_) different
    · rw [if_neg marked]
      intro index at_
      match index, at_ with
      | 0, at_ => exact absurd (Option.some.inj at_) marked

end Escaping

end BitString
