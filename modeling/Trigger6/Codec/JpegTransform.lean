/-
This file embeds the transform of the JPEG encoder: the integer discrete cosine
transform of a block of samples, and the quantisation of its coefficients by a
multiplication with a rounded reciprocal instead of two divisions.

The main theorem compares this with the exact quotient. Samples of eight bits
keep every sum below 2^38, so that nothing overflows, the clamp does nothing,
and the rounded reciprocals cost less than a two-thousandth.
-/

import Mathlib.Algebra.BigOperators.Group.Finset.Basic
import Mathlib.Algebra.BigOperators.Ring.Finset
import Mathlib.Algebra.Order.BigOperators.Group.Finset
import Mathlib.Algebra.Order.Field.Rat
import Mathlib.Data.Rat.Cast.Order
import Mathlib.Tactic.FieldSimp
import Mathlib.Tactic.Linarith
import Mathlib.Tactic.NormNum
import Mathlib.Tactic.Positivity
import Mathlib.Tactic.Ring

namespace Trigger6.Codec

open Finset

/-! ### Tables -/

def zigzagOrder : List Nat := [
  0, 1, 8, 16, 9, 2, 3, 10,
  17, 24, 32, 25, 18, 11, 4, 5,
  12, 19, 26, 33, 40, 48, 41, 34,
  27, 20, 13, 6, 7, 14, 21, 28,
  35, 42, 49, 56, 57, 50, 43, 36,
  29, 22, 15, 23, 30, 37, 44, 51,
  58, 59, 52, 45, 38, 31, 39, 46,
  53, 60, 61, 54, 47, 55, 62, 63]

/-- `t6_jpeg_zigzag`. -/
def zigzag (index : Nat) : Nat := zigzagOrder.getD index 0

def qtLuma : List Nat := [
  16, 11, 10, 16, 24, 40, 51, 61,
  12, 12, 14, 19, 26, 58, 60, 55,
  14, 13, 16, 24, 40, 57, 69, 56,
  14, 17, 22, 29, 51, 87, 80, 62,
  18, 22, 37, 56, 68, 109, 103, 77,
  24, 35, 55, 64, 81, 104, 113, 92,
  49, 64, 78, 87, 103, 121, 120, 101,
  72, 92, 95, 98, 112, 100, 103, 99]

def qtChroma : List Nat := [
  17, 18, 24, 47, 99, 99, 99, 99,
  18, 21, 26, 66, 99, 99, 99, 99,
  24, 26, 56, 99, 99, 99, 99, 99,
  47, 66, 99, 99, 99, 99, 99, 99,
  99, 99, 99, 99, 99, 99, 99, 99,
  99, 99, 99, 99, 99, 99, 99, 99,
  99, 99, 99, 99, 99, 99, 99, 99,
  99, 99, 99, 99, 99, 99, 99, 99]

def dctRows : List (List Int) := [
  [5793, 5793, 5793, 5793, 5793, 5793, 5793, 5793],
  [8035, 6811, 4551, 1598, -1598, -4551, -6811, -8035],
  [7568, 3135, -3135, -7568, -7568, -3135, 3135, 7568],
  [6811, -1598, -8035, -4551, 4551, 8035, 1598, -6811],
  [5793, -5793, -5793, 5793, 5793, -5793, -5793, 5793],
  [4551, -8035, 1598, 6811, -6811, -1598, 8035, -4551],
  [3135, -7568, 7568, -3135, -3135, 7568, -7568, 3135],
  [1598, -4551, 6811, -8035, 8035, -6811, 4551, -1598]]

/-- `t6_jpeg_dct_matrix`. -/
def dctMatrix (u col : Nat) : Int := (dctRows.getD u []).getD col 0

/-- `T6_JPEG_DCT_SCALE`. -/
def dctScale : Nat := 16384

/-! ### Machine integers -/

/-- The value a signed 64-bit integer keeps of a number. -/
def s64 (value : Int) : Int := Int.bmod value (2 ^ 64)

/-- The value an unsigned 64-bit integer keeps of a number. -/
def u64 (value : Nat) : Nat := value % 2 ^ 64

theorem s64_of_abs {value : Int} (small : |value| < 2 ^ 63) : s64 value = value := by
  obtain ⟨low, high⟩ := abs_lt.mp small
  rw [s64, Int.bmod_def]
  omega

theorem u64_of_lt {value : Nat} (small : value < 2 ^ 64) : u64 value = value :=
  Nat.mod_eq_of_lt small

/-- The loop `sum += term` over the first `count` terms, in 64 bits. -/
def sum64 (term : Nat → Int) : (count : Nat) → Int
  | 0 => 0
  | count + 1 => s64 (sum64 term count + s64 (term count))

/-- A sum none of whose terms and parts overflow is exact. -/
theorem sum64_eq {term : Nat → Int} {count : Nat}
    (terms : ∀ index < count, |term index| < 2 ^ 63)
    (parts : ∀ part ≤ count, |∑ index ∈ range part, term index| < 2 ^ 63) :
    sum64 term count = ∑ index ∈ range count, term index := by
  induction count with
  | zero => rfl
  | succ count inductionHypothesis =>
    rw [sum64, inductionHypothesis (fun index less => terms index (Nat.lt_succ_of_lt less))
      (fun part within => parts part (Nat.le_succ_of_le within)), s64_of_abs (terms count (by omega)),
      ← sum_range_succ, s64_of_abs (parts (count + 1) (Nat.le_refl _))]

/-! ### The transform -/

/-- The first loop of `t6_jpeg_fdct_quantize`. -/
def rowTmp (src : Nat → Int) (row u : Nat) : Int :=
  sum64 (fun col => src (row * 8 + col) * dctMatrix u col) 8

/-- The sum of the second loop. -/
def dctSum (src : Nat → Int) (row u : Nat) : Int :=
  sum64 (fun col => rowTmp src col u * dctMatrix row col) 8

/-- `t6_precompute_dct_qtable`. -/
def precomputeDctQtable (qtable : Nat → Nat) (index : Nat) : Nat :=
  let d := u64 (dctScale * dctScale * if qtable index ≠ 0 then qtable index else 1)
  u64 (2 ^ 48 + d / 2) / d

/-- The rounded quotient, before it is clamped. -/
def quantized (sum : Int) (recip : Nat) : Int :=
  let q := s64 (u64 (u64 (sum.natAbs * recip) + 2 ^ 47) >>> 48 : Nat)
  if sum < 0 then -q else q

/-- `t6_jpeg_fdct_quantize`, at one coefficient. -/
def fdctQuantize (src : Nat → Int) (recip : Nat → Nat) (index : Nat) : Int :=
  max (-32767) (min 32767 (quantized (dctSum src (index / 8) (index % 8)) (recip index)))

theorem sum64_congr {first second : Nat → Int} {count : Nat}
    (same : ∀ index < count, first index = second index) : sum64 first count = sum64 second count := by
  induction count with
  | zero => rfl
  | succ count inductionHypothesis =>
    rw [sum64, sum64, inductionHypothesis fun index less => same index (Nat.lt_succ_of_lt less),
      same count (Nat.lt_succ_self count)]

/-- The coefficients of a block depend on its 64 samples only. -/
theorem fdctQuantize_congr {first second : Nat → Int} (same : ∀ index < 64, first index = second index)
    (recip : Nat → Nat) (index : Nat) :
    fdctQuantize first recip index = fdctQuantize second recip index := by
  have rows : ∀ {row u : Nat}, row < 8 → rowTmp first row u = rowTmp second row u := fun line =>
    sum64_congr fun col less => by rw [same _ (by omega)]
  have sums : ∀ row u : Nat, dctSum first row u = dctSum second row u := fun row u =>
    sum64_congr fun col less => by rw [rows less]
  rw [fdctQuantize, fdctQuantize, sums]

/-! ### Bounds on the sums -/

/-- Samples of a block lie between -128 and 127. -/
def IsSample (value : Int) : Prop := -128 ≤ value ∧ value ≤ 127

/-- The largest sum of the absolute values of a row of the matrix. -/
def rowWeight : Int := 46344

theorem weight_dctMatrix {u : Nat} (within : u < 8) :
    ∑ col ∈ range 8, |dctMatrix u col| ≤ rowWeight := by
  revert u
  decide

theorem abs_dctMatrix_le {u col : Nat} (row : u < 8) (column : col < 8) : |dctMatrix u col| ≤ 8035 := by
  have all : ∀ u < 8, ∀ col < 8, |dctMatrix u col| ≤ 8035 := by decide
  exact all u row col column

/-- A weighted sum, and every part of it, is bounded by the values times the weights. -/
theorem abs_part_le {value weight : Nat → Int} {bound : Int} {part : Nat} (within : part ≤ 8)
    (nonneg : 0 ≤ bound) (values : ∀ index < 8, |value index| ≤ bound) :
    |∑ index ∈ range part, value index * weight index| ≤
      bound * ∑ index ∈ range 8, |weight index| := by
  calc |∑ index ∈ range part, value index * weight index|
      ≤ ∑ index ∈ range part, |value index * weight index| := abs_sum_le_sum_abs _ _
    _ ≤ ∑ index ∈ range part, bound * |weight index| := by
        refine sum_le_sum fun index member => ?_
        rw [abs_mul]
        have less : index < 8 := Nat.lt_of_lt_of_le (mem_range.mp member) within
        exact mul_le_mul_of_nonneg_right (values index less) (abs_nonneg _)
    _ ≤ ∑ index ∈ range 8, bound * |weight index| :=
        sum_le_sum_of_subset_of_nonneg (range_subset_range.mpr within)
          fun index _ _ => mul_nonneg nonneg (abs_nonneg _)
    _ = bound * ∑ index ∈ range 8, |weight index| := (mul_sum _ _ _).symm

/-- What the first loop computes, without overflow. -/
def exactRow (src : Nat → Int) (row u : Nat) : Int :=
  ∑ col ∈ range 8, src (row * 8 + col) * dctMatrix u col

/-- The two-dimensional transform with `t6_jpeg_dct_matrix`, over the integers. -/
def exactDct (src : Nat → Int) (row u : Nat) : Int :=
  ∑ line ∈ range 8, exactRow src line u * dctMatrix row line

section Bounds

variable {src : Nat → Int} {bound : Int}

theorem abs_exactRow_part (nonneg : 0 ≤ bound) (values : ∀ index < 64, |src index| ≤ bound)
    {row u part : Nat} (line : row < 8) (column : u < 8) (within : part ≤ 8) :
    |∑ col ∈ range part, src (row * 8 + col) * dctMatrix u col| ≤ bound * rowWeight := by
  refine (abs_part_le within nonneg fun col less => values _ (by omega)).trans ?_
  exact mul_le_mul_of_nonneg_left (weight_dctMatrix column) nonneg

theorem abs_exactDct_part (nonneg : 0 ≤ bound) (values : ∀ index < 64, |src index| ≤ bound)
    {row u part : Nat} (line : row < 8) (column : u < 8) (within : part ≤ 8) :
    |∑ line ∈ range part, exactRow src line u * dctMatrix row line| ≤
      bound * rowWeight * rowWeight := by
  have heavy : 0 ≤ bound * rowWeight := mul_nonneg nonneg (by decide)
  refine (abs_part_le within heavy fun other less =>
    abs_exactRow_part nonneg values less column (Nat.le_refl 8)).trans ?_
  exact mul_le_mul_of_nonneg_left (weight_dctMatrix line) heavy

end Bounds

theorem IsSample.bound {value : Int} (sample : IsSample value) : |value| ≤ 128 :=
  abs_le.mpr ⟨sample.1, sample.2.trans (by decide)⟩

section Samples

variable {src : Nat → Int} (samples : ∀ index < 64, IsSample (src index))

include samples

/-- No product and no part of a sum of the two loops leaves the signed 64-bit range. -/
theorem products_fit {row u : Nat} (line : row < 8) (column : u < 8) :
    (∀ col < 8, |src (row * 8 + col) * dctMatrix u col| < 2 ^ 63) ∧
      (∀ part ≤ 8, |∑ col ∈ range part, src (row * 8 + col) * dctMatrix u col| < 2 ^ 63) ∧
      (∀ other < 8, |exactRow src other u * dctMatrix row other| < 2 ^ 63) ∧
      ∀ part ≤ 8, |∑ other ∈ range part, exactRow src other u * dctMatrix row other| < 2 ^ 63 := by
  have values : ∀ index < 64, |src index| ≤ 128 := fun index less => (samples index less).bound
  have weights : ∀ {first second : Nat}, first < 8 → second < 8 → |dctMatrix first second| ≤ 8035 :=
    abs_dctMatrix_le
  refine ⟨fun col less => ?_, fun part within => ?_, fun other less => ?_, fun part within => ?_⟩
  · rw [abs_mul]
    calc |src (row * 8 + col)| * |dctMatrix u col| ≤ 128 * 8035 :=
          mul_le_mul (values _ (by omega)) (weights column less) (abs_nonneg _) (by decide)
      _ < 2 ^ 63 := by decide
  · exact (abs_exactRow_part (by decide) values line column within).trans_lt (by decide)
  · rw [abs_mul]
    calc |exactRow src other u| * |dctMatrix row other| ≤ 128 * rowWeight * 8035 :=
          mul_le_mul (abs_exactRow_part (by decide) values less column (Nat.le_refl 8))
            (weights line less) (abs_nonneg _) (by decide)
      _ < 2 ^ 63 := by decide
  · exact (abs_exactDct_part (by decide) values line column within).trans_lt (by decide)

theorem rowTmp_eq {row u : Nat} (line : row < 8) (column : u < 8) :
    rowTmp src row u = exactRow src row u := by
  obtain ⟨products, parts, -⟩ := products_fit samples line column
  exact sum64_eq products parts

theorem dctSum_eq {row u : Nat} (line : row < 8) (column : u < 8) :
    dctSum src row u = exactDct src row u := by
  obtain ⟨-, -, products, parts⟩ := products_fit samples line column
  have rows : ∀ other < 8, rowTmp src other u * dctMatrix row other =
      exactRow src other u * dctMatrix row other := fun other less => by
    rw [rowTmp_eq samples less column]
  have same : ∀ part ≤ 8, ∑ other ∈ range part, rowTmp src other u * dctMatrix row other =
      ∑ other ∈ range part, exactRow src other u * dctMatrix row other := fun part within =>
    sum_congr rfl fun other member => rows other (Nat.lt_of_lt_of_le (mem_range.mp member) within)
  rw [dctSum, sum64_eq (fun other less => by rw [rows other less]; exact products other less)
    (fun part within => by rw [same part within]; exact parts part within)]
  exact same 8 (Nat.le_refl 8)

end Samples

/-! ### The quotient -/

/-- No sum of a block exceeds this. -/
def sumBound : Nat := 128 * 46344 * 46344

theorem natAbs_exactDct_le {src : Nat → Int} (samples : ∀ index < 64, IsSample (src index))
    {row u : Nat} (line : row < 8) (column : u < 8) : (exactDct src row u).natAbs ≤ sumBound := by
  have whole := abs_exactDct_part (by decide) (fun index less => (samples index less).bound) line
    column (Nat.le_refl 8)
  have bound : |exactDct src row u| ≤ (sumBound : Int) := whole
  rw [Int.abs_eq_natAbs] at bound
  exact Int.ofNat_le.mp bound

/-- The divisor of a coefficient: both scales of the transform and the quantiser. -/
def divisor (q : Nat) : Nat := dctScale * dctScale * q

section Reciprocal

variable {qtable : Nat → Nat} {index : Nat}

theorem divisor_le (high : qtable index ≤ 255) : divisor (qtable index) < 2 ^ 36 := by
  rw [divisor, dctScale]
  omega

/-- The reciprocal is the rounded quotient of 2^48 by the divisor; nothing overflows. -/
theorem precomputeDctQtable_eq (low : 1 ≤ qtable index) (high : qtable index ≤ 255) :
    precomputeDctQtable qtable index =
      (2 ^ 48 + divisor (qtable index) / 2) / divisor (qtable index) := by
  have small := divisor_le high
  have half := Nat.div_le_self (divisor (qtable index)) 2
  have nonzero : qtable index ≠ 0 := Nat.one_le_iff_ne_zero.mp low
  have d : u64 (dctScale * dctScale * if qtable index ≠ 0 then qtable index else 1) =
      divisor (qtable index) := by
    rw [if_pos nonzero]
    exact u64_of_lt (Nat.lt_trans small (by decide))
  show u64 (2 ^ 48 + u64 _ / 2) / u64 _ = _
  rw [d, u64_of_lt (by omega)]

/-- How far the reciprocal is from the quotient, times the divisor. -/
theorem reciprocal_error {q recip : Nat} (positive : 1 ≤ q)
    (same : recip = (2 ^ 48 + divisor q / 2) / divisor q) :
    divisor q * recip ≤ 2 ^ 48 + divisor q / 2 ∧ 2 ^ 48 ≤ divisor q * recip + divisor q / 2 := by
  have half : divisor q = 2 * (divisor q / 2) := by
    rw [divisor, dctScale]
    omega
  have above : 0 < divisor q := Nat.mul_pos (by decide) positive
  have split := Nat.div_add_mod (2 ^ 48 + divisor q / 2) (divisor q)
  have rest := Nat.mod_lt (2 ^ 48 + divisor q / 2) above
  rw [← same] at split
  omega

theorem reciprocal_le {q recip : Nat} (positive : 1 ≤ q)
    (same : recip = (2 ^ 48 + divisor q / 2) / divisor q) : recip ≤ 2 ^ 20 := by
  have below := (reciprocal_error positive same).1
  by_contra above
  have least : divisor q * (2 ^ 20 + 1) ≤ divisor q * recip := Nat.mul_le_mul_left _ (by omega)
  have scale : divisor q = 2 ^ 28 * q := rfl
  omega

end Reciprocal

section Quotient

variable {sum : Int} {recip : Nat} (small : sum.natAbs ≤ sumBound) (reciprocal : recip ≤ 2 ^ 20)

include small reciprocal

theorem scaled_lt : sum.natAbs * recip + 2 ^ 47 < 2 ^ 59 :=
  calc sum.natAbs * recip + 2 ^ 47 ≤ sumBound * 2 ^ 20 + 2 ^ 47 :=
        Nat.add_le_add_right (Nat.mul_le_mul small reciprocal) _
    _ < 2 ^ 59 := by decide

/-- Without overflow the quotient is rounded to the nearest, and has the sign of the sum. -/
theorem quantized_eq : quantized sum recip =
    if sum < 0 then -(((sum.natAbs * recip + 2 ^ 47) / 2 ^ 48 : Nat) : Int)
    else ((sum.natAbs * recip + 2 ^ 47) / 2 ^ 48 : Nat) := by
  have fits := scaled_lt small reciprocal
  have shifted : (sum.natAbs * recip + 2 ^ 47) / 2 ^ 48 < 2 ^ 11 := by omega
  have exact_ : s64 (u64 (u64 (sum.natAbs * recip) + 2 ^ 47) >>> 48 : Nat) =
      ((sum.natAbs * recip + 2 ^ 47) / 2 ^ 48 : Nat) := by
    rw [u64_of_lt (show sum.natAbs * recip < 2 ^ 64 by omega), u64_of_lt (by omega),
      Nat.shiftRight_eq_div_pow]
    refine s64_of_abs ?_
    rw [Nat.abs_cast]
    exact Int.ofNat_lt.mpr (Nat.lt_trans shifted (by decide))
  rw [quantized, exact_]

theorem natAbs_quantized :
    (quantized sum recip).natAbs = (sum.natAbs * recip + 2 ^ 47) / 2 ^ 48 := by
  rw [quantized_eq small reciprocal]
  split
  · rw [Int.natAbs_neg, Int.natAbs_natCast]
  · rw [Int.natAbs_natCast]

theorem abs_quantized_lt : (quantized sum recip).natAbs < 2 ^ 11 := by
  have fits := scaled_lt small reciprocal
  rw [natAbs_quantized small reciprocal]
  omega

theorem quantized_sign : quantized sum recip = sum.sign * (quantized sum recip).natAbs := by
  rw [natAbs_quantized small reciprocal, quantized_eq small reciprocal]
  rcases lt_trichotomy sum 0 with negative | rfl | positive
  · rw [if_pos negative, Int.sign_eq_neg_one_of_neg negative, neg_one_mul]
  · rw [if_neg (lt_irrefl 0), Int.sign_zero, zero_mul, Int.natAbs_zero, Nat.zero_mul, Nat.zero_add]
    rfl
  · rw [if_neg (not_lt_of_gt positive), Int.sign_eq_one_of_pos positive, one_mul]

end Quotient

/-- The rounding of the shift costs a half, that of the reciprocal less than a two-thousandth. -/
theorem quotient_error {total recip q : Nat} (small : total ≤ sumBound) (positive : 1 ≤ q)
    (same : recip = (2 ^ 48 + divisor q / 2) / divisor q) :
    |(((total * recip + 2 ^ 47) / 2 ^ 48 : Nat) : ℚ) - (total : ℚ) / divisor q| ≤
      (1 / 2 + 1 / 2000 : ℚ) := by
  obtain ⟨below, above⟩ := reciprocal_error positive same
  have scale : (0 : ℚ) < divisor q := by
    exact_mod_cast Nat.mul_pos (by decide : 0 < dctScale * dctScale) positive
  have halves : 2 * (divisor q / 2) = divisor q := by
    rw [divisor, dctScale]
    omega
  generalize value : (total * recip + 2 ^ 47) / 2 ^ 48 = rounded
  have floor : 2 ^ 48 * rounded ≤ total * recip + 2 ^ 47 ∧ total * recip + 2 ^ 47 < 2 ^ 48 * rounded + 2 ^ 48 := by
    omega
  -- the two errors, over the rationals
  have shift : |(2 : ℚ) ^ 48 * rounded - total * recip| ≤ 2 ^ 47 := by
    have low : (2 : ℚ) ^ 48 * rounded ≤ total * recip + 2 ^ 47 := by exact_mod_cast floor.1
    have high : (total : ℚ) * recip + 2 ^ 47 < 2 ^ 48 * rounded + 2 ^ 48 := by exact_mod_cast floor.2
    rw [abs_le]
    constructor <;> linarith
  have reciprocal : |(divisor q : ℚ) * recip - 2 ^ 48| ≤ (divisor q : ℚ) / 2 := by
    have low : 2 * (divisor q * recip) ≤ 2 * 2 ^ 48 + divisor q := by omega
    have high : 2 * 2 ^ 48 ≤ 2 * (divisor q * recip) + divisor q := by omega
    have low' : 2 * ((divisor q : ℚ) * recip) ≤ 2 * 2 ^ 48 + divisor q := by exact_mod_cast low
    have high' : (2 : ℚ) * 2 ^ 48 ≤ 2 * (divisor q * recip) + divisor q := by exact_mod_cast high
    rw [abs_le]
    constructor <;> linarith
  have bounded : (total : ℚ) ≤ 2 ^ 49 / 2000 := by
    have cast : (total : ℚ) ≤ sumBound := by exact_mod_cast small
    refine cast.trans ?_
    norm_num [sumBound]
  have split : (rounded : ℚ) - total / divisor q = (2 ^ 48 * rounded - total * recip) / 2 ^ 48 +
      total * (divisor q * recip - 2 ^ 48) / (2 ^ 48 * divisor q) := by
    field_simp
    ring
  rw [split]
  refine (abs_add_le _ _).trans (add_le_add ?_ ?_)
  · rw [abs_div, abs_of_pos (by norm_num : (0 : ℚ) < 2 ^ 48), div_le_div_iff₀ (by norm_num) (by norm_num)]
    linarith
  · rw [abs_div, abs_mul, abs_of_nonneg (Nat.cast_nonneg total),
      abs_of_pos (mul_pos (by norm_num) scale), div_le_iff₀ (mul_pos (by norm_num) scale)]
    calc (total : ℚ) * |(divisor q : ℚ) * recip - 2 ^ 48| ≤ 2 ^ 49 / 2000 * (divisor q / 2) :=
          mul_le_mul bounded reciprocal (abs_nonneg _) (by norm_num)
      _ = 1 / 2000 * (2 ^ 48 * divisor q) := by ring

/-! ### Accuracy -/

/-- The values `t6_jpeg_fdct_quantize` and `t6_precompute_dct_qtable` go through on the way to one
coefficient: products and parts of the sums of both loops, the divisor and what is divided by it,
and the scaled sum. -/
structure NoOverflow (src : Nat → Int) (qtable : Nat → Nat) (row u : Nat) : Prop where
  rowProducts : ∀ line < 8, ∀ col < 8, |src (line * 8 + col) * dctMatrix u col| < 2 ^ 63
  rowSums : ∀ line < 8, ∀ part ≤ 8,
    |∑ col ∈ range part, src (line * 8 + col) * dctMatrix u col| < 2 ^ 63
  products : ∀ line < 8, |exactRow src line u * dctMatrix row line| < 2 ^ 63
  sums : ∀ part ≤ 8, |∑ line ∈ range part, exactRow src line u * dctMatrix row line| < 2 ^ 63
  divisors : divisor (qtable (row * 8 + u)) < 2 ^ 64 ∧
    2 ^ 48 + divisor (qtable (row * 8 + u)) / 2 < 2 ^ 64
  scaled : (exactDct src row u).natAbs * precomputeDctQtable qtable (row * 8 + u) + 2 ^ 47 < 2 ^ 64

section Accuracy

variable {src : Nat → Int} {qtable : Nat → Nat} (samples : ∀ index < 64, IsSample (src index))
  (quantisers : ∀ index < 64, 1 ≤ qtable index ∧ qtable index ≤ 255) {row u : Nat}
  (line : row < 8) (column : u < 8)

include samples quantisers line column

theorem no_overflow : NoOverflow src qtable row u := by
  obtain ⟨low, high⟩ := quantisers (row * 8 + u) (by omega)
  have small := divisor_le high
  have recip := reciprocal_le low (precomputeDctQtable_eq low high)
  obtain ⟨-, -, products, sums⟩ := products_fit samples line column
  exact {
    rowProducts := fun other less => (products_fit samples less column).1
    rowSums := fun other less => (products_fit samples less column).2.1
    products := products
    sums := sums
    divisors := by omega
    scaled := (scaled_lt (natAbs_exactDct_le samples line column) recip).trans (by decide) }

/-- The clamp does nothing. -/
theorem fdctQuantize_eq : fdctQuantize src (precomputeDctQtable qtable) (row * 8 + u) =
    quantized (exactDct src row u) (precomputeDctQtable qtable (row * 8 + u)) := by
  obtain ⟨low, high⟩ := quantisers (row * 8 + u) (by omega)
  have recip := reciprocal_le low (precomputeDctQtable_eq low high)
  have small := abs_quantized_lt (natAbs_exactDct_le samples line column) recip
  have place : (row * 8 + u) / 8 = row ∧ (row * 8 + u) % 8 = u := by omega
  rw [fdctQuantize, place.1, place.2, dctSum_eq samples line column]
  omega

/-- What `t6_jpeg_fdct_quantize` computes for one coefficient, against the exact quotient. -/
theorem fdct_quantize_accurate : NoOverflow src qtable row u ∧
    fdctQuantize src (precomputeDctQtable qtable) (row * 8 + u) =
      quantized (dctSum src row u) (precomputeDctQtable qtable (row * 8 + u)) ∧
    |((fdctQuantize src (precomputeDctQtable qtable) (row * 8 + u)).natAbs : ℚ) -
        ((exactDct src row u).natAbs : ℚ) / (16384 ^ 2 * qtable (row * 8 + u))| ≤
      (1 / 2 + 1 / 2000 : ℚ) ∧
    fdctQuantize src (precomputeDctQtable qtable) (row * 8 + u) =
      (exactDct src row u).sign *
        (fdctQuantize src (precomputeDctQtable qtable) (row * 8 + u)).natAbs ∧
    (qtable (row * 8 + u) = 1 →
      (fdctQuantize src (precomputeDctQtable qtable) (row * 8 + u)).natAbs =
        ((exactDct src row u).natAbs + 2 ^ 27) / 2 ^ 28) := by
  obtain ⟨low, high⟩ := quantisers (row * 8 + u) (by omega)
  have same := precomputeDctQtable_eq low high
  have recip := reciprocal_le low same
  have small := natAbs_exactDct_le samples line column
  refine ⟨no_overflow samples quantisers line column, ?_, ?_, ?_, ?_⟩
  · rw [fdctQuantize_eq samples quantisers line column, dctSum_eq samples line column]
  · have scale : ((divisor (qtable (row * 8 + u)) : Nat) : ℚ) = 16384 ^ 2 * qtable (row * 8 + u) := by
      rw [divisor, dctScale]
      push_cast
      ring
    rw [fdctQuantize_eq samples quantisers line column, natAbs_quantized small recip, ← scale]
    exact quotient_error small low same
  · rw [fdctQuantize_eq samples quantisers line column]
    exact quantized_sign small recip
  · intro one
    rw [one] at same
    have whole : precomputeDctQtable qtable (row * 8 + u) = 2 ^ 20 := same.trans (by decide)
    rw [fdctQuantize_eq samples quantisers line column, natAbs_quantized small recip, whole]
    omega

end Accuracy

/-- The darkest block, with the finest quantiser: 1024 for its mean value. -/
theorem fdct_quantize_accurate_dark :
    (fdctQuantize (fun _ => -128) (precomputeDctQtable fun _ => 1) 0).natAbs =
      ((exactDct (fun _ => -128) 0 0).natAbs + 2 ^ 27) / 2 ^ 28 := by
  have dark : ∀ index < 64, IsSample ((fun _ : Nat => (-128 : Int)) index) := fun _ _ =>
    show (-128 : Int) ≤ -128 ∧ (-128 : Int) ≤ 127 by decide
  have finest : ∀ index < 64, 1 ≤ (fun _ : Nat => 1) index ∧ (fun _ : Nat => 1) index ≤ 255 :=
    fun _ _ => show 1 ≤ 1 ∧ 1 ≤ 255 by decide
  have accurate := fdct_quantize_accurate dark finest (by decide : 0 < 8) (by decide : 0 < 8)
  exact accurate.2.2.2.2 rfl

end Trigger6.Codec
