/-
This file embeds how the JPEG encoder writes one block: the quality scales the
quantisers, the difference of the first coefficient to that of the block before
is written as a category and its bits, and the others as runs of zeros, each with
the category and the bits of the coefficient behind it.

The main lemmas bound the coefficients. Samples lie between -128 and 127, not
128, and all rows of the transform but the first sum to zero, so that no
coefficient but the first can reach 1024, where there would be no code.
-/

import Trigger6.Codec.JpegHuffman
import Trigger6.Codec.JpegTransform

namespace Trigger6.Codec

open BitString BoundedOutput Finset

/-! ### Quantisers -/

/-- `t6_jpeg_build_qtable`, at one quantiser; `DIV_ROUND_CLOSEST` by 100. -/
def buildQtable (base : List Nat) (quality index : Nat) : Nat :=
  let quality := max 1 (min quality 100)
  let scale := if quality < 50 then 5000 / quality else 200 - 2 * quality
  max 1 (min ((base.getD index 0 * scale + 50) / 100) 255)

theorem buildQtable_range (base : List Nat) (quality index : Nat) :
    1 ≤ buildQtable base quality index ∧ buildQtable base quality index ≤ 255 :=
  ⟨Nat.le_max_left _ _, Nat.max_le.mpr ⟨by decide, Nat.min_le_right _ _⟩⟩

/-! ### Values -/

/-- The loop of `t6_jpeg_value_bits`; each round halves the value. -/
def valueSize : (bound absValue : Nat) → Nat
  | 0, _ => 0
  | bound + 1, absValue => if absValue = 0 then 0 else valueSize bound (absValue >>> 1) + 1

/-- `t6_jpeg_value_bits`: the size category of a value and its bits. -/
def valueBits (value : Int) : Nat × BitVec 16 :=
  if value = 0 then (0, 0)
  else
    let size := valueSize 32 value.natAbs
    (size, BitVec.ofInt 16 (if value < 0 then value - 1 + 2 ^ size else value))

theorem valueSize_le {bound absValue size : Nat} (small : absValue < 2 ^ bound) :
    valueSize bound absValue ≤ size ↔ absValue < 2 ^ size := by
  induction bound generalizing absValue size with
  | zero =>
    obtain rfl : absValue = 0 := Nat.lt_one_iff.mp small
    exact ⟨fun _ => Nat.two_pow_pos size, fun _ => Nat.zero_le size⟩
  | succ bound inductionHypothesis =>
    rw [valueSize]
    split
    · next zero =>
      subst zero
      exact ⟨fun _ => Nat.two_pow_pos size, fun _ => Nat.zero_le size⟩
    · next nonzero =>
      cases size with
      | zero => omega
      | succ size =>
        rw [Nat.add_le_add_iff_right, Nat.shiftRight_one,
          inductionHypothesis (by rw [Nat.pow_succ] at small; omega), Nat.pow_succ]
        omega

/-- The value with some category and bits. -/
def extend (size bits : Nat) : Int :=
  if size = 0 then 0 else if bits < 2 ^ (size - 1) then (bits : Int) - 2 ^ size + 1 else bits

section Value

variable {value : Int} (small : value.natAbs < 2 ^ 16)

include small

theorem valueBits_size_le (size : Nat) : (valueBits value).1 ≤ size ↔ value.natAbs < 2 ^ size := by
  unfold valueBits
  split
  · next zero =>
    subst zero
    exact ⟨fun _ => Nat.two_pow_pos size, fun _ => Nat.zero_le size⟩
  · exact valueSize_le (Nat.lt_trans small (by decide))

theorem valueBits_size_pos (nonzero : value ≠ 0) : 1 ≤ (valueBits value).1 := by
  by_contra none
  have below := (valueBits_size_le small 0).mp (by omega)
  omega

/-- A value lies in the upper half of its category, and is not too large for it. -/
theorem valueBits_category (nonzero : value ≠ 0) :
    2 ^ ((valueBits value).1 - 1) ≤ value.natAbs ∧ value.natAbs < 2 ^ (valueBits value).1 := by
  have positive := valueBits_size_pos small nonzero
  have below := valueBits_size_le small ((valueBits value).1 - 1)
  exact ⟨by omega, (valueBits_size_le small _).mp (Nat.le_refl _)⟩

theorem valueBits_bits (nonzero : value ≠ 0) :
    ((valueBits value).2.toNat : Int) =
      if value < 0 then value - 1 + 2 ^ (valueBits value).1 else value := by
  obtain ⟨above, below⟩ := valueBits_category small nonzero
  have size := (valueBits_size_le small 16).mpr small
  have wide : (2 : Int) ^ (valueBits value).1 ≤ 2 ^ 16 := pow_le_pow_right₀ (by decide) size
  have below' : |value| < 2 ^ (valueBits value).1 := by
    rw [Int.abs_eq_natAbs]
    exact_mod_cast below
  obtain ⟨low, high⟩ := abs_lt.mp below'
  have bits : (valueBits value).2 =
      BitVec.ofInt 16 (if value < 0 then value - 1 + 2 ^ (valueBits value).1 else value) := by
    unfold valueBits
    rw [if_neg nonzero]
  rw [bits, BitVec.toNat_ofInt]
  split <;> omega

/-- The category and the bits of a value say what it is, and the bits fit the category. -/
theorem valueBits_spec : (valueBits value).1 ≤ 16 ∧
    (valueBits value).2.toNat < 2 ^ (valueBits value).1 ∧
    extend (valueBits value).1 (valueBits value).2.toNat = value := by
  by_cases nonzero : value = 0
  · subst nonzero
    exact ⟨by decide, by decide, by decide⟩
  · obtain ⟨above, below⟩ := valueBits_category small nonzero
    have positive := valueBits_size_pos small nonzero
    have bits := valueBits_bits small nonzero
    obtain ⟨size, same⟩ : ∃ size, (valueBits value).1 = size + 1 := ⟨_, (Nat.sub_add_cancel positive).symm⟩
    rw [same] at above below bits ⊢
    have double : (2 : Int) ^ (size + 1) = 2 * (2 ^ size : Nat) := by push_cast; ring
    rw [Nat.add_sub_cancel] at above
    rw [Nat.pow_succ] at below
    rw [double] at bits
    refine ⟨same ▸ (valueBits_size_le small 16).mpr small, ?_, ?_⟩
    · rw [Nat.pow_succ]
      split at bits <;> omega
    · rw [extend, if_neg (Nat.succ_ne_zero size), Nat.add_sub_cancel, double]
      split at bits <;> split <;> omega

end Value

/-! ### Bounds on the coefficients -/

/-- No sum of a block, twice, exceeds this, that of the first coefficient apart. -/
theorem two_exactDct_le {src : Nat → Int} (samples : ∀ index < 64, IsSample (src index))
    {row u : Nat} (line : row < 8) (column : u < 8) (later : 0 < row ∨ 0 < u) :
    2 * |exactDct src row u| ≤ 255 * rowWeight * rowWeight := by
  have flat : ∀ row < 8, ∀ u < 8, 0 < row ∨ 0 < u → exactDct (fun _ => 1) row u = 0 := by decide
  -- twice a sample, plus one, is at most 255 on both sides
  have centred : exactDct (fun index => 2 * src index + 1) row u =
      2 * exactDct src row u + exactDct (fun _ => 1) row u := by
    simp only [exactDct, exactRow, add_mul, sum_add_distrib, mul_sum, sum_mul, mul_assoc]
  have bounded : |exactDct (fun index => 2 * src index + 1) row u| ≤ 255 * rowWeight * rowWeight := by
    refine abs_exactDct_part (by decide) (fun index less => ?_) line column (Nat.le_refl 8)
    obtain ⟨low, high⟩ := samples index less
    rw [abs_le]
    constructor <;> omega
  rw [centred, flat row line u column later, add_zero, abs_mul] at bounded
  exact bounded

/-- A sum with equal weights lies between the least and the greatest value. -/
theorem flat_sum_range {value : Nat → Int} {least most : Int} (low : ∀ index < 8, least ≤ value index)
    (high : ∀ index < 8, value index ≤ most) :
    least * rowWeight ≤ ∑ index ∈ range 8, value index * dctMatrix 0 index ∧
      ∑ index ∈ range 8, value index * dctMatrix 0 index ≤ most * rowWeight := by
  have flat : ∀ index < 8, dctMatrix 0 index = 5793 := by decide
  have same : ∑ index ∈ range 8, value index * dctMatrix 0 index =
      (∑ index ∈ range 8, value index) * 5793 := by
    rw [sum_mul]
    exact sum_congr rfl fun index member => by rw [flat index (mem_range.mp member)]
  have below := card_nsmul_le_sum (range 8) value least fun index member =>
    low index (mem_range.mp member)
  have above := sum_le_card_nsmul (range 8) value most fun index member =>
    high index (mem_range.mp member)
  rw [card_range, nsmul_eq_mul] at below above
  rw [same, rowWeight]
  push_cast at below above
  constructor <;> linarith

theorem exactDct_first_range {src : Nat → Int} (samples : ∀ index < 64, IsSample (src index)) :
    -128 * rowWeight * rowWeight ≤ exactDct src 0 0 ∧
      exactDct src 0 0 ≤ 127 * rowWeight * rowWeight := by
  have rows : ∀ line < 8, -128 * rowWeight ≤ exactRow src line 0 ∧
      exactRow src line 0 ≤ 127 * rowWeight := fun line less =>
    flat_sum_range (fun col within => (samples _ (by omega)).1)
      fun col within => (samples _ (by omega)).2
  exact flat_sum_range (fun line less => (rows line less).1) fun line less => (rows line less).2

section Coefficients

variable {src : Nat → Int} {qtable : Nat → Nat} (samples : ∀ index < 64, IsSample (src index))
  (quantisers : ∀ index < 64, 1 ≤ qtable index ∧ qtable index ≤ 255)

include samples quantisers

/-- A coefficient is at most the sum, divided by the scale of the transform and rounded. -/
theorem natAbs_coefficient_le {row u : Nat} (line : row < 8) (column : u < 8) :
    (fdctQuantize src (precomputeDctQtable qtable) (row * 8 + u)).natAbs ≤
      ((exactDct src row u).natAbs + 2 ^ 27) / 2 ^ 28 := by
  obtain ⟨low, high⟩ := quantisers (row * 8 + u) (by omega)
  have recip := reciprocal_le low (precomputeDctQtable_eq low high)
  have small := natAbs_exactDct_le samples line column
  rw [fdctQuantize_eq samples quantisers line column, natAbs_quantized small recip]
  have scaled : (exactDct src row u).natAbs * precomputeDctQtable qtable (row * 8 + u) ≤
      (exactDct src row u).natAbs * 2 ^ 20 := Nat.mul_le_mul_left _ recip
  omega

theorem coefficient_sign {row u : Nat} (line : row < 8) (column : u < 8) :
    0 ≤ fdctQuantize src (precomputeDctQtable qtable) (row * 8 + u) * (exactDct src row u).sign := by
  obtain ⟨-, -, -, sign, -⟩ := fdct_quantize_accurate samples quantisers line column
  rw [sign, mul_right_comm]
  exact mul_nonneg (mul_self_nonneg _) (Int.natCast_nonneg _)

/-- The first coefficient. -/
theorem first_coefficient_range :
    -1024 ≤ fdctQuantize src (precomputeDctQtable qtable) 0 ∧
      fdctQuantize src (precomputeDctQtable qtable) 0 ≤ 1016 := by
  obtain ⟨low, high⟩ := exactDct_first_range samples
  have size := natAbs_coefficient_le samples quantisers (show 0 < 8 by decide) (show 0 < 8 by decide)
  have sign := coefficient_sign samples quantisers (show 0 < 8 by decide) (show 0 < 8 by decide)
  rw [rowWeight] at low high
  rw [Nat.zero_mul, Nat.add_zero] at size sign
  rcases lt_trichotomy (exactDct src 0 0) 0 with negative | zero | positive
  · rw [Int.sign_eq_neg_one_of_neg negative] at sign
    omega
  · rw [zero] at size
    omega
  · rw [Int.sign_eq_one_of_pos positive] at sign
    omega

/-- The other coefficients. -/
theorem later_coefficient_range {index : Nat} (later : 0 < index) (within : index < 64) :
    (fdctQuantize src (precomputeDctQtable qtable) index).natAbs ≤ 1020 := by
  have size := natAbs_coefficient_le samples quantisers (show index / 8 < 8 by omega)
    (show index % 8 < 8 by omega)
  have bound := two_exactDct_le samples (show index / 8 < 8 by omega) (show index % 8 < 8 by omega)
    (by omega)
  rw [Int.abs_eq_natAbs, rowWeight] at bound
  rw [show index / 8 * 8 + index % 8 = index by omega] at size
  omega

end Coefficients

/-! ### Encoding a block -/

/-- The loop `while (zero_run >= 16)`; each round takes sixteen zeros. -/
def putZeroRuns (acTable : HuffTable) : (bound zeroRun : Nat) → JpegWriter Nat
  | 0, zeroRun => pure zeroRun
  | bound + 1, zeroRun =>
    if 16 ≤ zeroRun then do
      putBits (acTable.codes 0xf0) (acTable.sizes 0xf0)
      putZeroRuns acTable bound (zeroRun - 16)
    else pure zeroRun

/-- The loop of `t6_jpeg_encode_block` over the other coefficients; it returns the last run. -/
def encodeAc (coeffs : Nat → Int) (acTable : HuffTable) : (indices : List Nat) → (zeroRun : Nat) →
    JpegWriter Nat
  | [], zeroRun => pure zeroRun
  | i :: indices, zeroRun =>
    let coeff := coeffs (zigzag i)
    if coeff = 0 then encodeAc coeffs acTable indices (zeroRun + 1)
    else do
      let zeroRun ← putZeroRuns acTable zeroRun zeroRun
      let (size, bits) := valueBits coeff
      putBits (acTable.codes (runSize zeroRun size)) (acTable.sizes (runSize zeroRun size))
      putBits bits size
      encodeAc coeffs acTable indices 0

/-- The indices its loop goes through. -/
def acIndices : List Nat := List.range' 1 63

/-- `t6_jpeg_encode_block`; it returns what it leaves in `*prev_dc`. -/
def encodeBlock (block : Nat → Int) (recip : Nat → Nat) (dcTable acTable : HuffTable)
    (prevDc : Int) : JpegWriter Int := do
  let coeffs := fdctQuantize block recip
  let diff := coeffs 0 - prevDc
  let (size, bits) := valueBits diff
  putBits (dcTable.codes size) (dcTable.sizes size)
  putBits bits size
  let zeroRun ← encodeAc coeffs acTable (acIndices) 0
  if zeroRun ≠ 0 then putBits (acTable.codes 0x00) (acTable.sizes 0x00)
  return coeffs 0

/-! ### The codes of a block -/

/-- What is looked up in a table: the category of a difference, a run of zeros with the category
of the coefficient behind it, sixteen zeros, or the end of the block. -/
inductive Lookup
  | dc (diff : Int)
  | ac (zeroRun : Nat) (coeff : Int)
  | zeros
  | ending

/-- The bits of a value, as they are given to `t6_jpeg_put_bits`. -/
def valueCall (value : Int) : Call := ⟨(valueBits value).2, (valueBits value).1⟩

/-- The code that is looked up, and the bits of the value behind it. -/
def Lookup.calls (dcTable acTable : HuffTable) : Lookup → List Call
  | .dc diff => [dcTable.call (valueBits diff).1, valueCall diff]
  | .ac zeroRun coeff => [acTable.call (runSize zeroRun (valueBits coeff).1), valueCall coeff]
  | .zeros => [acTable.call 0xf0]
  | .ending => [acTable.call 0x00]

/-- The lookups for the other coefficients, in the order of the zigzag. -/
def acLookups : (coeffs : List Int) → (zeroRun : Nat) → List Lookup
  | [], 0 => []
  | [], _ + 1 => [.ending]
  | coeff :: coeffs, zeroRun =>
    if coeff = 0 then acLookups coeffs (zeroRun + 1)
    else List.replicate (zeroRun / 16) .zeros ++ .ac (zeroRun % 16) coeff :: acLookups coeffs 0

/-- The other coefficients, in the order of the zigzag. -/
def acCoeffs (coeffs : Nat → Int) (indices : List Nat) : List Int :=
  indices.map fun i => coeffs (zigzag i)

def blockLookups (coeffs : Nat → Int) (prevDc : Int) : List Lookup :=
  .dc (coeffs 0 - prevDc) :: acLookups (acCoeffs coeffs (acIndices)) 0

def blockCalls (dcTable acTable : HuffTable) (coeffs : Nat → Int) (prevDc : Int) : List Call :=
  (blockLookups coeffs prevDc).flatMap (Lookup.calls dcTable acTable)

theorem putCalls_nil : putCalls [] = pure () := rfl

theorem putCalls_cons (call : Call) (calls : List Call) :
    putCalls (call :: calls) = putBits call.code call.size >>= fun _ => putCalls calls := rfl

theorem putCalls_append (first second : List Call) :
    putCalls (first ++ second) = putCalls first >>= fun _ => putCalls second :=
  List.forM_append

theorem putZeroRuns_eq {acTable : HuffTable} {bound zeroRun : Nat} (enough : zeroRun ≤ bound) :
    putZeroRuns acTable bound zeroRun =
      putCalls (List.replicate (zeroRun / 16) (acTable.call 0xf0)) >>= fun _ =>
        pure (zeroRun % 16) := by
  induction bound generalizing zeroRun with
  | zero =>
    obtain rfl := Nat.le_zero.mp enough
    rfl
  | succ bound inductionHypothesis =>
    rw [putZeroRuns]
    split
    · next long =>
      have quotient : zeroRun / 16 = (zeroRun - 16) / 16 + 1 := by omega
      have rest : zeroRun % 16 = (zeroRun - 16) % 16 := by omega
      rw [inductionHypothesis (by omega), quotient, rest, List.replicate_succ, putCalls_cons,
        bind_assoc]
      rfl
    · next short =>
      rw [Nat.div_eq_of_lt (by omega), Nat.mod_eq_of_lt (by omega)]
      rfl

/-- The writer of the other coefficients, and of the end of the block. -/
theorem encodeAc_eq (coeffs : Nat → Int) (dcTable acTable : HuffTable) (indices : List Nat)
    (zeroRun : Nat) :
    (do
      let zeroRun ← encodeAc coeffs acTable indices zeroRun
      if zeroRun ≠ 0 then putBits (acTable.codes 0x00) (acTable.sizes 0x00)) =
    putCalls ((acLookups (acCoeffs coeffs indices) zeroRun).flatMap
      (Lookup.calls dcTable acTable)) := by
  induction indices generalizing zeroRun with
  | nil =>
    rw [encodeAc, pure_bind]
    cases zeroRun with
    | zero => rfl
    | succ zeroRun =>
      show putBits _ _ = putBits _ _ >>= fun _ => pure ()
      rw [bind_pure_unit]
      rfl
  | cons i indices inductionHypothesis =>
    rw [encodeAc, acCoeffs, List.map_cons, acLookups]
    split
    · exact inductionHypothesis (zeroRun + 1)
    · have zeros : (List.replicate (zeroRun / 16) Lookup.zeros).flatMap (Lookup.calls dcTable acTable) =
          List.replicate (zeroRun / 16) (acTable.call 0xf0) := by
        rw [List.flatMap_replicate, Lookup.calls, List.flatten_replicate_singleton]
      rw [bind_assoc, putZeroRuns_eq (Nat.le_refl zeroRun), bind_assoc, List.flatMap_append,
        putCalls_append, zeros]
      refine congrArg _ (funext fun _ => ?_)
      rw [pure_bind, List.flatMap_cons, putCalls_append, ← acCoeffs, ← inductionHypothesis 0,
        Lookup.calls, putCalls_cons, putCalls_cons, putCalls_nil]
      simp only [bind_assoc, pure_bind]
      rfl

/-- The block is written by these calls and no others. -/
theorem encodeBlock_eq (block : Nat → Int) (recip : Nat → Nat) (dcTable acTable : HuffTable)
    (prevDc : Int) : encodeBlock block recip dcTable acTable prevDc =
      putCalls (blockCalls dcTable acTable (fdctQuantize block recip) prevDc) >>= fun _ =>
        pure (fdctQuantize block recip 0) := by
  rw [blockCalls, blockLookups, List.flatMap_cons, putCalls_append,
    ← encodeAc_eq (fdctQuantize block recip) dcTable acTable, Lookup.calls, putCalls_cons,
    putCalls_cons, putCalls_nil]
  unfold encodeBlock
  have ended : ∀ (zeroRun : Nat) (dc : Int) (ending : JpegWriter Unit),
      (if zeroRun ≠ 0 then ending >>= fun _ => pure dc else pure dc) =
        (if zeroRun ≠ 0 then ending else pure ()) >>= fun _ => pure dc := by
    intro zeroRun dc ending
    split <;> rfl
  simp only [HuffTable.call, valueCall, bind_assoc, pure_bind, ended]

/-! ### Every code exists -/

/-- A lookup finds a code: its category and its run are among those of the table. -/
inductive Lookup.Found (dcTable acTable : HuffTable) : Lookup → Prop
  | dc {diff : Int} (small : diff.natAbs < 2 ^ 16) (size : (valueBits diff).1 ≤ 11)
    (code : dcTable.sizes (valueBits diff).1 ≠ 0) : Found dcTable acTable (.dc diff)
  | ac {zeroRun : Nat} {coeff : Int} (small : coeff.natAbs < 2 ^ 16) (run : zeroRun ≤ 15)
    (size : 1 ≤ (valueBits coeff).1 ∧ (valueBits coeff).1 ≤ 10)
    (code : acTable.sizes (runSize zeroRun (valueBits coeff).1) ≠ 0) :
    Found dcTable acTable (.ac zeroRun coeff)
  | zeros (code : acTable.sizes 0xf0 ≠ 0) : Found dcTable acTable .zeros
  | ending (code : acTable.sizes 0x00 ≠ 0) : Found dcTable acTable .ending

/-- Coefficients whose categories have codes. -/
structure Codable (coeffs : Nat → Int) : Prop where
  first : -1024 ≤ coeffs 0 ∧ coeffs 0 ≤ 1016
  later : ∀ index, 0 < index → index < 64 → (coeffs index).natAbs ≤ 1020

theorem zigzag_later : ∀ i ∈ acIndices, 0 < zigzag i ∧ zigzag i < 64 := by decide

section Found

variable {dcTable acTable : HuffTable} (coded : Coded dcTable acTable)

include coded

theorem acLookups_found {coeffs : List Int} (small : ∀ coeff ∈ coeffs, coeff.natAbs ≤ 1020)
    (zeroRun : Nat) : ∀ lookup ∈ acLookups coeffs zeroRun, lookup.Found dcTable acTable := by
  induction coeffs generalizing zeroRun with
  | nil =>
    cases zeroRun with
    | zero => exact fun lookup member => by cases member
    | succ zeroRun =>
      intro lookup member
      obtain rfl := List.mem_singleton.mp member
      exact .ending coded.ending
  | cons coeff coeffs inductionHypothesis =>
    have rest := inductionHypothesis fun other member => small other (List.mem_cons_of_mem _ member)
    rw [acLookups]
    split
    · exact rest (zeroRun + 1)
    · next nonzero =>
      intro lookup member
      rcases List.mem_append.mp member with zeros | member
      · obtain rfl := List.eq_of_mem_replicate zeros
        exact .zeros coded.zeroRuns
      · rcases List.mem_cons.mp member with rfl | later
        · have bound := small coeff List.mem_cons_self
          have short : coeff.natAbs < 2 ^ 16 := by omega
          have low := valueBits_size_pos short nonzero
          have high := (valueBits_size_le short 10).mpr (by omega)
          have run : zeroRun % 16 < 16 := Nat.mod_lt _ (by decide)
          exact .ac short (Nat.le_of_lt_succ run) ⟨low, high⟩ (coded.ac _ run _ high low)
        · exact rest 0 lookup later

theorem blockLookups_found {coeffs : Nat → Int} (codable : Codable coeffs) {prevDc : Int}
    (before : -1024 ≤ prevDc ∧ prevDc ≤ 1016) :
    ∀ lookup ∈ blockLookups coeffs prevDc, lookup.Found dcTable acTable := by
  intro lookup member
  rcases List.mem_cons.mp member with rfl | later
  · have first := codable.first
    have small : (coeffs 0 - prevDc).natAbs < 2 ^ 16 := by omega
    have size := (valueBits_size_le small 11).mpr (by omega)
    exact .dc small size (coded.dc _ size)
  · refine acLookups_found coded (fun coeff found => ?_) 0 lookup later
    obtain ⟨i, within, rfl⟩ := List.mem_map.mp found
    obtain ⟨low, high⟩ := zigzag_later i within
    exact codable.later _ low high

end Found

/-- Coefficients of a block of samples have codes. -/
theorem fdctQuantize_codable {src : Nat → Int} {qtable : Nat → Nat}
    (samples : ∀ index < 64, IsSample (src index))
    (quantisers : ∀ index < 64, 1 ≤ qtable index ∧ qtable index ≤ 255) :
    Codable (fdctQuantize src (precomputeDctQtable qtable)) where
  first := first_coefficient_range samples quantisers
  later _ low high := later_coefficient_range samples quantisers low high

theorem valueCall_fits {value : Int} (small : value.natAbs < 2 ^ 16) : (valueCall value).Fits :=
  ⟨(valueBits_spec small).1, (valueBits_spec small).2.1⟩

/-- What is given to `t6_jpeg_put_bits` for a lookup has at most 16 bits and fits its size. -/
theorem Lookup.Found.fits {dcBits dcVals acBits acVals : List Nat} (dcComplete : Complete dcBits dcVals)
    (acComplete : Complete acBits acVals) {lookup : Lookup}
    (found : lookup.Found (buildHuff dcBits dcVals) (buildHuff acBits acVals)) :
    ∀ call ∈ lookup.calls (buildHuff dcBits dcVals) (buildHuff acBits acVals), call.Fits := by
  intro call member
  cases found with
  | dc small size code =>
    rcases List.mem_cons.mp member with rfl | member
    · exact call_fits dcComplete code
    · obtain rfl := List.mem_singleton.mp member
      exact valueCall_fits small
  | ac small run size code =>
    rcases List.mem_cons.mp member with rfl | member
    · exact call_fits acComplete code
    · obtain rfl := List.mem_singleton.mp member
      exact valueCall_fits small
  | zeros code =>
    obtain rfl := List.mem_singleton.mp member
    exact call_fits acComplete code
  | ending code =>
    obtain rfl := List.mem_singleton.mp member
    exact call_fits acComplete code

end Trigger6.Codec
