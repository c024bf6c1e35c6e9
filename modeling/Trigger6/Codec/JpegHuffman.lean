/-
This file embeds the Huffman tables of the JPEG encoder, and how it splits a
value into its size category and the bits that tell it from the others of that
category. The tables are canonical codes: a word of the table is read back as
its symbol with the numbers of words of each length and the symbols alone.
-/

import Mathlib.Data.Nat.Size
import Mathlib.Logic.Function.Basic
import Trigger6.Codec.JpegBits
import Trigger6.Lib.CanonicalCode

namespace Trigger6.Codec

open BitString CanonicalCode

/-! ### Tables -/

def dcLumaBits : List Nat := [
  0, 0, 1, 5, 1, 1, 1, 1, 1, 1, 0, 0, 0, 0, 0, 0, 0]

def dcLumaVals : List Nat := [
  0, 1, 2, 3, 4, 5, 6, 7, 8, 9, 10, 11]

def acLumaBits : List Nat := [
  0, 0, 2, 1, 3, 3, 2, 4, 3, 5, 5, 4, 4, 0, 0, 1, 125]

def acLumaVals : List Nat := [
  0x01, 0x02, 0x03, 0x00, 0x04, 0x11, 0x05, 0x12,
  0x21, 0x31, 0x41, 0x06, 0x13, 0x51, 0x61, 0x07,
  0x22, 0x71, 0x14, 0x32, 0x81, 0x91, 0xa1, 0x08,
  0x23, 0x42, 0xb1, 0xc1, 0x15, 0x52, 0xd1, 0xf0,
  0x24, 0x33, 0x62, 0x72, 0x82, 0x09, 0x0a, 0x16,
  0x17, 0x18, 0x19, 0x1a, 0x25, 0x26, 0x27, 0x28,
  0x29, 0x2a, 0x34, 0x35, 0x36, 0x37, 0x38, 0x39,
  0x3a, 0x43, 0x44, 0x45, 0x46, 0x47, 0x48, 0x49,
  0x4a, 0x53, 0x54, 0x55, 0x56, 0x57, 0x58, 0x59,
  0x5a, 0x63, 0x64, 0x65, 0x66, 0x67, 0x68, 0x69,
  0x6a, 0x73, 0x74, 0x75, 0x76, 0x77, 0x78, 0x79,
  0x7a, 0x83, 0x84, 0x85, 0x86, 0x87, 0x88, 0x89,
  0x8a, 0x92, 0x93, 0x94, 0x95, 0x96, 0x97, 0x98,
  0x99, 0x9a, 0xa2, 0xa3, 0xa4, 0xa5, 0xa6, 0xa7,
  0xa8, 0xa9, 0xaa, 0xb2, 0xb3, 0xb4, 0xb5, 0xb6,
  0xb7, 0xb8, 0xb9, 0xba, 0xc2, 0xc3, 0xc4, 0xc5,
  0xc6, 0xc7, 0xc8, 0xc9, 0xca, 0xd2, 0xd3, 0xd4,
  0xd5, 0xd6, 0xd7, 0xd8, 0xd9, 0xda, 0xe1, 0xe2,
  0xe3, 0xe4, 0xe5, 0xe6, 0xe7, 0xe8, 0xe9, 0xea,
  0xf1, 0xf2, 0xf3, 0xf4, 0xf5, 0xf6, 0xf7, 0xf8,
  0xf9, 0xfa]

def dcChromaBits : List Nat := [
  0, 0, 3, 1, 1, 1, 1, 1, 1, 1, 1, 1, 0, 0, 0, 0, 0]

def dcChromaVals : List Nat := [
  0, 1, 2, 3, 4, 5, 6, 7, 8, 9, 10, 11]

def acChromaBits : List Nat := [
  0, 0, 2, 1, 2, 4, 4, 3, 4, 7, 5, 4, 4, 0, 1, 2, 119]

def acChromaVals : List Nat := [
  0x00, 0x01, 0x02, 0x03, 0x11, 0x04, 0x05, 0x21,
  0x31, 0x06, 0x12, 0x41, 0x51, 0x07, 0x61, 0x71,
  0x13, 0x22, 0x32, 0x81, 0x08, 0x14, 0x42, 0x91,
  0xa1, 0xb1, 0xc1, 0x09, 0x23, 0x33, 0x52, 0xf0,
  0x15, 0x62, 0x72, 0xd1, 0x0a, 0x16, 0x24, 0x34,
  0xe1, 0x25, 0xf1, 0x17, 0x18, 0x19, 0x1a, 0x26,
  0x27, 0x28, 0x29, 0x2a, 0x35, 0x36, 0x37, 0x38,
  0x39, 0x3a, 0x43, 0x44, 0x45, 0x46, 0x47, 0x48,
  0x49, 0x4a, 0x53, 0x54, 0x55, 0x56, 0x57, 0x58,
  0x59, 0x5a, 0x63, 0x64, 0x65, 0x66, 0x67, 0x68,
  0x69, 0x6a, 0x73, 0x74, 0x75, 0x76, 0x77, 0x78,
  0x79, 0x7a, 0x82, 0x83, 0x84, 0x85, 0x86, 0x87,
  0x88, 0x89, 0x8a, 0x92, 0x93, 0x94, 0x95, 0x96,
  0x97, 0x98, 0x99, 0x9a, 0xa2, 0xa3, 0xa4, 0xa5,
  0xa6, 0xa7, 0xa8, 0xa9, 0xaa, 0xb2, 0xb3, 0xb4,
  0xb5, 0xb6, 0xb7, 0xb8, 0xb9, 0xba, 0xc2, 0xc3,
  0xc4, 0xc5, 0xc6, 0xc7, 0xc8, 0xc9, 0xca, 0xd2,
  0xd3, 0xd4, 0xd5, 0xd6, 0xd7, 0xd8, 0xd9, 0xda,
  0xe2, 0xe3, 0xe4, 0xe5, 0xe6, 0xe7, 0xe8, 0xe9,
  0xea, 0xf2, 0xf3, 0xf4, 0xf5, 0xf6, 0xf7, 0xf8,
  0xf9, 0xfa]

/-- `t6_jpeg_huff_table`. -/
structure HuffTable where
  codes : Nat → BitVec 16
  sizes : Nat → Nat

def HuffTable.zero : HuffTable where
  codes _ := 0
  sizes _ := 0

def HuffTable.set (table : HuffTable) (sym : Nat) (code : BitVec 16) (len : Nat) : HuffTable where
  codes := Function.update table.codes sym code
  sizes := Function.update table.sizes sym len

/-- The variables of `t6_jpeg_build_huff`: the table, the next code and the values not yet used. -/
structure HuffBuild where
  table : HuffTable
  code : BitVec 16
  vals : List Nat

/-- The inner loop of `t6_jpeg_build_huff`. -/
def buildLevel (len : Nat) : (count : Nat) → HuffBuild → HuffBuild
  | 0, build => build
  | count + 1, build =>
    match build.vals with
    | [] => build
    | sym :: vals =>
      buildLevel len count
        { table := build.table.set sym build.code len, code := build.code + 1, vals }

/-- Its outer loop, over the numbers of codes of each length. -/
def buildLevels : (bits : List Nat) → (len : Nat) → HuffBuild → HuffBuild
  | [], _, build => build
  | count :: bits, len, build =>
    let built := buildLevel len count build
    buildLevels bits (len + 1) { built with code := built.code <<< 1 }

/-- `t6_jpeg_build_huff`; the number of codes of length zero is not used. -/
def buildHuff (bits vals : List Nat) : HuffTable :=
  (buildLevels bits.tail 1 { table := .zero, code := 0, vals }).table

def dcLumaTable : HuffTable := buildHuff dcLumaBits dcLumaVals

def acLumaTable : HuffTable := buildHuff acLumaBits acLumaVals

def dcChromaTable : HuffTable := buildHuff dcChromaBits dcChromaVals

def acChromaTable : HuffTable := buildHuff acChromaBits acChromaVals

/-! ### The words of a table -/

/-- Every code of a table is one of some words. -/
def HuffTable.Spells (table : HuffTable) (known : List (Word Nat)) : Prop :=
  ∀ sym, table.sizes sym ≠ 0 → ∃ word ∈ known,
    word.symbol = sym ∧ word.size = table.sizes sym ∧ table.codes sym = BitVec.ofNat 16 word.code

theorem zero_spells (known : List (Word Nat)) : HuffTable.zero.Spells known :=
  fun _ nonzero => absurd rfl nonzero

theorem HuffTable.Spells.mono {table : HuffTable} {known more : List (Word Nat)}
    (spells : table.Spells known) (included : known ⊆ more) : table.Spells more := by
  intro sym nonzero
  obtain ⟨word, member, rest⟩ := spells sym nonzero
  exact ⟨word, included member, rest⟩

theorem HuffTable.Spells.set {table : HuffTable} {known : List (Word Nat)}
    (spells : table.Spells known) (word : Word Nat) :
    (table.set word.symbol (BitVec.ofNat 16 word.code) word.size).Spells (word :: known) := by
  intro sym nonzero
  by_cases same : sym = word.symbol
  · subst same
    refine ⟨word, List.mem_cons_self, rfl, ?_, Function.update_self ..⟩
    exact (Function.update_self word.symbol word.size table.sizes).symm
  · have sizes : (table.set word.symbol (BitVec.ofNat 16 word.code) word.size).sizes sym =
        table.sizes sym := Function.update_of_ne same _ _
    have codes : (table.set word.symbol (BitVec.ofNat 16 word.code) word.size).codes sym =
        table.codes sym := Function.update_of_ne same _ _
    rw [sizes] at nonzero ⊢
    rw [codes]
    obtain ⟨found, member, rest⟩ := spells sym nonzero
    exact ⟨found, List.mem_cons_of_mem _ member, rest⟩

/-- What one length of codes does to the variables. -/
theorem buildLevel_spells {len count code : Nat} (build : HuffBuild) {known : List (Word Nat)}
    (next : build.code = BitVec.ofNat 16 code) (spells : build.table.Spells known) :
    (buildLevel len count build).code =
        BitVec.ofNat 16 (code + (build.vals.take count).length) ∧
      (buildLevel len count build).vals = build.vals.drop count ∧
      (buildLevel len count build).table.Spells (level code len (build.vals.take count) ++ known) := by
  induction count generalizing build code known with
  | zero =>
    rw [List.take_zero, List.drop_zero]
    exact ⟨next, rfl, spells⟩
  | succ count inductionHypothesis =>
    obtain ⟨table, number, vals⟩ := build
    cases vals with
    | nil => exact ⟨next, rfl, spells⟩
    | cons sym vals =>
      subst next
      have more : BitVec.ofNat 16 code + 1 = BitVec.ofNat 16 (code + 1) :=
        BitVec.ofNat_add_ofNat code 1
      obtain ⟨codes, left, spelt⟩ := inductionHypothesis
        { table := table.set sym (BitVec.ofNat 16 code) len, code := BitVec.ofNat 16 code + 1, vals }
        more (spells.set ⟨sym, code, len⟩)
      refine ⟨codes.trans ?_, left, spelt.mono ?_⟩
      · rw [List.take_succ_cons, List.length_cons, Nat.succ_add_eq_add_succ]
      · intro word member
        rcases List.mem_append.mp member with later | first
        · exact List.mem_append_left _ (List.mem_cons_of_mem _ later)
        · rcases List.mem_cons.mp first with rfl | before
          · exact List.mem_append_left _ List.mem_cons_self
          · exact List.mem_append_right _ before

/-- The table of `t6_jpeg_build_huff` holds the words of the canonical code. -/
theorem buildLevels_spells {bits : List Nat} {len base : Nat} (build : HuffBuild)
    {known : List (Word Nat)} (next : build.code = BitVec.ofNat 16 (2 * base))
    (spells : build.table.Spells known) :
    (buildLevels bits len build).table.Spells (words bits base len build.vals ++ known) := by
  induction bits generalizing len base build known with
  | nil => exact spells
  | cons count bits inductionHypothesis =>
    obtain ⟨codes, left, spelt⟩ := @buildLevel_spells len count _ build _ next spells
    have doubled : (buildLevel len count build).code <<< 1 =
        BitVec.ofNat 16 (2 * (2 * base + (build.vals.take count).length)) := by
      rw [codes]
      refine BitVec.eq_of_toNat_eq ?_
      rw [BitVec.toNat_shiftLeft, BitVec.toNat_ofNat, BitVec.toNat_ofNat]
      omega
    have rest := @inductionHypothesis (len + 1) _
      { buildLevel len count build with code := (buildLevel len count build).code <<< 1 } _ doubled
      spelt
    refine HuffTable.Spells.mono rest ?_
    intro word member
    rw [show (buildLevel len count build).vals = build.vals.drop count from left] at member
    rw [words]
    simp only [List.mem_append] at member ⊢
    obtain later | here | before := member
    · exact .inl (.inr later)
    · exact .inl (.inl here)
    · exact .inr before

theorem buildHuff_spells (bits vals : List Nat) :
    (buildHuff bits vals).Spells (words bits.tail 0 1 vals) := by
  have built := @buildLevels_spells bits.tail 1 0 { table := .zero, code := 0, vals } _ rfl
    (zero_spells [])
  rwa [List.append_nil] at built

/-- No word of a code is longer than 16 bits or wider than its length. -/
def Complete (bits vals : List Nat) : Prop :=
  ∀ word ∈ words bits.tail 0 1 vals, word.size ≤ 16 ∧ word.code < 2 ^ word.size

/-- The code of a symbol, as it is given to `t6_jpeg_put_bits`. -/
def HuffTable.call (table : HuffTable) (sym : Nat) : Call := ⟨table.codes sym, table.sizes sym⟩

section Complete

variable {bits vals : List Nat} (complete : Complete bits vals) {sym : Nat}
  (coded : (buildHuff bits vals).sizes sym ≠ 0)

include complete coded

theorem call_fits : ((buildHuff bits vals).call sym).Fits := by
  obtain ⟨word, member, -, size, code⟩ := buildHuff_spells bits vals sym coded
  obtain ⟨short, small⟩ := complete word member
  have wide : word.code < 2 ^ 16 := Nat.lt_of_lt_of_le small (Nat.pow_le_pow_right (by decide) short)
  refine ⟨Nat.le_trans (Nat.le_of_eq size.symm) short, ?_⟩
  show ((buildHuff bits vals).codes sym).toNat < 2 ^ (buildHuff bits vals).sizes sym
  rw [code, BitVec.toNat_ofNat, Nat.mod_eq_of_lt wide, ← size]
  exact small

/-- The numbers of codes and the values are enough to read a symbol back. -/
theorem decode_call (rest : List Bool) :
    decode bits.tail vals 0 (((buildHuff bits vals).call sym).bits ++ rest) = some (sym, rest) := by
  obtain ⟨word, member, symbol, size, code⟩ := buildHuff_spells bits vals sym coded
  obtain ⟨short, small⟩ := complete word member
  have wide : word.code < 2 ^ 16 := Nat.lt_of_lt_of_le small (Nat.pow_le_pow_right (by decide) short)
  have same : ((buildHuff bits vals).call sym).bits = ofNat word.size word.code := by
    show ofNat ((buildHuff bits vals).sizes sym) ((buildHuff bits vals).codes sym).toNat = _
    rw [code, BitVec.toNat_ofNat, Nat.mod_eq_of_lt wide, ← size]
  rw [same, decode_word member small, symbol]

end Complete

/-! ### The four tables -/

theorem dcLuma_complete : Complete dcLumaBits dcLumaVals := by
  unfold Complete
  decide

theorem acLuma_complete : Complete acLumaBits acLumaVals := by
  unfold Complete
  decide +kernel

theorem dcChroma_complete : Complete dcChromaBits dcChromaVals := by
  unfold Complete
  decide

theorem acChroma_complete : Complete acChromaBits acChromaVals := by
  unfold Complete
  decide +kernel

/-- The symbol of a run of zeros and the category of the coefficient after it. -/
def runSize (zeroRun size : Nat) : Nat := zeroRun <<< 4 ||| size

/-- The categories and runs that have a code. -/
structure Coded (dcTable acTable : HuffTable) : Prop where
  dc : ∀ size ≤ 11, dcTable.sizes size ≠ 0
  ac : ∀ zeroRun < 16, ∀ size ≤ 10, 1 ≤ size → acTable.sizes (runSize zeroRun size) ≠ 0
  zeroRuns : acTable.sizes 0xf0 ≠ 0
  ending : acTable.sizes 0x00 ≠ 0

theorem luma_coded : Coded dcLumaTable acLumaTable where
  dc := by decide
  ac := by decide +kernel
  zeroRuns := by decide
  ending := by decide

theorem chroma_coded : Coded dcChromaTable acChromaTable where
  dc := by decide
  ac := by decide +kernel
  zeroRuns := by decide
  ending := by decide

end Trigger6.Codec
