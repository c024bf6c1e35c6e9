/-
This file proves that the decoder recovers from the bytes of the encoder exactly
the coefficients the encoder quantised, block by block, with the size and the
quantisers. A symbol and a value are read back first, then runs of coefficients,
a block, all blocks with their first coefficients as differences, the bytes of
the scan, and the segments before it.
-/

import Trigger6.Codec.JpegDecode

namespace Trigger6.Codec

open BitString BoundedOutput CanonicalCode

/-! ### One block -/

/-- The bits of some lookups. -/
def lookupBits (dcTable acTable : HuffTable) (lookups : List Lookup) : List Bool :=
  (lookups.flatMap (Lookup.calls dcTable acTable)).flatMap Call.bits

theorem lookupBits_append (dcTable acTable : HuffTable) (first second : List Lookup) :
    lookupBits dcTable acTable (first ++ second) =
      lookupBits dcTable acTable first ++ lookupBits dcTable acTable second := by
  rw [lookupBits, List.flatMap_append, List.flatMap_append]
  rfl

theorem receive_value {value : Int} (small : value.natAbs < 2 ^ 16) (rest : List Bool) :
    receive (valueBits value).1 ((valueCall value).bits ++ rest) = some (value, rest) := by
  obtain ⟨-, fits, extends_⟩ := valueBits_spec small
  have length : (valueCall value).bits.length = (valueBits value).1 := length_ofNat _ _
  rw [receive, if_neg (by rw [List.length_append, length]; omega), List.take_left' length,
    List.drop_left' length]
  have same : toNat (valueCall value).bits = (valueBits value).2.toNat := toNat_ofNat_of_lt fits
  rw [same, extends_]

theorem runSize_eq {zeroRun size : Nat} (small : size < 16) :
    runSize zeroRun size = zeroRun * 16 + size := by
  rw [runSize, ← Nat.shiftLeft_add_eq_or_of_lt (show size < 2 ^ 4 from small), Nat.shiftLeft_eq]

/-- The tables as they are sent. -/
def sentTable (bits vals : List Nat) : SentTable := ⟨bits.tail, vals⟩

theorem symbol_call {bits vals : List Nat} (complete : Complete bits vals) {sym : Nat}
    (coded : (buildHuff bits vals).sizes sym ≠ 0) (rest : List Bool) :
    (sentTable bits vals).symbol (((buildHuff bits vals).call sym).bits ++ rest) = some (sym, rest) :=
  decode_call complete coded rest

/-- Reading the other coefficients begins with a symbol. -/
theorem decodeAc_symbol {table : SentTable} {bound remaining symbol : Nat} {bits rest : List Bool}
    (more : remaining ≠ 0) (read : table.symbol bits = some (symbol, rest)) :
    decodeAc table (bound + 1) remaining bits =
      if symbol % 16 = 0 then
        if symbol / 16 = 15 then
          if remaining < 16 then none
          else (decodeAc table bound (remaining - 16) rest).map fun (coeffs, left) =>
            (List.replicate 16 0 ++ coeffs, left)
        else some (List.replicate remaining 0, rest)
      else if remaining < symbol / 16 + 1 then none
      else (receive (symbol % 16) rest).bind fun (coeff, left) =>
        (decodeAc table bound (remaining - (symbol / 16 + 1)) left).map fun (coeffs, last) =>
          (List.replicate (symbol / 16) 0 ++ coeff :: coeffs, last) := by
  cases remaining with
  | zero => exact absurd rfl more
  | succ remaining =>
    rw [decodeAc, read]
    · simp only [Option.map_eq_bind]
      rfl
    · exact more

section Block

variable {dcBits dcVals acBits acVals : List Nat} (dcComplete : Complete dcBits dcVals)
  (acComplete : Complete acBits acVals)
  (coded : Coded (buildHuff dcBits dcVals) (buildHuff acBits acVals))

include acComplete coded

theorem decodeAc_zeros (count bound remaining : Nat) (bits : List Bool) :
    decodeAc (sentTable acBits acVals) (bound + count) (16 * count + remaining)
        (lookupBits (buildHuff dcBits dcVals) (buildHuff acBits acVals)
          (List.replicate count .zeros) ++ bits) =
      (decodeAc (sentTable acBits acVals) bound remaining bits).map fun (coeffs, left) =>
        (List.replicate (16 * count) 0 ++ coeffs, left) := by
  induction count with
  | zero =>
    rw [Nat.mul_zero, Nat.zero_add]
    show decodeAc (sentTable acBits acVals) bound remaining bits = _
    cases decodeAc (sentTable acBits acVals) bound remaining bits <;> rfl
  | succ count inductionHypothesis =>
    have first : lookupBits (buildHuff dcBits dcVals) (buildHuff acBits acVals)
        (List.replicate (count + 1) .zeros) ++ bits =
          ((buildHuff acBits acVals).call 0xf0).bits ++
            (lookupBits (buildHuff dcBits dcVals) (buildHuff acBits acVals)
              (List.replicate count .zeros) ++ bits) := by
      rw [List.replicate_succ, ← List.append_assoc]
      rfl
    rw [← Nat.add_assoc, first, decodeAc_symbol (by omega) (symbol_call acComplete coded.zeroRuns _),
      if_pos (by decide), if_pos (by decide), if_neg (by omega),
      show 16 * (count + 1) + remaining - 16 = 16 * count + remaining by omega, inductionHypothesis,
      Option.map_map]
    refine congrArg (Option.map · _) (funext fun (coeffs, left) => ?_)
    show (List.replicate 16 0 ++ (List.replicate (16 * count) 0 ++ coeffs), left) = _
    rw [← List.append_assoc, List.replicate_append_replicate, Nat.mul_succ, Nat.add_comm 16]

/-- The runs and values of a block give back its other coefficients. -/
theorem decodeAc_lookups {coeffs : List Int} {zeroRun bound : Nat}
    (enough : zeroRun + coeffs.length ≤ bound)
    (found : ∀ lookup ∈ acLookups coeffs zeroRun,
      lookup.Found (buildHuff dcBits dcVals) (buildHuff acBits acVals)) (rest : List Bool) :
    decodeAc (sentTable acBits acVals) bound (zeroRun + coeffs.length)
        (lookupBits (buildHuff dcBits dcVals) (buildHuff acBits acVals) (acLookups coeffs zeroRun) ++
          rest) =
      some (List.replicate zeroRun 0 ++ coeffs, rest) := by
  induction coeffs generalizing zeroRun bound with
  | nil =>
    cases zeroRun with
    | zero => cases bound <;> rfl
    | succ zeroRun =>
      obtain ⟨bound, rfl⟩ : ∃ more, bound = more + 1 := Nat.exists_eq_add_of_le' (by omega)
      have first : lookupBits (buildHuff dcBits dcVals) (buildHuff acBits acVals)
          (acLookups [] (zeroRun + 1)) ++ rest = ((buildHuff acBits acVals).call 0x00).bits ++ rest := by
        rw [acLookups, lookupBits, List.flatMap_singleton, Lookup.calls, List.flatMap_singleton]
      rw [first, decodeAc_symbol (by omega) (symbol_call acComplete coded.ending _),
        if_pos (by decide), if_neg (by decide), List.append_nil]
      rfl
  | cons coeff coeffs inductionHypothesis =>
    rw [List.length_cons] at enough ⊢
    by_cases zero : coeff = 0
    · subst zero
      rw [acLookups, if_pos rfl] at found ⊢
      have read := @inductionHypothesis (zeroRun + 1) bound (by omega) found
      rw [Nat.add_right_comm, List.replicate_succ', List.append_assoc] at read
      exact read
    · rw [acLookups, if_neg zero] at found ⊢
      obtain ⟨more, rfl⟩ : ∃ more, bound = more + 1 + zeroRun / 16 :=
        ⟨bound - 1 - zeroRun / 16, by omega⟩
      have total : zeroRun + (coeffs.length + 1) =
          16 * (zeroRun / 16) + (zeroRun % 16 + 1 + coeffs.length) := by omega
      have rests : ∀ lookup ∈ acLookups coeffs 0,
          lookup.Found (buildHuff dcBits dcVals) (buildHuff acBits acVals) := fun lookup member =>
        found lookup (List.mem_append_right _ (List.mem_cons_of_mem _ member))
      have here := found (.ac (zeroRun % 16) coeff) (List.mem_append_right _ List.mem_cons_self)
      cases here with
      | ac small run size code =>
        have symbol : runSize (zeroRun % 16) (valueBits coeff).1 =
            zeroRun % 16 * 16 + (valueBits coeff).1 := runSize_eq (by omega)
        have split : lookupBits (buildHuff dcBits dcVals) (buildHuff acBits acVals)
            (.ac (zeroRun % 16) coeff :: acLookups coeffs 0) ++ rest =
              ((buildHuff acBits acVals).call (runSize (zeroRun % 16) (valueBits coeff).1)).bits ++
                ((valueCall coeff).bits ++ (lookupBits (buildHuff dcBits dcVals)
                  (buildHuff acBits acVals) (acLookups coeffs 0) ++ rest)) := by
          rw [lookupBits, List.flatMap_cons, List.flatMap_append, Lookup.calls, List.flatMap_cons,
            List.flatMap_singleton, List.append_assoc, List.append_assoc]
          rfl
        have later := @inductionHypothesis 0 more (by omega) rests
        rw [Nat.zero_add] at later
        rw [total, lookupBits_append, List.append_assoc, decodeAc_zeros acComplete coded, split,
          decodeAc_symbol (by omega) (symbol_call acComplete code _),
          show runSize (zeroRun % 16) (valueBits coeff).1 % 16 = (valueBits coeff).1 by omega,
          show runSize (zeroRun % 16) (valueBits coeff).1 / 16 = zeroRun % 16 by omega,
          if_neg (by omega), if_neg (by omega), receive_value small, Option.bind_some,
          Nat.add_sub_cancel_left]
        show Option.map _ (Option.map _ (decodeAc _ _ _ (lookupBits _ _ _ ++ rest))) = _
        rw [later]
        show some (List.replicate (16 * (zeroRun / 16)) 0 ++
          (List.replicate (zeroRun % 16) 0 ++ coeff :: coeffs), rest) = _
        rw [← List.append_assoc, List.replicate_append_replicate, Nat.div_add_mod]

end Block

theorem zigzag_diagonal : zigzagOrder = diagonalOrder := by decide

theorem zigzag_indices : zigzagOrder = 0 :: acIndices.map zigzag := by decide

theorem diagonal_complete : ∀ index < 64, index ∈ diagonalOrder := by decide

/-- Coefficients in the order of the zigzag, put back in rows. -/
theorem rowOrder_zigzag (coeffs : Nat → Int) :
    rowOrder (coeffs 0 :: acCoeffs coeffs acIndices) = (List.range 64).map coeffs := by
  have sent : coeffs 0 :: acCoeffs coeffs acIndices = diagonalOrder.map coeffs := by
    rw [← zigzag_diagonal, zigzag_indices, List.map_cons, List.map_map]
    rfl
  rw [sent, rowOrder]
  refine List.map_congr_left fun index member => ?_
  have place := List.getElem?_idxOf (diagonal_complete index (List.mem_range.mp member))
  rw [List.getD_eq_getElem?_getD, List.getElem?_map, place]
  rfl

/-- A block is read back as its coefficients. -/
theorem decodeBlock_lookups {dcBits dcVals acBits acVals : List Nat}
    (dcComplete : Complete dcBits dcVals) (acComplete : Complete acBits acVals)
    (coded : Coded (buildHuff dcBits dcVals) (buildHuff acBits acVals)) {coeffs : Nat → Int}
    {prevDc : Int} (found : ∀ lookup ∈ blockLookups coeffs prevDc,
      lookup.Found (buildHuff dcBits dcVals) (buildHuff acBits acVals)) (rest : List Bool) :
    decodeBlock (sentTable dcBits dcVals) (sentTable acBits acVals) prevDc
        (lookupBits (buildHuff dcBits dcVals) (buildHuff acBits acVals) (blockLookups coeffs prevDc) ++
          rest) =
      some ((List.range 64).map coeffs, rest) := by
  have first := found _ List.mem_cons_self
  have later := fun lookup member => found lookup (List.mem_cons_of_mem _ member)
  have count : 0 + (acCoeffs coeffs acIndices).length = 63 := by
    rw [Nat.zero_add, acCoeffs, List.length_map]
    rfl
  cases first with
  | dc small size code =>
    have split : lookupBits (buildHuff dcBits dcVals) (buildHuff acBits acVals)
        (blockLookups coeffs prevDc) ++ rest =
          ((buildHuff dcBits dcVals).call (valueBits (coeffs 0 - prevDc)).1).bits ++
            ((valueCall (coeffs 0 - prevDc)).bits ++ (lookupBits (buildHuff dcBits dcVals)
              (buildHuff acBits acVals) (acLookups (acCoeffs coeffs acIndices) 0) ++ rest)) := by
      rw [blockLookups, lookupBits, List.flatMap_cons, List.flatMap_append, Lookup.calls,
        List.flatMap_cons, List.flatMap_singleton, List.append_assoc, List.append_assoc]
      rfl
    have others := decodeAc_lookups acComplete coded (Nat.le_of_eq count) later rest
    rw [count] at others
    rw [split, decodeBlock, symbol_call dcComplete code]
    show (receive _ _).bind _ = _
    rw [receive_value small]
    show (decodeAc _ 63 63 _).bind _ = _
    rw [others, ← rowOrder_zigzag coeffs]
    show some (rowOrder ((prevDc + (coeffs 0 - prevDc)) :: _), rest) = _
    rw [add_sub_cancel, List.replicate_zero, List.nil_append]

/-! ### All blocks -/

/-- The numbers of the components. -/
def Component.id : Component → Nat
  | y => 1
  | cb => 2
  | cr => 3

/-- The tables of a component, as they are sent. -/
def Component.part : Component → ScanPart
  | y => ⟨1, sentTable dcLumaBits dcLumaVals, sentTable acLumaBits acLumaVals⟩
  | cb => ⟨2, sentTable dcChromaBits dcChromaVals, sentTable acChromaBits acChromaVals⟩
  | cr => ⟨3, sentTable dcChromaBits dcChromaVals, sentTable acChromaBits acChromaVals⟩

theorem component_id_injective : Function.Injective Component.id := by
  intro first second same
  cases first <;> cases second <;> first | rfl | cases same

theorem component_part_id (component : Component) : component.part.id = component.id := by
  cases component <;> rfl

/-- A block as it is decoded: the number of its component, and 64 coefficients. -/
def decodedBlock (block : Component × (Nat → Int)) : Nat × List Int :=
  (block.1.id, (List.range 64).map block.2)

theorem decodeBlock_component (component : Component) {coeffs : Nat → Int} {prevDc : Int}
    (found : ∀ lookup ∈ blockLookups coeffs prevDc, LookupFound (component, lookup))
    (rest : List Bool) :
    decodeBlock component.part.dc component.part.ac prevDc
        ((blockCalls component.dcTable component.acTable coeffs prevDc).flatMap Call.bits ++ rest) =
      some ((List.range 64).map coeffs, rest) := by
  cases component with
  | y => exact decodeBlock_lookups dcLuma_complete acLuma_complete luma_coded found rest
  | cb => exact decodeBlock_lookups dcChroma_complete acChroma_complete chroma_coded found rest
  | cr => exact decodeBlock_lookups dcChroma_complete acChroma_complete chroma_coded found rest

/-- All blocks are read back, with the first coefficients as differences. -/
theorem decodeBlocks_calls {blocks : List (Component × (Nat → Int))} {prev : Component → Int}
    {pred : Nat → Int} (same : ∀ component, pred (Component.id component) = prev component)
    (found : ∀ lookup ∈ blocksLookups blocks prev, LookupFound lookup) (rest : List Bool) :
    decodeBlocks (blocks.map fun block => block.1.part) pred
        ((blocksCalls blocks prev).flatMap Call.bits ++ rest) =
      some (blocks.map decodedBlock, rest) := by
  induction blocks generalizing prev pred with
  | nil => rfl
  | cons block blocks inductionHypothesis =>
    obtain ⟨component, coeffs⟩ := block
    have here : ∀ lookup ∈ blockLookups coeffs (prev component), LookupFound (component, lookup) :=
      fun lookup member => found _ (List.mem_append_left _ (List.mem_map_of_mem member))
    have next : ∀ other, Function.update pred component.id (coeffs 0) (Component.id other) =
        Function.update prev component (coeffs 0) other := by
      intro other
      by_cases equal : other = component
      · subst equal
        rw [Function.update_self, Function.update_self]
      · rw [Function.update_of_ne equal,
          Function.update_of_ne fun ids => equal (component_id_injective ids), same]
    have later := inductionHypothesis next fun lookup member =>
      found lookup (List.mem_append_right _ member)
    rw [blocksCalls_cons, List.flatMap_append, List.append_assoc, List.map_cons, decodeBlocks,
      component_part_id, same, decodeBlock_component component here]
    show (decodeBlocks _ (Function.update pred component.id (coeffs 0)) _).bind _ = _
    rw [later]
    rfl

/-! ### The bytes of the scan -/

theorem scanData_other {byte : UInt8} (other : byte ≠ 0xff) (rest : List UInt8) :
    scanData (byte :: rest) = (scanData rest).map fun (data, trailer) => (byte :: data, trailer) := by
  rw [scanData]
  intro next others equal
  exact absurd equal other

/-- The scan ends at the first marker, and its bytes are those before they were escaped. -/
theorem scanData_stuffed (bytes : List UInt8) {marker : UInt8} (different : marker ≠ 0x00)
    (rest : List UInt8) :
    scanData (stuffed bytes ++ 0xff :: marker :: rest) = some (bytes, 0xff :: marker :: rest) := by
  induction bytes with
  | nil => exact if_neg different
  | cons byte bytes inductionHypothesis =>
    rw [stuffed, stuff_cons]
    split
    · next marked =>
      subst marked
      show (if (0x00 : UInt8) = 0x00 then
        (scanData (stuffed bytes ++ 0xff :: marker :: rest)).map _ else _) = _
      rw [if_pos rfl, inductionHypothesis]
      rfl
    · next plain =>
      show scanData (byte :: (stuffed bytes ++ _)) = _
      rw [scanData_other plain, inductionHypothesis]
      rfl

/-! ### Segments -/

theorem readBe16_be16 (value : BitVec 16) (rest : List UInt8) :
    readBe16 (be16 value ++ rest) = some (value.toNat, rest) := by
  have small := value.isLt
  have high : (UInt8.ofNat (value >>> 8).toNat).toNat = value.toNat / 256 := by
    rw [BitVec.toNat_ushiftRight, Nat.shiftRight_eq_div_pow]
    exact UInt8.toNat_ofNat_of_lt' (by show _ < 256; omega)
  have low : (UInt8.ofNat (value &&& 0xff).toNat).toNat = value.toNat % 256 := by
    rw [BitVec.toNat_and, show (0xff : BitVec 16).toNat = 2 ^ 8 - 1 from rfl,
      Nat.and_two_pow_sub_one_eq_mod]
    exact UInt8.toNat_ofNat_of_lt' (Nat.mod_lt _ (by decide))
  show some (_ * 256 + _, rest) = _
  rw [high, low, Nat.div_add_mod']

/-- A segment is read back, since its length is correct. -/
theorem readSegment_segment (marker : UInt8) {payload : List UInt8} (short : payload.length + 2 < 2 ^ 16)
    (rest : List UInt8) :
    readSegment (segment marker payload ++ rest) = some (marker, payload, rest) := by
  have length : (BitVec.ofNat 16 (payload.length + 2)).toNat = payload.length + 2 := by
    rw [BitVec.toNat_ofNat, Nat.mod_eq_of_lt short]
  have bytes : segment marker payload ++ rest =
      0xff :: marker :: (be16 (BitVec.ofNat 16 (payload.length + 2)) ++ (payload ++ rest)) := by
    rw [segment, List.append_assoc, List.append_assoc]
    rfl
  rw [bytes, readSegment, readBe16_be16, length]
  show (if payload.length + 2 < 2 ∨ (payload ++ rest).length < payload.length then none
    else some (marker, (payload ++ rest).take payload.length, (payload ++ rest).drop payload.length)) = _
  rw [if_neg (by rw [List.length_append]; omega), List.take_left, List.drop_left]

theorem readHeader_segment {marker : UInt8} {payload : List UInt8} {known next : Known} {bound : Nat}
    (short : payload.length + 2 < 2 ^ 16) (early : marker ≠ 0xda)
    (tables : readTables marker payload known = some next) (rest : List UInt8) :
    readHeader (bound + 1) (segment marker payload ++ rest) known = readHeader bound rest next := by
  rw [readHeader, readSegment_segment marker short]
  show (if marker = 0xda then _ else (readTables marker payload known).bind _) = _
  rw [if_neg early, tables]
  rfl

/-- The quantisers as they are sent. -/
def sentQuantisers (quantisers : Nat → Nat) : List Nat :=
  (List.range 64).map fun i => quantisers (zigzag i)

theorem toNat_ofNat_map {values : List Nat} (small : ∀ value ∈ values, value < 256) :
    (values.map UInt8.ofNat).map UInt8.toNat = values := by
  rw [List.map_map]
  refine (List.map_congr_left fun value member => ?_).trans (List.map_id values)
  exact UInt8.toNat_ofNat_of_lt' (small value member)

theorem readTables_quant {id : UInt8} (eight : id.toNat < 16) {quantisers : Nat → Nat}
    (small : ∀ index, quantisers index ≤ 255) (known : Known) :
    readTables 0xdb (quantPayload id quantisers) known = some { known with
      quant := Function.update known.quant id.toNat (some (sentQuantisers quantisers)) } := by
  have length : ((List.range 64).map fun i => UInt8.ofNat (quantisers (zigzag i))).length = 64 := by
    rw [List.length_map, List.length_range]
  have values : (((List.range 64).map fun i => UInt8.ofNat (quantisers (zigzag i))).map UInt8.toNat) =
      sentQuantisers quantisers := by
    rw [List.map_map]
    exact List.map_congr_left fun i _ =>
      UInt8.toNat_ofNat_of_lt' (Nat.lt_succ_of_le (small (zigzag i)))
  rw [readTables, if_pos rfl, quantPayload, List.length_cons, length, readQuants,
    if_neg (by rw [length]; omega), List.take_of_length_le (Nat.le_of_eq length),
    List.drop_of_length_le (Nat.le_of_eq length), values, Nat.mod_eq_of_lt eight]
  rfl

/-- A Huffman table whose numbers are bytes, and which has as many values as codes. -/
structure Sendable (bits vals : List Nat) : Prop where
  lengths : bits.tail.length = 16
  counts : ∀ count ∈ bits.tail, count < 256
  values : ∀ value ∈ vals, value < 256
  total : bits.tail.sum = vals.length
  few : vals.length < 256

theorem readHuffs_nil (bound : Nat) (known : Known) : readHuffs bound [] known = some known := by
  cases bound <;> rfl

theorem readHuffs_huffPayload {id : UInt8} {bits vals : List Nat} (sendable : Sendable bits vals)
    (known : Known) (bound : Nat) :
    readHuffs (bound + 1) (huffPayload id bits vals) known =
      if id.toNat / 16 = 0 then some { known with
        dc := Function.update known.dc (id.toNat % 16) (some (sentTable bits vals)) }
      else if id.toNat / 16 = 1 then some { known with
        ac := Function.update known.ac (id.toNat % 16) (some (sentTable bits vals)) }
      else none := by
  have length : (bits.tail.map UInt8.ofNat).length = 16 := by
    rw [List.length_map, sendable.lengths]
  have total : (bits.tail.map UInt8.ofNat ++ vals.map UInt8.ofNat).length = 16 + bits.tail.sum := by
    rw [List.length_append, length, List.length_map, sendable.total]
  have whole : (vals.map UInt8.ofNat).take bits.tail.sum = vals.map UInt8.ofNat :=
    List.take_of_length_le (by rw [List.length_map, sendable.total])
  rw [huffPayload, readHuffs, List.take_left' length, List.drop_left' length,
    toNat_ofNat_map sendable.counts, if_neg (by rw [total]; omega), whole,
    toNat_ofNat_map sendable.values, List.drop_of_length_le (Nat.le_of_eq total)]
  simp only [readHuffs_nil]
  rfl

theorem readTables_huff {id : UInt8} {bits vals : List Nat} (sendable : Sendable bits vals)
    (known : Known) : readTables 0xc4 (huffPayload id bits vals) known =
      if id.toNat / 16 = 0 then some { known with
        dc := Function.update known.dc (id.toNat % 16) (some (sentTable bits vals)) }
      else if id.toNat / 16 = 1 then some { known with
        ac := Function.update known.ac (id.toNat % 16) (some (sentTable bits vals)) }
      else none := by
  rw [readTables, if_neg (by decide), if_pos rfl]
  exact readHuffs_huffPayload sendable known _

theorem dcLuma_sendable : Sendable dcLumaBits dcLumaVals := by
  constructor <;> decide

theorem acLuma_sendable : Sendable acLumaBits acLumaVals := by
  constructor <;> decide +kernel

theorem dcChroma_sendable : Sendable dcChromaBits dcChromaVals := by
  constructor <;> decide

theorem acChroma_sendable : Sendable acChromaBits acChromaVals := by
  constructor <;> decide +kernel

/-- The frame header of the encoder: luma has twice the resolution of chroma in both directions. -/
def sentFrame (width height : Nat) : Frame where
  height := height
  width := width
  components := [⟨1, 2, 2, 0⟩, ⟨2, 1, 1, 1⟩, ⟨3, 1, 1, 1⟩]

theorem readFrame_framePayload {width height : Nat} (wide : width < 2 ^ 16) (high : height < 2 ^ 16) :
    readFrame (framePayload width height) = some (sentFrame width height) := by
  rw [framePayload, readFrame, List.append_assoc, readBe16_be16]
  simp only [Option.bind_eq_bind, Option.bind_some, readBe16_be16, BitVec.toNat_ofNat,
    Nat.mod_eq_of_lt wide, Nat.mod_eq_of_lt high]
  rfl

/-- What is known after the segments of the encoder. -/
def sentKnown (width height : Nat) (qLuma qChroma : Nat → Nat) : Known where
  quant := Function.update (Function.update (fun _ => none) 0 (some (sentQuantisers qLuma))) 1
    (some (sentQuantisers qChroma))
  dc := Function.update (Function.update (fun _ => none) 0 (some (sentTable dcLumaBits dcLumaVals))) 1
    (some (sentTable dcChromaBits dcChromaVals))
  ac := Function.update (Function.update (fun _ => none) 0 (some (sentTable acLumaBits acLumaVals))) 1
    (some (sentTable acChromaBits acChromaVals))
  frame := some (sentFrame width height)

theorem huffPayload_short {id : UInt8} {bits vals : List Nat} (sendable : Sendable bits vals) :
    (huffPayload id bits vals).length + 2 < 2 ^ 16 := by
  have few := sendable.few
  rw [huffPayload, List.length_cons, List.length_append, List.length_map, List.length_map,
    sendable.lengths]
  omega

section Header

variable {width height : Nat} (wide : width < 2 ^ 16) (high : height < 2 ^ 16)
  {qLuma qChroma : Nat → Nat} (luma : ∀ index, qLuma index ≤ 255) (chroma : ∀ index, qChroma index ≤ 255)

include wide high luma chroma

/-- All segments are read back. -/
theorem readHeader_headerBytes : ∃ bytes,
    headerBytes width height qLuma qChroma = 0xff :: 0xd8 :: bytes ∧ 10 ≤ bytes.length ∧
      ∀ bound rest, readHeader (bound + 10) (bytes ++ rest) .nothing =
        some (sentKnown width height qLuma qChroma, scanPayload, rest) := by
  refine ⟨segment 0xe0 app0Payload ++
    segment 0xdb (quantPayload 0x00 qLuma) ++ segment 0xdb (quantPayload 0x01 qChroma) ++
    segment 0xc0 (framePayload width height) ++
    segment 0xc4 (huffPayload 0x00 dcLumaBits dcLumaVals) ++
    segment 0xc4 (huffPayload 0x10 acLumaBits acLumaVals) ++
    segment 0xc4 (huffPayload 0x01 dcChromaBits dcChromaVals) ++
    segment 0xc4 (huffPayload 0x11 acChromaBits acChromaVals) ++
    segment 0xda scanPayload, ?_, ?_, fun bound rest => ?_⟩
  · rw [headerBytes]
    simp only [List.append_assoc, List.cons_append, List.nil_append]
  · have scan : (segment 0xda scanPayload).length = 14 := rfl
    rw [List.length_append, scan]
    omega
  · have quantLength : ∀ (id : UInt8) (quantisers : Nat → Nat),
        (quantPayload id quantisers).length + 2 < 2 ^ 16 := fun id quantisers => by
      rw [quantPayload, List.length_cons, List.length_map, List.length_range]
      decide
    have frameLength : (framePayload width height).length + 2 < 2 ^ 16 := show 15 + 2 < 2 ^ 16 by decide
    have frame : ∀ known : Known, readTables 0xc0 (framePayload width height) known =
        some { known with frame := some (sentFrame width height) } := fun known => by
      rw [readTables, if_neg (by decide), if_neg (by decide), if_pos rfl,
        readFrame_framePayload wide high]
      rfl
    have app0 : ∀ known : Known, readTables 0xe0 app0Payload known = some known := fun _ => rfl
    simp only [List.append_assoc]
    rw [readHeader_segment (by decide) (by decide) (app0 _),
      readHeader_segment (quantLength _ _) (by decide) (readTables_quant (by decide) luma _),
      readHeader_segment (quantLength _ _) (by decide) (readTables_quant (by decide) chroma _),
      readHeader_segment frameLength (by decide) (frame _),
      readHeader_segment (huffPayload_short dcLuma_sendable) (by decide)
        ((readTables_huff dcLuma_sendable _).trans (if_pos (by decide))),
      readHeader_segment (huffPayload_short acLuma_sendable) (by decide)
        ((readTables_huff acLuma_sendable _).trans ((if_neg (by decide)).trans (if_pos (by decide)))),
      readHeader_segment (huffPayload_short dcChroma_sendable) (by decide)
        ((readTables_huff dcChroma_sendable _).trans (if_pos (by decide))),
      readHeader_segment (huffPayload_short acChroma_sendable) (by decide)
        ((readTables_huff acChroma_sendable _).trans ((if_neg (by decide)).trans (if_pos (by decide)))),
      readHeader, readSegment_segment _ (by decide)]
    rfl

end Header

/-! ### The scan -/

/-- The components of the scan header, with what the segments say about them. -/
def sentLayout (qLuma qChroma : Nat → Nat) : List Layout := [
  ⟨Component.y.part, 2, 2, sentQuantisers qLuma⟩,
  ⟨Component.cb.part, 1, 1, sentQuantisers qChroma⟩,
  ⟨Component.cr.part, 1, 1, sentQuantisers qChroma⟩]

theorem readScan_scanPayload (width height : Nat) (qLuma qChroma : Nat → Nat) :
    readScan (sentKnown width height qLuma qChroma) (sentFrame width height) scanPayload =
      some (sentLayout qLuma qChroma) := rfl

/-- The order of the blocks of a unit. -/
def unitParts : List ScanPart :=
  [.y, .y, .y, .y, .cb, .cr].map Component.part

theorem units_eq {size : Nat} (small : size < 2 ^ 16) : units size 2 = divRoundUp16 size := by
  rw [units, divRoundUp16, u32_of_lt (by omega)]
  omega

theorem length_mcus (image : Image) :
    (mcus image).length = divRoundUp16 image.width * divRoundUp16 image.height := by
  rw [mcus, List.length_flatMap]
  simp only [List.length_map, List.length_range, List.map_const', List.sum_replicate_nat]
  exact Nat.mul_comm _ _

/-- The decoder expects the blocks of the encoder, in its order. -/
theorem scanBlocks_parts (image : Image) (quality : Nat) :
    (scanBlocks image quality).map (fun block => block.1.part) =
      (List.replicate (mcus image).length unitParts).flatten := by
  rw [scanBlocks, List.map_flatMap, List.flatMap_def]
  have unit : ∀ mcu ∈ mcus image,
      (mcuBlocks image quality mcu).map (fun block => block.1.part) = unitParts := fun _ _ => rfl
  rw [List.map_congr_left unit, List.map_const']

/-! ### Edge-replicated blocks -/

/-- The samples of a luma block with an origin in the extended frame. -/
def lumaSamples (image : Image) (x y index : Nat) : Int :=
  (image.extended (x + index % 8) (y + index / 8)).luma

/-- The samples of chroma blocks with an origin in the averages of the extended frame. -/
def blueSamples (image : Image) (x y index : Nat) : Int :=
  (image.extendedAverage (x + index % 8) (y + index / 8)).chromaBlue

def redSamples (image : Image) (x y index : Nat) : Int :=
  (image.extendedAverage (x + index % 8) (y + index / 8)).chromaRed

/-- The quantised blocks of a unit of the extended frame. -/
def edgeBlocks (image : Image) (quality : Nat) (mcu : Nat × Nat) : List (Component × (Nat → Int)) :=
  [(.y, coefficients quality .y (lumaSamples image (mcu.1 * 16) (mcu.2 * 16))),
    (.y, coefficients quality .y (lumaSamples image (mcu.1 * 16 + 8) (mcu.2 * 16))),
    (.y, coefficients quality .y (lumaSamples image (mcu.1 * 16) (mcu.2 * 16 + 8))),
    (.y, coefficients quality .y (lumaSamples image (mcu.1 * 16 + 8) (mcu.2 * 16 + 8))),
    (.cb, coefficients quality .cb (blueSamples image (mcu.1 * 8) (mcu.2 * 8))),
    (.cr, coefficients quality .cr (redSamples image (mcu.1 * 8) (mcu.2 * 8)))]

theorem coefficients_congr (quality : Nat) (component : Component) {first second : Nat → Int}
    (same : ∀ index < 64, first index = second index) :
    coefficients quality component first = coefficients quality component second :=
  funext fun index => fdctQuantize_congr same _ index

theorem mcu_origin {image : Image} (sound : image.Sound) {mcu : Nat × Nat} (member : mcu ∈ mcus image)
    {dx dy : Nat} (half : (dx = 0 ∨ dx = 8) ∧ (dy = 0 ∨ dy = 8)) :
    image.Origin mcu.1 mcu.2 dx dy := by
  obtain ⟨wide, high, -⟩ := sound.geometry
  obtain ⟨mcuY, down, member⟩ := List.mem_flatMap.mp member
  obtain ⟨mcuX, right, rfl⟩ := List.mem_map.mp member
  rw [List.mem_range, divRoundUp16, u32_of_lt (by omega)] at down right
  exact ⟨right, down, half⟩

theorem mcuBlocks_edge {image : Image} (sound : image.Sound) (quality : Nat) {mcu : Nat × Nat}
    (member : mcu ∈ mcus image) : mcuBlocks image quality mcu = edgeBlocks image quality mcu := by
  have luma : ∀ dx dy : Nat, (dx = 0 ∨ dx = 8) ∧ (dy = 0 ∨ dy = 8) →
      coefficients quality .y (loadYBlock image (u32 (mcu.1 * 16 + dx)) (u32 (mcu.2 * 16 + dy))) =
        coefficients quality .y (lumaSamples image (mcu.1 * 16 + dx) (mcu.2 * 16 + dy)) :=
    fun dx dy half => coefficients_congr quality _ fun index within =>
      loadYBlock_extended sound (mcu_origin sound member half) within
  have average := fun index (within : index < 64) =>
    chromaSums_average sound (mcu_origin sound member ⟨.inl rfl, .inl rfl⟩) within
  have blue := coefficients_congr quality .cb fun index within =>
    congrArg Colour.chromaBlue (average index within)
  have red := coefficients_congr quality .cr fun index within =>
    congrArg Colour.chromaRed (average index within)
  have first := luma 0 0 ⟨.inl rfl, .inl rfl⟩
  have second := luma 8 0 ⟨.inr rfl, .inl rfl⟩
  have third := luma 0 8 ⟨.inl rfl, .inr rfl⟩
  have fourth := luma 8 8 ⟨.inr rfl, .inr rfl⟩
  simp only [Nat.add_zero] at first second third
  rw [mcuBlocks, edgeBlocks, first, second, third, fourth]
  exact congrArg _ (congrArg _ (congrArg _ (congrArg _
    (congrArg₂ (fun blue red => [(Component.cb, blue), (Component.cr, red)]) blue red))))

theorem scanBlocks_edge {image : Image} (sound : image.Sound) (quality : Nat) :
    scanBlocks image quality = (mcus image).flatMap (edgeBlocks image quality) :=
  List.flatMap_congr fun _ member => mcuBlocks_edge sound quality member

/-! ### The round trip -/

theorem padding_ones (bits : List Bool) : (padding bits).length < 8 ∧ (padding bits).all id := by
  rw [padding, List.length_replicate]
  refine ⟨Nat.mod_lt _ (by decide), List.all_eq_true.mpr fun bit member => ?_⟩
  exact List.eq_of_mem_replicate member

theorem decodeJpeg_imageBytes {image : Image} {quality : Nat} (wide : image.width < 2 ^ 16)
    (high : image.height < 2 ^ 16) {scan : List UInt8}
    (spelt : ofBytes scan = scanBits image quality ++ padding (scanBits image quality)) :
    decodeJpeg (imageBytes image quality scan) = some {
      width := image.width
      height := image.height
      quantisers := [(1, sentQuantisers (buildQtable qtLuma quality)),
        (2, sentQuantisers (buildQtable qtChroma quality)),
        (3, sentQuantisers (buildQtable qtChroma quality))]
      blocks := (scanBlocks image quality).map decodedBlock } := by
  obtain ⟨bytes, header, enough, read⟩ := readHeader_headerBytes wide high
    (fun index => (buildQtable_range qtLuma quality index).2)
    (fun index => (buildQtable_range qtChroma quality index).2)
  have split : imageBytes image quality scan =
      0xff :: 0xd8 :: (bytes ++ (stuffed scan ++ [0xff, 0xd9])) := by
    rw [imageBytes, header]
    rfl
  obtain ⟨bound, length⟩ : ∃ bound, (bytes ++ (stuffed scan ++ [0xff, 0xd9])).length = bound + 10 :=
    Nat.exists_eq_add_of_le' (by rw [List.length_append]; omega)
  have count : units image.width 2 * units image.height 2 = (mcus image).length := by
    rw [length_mcus, units_eq wide, units_eq high]
  have blocks := @decodeBlocks_calls (scanBlocks image quality) (fun _ => 0) (fun _ => 0) (fun _ => rfl)
    (scanLookups_found image quality) (padding (scanBits image quality))
  obtain ⟨few, ones⟩ := padding_ones (scanBits image quality)
  have frame : (sentKnown image.width image.height (buildQtable qtLuma quality)
      (buildQtable qtChroma quality)).frame = some (sentFrame image.width image.height) := rfl
  rw [split, decodeJpeg, length, read]
  simp only [Option.bind_eq_bind, Option.bind_some, frame, readScan_scanPayload,
    scanData_stuffed scan (show (0xd9 : UInt8) ≠ 0x00 by decide)]
  show (decodeBlocks (List.replicate (units image.width 2 * units image.height 2) unitParts).flatten
    (fun _ => 0) (ofBytes scan)).bind _ = _
  rw [count, ← scanBlocks_parts image quality, spelt]
  refine (congrArg (Option.bind · _) blocks).trans ?_
  rw [Option.bind_some, if_pos ⟨trivial, few, ones⟩]
  rfl

/-- For every frame whose size the frame header can hold, the encoder writes to a destination that
is large enough the start of the image, the segments with their lengths, a scan in which every
0xff is followed by a zero byte, and the end of the image. From these bytes the decoder recovers
the size, the quantisers, and unit by unit the coefficients of the four luma blocks and the two
chroma blocks of the frame, extended by its last row and column. -/
theorem round_trip (src : Nat → UInt8) {width height stride : Nat}
    (nonempty : 1 ≤ width ∧ 1 ≤ height) (readable : width ≤ 65535 ∧ height ≤ 65535)
    (rows : 4 * width ≤ stride) (small : stride * height < 2 ^ 32) (quality : Nat) :
    ∃ scan bytes : List UInt8,
      bytes = headerBytes width height (buildQtable qtLuma quality) (buildQtable qtChroma quality) ++
          (stuffed scan ++ [0xff, 0xd9]) ∧
        Escaped 0xff 0x00 (stuffed scan) ∧
        (∀ (memory : Nat → UInt8) (dstSize : Nat), bytes.length ≤ dstSize → ∃ after,
          encodeXrgb8888 (some src) width height stride quality (some memory) dstSize true =
              (Int.bmod bytes.length (2 ^ 32), some after) ∧
            ∀ place (within : place < bytes.length), after place = bytes[place]) ∧
        decodeJpeg bytes = some {
          width := width
          height := height
          quantisers := [(1, sentQuantisers (buildQtable qtLuma quality)),
            (2, sentQuantisers (buildQtable qtChroma quality)),
            (3, sentQuantisers (buildQtable qtChroma quality))]
          blocks := ((mcus { src, width, height, stride }).flatMap
            (edgeBlocks { src, width, height, stride } quality)).map decodedBlock } := by
  have sound : Image.Sound { src, width, height, stride } :=
    ⟨nonempty.1, nonempty.2, rows, small⟩
  obtain ⟨scan, final, yields, spelt⟩ := yields_encodeImage { src, width, height, stride } quality
  have decoded := @decodeJpeg_imageBytes { src, width, height, stride } quality
    (Nat.lt_succ_of_le readable.1) (Nat.lt_succ_of_le readable.2) scan spelt
  rw [scanBlocks_edge sound] at decoded
  refine ⟨scan, _, rfl, escaped_stuff (by decide) scan, fun memory dstSize room => ?_, decoded⟩
  obtain ⟨after, returned, placed, -⟩ := encodeXrgb8888_fits nonempty rows yields memory room
  exact ⟨after, returned, placed⟩

/-- Two pixels, one above the other, in the lowest quality. -/
theorem round_trip_two : ∃ scan : List UInt8,
    (decodeJpeg (headerBytes 1 2 (buildQtable qtLuma 1) (buildQtable qtChroma 1) ++
      (stuffed scan ++ [0xff, 0xd9]))).map Decoded.blocks =
        some (((mcus { src := fun place => UInt8.ofNat place, width := 1, height := 2, stride := 4 }).flatMap
          (edgeBlocks { src := fun place => UInt8.ofNat place, width := 1, height := 2, stride := 4 }
            1)).map decodedBlock) := by
  obtain ⟨scan, bytes, rfl, -, -, decoded⟩ := round_trip (fun place => UInt8.ofNat place)
    (show 1 ≤ 1 ∧ 1 ≤ 2 by decide) (show 1 ≤ 65535 ∧ 2 ≤ 65535 by decide) (show 4 * 1 ≤ 4 by decide)
    (show 4 * 2 < 2 ^ 32 by decide) 1
  exact ⟨scan, by rw [decoded]; rfl⟩

end Trigger6.Codec
