/-
This file embeds the JPEG encoder: the headers, the loops over units of sixteen
by sixteen pixels with four luma and two chroma blocks each, and the function
that writes all of it to a destination of some size.

The main theorems say that the encoder finds a code for everything it looks up,
and that its bytes do not depend on the destination: where they fit they are
returned, and where they do not, the first ones are written and nothing else.
-/

import Trigger6.Codec.JpegBlocks
import Trigger6.Codec.JpegEntropy

namespace Trigger6.Codec

open BitString BoundedOutput

/-! ### Components -/

/-- `T6_JPEG_COMPONENTS`: luma and the two chroma components. -/
inductive Component
  | y
  | cb
  | cr
  deriving DecidableEq

namespace Component

def dcTable : Component → HuffTable
  | y => dcLumaTable
  | cb => dcChromaTable
  | cr => dcChromaTable

def acTable : Component → HuffTable
  | y => acLumaTable
  | cb => acChromaTable
  | cr => acChromaTable

/-- The quantisers of a component, `q_luma` or `q_chroma`. -/
def quantisers (quality : Nat) : Component → Nat → Nat
  | y => buildQtable qtLuma quality
  | cb => buildQtable qtChroma quality
  | cr => buildQtable qtChroma quality

theorem coded (component : Component) : Coded component.dcTable component.acTable := by
  cases component with
  | y => exact luma_coded
  | cb => exact chroma_coded
  | cr => exact chroma_coded

theorem quantisers_range (component : Component) (quality index : Nat) :
    1 ≤ component.quantisers quality index ∧ component.quantisers quality index ≤ 255 := by
  cases component with
  | y => exact buildQtable_range _ _ _
  | cb => exact buildQtable_range _ _ _
  | cr => exact buildQtable_range _ _ _

end Component

/-- The quantised coefficients of a block. -/
def coefficients (quality : Nat) (component : Component) (block : Nat → Int) : Nat → Int :=
  fdctQuantize block (precomputeDctQtable (component.quantisers quality))

/-! ### Headers -/

/-- One quantisation table, in the order of the zigzag. -/
def putQuantTable (id : UInt8) (quantisers : Nat → Nat) : JpegWriter Unit := do
  putMarker 0xdb
  putBe16 67
  putByte id
  (List.range 64).forM fun i => putByte (UInt8.ofNat (quantisers (zigzag i)))

/-- One Huffman table: the numbers of codes of each length from one on, and the values. -/
def putHuffTable (length : BitVec 16) (id : UInt8) (bits vals : List Nat) : JpegWriter Unit := do
  putMarker 0xc4
  putBe16 length
  putByte id
  bits.tail.forM fun count => putByte (UInt8.ofNat count)
  vals.forM fun value => putByte (UInt8.ofNat value)

/-- `t6_jpeg_write_headers`. -/
def writeHeaders (width height : Nat) (qLuma qChroma : Nat → Nat) : JpegWriter Unit := do
  putMarker 0xd8
  putMarker 0xe0; putBe16 16
  putByte 0x4a; putByte 0x46; putByte 0x49; putByte 0x46
  putByte 0x00; putBe16 0x0101; putByte 0x00; putBe16 1
  putBe16 1; putByte 0x00; putByte 0x00
  putQuantTable 0x00 qLuma
  putQuantTable 0x01 qChroma
  putMarker 0xc0; putBe16 17; putByte 8
  putBe16 (BitVec.ofNat 16 height); putBe16 (BitVec.ofNat 16 width)
  putByte 3
  putByte 1; putByte 0x22; putByte 0x00
  putByte 2; putByte 0x11; putByte 0x01
  putByte 3; putByte 0x11; putByte 0x01
  putHuffTable 31 0x00 dcLumaBits dcLumaVals
  putHuffTable 181 0x10 acLumaBits acLumaVals
  putHuffTable 31 0x01 dcChromaBits dcChromaVals
  putHuffTable 181 0x11 acChromaBits acChromaVals
  putMarker 0xda; putBe16 12
  putByte 3
  putByte 1; putByte 0x00
  putByte 2; putByte 0x11
  putByte 3; putByte 0x11
  putByte 0x00; putByte 0x3f; putByte 0x00

/-! ### The scan -/

/-- Encodes one block of a component; `prev` holds the three `prev_dc` variables. -/
def encodeComponent (quality : Nat) (component : Component) (block : Nat → Int)
    (prev : Component → Int) : JpegWriter (Component → Int) := do
  let dc ← encodeBlock block (precomputeDctQtable (component.quantisers quality)) component.dcTable
    component.acTable (prev component)
  return Function.update prev component dc

/-- The body of the loops: four luma blocks and two chroma blocks. -/
def encodeMcu (image : Image) (quality mcuX mcuY : Nat) (prev : Component → Int) :
    JpegWriter (Component → Int) := do
  let prev ← encodeComponent quality .y (loadYBlock image (u32 (mcuX * 16)) (u32 (mcuY * 16))) prev
  let prev ← encodeComponent quality .y
    (loadYBlock image (u32 (mcuX * 16 + 8)) (u32 (mcuY * 16))) prev
  let prev ← encodeComponent quality .y
    (loadYBlock image (u32 (mcuX * 16)) (u32 (mcuY * 16 + 8))) prev
  let prev ← encodeComponent quality .y
    (loadYBlock image (u32 (mcuX * 16 + 8)) (u32 (mcuY * 16 + 8))) prev
  let prev ← encodeComponent quality .cb
    (loadCbBlock image (u32 (mcuX * 16)) (u32 (mcuY * 16))) prev
  encodeComponent quality .cr (loadCrBlock image (u32 (mcuX * 16)) (u32 (mcuY * 16))) prev

/-- `DIV_ROUND_UP` by 16, of an unsigned integer. -/
def divRoundUp16 (value : Nat) : Nat := u32 (value + 15) / 16

def encodeScan (image : Image) (quality : Nat) : JpegWriter (Component → Int) :=
  (List.range (divRoundUp16 image.height)).foldlM (fun prev mcuY =>
    (List.range (divRoundUp16 image.width)).foldlM (fun prev mcuX =>
      encodeMcu image quality mcuX mcuY prev) prev) fun _ => 0

/-- All that is written. -/
def encodeImage (image : Image) (quality : Nat) : JpegWriter Unit := do
  writeHeaders image.width image.height (buildQtable qtLuma quality) (buildQtable qtChroma quality)
  let _ ← encodeScan image quality
  flushBits
  putMarker 0xd9

/-- `t6_jpeg_encode_xrgb8888`, with the result and the memory behind `dst`. `allocated` tells
whether both tables could be allocated. -/
def encodeXrgb8888 (src : Option (Nat → UInt8)) (width height stride quality : Nat)
    (dst : Option (Nat → UInt8)) (dstSize : Nat) (allocated : Bool) : Int × Option (Nat → UInt8) :=
  match src, dst with
  | some src, some memory =>
    -- `-EINVAL`, `-ENOMEM` and `-E2BIG`
    if width = 0 ∨ height = 0 ∨ stride < u32 (width * 4) then (-22, some memory)
    else if ¬allocated then (-12, some memory)
    else
      let sink : Sink := { memory, size := dstSize, pos := 0, overflow := false }
      match (encodeImage { src, width, height, stride } quality).exec .empty sink with
      | (some (), _, after) =>
        (if after.overflow then -7 else Int.bmod after.pos (2 ^ 32), some after.memory)
      | (none, _, after) => (-7, some after.memory)
  | _, dst => (-22, dst)

/-! ### What is looked up -/

/-- The blocks of a unit, in the order in which they are encoded. -/
def mcuBlocks (image : Image) (quality : Nat) (mcu : Nat × Nat) : List (Component × (Nat → Int)) :=
  [(.y, coefficients quality .y (loadYBlock image (u32 (mcu.1 * 16)) (u32 (mcu.2 * 16)))),
    (.y, coefficients quality .y (loadYBlock image (u32 (mcu.1 * 16 + 8)) (u32 (mcu.2 * 16)))),
    (.y, coefficients quality .y (loadYBlock image (u32 (mcu.1 * 16)) (u32 (mcu.2 * 16 + 8)))),
    (.y, coefficients quality .y (loadYBlock image (u32 (mcu.1 * 16 + 8)) (u32 (mcu.2 * 16 + 8)))),
    (.cb, coefficients quality .cb (loadCbBlock image (u32 (mcu.1 * 16)) (u32 (mcu.2 * 16)))),
    (.cr, coefficients quality .cr (loadCrBlock image (u32 (mcu.1 * 16)) (u32 (mcu.2 * 16))))]

/-- The units of a frame, row by row. -/
def mcus (image : Image) : List (Nat × Nat) :=
  (List.range (divRoundUp16 image.height)).flatMap fun mcuY =>
    (List.range (divRoundUp16 image.width)).map fun mcuX => (mcuX, mcuY)

/-- All blocks of a frame. -/
def scanBlocks (image : Image) (quality : Nat) : List (Component × (Nat → Int)) :=
  (mcus image).flatMap (mcuBlocks image quality)

/-- The `prev_dc` variables after some blocks. -/
def lastDc (blocks : List (Component × (Nat → Int))) (prev : Component → Int) : Component → Int :=
  blocks.foldl (fun prev block => Function.update prev block.1 (block.2 0)) prev

/-- What is looked up for some blocks, each with its component. -/
def blocksLookups : (blocks : List (Component × (Nat → Int))) → (prev : Component → Int) →
    List (Component × Lookup)
  | [], _ => []
  | (component, coeffs) :: blocks, prev =>
    (blockLookups coeffs (prev component)).map (fun lookup => (component, lookup)) ++
      blocksLookups blocks (Function.update prev component (coeffs 0))

/-- The calls of `t6_jpeg_put_bits` for a lookup. -/
def lookupCalls (lookup : Component × Lookup) : List Call :=
  lookup.2.calls lookup.1.dcTable lookup.1.acTable

def blocksCalls (blocks : List (Component × (Nat → Int))) (prev : Component → Int) : List Call :=
  (blocksLookups blocks prev).flatMap lookupCalls

def scanLookups (image : Image) (quality : Nat) : List (Component × Lookup) :=
  blocksLookups (scanBlocks image quality) fun _ => 0

def scanCalls (image : Image) (quality : Nat) : List Call :=
  (scanLookups image quality).flatMap lookupCalls

theorem blocksCalls_cons (component : Component) (coeffs : Nat → Int)
    (blocks : List (Component × (Nat → Int))) (prev : Component → Int) :
    blocksCalls ((component, coeffs) :: blocks) prev =
      blockCalls component.dcTable component.acTable coeffs (prev component) ++
        blocksCalls blocks (Function.update prev component (coeffs 0)) := by
  rw [blocksCalls, blocksLookups, List.flatMap_append, List.flatMap_map]
  rfl

theorem blocksCalls_append (first second : List (Component × (Nat → Int))) (prev : Component → Int) :
    blocksCalls (first ++ second) prev =
      blocksCalls first prev ++ blocksCalls second (lastDc first prev) := by
  induction first generalizing prev with
  | nil => rfl
  | cons block first inductionHypothesis =>
    obtain ⟨component, coeffs⟩ := block
    rw [List.cons_append, blocksCalls_cons, inductionHypothesis, blocksCalls_cons, List.append_assoc]
    rfl

theorem lastDc_append (first second : List (Component × (Nat → Int))) (prev : Component → Int) :
    lastDc (first ++ second) prev = lastDc second (lastDc first prev) := List.foldl_append

/-- A writer that carries the `prev_dc` variables writes the codes of some blocks. -/
def Encodes (writer : (Component → Int) → JpegWriter (Component → Int))
    (blocks : List (Component × (Nat → Int))) : Prop :=
  ∀ prev, writer prev = putCalls (blocksCalls blocks prev) >>= fun _ => pure (lastDc blocks prev)

theorem encodes_nil : Encodes pure [] := fun _ => rfl

theorem Encodes.bind {first second : (Component → Int) → JpegWriter (Component → Int)}
    {blocks more : List (Component × (Nat → Int))} (before : Encodes first blocks)
    (after : Encodes second more) : Encodes (fun prev => first prev >>= second) (blocks ++ more) := by
  intro prev
  show first prev >>= second = _
  rw [before prev, bind_assoc, blocksCalls_append, putCalls_append, bind_assoc, lastDc_append]
  refine congrArg _ (funext fun _ => ?_)
  rw [pure_bind, after]

theorem encodes_foldlM {α : Type} (items : List α)
    {write : (Component → Int) → α → JpegWriter (Component → Int)}
    {blocks : α → List (Component × (Nat → Int))}
    (each : ∀ item, Encodes (fun prev => write prev item) (blocks item)) :
    Encodes (fun prev => items.foldlM write prev) (items.flatMap blocks) := by
  induction items with
  | nil => exact encodes_nil
  | cons item items inductionHypothesis => exact (each item).bind inductionHypothesis

theorem encodes_component (quality : Nat) (component : Component) (block : Nat → Int) :
    Encodes (encodeComponent quality component block)
      [(component, coefficients quality component block)] := by
  intro prev
  rw [encodeComponent, encodeBlock_eq, bind_assoc, blocksCalls_cons]
  show _ = putCalls (_ ++ []) >>= _
  rw [List.append_nil]
  rfl

theorem encodes_mcu (image : Image) (quality mcuX mcuY : Nat) :
    Encodes (encodeMcu image quality mcuX mcuY) (mcuBlocks image quality (mcuX, mcuY)) :=
  (encodes_component quality .y _).bind <| (encodes_component quality .y _).bind <|
    (encodes_component quality .y _).bind <| (encodes_component quality .y _).bind <|
    (encodes_component quality .cb _).bind (encodes_component quality .cr _)

/-- The scan consists of the codes of all blocks. -/
theorem encodeScan_eq (image : Image) (quality : Nat) :
    encodeScan image quality = putCalls (scanCalls image quality) >>= fun _ =>
      pure (lastDc (scanBlocks image quality) fun _ => 0) := by
  have rows := encodes_foldlM (List.range (divRoundUp16 image.height)) fun mcuY =>
    encodes_foldlM (List.range (divRoundUp16 image.width)) fun mcuX =>
      encodes_mcu image quality mcuX mcuY
  have same : scanBlocks image quality = (List.range (divRoundUp16 image.height)).flatMap fun mcuY =>
      (List.range (divRoundUp16 image.width)).flatMap fun mcuX =>
        mcuBlocks image quality (mcuX, mcuY) := by
    rw [scanBlocks, mcus, List.flatMap_assoc]
    simp only [List.flatMap_map]
  rw [scanCalls, scanLookups, ← blocksCalls, same]
  exact rows fun _ => 0

/-! ### Every code exists -/

/-- Blocks of samples have coefficients with codes. -/
theorem coefficients_codable (quality : Nat) (component : Component) {block : Nat → Int}
    (samples : ∀ index, IsSample (block index)) : Codable (coefficients quality component block) :=
  fdctQuantize_codable (fun index _ => samples index) fun index _ =>
    component.quantisers_range quality index

theorem scanBlocks_codable (image : Image) (quality : Nat) :
    ∀ block ∈ scanBlocks image quality, Codable block.2 := by
  intro block member
  obtain ⟨mcu, -, member⟩ := List.mem_flatMap.mp member
  simp only [mcuBlocks, List.mem_cons, List.not_mem_nil, or_false] at member
  rcases member with rfl | rfl | rfl | rfl | rfl | rfl
  · exact coefficients_codable quality _ (loadYBlock_isSample image _ _)
  · exact coefficients_codable quality _ (loadYBlock_isSample image _ _)
  · exact coefficients_codable quality _ (loadYBlock_isSample image _ _)
  · exact coefficients_codable quality _ (loadYBlock_isSample image _ _)
  · exact coefficients_codable quality _ (loadCbBlock_isSample image _ _)
  · exact coefficients_codable quality _ (loadCrBlock_isSample image _ _)

/-- A lookup finds a code in the tables of its component. -/
def LookupFound (lookup : Component × Lookup) : Prop :=
  lookup.2.Found lookup.1.dcTable lookup.1.acTable

theorem blocksLookups_found {blocks : List (Component × (Nat → Int))}
    (codable : ∀ block ∈ blocks, Codable block.2) {prev : Component → Int}
    (before : ∀ component, -1024 ≤ prev component ∧ prev component ≤ 1016) :
    ∀ lookup ∈ blocksLookups blocks prev, LookupFound lookup := by
  induction blocks generalizing prev with
  | nil => exact fun lookup member => by cases member
  | cons block blocks inductionHypothesis =>
    obtain ⟨component, coeffs⟩ := block
    have head : Codable coeffs := codable _ List.mem_cons_self
    intro lookup member
    rcases List.mem_append.mp member with first | later
    · obtain ⟨found, within, rfl⟩ := List.mem_map.mp first
      exact blockLookups_found component.coded head (before component) found within
    · refine inductionHypothesis (fun other within => codable other (List.mem_cons_of_mem _ within))
        (fun other => ?_) lookup later
      by_cases same : other = component
      · subst same
        rw [Function.update_self]
        exact head.first
      · rw [Function.update_of_ne same]
        exact before other

theorem lookupCalls_fit {lookup : Component × Lookup} (found : LookupFound lookup) :
    ∀ call ∈ lookupCalls lookup, call.Fits := by
  obtain ⟨component, lookup⟩ := lookup
  cases component with
  | y => exact Lookup.Found.fits dcLuma_complete acLuma_complete found
  | cb => exact Lookup.Found.fits dcChroma_complete acChroma_complete found
  | cr => exact Lookup.Found.fits dcChroma_complete acChroma_complete found

theorem scanLookups_found (image : Image) (quality : Nat) :
    ∀ lookup ∈ scanLookups image quality, LookupFound lookup :=
  blocksLookups_found (scanBlocks_codable image quality) fun _ => by decide

theorem scanCalls_fit (image : Image) (quality : Nat) :
    ∀ call ∈ scanCalls image quality, call.Fits := by
  intro call member
  obtain ⟨lookup, within, member⟩ := List.mem_flatMap.mp member
  exact lookupCalls_fit (scanLookups_found image quality lookup within) call member

/-- For every frame and every quality, the scan is written by the codes of its lookups, each with
the bits of its value behind it. Every lookup finds a code: the categories of differences are at
most 11, those of the other coefficients at most 10, and no run is longer than 15. So each call of
`t6_jpeg_put_bits` has at most 16 bits, and no code is wider than its size. -/
theorem every_symbol_has_code (image : Image) (quality : Nat) :
    (encodeScan image quality = putCalls ((scanLookups image quality).flatMap lookupCalls) >>=
        fun _ => pure (lastDc (scanBlocks image quality) fun _ => 0)) ∧
      (∀ lookup ∈ scanLookups image quality, lookup.2.Found lookup.1.dcTable lookup.1.acTable) ∧
      ∀ lookup ∈ scanLookups image quality, ∀ call ∈ lookupCalls lookup, call.Fits :=
  ⟨encodeScan_eq image quality, scanLookups_found image quality,
    fun lookup member => lookupCalls_fit (scanLookups_found image quality lookup member)⟩

/-! ### The bytes of an image -/

/-- A number of two bytes, the high one first. -/
def be16 (value : BitVec 16) : List UInt8 :=
  [UInt8.ofNat (value >>> 8).toNat, UInt8.ofNat (value &&& 0xff).toNat]

/-- A segment: its marker, its length and what it holds. -/
def segment (marker : UInt8) (payload : List UInt8) : List UInt8 :=
  [0xff, marker] ++ be16 (BitVec.ofNat 16 (payload.length + 2)) ++ payload

/-- The payload of the segment of the file format. -/
def app0Payload : List UInt8 :=
  [0x4a, 0x46, 0x49, 0x46, 0x00, 0x01, 0x01, 0x00, 0x00, 0x01, 0x00, 0x01, 0x00, 0x00]

def quantPayload (id : UInt8) (quantisers : Nat → Nat) : List UInt8 :=
  id :: (List.range 64).map fun i => UInt8.ofNat (quantisers (zigzag i))

def huffPayload (id : UInt8) (bits vals : List Nat) : List UInt8 :=
  id :: (bits.tail.map UInt8.ofNat ++ vals.map UInt8.ofNat)

/-- The payload of the frame header: the precision, the size and the components. -/
def framePayload (width height : Nat) : List UInt8 :=
  8 :: (be16 (BitVec.ofNat 16 height) ++ be16 (BitVec.ofNat 16 width) ++
    [3, 1, 0x22, 0x00, 2, 0x11, 0x01, 3, 0x11, 0x01])

def scanPayload : List UInt8 := [3, 1, 0x00, 2, 0x11, 3, 0x11, 0x00, 0x3f, 0x00]

/-- What stands before the scan. -/
def headerBytes (width height : Nat) (qLuma qChroma : Nat → Nat) : List UInt8 :=
  [0xff, 0xd8] ++ segment 0xe0 app0Payload ++
    segment 0xdb (quantPayload 0x00 qLuma) ++ segment 0xdb (quantPayload 0x01 qChroma) ++
    segment 0xc0 (framePayload width height) ++
    segment 0xc4 (huffPayload 0x00 dcLumaBits dcLumaVals) ++
    segment 0xc4 (huffPayload 0x10 acLumaBits acLumaVals) ++
    segment 0xc4 (huffPayload 0x01 dcChromaBits dcChromaVals) ++
    segment 0xc4 (huffPayload 0x11 acChromaBits acChromaVals) ++
    segment 0xda scanPayload

section Headers

variable (ctx : BitState)

theorem yields_putMarker (marker : UInt8) : Yields (putMarker marker) ctx [0xff, marker] () ctx :=
  (yields_putByte 0xff ctx).seq (yields_putByte marker ctx)

theorem yields_putBe16 (value : BitVec 16) : Yields (putBe16 value) ctx (be16 value) () ctx :=
  (yields_putByte _ ctx).seq (yields_putByte _ ctx)

theorem yields_each {α : Type} (items : List α) (byte : α → UInt8) :
    Yields (items.forM fun item => putByte (byte item)) ctx (items.map byte) () ctx := by
  rw [List.map_eq_flatMap]
  exact yields_forM fun item _ => yields_putByte (byte item) ctx

theorem yields_putQuantTable (id : UInt8) (quantisers : Nat → Nat) :
    Yields (putQuantTable id quantisers) ctx (segment 0xdb (quantPayload id quantisers)) () ctx := by
  have length : (quantPayload id quantisers).length + 2 = 67 := by
    rw [quantPayload, List.length_cons, List.length_map, List.length_range]
  rw [segment, length, List.append_assoc]
  exact (yields_putMarker ctx _).seq <| (yields_putBe16 ctx _).seq <| (yields_putByte id ctx).seq
    (yields_each ctx _ _)

theorem yields_putHuffTable {length : BitVec 16} (id : UInt8) (bits vals : List Nat)
    (counted : length = BitVec.ofNat 16 ((huffPayload id bits vals).length + 2)) :
    Yields (putHuffTable length id bits vals) ctx (segment 0xc4 (huffPayload id bits vals)) () ctx := by
  rw [segment, ← counted, List.append_assoc]
  exact (yields_putMarker ctx _).seq <| (yields_putBe16 ctx _).seq <| (yields_putByte id ctx).seq <|
    (yields_each ctx _ _).seq (yields_each ctx _ _)

theorem yields_writeHeaders (width height : Nat) (qLuma qChroma : Nat → Nat) :
    Yields (writeHeaders width height qLuma qChroma) ctx (headerBytes width height qLuma qChroma) ()
      ctx := by
  have marker := yields_putMarker ctx
  have two := yields_putBe16 ctx
  have byte : ∀ value : UInt8, Yields (putByte value : JpegWriter Unit) ctx [value] () ctx :=
    fun value => yields_putByte value ctx
  have written := (marker 0xd8).seq <| (marker 0xe0).seq <| (two 16).seq <| (byte 0x4a).seq <|
    (byte 0x46).seq <| (byte 0x49).seq <| (byte 0x46).seq <| (byte 0x00).seq <| (two 0x0101).seq <|
    (byte 0x00).seq <| (two 1).seq <| (two 1).seq <| (byte 0x00).seq <| (byte 0x00).seq <|
    (yields_putQuantTable ctx 0x00 qLuma).seq <| (yields_putQuantTable ctx 0x01 qChroma).seq <|
    (marker 0xc0).seq <| (two 17).seq <| (byte 8).seq <| (two (BitVec.ofNat 16 height)).seq <|
    (two (BitVec.ofNat 16 width)).seq <| (byte 3).seq <| (byte 1).seq <| (byte 0x22).seq <|
    (byte 0x00).seq <| (byte 2).seq <| (byte 0x11).seq <| (byte 0x01).seq <| (byte 3).seq <|
    (byte 0x11).seq <| (byte 0x01).seq <|
    (yields_putHuffTable ctx 0x00 dcLumaBits dcLumaVals (show 31 = _ by decide)).seq <|
    (yields_putHuffTable ctx 0x10 acLumaBits acLumaVals (show 181 = _ by decide +kernel)).seq <|
    (yields_putHuffTable ctx 0x01 dcChromaBits dcChromaVals (show 31 = _ by decide)).seq <|
    (yields_putHuffTable ctx 0x11 acChromaBits acChromaVals (show 181 = _ by decide +kernel)).seq <|
    (marker 0xda).seq <| (two 12).seq <| (byte 3).seq <| (byte 1).seq <| (byte 0x00).seq <|
    (byte 2).seq <| (byte 0x11).seq <| (byte 3).seq <| (byte 0x11).seq <| (byte 0x00).seq <|
    (byte 0x3f).seq (byte 0x00)
  have app0 : segment 0xe0 app0Payload =
      [0xff, 0xe0] ++ (be16 16 ++ ([0x4a, 0x46, 0x49, 0x46, 0x00] ++ (be16 0x0101 ++ (0x00 ::
        (be16 1 ++ (be16 1 ++ [0x00, 0x00])))))) := rfl
  have frame : segment 0xc0 (framePayload width height) =
      [0xff, 0xc0] ++ (be16 17 ++ (8 :: (be16 (BitVec.ofNat 16 height) ++
        (be16 (BitVec.ofNat 16 width) ++ [3, 1, 0x22, 0x00, 2, 0x11, 0x01, 3, 0x11, 0x01])))) := rfl
  have scan : segment 0xda scanPayload =
      [0xff, 0xda] ++ (be16 12 ++ [3, 1, 0x00, 2, 0x11, 3, 0x11, 0x00, 0x3f, 0x00]) := rfl
  rw [headerBytes, app0, frame, scan]
  simp only [List.append_assoc, List.cons_append, List.nil_append] at written ⊢
  exact written

end Headers

/-- The bits of the scan. -/
def scanBits (image : Image) (quality : Nat) : List Bool :=
  (scanCalls image quality).flatMap Call.bits

/-- The bytes of an image, for the bytes its scan spells. -/
def imageBytes (image : Image) (quality : Nat) (scan : List UInt8) : List UInt8 :=
  headerBytes image.width image.height (buildQtable qtLuma quality) (buildQtable qtChroma quality) ++
    (stuffed scan ++ [0xff, 0xd9])

/-- What the encoder yields. -/
theorem yields_encodeImage (image : Image) (quality : Nat) :
    ∃ scan final, Yields (encodeImage image quality) .empty (imageBytes image quality scan) () final ∧
      ofBytes scan = scanBits image quality ++ padding (scanBits image quality) := by
  obtain ⟨bytes, rest, ctx, codes, pending, few, spelt⟩ :=
    written_putCalls (scanCalls_fit image quality) pending_empty (by decide)
  obtain ⟨last, final, flushes, padded⟩ := yields_flushBits pending few
  refine ⟨bytes ++ last, final, ?_, ?_⟩
  · have scanned : Yields (encodeScan image quality) .empty (stuffed bytes ++ [])
        (lastDc (scanBlocks image quality) fun _ => 0) ctx := by
      rw [encodeScan_eq]
      exact codes.seq (yields_pure _ ctx)
    rw [List.append_nil] at scanned
    rw [imageBytes, stuffed, stuff_append, List.append_assoc]
    exact (yields_writeHeaders .empty _ _ _ _).seq <| scanned.bind <| flushes.seq
      (yields_putMarker final 0xd9)
  · rw [List.nil_append] at spelt
    have same : padding (ofBytes bytes ++ rest) = padding rest := by
      rw [padding, padding, List.length_append, length_ofBytes, Nat.mul_add_mod]
    rw [ofBytes_append, padded, scanBits, spelt, same, List.append_assoc]

/-! ### The destination -/

/-- The destination before anything is written. -/
def destination (memory : Nat → UInt8) (dstSize : Nat) : Sink where
  memory := memory
  size := dstSize
  pos := 0
  overflow := false

/-- The checks of `t6_jpeg_encode_xrgb8888` let a frame pass whose rows hold its pixels. -/
theorem encodeXrgb8888_accepts (src : Nat → UInt8) {width height stride : Nat}
    (nonempty : 1 ≤ width ∧ 1 ≤ height) (rows : 4 * width ≤ stride) (quality : Nat)
    (memory : Nat → UInt8) (dstSize : Nat) :
    encodeXrgb8888 (some src) width height stride quality (some memory) dstSize true =
      match (encodeImage { src, width, height, stride } quality).exec .empty
          (destination memory dstSize) with
      | (some (), _, after) =>
        (if after.overflow then -7 else Int.bmod after.pos (2 ^ 32), some after.memory)
      | (none, _, after) => (-7, some after.memory) := by
  have wrapped : u32 (width * 4) ≤ width * 4 := Nat.mod_le _ _
  have passed : ¬(width = 0 ∨ height = 0 ∨ stride < u32 (width * 4)) := by omega
  exact (if_neg passed).trans (if_neg (by decide))

section Destination

variable {src : Nat → UInt8} {width height stride quality : Nat} (nonempty : 1 ≤ width ∧ 1 ≤ height)
  (rows : 4 * width ≤ stride) {bytes : List UInt8} {final : BitState}
  (yields : Yields (encodeImage { src, width, height, stride } quality) .empty bytes () final)
  (memory : Nat → UInt8) {dstSize : Nat}

include nonempty rows yields

/-- Bytes that fit are written, and nothing behind them. -/
theorem encodeXrgb8888_fits (room : bytes.length ≤ dstSize) : ∃ after,
    encodeXrgb8888 (some src) width height stride quality (some memory) dstSize true =
        (Int.bmod bytes.length (2 ^ 32), some after) ∧
      (∀ place (within : place < bytes.length), after place = bytes[place]) ∧
      ∀ place, bytes.length ≤ place → after place = memory place := by
  have position : ((destination memory dstSize).append bytes).pos = bytes.length := by
    rw [Sink.append_pos]
    exact Nat.zero_add _
  refine ⟨((destination memory dstSize).append bytes).memory, ?_, fun place within => ?_,
    fun place behind => ?_⟩
  · rw [encodeXrgb8888_accepts src nonempty rows,
      yields.fits (destination memory dstSize) (by show 0 + _ ≤ _; rwa [Nat.zero_add])]
    show (if _ then _ else _, _) = _
    rw [Sink.append_overflow, position,
      if_neg (show ¬(destination memory dstSize).overflow = true from Bool.false_ne_true)]
  · have placed := (destination memory dstSize).append_memory_add bytes within
    rwa [show (destination memory dstSize).pos + place = place from Nat.zero_add place] at placed
  · exact (destination memory dstSize).append_memory_ge bytes (by show 0 + _ ≤ _; rwa [Nat.zero_add])

/-- Of bytes that do not fit, the first are written, up to the end of the destination. -/
theorem encodeXrgb8888_full (full : dstSize < bytes.length) : ∃ after,
    encodeXrgb8888 (some src) width height stride quality (some memory) dstSize true =
        (-7, some after) ∧
      (∀ place (_ : place < dstSize) (within : place < bytes.length), after place = bytes[place]) ∧
      ∀ place, dstSize ≤ place → after place = memory place := by
  have count : (bytes.take (dstSize - 0)).length = dstSize := by
    rw [List.length_take]
    omega
  refine ⟨((destination memory dstSize).append (bytes.take (dstSize - 0))).memory, ?_,
    fun place before within => ?_, fun place beyond => ?_⟩
  · obtain ⟨last, ended⟩ := yields.full (destination memory dstSize) (Nat.zero_le _)
      (by show _ < 0 + _; rwa [Nat.zero_add])
    rw [encodeXrgb8888_accepts src nonempty rows, ended]
    rfl
  · have placed := (destination memory dstSize).append_memory_add (bytes.take (dstSize - 0))
      (show place < _ by rwa [count])
    rw [show (destination memory dstSize).pos + place = place from Nat.zero_add place,
      List.getElem_take] at placed
    exact placed
  · exact (destination memory dstSize).append_memory_ge _ (by
      show 0 + (bytes.take (dstSize - 0)).length ≤ place
      rwa [count, Nat.zero_add])

end Destination

/-- For every frame the encoder accepts there is one byte string. Where it fits the destination,
it is there and its length is returned, provided an `int` holds it; where it does not fit,
`-E2BIG` is returned, and the destination holds the first bytes of the string, as many as it has
room for. No byte outside is changed. -/
theorem output_bound (src : Nat → UInt8) {width height stride : Nat} (nonempty : 1 ≤ width ∧ 1 ≤ height)
    (rows : 4 * width ≤ stride) (quality : Nat) :
    ∃ bytes : List UInt8, ∀ (memory : Nat → UInt8) (dstSize : Nat),
      ∃ (result : Int) (after : Nat → UInt8),
        encodeXrgb8888 (some src) width height stride quality (some memory) dstSize true =
            (result, some after) ∧
          (bytes.length ≤ dstSize → (bytes.length < 2 ^ 31 → result = bytes.length) ∧
            (∀ place (within : place < bytes.length), after place = bytes[place]) ∧
            ∀ place, bytes.length ≤ place → after place = memory place) ∧
          (dstSize < bytes.length → result = -7 ∧
            (∀ place (_ : place < dstSize) (within : place < bytes.length),
              after place = bytes[place])) ∧
          ∀ place, dstSize ≤ place → after place = memory place := by
  obtain ⟨scan, final, yields, -⟩ := yields_encodeImage { src, width, height, stride } quality
  refine ⟨imageBytes { src, width, height, stride } quality scan, fun memory dstSize => ?_⟩
  generalize imageBytes { src, width, height, stride } quality scan = bytes at yields ⊢
  by_cases room : bytes.length ≤ dstSize
  · obtain ⟨after, returned, placed, behind⟩ := encodeXrgb8888_fits nonempty rows yields memory room
    refine ⟨_, after, returned, fun _ => ⟨fun short => ?_, placed, behind⟩,
      fun full => absurd room (Nat.not_le_of_lt full),
      fun place beyond => behind place (Nat.le_trans room beyond)⟩
    rw [Int.bmod_def]
    omega
  · obtain ⟨after, returned, placed, outside⟩ :=
      encodeXrgb8888_full nonempty rows yields memory (Nat.lt_of_not_le room)
    exact ⟨-7, after, returned, fun fits => absurd fits room, fun _ => ⟨rfl, placed⟩, outside⟩

/-- A black pixel, in the best quality. -/
theorem output_bound_pixel : ∃ bytes : List UInt8, ∀ (memory : Nat → UInt8) (dstSize : Nat),
    ∃ (result : Int) (after : Nat → UInt8),
      encodeXrgb8888 (some fun _ => 0) 1 1 4 100 (some memory) dstSize true = (result, some after) ∧
        (dstSize < bytes.length → result = -7) ∧
        ∀ place, dstSize ≤ place → after place = memory place := by
  obtain ⟨bytes, bound⟩ := output_bound (fun _ => 0) (show 1 ≤ 1 ∧ 1 ≤ 1 by decide)
    (show 4 * 1 ≤ 4 by decide) 100
  refine ⟨bytes, fun memory dstSize => ?_⟩
  obtain ⟨result, after, returned, -, full, outside⟩ := bound memory dstSize
  exact ⟨result, after, returned, fun small => (full small).1, outside⟩

end Trigger6.Codec
