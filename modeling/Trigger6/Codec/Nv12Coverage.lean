/-
This file proves when the conversion to NV12 covers a frame. Every luma sample
is written, and so is every chroma pair of a frame of even width, each with its
BT.601 value, which fits a byte. The loop over the chroma of a row stops before
the last pixel of an odd row, whose pair keeps what the buffer held before.
-/

import Trigger6.Codec.Nv12

namespace Trigger6.Codec

open Bytes

/-! ### The samples -/

/-- Byte `index` of an image. -/
def byteAt (src : List Byte) (index : Nat) : Nat := (src.getD index 0).toNat

/-- The BT.601 luma. -/
def lumaOf (red green blue : Nat) : Nat := (66 * red + 129 * green + 25 * blue + 128) / 256 + 16

/-- The BT.601 blue difference. -/
def blueDifference (red green blue : Nat) : Int :=
  (-38 * red - 74 * green + 112 * blue + 128) / 256 + 128

/-- The BT.601 red difference. -/
def redDifference (red green blue : Nat) : Int :=
  (112 * red - 94 * green - 18 * blue + 128) / 256 + 128

section Ranges

variable {red green blue : Nat} (smallRed : red < 256) (smallGreen : green < 256)
  (smallBlue : blue < 256)

include smallRed smallGreen smallBlue

theorem lumaOf_range : 16 ≤ lumaOf red green blue ∧ lumaOf red green blue ≤ 235 := by
  rw [lumaOf]
  omega

theorem blueDifference_range :
    16 ≤ blueDifference red green blue ∧ blueDifference red green blue ≤ 240 := by
  rw [blueDifference]
  omega

theorem redDifference_range :
    16 ≤ redDifference red green blue ∧ redDifference red green blue ≤ 240 := by
  rw [redDifference]
  omega

end Ranges

theorem byteAt_lt (src : List Byte) (index : Nat) : byteAt src index < 256 :=
  (src.getD index 0).toNat_lt

theorem fromLittleEndian_take_drop (src : List Byte) (index count : Nat) :
    fromLittleEndian ((src.drop index).take (count + 1)) =
      byteAt src index + 256 * fromLittleEndian ((src.drop (index + 1)).take count) := by
  rcases Nat.lt_or_ge index src.length with inside | beyond
  · rw [List.drop_eq_getElem_cons inside, List.take_succ_cons, fromLittleEndian, byteAt,
      List.getD_eq_getElem?_getD, List.getElem?_eq_getElem inside, Option.getD_some]
  · rw [List.drop_eq_nil_of_le beyond, List.drop_eq_nil_of_le (Nat.le_succ_of_le beyond), byteAt,
      List.getD_eq_getElem?_getD, List.getElem?_eq_none beyond, List.take_nil, List.take_nil]
    rfl

section Pixel

variable (src : List Byte) (srcStride y x : Nat)

/-- The blue, green and red channel of a pixel. -/
def blueAt : Nat := byteAt src (y * srcStride + 4 * x)
def greenAt : Nat := byteAt src (y * srcStride + 4 * x + 1)
def redAt : Nat := byteAt src (y * srcStride + 4 * x + 2)

theorem pixelAt_channels :
    pixelAt src srcStride y x >>> 16 &&& 0xff = redAt src srcStride y x ∧
      pixelAt src srcStride y x >>> 8 &&& 0xff = greenAt src srcStride y x ∧
      pixelAt src srcStride y x &&& 0xff = blueAt src srcStride y x := by
  have blue : blueAt src srcStride y x < 256 := byteAt_lt ..
  have green : greenAt src srcStride y x < 256 := byteAt_lt ..
  have red : redAt src srcStride y x < 256 := byteAt_lt ..
  obtain ⟨rest, pixel⟩ : ∃ rest, pixelAt src srcStride y x = blueAt src srcStride y x +
      256 * (greenAt src srcStride y x + 256 * (redAt src srcStride y x + 256 * rest)) := by
    rw [pixelAt, fromLittleEndian_take_drop, fromLittleEndian_take_drop,
      fromLittleEndian_take_drop]
    exact ⟨_, rfl⟩
  simp only [Nat.shiftRight_eq_div_pow, Nat.and_two_pow_sub_one_eq_mod _ 8, Nat.reducePow]
  omega

theorem pixel_ranges :
    (16 ≤ lumaOf (redAt src srcStride y x) (greenAt src srcStride y x) (blueAt src srcStride y x) ∧
      lumaOf (redAt src srcStride y x) (greenAt src srcStride y x) (blueAt src srcStride y x) ≤ 235) ∧
    (16 ≤ blueDifference (redAt src srcStride y x) (greenAt src srcStride y x)
        (blueAt src srcStride y x) ∧
      blueDifference (redAt src srcStride y x) (greenAt src srcStride y x)
        (blueAt src srcStride y x) ≤ 240) ∧
    16 ≤ redDifference (redAt src srcStride y x) (greenAt src srcStride y x)
        (blueAt src srcStride y x) ∧
      redDifference (redAt src srcStride y x) (greenAt src srcStride y x)
        (blueAt src srcStride y x) ≤ 240 :=
  ⟨lumaOf_range (byteAt_lt ..) (byteAt_lt ..) (byteAt_lt ..),
    blueDifference_range (byteAt_lt ..) (byteAt_lt ..) (byteAt_lt ..),
    redDifference_range (byteAt_lt ..) (byteAt_lt ..) (byteAt_lt ..)⟩

/-- The luma of a pixel is not altered by the cast to a byte. -/
theorem luma_toNat : (luma (pixelAt src srcStride y x)).toNat =
    lumaOf (redAt src srcStride y x) (greenAt src srcStride y x) (blueAt src srcStride y x) := by
  obtain ⟨red, green, blue⟩ := pixelAt_channels src srcStride y x
  have range := (pixel_ranges src srcStride y x).1
  rw [luma, red, green, blue, UInt8.toNat_ofNat', Nat.shiftRight_eq_div_pow]
  exact Nat.mod_eq_of_lt (Nat.lt_of_le_of_lt range.2 (by decide))

theorem lowByte_toNat {value : Int} (range : 16 ≤ value ∧ value ≤ 240) :
    ((lowByte value).toNat : Int) = value := by
  rw [lowByte, UInt8.toNat_ofNat']
  omega

theorem chromaBlue_toNat : ((chromaBlue (pixelAt src srcStride y x)).toNat : Int) =
    blueDifference (redAt src srcStride y x) (greenAt src srcStride y x)
      (blueAt src srcStride y x) := by
  obtain ⟨red, green, blue⟩ := pixelAt_channels src srcStride y x
  rw [chromaBlue, red, green, blue]
  exact lowByte_toNat (pixel_ranges src srcStride y x).2.1

theorem chromaRed_toNat : ((chromaRed (pixelAt src srcStride y x)).toNat : Int) =
    redDifference (redAt src srcStride y x) (greenAt src srcStride y x)
      (blueAt src srcStride y x) := by
  obtain ⟨red, green, blue⟩ := pixelAt_channels src srcStride y x
  rw [chromaRed, red, green, blue]
  exact lowByte_toNat (pixel_ranges src srcStride y x).2.2

end Pixel

/-! ### The rows -/

/-- Values two at a time, for every even number below. -/
theorem flatMap_pairs {Value : Type} (value : Nat → Value) (count : Nat) :
    ((List.range count).flatMap fun pair => [value (2 * pair), value (2 * pair + 1)]) =
      (List.range (2 * count)).map value := by
  induction count with
  | zero => rfl
  | succ count inductionHypothesis =>
    rw [List.range_succ, List.flatMap_append, inductionHypothesis, Nat.mul_succ, List.range_succ,
      List.range_succ, List.map_append, List.map_append, List.append_assoc]
    rfl

section Rows

variable (src : List Byte) (width srcStride y : Nat)

theorem lumaRow_eq : lumaRow src width srcStride y =
    (List.range width).map fun x => luma (pixelAt src srcStride y x) := by
  rw [lumaRow, flatMap_pairs fun x => luma (pixelAt src srcStride y x)]
  by_cases odd : width % 2 = 1
  · have last : width = 2 * (width / 2) + 1 := by omega
    rw [if_pos odd]
    conv_rhs => rw [last, List.range_succ, List.map_append]
    rw [show width - 1 = 2 * (width / 2) by omega]
    rfl
  · rw [if_neg odd, List.append_nil, show 2 * (width / 2) = width by omega]

/-- The chroma byte at `column` of a row. -/
def chromaByte (column : Nat) : Byte :=
  if column % 2 = 0 then chromaBlue (pixelAt src srcStride y column)
  else chromaRed (pixelAt src srcStride y (column - 1))

/-- A chroma row has a pair for every two pixels, and none for the last one of an odd row. -/
theorem chromaRow_eq : chromaRow src width srcStride y =
    (List.range (2 * (width / 2))).map (chromaByte src srcStride y) := by
  rw [← flatMap_pairs, chromaRow]
  congr 1
  funext pair
  rw [chromaByte, chromaByte, if_pos (by omega), if_neg (by omega), Nat.add_sub_cancel]

end Rows

/-! ### The frame -/

/-- The places of the two planes in a buffer. -/
structure Planes where
  luma : Nat
  chroma : Nat
  lumaPitch : Nat
  chromaPitch : Nat

/-- The planes of a frame lie in the buffer, apart from each other, and their rows hold the width
rounded up to even. -/
structure Planes.Fit (planes : Planes) (width height size : Nat) : Prop where
  lumaRows : 2 * ((width + 1) / 2) ≤ planes.lumaPitch
  chromaRows : 2 * ((width + 1) / 2) ≤ planes.chromaPitch
  lumaInside : planes.luma + height * planes.lumaPitch ≤ size
  chromaInside : planes.chroma + (height + 1) / 2 * planes.chromaPitch ≤ size
  apart : planes.luma + height * planes.lumaPitch ≤ planes.chroma ∨
    planes.chroma + (height + 1) / 2 * planes.chromaPitch ≤ planes.luma

def Planes.lumaIndex (planes : Planes) (x y : Nat) : Nat := planes.luma + y * planes.lumaPitch + x

/-- The place of byte `column` of a chroma line. -/
def Planes.chromaIndex (planes : Planes) (column line : Nat) : Nat :=
  planes.chroma + line * planes.chromaPitch + column

section Frame

variable {size : Nat} (src : List Byte) (width height srcStride : Nat) (planes : Planes)

/-- Every luma sample and every chroma pair of the frame has its value, which lies in the studio
range, and nothing else has changed. -/
structure Covered (dst after : Buffer size) : Prop where
  luma : ∀ x y, x < width → y < height → ∃ sample, after.bytes[planes.lumaIndex x y]? = some sample ∧
    sample.toNat =
      lumaOf (redAt src srcStride y x) (greenAt src srcStride y x) (blueAt src srcStride y x) ∧
    16 ≤ sample.toNat ∧ sample.toNat ≤ 235
  chroma : ∀ block line, block < (width + 1) / 2 → line < (height + 1) / 2 → ∃ blue red,
    after.bytes[planes.chromaIndex (2 * block) line]? = some blue ∧
    after.bytes[planes.chromaIndex (2 * block + 1) line]? = some red ∧
    (blue.toNat : Int) = blueDifference (redAt src srcStride (2 * line) (2 * block))
      (greenAt src srcStride (2 * line) (2 * block)) (blueAt src srcStride (2 * line) (2 * block)) ∧
    (red.toNat : Int) = redDifference (redAt src srcStride (2 * line) (2 * block))
      (greenAt src srcStride (2 * line) (2 * block)) (blueAt src srcStride (2 * line) (2 * block)) ∧
    16 ≤ blue.toNat ∧ blue.toNat ≤ 240 ∧ 16 ≤ red.toNat ∧ red.toNat ≤ 240
  others : ∀ index, (∀ x y, x < width → y < height → index ≠ planes.lumaIndex x y) →
    (∀ column line, column < 2 * ((width + 1) / 2) → line < (height + 1) / 2 →
      index ≠ planes.chromaIndex column line) →
    after.bytes[index]? = dst.bytes[index]?

/-- The conversion of an image to the planes. -/
def convertTo (dst : Buffer size) : Option (Buffer size) :=
  convertXrgb8888ToNv12 src width height srcStride dst planes.luma planes.chroma planes.lumaPitch
    planes.chromaPitch

/-- The conversion covers the frame whatever the buffer held before, and what it writes depends on
the pixels of the image only. -/
structure CoversFrame (size : Nat) : Prop where
  covers : ∀ dst : Buffer size, ∃ after, convertTo src width height srcStride planes dst = some after ∧
    Covered src width height srcStride planes dst after
  reads : ∀ other : List Byte, (∀ x y channel, x < width → y < height → channel < 4 →
      src[y * srcStride + 4 * x + channel]? = other[y * srcStride + 4 * x + channel]?) →
    ∀ dst : Buffer size, convertTo other width height srcStride planes dst =
      convertTo src width height srcStride planes dst

variable {src width height srcStride planes}

theorem pixelAt_congr {other : List Byte} {y x : Nat}
    (same : ∀ channel, channel < 4 →
      src[y * srcStride + 4 * x + channel]? = other[y * srcStride + 4 * x + channel]?) :
    pixelAt other srcStride y x = pixelAt src srcStride y x := by
  rw [pixelAt, pixelAt]
  congr 1
  refine List.ext_getElem? fun index => ?_
  by_cases inside : index < 4
  · rw [List.getElem?_take_of_lt inside, List.getElem?_take_of_lt inside, List.getElem?_drop,
      List.getElem?_drop, same index inside]
  · rw [List.getElem?_take_eq_none (Nat.not_lt.mp inside),
      List.getElem?_take_eq_none (Nat.not_lt.mp inside)]

/-- The conversion reads the pixels of the image only. -/
theorem convertTo_congr {other : List Byte}
    (same : ∀ x y channel, x < width → y < height → channel < 4 →
      src[y * srcStride + 4 * x + channel]? = other[y * srcStride + 4 * x + channel]?)
    (dst : Buffer size) :
    convertTo other width height srcStride planes dst =
      convertTo src width height srcStride planes dst := by
  have pixel : ∀ x y, x < width → y < height →
      pixelAt other srcStride y x = pixelAt src srcStride y x :=
    fun x y left above => pixelAt_congr fun channel small => same x y channel left above small
  have lumaRows : ((List.range height).map fun y => lumaRow other width srcStride y) =
      (List.range height).map fun y => lumaRow src width srcStride y := by
    refine List.map_congr_left fun y above => ?_
    rw [lumaRow_eq, lumaRow_eq]
    refine List.map_congr_left fun x left => ?_
    rw [pixel x y (List.mem_range.mp left) (List.mem_range.mp above)]
  have chromaRows : ((List.range ((height + 1) / 2)).map fun block =>
        chromaRow other width srcStride (2 * block)) =
      (List.range ((height + 1) / 2)).map fun block => chromaRow src width srcStride (2 * block) := by
    refine List.map_congr_left fun block above => ?_
    have line := List.mem_range.mp above
    rw [chromaRow_eq, chromaRow_eq]
    refine List.map_congr_left fun column left => ?_
    have before := List.mem_range.mp left
    rw [chromaByte, chromaByte, pixel column (2 * block) (by omega) (by omega),
      pixel (column - 1) (2 * block) (by omega) (by omega)]
  unfold convertTo convertXrgb8888ToNv12
  rw [lumaRows, chromaRows]

/-- A line ends before the plane does. -/
theorem line_end {line lines length pitch : Nat} (below : line < lines) (short : length ≤ pitch) :
    line * pitch + length ≤ lines * pitch := by
  have next : (line + 1) * pitch ≤ lines * pitch := Nat.mul_le_mul_right pitch below
  rw [Nat.add_mul, Nat.one_mul] at next
  omega

/-- A row of a list of rows made one by one. -/
theorem getElem?_rows {row : List Byte} {count index : Nat} {make : Nat → List Byte}
    (found : ((List.range count).map make)[index]? = some row) :
    index < count ∧ make index = row := by
  rw [List.getElem?_map, Option.map_eq_some_iff] at found
  obtain ⟨number, listed, made⟩ := found
  obtain ⟨below, rfl⟩ := List.getElem?_eq_some_iff.mp listed
  rw [List.length_range] at below
  rw [List.getElem_range] at made
  exact ⟨below, made⟩

theorem getElem?_rows_of_lt {count index : Nat} (below : index < count) (make : Nat → List Byte) :
    ((List.range count).map make)[index]? = some (make index) := by
  rw [List.getElem?_map, List.getElem?_range below, Option.map_some]

theorem rowsFit {offset pitch count length : Nat} {make : Nat → List Byte}
    (sized : ∀ index, (make index).length = length) (short : length ≤ pitch)
    (inside : offset + count * pitch ≤ size) :
    RowsFit size offset pitch ((List.range count).map make) := by
  refine ⟨fun row member => ?_, fun index row found => ?_⟩
  · obtain ⟨index, -, rfl⟩ := List.mem_map.mp member
    rw [sized]
    exact short
  · obtain ⟨below, rfl⟩ := getElem?_rows found
    have ends := line_end below short
    rw [sized]
    omega

section Spec

variable (fit : planes.Fit width height size) (wide : 1 ≤ width) (tall : 1 ≤ height)

include fit wide tall

/-- What the conversion writes: every luma sample, and the chroma pairs of the pixels that are
taken two at a time. -/
theorem convertTo_spec (dst : Buffer size) :
    ∃ after, convertTo src width height srcStride planes dst = some after ∧
      (∀ x y, x < width → y < height →
        after.bytes[planes.lumaIndex x y]? = some (luma (pixelAt src srcStride y x))) ∧
      (∀ column line, column < 2 * (width / 2) → line < (height + 1) / 2 →
        after.bytes[planes.chromaIndex column line]? =
          some (chromaByte src srcStride (2 * line) column)) ∧
      ∀ index, (∀ x y, x < width → y < height → index ≠ planes.lumaIndex x y) →
        (∀ column line, column < 2 * (width / 2) → line < (height + 1) / 2 →
          index ≠ planes.chromaIndex column line) →
        after.bytes[index]? = dst.bytes[index]? := by
  have lumaLength : ∀ y, (lumaRow src width srcStride y).length = width := by
    intro y
    rw [lumaRow_eq, List.length_map, List.length_range]
  have chromaLength : ∀ line, (chromaRow src width srcStride (2 * line)).length =
      2 * (width / 2) := by
    intro line
    rw [chromaRow_eq, List.length_map, List.length_range]
  have lumaShort : width ≤ planes.lumaPitch := by
    have := fit.lumaRows
    omega
  have chromaShort : 2 * (width / 2) ≤ planes.chromaPitch := by
    have := fit.chromaRows
    omega
  have lumaFit := rowsFit lumaLength lumaShort fit.lumaInside
  have chromaFit := rowsFit chromaLength chromaShort fit.chromaInside
  refine ⟨_, if_neg (by omega), ?_, ?_, ?_⟩
  · intro x y left above
    have sampleEnd := line_end above lumaShort
    rw [Buffer.copyRows_outside _ chromaFit]
    · refine (Buffer.copyRows_inside _ lumaFit (getElem?_rows_of_lt above _)
        (by rw [lumaLength]; exact left)).trans ?_
      rw [lumaRow_eq, List.getElem?_map, List.getElem?_range left, Option.map_some]
    · intro line row found
      obtain ⟨below, rfl⟩ := getElem?_rows found
      have chromaEnd := line_end below chromaShort
      have apart := fit.apart
      rw [chromaLength, Planes.lumaIndex]
      omega
  · intro column line left above
    refine (Buffer.copyRows_inside _ chromaFit (getElem?_rows_of_lt above _)
      (by rw [chromaLength]; exact left)).trans ?_
    rw [chromaRow_eq, List.getElem?_map, List.getElem?_range left, Option.map_some]
  · intro index noLuma noChroma
    rw [Buffer.copyRows_outside _ chromaFit, Buffer.copyRows_outside _ lumaFit]
    · intro y row found
      obtain ⟨above, rfl⟩ := getElem?_rows found
      rw [lumaLength]
      by_contra within
      refine noLuma (index - (planes.luma + y * planes.lumaPitch)) y (by omega) above ?_
      rw [Planes.lumaIndex]
      omega
    · intro line row found
      obtain ⟨above, rfl⟩ := getElem?_rows found
      rw [chromaLength]
      by_contra within
      refine noChroma (index - (planes.chroma + line * planes.chromaPitch)) line (by omega) above ?_
      rw [Planes.chromaIndex]
      omega

/-- On a frame of even width the conversion covers every sample. -/
theorem covered_of_even (even : width % 2 = 0) (dst : Buffer size) :
    ∃ after, convertTo src width height srcStride planes dst = some after ∧
      Covered src width height srcStride planes dst after := by
  obtain ⟨after, converted, lumas, chromas, others⟩ :=
    @convertTo_spec size src width height srcStride planes fit wide tall dst
  have half : 2 * (width / 2) = 2 * ((width + 1) / 2) := by omega
  rw [half] at chromas others
  refine ⟨after, converted, ?_, ?_, others⟩
  · intro x y left above
    have value := luma_toNat src srcStride y x
    refine ⟨_, lumas x y left above, value, ?_⟩
    rw [value]
    exact (pixel_ranges src srcStride y x).1
  · intro block line left above
    have blue := chromas (2 * block) line (by omega) above
    have red := chromas (2 * block + 1) line (by omega) above
    rw [chromaByte, if_pos (by omega)] at blue
    rw [chromaByte, if_neg (by omega), Nat.add_sub_cancel] at red
    have blueValue := chromaBlue_toNat src srcStride (2 * line) (2 * block)
    have redValue := chromaRed_toNat src srcStride (2 * line) (2 * block)
    obtain ⟨-, blueRange, redRange⟩ := pixel_ranges src srcStride (2 * line) (2 * block)
    rw [← blueValue] at blueRange
    rw [← redValue] at redRange
    exact ⟨_, _, blue, red, blueValue, redValue, by omega⟩

/-- The last chroma pair of an odd row keeps what the buffer held before. -/
theorem last_pair_kept (odd : width % 2 = 1) (dst : Buffer size) :
    ∃ after, convertTo src width height srcStride planes dst = some after ∧
      after.bytes[planes.chromaIndex (2 * (width / 2)) 0]? =
        dst.bytes[planes.chromaIndex (2 * (width / 2)) 0]? := by
  obtain ⟨after, converted, -, -, others⟩ :=
    @convertTo_spec size src width height srcStride planes fit wide tall dst
  refine ⟨after, converted, others _ ?_ ?_⟩
  · intro x y left above same
    have sampleEnd := line_end above (show width ≤ planes.lumaPitch by
      have := fit.lumaRows
      omega)
    have pairEnd := line_end (show 0 < (height + 1) / 2 by omega) fit.chromaRows
    have apart := fit.apart
    rw [Planes.lumaIndex, Planes.chromaIndex] at same
    omega
  · intro column line left above same
    have pitch := fit.chromaRows
    rw [Planes.chromaIndex, Planes.chromaIndex] at same
    cases line with
    | zero => omega
    | succ line =>
      rw [Nat.add_mul, Nat.one_mul] at same
      omega

/-- The conversion covers the frame, reading inside it only, exactly when its width is even. -/
theorem nv12_covers_frame : CoversFrame src width height srcStride planes size ↔ width % 2 = 0 := by
  constructor
  · intro frame
    by_contra uneven
    have odd : width % 2 = 1 := by omega
    -- a buffer of zeros keeps a zero where the last pair belongs
    obtain ⟨after, converted, covered⟩ := frame.covers (.zeroed size)
    obtain ⟨same, sameConverted, kept⟩ :=
      @last_pair_kept size src width height srcStride planes fit wide tall odd (.zeroed size)
    obtain rfl := Option.some.inj (sameConverted.symm.trans converted)
    obtain ⟨blue, red, held, -, -, -, low, -⟩ :=
      covered.chroma (width / 2) 0 (by omega) (by omega)
    rw [kept] at held
    have zero : blue = 0 := List.eq_of_mem_replicate (List.mem_of_getElem? held)
    rw [zero] at low
    exact absurd low (by decide)
  · intro even
    exact ⟨covered_of_even fit wide tall even, fun _ same dst => convertTo_congr same dst⟩

end Spec

end Frame

/-- A single white pixel: its chroma pair is not written. -/
theorem single_pixel_not_covered :
    ¬ CoversFrame [255, 255, 255, 0] 1 1 4 ⟨0, 2, 2, 2⟩ 4 := by
  intro frame
  obtain ⟨after, converted, covered⟩ := frame.covers (.zeroed 4)
  obtain rfl : _ = after := Option.some.inj converted
  obtain ⟨blue, red, held, -, -, -, low, -⟩ := covered.chroma 0 0 (by decide) (by decide)
  obtain rfl : 0 = blue := Option.some.inj held
  exact absurd low (by decide)

/-- A row of two pixels is covered. -/
theorem two_pixels_covered :
    CoversFrame [0, 0, 0, 0, 255, 255, 255, 0] 2 1 8 ⟨0, 2, 2, 2⟩ 4 :=
  (nv12_covers_frame ⟨by decide, by decide, by decide, by decide, by decide⟩ (by decide)
    (by decide)).mpr rfl

end Trigger6.Codec
