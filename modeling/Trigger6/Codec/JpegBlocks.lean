/-
This file embeds how the JPEG encoder loads its blocks from a frame: eight by
eight luma samples, or two blocks of chroma samples of sixteen by sixteen pixels
each. Where a block reaches past the frame, the last row and the last column are
used again.

The main theorem says that no byte outside the rows of the frame is read, and
that the samples are those of the frame extended in this way.
-/

import Trigger6.Codec.JpegTransform

namespace Trigger6.Codec

/-! ### Loading -/

/-- The value an unsigned 32-bit integer keeps of a number. -/
def u32 (value : Nat) : Nat := value % 2 ^ 32

theorem u32_of_lt {value : Nat} (small : value < 2 ^ 32) : u32 value = value :=
  Nat.mod_eq_of_lt small

def clampByte (value : Int) : Int := max 0 (min value 255)

/-- The three colours of a pixel, or sums of them. -/
structure Colour where
  blue : Nat
  green : Nat
  red : Nat

def Colour.black : Colour where
  blue := 0
  green := 0
  red := 0

def Colour.add (first second : Colour) : Colour where
  blue := first.blue + second.blue
  green := first.green + second.green
  red := first.red + second.red

theorem Colour.black_add (colour : Colour) : Colour.black.add colour = colour := by
  simp only [Colour.add, Colour.black, Nat.zero_add]

/-- A frame in memory, and its geometry. -/
structure Image where
  src : Nat → UInt8
  width : Nat
  height : Nat
  stride : Nat

namespace Image

variable (image : Image)

/-- The colours of the pixel at some place. -/
def colourAt (offset : Nat) : Colour where
  blue := (image.src offset).toNat
  green := (image.src (offset + 1)).toNat
  red := (image.src (offset + 2)).toNat

/-- The place of the pixel `x` to the right of and `y` below an origin, kept inside the frame. -/
def pixelOffset (baseX baseY x y : Nat) : Nat :=
  let py := min (u32 (baseY + y)) (image.height - 1)
  let px := min (u32 (baseX + x)) (image.width - 1)
  u32 (py * image.stride) + u32 (px * 4)

end Image

/-- The luma of a pixel. -/
def Colour.luma (colour : Colour) : Int :=
  clampByte ((77 * colour.red + 150 * colour.green + 29 * colour.blue + 128 : Int) / 256) - 128

/-- `t6_jpeg_load_y_block`, at one sample. -/
def loadYBlock (image : Image) (baseX baseY index : Nat) : Int :=
  (image.colourAt (image.pixelOffset baseX baseY (index % 8) (index / 8))).luma

/-- `DIV_ROUND_CLOSEST` by four. -/
def Colour.average (sums : Colour) : Colour where
  blue := (sums.blue + 2) / 4
  green := (sums.green + 2) / 4
  red := (sums.red + 2) / 4

def Colour.chromaBlue (colour : Colour) : Int :=
  clampByte
    ((-43 * colour.red - 85 * colour.green + 128 * colour.blue + 128 : Int) / 256 + 128) - 128

def Colour.chromaRed (colour : Colour) : Int :=
  clampByte
    ((128 * colour.red - 107 * colour.green - 21 * colour.blue + 128 : Int) / 256 + 128) - 128

/-- The two inner loops of `t6_jpeg_load_chroma_block`: the sums over two by two pixels. -/
def chromaSums (image : Image) (baseX baseY index : Nat) : Colour :=
  [(0, 0), (0, 1), (1, 0), (1, 1)].foldl (fun (sums : Colour) (sy, sx) =>
    sums.add (image.colourAt
      (image.pixelOffset baseX baseY (index % 8 * 2 + sx) (index / 8 * 2 + sy)))) .black

/-- `t6_jpeg_load_chroma_block`, at one sample of each block. -/
def loadCbBlock (image : Image) (baseX baseY index : Nat) : Int :=
  (chromaSums image baseX baseY index).average.chromaBlue

def loadCrBlock (image : Image) (baseX baseY index : Nat) : Int :=
  (chromaSums image baseX baseY index).average.chromaRed

/-! ### Samples -/

theorem clampByte_isSample (value : Int) : IsSample (clampByte value - 128) := by
  unfold IsSample clampByte
  omega

theorem loadYBlock_isSample (image : Image) (baseX baseY index : Nat) :
    IsSample (loadYBlock image baseX baseY index) := clampByte_isSample _

theorem loadCbBlock_isSample (image : Image) (baseX baseY index : Nat) :
    IsSample (loadCbBlock image baseX baseY index) := clampByte_isSample _

theorem loadCrBlock_isSample (image : Image) (baseX baseY index : Nat) :
    IsSample (loadCrBlock image baseX baseY index) := clampByte_isSample _

/-! ### The frame behind a block -/

/-- A frame the encoder accepts and can address with 32 bits. -/
structure Image.Sound (image : Image) : Prop where
  width : 1 ≤ image.width
  height : 1 ≤ image.height
  stride : 4 * image.width ≤ image.stride
  small : image.stride * image.height < 2 ^ 32

/-- The colours of the frame, extended to the right and downwards by its last column and row. -/
def Image.extended (image : Image) (x y : Nat) : Colour :=
  image.colourAt (min y (image.height - 1) * image.stride + min x (image.width - 1) * 4)

/-- The rounded average of two by two pixels of the extended frame. -/
def Image.extendedAverage (image : Image) (x y : Nat) : Colour :=
  ((((image.extended (2 * x) (2 * y)).add (image.extended (2 * x + 1) (2 * y))).add
    (image.extended (2 * x) (2 * y + 1))).add (image.extended (2 * x + 1) (2 * y + 1))).average

section Sound

variable {image : Image} (sound : image.Sound)

include sound

theorem Image.Sound.geometry : image.width < 2 ^ 30 ∧ image.height < 2 ^ 30 ∧
    image.stride < 2 ^ 32 := by
  have one := Nat.mul_le_mul_left image.stride sound.height
  have four := Nat.mul_le_mul_right image.height (Nat.le_trans (Nat.mul_le_mul_left 4 sound.width) sound.stride)
  have small := sound.small
  have stride := sound.stride
  omega

/-- Without wrap-around, the pixel is that of the extended frame. -/
theorem Image.Sound.pixelOffset_eq {baseX baseY x y : Nat} (right : baseX + x < 2 ^ 32)
    (down : baseY + y < 2 ^ 32) : image.pixelOffset baseX baseY x y =
      min (baseY + y) (image.height - 1) * image.stride + min (baseX + x) (image.width - 1) * 4 := by
  obtain ⟨wide, -, -⟩ := sound.geometry
  have row : min (baseY + y) (image.height - 1) * image.stride < 2 ^ 32 := by
    refine Nat.lt_of_le_of_lt ?_ sound.small
    rw [Nat.mul_comm image.stride]
    exact Nat.mul_le_mul_right _ (Nat.le_trans (Nat.min_le_right _ _) (Nat.sub_le _ _))
  unfold Image.pixelOffset
  rw [u32_of_lt right, u32_of_lt down]
  show u32 _ + u32 _ = _
  rw [u32_of_lt row, u32_of_lt (by omega)]

theorem Image.Sound.colourAt_pixelOffset {baseX baseY x y : Nat} (right : baseX + x < 2 ^ 32)
    (down : baseY + y < 2 ^ 32) : image.colourAt (image.pixelOffset baseX baseY x y) =
      image.extended (baseX + x) (baseY + y) := by
  rw [sound.pixelOffset_eq right down]
  rfl

end Sound

/-- The origins the loops of the encoder go through. -/
structure Image.Origin (image : Image) (mcuX mcuY dx dy : Nat) : Prop where
  right : mcuX < (image.width + 15) / 16
  down : mcuY < (image.height + 15) / 16
  half : (dx = 0 ∨ dx = 8) ∧ (dy = 0 ∨ dy = 8)

theorem Image.Origin.bounds {image : Image} (sound : image.Sound) {mcuX mcuY dx dy : Nat}
    (origin : image.Origin mcuX mcuY dx dy) {x y : Nat} (near : x < 16 ∧ y < 16) :
    u32 (mcuX * 16 + dx) = mcuX * 16 + dx ∧ u32 (mcuY * 16 + dy) = mcuY * 16 + dy ∧
      mcuX * 16 + dx + x < 2 ^ 32 ∧ mcuY * 16 + dy + y < 2 ^ 32 := by
  obtain ⟨wide, high, -⟩ := sound.geometry
  obtain ⟨right, down, half, half'⟩ := origin
  refine ⟨u32_of_lt ?_, u32_of_lt ?_, ?_, ?_⟩ <;> omega

section Unit

variable {image : Image} (sound : image.Sound) {mcuX mcuY dx dy : Nat}
  (origin : image.Origin mcuX mcuY dx dy) {index : Nat} (within : index < 64)

include sound origin within

theorem luma_place : u32 (mcuX * 16 + dx) = mcuX * 16 + dx ∧ u32 (mcuY * 16 + dy) = mcuY * 16 + dy ∧
    mcuX * 16 + dx + index % 8 < 2 ^ 32 ∧ mcuY * 16 + dy + index / 8 < 2 ^ 32 :=
  origin.bounds sound (by omega)

theorem chroma_place {sx sy : Nat} (right : sx < 2) (down : sy < 2) :
    u32 (mcuX * 16) = mcuX * 16 ∧ u32 (mcuY * 16) = mcuY * 16 ∧
      mcuX * 16 + (index % 8 * 2 + sx) < 2 ^ 32 ∧ mcuY * 16 + (index / 8 * 2 + sy) < 2 ^ 32 := by
  have corner : image.Origin mcuX mcuY 0 0 := ⟨origin.right, origin.down, .inl rfl, .inl rfl⟩
  exact corner.bounds sound (by omega)

/-- The luma samples are those of the extended frame. -/
theorem loadYBlock_extended : loadYBlock image (u32 (mcuX * 16 + dx)) (u32 (mcuY * 16 + dy)) index =
    (image.extended (mcuX * 16 + dx + index % 8) (mcuY * 16 + dy + index / 8)).luma := by
  obtain ⟨startX, startY, right, down⟩ := luma_place sound origin within
  rw [startX, startY]
  exact congrArg Colour.luma (sound.colourAt_pixelOffset right down)

/-- The chroma samples are those of the averages of the extended frame. -/
theorem chromaSums_average : (chromaSums image (u32 (mcuX * 16)) (u32 (mcuY * 16)) index).average =
    image.extendedAverage (mcuX * 8 + index % 8) (mcuY * 8 + index / 8) := by
  obtain ⟨startX, startY, -⟩ :=
    chroma_place sound origin within (show 0 < 2 by decide) (show 0 < 2 by decide)
  have read : ∀ {sy sx : Nat}, sy < 2 → sx < 2 → _ := fun down right =>
    sound.colourAt_pixelOffset (chroma_place sound origin within right down).2.2.1
      (chroma_place sound origin within right down).2.2.2
  rw [startX, startY]
  simp only [chromaSums, List.foldl_cons, List.foldl_nil]
  rw [read (by decide) (by decide), read (by decide) (by decide), read (by decide) (by decide),
    read (by decide) (by decide), Colour.black_add]
  have across : mcuX * 16 + index % 8 * 2 = 2 * (mcuX * 8 + index % 8) := by omega
  have along : mcuY * 16 + index / 8 * 2 = 2 * (mcuY * 8 + index / 8) := by omega
  simp only [← Nat.add_assoc, across, along, Nat.add_zero, Image.extendedAverage]

end Unit

end Trigger6.Codec
