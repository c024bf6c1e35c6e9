/-
This file embeds the conversion of a frame to NV12: a plane with the luma of
every pixel, and a plane with the two chroma values of the top left pixel of
every two by two block. A pixel is four bytes, blue first.
-/

import Trigger6.Lib.Bytes

namespace Trigger6.Codec

open Bytes

/-! ### One pixel -/

/-- The 32-bit pixel `x` of row `y`. -/
def pixelAt (src : List Byte) (srcStride y x : Nat) : Nat :=
  fromLittleEndian ((src.drop (y * srcStride + 4 * x)).take 4)

/-- The BT.601 luma of a pixel. -/
def luma (pixel : Nat) : Byte :=
  UInt8.ofNat ((66 * (pixel >>> 16 &&& 0xff) + 129 * (pixel >>> 8 &&& 0xff) +
    25 * (pixel &&& 0xff) + 128) >>> 8 + 16)

/-- The low byte of a signed number. -/
def lowByte (value : Int) : Byte := UInt8.ofNat (value % 256).toNat

/-- The BT.601 blue difference of a pixel. -/
def chromaBlue (pixel : Nat) : Byte :=
  let r : Int := (pixel >>> 16 &&& 0xff : Nat)
  let g : Int := (pixel >>> 8 &&& 0xff : Nat)
  let b : Int := (pixel &&& 0xff : Nat)
  lowByte ((-38 * r - 74 * g + 112 * b + 128) / 256 + 128)

/-- The BT.601 red difference of a pixel. -/
def chromaRed (pixel : Nat) : Byte :=
  let r : Int := (pixel >>> 16 &&& 0xff : Nat)
  let g : Int := (pixel >>> 8 &&& 0xff : Nat)
  let b : Int := (pixel &&& 0xff : Nat)
  lowByte ((112 * r - 94 * g - 18 * b + 128) / 256 + 128)

/-! ### Rows and planes -/

/-- A row of the luma plane: two pixels at a time, and the last one of an odd row. -/
def lumaRow (src : List Byte) (width srcStride y : Nat) : List Byte :=
  ((List.range (width / 2)).flatMap fun pair =>
    [luma (pixelAt src srcStride y (2 * pair)), luma (pixelAt src srcStride y (2 * pair + 1))]) ++
  if width % 2 = 1 then [luma (pixelAt src srcStride y (width - 1))] else []

/-- A row of the chroma plane: both values of every second pixel. -/
def chromaRow (src : List Byte) (width srcStride y : Nat) : List Byte :=
  (List.range (width / 2)).flatMap fun pair =>
    [chromaBlue (pixelAt src srcStride y (2 * pair)), chromaRed (pixelAt src srcStride y (2 * pair))]

/-- `t6_convert_xrgb8888_to_nv12`, with the places of the two planes in one buffer; `none`
stands for the error of an empty image. The source buffers are there. -/
def convertXrgb8888ToNv12 {size : Nat} (src : List Byte) (width height srcStride : Nat)
    (dst : Buffer size) (dstY dstUv dstYPitch dstUvPitch : Nat) : Option (Buffer size) :=
  if width = 0 ∨ height = 0 then none
  else
    let lumaPlane := dst.copyRows dstY dstYPitch
      ((List.range height).map fun y => lumaRow src width srcStride y)
    some (lumaPlane.copyRows dstUv dstUvPitch
      ((List.range ((height + 1) / 2)).map fun block => chromaRow src width srcStride (2 * block)))

end Trigger6.Codec
