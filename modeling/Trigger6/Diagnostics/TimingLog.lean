/-
This file embeds the offline decoder of a kernel log: the layout of a timing
record, the two expressions that find the driver's lines, and the checks a log
has to pass. What the decoder computes in floating point is left out.
-/

import Trigger6.Lib.Bytes
import Trigger6.Lib.Regex
import Trigger6.Lib.Text

namespace Trigger6.Diagnostics

open Bytes Regex Text

/-! ### One record -/

/-- The fields of a timing record, by name. -/
inductive TimingField
  | pixelClockKhz
  | frequencyHz
  | reserved
  | hTotal
  | hActive
  | hSyncStart
  | hSyncWidth
  | vTotal
  | vActive
  | vSyncStart
  | vSyncWidth
  | pllFnum
  | pllFden
  | pllIdiv
  | outputSelect
  | hPolarity
  | vPolarity
  | reduced
  | flag
deriving DecidableEq

/-- `FIELDS`, in the order of the record. -/
def timingFields : List TimingField :=
  [.pixelClockKhz, .frequencyHz, .reserved, .hTotal, .hActive, .hSyncStart, .hSyncWidth, .vTotal,
    .vActive, .vSyncStart, .vSyncWidth, .pllFnum, .pllFden, .pllIdiv, .outputSelect, .hPolarity,
    .vPolarity, .reduced, .flag]

/-- `TIMING`, the layout `<IBB10H6B`. -/
def timingWidths : List Nat :=
  [4, 1, 1] ++ List.replicate 10 2 ++ List.replicate 6 1

def timingSize : Nat := timingWidths.sum

/-- `CEA_1080P60`. -/
def cea1080p60 : List (TimingField × Nat) :=
  [(.pixelClockKhz, 148500), (.frequencyHz, 60), (.hTotal, 2200), (.hActive, 1920),
    (.hSyncStart, 2008), (.hSyncWidth, 44), (.vTotal, 1125), (.vActive, 1080),
    (.vSyncStart, 1084), (.vSyncWidth, 5), (.hPolarity, 1), (.vPolarity, 1)]

/-- A field of a record against the one expected. -/
structure Difference where
  field : TimingField
  observed : Nat
  expected : Nat
deriving DecidableEq

structure DecodedRecord where
  values : List Nat
  rawHex : List Char
  geometryErrors : List String
  cea1080p60Differences : List Difference
deriving DecidableEq

/-- The value of a field in a record's list of values. -/
def fieldValue (values : List Nat) (field : TimingField) : Nat :=
  ((timingFields.zip values).lookup field).getD 0

/-- The errors of one axis, from its active, start, width, total and polarity. -/
def axisErrors (axis : String) (active start width total polarity : Nat) : List String :=
  (if 0 < active ∧ active ≤ start ∧ start < start + width ∧ start + width ≤ total then []
    else [axis ++ ": require 0 < active <= sync_start < sync_end <= total"]) ++
  (if polarity = 0 ∨ polarity = 1 then []
    else [axis ++ ": documented sync polarity must be 0 or 1"])

def geometryErrors (result : TimingField → Nat) : List String :=
  (if result .pixelClockKhz = 0 ∨ result .frequencyHz = 0 then
    ["pixel clock and frequency must be nonzero"] else []) ++
  axisErrors "h" (result .hActive) (result .hSyncStart) (result .hSyncWidth) (result .hTotal)
    (result .hPolarity) ++
  axisErrors "v" (result .vActive) (result .vSyncStart) (result .vSyncWidth) (result .vTotal)
    (result .vPolarity)

def differences (result : TimingField → Nat) : List Difference :=
  cea1080p60.filterMap fun (key, value) =>
    if result key ≠ value then some ⟨key, result key, value⟩ else none

/-- What `decode_record` makes of a record's bytes. -/
def decoded (data : List Byte) : DecodedRecord where
  values := unpack timingWidths data
  rawHex := hex data
  geometryErrors := geometryErrors (fieldValue (unpack timingWidths data))
  cea1080p60Differences := differences (fieldValue (unpack timingWidths data))

/-- `decode_record`. -/
def decodeRecord (data : List Byte) : Except String DecodedRecord := do
  if data.length ≠ timingSize then throw "a timing record must be exactly 32 bytes"
  return decoded data

/-! ### The lines of a log -/

section Lines

variable (numerals : Numerals)

def headerMarker : List Char := "Timing query head 0:".toList

def recordMarker : List Char := "T6 timing[".toList

/-- `HEADER`. -/
def headerPattern : Pattern :=
  .seq (.literal "Timing query head 0: total=".toList) <| .seq (.digits numerals) <|
  .seq (.literal " captured=".toList) <| .seq (.digits numerals) <|
  .seq (.literal " bytes=".toList) <| .seq (.digits numerals) <|
  .seq (.literal " start=".toList) <| .seq (.digits numerals) <|
  .seq (.literal "; raw diagnostic only".toList) .textEnd

/-- `RECORD`. -/
def recordPattern : Pattern :=
  .seq (.literal "T6 timing[".toList) <| .seq (.digits numerals) <|
  .seq (.literal "]: ".toList) <| .seq (.group (.times isHexDigit 64)) .textEnd

/-- What a header line says. -/
structure Header where
  total : Nat
  captured : Nat
  bytes : Nat
  start : Nat
deriving DecidableEq

/-- What has been read of a log: the headers, and the records by index. -/
structure LogState where
  headers : List Header := []
  records : List (Nat × DecodedRecord) := []

/-- Python's `int`, which refuses a numeral that is too long. -/
def parseInt (text : List Char) : Except String Nat :=
  match numerals.read text with
  | some number => pure number
  | none => throw "Exceeds the limit for integer string conversion"

def parseHeader (state : LogState) (line : List Char) : Except String LogState :=
  match search (headerPattern numerals) line with
  | some [total, captured, bytes, start] => do
    let header : Header := ⟨← parseInt numerals total, ← parseInt numerals captured,
      ← parseInt numerals bytes, ← parseInt numerals start⟩
    return { state with headers := state.headers ++ [header] }
  | _ => throw "malformed timing count/header line"

def parseRecord (state : LogState) (line : List Char) : Except String LogState :=
  match search (recordPattern numerals) line with
  | some [number, raw] => do
    let index ← parseInt numerals number
    if index ∈ state.records.map Prod.fst then throw "duplicate timing record index"
    match fromHex raw with
    | some data => return { state with records := state.records ++ [(index, ← decodeRecord data)] }
    | none => throw "non-hexadecimal number found in fromhex() arg"
  | _ => throw "malformed timing record line"

/-- One turn of the loop over the lines. -/
def parseLine (state : LogState) (line : List Char) : Except String LogState := do
  let state ← (if contains headerMarker line then parseHeader numerals state line else pure state)
  if contains recordMarker line then parseRecord numerals state line else pure state

/-! ### A whole log -/

structure TimingLog where
  total : Nat
  captured : Nat
  bytes : Nat
  start : Nat
  truncated : Bool
  records : List DecodedRecord
deriving DecidableEq

end Lines

end Trigger6.Diagnostics
