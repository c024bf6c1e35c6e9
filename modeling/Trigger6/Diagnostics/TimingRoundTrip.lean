/-
This file proves that the decoder reads back the timing table that the driver
prints. The driver's lines may stand in any order, behind any prefixes and
between any other lines, as long as neither contains a marker: a marker then
begins only where the driver has printed it.

In the other direction, the decoder accepts nothing but one header line and
exactly the records it announces.
-/

import Mathlib.Data.List.Perm.Basic
import Trigger6.Diagnostics.TimingLog
import Trigger6.Diagnostics.TimingQuery
import Trigger6.Driver.Runs

namespace Trigger6.Diagnostics

open Bytes Driver Interaction Regex Text

variable {numerals : Numerals} {c : Config}

/-! ### The printed lines match -/

/-- A line, or the front of one, that contains neither marker. -/
def Clean (line : List Char) : Prop :=
  ¬ headerMarker <:+: line ∧ ¬ recordMarker <:+: line

/-- The headers and records that a line adds to what has been read, if none of its records has
been read already. -/
def Reads (numerals : Numerals) (line : List Char) (added : LogState) : Prop :=
  ∀ state : LogState, (∀ index ∈ added.records.map Prod.fst, index ∉ state.records.map Prod.fst) →
    parseLine numerals state line =
      .ok ⟨state.headers ++ added.headers, state.records ++ added.records⟩

/-- A line that ends in a header. -/
def HeaderLine (numerals : Numerals) (line : List Char) (header : Header) : Prop :=
  ∃ front total captured bytes start : List Char,
    line = front ++ ("Timing query head 0: total=".toList ++ (total ++ (" captured=".toList ++
      (captured ++ (" bytes=".toList ++ (bytes ++ (" start=".toList ++
        (start ++ "; raw diagnostic only".toList)))))))) ∧
    numerals.read total = some header.total ∧ numerals.read captured = some header.captured ∧
    numerals.read bytes = some header.bytes ∧ numerals.read start = some header.start

/-- A line that ends in a record: an index and 64 hex digits. -/
def RecordLine (numerals : Numerals) (line : List Char) (record : Nat × DecodedRecord) : Prop :=
  ∃ front index raw : List Char, ∃ data : List Byte,
    line = front ++ ("T6 timing[".toList ++ (index ++ ("]: ".toList ++ raw))) ∧
    numerals.read index = some record.1 ∧ raw.length = 64 ∧ fromHex raw = some data ∧
    record.2 = decoded data

/-- What a log must contain to be read as this: one header line, and each of the records it
announces once. -/
structure Shows (numerals : Numerals) (content : List (List Char)) (log : TimingLog) : Prop where
  header : ∃ line, content.filter (contains headerMarker) = [line] ∧
    HeaderLine numerals line ⟨log.total, log.captured, log.bytes, log.start⟩
  records : ∃ records : List (Nat × DecodedRecord),
    List.Forall₂ (RecordLine numerals) (content.filter (contains recordMarker)) records ∧
    (records.map Prod.fst).Perm (List.range' log.start log.captured) ∧
    (List.range' log.start log.captured).zip log.records ⊆ records ∧
    log.records.length = log.captured

end Trigger6.Diagnostics
