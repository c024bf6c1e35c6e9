/-
This file is a small library about streams of framed records. A record is a
header of a fixed size, which announces the length of what follows, and a
payload of that length. A receiver cuts a stream into the complete records at
its front and what is left; the main facts are that it recovers the records a
sender wrote, also when the last one has been cut off, and that a stream cut
off anywhere is complete records followed by a torn one.
-/

import Mathlib.Data.List.Basic
import Mathlib.Data.List.Infix
import Mathlib.Tactic.Common

namespace Framing

variable {Symbol : Type}

/-- How long a header is, and the length of the payload it announces. -/
structure Format (Symbol : Type) where
  headerSize : Nat
  positive : 0 < headerSize
  payloadLength : List Symbol → Nat

/-- A header and the payload it announces. -/
structure Record (format : Format Symbol) where
  header : List Symbol
  payload : List Symbol
  sized : header.length = format.headerSize
  announced : format.payloadLength header = payload.length

variable {format : Format Symbol}

@[ext]
theorem Record.ext {left right : Record format} (header : left.header = right.header)
    (payload : left.payload = right.payload) : left = right := by
  cases left
  cases right
  cases header
  cases payload
  rfl

def Record.bytes (record : Record format) : List Symbol :=
  record.header ++ record.payload

/-- The stream of some records. -/
def encode (records : List (Record format)) : List Symbol :=
  records.flatMap Record.bytes

@[simp]
theorem encode_nil : encode ([] : List (Record format)) = [] := rfl

@[simp]
theorem encode_cons (record : Record format) (records : List (Record format)) :
    encode (record :: records) = record.bytes ++ encode records :=
  List.flatMap_cons

@[simp]
theorem encode_append (first second : List (Record format)) :
    encode (first ++ second) = encode first ++ encode second :=
  List.flatMap_append

/-- The record at the front of a stream, if it is complete, and the rest of the stream. -/
def first (format : Format Symbol) (stream : List Symbol) :
    Option (Record format × List Symbol) :=
  let header := stream.take format.headerSize
  let rest := stream.drop format.headerSize
  let count := format.payloadLength header
  if complete : header.length = format.headerSize ∧ count ≤ rest.length then
    some ({
      header := header
      payload := rest.take count
      sized := complete.1
      announced := by rw [List.length_take, Nat.min_eq_left complete.2] }, rest.drop count)
  else
    none

/-- The complete records at the front of a stream, and what is left of it. The bound is on
the number of records. -/
def decodeUpTo (format : Format Symbol) :
    Nat → List Symbol → List (Record format) × List Symbol
  | 0, stream => ([], stream)
  | bound + 1, stream =>
    match first format stream with
    | none => ([], stream)
    | some (record, rest) =>
      (record :: (decodeUpTo format bound rest).1, (decodeUpTo format bound rest).2)

/-- The complete records at the front of a stream, and what is left of it. -/
def decode (format : Format Symbol) (stream : List Symbol) :
    List (Record format) × List Symbol :=
  decodeUpTo format stream.length stream

/-! ### The first record -/

theorem Record.length_bytes (record : Record format) :
    record.bytes.length = format.headerSize + record.payload.length := by
  rw [Record.bytes, List.length_append, record.sized]

theorem Record.length_positive (record : Record format) : 0 < record.bytes.length := by
  rw [record.length_bytes]
  exact Nat.lt_of_lt_of_le format.positive (Nat.le_add_right _ _)

theorem take_header (record : Record format) (rest : List Symbol) :
    (record.bytes ++ rest).take format.headerSize = record.header := by
  rw [Record.bytes, List.append_assoc, ← record.sized, List.take_left']
  rfl

theorem drop_header (record : Record format) (rest : List Symbol) :
    (record.bytes ++ rest).drop format.headerSize = record.payload ++ rest := by
  rw [Record.bytes, List.append_assoc, ← record.sized, List.drop_left']
  rfl

/-- A receiver finds the record a sender put first. -/
theorem first_append (record : Record format) (rest : List Symbol) :
    first format (record.bytes ++ rest) = some (record, rest) := by
  have count : format.payloadLength ((record.bytes ++ rest).take format.headerSize) =
      record.payload.length := by
    rw [take_header, record.announced]
  have complete : ((record.bytes ++ rest).take format.headerSize).length = format.headerSize ∧
      format.payloadLength ((record.bytes ++ rest).take format.headerSize) ≤
        ((record.bytes ++ rest).drop format.headerSize).length := by
    rw [count, take_header, drop_header, List.length_append]
    exact ⟨record.sized, Nat.le_add_right _ _⟩
  rw [first, dif_pos complete]
  refine congrArg some (Prod.ext (Record.ext (take_header record rest) ?_) ?_)
  · show ((record.bytes ++ rest).drop format.headerSize).take _ = record.payload
    rw [count, drop_header, List.take_left']
    rfl
  · show ((record.bytes ++ rest).drop format.headerSize).drop _ = rest
    rw [count, drop_header, List.drop_left']
    rfl

theorem bytes_append_of_first {stream rest : List Symbol} {record : Record format}
    (found : first format stream = some (record, rest)) : record.bytes ++ rest = stream := by
  rw [first] at found
  split at found
  case isTrue complete =>
    obtain ⟨rfl, rfl⟩ := Prod.ext_iff.mp (Option.some.inj found)
    rw [Record.bytes, List.append_assoc, List.take_append_drop, List.take_append_drop]
  case isFalse => cases found

/-- A record that has been cut off is not taken for a complete one. -/
theorem first_torn {record : Record format} {torn : List Symbol} (cut : torn <+: record.bytes)
    (short : torn ≠ record.bytes) : first format torn = none := by
  obtain ⟨missing, whole⟩ := cut
  have lengths := congrArg List.length whole
  rw [List.length_append, record.length_bytes] at lengths
  have lost : 0 < missing.length := by
    rw [List.length_pos_iff]
    rintro rfl
    exact short (by rw [← whole, List.append_nil])
  rw [first, dif_neg]
  rintro ⟨sized, fits⟩
  rw [List.length_take] at sized
  rw [List.length_drop] at fits
  have same : torn.take format.headerSize = record.header := by
    have := take_header record []
    rw [List.append_nil, ← whole, List.take_append_of_le_length (by omega)] at this
    exact this
  rw [same, record.announced] at fits
  omega

/-! ### Whole streams -/

theorem decodeUpTo_encode_append (records : List (Record format)) {left : List Symbol}
    (incomplete : first format left = none) {bound : Nat} (enough : records.length ≤ bound) :
    decodeUpTo format bound (encode records ++ left) = (records, left) := by
  induction records generalizing bound with
  | nil =>
    cases bound with
    | zero => rfl
    | succ bound => rw [encode_nil, List.nil_append, decodeUpTo, incomplete]
  | cons record records inductionHypothesis =>
    cases bound with
    | zero => cases enough
    | succ bound =>
      rw [encode_cons, List.append_assoc, decodeUpTo, first_append]
      show (record :: (decodeUpTo format bound (encode records ++ left)).1, _) = _
      rw [inductionHypothesis (Nat.le_of_succ_le_succ enough)]

theorem length_le_encode (records : List (Record format)) :
    records.length ≤ (encode records).length := by
  induction records with
  | nil => exact Nat.le_refl _
  | cons record records inductionHypothesis =>
    rw [encode_cons, List.length_append, List.length_cons]
    have := record.length_positive
    omega

/-- A receiver recovers the records a sender wrote and what was left over. -/
theorem decode_encode_append (records : List (Record format)) {left : List Symbol}
    (incomplete : first format left = none) :
    decode format (encode records ++ left) = (records, left) := by
  refine decodeUpTo_encode_append records incomplete ?_
  rw [List.length_append]
  exact Nat.le_trans (length_le_encode records) (Nat.le_add_right _ _)

theorem first_nil : first format [] = none := by
  rw [first, dif_neg]
  rintro ⟨sized, -⟩
  rw [List.take_nil, List.length_nil] at sized
  exact absurd sized (Nat.ne_of_lt format.positive)

theorem decode_encode (records : List (Record format)) :
    decode format (encode records) = (records, []) := by
  have := decode_encode_append records first_nil
  rwa [List.append_nil] at this

/-! ### Streams that have been cut off -/

/-- Part of a record, without its end. -/
def Torn (format : Format Symbol) (left : List Symbol) : Prop :=
  ∃ record : Record format, left <+: record.bytes ∧ left ≠ record.bytes

theorem Torn.incomplete {left : List Symbol} (torn : Torn format left) :
    first format left = none := by
  obtain ⟨record, cut, short⟩ := torn
  exact first_torn cut short

/-- A stream cut off anywhere is complete records, and then possibly a torn one. -/
theorem prefix_encode {records : List (Record format)} {stream : List Symbol}
    (cut : stream <+: encode records) :
    stream = encode records ∨ ∃ sent record unsent torn, records = sent ++ record :: unsent ∧
      stream = encode sent ++ torn ∧ torn <+: record.bytes ∧ torn ≠ record.bytes := by
  induction records generalizing stream with
  | nil => exact .inl (List.prefix_nil.mp cut)
  | cons record records inductionHypothesis =>
    rw [encode_cons] at cut
    by_cases whole : record.bytes <+: stream
    · obtain ⟨rest, rfl⟩ := whole
      rw [List.prefix_append_right_inj] at cut
      rcases inductionHypothesis cut with same | ⟨sent, next, unsent, torn, split, rest, part⟩
      · exact .inl (by rw [encode_cons, same])
      · refine .inr ⟨record :: sent, next, unsent, torn, by rw [split]; rfl, ?_, part⟩
        rw [rest, encode_cons, List.append_assoc]
    · refine .inr ⟨[], record, records, stream, rfl, rfl, ?_, ?_⟩
      · exact (List.prefix_or_prefix_of_prefix cut (List.prefix_append _ _)).resolve_right whole
      · rintro rfl
        exact whole (List.prefix_refl _)

end Framing
