/-
This file embeds the query of the firmware's timing table: the count, one page
of at most sixteen records, and the lines that the driver prints of them. The
count comes from the firmware and is bounded before it is multiplied.
-/

import Trigger6.Driver.Usb
import Trigger6.Lib.Text
import Trigger6.Lib.Transcript

namespace Trigger6.Diagnostics

open Bytes Driver Interaction Text

variable {c : Config}

def resMaxEntries : Nat := 16

/-- `t6_timing_query_entries`. -/
def timingQueryEntries (count : Nat) : Nat :=
  if count < resMaxEntries then count else resMaxEntries

/-- The bytes of a record of the page. -/
def tableEntry (table : List Byte) (index : Nat) : List Byte :=
  (table.drop (index * resEntrySize)).take resEntrySize

def timingHeader (total captured bytes start : Nat) : List Char :=
  "Timing query head 0: total=".toList ++ (decimal total ++ (" captured=".toList ++
    (decimal captured ++ (" bytes=".toList ++ (decimal bytes ++ (" start=".toList ++
      (decimal start ++ "; raw diagnostic only".toList)))))))

/-- What `%*phN` prints of a record are its hex digits without separators. -/
def timingRecord (index : Nat) (entry : List Byte) : List Char :=
  "T6 timing[".toList ++ (decimal index ++ ("]: ".toList ++ hex entry))

/-- The lines printed of a page. -/
def timingLines (count first entries : Nat) (table : List Byte) : List (List Char) :=
  timingHeader count entries (entries * resEntrySize) first ::
    (List.range entries).map fun i => timingRecord (first + i) (tableEntry table i)

/-- The record the page begins with. -/
def firstEntry (c : Config) : Nat := if c.queryTimingPage1 then resMaxEntries else 0

/-- The unsigned difference `count - first`. -/
def remainingEntries (count first : Nat) : Nat := (count + 2 ^ 32 - first) % 2 ^ 32

/-- `t6_query_head0_timings`, which returns the lines it prints of the page. -/
def queryHead0Timings : Fallible c (List (List Char)) := do
  if !c.queryOnly || !c.queryTimings || c.selected != .primary || !c.connected .primary ||
      c.status .primary != 1 || !c.edidValid .primary then
    throw .noDevice
  let countLe ← ctrlIn reqGetResCount 0 0 4
  if countLe.length ≠ 4 then throw .io
  if c.queryTimingPage1 && fromLittleEndian countLe != 36 then throw .protocol
  let entries := timingQueryEntries (remainingEntries (fromLittleEndian countLe) (firstEntry c))
  if entries = 0 then throw .protocol
  if !(← lift (act .ask)).allocated then throw .noMemory
  let table ← ctrlIn reqGetResTable 0 (firstEntry c * resEntrySize) (entries * resEntrySize)
  if table.length ≠ entries * resEntrySize then throw .io
  return timingLines (fromLittleEndian countLe) (firstEntry c) entries table

/-! ### What an accepted page is -/

/-- The device's complete answer to a request of this size. -/
def Served (history : Transcript (calls c)) (request index size : Nat) (data : List Byte) : Prop :=
  data.length = size ∧ ∃ outcome answered,
    (⟨.submit latchCheck true (.controlIn request 0 index size), .returned outcome answered⟩ :
      Call (calls c)) ∈ history ∧ outcome.complete (.controlIn request 0 index size) = true ∧
    data = answered.take size

/-- A count and a page of the firmware that the query accepts, and how many records it has. -/
structure AcceptedPage (c : Config) (history : Transcript (calls c)) (count entries : Nat)
    (table : List Byte) : Prop where
  counted : ∃ countLe, Served history reqGetResCount 0 4 countLe ∧ count = fromLittleEndian countLe
  served : Served history reqGetResTable (firstEntry c * resEntrySize) (entries * resEntrySize) table
  continued : c.queryTimingPage1 = true → count = 36
  entries_eq : entries = min (count - firstEntry c) resMaxEntries
  positive : 0 < entries

theorem Served.mono {history later : Transcript (calls c)} {request index size : Nat}
    {data : List Byte} (served : Served history request index size data)
    (grows : ∀ call ∈ history, call ∈ later) : Served later request index size data := by
  obtain ⟨length, outcome, answered, member, complete, same⟩ := served
  exact ⟨length, outcome, answered, grows _ member, complete, same⟩

/-- The numbers of an accepted page are those that a log may have. -/
theorem AcceptedPage.bounds {history : Transcript (calls c)} {count entries : Nat}
    {table : List Byte} (page : AcceptedPage c history count entries table) :
    (firstEntry c = 0 ∨ firstEntry c = 16) ∧ firstEntry c < count ∧ count < 2 ^ 32 ∧
      entries ≤ 16 ∧ (firstEntry c = 16 → count = 36) := by
  obtain ⟨countLe, served, same⟩ := page.counted
  have small := fromLittleEndian_lt countLe
  rw [served.1, ← same] at small
  have entriesEq := page.entries_eq
  have positive := page.positive
  rw [resMaxEntries] at entriesEq
  refine ⟨?_, by omega, small, by omega, fun continuation => ?_⟩
  · rw [firstEntry]
    split
    · exact .inr rfl
    · exact .inl rfl
  · refine page.continued ?_
    by_contra first
    rw [firstEntry, if_neg first] at continuation
    cases continuation

theorem timingQueryEntries_eq (count : Nat) : timingQueryEntries count = min count resMaxEntries := by
  rw [timingQueryEntries]
  split <;> omega

end Trigger6.Diagnostics
