/-
This file proves that the damage scan is exact. The scan is embedded once more,
over the array of the descriptor it fills, where a write past the array has no
result. It never makes such a write, and it describes the same damage as the
scan over lists: the maximal runs of rows that differ, or the full frame where
there are more of them than the array holds.
-/

import Trigger6.Driver.Damage
import Trigger6.Lib.MaximalRuns

namespace Trigger6.Driver

open Bytes MaximalRuns

/-! ### The descriptor -/

/-- `struct t6_frame_damage`. -/
structure DamageDescriptor where
  ranges : List DirtyRange
  sized : ranges.length = maxDirtyRanges
  numRanges : Nat
  fullFrame : Bool

/-- `dmg->ranges[index] = range`, with no result past the array. -/
def DamageDescriptor.store (dmg : DamageDescriptor) (index : Nat) (range : DirtyRange) :
    Option DamageDescriptor :=
  if index < maxDirtyRanges then
    some { dmg with
      ranges := dmg.ranges.set index range
      sized := by rw [List.length_set, dmg.sized] }
  else
    none

/-- The damage a descriptor stands for. -/
def DamageDescriptor.damage (dmg : DamageDescriptor) : FrameDamage :=
  { ranges := dmg.ranges.take dmg.numRanges, fullFrame := dmg.fullFrame }

/-- The row loop of `t6_compute_frame_damage` on its descriptor. -/
def fillRows (dirty : Nat → Bool) :
    (left row : Nat) → DamageDescriptor → (inDirty : Bool) → Option DamageDescriptor
  | 0, _, dmg, inDirty =>
    some (if inDirty then { dmg with numRanges := dmg.numRanges + 1 } else dmg)
  | left + 1, row, dmg, inDirty =>
    match dirty row, inDirty with
    | true, false =>
      if maxDirtyRanges ≤ dmg.numRanges then
        some { dmg with fullFrame := true }
      else
        (dmg.store dmg.numRanges { yStart := row, yCount := 1 }).bind fun dmg =>
          fillRows dirty left (row + 1) dmg true
    | true, true =>
      (dmg.ranges[dmg.numRanges]?).bind fun range =>
        (dmg.store dmg.numRanges { range with yCount := range.yCount + 1 }).bind fun dmg =>
          fillRows dirty left (row + 1) dmg true
    | false, true =>
      fillRows dirty left (row + 1) { dmg with numRanges := dmg.numRanges + 1 } false
    | false, false => fillRows dirty left (row + 1) dmg false

/-- The bytes of one row in memory. -/
def rowAt (stride row : Nat) (bytes : List Byte) : List Byte :=
  (bytes.drop (row * stride)).take stride

/-- `t6_compute_frame_damage` on the descriptor it fills. -/
def fillFrameDamage (width height : Nat) (pixels : List Byte) (lastSentFrame : Option (List Byte))
    (lastSentValid : Bool) (dmg : DamageDescriptor) : Option DamageDescriptor :=
  let stride := width * 4 % 2 ^ 32
  let dmg := { dmg with numRanges := 0, fullFrame := true }
  match lastSentFrame with
  | some reference =>
    if lastSentValid then
      fillRows (fun row => rowAt stride row pixels != rowAt stride row reference) height 0
        { dmg with fullFrame := false } false
    else
      some dmg
  | none => some dmg

/-! ### The descriptor and the scan over lists -/

/-- The descriptor in the middle of a scan over lists. -/
structure DamageDescriptor.Holds (dmg : DamageDescriptor) (closed : List DirtyRange)
    (opened : Option DirtyRange) : Prop where
  ranges_eq : ∃ rest, dmg.ranges = closed ++ (opened.toList ++ rest)
  counted : dmg.numRanges = closed.length
  notFull : dmg.fullFrame = false

theorem DamageDescriptor.Holds.room {dmg : DamageDescriptor} {closed : List DirtyRange}
    {opened : Option DirtyRange} (holds : dmg.Holds closed opened) :
    dmg.numRanges + opened.toList.length ≤ maxDirtyRanges := by
  obtain ⟨rest, ranges_eq⟩ := holds.ranges_eq
  rw [← dmg.sized, ranges_eq, holds.counted, List.length_append, List.length_append]
  omega

/-- A store at the count keeps the closed ranges, and puts its range after them. -/
theorem DamageDescriptor.store_holds {dmg : DamageDescriptor} {closed : List DirtyRange}
    {old : DirtyRange} {rest : List DirtyRange} (ranges_eq : dmg.ranges = closed ++ old :: rest)
    (counted : dmg.numRanges = closed.length) (notFull : dmg.fullFrame = false)
    (range : DirtyRange) :
    ∃ stored, dmg.store dmg.numRanges range = some stored ∧ stored.Holds closed (some range) := by
  have inside : dmg.numRanges < maxDirtyRanges := by
    rw [← dmg.sized, ranges_eq, counted, List.length_append, List.length_cons]
    omega
  refine ⟨_, if_pos inside, ⟨rest, ?_⟩, counted, notFull⟩
  show dmg.ranges.set dmg.numRanges range = _
  rw [ranges_eq, counted, List.set_append_right _ _ le_rfl, Nat.sub_self, List.set_cons_zero]
  rfl

/-- The loop over the array makes no write past it, and describes what the loop over lists
does. -/
theorem fillRows_damage (dirty : Nat → Bool) (left : Nat) :
    ∀ (row : Nat) {dmg : DamageDescriptor} {closed : List DirtyRange} {opened : Option DirtyRange},
      dmg.Holds closed opened →
      ∃ filled, fillRows dirty left row dmg opened.isSome = some filled ∧
        filled.numRanges ≤ maxDirtyRanges ∧
        filled.damage = scanRows dirty left row closed opened := by
  induction left with
  | zero =>
    intro row dmg closed opened holds
    obtain ⟨rest, ranges_eq⟩ := holds.ranges_eq
    have room := holds.room
    refine ⟨_, rfl, ?_⟩
    cases opened with
    | none =>
      refine ⟨room, ?_⟩
      show FrameDamage.mk (dmg.ranges.take dmg.numRanges) dmg.fullFrame = ⟨closed ++ [], false⟩
      rw [holds.notFull, holds.counted, ranges_eq, List.take_left, List.append_nil]
    | some range =>
      refine ⟨room, ?_⟩
      show FrameDamage.mk (dmg.ranges.take (dmg.numRanges + 1)) dmg.fullFrame =
        ⟨closed ++ [range], false⟩
      rw [holds.notFull, holds.counted, ranges_eq, ← List.append_assoc, List.take_left']
      · rfl
      · rw [List.length_append]
        rfl
  | succ left inductionHypothesis =>
    intro row dmg closed opened holds
    obtain ⟨rest, ranges_eq⟩ := holds.ranges_eq
    cases reads : dirty row with
    | true =>
      cases opened with
      | none =>
        by_cases full : maxDirtyRanges ≤ closed.length
        · simp only [fillRows, scanRows, reads, Option.isSome_none, holds.counted, if_pos full]
          refine ⟨_, rfl, (Nat.le_add_right _ _).trans (holds.counted ▸ holds.room), ?_⟩
          show FrameDamage.mk (dmg.ranges.take closed.length) true = ⟨closed, true⟩
          rw [ranges_eq, List.take_left]
        · simp only [fillRows, scanRows, reads, Option.isSome_none, holds.counted, if_neg full]
          have room : 0 < rest.length := by
            have sized := dmg.sized
            rw [ranges_eq, List.length_append, Option.toList_none, List.nil_append] at sized
            omega
          obtain ⟨old, rest, rfl⟩ := List.exists_cons_of_length_pos room
          obtain ⟨stored, store, next⟩ := dmg.store_holds ranges_eq holds.counted holds.notFull
            { yStart := row, yCount := 1 }
          rw [← holds.counted, store]
          exact inductionHypothesis (row + 1) next
      | some range =>
        unfold fillRows scanRows
        rw [reads]
        have load : dmg.ranges[dmg.numRanges]? = some range := by
          rw [ranges_eq, holds.counted, List.getElem?_append_right le_rfl, Nat.sub_self]
          rfl
        obtain ⟨stored, store, next⟩ := dmg.store_holds ranges_eq holds.counted holds.notFull
          { range with yCount := range.yCount + 1 }
        show ∃ filled, (dmg.ranges[dmg.numRanges]?).bind _ = some filled ∧ _
        rw [load, Option.bind_some, store]
        exact inductionHypothesis (row + 1) next
    | false =>
      cases opened with
      | none =>
        unfold fillRows scanRows
        rw [reads]
        exact inductionHypothesis (row + 1) holds
      | some range =>
        unfold fillRows scanRows
        rw [reads]
        have next : DamageDescriptor.Holds { dmg with numRanges := dmg.numRanges + 1 }
            (closed ++ [range]) none := by
          refine ⟨⟨rest, ?_⟩, ?_, holds.notFull⟩
          · rw [ranges_eq, List.append_assoc]
            rfl
          · rw [List.length_append, ← holds.counted]
            rfl
        exact inductionHypothesis (row + 1) next

/-! ### The scan finds the maximal runs -/

def DirtyRange.run (range : DirtyRange) : Run := ⟨range.yStart, range.yCount⟩

theorem DirtyRange.run_injective : Function.Injective DirtyRange.run := by
  intro left right same
  cases left
  cases right
  cases same
  rfl

/-- The damage is the maximal runs of dirty rows, in increasing order and with clean rows between
them, where there are at most as many as the array holds, and the full frame otherwise. -/
structure FrameDamage.Exact (damage : FrameDamage) (dirty : Nat → Prop) (height : Nat) : Prop where
  fullFrame_iff : damage.fullFrame = false ↔
    {run : Run | run.Maximal dirty height}.encard ≤ maxDirtyRanges
  shows : damage.fullFrame = false → Shows dirty height (damage.ranges.map DirtyRange.run)

theorem scanRows_exact (dirty : Nat → Bool) (left : Nat) :
    ∀ {row : Nat} {closed : List DirtyRange} {opened : Option DirtyRange},
      Scanned (fun row => dirty row = true) row (closed.map DirtyRange.run)
        (opened.map DirtyRange.run) →
      closed.length + opened.toList.length ≤ maxDirtyRanges →
      (scanRows dirty left row closed opened).Exact (fun row => dirty row = true) (row + left) := by
  induction left with
  | zero =>
    intro row closed opened scanned room
    have shows : Shows (fun row => dirty row = true) row
        ((closed ++ opened.toList).map DirtyRange.run) := by
      rw [List.map_append, ← Option.toList_map]
      exact scanned.shows
    refine ⟨iff_of_true rfl ?_, fun _ => shows⟩
    rw [Nat.add_zero, shows.encard, List.length_map, List.length_append]
    exact Nat.cast_le.mpr room
  | succ left inductionHypothesis =>
    intro row closed opened scanned room
    rw [show row + (left + 1) = row + 1 + left by omega]
    unfold scanRows
    cases reads : dirty row with
    | true =>
      cases opened with
      | none =>
        have next : Scanned _ _ (closed.map DirtyRange.run)
            ((some ⟨row, 1⟩ : Option DirtyRange).map DirtyRange.run) := scanned.opens reads
        show (if maxDirtyRanges ≤ closed.length then _ else _ : FrameDamage).Exact _ _
        by_cases full : maxDirtyRanges ≤ closed.length
        · rw [if_pos full]
          -- the array is full, and one more run has just been found
          have many := next.length_le left
          rw [List.length_append, List.length_map] at many
          refine ⟨iff_of_false (fun same => nomatch same) fun few => ?_, fun same => nomatch same⟩
          have absurdly := Nat.cast_le.mp (many.trans few)
          exact absurd absurdly (Nat.not_le.mpr (Nat.lt_succ_of_le full))
        · rw [if_neg full]
          exact inductionHypothesis next (Nat.not_le.mp full)
      | some range =>
        exact inductionHypothesis (scanned.grows reads) room
    | false =>
      have clean : ¬ dirty row = true := by rw [reads]; exact Bool.false_ne_true
      cases opened with
      | none => exact inductionHypothesis (scanned.passes clean) room
      | some range =>
        have next : Scanned (fun row => dirty row = true) (row + 1)
            ((closed ++ [range]).map DirtyRange.run)
            ((none : Option DirtyRange).map DirtyRange.run) := by
          rw [List.map_append]
          exact scanned.closes clean
        exact inductionHypothesis next (by rw [List.length_append]; exact room)

/-- Every other row: 32 runs fit, and one more does not. -/
example : (scanRows (fun row => row % 2 == 0) 63 0 [] none).fullFrame = false ∧
    (scanRows (fun row => row % 2 == 0) 65 0 [] none).fullFrame = true := by
  decide

/-! ### The descriptor of two frames -/

/-- Some pixel byte of the row differs. -/
def RowDiffers (width : Nat) (pixels reference : List Byte) (row : Nat) : Prop :=
  ∃ offset < width * 4, pixels[row * (width * 4) + offset]? ≠ reference[row * (width * 4) + offset]?

theorem rowAt_ne_iff (width row : Nat) (pixels reference : List Byte) :
    (rowAt (width * 4) row pixels != rowAt (width * 4) row reference) = true ↔
      RowDiffers width pixels reference row := by
  rw [bne_iff_ne, ne_eq, List.ext_getElem?_iff, RowDiffers, rowAt, rowAt]
  push Not
  constructor
  · rintro ⟨offset, differs⟩
    have inside : offset < width * 4 := by
      by_contra beyond
      rw [List.getElem?_take_eq_none (Nat.not_lt.mp beyond),
        List.getElem?_take_eq_none (Nat.not_lt.mp beyond)] at differs
      exact differs rfl
    refine ⟨offset, inside, ?_⟩
    rwa [List.getElem?_take_of_lt inside, List.getElem?_take_of_lt inside, List.getElem?_drop,
      List.getElem?_drop] at differs
  · rintro ⟨offset, inside, differs⟩
    refine ⟨offset, ?_⟩
    rwa [List.getElem?_take_of_lt inside, List.getElem?_take_of_lt inside, List.getElem?_drop,
      List.getElem?_drop]

/-- The damage of a frame against a reference, by the scan over lists. -/
theorem fillFrameDamage_damage (width height : Nat) (pixels : List Byte)
    (lastSentFrame : Option (List Byte)) (lastSentValid : Bool) (dmg : DamageDescriptor) :
    ∃ filled, fillFrameDamage width height pixels lastSentFrame lastSentValid dmg = some filled ∧
      filled.numRanges ≤ maxDirtyRanges ∧
      filled.damage = match lastSentFrame with
        | some reference =>
          if lastSentValid then
            scanRows (fun row => rowAt (width * 4 % 2 ^ 32) row pixels !=
              rowAt (width * 4 % 2 ^ 32) row reference) height 0 [] none
          else { ranges := [], fullFrame := true }
        | none => { ranges := [], fullFrame := true } := by
  cases lastSentFrame with
  | none => exact ⟨_, rfl, Nat.zero_le _, rfl⟩
  | some reference =>
    cases lastSentValid with
    | false => exact ⟨_, rfl, Nat.zero_le _, rfl⟩
    | true =>
      have start : DamageDescriptor.Holds { dmg with numRanges := 0, fullFrame := false } [] none :=
        ⟨⟨_, rfl⟩, rfl, rfl⟩
      exact fillRows_damage _ height 0 start

/-- The driver's scan over lists finds the damage that the scan over the array fills in. -/
theorem computeFrameDamage_filled {c : Config} (pixels : Frame c)
    (lastSentFrame : Option (Frame c)) (lastSentValid : Bool) (dmg : DamageDescriptor) :
    ∃ filled, fillFrameDamage c.width c.height pixels.bytes (lastSentFrame.map Buffer.bytes)
        lastSentValid dmg = some filled ∧
      filled.damage = computeFrameDamage pixels lastSentFrame lastSentValid := by
  have wide : c.width * 4 % 2 ^ 32 = c.width * 4 := by
    refine Nat.mod_eq_of_lt ?_
    have area : (c.width + 32) * 4 * 32 ≤ (c.width + 32) * 4 * (c.height + 32) :=
      Nat.mul_le_mul_left _ (Nat.le_add_left _ _)
    have bound := c.fits
    omega
  obtain ⟨filled, fills, -, damage⟩ := fillFrameDamage_damage c.width c.height pixels.bytes
    (lastSentFrame.map Buffer.bytes) lastSentValid dmg
  refine ⟨filled, fills, damage.trans ?_⟩
  rw [wide]
  cases lastSentFrame <;> rfl

/-- The damage scan makes no write past its array. Without a valid reference it asks for the full
frame. With one it asks for less exactly when the rows that differ make at most 32 maximal runs,
and then its ranges are these runs, in increasing order, and cover exactly the rows that
differ. -/
theorem frame_damage_exact (width height : Nat) (wide : width * 4 < 2 ^ 32)
    (pixels : Buffer (width * 4 * height)) (lastSentFrame : Option (Buffer (width * 4 * height)))
    (lastSentValid : Bool) (dmg : DamageDescriptor) :
    ∃ filled, fillFrameDamage width height pixels.bytes (lastSentFrame.map Buffer.bytes)
        lastSentValid dmg = some filled ∧
      filled.numRanges ≤ maxDirtyRanges ∧
      (lastSentFrame = none ∨ lastSentValid = false → filled.damage.fullFrame = true) ∧
      ∀ reference, lastSentFrame = some reference → lastSentValid = true →
        filled.damage.Exact (RowDiffers width pixels.bytes reference.bytes) height ∧
        (filled.damage.fullFrame = false → ∀ row < height,
          RowDiffers width pixels.bytes reference.bytes row ↔
            ∃ range ∈ filled.damage.ranges, range.yStart ≤ row ∧ row < range.yStart + range.yCount)
    := by
  obtain ⟨filled, fills, room, damage⟩ := fillFrameDamage_damage width height pixels.bytes
    (lastSentFrame.map Buffer.bytes) lastSentValid dmg
  rw [Nat.mod_eq_of_lt wide] at damage
  refine ⟨filled, fills, room, ?_, ?_⟩
  · rintro (rfl | rfl)
    · rw [damage]
      rfl
    · rw [damage]
      cases lastSentFrame <;> rfl
  · rintro reference rfl rfl
    have differs : (fun row => (rowAt (width * 4) row pixels.bytes !=
        rowAt (width * 4) row reference.bytes) = true) =
          RowDiffers width pixels.bytes reference.bytes :=
      funext fun row => propext (rowAt_ne_iff width row pixels.bytes reference.bytes)
    have exactly : filled.damage.Exact (RowDiffers width pixels.bytes reference.bytes) height := by
      have scanned := @scanRows_exact (fun row => rowAt (width * 4) row pixels.bytes !=
        rowAt (width * 4) row reference.bytes) height 0 [] none scanned_zero (Nat.zero_le _)
      rw [Nat.zero_add, differs] at scanned
      rw [damage]
      exact scanned
    refine ⟨exactly, fun ranged row below => ?_⟩
    rw [(exactly.shows ranged).covers below]
    constructor
    · rintro ⟨run, member, inside⟩
      obtain ⟨range, ranged, rfl⟩ := List.mem_map.mp member
      exact ⟨range, ranged, inside⟩
    · rintro ⟨range, member, inside⟩
      exact ⟨range.run, List.mem_map_of_mem member, inside⟩

/-- A frame of three rows of one pixel that differs from its reference in the last. -/
theorem frame_damage_last_row :
    ∃ filled, fillFrameDamage 1 3 (List.replicate 11 0 ++ [1]) (some (List.replicate 12 0)) true
        { ranges := List.replicate 32 ⟨0, 0⟩, sized := rfl, numRanges := 7, fullFrame := false } =
          some filled ∧
      filled.damage.ranges = [{ yStart := 2, yCount := 1 }] := by
  obtain ⟨filled, fills, -⟩ := frame_damage_exact 1 3 (by decide)
    ⟨List.replicate 11 0 ++ [1], rfl⟩ (some ⟨List.replicate 12 0, rfl⟩) true
    { ranges := List.replicate 32 ⟨0, 0⟩, sized := rfl, numRanges := 7, fullFrame := false }
  refine ⟨filled, fills, ?_⟩
  have same := Option.some.inj (Eq.symm fills)
  rw [same]
  rfl

end Trigger6.Driver
