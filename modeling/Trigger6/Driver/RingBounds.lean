/-
This file proves what the command ring and the framebuffer slots of the
secondary head are safe from. Over every sequence of sends, JPEG or raw, a
command stays inside the ring, its flip names a slot other than the last one,
and a send that fails moves nothing. A command may overwrite the one before it:
where a large command wraps, it does so exactly when the one before it reached
back far enough.
-/

import Mathlib.Order.CompletePartialOrder
import Mathlib.Order.Interval.Set.Disjoint
import Trigger6.Driver.CommandRing

namespace Trigger6.Driver

open Bytes Interaction

variable {c : Config}

/-! ### The ring and the slots -/

theorem cmdBaseAddr_secondary : cmdBaseAddr .secondary = 40 * mebibyte := by
  rw [mebibyte_eq]
  rfl

/-- The layout of a head that is not raw does not depend on its transport. -/
theorem slots_encoded (encoded : c.secondaryTransport ≠ .raw) :
    cmdLimitAddr c .secondary = 46 * mebibyte ∧ fbSlotCount c .secondary = 3 ∧
      fbSlots c .secondary 0 = 46 * mebibyte ∧ fbSlots c .secondary 1 = 50 * mebibyte ∧
      fbSlots c .secondary 2 = 54 * mebibyte := by
  rw [cmdLimitAddr, mebibyte_eq]
  unfold fbSlots fbSlotCount Config.transport
  cases transport : c.secondaryTransport with
  | raw => exact absurd transport encoded
  | jpegCmd => exact ⟨rfl, rfl, rfl, rfl, rfl⟩
  | userJpeg => exact ⟨rfl, rfl, rfl, rfl, rfl⟩
  | nv12 => exact ⟨rfl, rfl, rfl, rfl, rfl⟩

theorem slots_raw (raw : c.secondaryTransport = .raw) :
    cmdLimitAddr c .secondary = 42 * mebibyte ∧ fbSlotCount c .secondary = 2 ∧
      fbSlots c .secondary 0 = 42 * mebibyte ∧ fbSlots c .secondary 1 = 50 * mebibyte := by
  rw [cmdLimitAddr, mebibyte_eq]
  unfold fbSlots fbSlotCount Config.transport
  rw [raw]
  exact ⟨rfl, rfl, rfl, rfl⟩

theorem limit_le (c : Config) : 42 * mebibyte ≤ cmdLimitAddr c .secondary ∧
    cmdLimitAddr c .secondary ≤ 46 * mebibyte := by
  by_cases raw : c.secondaryTransport = .raw
  · rw [(slots_raw raw).1]
    omega
  · rw [(slots_encoded raw).1]
    omega

/-- There are two slots or more, and none of them begins before the ring ends. -/
theorem slots_beyond (c : Config) : 1 < fbSlotCount c .secondary ∧
    ∀ slot < fbSlotCount c .secondary,
      slotAddr c .secondary slot = fbSlots c .secondary slot ∧
        cmdLimitAddr c .secondary ≤ fbSlots c .secondary slot := by
  have positive : 0 < mebibyte := by
    rw [mebibyte_eq]
    decide
  have present : ∀ slot, 0 < fbSlots c .secondary slot →
      slotAddr c .secondary slot = fbSlots c .secondary slot :=
    fun slot used => if_pos (Nat.pos_iff_ne_zero.mp used)
  by_cases raw : c.secondaryTransport = .raw
  · obtain ⟨limit, count, first, second⟩ := slots_raw raw
    refine ⟨by omega, fun slot below => ?_⟩
    obtain rfl | rfl : slot = 0 ∨ slot = 1 := by omega
    · exact ⟨present 0 (by omega), by omega⟩
    · exact ⟨present 1 (by omega), by omega⟩
  · obtain ⟨limit, count, first, second, third⟩ := slots_encoded raw
    refine ⟨by omega, fun slot below => ?_⟩
    obtain rfl | rfl | rfl : slot = 0 ∨ slot = 1 ∨ slot = 2 := by omega
    · exact ⟨present 0 (by omega), by omega⟩
    · exact ⟨present 1 (by omega), by omega⟩
    · exact ⟨present 2 (by omega), by omega⟩

/-- The slot after a slot is another one. -/
theorem nextSlot_other {head : HeadId} {slot : Nat} (many : 1 < fbSlotCount c head)
    (valid : slot < fbSlotCount c head) :
    nextSlot c head slot < fbSlotCount c head ∧ nextSlot c head slot ≠ slot := by
  rw [nextSlot, if_pos many]
  refine ⟨Nat.mod_lt _ (by omega), ?_⟩
  rcases Nat.lt_or_ge (slot + 1) (fbSlotCount c head) with inner | last
  · rw [Nat.mod_eq_of_lt inner]
    omega
  · rw [show slot + 1 = fbSlotCount c head by omega, Nat.mod_self]
    omega

/-- The place of a command: at the cursor while its step fits there, and at the base after
that. -/
theorem cmdAddrFor_eq {cursor step : Nat} (high : cursor ≤ cmdLimitAddr c .secondary)
    (small : step ≤ 3 * mebibyte) :
    cmdAddrFor c .secondary cursor step =
      if cmdLimitAddr c .secondary < cursor + step then cmdBaseAddr .secondary else cursor := by
  have limit := limit_le c
  have base := cmdBaseAddr_secondary
  have unit := mebibyte_eq
  have whole : (cursor + step) % 2 ^ 32 = cursor + step := Nat.mod_eq_of_lt (by omega)
  rw [cmdAddrFor, cmdWraps, whole]
  have ring : cmdBaseAddr .secondary < cmdLimitAddr c .secondary := by omega
  rw [decide_eq_true ring, Bool.true_and]
  by_cases wraps : cmdLimitAddr c .secondary < cursor + step
  · rw [if_pos wraps, if_pos (decide_eq_true wraps)]
  · rw [if_neg wraps, if_neg (by simpa using wraps)]

/-- The cursor lies in the ring, and the slot is one of the slots. -/
structure InRing (c : Config) (stream : Stream) : Prop where
  low : cmdBaseAddr .secondary ≤ stream.cursor
  high : stream.cursor ≤ cmdLimitAddr c .secondary
  slot : stream.slot < fbSlotCount c .secondary

theorem inRing_reset (previous : Sender c) :
    InRing c (resetHeadStreamState .secondary previous).stream := by
  have limit := (limit_le c).1
  have base := cmdBaseAddr_secondary
  refine ⟨le_rfl, ?_, ?_⟩
  · show cmdBaseAddr .secondary ≤ _
    omega
  · show (if 1 < fbSlotCount c .secondary then 1 else 0) < _
    rw [if_pos (slots_beyond c).1]
    exact (slots_beyond c).1

/-- A command whose step the ring has room for lies in it, and names the slot after the last. -/
theorem InRing.command {stream : Stream} (inside : InRing c stream) (size : Nat) {step : Nat}
    (room : cmdBaseAddr .secondary + step ≤ cmdLimitAddr c .secondary) (small : step ≤ 3 * mebibyte) :
    cmdBaseAddr .secondary ≤ (stream.command c size step).address ∧
      (stream.command c size step).address + step ≤ cmdLimitAddr c .secondary ∧
      (stream.command c size step).slot < fbSlotCount c .secondary ∧
      (stream.command c size step).slot ≠ stream.slot ∧
      InRing c (stream.next (stream.command c size step)) := by
  obtain ⟨valid, other⟩ := nextSlot_other (slots_beyond c).1 inside.slot
  have limit := limit_le c
  have unit := mebibyte_eq
  have low := inside.low
  have place : cmdBaseAddr .secondary ≤ cmdAddrFor c .secondary stream.cursor step ∧
      cmdAddrFor c .secondary stream.cursor step + step ≤ cmdLimitAddr c .secondary := by
    rw [cmdAddrFor_eq inside.high small]
    split <;> omega
  have whole : (cmdAddrFor c .secondary stream.cursor step + step) % 2 ^ 32 =
      cmdAddrFor c .secondary stream.cursor step + step := Nat.mod_eq_of_lt (by omega)
  refine ⟨place.1, place.2, valid, other, ?_, ?_, valid⟩
  · show _ ≤ (cmdAddrFor c .secondary stream.cursor step + step) % 2 ^ 32
    omega
  · show (cmdAddrFor c .secondary stream.cursor step + step) % 2 ^ 32 ≤ _
    omega

theorem cmdStepFor_cases {total step : Nat} (fits : cmdStepFor total = some step) :
    total ≤ step ∧ (step = mebibyte ∨ step = 2 * mebibyte ∧ mebibyte < total ∨
      step = 3 * mebibyte ∧ 2 * mebibyte < total) := by
  unfold cmdStepFor at fits
  split at fits
  · obtain rfl := Option.some.inj fits
    omega
  · split at fits
    · obtain rfl := Option.some.inj fits
      omega
    · split at fits
      · obtain rfl := Option.some.inj fits
        omega
      · cases fits

/-- No two slots have one address. -/
theorem slotAddr_injective {first second : Nat} (firstValid : first < fbSlotCount c .secondary)
    (secondValid : second < fbSlotCount c .secondary)
    (same : slotAddr c .secondary first = slotAddr c .secondary second) : first = second := by
  have unit := mebibyte_eq
  rw [((slots_beyond c).2 first firstValid).1, ((slots_beyond c).2 second secondValid).1] at same
  by_cases raw : c.secondaryTransport = .raw
  · obtain ⟨-, count, zero, one⟩ := slots_raw raw
    obtain rfl | rfl : first = 0 ∨ first = 1 := by omega
    all_goals obtain rfl | rfl : second = 0 ∨ second = 1 := by omega
    all_goals omega
  · obtain ⟨-, count, zero, one, two⟩ := slots_encoded raw
    obtain rfl | rfl | rfl : first = 0 ∨ first = 1 ∨ first = 2 := by omega
    all_goals obtain rfl | rfl | rfl : second = 0 ∨ second = 1 ∨ second = 2 := by omega
    all_goals omega

/-! ### Bounds over every sequence of sends -/

namespace CommandSender

variable {Input : Type} (sender : CommandSender c Input)

/-- Every command takes a step that the ring has room for. -/
def Fits : Prop :=
  ∀ input stream command, sender.command input stream = some command →
    ∃ size step, command = stream.command c size step ∧ size ≤ step ∧
      cmdBaseAddr .secondary + step ≤ cmdLimitAddr c .secondary ∧ step ≤ 3 * mebibyte

/-- What holds of a sequence of calls on the ring and the slots. The effects say that a command
goes out, whole or in part, as its call issued it. -/
structure Bounded (attempts : List (Attempt c Input)) : Prop where
  effects : ∀ attempt ∈ attempts,
    Effect (sender.lead attempt.input) (sender.issued attempt) attempt.before attempt.result
      attempt.after
  contained : ∀ attempt ∈ attempts, ∀ command, sender.issued attempt = some command →
    cmdBaseAddr .secondary ≤ command.address ∧
      command.address + command.size ≤ cmdLimitAddr c .secondary
  valid : ∀ attempt ∈ attempts, ∀ command, sender.issued attempt = some command →
    command.slot < fbSlotCount c .secondary
  alternates : ∀ earlier first between second later sent command,
    attempts = earlier ++ first :: (between ++ second :: later) → sender.Sends first sent →
    (∀ attempt ∈ between, ∀ other, ¬ sender.Sends attempt other) →
    sender.issued second = some command →
    command.slot ≠ sent.slot ∧
      slotAddr c .secondary command.slot ≠ slotAddr c .secondary sent.slot
  unmoved : ∀ attempt ∈ attempts, ∀ errno, attempt.result = .error errno →
    attempt.after.stream = attempt.before.stream

variable {sender}

/-- One command of a sender whose commands fit the ring. -/
theorem Fits.inRing (fits : sender.Fits) {input : Input} {stream : Stream} {command : Command}
    (inside : InRing c stream) (issued : sender.command input stream = some command) :
    cmdBaseAddr .secondary ≤ command.address ∧
      command.address + command.size ≤ cmdLimitAddr c .secondary ∧
      command.slot < fbSlotCount c .secondary ∧ command.slot ≠ stream.slot ∧
      InRing c (stream.next command) := by
  obtain ⟨size, step, rfl, whole, room, small⟩ := fits input stream command issued
  obtain ⟨low, high, valid, other, next⟩ := inside.command size room small
  exact ⟨low, (Nat.add_le_add_left whole _).trans high, valid, other, next⟩

/-- Calls that start in the ring stay in it. -/
theorem Fits.bounded (fits : sender.Fits) {attempts : List (Attempt c Input)} {dev : Dev c}
    (linked : sender.Linked dev attempts) (start : InRing c dev.stream) :
    sender.Bounded attempts := by
  have kept := linked.invariant
    (fun stream input command inside issued => (fits.inRing inside issued).2.2.2.2) start
  constructor
  case effects => exact fun attempt member => (kept attempt member).2
  case contained =>
    intro attempt member command issued
    obtain ⟨low, high, -⟩ := fits.inRing (kept attempt member).1 issued
    exact ⟨low, high⟩
  case valid =>
    intro attempt member command issued
    exact (fits.inRing (kept attempt member).1 issued).2.2.1
  case alternates =>
    rintro earlier first between second later sent command rfl sends silent issued
    have stream := linked.consecutive sends silent
    have firstRing := (kept first (by simp)).1
    have secondRing := (kept second (by simp)).1
    have sentValid := (fits.inRing firstRing sends.1).2.2.1
    obtain ⟨-, -, valid, other, -⟩ := fits.inRing secondRing issued
    rw [stream] at other
    exact ⟨other, fun same => other (slotAddr_injective valid sentValid same)⟩
  case unmoved =>
    intro attempt member errno failed
    rcases sender.stream_after (kept attempt member).2 with ⟨command, sends, -⟩ | ⟨-, same⟩
    · exact nomatch failed.symm.trans sends.2
    · exact same

end CommandSender

theorem blobSender_fits (encoded : c.secondaryTransport ≠ .raw) : (blobSender c).Fits := by
  intro input stream command issued
  have issued : blobCommand c input.2.val stream = some command := issued
  rw [blobCommand] at issued
  split at issued
  · cases issued
  · obtain ⟨step, fits, rfl⟩ := Option.map_eq_some_iff.mp issued
    obtain ⟨whole, sizes⟩ := cmdStepFor_cases fits
    have limit := (slots_encoded encoded).1
    have base := cmdBaseAddr_secondary
    exact ⟨_, step, rfl, whole, by omega, by omega⟩

theorem frameSender_fits : (frameSender c).Fits := by
  intro input stream command issued
  have issued : frameCommand c input.damage stream = some command := issued
  rw [frameCommand] at issued
  split at issued
  · cases issued
  · have limit := limit_le c
    have base := cmdBaseAddr_secondary
    have unit := mebibyte_eq
    have header : sizeofFlipHeader ≤ mebibyte := by
      rw [mebibyte_eq, sizeofFlipHeader]
      decide
    exact ⟨_, _, (Option.some.inj issued).symm, by omega, by omega, by omega⟩

/-- From a stream that was reset, and whatever the device does: every call comes to its end, every
command it writes lies in the ring, and so before the framebuffers, its flip names a valid slot
other than that of the last flip that was sent, and a call that fails leaves the stream. -/
theorem command_ring_bounds (thread : Thread) (dev : Dev c) (previous : Sender c)
    (reset : (dev.heads .secondary).sender = resetHeadStreamState .secondary previous) :
    (∀ slot < fbSlotCount c .secondary, cmdLimitAddr c .secondary ≤ slotAddr c .secondary slot) ∧
    (c.secondaryTransport ≠ .raw → ∀ calls,
      ((blobSender c).run thread dev calls).length = calls.length ∧
        (blobSender c).Bounded ((blobSender c).run thread dev calls)) ∧
    (c.secondaryTransport = .raw → ∀ calls,
      ((frameSender c).run thread dev calls).length = calls.length ∧
        (frameSender c).Bounded ((frameSender c).run thread dev calls)) := by
  have start : InRing c dev.stream := by
    rw [Dev.stream, reset]
    exact inRing_reset previous
  refine ⟨fun slot valid => ?_, fun encoded calls => ?_, fun raw calls => ?_⟩
  · obtain ⟨address, beyond⟩ := (slots_beyond c).2 slot valid
    rw [address]
    exact beyond
  · obtain ⟨inputs, linked⟩ := (blobSender c).run_linked thread calls dev
    have length := congrArg List.length inputs
    rw [List.length_map, List.length_map] at length
    exact ⟨length, (blobSender_fits encoded).bounded linked start⟩
  · obtain ⟨inputs, linked⟩ := (frameSender c).run_linked thread calls dev
    have length := congrArg List.length inputs
    rw [List.length_map, List.length_map] at length
    exact ⟨length, frameSender_fits.bounded linked start⟩

/-- A blob on the sample device, and a raw frame on one with a raw secondary head. -/
theorem command_ring_bounds_sample :
    (blobSender sampleConfig).Bounded ((blobSender sampleConfig).run (.worker .secondary)
      (.probed sampleConfig) [((.inPlace, ⟨100, by rw [jpegPaddingSize_eq]; decide⟩),
        fun _ => (false, { actual := 2000 }))]) ∧
    (frameSender { sampleConfig with secondaryTransport := .raw }).Bounded
      ((frameSender { sampleConfig with secondaryTransport := .raw }).run (.worker .secondary)
        (.probed _) [(⟨.zeroed _, false, 16, none⟩, fun _ => (false, { actual := 2000 }))]) :=
  ⟨((command_ring_bounds (.worker .secondary) (.probed sampleConfig)
      (.probed sampleConfig .secondary) rfl).2.1 (fun raw => nomatch raw) _).2,
    ((command_ring_bounds (.worker .secondary)
      (.probed { sampleConfig with secondaryTransport := .raw })
      (.probed { sampleConfig with secondaryTransport := .raw } .secondary) rfl).2.2 rfl _).2⟩

/-! ### A command and the one before it -/

/-- The memory a command is written to. -/
def Command.bucket (command : Command) : Set Nat :=
  Set.Ico command.address (command.address + command.size)

/-- The size of the record of a blob. -/
def blobSize (len : Nat) : Nat := sizeofFlipHeader + len + jpegPaddingSize

/-- A blob of more than two mebibytes wraps and reaches the blob before it: at the fourth mebibyte
of the ring after one that took more than one mebibyte, and at the fifth after one that took more
than two. -/
def ReachesLast (last : Nat) (stream : Stream) (len : Nat) : Prop :=
  2 * mebibyte < blobSize len ∧
    (stream.cursor = 44 * mebibyte ∧ mebibyte < blobSize last ∨
      stream.cursor = 45 * mebibyte ∧ 2 * mebibyte < blobSize last)

/-- A stream whose cursor has walked the ring in whole mebibytes. -/
def Walked (stream : Stream) : Prop :=
  ∃ units ≤ 6, stream.cursor = (40 + units) * mebibyte

theorem cmdStepFor_units {total step : Nat} (fits : cmdStepFor total = some step) :
    ∃ units, step = units * mebibyte ∧ units ≤ 3 ∧ total ≤ units * mebibyte ∧
      (units = 1 ∨ (units - 1) * mebibyte < total ∧ 2 ≤ units) := by
  obtain ⟨whole, rfl | ⟨rfl, large⟩ | ⟨rfl, large⟩⟩ := cmdStepFor_cases fits
  · exact ⟨1, by omega, by omega, by omega, .inl rfl⟩
  · exact ⟨2, by omega, by omega, by omega, .inr (by omega)⟩
  · exact ⟨3, by omega, by omega, by omega, .inr (by omega)⟩

/-- Where a command of some mebibytes goes, and where the next one would. -/
theorem command_units (encoded : c.secondaryTransport ≠ .raw) {stream : Stream} {units step : Nat}
    (size : Nat) (at_ : stream.cursor = (40 + units) * mebibyte) (inside : units ≤ 6)
    (small : step ≤ 3) :
    (stream.command c size (step * mebibyte)).address =
        (40 + if 6 < units + step then 0 else units) * mebibyte ∧
      (stream.next (stream.command c size (step * mebibyte))).cursor =
        (40 + (if 6 < units + step then 0 else units) + step) * mebibyte := by
  obtain ⟨limit, -⟩ := slots_encoded encoded
  have base := cmdBaseAddr_secondary
  have address : (stream.command c size (step * mebibyte)).address =
      (40 + if 6 < units + step then 0 else units) * mebibyte := by
    show cmdAddrFor c .secondary stream.cursor (step * mebibyte) = _
    have high : stream.cursor ≤ cmdLimitAddr c .secondary := by
      rw [limit, at_]
      exact Nat.mul_le_mul_right _ (by omega)
    rw [cmdAddrFor_eq high (Nat.mul_le_mul_right _ small), limit, base, at_, mebibyte_eq]
    split <;> split <;> omega
  refine ⟨address, ?_⟩
  show ((stream.command c size (step * mebibyte)).address + step * mebibyte) % 2 ^ 32 = _
  rw [address, mebibyte_eq]
  split <;> omega

/-- A blob's command keeps the walk of the cursor. -/
theorem Walked.command (encoded : c.secondaryTransport ≠ .raw) {stream : Stream} {len : Nat}
    {command : Command} (walked : Walked stream)
    (issued : blobCommand c len stream = some command) : Walked (stream.next command) := by
  obtain ⟨units, inside, at_⟩ := walked
  rw [blobCommand] at issued
  split at issued
  · cases issued
  · obtain ⟨step, fits, rfl⟩ := Option.map_eq_some_iff.mp issued
    obtain ⟨steps, rfl, small, -, -⟩ := cmdStepFor_units fits
    refine ⟨(if 6 < units + steps then 0 else units) + steps, ?_, ?_⟩
    · split <;> omega
    · rw [(command_units encoded _ at_ inside small).2, Nat.add_assoc]

theorem walked_reset (previous : Sender c) :
    Walked (resetHeadStreamState .secondary previous).stream :=
  ⟨0, by omega, cmdBaseAddr_secondary⟩

/-- A record at the base reaches into the last one, which begins some mebibytes behind it. -/
theorem reaches_wrapped {place steps more last size : Nat} (room : place + steps ≤ 6)
    (wraps : 6 < place + steps + more) (whole : last ≤ steps * 1048576)
    (least : steps = 1 ∨ (steps - 1) * 1048576 < last ∧ 2 ≤ steps) (small : steps ≤ 3)
    (wholeMore : size ≤ more * 1048576)
    (leastMore : more = 1 ∨ (more - 1) * 1048576 < size ∧ 2 ≤ more) (smallMore : more ≤ 3) :
    size ≤ place * 1048576 ↔ ¬ (2 * 1048576 < size ∧
      (place + steps = 4 ∧ 1048576 < last ∨ place + steps = 5 ∧ 2 * 1048576 < last)) := by
  obtain rfl | rfl | rfl : more = 1 ∨ more = 2 ∨ more = 3 := by omega
  case inl | inr.inl => omega
  obtain rfl | rfl | rfl : steps = 1 ∨ steps = 2 ∨ steps = 3 := by omega
  all_goals omega

/-- Of two blobs in a row, the second is written over the first exactly when it reaches it. -/
theorem bucket_disjoint_iff (encoded : c.secondaryTransport ≠ .raw) {stream : Stream}
    {last len : Nat} {sent command : Command} (walked : Walked stream)
    (first : blobCommand c last stream = some sent)
    (second : blobCommand c len (stream.next sent) = some command) :
    Disjoint sent.bucket command.bucket ↔ ¬ ReachesLast last (stream.next sent) len := by
  have unit := mebibyte_eq
  have next := walked.command encoded first
  obtain ⟨units, inside, at_⟩ := walked
  rw [blobCommand] at first second
  split at first
  · cases first
  split at second
  · cases second
  obtain ⟨step, fits, rfl⟩ := Option.map_eq_some_iff.mp first
  obtain ⟨steps, rfl, small, whole, least⟩ := cmdStepFor_units fits
  obtain ⟨address, cursor⟩ := command_units encoded
    (sizeofFlipHeader + last + jpegPaddingSize) at_ inside small
  obtain ⟨moved, room, at_⟩ := next
  obtain ⟨step, fits, rfl⟩ := Option.map_eq_some_iff.mp second
  obtain ⟨more, rfl, smallMore, wholeMore, leastMore⟩ := cmdStepFor_units fits
  obtain ⟨addressMore, -⟩ := command_units encoded
    (sizeofFlipHeader + len + jpegPaddingSize) at_ room smallMore
  have same : (if 6 < units + steps then 0 else units) + steps = moved := by
    have equal := cursor.symm.trans at_
    rw [mebibyte_eq] at equal
    omega
  rw [ReachesLast, blobSize, blobSize, Command.bucket, Command.bucket, Set.Ico_disjoint_Ico,
    address, addressMore, at_]
  show min (_ + (sizeofFlipHeader + last + jpegPaddingSize))
    (_ + (sizeofFlipHeader + len + jpegPaddingSize)) ≤ _ ↔ _
  have start : (if 6 < units + steps then 0 else units) ≤ 6 - steps := by
    split <;> omega
  generalize sizeofFlipHeader + last + jpegPaddingSize = lastSize at whole least ⊢
  generalize sizeofFlipHeader + len + jpegPaddingSize = size at wholeMore leastMore ⊢
  generalize (if 6 < units + steps then 0 else units) = place at same start ⊢
  rw [mebibyte_eq] at whole least wholeMore leastMore ⊢
  subst same
  rcases Nat.lt_or_ge 6 (place + steps + more) with wraps | follows
  · have reaches := reaches_wrapped room wraps whole least small wholeMore leastMore smallMore
    rw [if_pos wraps, max_eq_left (Nat.mul_le_mul_right _ (Nat.le_add_right _ _))]
    have ends : min ((40 + place) * 1048576 + lastSize) ((40 + 0) * 1048576 + size) ≤
        (40 + place) * 1048576 ↔ size ≤ place * 1048576 := by
      rw [min_le_iff]
      omega
    have cursors : ∀ units, (40 + (place + steps)) * 1048576 = (40 + units) * 1048576 ↔
        place + steps = units := by
      intro units
      omega
    rw [ends, reaches, show 44 = 40 + 4 from rfl, show 45 = 40 + 5 from rfl, cursors, cursors]
  · rw [if_neg (Nat.not_lt.mpr follows), max_eq_right (by omega)]
    refine iff_of_true ((min_le_left _ _).trans (by omega)) ?_
    rintro ⟨large, ⟨cursor, -⟩ | ⟨cursor, -⟩⟩
    · omega
    · omega

/-! ### A device that works -/

/-- No other party latches the fault, and a chunk is transferred in full. -/
def calm : Bool × Env := (false, { actual := xferChunkSize })

/-- How the world answers while every transfer moves all it was asked to. -/
def working (thread : Thread) : Executor (calls c) (Dev c) Unit :=
  fun dev op _ => disturbed thread dev op calm

/-- The device has no fault, and has its buffers. -/
structure Works (dev : Dev c) : Prop where
  clear : dev.ioFaulted = false
  chunk : dev.bulkChunk = true
  staging : (dev.heads .secondary).sender.jpegStaging.isSome = true

/-- A program that ends with a device that works. -/
def KeepsWorking {Result : Type} (program : Prog c Result) : Prop :=
  ∀ (thread : Thread) (dev : Dev c), Works dev →
    Ends (working thread) (fun _ after => Works after) program dev

section Working

variable {thread : Thread} {dev : Dev c}

theorem KeepsWorking.seq {First Second : Type} {program : Prog c First}
    {rest : First → Prog c Second} (first : KeepsWorking program)
    (second : ∀ result, KeepsWorking (rest result)) : KeepsWorking (program >>= rest) :=
  fun thread dev works => Ends.seq ((first thread dev works).mono fun result between works =>
    second result thread between works)

theorem KeepsWorking.branch {Result : Type} {condition : Prop} [Decidable condition]
    {yes no : Prog c Result} (first : KeepsWorking yes) (second : KeepsWorking no) :
    KeepsWorking (if condition then yes else no) := by
  split
  · exact first
  · exact second

theorem working_tune (head : HeadId) {change : Sender c → Sender c}
    (keeps : ∀ sender, sender.jpegStaging.isSome = true → (change sender).jpegStaging.isSome = true) :
    KeepsWorking (act (.tune head change)) := by
  intro thread dev works input
  refine ⟨_, _, rfl, works.clear, works.chunk, ?_⟩
  show ((dev.setHead head _).heads .secondary).sender.jpegStaging.isSome = true
  cases head with
  | primary =>
    rw [Dev.setHead_other _ _ _ _ (by decide)]
    exact works.staging
  | secondary =>
    rw [Dev.setHead_self]
    exact keeps _ works.staging

theorem working_ask : KeepsWorking (c := c) (act .ask) :=
  fun _ _ works _ => ⟨_, _, rfl, works⟩

theorem working_readHead (head : HeadId) : KeepsWorking (c := c) (readHead head) :=
  fun _ _ works _ => ⟨_, _, rfl, works⟩

theorem working_arm (head : HeadId) (work : Work) : KeepsWorking (c := c) (act (.arm head work)) := by
  intro thread dev works input
  refine ⟨_, _, rfl, works.clear, works.chunk, ?_⟩
  cases head with
  | primary => exact works.staging
  | secondary => exact works.staging

theorem working_storeBlob (head : HeadId) (payload : List Byte)
    (small : payload.length + sizeofFlipHeader + jpegPaddingSize < 2 ^ 32) :
    KeepsWorking (c := c) (storeBlob head payload small) := by
  refine (working_readHead head).seq fun state => ?_
  have store : KeepsWorking (c := c) (act (.tune head fun sender =>
    { sender with cache := sender.cache.store payload small })) := working_tune head fun _ => id
  have allocate : ∀ env : Env, KeepsWorking (c := c) (act (.tune head fun sender =>
      { sender with cache := .allocate env.allocated payload.length })) :=
    fun env => working_tune head fun _ => id
  exact KeepsWorking.branch (working_ask.seq fun env => (allocate env).seq fun _ => store) store

/-- The call succeeds, and the device still works. -/
def Succeeds (result : Except Errno Unit) (after : Dev c) : Prop :=
  result = .ok () ∧ Works after

theorem working_submit {chunk : List Byte} (short : chunk.length ≤ xferChunkSize)
    (works : Works dev) :
    Ends (working thread) (fun answer after =>
        answer = .returned ⟨none, chunk.length⟩ [] ∧ Works after)
      (act (.submit latchCheck false (.bulk chunk))) dev := by
  have clear : ¬ latchCheck (dev.latched calm.1) = true := by
    show ¬ dev.ioFaulted = true
    rw [works.clear]
    exact Bool.false_ne_true
  intro input
  refine ⟨_, _, if_neg clear, ?_, works.clear, works.chunk, works.staging⟩
  show Submission.returned ⟨none, min xferChunkSize chunk.length⟩ [] = _
  rw [Nat.min_eq_right short]

theorem working_tuneDevice (change : DeviceMetrics → DeviceMetrics) :
    KeepsWorking (c := c) (act (.tuneDevice change)) :=
  fun _ _ works _ => ⟨_, _, rfl, works.clear, works.chunk, works.staging⟩

/-- The chunk loop sends every chunk. -/
theorem working_bulkChunks (bound : Nat) (cursor : List Byte) (remaining : Nat)
    (present : remaining ≤ cursor.length) (works : Works dev) :
    Ends (working thread) Succeeds (bulkChunks bound cursor remaining).run dev := by
  induction bound generalizing cursor remaining dev with
  | zero => exact ⟨rfl, works⟩
  | succ bound inductionHypothesis =>
    rw [bulkChunks]
    by_cases done : remaining = 0
    · rw [if_pos done]
      exact ⟨rfl, works⟩
    · rw [if_neg done]
      have length : (cursor.take (min xferChunkSize remaining)).length =
          min xferChunkSize remaining := by
        rw [List.length_take]
        omega
      have short : (cursor.take (min xferChunkSize remaining)).length ≤ xferChunkSize := by
        rw [length]
        exact Nat.min_le_left _ _
      refine Ends.liftBind ((working_submit short works).mono ?_)
      rintro answer submitted ⟨rfl, works⟩
      refine Ends.liftBind ((working_tuneDevice _ thread submitted works).mono
        fun _ counted works => ?_)
      show Ends _ _ (ExceptT.run (if _ = min xferChunkSize remaining then _ else _)) _
      rw [if_pos length]
      exact inductionHypothesis _ _ (by rw [List.length_drop]; omega) works

theorem working_bulkWrite (query : c.queryOnly = false) (manual : c.manualOnly = false)
    (src : List Byte) (len : Nat) (present : len ≤ src.length) (works : Works dev) :
    Ends (working thread) Succeeds (bulkWrite src len).run dev := by
  have read : KeepsWorking (c := c) readDev := fun _ _ works _ => ⟨_, _, rfl, works⟩
  unfold bulkWrite
  rw [if_neg (by rw [query]; exact Bool.false_ne_true)]
  intro input
  refine ⟨dev, dev, rfl, ?_⟩
  show Ends _ _ (ExceptT.run (if (c.manualOnly || dev.ioFaulted) = true then _ else _)) _
  rw [if_neg (by rw [manual, works.clear]; exact Bool.false_ne_true)]
  by_cases empty : len = 0
  · rw [if_pos empty]
    exact ⟨rfl, works⟩
  · rw [if_neg empty]
    intro input
    refine ⟨dev, dev, rfl, ?_⟩
    show Ends _ _ (ExceptT.run (if (!dev.bulkChunk) = true then _ else _)) _
    rw [if_neg (by rw [works.chunk]; exact Bool.false_ne_true)]
    exact Ends.liftBind ((working_tuneDevice _ thread dev works).mono fun _ counted works =>
      working_bulkChunks len src len present works)

theorem working_sendStagedBlob (query : c.queryOnly = false) (manual : c.manualOnly = false)
    (sender : Sender c) (staging : Buffer jpegStagingSize) (cmdStep : Nat) (source : BlobSource)
    (len : BlobLength) (fits : blobSize len.val ≤ jpegStagingSize) (works : Works dev) :
    Ends (working thread) Succeeds
      (sendStagedBlob .secondary sender staging cmdStep source len).run dev := by
  have header : ∀ header : BulkHeader, sizeofBulkHeader ≤ header.bytes.length :=
    fun header => header.length_bytes.ge
  have staged : ∀ staged : Buffer jpegStagingSize, blobSize len.val ≤ staged.bytes.length := by
    intro staged
    rw [Buffer.length]
    exact fits
  have small : ¬ jpegStagingSize < sizeofFlipHeader + len.val + jpegPaddingSize :=
    Nat.not_lt.mpr fits
  unfold sendStagedBlob
  rw [if_neg small]
  refine Ends.liftBind ((working_tune .secondary (fun _ _ => rfl) thread dev works).mono
    fun _ ready works => ?_)
  refine Ends.tryBind (Ends.tryBind ((working_bulkWrite query manual _ _ (header _) works).mono ?_))
  rintro _ between ⟨rfl, works⟩
  refine (working_bulkWrite query manual _ _ (staged _) works).mono ?_
  rintro _ sent ⟨rfl, works⟩
  refine Ends.liftBind ((working_tune .secondary ?kept thread sent works).mono
    fun _ counted works => ?_)
  case kept => exact fun _ staged => staged
  refine Ends.liftBind ((working_tune .secondary ?kept thread counted works).mono
    fun _ stored works => ?_)
  case kept => exact fun _ staged => staged
  refine Ends.liftBind ((working_storeBlob .secondary _ _ thread stored works).mono
    fun _ armed works => ?_)
  exact Ends.lift ((working_arm .secondary .keepaliveTimer thread armed works).mono
    fun _ last works => ⟨rfl, works⟩)

/-- A blob that fits a step of the ring is sent. -/
theorem working_sendJpegBlob (query : c.queryOnly = false) (manual : c.manualOnly = false)
    (source : BlobSource) (len : BlobLength) (nonempty : len.val ≠ 0)
    (fits : blobSize len.val ≤ 3 * mebibyte) (works : Works dev) :
    Ends (working thread) Succeeds (sendJpegBlob .secondary source len).run dev := by
  have stepped : ∃ step, cmdStepFor (blobSize len.val) = some step := by
    unfold cmdStepFor
    rw [if_pos fits]
    split_ifs
    · exact ⟨_, rfl⟩
    · exact ⟨_, rfl⟩
    · exact ⟨_, rfl⟩
  obtain ⟨step, stepped⟩ := stepped
  obtain ⟨staging, staged⟩ := Option.isSome_iff_exists.mp works.staging
  have small : blobSize len.val ≤ jpegStagingSize := by
    rw [mebibyte_eq] at fits
    rw [jpegStagingSize_eq]
    exact fits
  unfold sendJpegBlob
  rw [if_neg nonempty]
  intro input
  refine ⟨dev, dev, rfl, ?_⟩
  have same : cmdStepFor (sizeofFlipHeader + len.val + jpegPaddingSize) = some step := stepped
  show Ends _ _ (ExceptT.bindCont _ (Except.ok (dev.heads .secondary))) _
  dsimp only [ExceptT.bindCont]
  rw [same, staged]
  exact working_sendStagedBlob query manual _ staging step source len small works

/-- Of blobs that fit, every one is sent. -/
theorem run_working (query : c.queryOnly = false) (manual : c.manualOnly = false)
    (thread : Thread) (blobs : List (BlobSource × BlobLength)) (dev : Dev c) (works : Works dev)
    (fit : ∀ blob ∈ blobs, blob.2.val ≠ 0 ∧ blobSize blob.2.val ≤ 3 * mebibyte) :
    ∀ attempt ∈ (blobSender c).run thread dev
        (blobs.map fun blob => (blob, fun _ => calm)),
      attempt.result = .ok () := by
  induction blobs generalizing dev with
  | nil =>
    intro attempt member
    cases member
  | cons blob rest inductionHypothesis =>
    obtain ⟨nonempty, fits⟩ := fit blob List.mem_cons_self
    obtain ⟨result, after, ran, rfl, works⟩ := (@working_sendJpegBlob c thread dev query manual
      blob.1 blob.2 nonempty fits works).eval fun _ => ()
    have ran : ((blobSender c).send blob).run.eval (disturbed thread) dev (fun _ => calm) =
        some (.ok (), after) := (Program.eval_inputs (fun _ : Unit => calm) _ _).symm.trans ran
    intro attempt member
    rw [List.map_cons, CommandSender.run, ran] at member
    rcases List.mem_cons.mp member with rfl | later
    · rfl
    · exact inductionHypothesis after works
        (fun blob member => fit blob (List.mem_cons_of_mem _ member)) attempt later

end Working

/-! ### A command written over the one before it -/

/-- A device that takes encoded frames of 1920 by 1080 pixels on its secondary head. -/
def ringConfig : Config where
  width := 1920
  height := 1080
  fits := by rw [ramMb_mebibyte]; decide
  hz := 250
  manualOnly := false
  queryOnly := false
  queryTimings := false
  queryTimingPage1 := false
  rawIdleRefresh := true
  finalMonitorOff := true
  secondaryFrameMinIntervalMs := 0
  jpegQuality := 85
  selected := .secondary
  connected := fun head => head == .secondary
  connected_selected := fun head connected => by cases head <;> first | rfl | cases connected
  status := fun head => if head = .secondary then 1 else 0
  edidValid := fun head => head == .secondary
  profileMatches := true
  pathMatches := true
  secondaryTransport := .userJpeg
  jpegEncodeXrgb8888 := fun _ _ _ => .error .invalid

theorem ringConfig_encoded : ringConfig.secondaryTransport ≠ .raw :=
  fun raw => nomatch raw

/-- A blob of some kibibytes. -/
def kibibytes (count : Nat) (small : count < 2 ^ 21) : BlobSource × BlobLength :=
  (.inPlace, ⟨count * 1024, by rw [jpegPaddingSize_eq, sizeofFlipHeader]; omega⟩)

/-- The command of a blob that takes some mebibytes, and where it leaves the cursor. -/
theorem blobCommand_units (encoded : c.secondaryTransport ≠ .raw) {stream : Stream}
    {len units step : Nat} (nonempty : len ≠ 0)
    (fits : cmdStepFor (blobSize len) = some (step * mebibyte))
    (at_ : stream.cursor = (40 + units) * mebibyte) (inside : units + step ≤ 6)
    (small : step ≤ 3) :
    ∃ command, blobCommand c len stream = some command ∧
      (stream.next command).cursor = (40 + (units + step)) * mebibyte := by
  refine ⟨stream.command c (blobSize len) (step * mebibyte), ?_, ?_⟩
  · rw [blobCommand, if_neg nonempty, show sizeofFlipHeader + len + jpegPaddingSize = blobSize len
      from rfl, fits, Option.map_some]
  · rw [(command_units encoded _ at_ (by omega) small).2, if_neg (Nat.not_lt.mpr inside),
      Nat.add_assoc]

/-- A call that issues its command and succeeds sends it. -/
theorem CommandSender.Linked.sends {Input : Type} {sender : CommandSender c Input}
    {attempt : Attempt c Input} {rest : List (Attempt c Input)} {dev : Dev c} {command : Command}
    (linked : sender.Linked dev (attempt :: rest))
    (issued : sender.command attempt.input dev.stream = some command)
    (succeeded : attempt.result = .ok ()) :
    sender.Sends attempt command ∧ attempt.before = dev ∧
      attempt.after.stream = dev.stream.next command ∧ sender.Linked attempt.after rest := by
  obtain ⟨rfl, effect, others⟩ := linked
  have sends : sender.Sends attempt command := ⟨issued, succeeded⟩
  refine ⟨sends, rfl, ?_, others⟩
  rcases sender.stream_after effect with ⟨other, sent, moved⟩ | ⟨idle, -⟩
  · obtain rfl : command = other := Option.some.inj (issued.symm.trans sent.1)
    exact moved
  · exact absurd sends (idle command)

/-- A small blob and two of two and a half mebibytes. -/
def largeBlobs : List (BlobSource × BlobLength) :=
  [kibibytes 100 (by decide), kibibytes 2560 (by decide), kibibytes 2560 (by decide)]

theorem blobSize_large : blobSize (2560 * 1024) = 2622512 := by
  rw [blobSize, jpegPaddingSize_eq, sizeofFlipHeader]

/-- All three are sent, and the last finds the cursor at the fourth mebibyte of the ring. -/
theorem largeBlobs_sent :
    ∃ first second third sent command,
      (blobSender ringConfig).run (.writer 0) (.probed ringConfig)
        (largeBlobs.map fun blob => (blob, fun _ => calm)) = [first, second, third] ∧
      ((blobSender ringConfig).Sends second sent ∧ second.input.2.val = 2560 * 1024 ∧
        second.before.stream.cursor = (40 + 1) * mebibyte) ∧
      (blobSender ringConfig).Sends third command ∧ third.input.2.val = 2560 * 1024 ∧
        third.before.stream.cursor = (40 + 4) * mebibyte ∧
        third.before.stream = second.before.stream.next sent := by
  have encoded := ringConfig_encoded
  have smallSize : blobSize (100 * 1024) = 103472 := by
    rw [blobSize, jpegPaddingSize_eq, sizeofFlipHeader]
  have smallStep : cmdStepFor (blobSize (100 * 1024)) = some (1 * mebibyte) := by
    rw [smallSize, cmdStepFor, mebibyte_eq]
    rfl
  have largeStep : cmdStepFor (blobSize (2560 * 1024)) = some (3 * mebibyte) := by
    rw [blobSize_large, cmdStepFor, mebibyte_eq]
    rfl
  have fit : ∀ blob ∈ largeBlobs, blob.2.val ≠ 0 ∧ blobSize blob.2.val ≤ 3 * mebibyte := by
    rw [mebibyte_eq, largeBlobs, List.forall_mem_cons, List.forall_mem_cons, List.forall_mem_cons]
    refine ⟨⟨by decide, ?_⟩, ⟨by decide, ?_⟩, ⟨by decide, ?_⟩, nofun⟩
    · exact smallSize.le.trans (by decide)
    · exact blobSize_large.le.trans (by decide)
    · exact blobSize_large.le.trans (by decide)
  have succeeded := run_working rfl rfl (.writer 0) largeBlobs (.probed ringConfig)
    ⟨rfl, rfl, rfl⟩ fit
  obtain ⟨inputs, linked⟩ := (blobSender ringConfig).run_linked (.writer 0)
    (largeBlobs.map fun blob => (blob, fun _ => calm)) (.probed ringConfig)
  generalize (blobSender ringConfig).run (.writer 0) (.probed ringConfig)
    (largeBlobs.map fun blob => (blob, fun _ => calm)) = attempts at succeeded inputs linked ⊢
  obtain ⟨first, attempts, rfl, input, inputs⟩ := List.map_eq_cons_iff.mp inputs
  obtain ⟨second, attempts, rfl, secondInput, inputs⟩ := List.map_eq_cons_iff.mp inputs
  obtain ⟨third, attempts, rfl, thirdInput, inputs⟩ := List.map_eq_cons_iff.mp inputs
  obtain rfl := List.map_eq_nil_iff.mp inputs
  have atBase : (Dev.probed ringConfig).stream.cursor = (40 + 0) * mebibyte := cmdBaseAddr_secondary
  obtain ⟨small, smallIssued, afterSmall⟩ :=
    blobCommand_units encoded (by decide) smallStep atBase (by decide) (by decide)
  obtain ⟨-, -, firstStream, linked⟩ := linked.sends
    (show blobCommand ringConfig first.input.2.val _ = _ by rw [input]; exact smallIssued)
    (succeeded first (by simp))
  rw [← firstStream] at afterSmall
  obtain ⟨sent, sentIssued, afterSent⟩ :=
    blobCommand_units encoded (by decide) largeStep afterSmall (by decide) (by decide)
  obtain ⟨secondSends, secondBefore, secondStream, linked⟩ := linked.sends
    (show blobCommand ringConfig second.input.2.val _ = _ by rw [secondInput]; exact sentIssued)
    (succeeded second (by simp))
  have issues : ∃ command, blobCommand ringConfig (2560 * 1024) second.after.stream = some command :=
    ⟨_, by rw [blobCommand, if_neg (by decide)]; exact congrArg _ largeStep⟩
  obtain ⟨command, issued⟩ := issues
  obtain ⟨thirdSends, thirdBefore, -⟩ := linked.sends
    (show blobCommand ringConfig third.input.2.val _ = _ by rw [thirdInput]; exact issued)
    (succeeded third (by simp))
  refine ⟨first, second, third, sent, command, rfl,
    ⟨secondSends, congrArg (fun blob => blob.2.val) secondInput, ?_⟩, thirdSends,
    congrArg (fun blob => blob.2.val) thirdInput, ?_, ?_⟩
  · rw [secondBefore]
    exact afterSmall
  · rw [thirdBefore, secondStream]
    exact afterSent
  · rw [thirdBefore, secondStream, secondBefore]

theorem largeBlobs_reach {last len : Nat} {stream : Stream} (lastSize : last = 2560 * 1024)
    (size : len = 2560 * 1024) (cursor : stream.cursor = (40 + 4) * mebibyte) :
    ReachesLast last stream len := by
  subst lastSize size
  refine ⟨?_, .inl ⟨cursor, ?_⟩⟩
  · rw [blobSize_large, mebibyte_eq]
    decide
  · rw [blobSize_large, mebibyte_eq]
    decide

/-- Of blobs sent one after the other on a ring that was reset, one is written over the one before
it exactly when it reaches it. -/
theorem command_over_last (thread : Thread) (dev : Dev c) (previous : Sender c)
    (reset : (dev.heads .secondary).sender = resetHeadStreamState .secondary previous)
    (encoded : c.secondaryTransport ≠ .raw)
    (calls : List ((BlobSource × BlobLength) × (Nat → Bool × Env)))
    {earlier between later : List (Attempt c (BlobSource × BlobLength))}
    {first second : Attempt c (BlobSource × BlobLength)} {sent command : Command}
    (ran : (blobSender c).run thread dev calls = earlier ++ first :: (between ++ second :: later))
    (sends : (blobSender c).Sends first sent)
    (silent : ∀ attempt ∈ between, ∀ other, ¬ (blobSender c).Sends attempt other)
    (next : (blobSender c).Sends second command) :
    Disjoint sent.bucket command.bucket ↔
      ¬ ReachesLast first.input.2.val second.before.stream second.input.2.val := by
  have linked := ((blobSender c).run_linked thread calls dev).2
  rw [ran] at linked
  have start : Walked dev.stream := by
    rw [Dev.stream, reset]
    exact walked_reset previous
  have walked := linked.invariant (fun stream input command walked issued =>
    Walked.command encoded walked issued) start
  have stream := linked.consecutive sends silent
  have issued := next.1
  rw [CommandSender.issued, stream] at issued
  rw [stream]
  exact bucket_disjoint_iff encoded (walked first (by simp)).1 sends.1 issued

/-- The last two of the three blobs. -/
theorem command_over_last_large :
    ∃ first second third sent command,
      (blobSender ringConfig).run (.writer 0) (.probed ringConfig)
        (largeBlobs.map fun blob => (blob, fun _ => calm)) = [first] ++ second :: ([] ++ [third]) ∧
      (Disjoint (Command.bucket sent) (Command.bucket command) ↔
        ¬ ReachesLast second.input.2.val third.before.stream third.input.2.val) := by
  obtain ⟨first, second, third, sent, command, ran, ⟨sends, -⟩, next, -⟩ := largeBlobs_sent
  refine ⟨first, second, third, sent, command, ran, ?_⟩
  have whole : (blobSender ringConfig).run (.writer 0) (.probed ringConfig)
      (largeBlobs.map fun blob => (blob, fun _ => calm)) =
        [first] ++ second :: ([] ++ third :: []) := ran
  have silent : ∀ attempt ∈ [], ∀ other, ¬ (blobSender ringConfig).Sends attempt other := by
    intro attempt member
    cases member
  exact command_over_last (.writer 0) (.probed ringConfig) (.probed ringConfig .secondary) rfl
    ringConfig_encoded _ whole sends silent next

/-- Of three blobs sent on a ring that was reset, the third is written over the second. -/
theorem command_written_over_last :
    ∃ first second third sent command,
      ((Dev.probed ringConfig).heads .secondary).sender =
        resetHeadStreamState .secondary (.probed ringConfig .secondary) ∧
      (blobSender ringConfig).run (.writer 0) (.probed ringConfig)
        (largeBlobs.map fun blob => (blob, fun _ => calm)) = [first, second, third] ∧
      (blobSender ringConfig).Sends second sent ∧ (blobSender ringConfig).Sends third command ∧
      ¬ Disjoint sent.bucket command.bucket := by
  obtain ⟨first, second, third, sent, command, ran, ⟨sends, lastSize, walked⟩, next, size, cursor,
    stream⟩ := largeBlobs_sent
  refine ⟨first, second, third, sent, command, rfl, ran, sends, next, ?_⟩
  have issued := next.1
  rw [CommandSender.issued, stream] at issued
  rw [bucket_disjoint_iff ringConfig_encoded ⟨1, by decide, walked⟩ sends.1 issued, not_not]
  rw [stream] at cursor
  exact largeBlobs_reach lastSize size cursor

end Trigger6.Driver
