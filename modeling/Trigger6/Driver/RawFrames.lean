/-
This file proves that a raw frame of the primary head keeps the mirror: on a
device without a fault the display shows the reference, where it is valid, and
the frame last recorded as sent. Whichever path the send takes, the reference
follows the display or is left behind with the fault latched.
-/

import Trigger6.Driver.DisplayMemory
import Trigger6.Driver.Offstage

namespace Trigger6.Driver

open Bytes Interaction

variable {c : Config}

/-! ### A raw frame -/

/-- What the transfers of a frame leave: the reference is not touched, and the frame is shown, or
the fault is latched, or nothing was delivered. -/
structure Relayed {Value : Type} (clean : Prop) (frame : Frame c) (dev : Dev c)
    (result : Except Errno Value) (after : Dev c) : Prop where
  reference : (after.heads .primary).lastSentFrame = (dev.heads .primary).lastSentFrame
  valid : (after.heads .primary).lastSentValid = (dev.heads .primary).lastSentValid
  supplied : after.bulkChunk = true
  shown : ∀ value, result = .ok value → clean → Displays frame (wire after.traffic)
  failed : ∀ errno, result = .error errno → after.ioFaulted = true ∨ Unmoved dev after

/-- The ranges of a damage, copied over the reference that is displayed, give the frame. -/
structure Fits (clean : Prop) (pixels : Frame c) (damage : Option FrameDamage) (dev : Dev c) :
    Prop where
  within : ∀ ranges, partialRanges damage = some ranges → ∀ range ∈ ranges, range.Within c
  completes : clean → ∀ ranges, partialRanges damage = some ranges →
    ∃ reference, (dev.heads .primary).lastSentFrame = some reference ∧
      (dev.heads .primary).lastSentValid = true ∧
      Displays reference (wire dev.traffic) ∧ patch pixels ranges reference = pixels

theorem Fits.unmoved {clean : Prop} {pixels : Frame c} {damage : Option FrameDamage}
    {dev after : Dev c} (fits : Fits clean pixels damage dev) (unmoved : Unmoved dev after) :
    Fits clean pixels damage after where
  within := fits.within
  completes := fun still ranges isPartial => by
    rw [unmoved.reference, unmoved.valid, unmoved.stream]
    exact fits.completes still ranges isPartial

/-- An error of the transfers is recorded, and changes nothing. -/
theorem recordingErrors_relayed (thread : Thread) {Value : Type} {clean : Prop}
    {frame : Frame c} {dev : Dev c} {body : Fallible c Value}
    (ends : Ends (disturbed thread) (Shows clean frame dev) body.run dev) :
    Ends (disturbed thread) (Relayed clean frame dev)
      (recordingErrors .primary "raw" body).run dev := by
  refine Ends.tryCatch (ends.mono fun result between shows => ?_)
  cases result with
  | ok value =>
    exact ⟨by rw [shows.heads], by rw [shows.heads], shows.supplied, shows.shown, by rintro _ ⟨⟩⟩
  | error errno =>
    have faulted := shows.failed errno rfl
    refine Ends.liftBind ((Ends.latching (bookkeeping_ends
      (only_headRecordSendError .primary errno "raw"))).mono fun _ after recorded => ?_)
    obtain ⟨unmoved, latch⟩ := recorded
    exact ⟨by rw [unmoved.reference, shows.heads], by rw [unmoved.valid, shows.heads],
      unmoved.supplied.trans shows.supplied, by rintro _ ⟨⟩, fun _ _ => .inl (latch faulted)⟩

section Raw

variable (query : c.queryOnly = false) (manual : c.manualOnly = false)

include query manual

/-- Either path of the primary head shows the frame. -/
theorem rawTransfers_ends (thread : Thread) {clean : Prop} {pixels : Frame c}
    {damage : Option FrameDamage} {dev : Dev c} (supplied : dev.bulkChunk = true)
    (whole : clean → WholeRecords (wire dev.traffic)) (fits : Fits clean pixels damage dev) :
    Ends (disturbed thread) (Relayed clean pixels dev)
      (rawTransfers .primary pixels damage).run dev := by
  refine Ends.liftBind ((readHead_steady .primary).mono fun state start read => ?_)
  obtain ⟨rfl, unmoved⟩ := read
  have supplied : start.bulkChunk = true := unmoved.supplied.trans supplied
  have fits := fits.unmoved unmoved.toUnmoved
  have since {result : Except Errno Nat} {after : Dev c}
      (relayed : Relayed clean pixels start result after) :
      Relayed clean pixels dev result after := by
    refine ⟨relayed.reference.trans unmoved.reference, relayed.valid.trans unmoved.valid,
      relayed.supplied, relayed.shown, fun errno failed => ?_⟩
    exact (relayed.failed errno failed).imp_right unmoved.toUnmoved.trans
  cases path : partialRanges damage with
  | some ranges =>
    have within := fits.within ranges path
    -- off a clean device there is no reference to speak of
    obtain ⟨reference, displays, complete⟩ : ∃ reference : Frame c,
        (clean → Displays reference (wire start.traffic)) ∧
        (clean → patch pixels ranges reference = pixels) := by
      by_cases still : clean
      · obtain ⟨reference, -, -, displays, complete⟩ := fits.completes still ranges path
        exact ⟨reference, fun _ => displays, fun _ => complete⟩
      · exact ⟨pixels, fun clean => absurd clean still, fun clean => absurd clean still⟩
    refine (recordingErrors_relayed thread ((sendRows_shows query manual thread pixels _ within
      0 supplied displays).mono fun result after shows => ⟨shows.heads, shows.supplied,
        fun value done still => ?_, shows.failed⟩)).mono fun _ _ => since
    rw [← complete still]
    exact shows.shown value done still
  | none =>
    refine Ends.guard (fun _ => ?_) fun _ => ?_
    · exact ⟨unmoved.reference, unmoved.valid, supplied, by rintro _ ⟨⟩,
        fun _ _ => .inr unmoved.toUnmoved⟩
    · refine (recordingErrors_relayed thread (sendFull_shows query manual thread pixels _
        supplied fun still => ?_)).mono fun _ _ => since
      rw [unmoved.stream]
      exact whole still

end Raw

/-! ### The reference after a frame -/

/-- The reference has been copied into, and nothing else has changed. -/
structure Copied (change : Frame c → Frame c) (dev after : Dev c) : Prop where
  reference : (after.heads .primary).lastSentFrame = (dev.heads .primary).lastSentFrame.map change
  valid : (after.heads .primary).lastSentValid = (dev.heads .primary).lastSentValid
  stream : wire after.traffic = wire dev.traffic
  supplied : after.bulkChunk = dev.bulkChunk

/-- The reference after a frame, where there is one. -/
def nextReference (pixels : Frame c) (damage : Option FrameDamage) (reference : Frame c) :
    Frame c :=
  match partialRanges damage with
  | some ranges => patch pixels ranges reference
  | none => reference.copy 0 pixels.bytes

section Reference

variable {thread : Thread} {dev : Dev c}

theorem copyLastSent_copied (offset : Nat) (block : List Byte) :
    Ends (disturbed thread) (fun _ after => Copied (fun frame => frame.copy offset block) dev after)
      (act (.copyLastSent .primary offset block)) dev := by
  intro input
  have start := steady_latched dev input.1
  refine ⟨_, _, rfl, ?_, start.valid, start.stream, start.supplied⟩
  rw [← start.reference]
  rfl

theorem copyRanges_copied (pixels : Frame c) (ranges : List DirtyRange) :
    Ends (disturbed thread) (fun _ after => Copied (patch pixels ranges) dev after)
      (copyRanges .primary pixels ranges) dev := by
  induction ranges generalizing dev with
  | nil =>
    refine ⟨?_, rfl, rfl, rfl⟩
    exact Option.map_id.symm ▸ rfl
  | cons range rest inductionHypothesis =>
    refine Ends.seq ((copyLastSent_copied (range.offset c) (rangeOf pixels range)).mono
      fun _ between first => inductionHypothesis.mono fun _ after second => ?_)
    refine ⟨?_, second.valid.trans first.valid, second.stream.trans first.stream,
      second.supplied.trans first.supplied⟩
    rw [second.reference, first.reference, Option.map_map]
    rfl

/-- What a frame leaves of the reference: it is replaced and valid, or was sent as it is. -/
structure Referenced (pixels : Frame c) (isLastSent : Bool) (damage : Option FrameDamage)
    (dev after : Dev c) : Prop where
  reference : (after.heads .primary).lastSentFrame =
    if isLastSent then (dev.heads .primary).lastSentFrame
    else (dev.heads .primary).lastSentFrame.map (nextReference pixels damage)
  valid : (after.heads .primary).lastSentValid = true →
    (dev.heads .primary).lastSentValid = true ∨ (dev.heads .primary).lastSentFrame.isSome = true
  stream : wire after.traffic = wire dev.traffic
  supplied : after.bulkChunk = dev.bulkChunk

theorem Referenced.unmoved {pixels : Frame c} {isLastSent : Bool} {damage : Option FrameDamage}
    {between after : Dev c} (referenced : Referenced pixels isLastSent damage dev between)
    (unmoved : Unmoved between after) : Referenced pixels isLastSent damage dev after where
  reference := unmoved.reference.trans referenced.reference
  valid := fun valid => referenced.valid (unmoved.valid.symm.trans valid)
  stream := unmoved.stream.trans referenced.stream
  supplied := unmoved.supplied.trans referenced.supplied

theorem updateLastSent_referenced (pixels : Frame c) (isLastSent : Bool)
    (damage : Option FrameDamage) :
    Ends (disturbed thread) (fun _ after => Referenced pixels isLastSent damage dev after)
      (updateLastSent .primary pixels isLastSent damage) dev := by
  refine Ends.seq ((readHead_steady .primary).mono fun state start read => ?_)
  obtain ⟨rfl, unmoved⟩ := read
  split
  next replaced =>
    rw [Bool.and_eq_true, Bool.not_eq_true'] at replaced
    obtain ⟨present, notLast⟩ := replaced
    have marked {between : Dev c} (copied : Copied (nextReference pixels damage) start between) :
        Ends (disturbed thread) (fun _ after => Referenced pixels isLastSent damage dev after)
          (act (.setLastSentValid .primary true)) between := by
      intro input
      have latched := steady_latched between input.1
      refine ⟨_, _, rfl, ?_, fun _ => .inr present, ?_, ?_⟩
      · rw [notLast, if_neg Bool.false_ne_true, ← unmoved.reference, ← copied.reference]
        exact latched.reference
      · exact latched.stream.trans (copied.stream.trans unmoved.stream)
      · exact latched.supplied.trans (copied.supplied.trans unmoved.supplied)
    cases path : partialRanges damage with
    | some ranges =>
      have same : nextReference pixels damage = patch pixels ranges := by
        funext reference
        rw [nextReference, path]
      exact Ends.seq ((copyRanges_copied pixels ranges).mono fun _ between copied =>
        marked (same ▸ copied))
    | none =>
      have same : nextReference pixels damage = fun frame => frame.copy 0 pixels.bytes := by
        funext reference
        rw [nextReference, path]
      exact Ends.seq ((copyLastSent_copied 0 pixels.bytes).mono fun _ between copied =>
        marked (same ▸ copied))
  next kept =>
    refine ⟨?_, fun valid => .inl (unmoved.valid.symm.trans valid), unmoved.stream,
      unmoved.supplied⟩
    rw [unmoved.reference]
    cases isLastSent with
    | true => rfl
    | false =>
      rw [Bool.not_false, Bool.and_true, Bool.not_eq_true, Option.isSome_eq_false_iff,
        Option.isNone_iff_eq_none] at kept
      rw [kept]
      rfl

theorem finishRaw_referenced (pixels : Frame c) (isLastSent : Bool) (damage : Option FrameDamage)
    (totalSent : Nat) :
    Ends (disturbed thread) (fun _ after => Referenced pixels isLastSent damage dev after)
      (finishRaw .primary pixels isLastSent damage totalSent) dev := by
  refine Ends.seq ((updateLastSent_referenced pixels isLastSent damage).mono
    fun _ between referenced => ?_)
  refine (bookkeeping_ends ?_).mono fun _ after unmoved => referenced.unmoved unmoved.toUnmoved
  refine Program.Only.seq ⟨trivial, fun _ => trivial⟩ fun _ =>
    Program.Only.seq ⟨trivial, fun _ => trivial⟩ fun _ =>
    (only_rawRefreshEligible .primary).seq fun _ => ?_
  have rest : Program.Only Op.Bookkeeping (do
      act (.tune (c := c) .primary fun sender =>
        { sender with frameSeq := (sender.frameSeq + 1) % 2 ^ 32 })
      countSent .primary totalSent) := ⟨trivial, fun _ => ⟨trivial, fun _ => trivial⟩⟩
  split
  · exact Program.Only.seq ⟨trivial, fun _ => trivial⟩ fun _ => rest
  · exact rest

end Reference

/-! ### The mirror -/

/-- On a clean device the stream is whole, and a reference that is valid, and the frame last
recorded as sent, are what the display shows. -/
structure Mirrors (clean : Prop) (dev : Dev c) : Prop where
  supplied : dev.bulkChunk = true
  whole : clean → WholeRecords (wire dev.traffic)
  displays : clean → (dev.heads .primary).lastSentValid = true →
    ∃ reference, (dev.heads .primary).lastSentFrame = some reference ∧
      Displays reference (wire dev.traffic)
  sent : clean → ∀ frame, lastRaw dev.traffic = some frame → Displays frame (wire dev.traffic)

theorem Mirrors.unmoved {clean : Prop} {dev after : Dev c} (mirrors : Mirrors clean dev)
    (unmoved : Unmoved dev after) : Mirrors clean after where
  supplied := unmoved.supplied.trans mirrors.supplied
  whole := fun still => unmoved.stream ▸ mirrors.whole still
  displays := fun still valid => by
    rw [unmoved.reference, unmoved.stream]
    exact mirrors.displays still (unmoved.valid.symm.trans valid)
  sent := fun still => by
    rw [unmoved.noted, unmoved.stream]
    exact mirrors.sent still

theorem Mirrors.weaken {clean cleaner : Prop} {dev : Dev c} (mirrors : Mirrors clean dev)
    (implies : cleaner → clean) : Mirrors cleaner dev :=
  ⟨mirrors.supplied, fun still => mirrors.whole (implies still),
    fun still => mirrors.displays (implies still), fun still => mirrors.sent (implies still)⟩

/-- What a send leaves: the mirror, or the latched fault. -/
structure Upheld (clean : Prop) (after : Dev c) : Prop where
  supplied : after.bulkChunk = true
  upheld : after.ioFaulted = true ∨ Mirrors clean after

theorem Mirrors.upheld {clean : Prop} {dev : Dev c} (mirrors : Mirrors clean dev) :
    Upheld clean dev :=
  ⟨mirrors.supplied, .inr mirrors⟩

theorem copy_whole (reference pixels : Frame c) : reference.copy 0 pixels.bytes = pixels := by
  refine Buffer.ext (List.ext_getElem? fun index => ?_)
  have fits : 0 + pixels.bytes.length ≤ c.frameSize := by rw [Nat.zero_add, pixels.length]
  rw [reference.getElem?_copy fits, Nat.zero_add, Nat.sub_zero]
  split
  next => rfl
  next outside =>
    have beyond : pixels.bytes.length ≤ index :=
      Nat.le_of_not_lt fun inside => outside ⟨Nat.zero_le _, inside⟩
    rw [List.getElem?_eq_none beyond, List.getElem?_eq_none]
    rw [reference.length, ← pixels.length]
    exact beyond

/-- The damage of a frame fits the reference it was computed from. -/
theorem fits_damage {clean : Prop} {dev : Dev c} (mirrors : Mirrors clean dev) (pixels : Frame c) :
    Fits clean pixels (some (computeFrameDamage pixels (dev.heads .primary).lastSentFrame
      (dev.heads .primary).lastSentValid)) dev := by
  refine ⟨partialRanges_within (computeFrameDamage_within pixels _ _),
    fun still ranges isPartial => ?_⟩
  simp only [partialRanges] at isPartial
  split at isPartial
  · cases isPartial
  next notFull =>
    cases isPartial
    cases held : (dev.heads .primary).lastSentFrame with
    | none =>
      rw [held] at notFull
      exact absurd rfl notFull
    | some reference =>
      cases valid : (dev.heads .primary).lastSentValid with
      | false =>
        rw [held, valid] at notFull
        exact absurd rfl notFull
      | true =>
        obtain ⟨shown, same, displays⟩ := mirrors.displays still valid
        rw [held] at same
        cases same
        rw [held, valid, Bool.not_eq_true] at notFull
        exact ⟨reference, rfl, rfl, displays, patch_damage pixels reference notFull⟩

/-- The reference after a frame that fitted it is the frame. -/
theorem Fits.nextReference {clean : Prop} {pixels reference : Frame c}
    {damage : Option FrameDamage} {dev : Dev c} (fits : Fits clean pixels damage dev)
    (still : clean) (held : (dev.heads .primary).lastSentFrame = some reference) :
    nextReference pixels damage reference = pixels := by
  unfold Driver.nextReference
  cases path : partialRanges damage with
  | none => exact copy_whole reference pixels
  | some ranges =>
    obtain ⟨shown, same, -, -, complete⟩ := fits.completes still ranges path
    rw [held] at same
    cases same
    exact complete

section Send

variable (query : c.queryOnly = false) (manual : c.manualOnly = false)

include query manual

theorem sendFrameRaw_upheld (thread : Thread) {clean : Prop} {pixels : Frame c}
    {isLastSent : Bool} (pixelLen : Nat) {damage : Option FrameDamage} {dev : Dev c}
    (mirrors : Mirrors clean dev) (fits : Fits clean pixels damage dev)
    (last : isLastSent = true → (dev.heads .primary).lastSentFrame = some pixels) :
    Ends (disturbed thread) (fun _ after => Upheld clean after)
      (sendFrameRaw .primary pixels isLastSent pixelLen damage).run dev := by
  unfold sendFrameRaw
  refine Ends.guard (fun _ => mirrors.upheld) fun _ => ?_
  refine Ends.guard (fun _ => mirrors.upheld) fun _ => ?_
  have noted {between : Dev c} (supplied : between.bulkChunk = true)
      (displays : clean → (between.heads .primary).lastSentValid = true →
        (between.heads .primary).lastSentFrame = some pixels)
      (shown : clean → Displays pixels (wire between.traffic)) :
      Ends (disturbed thread) (fun _ after => Upheld clean after)
        (lift (act (.noteSent .primary pixels))).run between := by
    refine Ends.lift fun input => ⟨_, _, rfl, Mirrors.upheld ?_⟩
    have steady := steady_latched between input.1
    have stream : wire (.rawSent .primary pixels :: (between.latched input.1).traffic) =
        wire between.traffic := (List.append_nil _).trans steady.stream
    refine ⟨steady.supplied.trans supplied, fun still => stream ▸ (shown still).whole,
      fun still valid => ?_, fun still frame same => ?_⟩
    · exact ⟨pixels, steady.reference.trans (displays still (steady.valid.symm.trans valid)),
        stream ▸ shown still⟩
    · cases same
      exact stream ▸ shown still
  split
  next skipped =>
    -- the reference is the frame already
    refine Ends.liftBind ((bookkeeping_ends (only_count .primary _)).mono fun _ between steady =>
      noted (steady.supplied.trans mirrors.supplied) (fun still _ => ?_) fun still => ?_) <;>
      obtain ⟨reference, held, -, displays, complete⟩ := fits.completes still [] skipped
    · rw [steady.reference, held, ← complete]
      rfl
    · rw [steady.stream, ← complete]
      exact displays
  next =>
    refine Ends.tryBind ((rawTransfers_ends query manual thread mirrors.supplied mirrors.whole
      fits).mono fun result sent relayed => ?_)
    cases result with
    | error errno =>
      exact ⟨relayed.supplied, (relayed.failed errno rfl).imp_right mirrors.unmoved⟩
    | ok totalSent =>
      have shown := relayed.shown totalSent rfl
      refine Ends.liftBind ((finishRaw_referenced pixels isLastSent damage totalSent).mono
        fun _ between referenced => noted (referenced.supplied.trans relayed.supplied)
          (fun still valid => ?_) fun still => referenced.stream ▸ shown still)
      rw [referenced.reference, relayed.reference]
      cases isLastSent with
      | true => exact last rfl
      | false =>
        have present : ∃ reference, (dev.heads .primary).lastSentFrame = some reference := by
          rcases referenced.valid valid with before | held
          · obtain ⟨reference, held, -⟩ :=
              mirrors.displays still (relayed.valid.symm.trans before)
            exact ⟨reference, held⟩
          · rw [relayed.reference] at held
            exact Option.isSome_iff_exists.mp held
        obtain ⟨reference, held⟩ := present
        rw [if_neg Bool.false_ne_true, held, Option.map_some, fits.nextReference still held]

end Send

end Trigger6.Driver
