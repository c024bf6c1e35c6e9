/-
This file draws the conclusions about whole runs of the driver, first under any
rules that allow what the senders do, and then for the framing alone: however the
threads interleave and wherever a transfer fails, a receiver finds on the bulk
pipe the records that were sent, then at most part of one more, and a torn record
comes with a latched fault and ends the stream.
-/

import Trigger6.Driver.Wire

namespace Trigger6.Driver

open Bytes Interaction Framing

variable {c : Config} {rules : SendRules c}

/-! ### Runs under any rules -/

/-- Before any driver code has run. -/
theorem wireInvariant_probed (fits : ∀ head, rules.fits head (Sender.probed c head).place) :
    WireInvariant rules (Dev.probed c, ∅) where
  stream := .inl ⟨[], rfl⟩
  whole := fun _ => .inl ⟨[], rfl⟩
  fits := fits
  due := by rintro head ⟨⟩
  requests := fun entry member => absurd member List.not_mem_nil
  counted := rfl
  supplied := by rintro ⟨⟩
  boot := fun _ => rfl

section Runs

variable (sound : rules.Sound) (fits : ∀ head, rules.fits head (Sender.probed c head).place)
  (allowed : Entry → Bool)

/-- A run of the driver that keeps track of who is inside a section. -/
def trackedRun (choices : List DriverChoice) : Pool.Config (calls c) (Tracked c) Thread :=
  ((driver c allowed).instrument trackSections).run (Pool.Config.idle (Dev.probed c, ∅)) choices

theorem trackedRun_world (choices : List DriverChoice) :
    (trackedRun (c := c) allowed choices).world.1 =
      (runDriver allowed (Dev.probed c) choices).world :=
  congrArg Pool.Config.world (Pool.forget_run (driver c allowed) _ choices)

/-- The fault is latched, and these are the bytes that were delivered. -/
def Stopped (bytes : List Byte) (world : Tracked c) : Prop :=
  world.1.ioFaulted = true ∧ wire world.1.traffic = bytes

include sound fits

theorem wire_sound (choices : List DriverChoice) :
    WireInvariant rules (trackedRun (c := c) allowed choices).world ∧
      Pool.Sound (wireDiscipline rules allowed)
        (fun thread => WireHolds rules thread (.outside false false, .free))
        (fun thread => WireHolds rules thread (.outside false false, .free))
        (trackedRun (c := c) allowed choices) := by
  have start := wireInvariant_probed fits
  have sound_ : Pool.Sound (wireDiscipline rules allowed)
      (fun thread => WireHolds rules thread (.outside false false, .free))
      (fun thread => WireHolds rules thread (.outside false false, .free))
      (Pool.Config.idle (Dev.probed c, ∅)) := fun thread => {
    inv := start
    inside := iff_of_false (by rintro ⟨⟩) (Finset.notMem_empty thread)
    unplugged := by rintro ⟨⟩
    gone := by rintro ⟨⟩
    lock := iff_of_true rfl (by rintro ⟨⟩)
    stream := trivial }
  have verified := wire_verified sound allowed
  exact ⟨verified.run_invariant (fun guar => guar.inv) choices sound_ start,
    verified.run_sound choices sound_⟩

/-- What holds after every run. -/
theorem wire_run (choices : List DriverChoice) :
    ∃ inside, WireInvariant rules ((runDriver allowed (Dev.probed c) choices).world, inside) := by
  rw [← trackedRun_world]
  exact ⟨_, (wire_sound sound fits allowed choices).1⟩

/-- Once the fault is latched nothing more is delivered. -/
theorem wire_ends (choices more : List DriverChoice)
    (faulted : (runDriver allowed (Dev.probed c) choices).world.ioFaulted = true) :
    wire (runDriver allowed (Dev.probed c) (choices ++ more)).world.traffic =
      wire (runDriver allowed (Dev.probed c) choices).world.traffic := by
  have joined : ((driver c allowed).instrument trackSections).run (trackedRun allowed choices) more =
      trackedRun allowed (choices ++ more) := List.foldl_append.symm
  have stopped : Stopped (wire (runDriver allowed (Dev.probed c) choices).world.traffic)
      (((driver c allowed).instrument trackSections).run (trackedRun allowed choices) more).world :=
    (wire_verified sound allowed).run_invariant
      (fun guar before => ⟨(guar.latch before.1).1, (guar.latch before.1).2.trans before.2⟩) more
      (wire_sound sound fits allowed choices).2 (by
        rw [Stopped, trackedRun_world]
        exact ⟨faulted, rfl⟩)
  rw [joined, Stopped, trackedRun_world] at stopped
  exact stopped.2

/-- The records that were sent and what is left over are what a receiver finds. A torn record
comes with the latch once nobody is sending. -/
theorem wire_framed (choices : List DriverChoice) :
    ∃ (sent : List rules.Sent) (left : List Byte),
      wire (runDriver allowed (Dev.probed c) choices).world.traffic = streamOf sent ++ left ∧
      decode bulkFormat (wire (runDriver allowed (Dev.probed c) choices).world.traffic) =
        (sent.map SendRules.Sent.record, left) ∧
      (left = [] ∨ ∃ torn : rules.Sent, left <+: torn.record.bytes ∧ left ≠ torn.record.bytes) ∧
      ((runDriver allowed (Dev.probed c) choices).world.ioLock = none → left ≠ [] →
        (runDriver allowed (Dev.probed c) choices).world.ioFaulted = true) := by
  obtain ⟨inside, inv⟩ := wire_run sound fits allowed choices
  generalize (runDriver allowed (Dev.probed c) choices).world = dev at inv
  obtain ⟨sent, whole⟩ | ⟨sent, torn, left, is, some_, part, short⟩ := inv.stream
  · have whole : wire dev.traffic = streamOf sent := whole
    refine ⟨sent, [], by rw [whole, List.append_nil], ?_, .inl rfl, fun _ none => absurd rfl none⟩
    rw [whole]
    exact decode_encode _
  · have is : wire dev.traffic = streamOf sent ++ left := is
    have decoded : decode bulkFormat (wire dev.traffic) = (sent.map SendRules.Sent.record, left) := by
      rw [is]
      exact decode_encode_append _ (Torn.incomplete ⟨torn.record, part, short⟩)
    refine ⟨sent, left, is, decoded, .inr ⟨torn, part, short⟩, fun free _ => ?_⟩
    obtain ⟨other, whole⟩ | broken := inv.whole free
    · have whole : wire dev.traffic = encode (other.map SendRules.Sent.record) := whole
      rw [whole, decode_encode] at decoded
      exact absurd (congrArg Prod.snd decoded).symm some_
    · exact broken.2

end Runs

/-! ### Framing alone -/

/-- Nothing is asked of a record but that its header announces its payload. -/
def framingRules (c : Config) : SendRules c where
  fits := fun _ _ => True
  replays := fun _ => True
  record := fun _ _ => True
  request := fun _ => True

theorem framingRules_sound (c : Config) : (framingRules c).Sound := by
  constructor <;> intros <;> trivial

/-- Over every run from the probed device: the bytes delivered on the bulk pipe are complete
records, each with both its lengths those of the payload behind it, and then at most part of one
more; a receiver finds exactly these. A record that is torn while nobody is sending comes with the
latch, and after the latch no byte is delivered. -/
theorem bulk_stream_framed (c : Config) (allowed : Entry → Bool) (choices : List DriverChoice) :
    ∃ (sent : List (framingRules c).Sent) (left : List Byte),
      wire (runDriver allowed (Dev.probed c) choices).world.traffic = streamOf sent ++ left ∧
      (∀ record ∈ sent, record.header.Announces record.payload) ∧
      decode bulkFormat (wire (runDriver allowed (Dev.probed c) choices).world.traffic) =
        (sent.map SendRules.Sent.record, left) ∧
      (left = [] ∨ ∃ torn : (framingRules c).Sent,
        left <+: torn.record.bytes ∧ left ≠ torn.record.bytes) ∧
      ((runDriver allowed (Dev.probed c) choices).world.ioLock = none → left ≠ [] →
        (runDriver allowed (Dev.probed c) choices).world.ioFaulted = true) ∧
      ((runDriver allowed (Dev.probed c) choices).world.ioFaulted = true → ∀ more,
        wire (runDriver allowed (Dev.probed c) (choices ++ more)).world.traffic =
          wire (runDriver allowed (Dev.probed c) choices).world.traffic) := by
  have sound := framingRules_sound c
  obtain ⟨sent, left, stream, decoded, torn, latched⟩ :=
    wire_framed sound (fun _ => trivial) allowed choices
  exact ⟨sent, left, stream, fun record _ => record.accepts.announces, decoded, torn, latched,
    fun faulted more => wire_ends sound (fun _ => trivial) allowed choices more faulted⟩

end Trigger6.Driver
