/-
This file puts an observer beside the driver, for the idle refresh of the raw
primary head. It sees the calls and their answers and keeps a record: when
scanout was switched on, when a disable had stopped the head, and for each
transmission what the worker had seen under `io_lock` before its first chunk and
what had gone out when it was complete.

The observer changes nothing. What it concludes is stated on the record alone.
-/

import Trigger6.Driver.Bus
import Trigger6.Lib.Trace

namespace Trigger6.Driver

open Bytes Interaction Trace

variable {c : Config}

/-! ### The record -/

/-- What the worker has seen in its section of `io_lock` before it sends: whether it sends the
reference frame again, each flag it has found as it must be, and the clock it has read last. -/
structure Check where
  refresh : Bool
  active : Bool
  valid : Bool
  sound : Bool
  headSound : Bool
  clock : BitVec 64

/-- A section in which nothing has been seen. -/
def Check.opened (refresh : Bool) : Check where
  refresh := refresh
  active := false
  valid := false
  sound := false
  headSound := false
  clock := 0

/-- A read of the device, and the flags found set or clear in it. -/
def Check.see (check : Check) (dev : Dev c) : Check :=
  { check with
    active := check.active || (dev.heads .primary).scanoutActive
    valid := check.valid || (dev.heads .primary).lastSentValid
    sound := check.sound || !dev.ioFaulted
    headSound := check.headSound || !(dev.heads .primary).ioFaulted }

/-- An entry of the record. -/
inductive Mark
  /-- Scanout was switched on. -/
  | enabled
  /-- A disable had stopped the activity of the head. -/
  | disabled
  /-- The first chunk of a transmission was submitted. -/
  | began (check : Check)
  /-- A transmission was complete: the bytes it moved, and the clock after it. -/
  | completed (refresh : Bool) (bytes : List Byte) (clock : BitVec 64)

/-- The observer. Two of its flags are for the proofs only: the timer callback may have seen
scanout active since it was last cancelled, and a disable has yet to discard the reference. -/
structure Watch where
  check : Check := .opened false
  locked : Bool := false
  /-- What has gone out in this section. -/
  sent : Option (List Byte) := none
  timerLive : Bool := false
  draining : Bool := false
  /-- The record, the newest entry first. -/
  marks : List Mark := []

/-- A chunk goes out. -/
def Watch.send (watch : Watch) (moved : List Byte) : Watch :=
  match watch.sent with
  | none => { watch with sent := some moved, marks := .began watch.check :: watch.marks }
  | some bytes => { watch with sent := some (bytes ++ moved) }

/-- The worker reads the clock; under the lock this is how a transmission ends. -/
def Watch.hear (watch : Watch) (clock : BitVec 64) : Watch :=
  match watch.locked, watch.sent with
  | true, some bytes =>
    { watch with
      check := { watch.check with clock := clock }
      sent := none
      marks := .completed watch.check.refresh bytes clock :: watch.marks }
  | _, _ => { watch with check := { watch.check with clock := clock } }

/-- What the observer makes of a call of the worker of the primary head. -/
def Watch.observeWorker (op : Op c) (answer : op.Answer) (watch : Watch) : Watch :=
  match op, answer with
  | .take .primary, some popped =>
    { watch with check := { watch.check with refresh := popped.keepaliveDue } }
  | .lockIo, _ =>
    { watch with locked := true, sent := none, check := .opened watch.check.refresh }
  | .unlockIo, _ => { watch with locked := false, sent := none }
  | .read, dev => { watch with check := watch.check.see (dev : Dev c) }
  | .ask, env => watch.hear env.jiffies
  | .submit _ _ (.bulk chunk), .returned outcome _ => watch.send (chunk.take outcome.actual)
  | _, _ => watch

/-- What it makes of a call of the timer callback. -/
def Watch.observeTimer (op : Op c) (answer : op.Answer) (watch : Watch) : Watch :=
  match op, answer with
  | .read, dev =>
    { watch with timerLive := watch.timerLive || ((dev : Dev c).heads .primary).scanoutActive }
  | _, _ => watch

/-- What it makes of a call of a commit. -/
def Watch.observeCommit (op : Op c) (watch : Watch) : Watch :=
  match op with
  | .setScanoutActive .primary true => { watch with marks := .enabled :: watch.marks }
  | .cancelSync .primary .keepaliveTimer => { watch with timerLive := false }
  | .note (.drained (.commit .primary) .primary) =>
    { watch with draining := true, marks := .disabled :: watch.marks }
  | .setLastSentValid .primary false => { watch with draining := false }
  | _ => watch

def Watch.observe (thread : Thread) (op : Op c) (answer : op.Answer) (watch : Watch) : Watch :=
  match thread with
  | .worker .primary => watch.observeWorker op answer
  | .timer .primary => watch.observeTimer op answer
  | .commit .primary => watch.observeCommit op
  | _ => watch

/-- The driver with the observer beside it. -/
def watched (c : Config) (allowed : Entry → Bool) :
    Pool (calls c) (Dev c × Watch) Env Thread Task :=
  (driver c allowed).instrument Watch.observe

/-! ### What the record says -/

def Mark.isEnabled : Mark → Prop
  | .enabled => True
  | _ => False

def Mark.isDisabled : Mark → Prop
  | .disabled => True
  | _ => False

def Mark.isBegan : Mark → Prop
  | .began _ => True
  | _ => False

def Mark.isCompleted : Mark → Prop
  | .completed _ _ _ => True
  | _ => False

/-- The record of a frame on the bulk pipe: its header, the flip header and all pixels. -/
def FullFrame (c : Config) (bytes : List Byte) : Prop :=
  ∃ (header : BulkHeader) (flip : FlipHeader) (pixels : Frame c),
    bytes = header.bytes ++ (flip.bytes ++ pixels.bytes)

/-- A new frame was sent in full. -/
def Mark.isRefill (c : Config) : Mark → Prop
  | .completed refresh bytes _ => refresh = false ∧ FullFrame c bytes
  | _ => False

/-- Scanout has been switched on since the last disable. -/
def Enabled (marks : List Mark) : Prop := Since Mark.isEnabled Mark.isDisabled marks

/-- A new frame has been sent in full since the last disable. -/
def Refilled (c : Config) (marks : List Mark) : Prop :=
  Since (Mark.isRefill c) Mark.isDisabled marks

/-- A transmission has begun and has not been completed. -/
def Unfinished (marks : List Mark) : Prop := Since Mark.isBegan Mark.isCompleted marks

/-- The clock after the transmission completed last. -/
def lastCompleted : List Mark → Option (BitVec 64)
  | [] => none
  | .completed _ _ clock :: _ => some clock
  | _ :: older => lastCompleted older

/-- The interval of the idle refresh lies between two readings of the counter of jiffies, unless
half the range of the counter does. -/
def FarApart (c : Config) (first second : BitVec 64) : Prop :=
  ∀ earlier later : Nat, first = BitVec.ofNat 64 earlier → second = BitVec.ofNat 64 later →
    earlier ≤ later → later - earlier < 2 ^ 63 →
    c.msecsToJiffies rawIdleRefreshMs ≤ later - earlier

/-- What a refresh needs, before its first chunk. -/
structure Warranted (c : Config) (check : Check) (older : List Mark) : Prop where
  active : check.active = true
  valid : check.valid = true
  sound : check.sound = true
  headSound : check.headSound = true
  rested : ∃ clock, lastCompleted older = some clock ∧ FarApart c clock check.clock
  finished : ¬ Unfinished older
  enabled : Enabled older
  refilled : Refilled c older

/-- Only a warranted refresh begins. -/
def Permitted (c : Config) : Mark → List Mark → Prop
  | .began check, older => check.refresh = true → Warranted c check older
  | _, _ => True

end Trigger6.Driver
