/-
This file separates the steps that concern the USB traffic from those that do
not. A step off the bus leaves the record of the traffic, the fault latch, the
bulk buffer and `io_lock` alone. A plain step moreover leaves the frame queues
and the reference frames alone, and most of the driver's small functions make
only plain steps.
-/

import Trigger6.Driver.Runs

namespace Trigger6.Driver

open Interaction

variable {c : Config}

/-! ### Steps off the bus -/

/-- What the traffic depends on is the same. -/
structure SameTraffic (before after : Dev c) : Prop where
  ioFaulted : after.ioFaulted = before.ioFaulted
  ioLock : after.ioLock = before.ioLock
  bulkChunk : after.bulkChunk = before.bulkChunk
  traffic : after.traffic = before.traffic

theorem SameTraffic.refl (dev : Dev c) : SameTraffic dev dev := ⟨rfl, rfl, rfl, rfl⟩

/-- The steps that leave the traffic alone. -/
def Op.OffBus : Op c → Prop
  | .setIoFaulted | .lockIo | .unlockIo | .submit _ _ _ | .freeBulkChunk | .noteSent _ _ => False
  | _ => True

section Frame

variable {thread : Thread} {dev after : Dev c} {op : Op c} {env : Env} {answer : op.Answer}

theorem exec_offBus (off : op.OffBus)
    (answered : exec thread dev op env = some (answer, after)) : SameTraffic dev after := by
  cases op with
  | setIoFaulted | lockIo | unlockIo | submit | freeBulkChunk | noteSent => cases off
  | devEnter | awaitSections | flushWorkqueue | destroyWorkqueue | cancelSync | take | yieldTurn
  | packBack =>
    simp only [exec] at answered
    split at answered <;> cases answered <;> exact ⟨rfl, rfl, rfl, rfl⟩
  | stage =>
    simp only [exec] at answered
    split at answered
    · cases answered
      exact .refl dev
    · split at answered <;> cases answered <;> exact ⟨rfl, rfl, rfl, rfl⟩
  | _ =>
    cases answered
    exact ⟨rfl, rfl, rfl, rfl⟩

/-- Only the USB core unbinds the driver's data. -/
theorem exec_intfdata (other : op ≠ .clearIntfdata)
    (answered : exec thread dev op env = some (answer, after)) :
    after.intfdata = dev.intfdata := by
  cases op with
  | clearIntfdata => exact absurd rfl other
  | lockIo | devEnter | awaitSections | flushWorkqueue | destroyWorkqueue | cancelSync | take
  | yieldTurn | packBack =>
    simp only [exec] at answered
    split at answered <;> cases answered <;> rfl
  | stage =>
    simp only [exec] at answered
    split at answered
    · cases answered
      rfl
    · split at answered <;> cases answered <;> rfl
  | submit =>
    simp only [exec] at answered
    split at answered
    · cases answered
      rfl
    · split at answered <;> cases answered <;> rfl
  | _ =>
    cases answered
    rfl

end Frame

/-- Starting a program touches nothing on the bus. -/
theorem startTask_sameTraffic {allowed : Entry → Bool} {thread : Thread} {task : Task}
    {dev after : Dev c} {program : Prog c Unit}
    (started : startTask allowed thread task dev = some (after, program)) :
    SameTraffic dev after ∧ after.intfdata = dev.intfdata := by
  cases task with
  | work head work =>
    simp only [startTask] at started
    split at started <;> cases started
    exact ⟨⟨rfl, rfl, rfl, rfl⟩, rfl⟩
  | entry entry =>
    simp only [startTask] at started
    split at started <;> cases started
    exact ⟨.refl dev, rfl⟩

theorem retireTask_sameTraffic (thread : Thread) (dev : Dev c) :
    SameTraffic dev (retireTask thread dev) ∧ (retireTask thread dev).intfdata = dev.intfdata := by
  cases thread <;> exact ⟨⟨rfl, rfl, rfl, rfl⟩, rfl⟩

/-! ### Possible answers -/

/-- A request cannot move more than it asks to move. -/
def Op.Possible : (op : Op c) → op.Answer → Prop
  | .submit _ _ transfer, .returned outcome _ => outcome.actual ≤ transfer.size
  | _, _ => True

theorem exec_possible {thread : Thread} {dev after : Dev c} {op : Op c} {env : Env}
    {answer : op.Answer} (answered : exec thread dev op env = some (answer, after)) :
    op.Possible answer := by
  cases op with
  | submit =>
    simp only [exec] at answered
    split at answered
    · cases answered
      trivial
    · split at answered <;> cases answered
      · trivial
      · exact Nat.min_le_right _ _
  | _ => trivial

/-- A chunk of which all asked for was moved is complete, and was there in full. -/
theorem complete_of_moved {outcome : Outcome} {cursor : List Bytes.Byte} {chunk : Nat}
    (status : outcome.status = none) (moved : outcome.actual = chunk)
    (possible : outcome.actual ≤ (Transfer.bulk (cursor.take chunk)).size) :
    outcome.complete (.bulk (cursor.take chunk)) = true := by
  have bound : (cursor.take chunk).length ≤ chunk := List.length_take_le _ _
  have actual : outcome.actual = (Transfer.bulk (cursor.take chunk)).size :=
    Nat.le_antisymm possible (moved ▸ bound)
  rw [Outcome.complete, status, actual]
  simp

/-! ### Plain steps -/

/-- The steps that touch neither the bus nor the queues nor the reference frames. -/
def Op.Plain : Op c → Prop
  | .read | .ask | .tune _ _ | .tuneDevice _ | .setNextHead _ | .setScanoutActive _ _
  | .setKeepaliveDue _ _ | .setIoLastError _ | .arm _ _ | .cancelSync _ _ | .note _
  | .pickNextPending | .devEnter | .devExit => True
  | _ => False

/-- The steps off the bus that keep the driver bound. -/
def Op.Quiet : Op c → Prop
  | .clearIntfdata => False
  | op => op.OffBus

theorem Op.Plain.quiet {op : Op c} (plain : op.Plain) : op.Quiet := by
  cases op <;> trivial

theorem Op.Quiet.offBus {op : Op c} (quiet : op.Quiet) : op.OffBus := by
  cases op <;> trivial

theorem Op.Quiet.bound {op : Op c} (quiet : op.Quiet) : op ≠ .clearIntfdata := by
  rintro rfl
  exact quiet

abbrev Plain {Result : Type} (program : Prog c Result) : Prop := program.Only Op.Plain

abbrev Quiet {Result : Type} (program : Prog c Result) : Prop := program.Only Op.Quiet

theorem only_act {kept : Op c → Prop} {op : Op c} (keeps : kept op) :
    (act op).Only kept := ⟨keeps, fun _ => trivial⟩

section PlainPrograms

variable (head : HeadId)

theorem plain_readDev : Plain (readDev (c := c)) := only_act (by trivial)

theorem plain_readHead : Plain (readHead (c := c) head) :=
  plain_readDev.seq fun _ => trivial

theorem plain_count (change : HeadMetrics → HeadMetrics) : Plain (count (c := c) head change) :=
  only_act (by trivial)

theorem plain_headRecordSendError (errno : Errno) (source : String) :
    Plain (headRecordSendError (c := c) head errno source) :=
  (plain_count head _).seq fun _ => plain_count head _

theorem plain_rawRefreshEligible : Plain (rawRefreshEligible (c := c) head) :=
  (plain_readHead head).seq fun _ => (plain_readHead head).seq fun _ =>
    plain_readDev.seq fun _ => (plain_readHead head).seq fun _ => trivial

theorem plain_recordEncode (encodeNs : Nat) : Plain (recordEncode (c := c) head encodeNs) :=
  plain_count head _

theorem plain_storeBlob (payload : List Bytes.Byte)
    (small : payload.length + sizeofFlipHeader + jpegPaddingSize < 2 ^ 32) :
    Plain (storeBlob (c := c) head payload small) := by
  refine (plain_readHead head).seq fun state => ?_
  have store : Plain (c := c) (act (.tune head fun sender =>
    { sender with cache := sender.cache.store payload small })) := only_act (by trivial)
  exact Program.Only.branch ((only_act (by trivial)).seq fun _ => (only_act (by trivial)).seq fun _ => store)
    store

theorem plain_stashNv12 (payload : List Bytes.Byte)
    (small : payload.length + sizeofFlipHeader + jpegPaddingSize < 2 ^ 32) :
    Plain (stashNv12 (c := c) head payload small) :=
  (plain_readHead head).seq fun _ => Program.Only.branch (only_act (by trivial)) trivial

theorem plain_headRuntimeConnected : Plain (headRuntimeConnected (c := c) head) :=
  (plain_readHead head).seq fun _ => plain_readDev.seq fun _ => trivial

theorem plain_queueHeadTxWork : Plain (queueHeadTxWork (c := c) head) :=
  plain_readDev.seq fun _ => Program.Only.branch (only_act (by trivial)) trivial

theorem plain_queueNextPendingHead : Plain (queueNextPendingHead (c := c)) := by
  refine (only_act (by trivial)).seq fun next => ?_
  cases next with
  | none => exact trivial
  | some next => exact plain_queueHeadTxWork next

theorem plain_readTxDelay : Plain (readTxDelay (c := c) head) :=
  (plain_readHead head).seq fun _ => (only_act (by trivial)).seq fun _ => trivial

theorem plain_refreshDeadline : Plain (refreshDeadline (c := c) head) :=
  (plain_readHead head).seq fun _ => trivial

theorem plain_noteCompleted : Plain (noteCompleted (c := c) head) :=
  (plain_readHead head).seq fun _ => only_act (by trivial)

theorem plain_frameDamage : Plain (frameDamage (c := c) head) :=
  (plain_readHead head).seq fun _ => (plain_readHead head).seq fun _ =>
    (plain_readHead head).seq fun _ => trivial

theorem plain_keepaliveTimeout : Plain (keepaliveTimeout (c := c) head) := by
  have queued : Plain (c := c) (act (.setKeepaliveDue head true) >>= fun _ =>
    queueHeadTxWork head) := (only_act (by trivial)).seq fun _ => plain_queueHeadTxWork head
  refine (plain_readHead head).seq fun _ => (plain_readHead head).seq fun _ =>
    plain_readDev.seq fun _ => Program.Only.branch trivial ?_
  split
  · refine (plain_refreshDeadline head).seq fun _ => (plain_rawRefreshEligible head).seq fun _ =>
      Program.Only.branch trivial ((only_act (by trivial)).seq fun _ => Program.Only.branch ?_ queued)
    exact (only_act (by trivial)).seq fun _ => trivial
  · exact (plain_readHead head).seq fun _ => Program.Only.branch trivial queued

theorem plain_stopHeadActivity : Plain (stopHeadActivity (c := c) head) :=
  (only_act (by trivial)).seq fun _ => (only_act (by trivial)).seq fun _ => (only_act (by trivial)).seq fun _ =>
    (only_act (by trivial)).seq fun _ => (only_act (by trivial)).seq fun _ => only_act (by trivial)

theorem plain_cancelHeadActivity (thread : Thread) :
    Plain (cancelHeadActivity (c := c) thread) := by
  have each : ∀ head, Plain (cancelActivityOf (c := c) thread head) := fun _ =>
    (only_act (by trivial)).seq fun _ => (only_act (by trivial)).seq fun _ => (only_act (by trivial)).seq
      fun _ => (only_act (by trivial)).seq fun _ => (only_act (by trivial)).seq fun _ =>
        (only_act (by trivial)).seq fun _ => only_act (by trivial)
  exact (each .primary).seq fun _ => each .secondary

end PlainPrograms

/-! ### Quiet programs -/

theorem quiet_of_plain {Result : Type} {program : Prog c Result} (plain : Plain program) :
    Quiet program :=
  plain.mono fun _ => Op.Plain.quiet

theorem quiet_lift {Result : Type} {program : Prog c Result} (plain : Plain program) :
    Quiet (lift program).run :=
  (Program.only_lift _).mpr (quiet_of_plain plain)

section QuietPrograms

variable (head : HeadId)

theorem quiet_copyRanges (pixels : Frame c) (ranges : List DirtyRange) :
    Quiet (copyRanges head pixels ranges) := by
  induction ranges with
  | nil => trivial
  | cons range rest inductionHypothesis =>
    exact (only_act (by trivial)).seq fun _ => inductionHypothesis

theorem quiet_updateLastSent (pixels : Frame c) (isLastSent : Bool)
    (damage : Option FrameDamage) : Quiet (updateLastSent head pixels isLastSent damage) := by
  refine (quiet_of_plain (plain_readHead head)).seq fun state => Program.Only.branch ?_ trivial
  have valid : Quiet (c := c) (act (.setLastSentValid head true)) := only_act (by trivial)
  cases partialRanges damage with
  | none => exact (only_act (by trivial)).seq fun _ => valid
  | some ranges => exact (quiet_copyRanges head pixels ranges).seq fun _ => valid

theorem quiet_finishRaw (pixels : Frame c) (isLastSent : Bool) (damage : Option FrameDamage)
    (totalSent : Nat) : Quiet (finishRaw head pixels isLastSent damage totalSent) := by
  have counted : Quiet (c := c) (act (.tune head fun sender =>
      { sender with frameSeq := (sender.frameSeq + 1) % 2 ^ 32 }) >>= fun _ =>
        countSent head totalSent) :=
    (only_act (by trivial)).seq fun _ => quiet_of_plain (plain_count head _)
  exact (quiet_updateLastSent head pixels isLastSent damage).seq fun _ =>
    (only_act (by trivial)).seq fun _ => (only_act (by trivial)).seq fun _ =>
      (quiet_of_plain (plain_rawRefreshEligible head)).seq fun _ =>
        Program.Only.branch ((only_act (by trivial)).seq fun _ => counted) counted

theorem quiet_deferHeadActivity (popped : Popped) (reason : TxDeferReason) :
    Quiet (deferHeadActivity (c := c) head popped reason) := by
  have armed : Quiet (c := c) (readDev >>= fun dev =>
      if dev.wq then act (.arm head .txDeferWork) else pure ()) :=
    (quiet_of_plain plain_readDev).seq fun _ =>
      Program.Only.branch (only_act (by trivial)) trivial
  refine (only_act (by trivial)).seq fun _ => ?_
  cases reason with
  | none => exact armed
  | adapter => exact (only_act (by trivial)).seq fun _ => armed
  | head => exact (quiet_of_plain (plain_count head _)).seq fun _ => armed

theorem quiet_shouldYieldTurn (popped : Popped) :
    Quiet (shouldYieldTurn (c := c) head popped) := by
  unfold shouldYieldTurn
  cases c.transport head with
  | raw | userJpeg => trivial
  | jpegCmd | nv12 =>
    refine (only_act (by trivial)).seq fun next => ?_
    cases next with
    | none => trivial
    | some next => exact (quiet_of_plain (plain_queueHeadTxWork next)).seq fun _ => trivial

theorem quiet_prepareFrameJpegCmd (pixels : Frame c) (pixelLen : Nat) :
    Quiet (prepareFrameJpegCmd head pixels pixelLen).run := by
  refine Program.Only.ite (by trivial) (Program.Only.ite (by trivial)
    (Program.Only.ite (by trivial) (Program.Only.ite (by trivial)
    (Program.Only.tryBind (quiet_lift (plain_readHead head)) fun state => ?_))))
  cases state.sender.jpegStaging with
  | none => trivial
  | some staging =>
    refine Program.Only.tryBind (quiet_lift (only_act (by trivial))) fun env => ?_
    cases c.jpegEncodeXrgb8888 pixels.bytes (strideOrTight c state.queue.txStride) _ with
    | error errno =>
      exact Program.Only.tryBind (quiet_lift (plain_headRecordSendError head _ _)) fun _ => trivial
    | ok encoded =>
      exact Program.Only.tryBind (quiet_lift (only_act (by trivial))) fun _ =>
        Program.Only.tryBind (quiet_lift (only_act (by trivial))) fun _ =>
        Program.Only.tryBind (quiet_lift (plain_recordEncode head _)) fun _ =>
        Program.Only.tryBind (quiet_lift (only_act (by trivial))) fun _ => trivial

theorem quiet_prepareFrameNv12 (pixels : Frame c) :
    Quiet (prepareFrameNv12 head pixels).run := by
  refine Program.Only.tryBind (quiet_lift (plain_readHead head)) fun state => ?_
  cases state.sender.jpegStaging with
  | none => exact Program.only_throw _
  | some staging =>
    refine Program.Only.dite (fun fits => ?_) fun _ => Program.only_throw _
    refine Program.Only.ite (Program.only_throw _)
      (Program.Only.tryBind (quiet_lift (only_act (by trivial))) fun env => ?_)
    split
    · trivial
    · next planes _ =>
      exact Program.Only.tryBind (quiet_lift (only_act (by trivial))) fun _ =>
        Program.Only.tryBind (quiet_lift (only_act (by trivial))) fun _ =>
        Program.Only.tryBind (quiet_lift (plain_recordEncode head _)) fun _ => trivial

theorem quiet_prepareFrame (popped : Popped) :
    Quiet (prepareFrame (c := c) head popped).run := by
  unfold prepareFrame
  refine Program.Only.ite (by trivial) ?_
  cases c.transport head with
  | jpegCmd =>
    exact Program.Only.tryBind (quiet_lift (plain_readHead head)) fun _ =>
      Program.Only.tryBind (quiet_prepareFrameJpegCmd head _ _) fun _ => trivial
  | raw => exact Program.Only.tryBind (quiet_lift (plain_frameDamage head)) fun _ => trivial
  | nv12 =>
    exact Program.Only.tryBind (quiet_lift (plain_frameDamage head)) fun _ =>
      Program.Only.ite
        (Program.Only.tryBind (quiet_lift (plain_count head _)) fun _ =>
          Program.Only.tryBind (quiet_lift (plain_noteCompleted head)) fun _ => trivial)
        (Program.Only.tryBind (quiet_lift (plain_readHead head)) fun _ =>
          Program.Only.tryBind (quiet_prepareFrameNv12 head _) fun _ => trivial)
  | userJpeg => trivial

theorem quiet_finishFrame : Quiet (finishFrame (c := c) head) := by
  refine (quiet_of_plain (plain_noteCompleted head)).seq fun _ => ?_
  cases c.transport head with
  | nv12 =>
    exact (quiet_of_plain (plain_readHead head)).seq fun _ => Program.Only.branch
      ((quiet_of_plain (plain_readHead head)).seq fun _ =>
        (only_act (by trivial)).seq fun _ => only_act (by trivial)) trivial
  | raw => trivial
  | jpegCmd => trivial
  | userJpeg => trivial

theorem quiet_exportFrame (fb : Framebuffer) : Quiet (exportFrame (c := c) head fb) := by
  unfold exportFrame
  cases fb.vaddr with
  | none => trivial
  | some src =>
    refine (quiet_of_plain (plain_readHead head)).seq fun _ => Program.Only.branch trivial
      ((only_act (by trivial)).seq fun packed => ?_)
    cases packed with
    | error errno => trivial
    | ok => exact only_act (by trivial)

theorem quiet_planeAtomicUpdate (fb : Framebuffer) :
    Quiet (planeAtomicUpdate (c := c) head fb) := by
  unfold planeAtomicUpdate
  refine Program.Only.branch ((quiet_exportFrame head fb).seq fun _ => trivial)
    (Program.Only.branch trivial ((quiet_of_plain plain_readDev).seq fun _ =>
      Program.Only.branch trivial ((quiet_of_plain (plain_headRuntimeConnected head)).seq fun _ =>
        Program.Only.branch trivial ?_)))
  cases fb.vaddr with
  | none => trivial
  | some src =>
    exact Program.Only.branch trivial ((quiet_of_plain (plain_readHead head)).seq fun _ =>
      Program.Only.branch trivial ((only_act (by trivial)).seq fun _ =>
        Program.Only.branch trivial ((quiet_of_plain (plain_count head _)).seq fun _ =>
          (only_act (by trivial)).seq fun _ => only_act (by trivial))))

theorem quiet_stopWorkqueue : Quiet (stopWorkqueue (c := c)) :=
  (quiet_of_plain plain_readDev).seq fun _ => Program.Only.branch
    ((only_act (by trivial)).seq fun _ => only_act (by trivial)) trivial

theorem quiet_freeBuffersOf : Quiet (freeBuffersOf (c := c) head) :=
  (only_act (by trivial)).seq fun _ => (only_act (by trivial)).seq fun _ => only_act (by trivial)

end QuietPrograms

end Trigger6.Driver
