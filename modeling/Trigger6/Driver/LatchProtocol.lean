/-
This file gives the protocol of the fault latch, and checks function by function
that all code of the driver follows it. A thread is free, or it holds `io_lock`,
or it holds the lock with a failed transfer that it has not latched yet. Only
under the lock may it submit a request, only behind a check of the latch, and
after a failed transfer it may do nothing on the bus before it has latched the
fault.
-/

import Trigger6.Driver.Bus
import Trigger6.Lib.Protocol

namespace Trigger6.Driver

open Bytes Interaction

variable {c : Config}

/-! ### Requests on record -/

/-- The final monitor-off is made outside the transfer functions. -/
def Transfer.isFinalOff : Transfer → Bool
  | .finalOff _ _ _ => true
  | _ => false

/-- A transfer of one of the transfer functions failed or came short. -/
def failedTransfer (transfer : Transfer) (outcome : Outcome) : Bool :=
  !transfer.isFinalOff && !outcome.complete transfer

/-! ### The protocol -/

inductive LatchPhase
  | free
  | locked
  | failing

/-- A check that is never passed once the fault is latched. -/
def Guards (check : Dev c → Bool) : Prop :=
  ∀ dev, dev.ioFaulted = true → check dev = true

def Submission.failed (transfer : Transfer) : Submission → Bool
  | .returned outcome _ => failedTransfer transfer outcome
  | _ => false

/-- The protocol of the fault latch, for one thread. -/
def latching (c : Config) (thread : Thread) : Protocol (calls c) LatchPhase where
  allowed
    | _, .clearIntfdata => thread = .bus
    | .free, .unlockIo => False
    | .free, .submit _ _ _ => False
    | .locked, .lockIo => False
    | .locked, .submit check _ _ => Guards check
    | .failing, .lockIo => False
    | .failing, .unlockIo => False
    | .failing, .submit _ _ _ => False
    | _, _ => True
  possible _ op answer := op.Possible answer
  move
    | .free, .lockIo, _ => .locked
    | .locked, .unlockIo, _ => .free
    | .locked, .submit _ _ transfer, submission =>
      if submission.failed transfer then .failing else .locked
    | .failing, .setIoFaulted, _ => .locked
    | phase, _, _ => phase

/-! ### The code follows the protocol -/

section Follows

variable {thread : Thread} {phase : LatchPhase} {Result : Type}

/-- Quiet steps are allowed in every phase and lead nowhere. -/
theorem latching_quiet {op : Op c} (quiet : op.Quiet) :
    (latching c thread).allowed phase op ∧ ∀ answer,
      (latching c thread).possible phase op answer →
        (latching c thread).move phase op answer = phase := by
  cases op <;> first
    | exact quiet.elim
    | cases phase <;> exact ⟨trivial, fun _ _ => rfl⟩

theorem stays_quiet {program : Prog c Result} (quiet : Quiet program) :
    program.Stays (latching c thread) phase :=
  .of_only quiet fun _ => latching_quiet

theorem stays_plain {program : Prog c Result} (plain : Plain program) :
    program.Stays (latching c thread) phase :=
  stays_quiet (quiet_of_plain plain)

theorem stays_lift {program : Prog c Result} (plain : Plain program) :
    (lift program).run.Stays (latching c thread) phase :=
  .lift (stays_plain plain)

theorem stays_act {op : Op c} (plain : op.Plain) :
    (lift (act op)).run.Stays (latching c thread) phase :=
  stays_lift (only_act plain)

/-! ### Transfers -/

/-- Latching an error is the way out of a failed transfer. -/
theorem latchIoError_follows (busy : phase ≠ .free) (errno : Errno) :
    (latchIoError (c := c) errno).Follows (latching c thread) (fun last _ => last = .locked)
      phase := by
  cases phase with
  | free => exact absurd rfl busy
  | locked => exact ⟨trivial, fun _ _ => ⟨trivial, fun _ _ => rfl⟩⟩
  | failing => exact ⟨trivial, fun _ _ => ⟨trivial, fun _ _ => rfl⟩⟩

/-- The phase after a request under the lock. -/
def LatchPhase.after (transfer : Transfer) (submission : Submission) : LatchPhase :=
  if submission.failed transfer then .failing else .locked

theorem LatchPhase.after_busy (transfer : Transfer) (submission : Submission) :
    LatchPhase.after transfer submission ≠ .free := by
  unfold LatchPhase.after
  split <;> exact nofun

theorem LatchPhase.after_complete {transfer : Transfer} {outcome : Outcome} {data : List Byte}
    (complete : outcome.complete transfer = true) :
    LatchPhase.after transfer (.returned outcome data) = .locked := by
  simp [LatchPhase.after, Submission.failed, failedTransfer, complete]

/-- The end of a control transfer latches the fault if the transfer failed. -/
theorem finishControl_follows (transfer : Transfer) (submission : Submission) :
    (finishControl (c := c) transfer submission).run.Follows (latching c thread)
      (fun last _ => last = .locked) (.after transfer submission) := by
  cases submission with
  | refused => exact rfl
  | noMemory => exact rfl
  | returned outcome data =>
    show Program.Follows _ _ _ (ExceptT.run (if _ then _ else _))
    by_cases complete : outcome.complete transfer = true
    · rw [if_pos complete]
      exact LatchPhase.after_complete complete
    · rw [if_neg complete]
      exact .tryBind (.lift ((latchIoError_follows (LatchPhase.after_busy _ _) _).mono
        fun _ _ locked => locked))

theorem failBulk_follows (busy : phase ≠ .free) (change : DeviceMetrics → DeviceMetrics)
    (errno : Errno) :
    (failBulk (c := c) change errno).run.Follows (latching c thread)
      (fun last _ => last = .locked) phase := by
  refine .tryBind (.lift ((stays_plain (only_act (by trivial))).mono fun _ _ same => ?_))
  rw [same]
  exact .tryBind (.lift ((latchIoError_follows busy errno).mono fun _ _ locked => locked))

/-- A guarded request of a transfer function, and what it does with the answer. -/
theorem stays_submit {allocates : Bool} {transfer : Transfer}
    {rest : Submission → Fallible c Result}
    (each : ∀ submission,
      (Op.submit (c := c) latchCheck allocates transfer).Possible submission →
      (rest submission).run.Follows (latching c thread) (fun last _ => last = .locked)
        (.after transfer submission)) :
    (lift (act (.submit latchCheck allocates transfer)) >>= rest).run.Stays (latching c thread)
      .locked :=
  Program.Follows.tryBind (Program.Follows.lift ⟨fun _ faulted => faulted, each⟩)

theorem stays_ctrlOut (request value index : Nat) (data : List Byte) :
    (ctrlOut (c := c) request value index data).run.Stays (latching c thread) .locked := by
  unfold ctrlOut
  refine .tryIte rfl (.tryIte rfl (stays_submit fun submission _ => ?_))
  refine Program.Follows.tryBind ((finishControl_follows _ submission).mono fun last result same => ?_)
  cases result <;> exact same

theorem stays_ctrlIn (request value index size : Nat) :
    (ctrlIn (c := c) request value index size).run.Stays (latching c thread) .locked := by
  unfold ctrlIn
  refine .tryBind (stays_lift plain_readDev) fun _ => .tryIte rfl (.tryIte rfl (.tryIte rfl ?_))
  exact stays_submit fun submission _ => finishControl_follows _ submission

theorem stays_bulkChunks (bound : Nat) (cursor : List Byte) (remaining : Nat) :
    (bulkChunks (c := c) bound cursor remaining).run.Stays (latching c thread) .locked := by
  induction bound generalizing cursor remaining with
  | zero => exact Program.stays_done _
  | succ bound inductionHypothesis =>
    rw [bulkChunks]
    refine .tryIte (Program.stays_done _) (stays_submit fun submission possible => ?_)
    cases submission with
    | refused => exact rfl
    | noMemory => exact rfl
    | returned outcome data =>
      refine .tryBind (.lift ((stays_plain (only_act (by trivial))).mono fun _ _ same => ?_))
      rw [same]
      cases status : outcome.status with
      | some errno => exact failBulk_follows (LatchPhase.after_busy _ _) _ _
      | none =>
        show Program.Follows _ _ _ (ExceptT.run (if _ then _ else _))
        by_cases moved : outcome.actual = min xferChunkSize remaining
        · have complete := complete_of_moved status moved possible
          rw [if_pos moved, LatchPhase.after_complete complete]
          exact inductionHypothesis _ _
        · rw [if_neg moved]
          exact failBulk_follows (LatchPhase.after_busy _ _) _ _

theorem stays_bulkWrite (src : List Byte) (len : Nat) :
    (bulkWrite (c := c) src len).run.Stays (latching c thread) .locked := by
  unfold bulkWrite
  refine .tryIte rfl (.tryBind (stays_lift plain_readDev) fun _ => .tryIte rfl (.tryIte rfl ?_))
  refine .tryBind (stays_lift plain_readDev) fun _ => .tryIte rfl ?_
  exact .tryBind (stays_act (by trivial)) fun _ => stays_bulkChunks len src len

theorem stays_writeRecord (header : BulkHeader) (payload : List Byte) (len : Nat) :
    (writeRecord (c := c) header payload len).run.Stays (latching c thread) .locked :=
  .tryBind (stays_bulkWrite _ _) fun _ => stays_bulkWrite _ _

/-! ### Senders -/

section Senders

variable (head : HeadId)

theorem stays_recordingErrors (source : String) {body : Fallible c Result}
    (stays : body.run.Stays (latching c thread) .locked) :
    (recordingErrors head source body).run.Stays (latching c thread) .locked :=
  .tryCatch stays fun _ => .tryBind (stays_lift (plain_headRecordSendError head _ _)) fun _ => rfl

theorem stays_sendRows (pixels : Frame c) (flip : FlipHeader) (ranges : List DirtyRange)
    (totalSent : Nat) :
    (sendRows head pixels flip ranges totalSent).run.Stays (latching c thread) .locked := by
  induction ranges generalizing totalSent with
  | nil => exact .tryBind (stays_writeRecord _ _ _) fun _ => rfl
  | cons range rest inductionHypothesis =>
    exact .tryBind (stays_writeRecord _ _ _) fun _ => inductionHypothesis _

theorem stays_rawTransfers (pixels : Frame c) (damage : Option FrameDamage) :
    (rawTransfers head pixels damage).run.Stays (latching c thread) .locked := by
  refine .tryBind (stays_lift (plain_readHead head)) fun state => ?_
  cases head with
  | primary =>
    cases partialRanges damage with
    | some ranges => exact stays_recordingErrors _ _ (stays_sendRows _ _ _ _ _)
    | none =>
      exact .tryIte rfl (stays_recordingErrors _ _
        (.tryBind (stays_writeRecord _ _ _) fun _ => rfl))
  | secondary =>
    refine .tryIte rfl (stays_recordingErrors _ _ ?_)
    exact .tryBind (stays_writeRecord _ _ _) fun _ => .tryBind (stays_writeRecord _ _ _) fun _ =>
      .tryBind (stays_act (by trivial)) fun _ => rfl

theorem stays_sendFrameRaw (pixels : Frame c) (isLastSent : Bool) (pixelLen : Nat)
    (damage : Option FrameDamage) :
    (sendFrameRaw head pixels isLastSent pixelLen damage).run.Stays (latching c thread)
      .locked := by
  have noted : (lift (act (.noteSent head pixels))).run.Stays (latching c thread) .locked :=
    .lift (Program.stays_perform trivial fun _ _ => rfl)
  unfold sendFrameRaw
  refine .tryIte rfl (.tryIte rfl (.tryIte ?_ ?_))
  · exact .tryBind (stays_lift (plain_count head _)) fun _ => noted
  · exact .tryBind (stays_rawTransfers head pixels damage) fun _ =>
      .tryBind (.lift (stays_quiet (quiet_finishRaw head pixels isLastSent damage _))) fun _ => noted

theorem stays_sendStagedBlob (sender : Sender c) (staging : Buffer jpegStagingSize)
    (cmdStep : Nat) (source : BlobSource) (len : BlobLength) :
    (sendStagedBlob head sender staging cmdStep source len).run.Stays (latching c thread)
      .locked :=
  .tryIte rfl (.tryBind (stays_act (by trivial)) fun _ =>
    .tryBind (stays_writeRecord _ _ _) fun _ => .tryBind (stays_act (by trivial)) fun _ =>
    .tryBind (stays_lift (plain_count head _)) fun _ =>
    .tryBind (stays_lift (plain_storeBlob head _ _)) fun _ => stays_act (by trivial))

theorem stays_sendJpegBlob (source : BlobSource) (len : BlobLength) :
    (sendJpegBlob (c := c) head source len).run.Stays (latching c thread) .locked := by
  unfold sendJpegBlob
  refine .tryIte rfl (.tryBind (stays_lift (plain_readHead head)) fun state => ?_)
  split
  · exact stays_sendStagedBlob head _ _ _ source len
  · exact rfl

theorem stays_sendStagedNv12 (sender : Sender c) (staging : Buffer jpegStagingSize)
    (len : EncodedLength) :
    (sendStagedNv12 head sender staging len).run.Stays (latching c thread) .locked :=
  .tryBind (stays_act (by trivial)) fun _ =>
    .tryBind (stays_recordingErrors head _ (stays_writeRecord _ _ _)) fun _ =>
    .tryBind (stays_act (by trivial)) fun _ => .tryBind (stays_lift (plain_count head _)) fun _ =>
    .tryBind (stays_lift (plain_stashNv12 head _ _)) fun _ => stays_act (by trivial)

theorem stays_sendPreparedNv12 (len : EncodedLength) :
    (sendPreparedNv12 (c := c) head len).run.Stays (latching c thread) .locked := by
  refine .tryBind (stays_lift (plain_readHead head)) fun state => ?_
  split
  · exact rfl
  · exact stays_sendStagedNv12 head _ _ len

theorem stays_sendRefresh :
    (sendRefresh (c := c) head).run.Stays (latching c thread) .locked := by
  refine .tryBind (stays_lift (plain_refreshDeadline head)) fun _ =>
    .tryBind (stays_lift (plain_rawRefreshEligible head)) fun _ => .tryIte rfl
    (.tryBind (stays_act (by trivial)) fun _ => .tryIte rfl
    (.tryBind (stays_lift (plain_readHead head)) fun state => ?_))
  cases state.lastSentFrame with
  | none => exact rfl
  | some frame => exact .tryBind (stays_sendFrameRaw head _ _ _ _) fun _ => rfl

theorem stays_resend : (resend (c := c) head).run.Stays (latching c thread) .locked := by
  unfold resend
  split
  · exact stays_sendRefresh head
  · exact .tryBind (.tryBind (stays_lift (plain_readHead head)) fun _ => stays_writeRecord _ _ _)
      fun _ => rfl
  · exact .tryBind (stays_lift (plain_readHead head)) fun _ =>
      .tryBind (stays_sendJpegBlob head _ _) fun _ => rfl
  · exact .tryBind (stays_lift (plain_readHead head)) fun _ =>
      .tryBind (stays_sendJpegBlob head _ _) fun _ => rfl

theorem stays_sendKeepalive :
    (sendKeepalive (c := c) head).run.Stays (latching c thread) .locked :=
  .tryCatch
    (.tryBind (stays_resend head) fun _ => .tryIte (stays_lift (plain_count head _)) rfl)
    fun _ => .tryBind (stays_lift (plain_count head _)) fun _ =>
      .tryBind (stays_lift (plain_headRecordSendError head _ _)) fun _ => rfl

theorem stays_sendPrepared (popped : Popped) (prepared : Prepared) :
    (sendPrepared (c := c) head popped prepared).run.Stays (latching c thread) .locked := by
  cases prepared with
  | keepalive => exact stays_sendKeepalive head
  | raw damage =>
    exact .tryBind (stays_lift (plain_readHead head)) fun _ => stays_sendFrameRaw head _ _ _ _
  | encoded len =>
    unfold sendPrepared
    cases c.transport head with
    | nv12 => exact stays_sendPreparedNv12 head len
    | raw => exact stays_recordingErrors head _ (stays_sendJpegBlob head _ _)
    | jpegCmd => exact stays_recordingErrors head _ (stays_sendJpegBlob head _ _)
    | userJpeg => exact stays_recordingErrors head _ (stays_sendJpegBlob head _ _)

end Senders

/-! ### Work items and entries -/

/-- From inside a section of `io_lock`, the program lets go of the lock. -/
def Leaves (thread : Thread) (program : Prog c Result) : Prop :=
  program.Follows (latching c thread) (fun last _ => last = .free) .locked

section Sections

variable {First : Type} {body : Prog c First} {rest : Prog c Result}
  {following : First → Prog c Result}

theorem stays_lockIo (leaves : Leaves thread rest) :
    (act .lockIo >>= fun _ => rest).Stays (latching c thread) .free :=
  ⟨trivial, fun _ _ => leaves⟩

theorem leaves_unlockIo (stays : rest.Stays (latching c thread) .free) :
    Leaves thread (act .unlockIo >>= fun _ => rest) :=
  ⟨trivial, fun _ _ => stays⟩

theorem Leaves.after (inside : body.Stays (latching c thread) .locked)
    (leaves : ∀ result, Leaves thread (following result)) : Leaves thread (body >>= following) := by
  refine Program.Follows.seq (inside.mono fun last result same => ?_)
  rw [same]
  exact leaves result

theorem Leaves.branch {condition : Prop} [Decidable condition] {yes no : Prog c Result}
    (first : Leaves thread yes) (second : Leaves thread no) :
    Leaves thread (if condition then yes else no) := by
  split
  · exact first
  · exact second

end Sections

section Entries

variable (head : HeadId)

theorem stays_tripTransportFault (errno : Errno) (source : String) :
    (tripTransportFault (c := c) head errno source).Stays (latching c thread) .free :=
  .seq (stays_quiet (only_act (by trivial))) fun _ => .ite rfl
    (.seq (stays_plain (only_act (by trivial))) fun _ =>
      .seq (Program.stays_perform trivial fun _ _ => rfl) fun _ =>
      .seq (stays_plain plain_readDev) fun _ => .ite (stays_plain (only_act (by trivial))) rfl)

theorem stays_transmit (popped : Popped) (prepared : Prepared) :
    (transmit (c := c) head popped prepared).Stays (latching c thread) .free := by
  have deferred : ∀ reason, Leaves thread (c := c) (act .unlockIo >>= fun _ =>
      deferHeadActivity head popped reason >>= fun _ => pure ()) := fun reason =>
    leaves_unlockIo (.seq (stays_quiet (quiet_deferHeadActivity head popped reason)) fun _ => rfl)
  have queued : (queueNextPendingHead (c := c)).Stays (latching c thread) .free :=
    stays_plain plain_queueNextPendingHead
  refine stays_lockIo (.after (stays_plain (plain_readTxDelay head)) fun ⟨delay, reason⟩ =>
    .branch (deferred reason) (.after (stays_plain (only_act (by trivial))) fun entered =>
      .branch (leaves_unlockIo rfl) ?_))
  refine .after (stays_sendPrepared head popped prepared) fun sent => leaves_unlockIo ?_
  refine .seq (stays_plain (only_act (by trivial))) fun _ =>
    .seq (stays_plain (only_act (by trivial))) fun _ =>
    .seq (stays_plain (only_act (by trivial))) fun _ =>
    .seq (stays_plain (only_act (by trivial))) fun _ => ?_
  cases sent with
  | error errno => exact .ite (stays_tripTransportFault head errno _) rfl
  | ok => exact .ite (.seq (stays_quiet (quiet_finishFrame head)) fun _ => queued) queued

theorem stays_processActivity (popped : Popped) :
    (processActivity (c := c) head popped).Stays (latching c thread) .free := by
  refine .seq (stays_plain (plain_headRuntimeConnected head)) fun _ => .ite rfl
    (.seq (stays_quiet (quiet_shouldYieldTurn head popped)) fun _ => .ite rfl
    (.seq (stays_plain (plain_readTxDelay head)) fun ⟨delay, reason⟩ => .ite
    (.seq (stays_quiet (quiet_deferHeadActivity head popped _)) fun _ => rfl)
    (.seq (stays_quiet (quiet_prepareFrame head popped)) fun prepared => ?_)))
  split
  · exact stays_tripTransportFault head _ _
  · exact rfl
  · exact stays_transmit head popped _

theorem stays_frameWork : (frameWork (c := c) head).Stays (latching c thread) .free := by
  refine .seq (stays_plain (only_act (by trivial))) fun _ => .seq (stays_plain plain_readDev)
    fun _ => .seq (stays_plain (plain_readHead head)) fun _ => .ite rfl
    (.seq (stays_quiet (only_act (by trivial))) fun popped => ?_)
  cases popped with
  | none => exact stays_plain (only_act (by trivial))
  | some popped => exact stays_processActivity head popped

theorem stays_bootKeepaliveFn :
    (bootKeepaliveFn (c := c) head).Stays (latching c thread) .free := by
  refine .seq (stays_plain (plain_readHead head)) fun _ => .seq (stays_plain plain_readDev)
    fun _ => .ite rfl (.seq (stays_plain (plain_readHead head)) fun _ => .ite rfl (stays_lockIo ?_))
  refine .after (stays_plain (plain_readHead head)) fun _ => .after (stays_bulkWrite _ _) fun _ =>
    .after (stays_bulkWrite _ _) fun _ => leaves_unlockIo ?_
  exact .seq (stays_plain (plain_count head _)) fun _ => .seq (stays_plain plain_readDev) fun _ =>
    .ite (stays_plain (only_act (by trivial))) rfl

theorem stays_crtcAtomicEnable :
    (crtcAtomicEnable (c := c) head).Stays (latching c thread) .free := by
  have finish : Leaves thread (c := c) (act .unlockIo >>= fun _ => act .devExit) :=
    leaves_unlockIo (stays_plain (only_act (by trivial)))
  refine .seq (stays_plain (plain_headRuntimeConnected head)) fun _ => .ite rfl
    (.seq (stays_plain (only_act (by trivial))) fun _ =>
      .seq (stays_plain (only_act (by trivial))) fun _ =>
      .seq (stays_plain (only_act (by trivial))) fun _ => .ite rfl (stays_lockIo ?_))
  refine .after (stays_ctrlOut _ _ _ _) fun result => ?_
  cases result with
  | error errno => exact finish
  | ok =>
    refine .after (stays_plain (only_act (by trivial))) fun _ =>
      .after (stays_plain (plain_rawRefreshEligible head)) fun eligible => ?_
    split
    · exact .after (stays_plain (only_act (by trivial))) fun _ => finish
    · exact finish

theorem stays_crtcAtomicDisable (own : Thread) :
    (crtcAtomicDisable (c := c) own head).Stays (latching c thread) .free :=
  .seq (stays_plain (plain_stopHeadActivity head)) fun _ =>
    .seq (stays_plain (only_act (by trivial))) fun _ =>
    .seq (stays_plain (only_act (by trivial))) fun _ =>
    .seq (stays_quiet (only_act (by trivial))) fun _ =>
    .seq (stays_plain (only_act (by trivial))) fun _ => .ite rfl
      (.seq (stays_plain (only_act (by trivial))) fun _ => .ite rfl (stays_lockIo
        (.after (stays_ctrlOut _ _ _ _) fun _ =>
          leaves_unlockIo (stays_plain (only_act (by trivial))))))

theorem stays_sendUserJpeg (data : List Byte) (len : BlobLength) :
    (sendUserJpeg (c := c) head data len).Stays (latching c thread) .free := by
  refine stays_lockIo (.after (stays_plain (only_act (by trivial))) fun entered => ?_)
  split
  · exact leaves_unlockIo rfl
  · exact .after (stays_sendJpegBlob head _ _) fun _ =>
      .after (stays_plain (only_act (by trivial))) fun _ => leaves_unlockIo rfl

theorem stays_jpegMiscWrite (ppos : Nat) (data : List Byte) :
    (jpegMiscWrite (c := c) head ppos data).run.Stays (latching c thread) .free := by
  refine .tryIte rfl (.tryBind (stays_lift (plain_readHead head)) fun state => ?_)
  refine .tryDite (fun _ => rfl) fun bounded => ?_
  · refine .tryIte rfl (.tryBind (stays_lift (plain_readHead head)) fun _ => .tryIte
      (.tryBind (stays_lift (plain_readHead head)) fun _ => rfl)
      (.tryBind (stays_lift plain_readDev) fun _ => .tryIte
      (.tryBind (stays_lift plain_readDev) fun _ => rfl)
      (.tryIte rfl (.tryBind (stays_act (by trivial)) fun _ => .tryIte rfl
      (.tryBind (.lift (stays_sendUserJpeg head data _)) fun sent => ?_)))))
    cases sent with
    | error errno =>
      exact .tryBind (stays_lift (plain_headRecordSendError head _ _)) fun _ =>
        .tryBind (.lift (stays_tripTransportFault head _ _)) fun _ => rfl
    | ok => exact rfl

theorem stays_latchHostDown : (latchHostDown (c := c)).Stays (latching c thread) .free :=
  ⟨trivial, fun _ _ => ⟨trivial, fun _ _ => rfl⟩⟩

theorem stays_usbSuspend : (usbSuspend (c := c)).Stays (latching c thread) .free :=
  .seq (stays_plain plain_readDev) fun _ => .ite rfl
    (.seq stays_latchHostDown fun _ => stays_plain (plain_cancelHeadActivity _))

theorem stays_usbResume : (usbResume (c := c)).Stays (latching c thread) .free :=
  .seq (stays_plain plain_readDev) fun _ => .ite rfl (.seq stays_latchHostDown fun _ =>
    .seq (stays_plain plain_readDev) fun _ => .ite (stays_plain (only_act (by trivial))) rfl)

theorem plain_finalOffPolicy (wasActive : Bool) : Plain (finalOffPolicy (c := c) wasActive) :=
  plain_readDev.seq fun _ => (only_act (by trivial)).seq fun _ => trivial

/-- The policy's check guards the final monitor-off, whose failure is not latched. -/
theorem stays_finalOffDisconnect (wasActive : Bool) :
    (finalOffDisconnect (c := c) wasActive).Stays (latching c thread) .free := by
  have guards : Guards (finalOffFaulted (c := c)) := by
    intro dev faulted
    rw [finalOffFaulted, faulted, Bool.true_or]
  have request : (act (.submit (c := c) finalOffFaulted false (.finalOff 0x03 0 0))).Stays
      (latching c thread) .locked := by
    refine Program.stays_perform guards fun submission _ => ?_
    cases submission <;> rfl
  have finish : Leaves thread (c := c) (act .unlockIo) := ⟨trivial, fun _ _ => rfl⟩
  refine .ite rfl (.seq (stays_plain (plain_finalOffPolicy wasActive)) fun _ => .ite rfl
    (stays_lockIo (.after (stays_plain (plain_finalOffPolicy wasActive)) fun _ =>
      .branch (.after request fun _ => finish) finish)))

theorem stays_disableIfActive (active : HeadId → Bool) :
    (disableIfActive (c := c) active head).Stays (latching c thread) .free :=
  .ite (stays_crtcAtomicDisable head _) rfl

theorem stays_usbDisconnect (active : HeadId → Bool) :
    (usbDisconnect (c := c) active).Stays (latching c .bus) .free :=
  .seq (stays_plain plain_readDev) fun _ => .seq (Program.stays_perform rfl fun _ _ => rfl) fun _ =>
    .ite rfl (.seq (stays_plain (plain_readHead .primary)) fun _ =>
      .seq (stays_quiet (only_act (by trivial))) fun _ =>
      .seq (stays_quiet (only_act (by trivial))) fun _ =>
      .seq (stays_plain (plain_cancelHeadActivity .bus)) fun _ =>
      .seq (stays_quiet quiet_stopWorkqueue) fun _ =>
      .seq (stays_finalOffDisconnect _) fun _ =>
      .seq (.seq (stays_disableIfActive .primary active) fun _ =>
        stays_disableIfActive .secondary active) fun _ =>
      .seq (stays_quiet (quiet_freeBuffersOf .primary)) fun _ =>
      .seq (stays_quiet (quiet_freeBuffersOf .secondary)) fun _ =>
      Program.stays_perform trivial fun _ _ => rfl)

end Entries

/-! ### Everything that can be started -/

theorem stays_entry {entry : Entry} (own : entry.on thread = true) :
    (entry.program (c := c)).Stays (latching c thread) .free := by
  cases entry with
  | crtcEnable head => exact stays_crtcAtomicEnable head
  | crtcDisable head => exact stays_crtcAtomicDisable head _
  | planeUpdate head fb => exact stays_quiet (quiet_planeAtomicUpdate head fb)
  | jpegWrite head ppos data => exact .seq (stays_jpegMiscWrite head ppos data) fun _ => rfl
  | suspend => exact stays_usbSuspend
  | resume => exact stays_usbResume
  | disconnect active =>
    cases thread with
    | bus => exact stays_usbDisconnect active
    | _ => cases own

theorem stays_work (head : HeadId) (work : Work) :
    (workProgram (c := c) head work).Stays (latching c thread) .free := by
  cases work with
  | txWork => exact stays_frameWork head
  | txDeferWork => exact stays_plain (plain_queueHeadTxWork head)
  | keepaliveTimer => exact stays_plain (plain_keepaliveTimeout head)
  | bootKeepaliveWork => exact stays_bootKeepaliveFn head

/-- Whatever is started on a thread follows the protocol of the latch. -/
theorem stays_started {allowed : Entry → Bool} {task : Task} {dev after : Dev c}
    {program : Prog c Unit} (started : startTask allowed thread task dev = some (after, program)) :
    program.Stays (latching c thread) .free := by
  cases task with
  | work head work =>
    simp only [startTask] at started
    split at started <;> cases started
    exact stays_work head work
  | entry entry =>
    simp only [startTask] at started
    split at started
    case isTrue own =>
      cases started
      rw [Bool.and_eq_true] at own
      exact stays_entry own.1
    case isFalse => cases started

end Follows

end Trigger6.Driver
