/-
This file proves that the host's reference frame and the display's memory do not
drift apart on the raw primary head. Over every sequence of the head's commits,
refresh timers and workers, and wherever a transfer fails or another party
latches the fault, a reference that the next damage scan would trust is what the
display shows, and so is the frame last recorded as sent.
-/

import Trigger6.Driver.Display
import Trigger6.Driver.RawFrames
import Trigger6.Driver.Runs

namespace Trigger6.Driver

open Bytes Interaction

variable {c : Config}

section Tasks

variable {thread : Thread} {clean : Prop} {dev : Dev c}

/-! ### Steps before and after a send -/

theorem transport_primary (c : Config) : c.transport .primary = .raw := rfl

/-- What follows a send, and moves nothing. -/
theorem Upheld.offstage {Result : Type}
    {program : Prog c Result} (upheld : Upheld clean dev) (only : program.Only Op.Offstage) :
    Ends (disturbed thread) (fun _ after => Upheld clean after ∧ after.ioLock = dev.ioLock) program
      dev := by
  refine (Ends.latching (offstage_ends only)).mono fun _ after held => ?_
  obtain ⟨unmoved, latch⟩ := held
  exact ⟨⟨unmoved.supplied.trans upheld.supplied,
    upheld.upheld.imp latch fun mirrors => mirrors.unmoved unmoved⟩, unmoved.lock⟩

theorem offstage_of_bookkeeping {Result : Type} {program : Prog c Result}
    (only : program.Only Op.Bookkeeping) : program.Only Op.Offstage :=
  only.mono fun op bookkeeping => by
    cases op with
    | read | ask | tune | arm => trivial
    | _ => cases bookkeeping

/-- Between its steps the worker holds no lock. -/
structure Rests (clean : Prop) (dev : Dev c) : Prop where
  upheld : Upheld clean dev
  free : dev.ioLock = none

theorem Rests.offstage {Result : Type} {program : Prog c Result} (rests : Rests clean dev)
    (only : program.Only Op.Offstage) :
    Ends (disturbed thread) (fun _ after => Rests clean after) program dev :=
  (rests.upheld.offstage only).mono fun _ _ held => ⟨held.1, held.2.trans rests.free⟩

/-- A task that holds no lock has not sent anything yet. -/
structure Poised (clean : Prop) (dev : Dev c) : Prop where
  mirrors : Mirrors clean dev
  free : dev.ioLock = none

theorem Poised.unmoved {after : Dev c} (poised : Poised clean dev) (unmoved : Unmoved dev after) :
    Poised clean after :=
  ⟨poised.mirrors.unmoved unmoved, unmoved.lock.trans poised.free⟩

theorem Poised.rests (poised : Poised clean dev) : Rests clean dev :=
  ⟨poised.mirrors.upheld, poised.free⟩

/-- A part of a task that moves nothing, and the rest. -/
theorem Poised.seq {First : Type} {program : Prog c First} {rest : First → Prog c Unit}
    (poised : Poised clean dev) (only : program.Only Op.Offstage)
    (ends : ∀ result after, Poised clean after →
      Ends (disturbed thread) (fun _ after => Rests clean after) (rest result) after) :
    Ends (disturbed thread) (fun _ after => Rests clean after) (program >>= rest) dev :=
  Ends.seq ((offstage_ends only).mono fun result after unmoved =>
    ends result after (poised.unmoved unmoved))

theorem unlockIo_rests (upheld : Upheld clean dev) :
    Ends (disturbed thread) (fun _ after => Rests clean after) (act (c := c) .unlockIo) dev := by
  intro input
  have steady := steady_latched dev input.1
  refine ⟨_, _, rfl, ⟨steady.supplied.trans upheld.supplied, ?_⟩, rfl⟩
  refine upheld.upheld.imp (latched_ioFaulted · input.1) fun mirrors => ?_
  obtain ⟨supplied, whole, displays, sent⟩ := mirrors.unmoved steady.toUnmoved
  exact ⟨supplied, whole, displays, sent⟩

/-- The lock is free between the tasks, and taking it moves nothing. -/
theorem lockIo_ends (free : dev.ioLock = none) :
    Ends (disturbed thread) (fun _ after => ∃ between, Steady dev between ∧
        after = { between with ioLock := some thread }) (act (c := c) .lockIo) dev := by
  intro input
  have steady := steady_latched dev input.1
  refine ⟨_, _, if_pos (steady.lock.trans free), _, steady, rfl⟩

theorem devEnter_steady :
    Ends (disturbed thread) (fun _ after => Steady dev after) (act (c := c) .devEnter) dev := by
  intro input
  have start := steady_latched dev input.1
  show ∃ answer after,
    exec thread (dev.latched input.1) .devEnter input.2 = some (answer, after) ∧ _
  simp only [exec]
  split
  · exact ⟨_, _, rfl, start⟩
  · exact ⟨_, _, rfl, start.trans ⟨⟨rfl, rfl, rfl, rfl, rfl, rfl⟩, rfl⟩⟩

theorem only_deferHeadActivity (popped : Popped) (reason : TxDeferReason) :
    (deferHeadActivity (c := c) .primary popped reason).Only Op.Offstage := by
  have armed : Program.Only Op.Offstage (readDev (c := c) >>= fun dev =>
      if dev.wq then act (.arm .primary .txDeferWork) else pure ()) :=
    Program.Only.seq ⟨trivial, fun _ => trivial⟩ fun _ =>
      Program.Only.branch ⟨trivial, fun _ => trivial⟩ trivial
  refine Program.Only.seq ⟨trivial, fun _ => trivial⟩ fun _ => ?_
  cases reason with
  | none => exact armed
  | adapter => exact Program.Only.seq ⟨trivial, fun _ => trivial⟩ fun _ => armed
  | head => exact (offstage_of_bookkeeping (only_count .primary _)).seq fun _ => armed

theorem only_tripTransportFault (errno : Errno) (source : String) :
    (tripTransportFault (c := c) .primary errno source).Only Op.Offstage := by
  refine Program.Only.seq ⟨trivial, fun _ => trivial⟩ fun faulted => ?_
  cases faulted with
  | true => trivial
  | false =>
    exact Program.Only.seq ⟨trivial, fun _ => trivial⟩ fun _ =>
      Program.Only.seq ⟨trivial, fun _ => trivial⟩ fun _ =>
      Program.Only.seq ⟨trivial, fun _ => trivial⟩ fun _ =>
        Program.Only.branch ⟨trivial, fun _ => trivial⟩ trivial

theorem only_queueNextPendingHead : (queueNextPendingHead (c := c)).Only Op.Offstage := by
  refine Program.Only.seq ⟨trivial, fun _ => trivial⟩ fun next => ?_
  cases next with
  | none => trivial
  | some next => exact offstage_of_bookkeeping (only_queueHeadTxWork next)

theorem only_finishFrame : (finishFrame (c := c) .primary).Only Op.Offstage := by
  unfold finishFrame
  refine Program.Only.seq ((offstage_of_bookkeeping (only_readHead .primary)).seq fun _ =>
    ⟨trivial, fun _ => trivial⟩) fun _ => ?_
  rw [transport_primary]
  trivial

theorem only_keepaliveTimeout : (keepaliveTimeout (c := c) .primary).Only Op.Offstage := by
  have reads := offstage_of_bookkeeping (only_readHead (c := c) .primary)
  unfold keepaliveTimeout
  refine reads.seq fun _ => reads.seq fun _ =>
    Program.Only.seq ⟨trivial, fun _ => trivial⟩ fun _ => Program.Only.branch trivial ?_
  rw [transport_primary]
  refine (offstage_of_bookkeeping (only_refreshDeadline .primary)).seq fun _ =>
    (offstage_of_bookkeeping (only_rawRefreshEligible .primary)).seq fun _ =>
    Program.Only.branch trivial ?_
  refine Program.Only.seq ⟨trivial, fun _ => trivial⟩ fun _ =>
    Program.Only.branch ⟨trivial, fun _ => trivial⟩ ?_
  exact Program.Only.seq ⟨trivial, fun _ => trivial⟩ fun _ =>
    offstage_of_bookkeeping (only_queueHeadTxWork .primary)

theorem only_planeAtomicUpdate (fb : Framebuffer) :
    (planeAtomicUpdate (c := c) .primary fb).Only Op.Offstage := by
  unfold planeAtomicUpdate
  rw [if_neg (by rw [transport_primary]; rintro ⟨⟩)]
  refine Program.Only.branch trivial (Program.Only.seq ⟨trivial, fun _ => trivial⟩ fun _ =>
    Program.Only.branch trivial ?_)
  refine (offstage_of_bookkeeping (only_headRuntimeConnected .primary)).seq fun _ =>
    Program.Only.branch trivial ?_
  cases fb.vaddr with
  | none => trivial
  | some src =>
    refine Program.Only.branch trivial
      ((offstage_of_bookkeeping (only_readHead .primary)).seq fun _ =>
        Program.Only.branch trivial ?_)
    refine Program.Only.seq ⟨trivial, fun _ => trivial⟩ fun _ => Program.Only.branch trivial ?_
    exact (offstage_of_bookkeeping (only_count .primary _)).seq fun _ =>
      Program.Only.seq ⟨trivial, fun _ => trivial⟩ fun _ => ⟨trivial, fun _ => trivial⟩

/-! ### The worker -/

/-- The worker has a damage that was computed from the frame in hand and the reference. -/
def Prepared.Ready (dev : Dev c) : Prepared → Prop
  | .keepalive => True
  | .raw damage => damage = computeFrameDamage (dev.heads .primary).queue.front.frame
      (dev.heads .primary).lastSentFrame (dev.heads .primary).lastSentValid
  | .encoded _ => False

theorem Prepared.Ready.steady {prepared : Prepared} {dev after : Dev c}
    (ready : prepared.Ready dev) (steady : Steady dev after) : prepared.Ready after := by
  cases prepared with
  | keepalive => trivial
  | raw damage =>
    rw [Ready, steady.front, steady.reference, steady.valid]
    exact ready
  | encoded len => exact ready

theorem prepareFrame_ready (thread : Thread)
    (popped : Popped) (dev : Dev c) :
    Ends (disturbed thread) (fun result after => Steady dev after ∧
        ∃ prepared, result = .ok (some prepared) ∧ prepared.Ready after)
      (prepareFrame .primary popped).run dev := by
  unfold prepareFrame
  by_cases due : popped.keepaliveDue = true
  · rw [if_pos due]
    exact ⟨.refl dev, .keepalive, rfl, trivial⟩
  · rw [if_neg due, transport_primary]
    refine Ends.liftBind (frameDamage_ends.mono fun damage after held => ?_)
    obtain ⟨steady, rfl⟩ := held
    have ready : (Prepared.raw _).Ready dev := rfl
    exact ⟨steady, _, rfl, ready.steady steady⟩

section Worker

variable (query : c.queryOnly = false) (manual : c.manualOnly = false)

include query manual

theorem sendRefresh_upheld (thread : Thread) {clean : Prop} {dev : Dev c}
    (mirrors : Mirrors clean dev) :
    Ends (disturbed thread) (fun _ after => Upheld clean after)
      (sendRefresh (c := c) .primary).run dev := by
  refine Ends.liftBind ((bookkeeping_ends (only_refreshDeadline .primary)).mono
    fun deadline first steady => ?_)
  have mirrors := mirrors.unmoved steady.toUnmoved
  refine Ends.liftBind ((bookkeeping_ends (only_rawRefreshEligible .primary)).mono
    fun eligible second steady => ?_)
  have mirrors := mirrors.unmoved steady.toUnmoved
  split
  · exact mirrors.upheld
  have asks : (act (c := c) .ask).Only Op.Bookkeeping := ⟨trivial, fun _ => trivial⟩
  refine Ends.liftBind ((bookkeeping_ends asks).mono fun env third steady => ?_)
  have mirrors := mirrors.unmoved steady.toUnmoved
  split
  · exact mirrors.upheld
  refine Ends.liftBind ((readHead_steady .primary).mono fun state fourth read => ?_)
  obtain ⟨rfl, steady⟩ := read
  have mirrors := mirrors.unmoved steady.toUnmoved
  cases held : (third.heads .primary).lastSentFrame with
  | none => exact mirrors.upheld
  | some frame =>
    refine Ends.tryBind ((sendFrameRaw_upheld query manual thread c.frameSize mirrors
      ⟨by rintro _ ⟨⟩, by rintro _ _ ⟨⟩⟩ fun _ => steady.reference.trans held).mono
        fun result after upheld => ?_)
    cases result with
    | error errno => exact upheld
    | ok value => exact upheld

theorem sendPrepared_upheld (thread : Thread) {clean : Prop}
    {popped : Popped} {prepared : Prepared} {dev : Dev c} (mirrors : Mirrors clean dev)
    (ready : prepared.Ready dev) :
    Ends (disturbed thread) (fun _ after => Upheld clean after)
      (sendPrepared .primary popped prepared).run dev := by
  cases prepared with
  | keepalive =>
    have resends : Ends (disturbed thread) (fun _ after => Upheld clean after)
        (resend (c := c) .primary).run dev := by
      unfold resend
      rw [transport_primary]
      exact sendRefresh_upheld query manual thread mirrors
    have counts : Ends (disturbed thread) (fun _ after => Upheld clean after)
        (do if ← resend .primary then lift (countKeepalive .primary) :
          Fallible c Unit).run dev := by
      refine Ends.tryBind (resends.mono fun result after upheld => ?_)
      cases result with
      | error errno => exact upheld
      | ok sent =>
        cases sent with
        | false => exact upheld
        | true =>
          exact Ends.lift ((upheld.offstage (offstage_of_bookkeeping
            (only_count .primary _))).mono fun _ _ held => held.1)
    refine Ends.tryCatch (counts.mono fun result after upheld => ?_)
    cases result with
    | ok value => exact upheld
    | error errno =>
      refine Ends.liftBind ((upheld.offstage (offstage_of_bookkeeping
        (only_count .primary _))).mono fun _ between held => ?_)
      exact Ends.liftBind ((held.1.offstage (offstage_of_bookkeeping
        (only_headRecordSendError .primary errno "keepalive"))).mono fun _ _ held => held.1)
  | raw damage =>
    refine Ends.liftBind ((readHead_steady .primary).mono fun state between read => ?_)
    obtain ⟨rfl, steady⟩ := read
    have ready := ready.steady steady
    rw [Prepared.Ready, steady.front] at ready
    rw [ready]
    have mirrors := mirrors.unmoved steady.toUnmoved
    exact sendFrameRaw_upheld query manual thread popped.len mirrors (fits_damage mirrors _)
      (by rintro ⟨⟩)
  | encoded len => exact ready.elim

theorem transmit_mirrors {popped : Popped} {prepared : Prepared} (poised : Poised clean dev)
    (ready : prepared.Ready dev) :
    Ends (disturbed thread) (fun _ after => Rests clean after)
      (transmit .primary popped prepared) dev := by
  refine Ends.seq ((lockIo_ends poised.free).mono fun _ locked held => ?_)
  obtain ⟨between, steady, rfl⟩ := held
  have mirrors : Mirrors clean { between with ioLock := some thread } := by
    obtain ⟨supplied, whole, displays, sent⟩ := poised.mirrors.unmoved steady.toUnmoved
    exact ⟨supplied, whole, displays, sent⟩
  have ready : prepared.Ready { between with ioLock := some thread } := by
    have ready := ready.steady steady
    cases prepared with
    | keepalive => trivial
    | raw damage => exact ready
    | encoded len => exact ready
  generalize ({ between with ioLock := some thread } : Dev c) = locked at mirrors ready
  refine Ends.seq ((bookkeeping_ends (only_readTxDelay .primary)).mono fun delay paced steady => ?_)
  have mirrors := mirrors.unmoved steady.toUnmoved
  have ready := ready.steady steady
  obtain ⟨delay, reason⟩ := delay
  dsimp only
  split
  · exact Ends.seq ((unlockIo_rests mirrors.upheld).mono fun _ _ rests =>
      rests.offstage ((only_deferHeadActivity popped reason).seq fun _ => trivial))
  refine Ends.seq (devEnter_steady.mono fun entered inside steady => ?_)
  have mirrors := mirrors.unmoved steady.toUnmoved
  have ready := ready.steady steady
  split
  · exact unlockIo_rests mirrors.upheld
  refine Ends.seq ((sendPrepared_upheld query manual thread mirrors ready).mono
    fun sent left upheld => ?_)
  refine Ends.seq ((unlockIo_rests upheld).mono fun _ open_ rests => rests.offstage ?_)
  refine Program.Only.seq ⟨trivial, fun _ => trivial⟩ fun _ =>
    Program.Only.seq ⟨trivial, fun _ => trivial⟩ fun _ =>
    Program.Only.seq ⟨trivial, fun _ => trivial⟩ fun _ =>
    Program.Only.seq ⟨trivial, fun _ => trivial⟩ fun _ => ?_
  cases sent with
  | error errno => exact Program.Only.branch (only_tripTransportFault errno "drm") trivial
  | ok value =>
    exact Program.Only.branch (only_finishFrame.seq fun _ => only_queueNextPendingHead)
      only_queueNextPendingHead

theorem processActivity_mirrors {popped : Popped} (poised : Poised clean dev) :
    Ends (disturbed thread) (fun _ after => Rests clean after)
      (processActivity .primary popped) dev := by
  refine poised.seq (offstage_of_bookkeeping (only_headRuntimeConnected .primary))
    fun connected _ poised => ?_
  split
  · exact poised.rests
  have yields : (shouldYieldTurn (c := c) .primary popped).Only Op.Offstage := by
    unfold shouldYieldTurn
    rw [transport_primary]
    trivial
  refine poised.seq yields fun yielded _ poised => ?_
  split
  · exact poised.rests
  refine poised.seq (offstage_of_bookkeeping (only_readTxDelay .primary))
    fun delay paced poised => ?_
  obtain ⟨delay, reason⟩ := delay
  dsimp only
  split
  · exact poised.rests.offstage ((only_deferHeadActivity popped reason).seq fun _ => trivial)
  refine Ends.seq ((prepareFrame_ready thread popped paced).mono fun result after held => ?_)
  obtain ⟨steady, prepared, rfl, ready⟩ := held
  exact transmit_mirrors query manual (poised.unmoved steady.toUnmoved) ready

theorem frameWork_mirrors (poised : Poised clean dev) :
    Ends (disturbed thread) (fun _ after => Rests clean after) (frameWork .primary) dev := by
  refine poised.seq ⟨trivial, fun _ => trivial⟩ fun _ _ poised => ?_
  refine poised.seq ⟨trivial, fun _ => trivial⟩ fun state _ poised => ?_
  refine poised.seq (offstage_of_bookkeeping (only_readHead .primary)) fun head _ poised => ?_
  dsimp only
  split
  · exact poised.rests
  refine poised.seq ⟨trivial, fun _ => trivial⟩ fun taken _ poised => ?_
  cases taken with
  | none => exact poised.rests.offstage ⟨trivial, fun _ => trivial⟩
  | some popped => exact processActivity_mirrors query manual poised

end Worker

/-! ### Enabling and disabling the head -/

/-- Nothing runs that a cancellation would wait for. -/
theorem cancelSync_unmoved (work : Work) (idle : dev.Idle) :
    Ends (disturbed thread) (fun _ after => Unmoved dev after)
      (act (c := c) (.cancelSync .primary work)) dev := by
  intro input
  have start := (steady_latched dev input.1).toUnmoved
  have resting : (((dev.latched input.1).heads .primary).jobs work).running = false :=
    latched_idle idle input.1 work
  refine ⟨_, _, if_neg (by rw [resting]; exact Bool.false_ne_true), start.trans ?_⟩
  exact ⟨rfl, rfl, rfl, rfl, rfl, rfl⟩

/-- A cancellation, and the rest. -/
theorem cancelSync_seq {Result : Type} {post : Result → Dev c → Prop} {rest : Prog c Result}
    (work : Work) (idle : dev.Idle)
    (ends : ∀ after, Unmoved dev after → after.Idle → Ends (disturbed thread) post rest after) :
    Ends (disturbed thread) post (act (.cancelSync .primary work) >>= fun _ => rest) dev :=
  Ends.seq ((Ends.idling (cancelSync_unmoved work idle) idle).mono
    fun _ after held => ends after held.1 held.2)

theorem stopHeadActivity_unmoved (idle : dev.Idle) :
    Ends (disturbed thread) (fun _ after => Unmoved dev after)
      (stopHeadActivity (c := c) .primary) dev := by
  have quits : (act (c := c) (.setScanoutActive .primary false)).Only Op.Offstage :=
    ⟨trivial, fun _ => trivial⟩
  refine Ends.seq ((Ends.idling (offstage_ends quits) idle).mono fun _ start held => ?_)
  obtain ⟨first, idle⟩ := held
  refine cancelSync_seq .bootKeepaliveWork idle fun _ second idle => ?_
  refine cancelSync_seq .keepaliveTimer idle fun _ third idle => ?_
  refine cancelSync_seq .txDeferWork idle fun _ fourth idle => ?_
  refine cancelSync_seq .txWork idle fun _ fifth idle => ?_
  exact (cancelSync_unmoved .keepaliveTimer idle).mono fun _ after sixth =>
    ((((first.trans second).trans third).trans fourth).trans fifth).trans sixth

theorem only_monitorControl (on : Bool) :
    (monitorControl (c := c) .primary on).run.Only Op.Offstage := by
  have request {data : List Byte} {value index : Nat} : (lift (act (c := c)
      (.submit latchCheck (data.length != 0)
        (.controlOut reqMonitorCtrl value index data)))).run.Only Op.Offstage :=
    (Program.only_lift _).mpr ⟨trivial, fun _ => trivial⟩
  refine Program.Only.ite trivial (Program.Only.ite trivial
    (Program.Only.tryBind request fun submission => Program.Only.tryBind ?_ fun _ => trivial))
  cases submission with
  | refused | noMemory => trivial
  | returned outcome data =>
    refine Program.Only.ite trivial (Program.Only.tryBind ((Program.only_lift _).mpr ?_)
      fun _ => trivial)
    exact ⟨trivial, fun _ => ⟨trivial, fun _ => trivial⟩⟩

/-- Disable no longer vouches for the reference. -/
theorem invalidate_ends (poised : Poised clean dev) :
    Ends (disturbed thread) (fun _ after => Poised clean after)
      (act (c := c) (.setLastSentValid .primary false)) dev := by
  intro input
  have steady := steady_latched dev input.1
  obtain ⟨⟨supplied, whole, -, sent⟩, free⟩ := poised.unmoved steady.toUnmoved
  exact ⟨_, _, rfl, ⟨supplied, whole, by rintro _ ⟨⟩, sent⟩, free⟩

/-- What is left of a section of `io_lock` moves nothing, and frees the lock. -/
def Unlocks (thread : Thread) (clean : Prop) (program : Prog c Unit) : Prop :=
  ∀ dev, Upheld clean dev → Ends (disturbed thread) (fun _ after => Rests clean after) program dev

theorem Unlocks.seq {First : Type} {body : Prog c First} {rest : First → Prog c Unit}
    (only : body.Only Op.Offstage) (unlocks : ∀ result, Unlocks thread clean (rest result)) :
    Unlocks thread clean (body >>= rest) :=
  fun _ upheld => Ends.seq ((upheld.offstage only).mono fun result after held =>
    unlocks result after held.1)

theorem unlocks_unlockIo {rest : Prog c Unit} (only : rest.Only Op.Offstage) :
    Unlocks thread clean (act .unlockIo >>= fun _ => rest) :=
  fun _ upheld => Ends.seq ((unlockIo_rests upheld).mono fun _ _ rests => rests.offstage only)

theorem lockIo_rests {rest : Prog c Unit} (poised : Poised clean dev)
    (unlocks : Unlocks thread clean rest) :
    Ends (disturbed thread) (fun _ after => Rests clean after) (act .lockIo >>= fun _ => rest)
      dev := by
  refine Ends.seq ((lockIo_ends poised.free).mono fun _ locked held => ?_)
  obtain ⟨between, steady, rfl⟩ := held
  obtain ⟨supplied, whole, displays, sent⟩ := poised.mirrors.unmoved steady.toUnmoved
  exact unlocks _ (Mirrors.upheld ⟨supplied, whole, displays, sent⟩)

theorem crtcAtomicDisable_rests (poised : Poised clean dev) (idle : dev.Idle) :
    Ends (disturbed thread) (fun _ after => Rests clean after)
      (crtcAtomicDisable thread .primary) dev := by
  refine Ends.seq ((stopHeadActivity_unmoved idle).mono fun _ stopped unmoved => ?_)
  have poised := poised.unmoved unmoved
  refine poised.seq ⟨trivial, fun _ => trivial⟩ fun _ _ poised => ?_
  refine poised.seq ⟨trivial, fun _ => trivial⟩ fun _ _ poised => ?_
  refine Ends.seq ((invalidate_ends poised).mono fun _ invalid poised => ?_)
  refine poised.seq ⟨trivial, fun _ => trivial⟩ fun _ _ poised => ?_
  split
  · exact poised.rests
  refine poised.seq ⟨trivial, fun _ => trivial⟩ fun entered _ poised => ?_
  split
  · exact poised.rests
  · exact lockIo_rests poised (Unlocks.seq (only_monitorControl false) fun _ =>
      unlocks_unlockIo ⟨trivial, fun _ => trivial⟩)

theorem crtcAtomicEnable_rests (poised : Poised clean dev) (idle : dev.Idle) :
    Ends (disturbed thread) (fun _ after => Rests clean after)
      (crtcAtomicEnable (c := c) .primary) dev := by
  refine Ends.seq ((Ends.idling (bookkeeping_ends (only_headRuntimeConnected .primary)) idle).mono
    fun connected first held => ?_)
  obtain ⟨steady, idle⟩ := held
  have poised := poised.unmoved steady.toUnmoved
  split
  · exact poised.rests
  refine cancelSync_seq .bootKeepaliveWork idle fun second toSecond idle => ?_
  refine cancelSync_seq .keepaliveTimer idle fun third toThird idle => ?_
  have poised := poised.unmoved (toSecond.trans toThird)
  refine poised.seq ⟨trivial, fun _ => trivial⟩ fun entered _ poised => ?_
  split
  · exact poised.rests
  have leaves : Unlocks thread clean (do act (c := c) .unlockIo; act .devExit) :=
    unlocks_unlockIo ⟨trivial, fun _ => trivial⟩
  refine lockIo_rests poised (Unlocks.seq (only_monitorControl true) fun result => ?_)
  cases result with
  | error errno => exact leaves
  | ok value =>
    have activates : (act (c := c) (.setScanoutActive .primary true)).Only Op.Offstage :=
      ⟨trivial, fun _ => trivial⟩
    have arms : (act (c := c) (.arm .primary .keepaliveTimer)).Only Op.Offstage :=
      ⟨trivial, fun _ => trivial⟩
    refine Unlocks.seq activates fun _ =>
      Unlocks.seq (offstage_of_bookkeeping (only_rawRefreshEligible .primary)) fun eligible => ?_
    split
    · exact Unlocks.seq arms fun _ => leaves
    · exact leaves

end Tasks

/-! ### Runs -/

/-- What the driver does for the primary head: the commits of DRM, the refresh timer and the
worker. -/
inductive ScreenTask
  | enable
  | disable
  | update (fb : Framebuffer)
  | timer
  | defer
  | work

def ScreenTask.thread : ScreenTask → Thread
  | .enable | .disable | .update _ => .commit .primary
  | .timer => .timer .primary
  | .defer => .deferred .primary
  | .work => .worker .primary

def ScreenTask.program : ScreenTask → Prog c Unit
  | .enable => crtcAtomicEnable .primary
  | .disable => crtcAtomicDisable (.commit .primary) .primary
  | .update fb => planeAtomicUpdate .primary fb
  | .timer => keepaliveTimeout .primary
  | .defer => frameDeferWork .primary
  | .work => frameWork .primary

/-- Tasks one after the other, each with what the outside does meanwhile: another party may latch
the fault at any step. -/
def screenRun : Dev c → List (ScreenTask × (Nat → Bool × Env)) → Option (Dev c)
  | dev, [] => some dev
  | dev, (task, script) :: rest =>
    match task.program.eval (disturbed task.thread) dev script with
    | none => none
    | some (_, after) => screenRun after rest

/-- What holds between two tasks. -/
structure ScreenInvariant (dev : Dev c) : Prop where
  mirrors : Mirrors (dev.ioFaulted = false) dev
  free : dev.ioLock = none
  idle : dev.Idle

theorem screenInvariant_probed : ScreenInvariant (Dev.probed c) where
  mirrors := ⟨rfl, fun _ => wholeRecords_nil, by rintro _ ⟨⟩, by rintro _ _ ⟨⟩⟩
  free := rfl
  idle := fun _ => rfl

theorem Rests.mirrors {dev after : Dev c} (rests : Rests (dev.ioFaulted = false) after)
    (latch : dev.ioFaulted = true → after.ioFaulted = true) :
    Mirrors (after.ioFaulted = false) after := by
  rcases rests.upheld.upheld with faulted | mirrors
  · have never {goal : Prop} (still : after.ioFaulted = false) : goal := by
      rw [faulted] at still
      cases still
    exact ⟨rests.upheld.supplied, never, never, never⟩
  · refine mirrors.weaken fun still => Bool.eq_false_iff.mpr fun faulted => ?_
    rw [latch faulted] at still
    cases still

section Runs

variable (query : c.queryOnly = false) (manual : c.manualOnly = false)

include query manual

theorem task_rests (task : ScreenTask) {clean : Prop} {dev : Dev c} (poised : Poised clean dev)
    (idle : dev.Idle) :
    Ends (disturbed task.thread) (fun _ after => Rests clean after) task.program dev := by
  have rests := poised.rests
  cases task with
  | enable => exact crtcAtomicEnable_rests poised idle
  | disable => exact crtcAtomicDisable_rests poised idle
  | update fb => exact rests.offstage (only_planeAtomicUpdate fb)
  | timer => exact rests.offstage only_keepaliveTimeout
  | defer => exact rests.offstage (offstage_of_bookkeeping (only_queueHeadTxWork .primary))
  | work => exact frameWork_mirrors query manual poised

/-- The induction step: a task ends, and the invariant with it. -/
theorem task_keeps (task : ScreenTask) {dev : Dev c} (inv : ScreenInvariant dev)
    (script : Nat → Bool × Env) :
    ∃ after, task.program.eval (disturbed task.thread) dev script = some ((), after) ∧
      ScreenInvariant after := by
  obtain ⟨result, after, ran, ⟨rests, latch⟩, idle⟩ := (Ends.idling (Ends.latching
    (task_rests query manual task ⟨inv.mirrors, inv.free⟩ inv.idle)) inv.idle).eval script
  exact ⟨after, ran, rests.mirrors latch, rests.free, idle⟩

theorem screenRun_keeps (tasks : List (ScreenTask × (Nat → Bool × Env))) {dev : Dev c}
    (inv : ScreenInvariant dev) :
    ∃ after, screenRun dev tasks = some after ∧ ScreenInvariant after := by
  induction tasks generalizing dev with
  | nil => exact ⟨dev, rfl, inv⟩
  | cons entry rest inductionHypothesis =>
    obtain ⟨between, ran, inv⟩ := task_keeps query manual entry.1 inv entry.2
    obtain ⟨after, ended, inv⟩ := inductionHypothesis inv
    exact ⟨after, by rw [screenRun, ran]; exact ended, inv⟩

/-- The primary head's tasks, in any order and whatever the transfers return, end, and unless
the fault is latched the display then shows the reference that the next damage scan would trust,
and the frame last recorded as sent. -/
theorem display_mirrors_reference (tasks : List (ScreenTask × (Nat → Bool × Env))) :
    ∃ after, screenRun (Dev.probed c) tasks = some after ∧
      (after.ioFaulted = false →
        ((after.heads .primary).lastSentValid = true →
          ∃ reference, (after.heads .primary).lastSentFrame = some reference ∧
            (displayMemory (wire after.traffic)).Holds (pixelAddr c) reference.bytes) ∧
        ∀ frame, lastRaw after.traffic = some frame →
          (displayMemory (wire after.traffic)).Holds (pixelAddr c) frame.bytes) := by
  obtain ⟨after, ran, inv⟩ := screenRun_keeps query manual tasks screenInvariant_probed
  refine ⟨after, ran, fun clean => ⟨fun valid => ?_, fun frame same => ?_⟩⟩
  · obtain ⟨reference, held, displays⟩ := inv.mirrors.displays clean valid
    exact ⟨reference, held, displays.shown⟩
  · exact (inv.mirrors.sent clean frame same).shown

end Runs

/-- The display is enabled, a frame is committed, and the worker sends it. -/
def sampleScreen : List (ScreenTask × (Nat → Bool × Env)) :=
  [(.enable, fun _ => (false, {})),
    (.update ⟨some fun index => UInt8.ofNat index, 8⟩, fun _ => (false, {})),
    (.work, fun _ => (false, { actual := 64 }))]

theorem display_mirrors_reference_sample :
    sampleConfig.queryOnly = false ∧ sampleConfig.manualOnly = false ∧
      ((screenRun (Dev.probed sampleConfig) sampleScreen).bind fun dev =>
        if dev.ioFaulted then none else lastRaw dev.traffic) ≠ none ∧
      ∃ after, screenRun (Dev.probed sampleConfig) sampleScreen = some after ∧
        (after.ioFaulted = false →
          ((after.heads .primary).lastSentValid = true →
            ∃ reference, (after.heads .primary).lastSentFrame = some reference ∧
              (displayMemory (wire after.traffic)).Holds (pixelAddr sampleConfig)
                reference.bytes) ∧
          ∀ frame, lastRaw after.traffic = some frame →
            (displayMemory (wire after.traffic)).Holds (pixelAddr sampleConfig) frame.bytes) :=
  ⟨rfl, rfl, by decide, display_mirrors_reference rfl rfl sampleScreen⟩

end Trigger6.Driver
