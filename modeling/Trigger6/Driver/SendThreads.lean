/-
This file walks through everything that can be started on a thread with the
protocol of the senders. A thread takes `io_lock` only in sections that begin and
end between two records, and makes requests only for a connected head.
-/

import Trigger6.Driver.SendPrograms

namespace Trigger6.Driver

open Bytes Interaction Framing

variable {c : Config}

section Follows

variable {rules : SendRules c} {standing : Standing} {Result : Type}

/-! ### Before the lock -/

theorem LockPhase.free_whole : LockPhase.free.Whole := by
  rintro header payload ⟨⟩

theorem stays_free {program : Prog c Result} (calm : Calm rules program) :
    program.Stays (sending rules) (standing, .free) :=
  stays_calm LockPhase.free_whole calm

section Preparing

variable (head : HeadId)

theorem calm_prepareFrameJpegCmd (pixels : Frame c) (pixelLen : Nat) :
    Calm rules (prepareFrameJpegCmd head pixels pixelLen).run := by
  have kept : ∀ {change : Sender c → Sender c}, (∀ sender, (change sender).place = sender.place) →
      Calm rules (lift (act (.tune head change))).run := fun same =>
    (Program.only_lift _).mpr (only_act (Op.calm_tune same))
  have asked : Calm rules (lift (act (c := c) .ask)).run := (Program.only_lift _).mpr calm_ask
  refine Program.Only.ite (by trivial) (Program.Only.ite (by trivial)
    (Program.Only.ite (by trivial) (Program.Only.ite (by trivial) (Program.Only.tryBind
      ((Program.only_lift _).mpr (calm_readHead head)) fun state => ?_))))
  cases state.sender.jpegStaging with
  | none => trivial
  | some staging =>
    refine Program.Only.tryBind asked fun env => ?_
    cases c.jpegEncodeXrgb8888 pixels.bytes (strideOrTight c state.queue.txStride) _ with
    | error errno =>
      exact Program.Only.tryBind
        ((Program.only_lift _).mpr (calm_headRecordSendError head _ _)) fun _ => trivial
    | ok encoded =>
      exact Program.Only.tryBind (kept fun _ => rfl) fun _ => Program.Only.tryBind asked fun _ =>
        Program.Only.tryBind ((Program.only_lift _).mpr (calm_count head fun _ => rfl)) fun _ =>
        Program.Only.tryBind (kept fun _ => rfl) fun _ => trivial

theorem calm_prepareFrameNv12 (pixels : Frame c) :
    Calm rules (prepareFrameNv12 head pixels).run := by
  have asked : Calm rules (lift (act (c := c) .ask)).run := (Program.only_lift _).mpr calm_ask
  refine Program.Only.tryBind ((Program.only_lift _).mpr (calm_readHead head)) fun state => ?_
  cases state.sender.jpegStaging with
  | none => exact Program.only_throw _
  | some staging =>
    refine Program.Only.dite (fun fits => ?_) fun _ => Program.only_throw _
    refine Program.Only.ite (Program.only_throw _) (Program.Only.tryBind asked fun env => ?_)
    split
    · trivial
    · exact Program.Only.tryBind
        ((Program.only_lift _).mpr (only_act (Op.calm_tune fun _ => rfl))) fun _ =>
          Program.Only.tryBind asked fun _ =>
          Program.Only.tryBind ((Program.only_lift _).mpr (calm_count head fun _ => rfl)) fun _ => trivial

theorem sending_frameDamage :
    (frameDamage (c := c) head).Follows (sending rules)
      (fun last damage => last = (standing, .free) ∧ ∀ range ∈ damage.ranges, range.Within c)
      (standing, .free) :=
  ⟨trivial, fun _ _ => ⟨trivial, fun _ _ => ⟨trivial, fun _ _ =>
    ⟨rfl, computeFrameDamage_within _ _ _⟩⟩⟩⟩

/-- What the worker has ready before it takes the lock fits its head. -/
theorem sending_prepareFrame {popped : Popped}
    (due : popped.keepaliveDue = true → rules.replays head) :
    (prepareFrame (c := c) head popped).run.Follows (sending rules)
      (fun last result => last = (standing, .free) ∧
        ∀ prepared, result = .ok (some prepared) → prepared.Fit rules head) (standing, .free) := by
  -- an encoder only reads and counts, and what it returns is for an encoded transport
  have encodes : ∀ {encoder : Fallible c EncodedLength}, Calm rules encoder.run →
      c.transport head ≠ .raw →
      (encoder >>= fun len => pure (some (Prepared.encoded len))).run.Follows
        (sending rules) (fun last result => last = (standing, .free) ∧
          ∀ prepared, result = .ok (some prepared) → prepared.Fit rules head) (standing, .free) := by
    intro encoder calm encoded
    refine .tryBind ((stays_free calm).mono fun last result same => ?_)
    cases result with
    | error errno => exact ⟨same, fun prepared none => by cases none⟩
    | ok len =>
      refine ⟨same, fun prepared is => ?_⟩
      cases is
      exact encoded
  unfold prepareFrame
  refine .tryBranch (fun keepalive => ⟨rfl, fun prepared is => ?_⟩) fun _ => ?_
  · cases is
    exact due keepalive
  · cases transport : c.transport head with
    | jpegCmd =>
      refine .tryBind (.lift ((stays_free (calm_readHead head)).mono fun last state same => ?_))
      rw [same]
      exact encodes (calm_prepareFrameJpegCmd head _ _) (by rw [transport]; decide)
    | raw =>
      refine .tryBind (.lift ((sending_frameDamage head).mono fun last damage ends => ?_))
      refine ⟨ends.1, fun prepared is => ?_⟩
      cases is
      exact ⟨transport, ends.2⟩
    | nv12 =>
      refine .tryBind (.lift ((sending_frameDamage head).mono fun last damage ends => ?_))
      rw [ends.1]
      refine .tryBranch (fun _ => ?_) fun _ => ?_
      · refine .tryBind (.lift ((stays_free (calm_count head fun _ => rfl)).mono fun last _ same => ?_))
        rw [same]
        refine .tryBind (.lift ((stays_free (calm_noteCompleted head)).mono fun last _ same => ?_))
        exact ⟨same, fun prepared none => by cases none⟩
      · refine .tryBind (.lift ((stays_free (calm_readHead head)).mono fun last state same => ?_))
        rw [same]
        exact encodes (calm_prepareFrameNv12 head _) (by rw [transport]; decide)
    | userJpeg =>
      refine ⟨rfl, fun prepared is => ?_⟩
      cases is
      show c.transport head ≠ .raw
      rw [transport]
      decide

theorem headRuntimeConnected_follows :
    (headRuntimeConnected (c := c) head).Follows (sending rules)
      (fun last up => last = (standing, .free) ∧ (up = true → c.connected head = true))
      (standing, .free) := by
  refine ⟨trivial, fun _ _ => ⟨trivial, fun _ _ => ⟨rfl, fun up => ?_⟩⟩⟩
  simp only [Bool.and_eq_true] at up
  exact up.1.1.1

end Preparing

/-! ### Sections of the lock -/

/-- Outside of every section that the unplugging waits for. -/
abbrev Standing.outside (unplugged gone : Bool) : Standing := ⟨false, unplugged, gone⟩

/-- From between two records under the lock, the program ends without the lock. -/
def Closes (rules : SendRules c) (standing after : Standing) (program : Prog c Result) : Prop :=
  ∀ lock : LockPhase, lock.Settled → program.Follows (sending rules)
    (fun last _ => last = (after, .free)) (standing, lock)

section Sections

variable {First : Type} {after : Standing} {unplugged gone : Bool}

theorem follows_lockIo {rest : Prog c Result} (closes : Closes rules standing after rest) :
    (act .lockIo >>= fun _ => rest).Follows (sending rules) (fun last _ => last = (after, .free))
      (standing, .free) :=
  ⟨rfl, fun _ _ => closes .ready trivial⟩

theorem closes_unlockIo {rest : Prog c Result}
    (follows : rest.Follows (sending rules) (fun last _ => last = (after, .free))
      (standing, .free)) :
    Closes rules standing after (act .unlockIo >>= fun _ => rest) := by
  intro lock settled
  refine ⟨settled, fun _ _ => ?_⟩
  cases lock with
  | ready | halted => exact follows
  | _ => exact settled.elim

theorem Settles.closes {body : Prog c First} {rest : First → Prog c Result}
    (settles : Settles rules standing body)
    (closes : ∀ result, Closes rules standing after (rest result)) :
    Closes rules standing after (body >>= rest) := by
  intro lock settled
  refine Program.Follows.seq ((settles lock settled).mono fun last result ends => ?_)
  obtain ⟨last, phase⟩ := last
  obtain ⟨rfl, still⟩ := ends
  exact closes result phase still

theorem Closes.branch {condition : Prop} [Decidable condition] {yes no : Prog c Result}
    (first : Closes rules standing after yes) (second : Closes rules standing after no) :
    Closes rules standing after (if condition then yes else no) := by
  split
  · exact first
  · exact second

theorem closes_devEnter {rest : Bool → Prog c Result}
    (each : ∀ entered, Closes rules ⟨entered, unplugged, gone⟩ after (rest entered)) :
    Closes rules (.outside unplugged gone) after (act .devEnter >>= rest) := by
  intro lock settled
  refine ⟨⟨rfl, .inr settled⟩, fun entered _ => ?_⟩
  cases lock with
  | ready | halted => exact each entered _ trivial
  | _ => exact settled.elim

theorem closes_devExit {rest : Prog c Result}
    (closes : Closes rules (.outside unplugged gone) after rest) :
    Closes rules ⟨true, unplugged, gone⟩ after (act .devExit >>= fun _ => rest) := by
  intro lock settled
  refine ⟨⟨rfl, .inr settled⟩, fun _ _ => ?_⟩
  cases lock with
  | ready | halted => exact closes _ trivial
  | _ => exact settled.elim

theorem follows_devEnter {ending : SendPhase → Result → Prop} {rest : Bool → Prog c Result}
    (each : ∀ entered, (rest entered).Follows (sending rules) ending
      (⟨entered, unplugged, gone⟩, .free)) :
    (act .devEnter >>= rest).Follows (sending rules) ending (.outside unplugged gone, .free) :=
  ⟨⟨rfl, .inl rfl⟩, fun entered _ => each entered⟩

theorem follows_devExit :
    (act (c := c) .devExit).Follows (sending rules)
      (fun last _ => last = (.outside unplugged gone, .free)) (⟨true, unplugged, gone⟩, .free) :=
  ⟨⟨rfl, .inl rfl⟩, fun _ _ => rfl⟩

end Sections

/-! ### Work items -/

section Work

variable {unplugged gone : Bool} (head : HeadId)

theorem stays_setIoFaulted :
    (act (c := c) .setIoFaulted).Stays (sending rules) (standing, .free) :=
  Program.stays_perform (by rintro header payload ⟨⟩) fun _ _ => rfl

theorem sending_tripTransportFault (errno : Errno) (source : String) :
    (tripTransportFault (c := c) head errno source).Stays (sending rules) (standing, .free) :=
  .seq (stays_free (only_act (by trivial))) fun _ => .ite rfl
    (.seq (stays_free (only_act (by trivial))) fun _ => .seq stays_setIoFaulted fun _ =>
      .seq (stays_free calm_readDev) fun _ => .ite (stays_free (only_act (by trivial))) rfl)

variable (sound : rules.Sound)

include sound

theorem sending_transmit (connected : c.connected head = true) {popped : Popped}
    (due : popped.keepaliveDue = true → rules.replays head) {prepared : Prepared} (fit : prepared.Fit rules head) :
    (transmit (c := c) head popped prepared).Stays (sending rules)
      (.outside unplugged gone, .free) := by
  have deferred : ∀ reason, Closes rules (.outside unplugged gone) (.outside unplugged gone)
      (c := c) (act .unlockIo >>= fun _ =>
        deferHeadActivity head popped reason >>= fun _ => pure ()) := fun reason =>
    closes_unlockIo (Program.Stays.seq (stays_free (calm_deferHeadActivity head due reason))
      fun _ => rfl)
  have queued : (queueNextPendingHead (c := c)).Stays (sending rules)
      (.outside unplugged gone, .free) := stays_free calm_queueNextPendingHead
  refine follows_lockIo ((settles_calm (calm_readTxDelay head)).closes fun ⟨delay, reason⟩ =>
    .branch (deferred reason) (closes_devEnter fun entered => ?_))
  cases entered with
  | false => exact closes_unlockIo rfl
  | true =>
    refine (settles_sendPrepared sound rfl connected popped fit).closes fun sent =>
      closes_unlockIo (.seq (follows_devExit.mono fun last _ same => ?_))
    rw [same]
    refine Program.Stays.seq (stays_free calm_ask) fun _ =>
      .seq (stays_free (only_act (Op.calm_tune fun _ => rfl))) fun _ =>
      .seq (stays_free (only_act (by trivial))) fun _ => ?_
    cases sent with
    | error errno => exact .ite (sending_tripTransportFault head errno _) rfl
    | ok => exact .ite (.seq (stays_free (calm_finishFrame head)) fun _ => queued) queued

theorem sending_processActivity {popped : Popped}
    (due : popped.keepaliveDue = true → rules.replays head) :
    (processActivity (c := c) head popped).Stays (sending rules)
      (.outside unplugged gone, .free) := by
  refine Program.Follows.seq ((headRuntimeConnected_follows head).mono fun last up live => ?_)
  rw [live.1]
  refine .branch (fun _ => rfl) fun connected =>
    Program.Stays.seq (stays_free (calm_shouldYieldTurn head due)) fun _ => .ite rfl
    (.seq (stays_free (calm_readTxDelay head)) fun ⟨delay, reason⟩ => .ite
      (.seq (stays_free (calm_deferHeadActivity head due _)) fun _ => rfl)
      (Program.Follows.seq ((sending_prepareFrame head due).mono fun last prepared ends => ?_)))
  rw [ends.1]
  split
  · exact sending_tripTransportFault head _ _
  · exact rfl
  · next prepared =>
    exact sending_transmit head sound (live.2 (by simpa using connected)) due
      (ends.2 prepared rfl)

theorem sending_frameWork :
    (frameWork (c := c) head).Stays (sending rules) (.outside unplugged gone, .free) := by
  refine .seq (stays_free (only_act (by trivial))) fun _ => .seq (stays_free calm_readDev)
    fun _ => .seq (stays_free (calm_readHead head)) fun _ => .ite rfl
    (Program.Follows.seq ⟨trivial, fun popped possible => ?_⟩)
  cases popped with
  | none => exact stays_free (only_act (by trivial))
  | some popped => exact sending_processActivity head sound possible.2

/-- The timer marks a keepalive as due where there is a payload to send again, or a raw head. -/
theorem sending_keepaliveTimeout :
    (keepaliveTimeout (c := c) head).Stays (sending rules) (standing, .free) := by
  have queued : rules.replays head → (act (c := c) (.setKeepaliveDue head true) >>= fun _ =>
      queueHeadTxWork head).Stays (sending rules) (standing, .free) := fun replays =>
    .seq (stays_free (only_act fun _ => replays)) fun _ => stays_free (calm_queueHeadTxWork head)
  refine .seq (stays_free (calm_readHead head)) fun _ => .seq (stays_free (calm_readHead head))
    fun _ => .seq (stays_free calm_readDev) fun _ => .ite rfl ?_
  split
  · next raw =>
    refine .seq (stays_free (calm_refreshDeadline head)) fun _ =>
      .seq (stays_free (calm_rawRefreshEligible head)) fun _ => .ite rfl
      (.seq (stays_free calm_ask) fun _ => .ite ?_ (queued (sound.raw raw)))
    exact .seq (stays_free (calm_arm head (by decide))) fun _ => rfl
  · refine Program.Follows.seq ⟨trivial, fun dev possible => ?_⟩
    refine Program.Follows.branch (fun _ => rfl) fun filled =>
      queued (sound.cached (possible.2.1 head) ?_)
    show (dev.heads head).sender.cache.lastJpegData.isSome = true
    rw [← Option.not_isNone]
    exact Bool.not_eq_true' _ ▸ eq_false_of_ne_true filled

end Work

/-! ### Entries -/

section Entries

variable {unplugged gone : Bool} (head : HeadId)

theorem settles_monitorControl (sound : rules.Sound) (connected : c.connected head = true)
    (on : Bool) : Settles rules standing (monitorControl (c := c) head on).run :=
  ctrlOut_settles (sound.monitor connected on)

theorem sending_crtcAtomicEnable (sound : rules.Sound) :
    (crtcAtomicEnable (c := c) head).Stays (sending rules) (.outside unplugged gone, .free) := by
  have finish : Closes rules ⟨true, unplugged, gone⟩ (.outside unplugged gone) (c := c)
      (act .unlockIo >>= fun _ => act .devExit) := closes_unlockIo follows_devExit
  refine Program.Follows.seq ((headRuntimeConnected_follows head).mono fun last up live => ?_)
  rw [live.1]
  refine .branch (fun _ => rfl) fun connected =>
    Program.Stays.seq (stays_free (only_act (by trivial))) fun _ =>
    .seq (stays_free (only_act (by trivial))) fun _ => follows_devEnter fun entered => ?_
  cases entered with
  | false => exact rfl
  | true =>
    refine follows_lockIo ((settles_monitorControl head sound
      (live.2 (by simpa using connected)) true).closes fun result => ?_)
    cases result with
    | error errno => exact finish
    | ok =>
      refine (settles_calm (only_act (by trivial))).closes fun _ =>
        (settles_calm (calm_rawRefreshEligible head)).closes fun eligible => ?_
      split
      · exact (settles_calm (calm_arm head (by decide))).closes fun _ => finish
      · exact finish

theorem calm_clearCache (sound : rules.Sound) :
    Calm rules (act (c := c) (.tune head fun sender => { sender with cache := .empty })) :=
  only_act fun _ fits => sound.cleared fits

theorem sending_crtcAtomicDisable (sound : rules.Sound) (thread : Thread) :
    (crtcAtomicDisable (c := c) thread head).Stays (sending rules)
      (.outside unplugged gone, .free) := by
  refine .seq (stays_free (calm_stopHeadActivity head)) fun _ =>
    .seq (stays_free (only_act (by trivial))) fun _ =>
    .seq (stays_free (only_act (by rintro ⟨⟩))) fun _ =>
    .seq (stays_free (only_act (by trivial))) fun _ =>
    .seq (stays_free (calm_clearCache head sound)) fun _ =>
    Program.Follows.branch (fun _ => rfl) fun connected => follows_devEnter fun entered => ?_
  cases entered with
  | false => exact rfl
  | true =>
    exact follows_lockIo ((settles_monitorControl head sound (by simpa using connected)
      false).closes fun _ => closes_unlockIo follows_devExit)

theorem sending_sendUserJpeg (sound : rules.Sound) (transport : c.transport head = .userJpeg)
    (connected : c.connected head = true) (data : List Byte) (len : BlobLength) :
    (sendUserJpeg (c := c) head data len).Stays (sending rules)
      (.outside unplugged gone, .free) := by
  refine follows_lockIo (closes_devEnter fun entered => ?_)
  cases entered with
  | false => exact closes_unlockIo rfl
  | true =>
    exact (settles_sendJpegBlob sound rfl (.inr transport) connected _ _).closes fun _ =>
      closes_devExit (closes_unlockIo rfl)

theorem sending_jpegMiscWrite (sound : rules.Sound) (ppos : Nat) (data : List Byte) :
    (jpegMiscWrite (c := c) head ppos data).run.Stays (sending rules)
      (.outside unplugged gone, .free) := by
  have reads : ∀ {First Last : Type} {program : Prog c First} {rest : First → Fallible c Last},
      Calm rules program → (∀ value, (rest value).run.Stays (sending rules)
        (.outside unplugged gone, .free)) →
      (lift program >>= rest).run.Stays (sending rules) (.outside unplugged gone, .free) :=
    fun calm each => .tryBind (.lift (stays_free calm)) each
  refine .tryIte rfl (reads (calm_readHead head) fun state => .tryDite (fun _ => rfl)
    fun bounded => Program.Follows.tryBranch (fun _ => rfl) fun connected => ?_)
  refine reads (calm_readHead head) fun _ => .tryIte (reads (calm_readHead head) fun _ => rfl)
    (reads calm_readDev fun _ => .tryIte (reads calm_readDev fun _ => rfl)
    (Program.Follows.tryBranch (fun _ => rfl) fun transport => reads calm_ask fun _ => .tryIte rfl
    (.tryBind (.lift (sending_sendUserJpeg head sound (not_not.mp transport)
      (by simpa using connected) data _)) fun sent => ?_)))
  cases sent with
  | error errno =>
    exact reads (calm_headRecordSendError head _ _) fun _ =>
      .tryBind (.lift (sending_tripTransportFault head _ _)) fun _ => rfl
  | ok => exact rfl

theorem calm_exportFrame (fb : Framebuffer) : Calm rules (exportFrame (c := c) head fb) := by
  unfold exportFrame
  cases fb.vaddr with
  | none => trivial
  | some src =>
    refine (calm_readHead head).seq fun _ => Program.Only.branch trivial
      ((only_act (by trivial)).seq fun packed => ?_)
    cases packed with
    | error errno => trivial
    | ok => exact only_act (by trivial)

theorem sending_planeAtomicUpdate (fb : Framebuffer) :
    (planeAtomicUpdate (c := c) head fb).Stays (sending rules) (.outside unplugged gone, .free) := by
  unfold planeAtomicUpdate
  refine .ite (.seq (stays_free (calm_exportFrame head fb)) fun _ => rfl) (.ite rfl
    (.seq (stays_free calm_readDev) fun _ => .ite rfl
    (Program.Follows.seq ((headRuntimeConnected_follows head).mono fun last up live => ?_))))
  rw [live.1]
  refine Program.Stays.ite rfl ?_
  cases fb.vaddr with
  | none => exact rfl
  | some src =>
    refine .ite rfl (.seq (stays_free (calm_readHead head)) fun _ => .ite rfl
      (follows_devEnter fun entered => ?_))
    cases entered with
    | false => exact rfl
    | true =>
      refine Program.Follows.seq ((stays_free (calm_count head fun _ => rfl)).mono fun last _ same => ?_)
      rw [same]
      refine Program.Follows.seq ((stays_free (only_act (by trivial))).mono fun last _ same => ?_)
      rw [same]
      exact follows_devExit

theorem sending_latchHostDown : (latchHostDown (c := c)).Stays (sending rules) (standing, .free) :=
  .seq stays_setIoFaulted fun _ => stays_free (only_act (by trivial))

theorem sending_usbSuspend : (usbSuspend (c := c)).Stays (sending rules) (standing, .free) :=
  .seq (stays_free calm_readDev) fun _ => .ite rfl
    (.seq sending_latchHostDown fun _ => stays_free (calm_cancelHeadActivity _))

theorem sending_usbResume : (usbResume (c := c)).Stays (sending rules) (standing, .free) :=
  .seq (stays_free calm_readDev) fun _ => .ite rfl (.seq sending_latchHostDown fun _ =>
    .seq (stays_free calm_readDev) fun _ => .ite (stays_free (only_act (by trivial))) rfl)

/-! ### Disconnect -/

theorem calm_finalOffPolicy (wasActive : Bool) :
    Calm rules (finalOffPolicy (c := c) wasActive) :=
  calm_readDev.seq fun _ => calm_ask.seq fun _ => trivial

/-- The policy admits the primary head alone. -/
theorem finalOffSkip_selected {state : FinalOffState} (permitted : finalOffSkip state = none) :
    state.primarySelected = true := by
  by_contra other
  have off : state.primarySelected = false := eq_false_of_ne_true other
  simp only [finalOffSkip, off, Bool.not_false, Bool.true_or, if_true] at permitted
  split at permitted
  · cases permitted
  · split at permitted <;> cases permitted

theorem finalOffPolicy_follows (wasActive : Bool) :
    (finalOffPolicy (c := c) wasActive).Follows (sending rules)
      (fun last skip => last = (standing, .free) ∧ (skip = none → c.selected = .primary))
      (standing, .free) := by
  refine ⟨trivial, fun dev _ => ⟨trivial, fun core _ => ⟨rfl, fun permitted => ?_⟩⟩⟩
  exact beq_iff_eq.mp (finalOffSkip_selected permitted)

/-- The final monitor-off is one request, guarded by the policy's own check. -/
theorem settles_finalOff (sound : rules.Sound) (selected : c.selected = .primary) :
    Settles rules standing
      (act (.submit (c := c) finalOffFaulted false (.finalOff 0x03 0 0))) := by
  have guards : Guards (finalOffFaulted (c := c)) := by
    intro dev faulted
    rw [finalOffFaulted, faulted, Bool.true_or]
  intro lock settled
  cases lock with
  | ready =>
    refine ⟨⟨guards, sound.finalOff selected⟩, fun submission _ => ?_⟩
    cases submission <;> exact ⟨rfl, trivial⟩
  | halted =>
    refine ⟨guards, fun submission _ => ⟨rfl, trivial⟩⟩
  | _ => exact settled.elim

theorem sending_finalOffDisconnect (sound : rules.Sound) (wasActive : Bool) :
    (finalOffDisconnect (c := c) wasActive).Stays (sending rules) (standing, .free) := by
  have unlocked : Closes rules standing standing (act (c := c) .unlockIo >>= fun _ => .done ()) :=
    closes_unlockIo rfl
  refine Program.Stays.ite rfl
    (Program.Follows.seq ((finalOffPolicy_follows wasActive).mono fun last skip ends => ?_))
  rw [ends.1]
  refine Program.Follows.branch (fun _ => rfl) fun permitted => follows_lockIo
    ((settles_calm (calm_finalOffPolicy wasActive)).closes fun _ => .branch ?_ ?_)
  · have selected := ends.2 (by simpa using permitted)
    exact (settles_finalOff sound selected).closes fun _ => unlocked
  · exact unlocked

theorem sending_disableIfActive (sound : rules.Sound) (active : HeadId → Bool) :
    (disableIfActive (c := c) active head).Stays (sending rules)
      (.outside unplugged gone, .free) :=
  .ite (sending_crtcAtomicDisable head sound _) rfl

theorem calm_freeBuffersOf (sound : rules.Sound) : Calm rules (freeBuffersOf (c := c) head) :=
  (only_act (by trivial)).seq fun _ => (only_act (by trivial)).seq fun _ =>
    calm_clearCache head sound

/-- Outside of the sections and without the lock. -/
def SendPhase.Idle (phase : SendPhase) : Prop := phase.1.inside = false ∧ phase.2 = .free

theorem sending_usbDisconnect (sound : rules.Sound) (active : HeadId → Bool) :
    (usbDisconnect (c := c) active).Follows (sending rules) (fun last _ => last.Idle)
      (.outside false false, .free) := by
  have idle : ∀ {program : Prog c Unit} {unplugged gone : Bool},
      program.Stays (sending rules) (.outside unplugged gone, .free) →
      program.Follows (sending rules) (fun last _ => last.Idle)
        (.outside unplugged gone, .free) := by
    intro program unplugged gone stays
    refine stays.mono fun last _ same => ?_
    rw [same]
    exact ⟨rfl, rfl⟩
  refine .seq ((stays_free calm_readDev).mono fun last dev same => ?_)
  rw [same]
  refine .seq ((stays_free (only_act (by trivial))).mono fun last _ same => ?_)
  rw [same]
  refine .branch (fun _ => ⟨rfl, rfl⟩) fun _ => ?_
  refine .seq ((stays_free (calm_readHead .primary)).mono fun last state same => ?_)
  rw [same]
  refine .seq ⟨trivial, fun _ _ => .seq ⟨rfl, fun _ _ => idle ?_⟩⟩
  refine .seq (stays_free (calm_cancelHeadActivity .bus)) fun _ =>
    .seq (stays_free calm_stopWorkqueue) fun _ =>
    .seq (sending_finalOffDisconnect sound _) fun _ =>
    .seq (.seq (sending_disableIfActive .primary sound active) fun _ =>
      sending_disableIfActive .secondary sound active) fun _ =>
    .seq (stays_free (calm_freeBuffersOf .primary sound)) fun _ =>
    .seq (stays_free (calm_freeBuffersOf .secondary sound)) fun _ =>
    Program.stays_perform rfl fun _ _ => rfl

end Entries

/-! ### Everything that can be started -/

theorem sending_entry (sound : rules.Sound) (entry : Entry) :
    (entry.program (c := c)).Follows (sending rules) (fun last _ => last.Idle)
      (.outside false false, .free) := by
  have idle : ∀ {program : Prog c Unit},
      program.Stays (sending rules) (.outside false false, .free) →
      program.Follows (sending rules) (fun last _ => last.Idle) (.outside false false, .free) := by
    intro program stays
    refine stays.mono fun last _ same => ?_
    rw [same]
    exact ⟨rfl, rfl⟩
  cases entry with
  | crtcEnable head => exact idle (sending_crtcAtomicEnable head sound)
  | crtcDisable head => exact idle (sending_crtcAtomicDisable head sound _)
  | planeUpdate head fb => exact idle (sending_planeAtomicUpdate head fb)
  | jpegWrite head ppos data =>
    exact idle (Program.Stays.seq (sending_jpegMiscWrite head sound ppos data) fun _ => rfl)
  | suspend => exact idle sending_usbSuspend
  | resume => exact idle sending_usbResume
  | disconnect active => exact sending_usbDisconnect sound active

/-- Every work item but the boot keepalive, which nothing arms. -/
theorem sending_work (sound : rules.Sound) (head : HeadId) {work : Work}
    (other : work ≠ .bootKeepaliveWork) :
    (workProgram (c := c) head work).Follows (sending rules) (fun last _ => last.Idle)
      (.outside false false, .free) := by
  have stays : (workProgram (c := c) head work).Stays (sending rules)
      (.outside false false, .free) := by
    cases work with
    | txWork => exact sending_frameWork head sound
    | txDeferWork => exact stays_free (calm_queueHeadTxWork head)
    | keepaliveTimer => exact sending_keepaliveTimeout head sound
    | bootKeepaliveWork => exact absurd rfl other
  refine stays.mono fun last _ same => ?_
  rw [same]
  exact ⟨rfl, rfl⟩

end Follows

end Trigger6.Driver
