/-
This file walks through the senders with their protocol. Every sender runs under
`io_lock` and inside a section that the unplugging waits for; from between two
records it ends between two records, and what it makes of its bookkeeping fits
the rules again.
-/

import Trigger6.Driver.RingBounds
import Trigger6.Driver.Sending

namespace Trigger6.Driver

open Bytes Interaction Framing

variable {c : Config}

/-! ### The ranges of a damage scan -/

/-- What the scan has found ends where it stands. -/
theorem scanRows_within (dirty : Nat → Bool) (left : Nat) {row : Nat} {closed : List DirtyRange}
    {opened : Option DirtyRange} (before : ∀ range ∈ closed, range.yStart + range.yCount ≤ row)
    (open_ : ∀ range ∈ opened, range.yStart + range.yCount = row) :
    ∀ range ∈ (scanRows dirty left row closed opened).ranges,
      range.yStart + range.yCount ≤ row + left := by
  induction left generalizing row closed opened with
  | zero =>
    intro range member
    rcases List.mem_append.mp member with older | last
    · exact before range older
    · exact Nat.le_of_eq (open_ range (Option.mem_toList.mp last))
  | succ left inductionHypothesis =>
    have later : ∀ range ∈ closed, range.yStart + range.yCount ≤ row + 1 :=
      fun range member => Nat.le_succ_of_le (before range member)
    have next : row + (left + 1) = row + 1 + left := by omega
    rw [next]
    unfold scanRows
    cases dirty row with
    | true =>
      cases opened with
      | none =>
        show ∀ range ∈ (if maxDirtyRanges ≤ closed.length then _ else _ : FrameDamage).ranges, _
        split
        · intro range member
          have := before range member
          omega
        · refine inductionHypothesis later fun range member => ?_
          cases Option.mem_some_iff.mp member
          rfl
      | some range =>
        refine inductionHypothesis later fun grown member => ?_
        cases Option.mem_some_iff.mp member
        have := open_ range (Option.mem_some_self range)
        show range.yStart + (range.yCount + 1) = row + 1
        omega
    | false =>
      cases opened with
      | none => exact inductionHypothesis later fun range member => by cases member
      | some range =>
        refine inductionHypothesis (fun other member => ?_) fun other member => by cases member
        rcases List.mem_append.mp member with older | last
        · exact later other older
        · rw [List.mem_singleton.mp last, open_ range (Option.mem_some_self range)]
          exact Nat.le_succ row

theorem computeFrameDamage_within (pixels : Frame c) (lastSentFrame : Option (Frame c))
    (lastSentValid : Bool) :
    ∀ range ∈ (computeFrameDamage pixels lastSentFrame lastSentValid).ranges,
      range.Within c := by
  intro range member
  unfold computeFrameDamage at member
  cases lastSentFrame with
  | none => cases member
  | some reference =>
    cases lastSentValid with
    | false => cases member
    | true =>
      have bound := scanRows_within _ c.height (fun _ none => absurd none List.not_mem_nil)
        (fun _ none => by cases none) range member
      rwa [Nat.zero_add] at bound

/-- The bytes of a range inside the frame. -/
theorem length_rangeOf {range : DirtyRange} (within : range.Within c) (pixels : Frame c) :
    (rangeOf pixels range).length = range.size c ∧
      range.offset c + range.size c ≤ c.frameSize := by
  have whole : range.offset c + range.size c ≤ c.frameSize := by
    rw [DirtyRange.offset, DirtyRange.size, Config.frameSize, ← Nat.add_mul, Nat.mul_comm]
    exact Nat.mul_le_mul_left _ within
  refine ⟨?_, whole⟩
  rw [rangeOf, List.length_take, List.length_drop, pixels.length]
  omega

section Follows

variable {rules : SendRules c} {standing : Standing} {Result : Type}

/-! ### Records -/

/-- A record whose header announces the length of its payload. -/
theorem accepts_recordTo {address length : Nat} {payload : List Byte}
    (length_eq : payload.length = length) (small : length < 2 ^ 32)
    (record : rules.record (recordTo address length) payload) :
    rules.Accepts (recordTo address length) payload :=
  ⟨⟨length_eq.symm, length_eq.symm, length_eq ▸ small⟩, record⟩

theorem settles_writeRecord {address length : Nat} {payload : List Byte}
    (inside : standing.inside = true) (long : length ≤ payload.length) (small : length < 2 ^ 32)
    (record : rules.record (recordTo address length) (payload.take length)) :
    Settles rules standing (writeRecord (c := c) (recordTo address length) payload length).run :=
  writeRecord_settles
    (accepts_recordTo (by rw [List.length_take, Nat.min_eq_left long]) small record) long inside

theorem settles_act {op : Op c} (calm : op.Calm rules) :
    Settles rules standing (lift (act op)).run :=
  settles_lift (settles_calm (only_act calm))

theorem settles_calm_lift {program : Prog c Result} (calm : Calm rules program) :
    Settles rules standing (lift program).run :=
  settles_lift (settles_calm calm)

theorem settles_recordingErrors (head : HeadId) (source : String) {body : Fallible c Result}
    (settles : Settles rules standing body.run) :
    Settles rules standing (recordingErrors head source body).run :=
  .tryCatch settles fun errno =>
    .tryBind (settles_calm_lift (calm_headRecordSendError head errno source)) fun _ =>
      settles_done _

/-! ### The senders -/

section Senders

variable (sound : rules.Sound)

include sound

theorem calm_storeBlob {head : HeadId} (sends : SendsBlobs c head) (payload : List Byte)
    (small : payload.length + sizeofFlipHeader + jpegPaddingSize < 2 ^ 32) :
    Calm rules (storeBlob (c := c) head payload small) := by
  have stored : ∀ cache : Sender c → KeepaliveCache, (Op.tune head fun sender =>
      { sender with cache := cache sender }).Calm rules :=
    fun cache sender fits => sound.blobStored sends (cache sender) fits
  have store := only_act (stored fun sender => sender.cache.store payload small)
  exact (calm_readHead head).seq fun _ => Program.Only.branch
    (calm_ask.seq fun env => (only_act (stored fun _ =>
      .allocate env.allocated payload.length)).seq fun _ => store) store

theorem calm_stashNv12 {head : HeadId} (nv12 : c.transport head = .nv12) (payload : List Byte)
    (small : payload.length + sizeofFlipHeader + jpegPaddingSize < 2 ^ 32)
    (short : payload.length ≤ jpegStagingSize) :
    Calm rules (stashNv12 (c := c) head payload small) :=
  (calm_readHead head).seq fun _ => Program.Only.branch
    (only_act fun _ fits => sound.nv12Stored nv12 payload small short fits) trivial

variable (inside : standing.inside = true)

include inside

theorem settles_sendRows (connected : c.connected .primary = true) (pixels : Frame c)
    (frameSeq : Nat) {ranges : List DirtyRange} (within : ∀ range ∈ ranges, range.Within c)
    (totalSent : Nat) :
    Settles rules standing (sendRows .primary pixels (rawFlipHeader c .primary frameSeq
      (fbAddr c .primary + sizeofFlipHeader)) ranges totalSent).run := by
  induction ranges generalizing totalSent with
  | nil =>
    refine .tryBind (settles_writeRecord inside (by rw [FlipHeader.length_bytes]) (by decide) ?_)
      fun _ => settles_done _
    rw [List.take_of_length_le (by rw [FlipHeader.length_bytes])]
    exact sound.flip connected frameSeq
  | cons range rest inductionHypothesis =>
    obtain ⟨length, whole⟩ := length_rangeOf (within range List.mem_cons_self) pixels
    have fits := c.frame_fits
    refine .tryBind (settles_writeRecord inside ?_ (by omega)
      (sound.rows connected pixels range (within range List.mem_cons_self))) fun _ =>
        inductionHypothesis (fun other member => within other (List.mem_cons_of_mem _ member)) _
    rw [List.length_drop, pixels.length]
    omega

theorem settles_sendFull (connected : c.connected .primary = true) (pixels : Frame c)
    (frameSeq : Nat) :
    Settles rules standing (sendFull .primary pixels (rawFlipHeader c .primary frameSeq
      (fbAddr c .primary + sizeofFlipHeader))).run := by
  have fits := c.frame_fits
  have length : ((rawFlipHeader c .primary frameSeq
      (fbAddr c .primary + sizeofFlipHeader)).bytes ++ pixels.bytes).length =
        sizeofFlipHeader + c.frameSize := by
    rw [List.length_append, FlipHeader.length_bytes, pixels.length]
  refine .tryBind (settles_writeRecord inside (Nat.le_of_eq length.symm) (by omega) ?_) fun _ =>
    settles_done _
  rw [List.take_of_length_le (Nat.le_of_eq length)]
  exact sound.full connected frameSeq pixels

theorem settles_sendSlot (raw : c.transport .secondary = .raw)
    (connected : c.connected .secondary = true) (pixels : Frame c) {sender : Sender c}
    (fits : rules.fits .secondary sender.place) :
    Settles rules standing (sendSlot .secondary pixels sender).run := by
  have small := c.frame_fits
  refine .tryBind (settles_writeRecord inside (Nat.le_of_eq pixels.length.symm) (by omega) ?_)
    fun _ => .tryBind (settles_writeRecord inside (by rw [FlipHeader.length_bytes]) (by decide) ?_)
      fun _ => .tryBind (settles_act ?_) fun _ => settles_done _
  · rw [List.take_of_length_le (Nat.le_of_eq pixels.length)]
    exact sound.slotFrame raw connected fits pixels
  · rw [List.take_of_length_le (by rw [FlipHeader.length_bytes])]
    exact sound.slotFlip raw connected fits sender.frameSeq
  · exact fun later kept => sound.slotSent raw fits kept

theorem settles_rawTransfers {head : HeadId} (raw : c.transport head = .raw)
    (connected : c.connected head = true) (pixels : Frame c) {damage : Option FrameDamage}
    (within : ∀ ranges, partialRanges damage = some ranges → ∀ range ∈ ranges, range.Within c) :
    Settles rules standing (rawTransfers head pixels damage).run := by
  refine Settles.read fun state fits => ?_
  cases head with
  | primary =>
    cases partial_ : partialRanges damage with
    | some ranges =>
      exact settles_recordingErrors _ _
        (settles_sendRows sound inside connected pixels _ (within ranges partial_) _)
    | none =>
      exact .tryIte (fun _ => settles_done _) fun _ =>
        settles_recordingErrors _ _ (settles_sendFull sound inside connected pixels _)
  | secondary =>
    exact .tryIte (fun _ => settles_done _) fun _ =>
      settles_recordingErrors _ _ (settles_sendSlot sound inside raw connected pixels fits)

theorem settles_sendFrameRaw {head : HeadId} (raw : c.transport head = .raw) (pixels : Frame c)
    (isLastSent : Bool) (pixelLen : Nat) {damage : Option FrameDamage}
    (within : ∀ ranges, partialRanges damage = some ranges → ∀ range ∈ ranges, range.Within c) :
    Settles rules standing (sendFrameRaw head pixels isLastSent pixelLen damage).run := by
  have noted : Settles rules standing (lift (act (c := c) (.noteSent head pixels))).run :=
    settles_act (by trivial)
  unfold sendFrameRaw
  refine .tryIte (fun _ => settles_done _) fun connected => .tryIte (fun _ => settles_done _)
    fun _ => .tryIte (fun _ => ?_) fun _ => ?_
  · exact .tryBind (settles_calm_lift (calm_count head fun _ => rfl)) fun _ => noted
  · exact .tryBind (settles_rawTransfers sound inside raw (by simpa using connected) pixels within)
      fun _ => .tryBind (settles_calm_lift (calm_finishRaw head pixels isLastSent damage _))
        fun _ => noted

theorem settles_sendStagedBlob {head : HeadId} (sends : SendsBlobs c head)
    (connected : c.connected head = true) {sender : Sender c}
    (fits : rules.fits head sender.place) (staging : Buffer jpegStagingSize) {cmdStep : Nat}
    (source : BlobSource) (len : BlobLength)
    (step : cmdStepFor (sizeofFlipHeader + len.val + jpegPaddingSize) = some cmdStep) :
    Settles rules standing (sendStagedBlob head sender staging cmdStep source len).run := by
  have small : sizeofFlipHeader + len.val + jpegPaddingSize < 2 ^ 32 := by
    have := len.property
    omega
  have short : cmdStep ≤ 3 * mebibyte := by
    obtain ⟨-, sizes⟩ := cmdStepFor_cases step
    omega
  unfold sendStagedBlob
  refine .tryIte (fun _ => settles_done _) fun fitting =>
    .tryBind (settles_act (Op.calm_tune fun _ => rfl)) fun _ =>
    .tryBind (settles_writeRecord inside ?_ small
      (sound.blob sends connected fits len cmdStep _ staging source step)) fun _ =>
    .tryBind (settles_act fun later kept => sound.blobSent sends fits kept short) fun _ =>
    .tryBind (settles_calm_lift (calm_count head fun _ => rfl)) fun _ =>
    .tryBind (settles_calm_lift (calm_storeBlob sound sends _ _)) fun _ =>
    settles_calm_lift (calm_arm head (by decide))
  rw [Buffer.length]
  exact Nat.not_lt.mp fitting

theorem settles_sendJpegBlob {head : HeadId} (sends : SendsBlobs c head)
    (connected : c.connected head = true) (source : BlobSource) (len : BlobLength) :
    Settles rules standing (sendJpegBlob (c := c) head source len).run := by
  unfold sendJpegBlob
  refine .tryIte (fun _ => settles_done _) fun _ => Settles.read fun state fits => ?_
  split
  · next step _ => exact settles_sendStagedBlob sound inside sends connected fits _ source len step
  · exact settles_done _

theorem settles_sendStagedNv12 {head : HeadId} (nv12 : c.transport head = .nv12)
    (connected : c.connected head = true) {sender : Sender c}
    (fits : rules.fits head sender.place) (staging : Buffer jpegStagingSize)
    (len : EncodedLength) :
    Settles rules standing (sendStagedNv12 head sender staging len).run := by
  have room := len.property
  have size := jpegStagingSize_eq
  have short : ∀ frame : Buffer jpegStagingSize, (frame.bytes.take
      (sizeofFlipHeader + len.val + jpegPaddingSize)).length ≤ jpegStagingSize := by
    intro frame
    have := List.length_take_le' (sizeofFlipHeader + len.val + jpegPaddingSize) frame.bytes
    rwa [frame.length] at this
  unfold sendStagedNv12
  refine .tryBind (settles_act (Op.calm_tune fun _ => rfl)) fun _ =>
    .tryBind (settles_recordingErrors _ _ (settles_writeRecord inside ?_ (by omega)
      (sound.nv12 nv12 connected fits len sender.frameSeq staging))) fun _ =>
    .tryBind (settles_act fun later kept => sound.nv12Sent nv12 fits kept) fun _ =>
    .tryBind (settles_calm_lift (calm_count head fun _ => rfl)) fun _ =>
    .tryBind (settles_calm_lift (calm_stashNv12 sound nv12 _ _ (short _))) fun _ =>
    settles_calm_lift (calm_arm head (by decide))
  rw [Buffer.length]
  omega

theorem settles_sendPreparedNv12 {head : HeadId} (nv12 : c.transport head = .nv12)
    (connected : c.connected head = true) (len : EncodedLength) :
    Settles rules standing (sendPreparedNv12 (c := c) head len).run := by
  refine Settles.read fun state fits => ?_
  split
  · exact settles_done _
  · exact settles_sendStagedNv12 sound inside nv12 connected fits _ len

theorem settles_sendNv12Keepalive {head : HeadId} (nv12 : c.transport head = .nv12)
    (connected : c.connected head = true) (replays : rules.replays head) :
    Settles rules standing (sendNv12Keepalive (c := c) head).run := by
  refine Settles.read fun state fits => ?_
  have length : state.sender.cache.payload.length = state.sender.cache.lastJpegLen := by
    rw [KeepaliveCache.payload, List.length_take, Nat.min_eq_left state.sender.cache.within]
  have small := state.sender.cache.small
  refine settles_writeRecord inside (Nat.le_of_eq length.symm) (by omega) ?_
  rw [List.take_of_length_le (Nat.le_of_eq length)]
  exact sound.nv12Replayed nv12 connected replays fits

theorem settles_sendRefresh {head : HeadId} (raw : c.transport head = .raw) :
    Settles rules standing (sendRefresh (c := c) head).run := by
  refine .tryBind (settles_calm_lift (calm_refreshDeadline head)) fun _ =>
    .tryBind (settles_calm_lift (calm_rawRefreshEligible head)) fun _ =>
    .tryIte (fun _ => settles_done _) fun _ => .tryBind (settles_calm_lift calm_ask) fun _ =>
    .tryIte (fun _ => settles_done _) fun _ =>
    .tryBind (settles_calm_lift (calm_readHead head)) fun state => ?_
  cases state.lastSentFrame with
  | none => exact settles_done _
  | some frame =>
    exact .tryBind (settles_sendFrameRaw sound inside raw frame _ _
      fun ranges none => by cases none) fun _ => settles_done _

theorem settles_resend {head : HeadId} (connected : c.connected head = true)
    (replays : rules.replays head) :
    Settles rules standing (resend (c := c) head).run := by
  have blob : SendsBlobs c head → Settles rules standing (c := c) (ExceptT.run (do
      let cache := (← lift (readHead head)).sender.cache
      sendJpegBlob head (.external cache.payload) ⟨cache.lastJpegLen, cache.small⟩
      return true)) := fun sends =>
    .tryBind (settles_calm_lift (calm_readHead head)) fun _ =>
      .tryBind (settles_sendJpegBlob sound inside sends connected _ _) fun _ => settles_done _
  unfold resend
  split
  · next transport => exact settles_sendRefresh sound inside transport
  · next transport =>
    exact .tryBind (settles_sendNv12Keepalive sound inside transport connected replays) fun _ =>
      settles_done _
  · next transport => exact blob (.inl transport)
  · next transport => exact blob (.inr transport)

theorem settles_sendKeepalive {head : HeadId} (connected : c.connected head = true)
    (replays : rules.replays head) :
    Settles rules standing (sendKeepalive (c := c) head).run :=
  .tryCatch
    (.tryBind (settles_resend sound inside connected replays) fun _ =>
      .tryIte (fun _ => settles_act fun _ fits => sound.replayed replays fits)
        fun _ => settles_done _)
    fun errno => .tryBind (settles_calm_lift (calm_count head fun _ => rfl)) fun _ =>
      .tryBind (settles_calm_lift (calm_headRecordSendError head errno _)) fun _ => settles_done _

end Senders

/-! ### What is prepared -/

/-- What the worker has ready fits the transport of its head. -/
def Prepared.Fit (rules : SendRules c) (head : HeadId) : Prepared → Prop
  | .keepalive => rules.replays head
  | .raw damage => c.transport head = .raw ∧ ∀ range ∈ damage.ranges, range.Within c
  | .encoded _ => c.transport head ≠ .raw

theorem partialRanges_within {damage : FrameDamage}
    (within : ∀ range ∈ damage.ranges, range.Within c) :
    ∀ ranges, partialRanges (some damage) = some ranges → ∀ range ∈ ranges, range.Within c := by
  intro ranges is
  simp only [partialRanges] at is
  split at is
  · cases is
  · cases is
    exact within

theorem settles_sendPrepared (sound : rules.Sound) (inside : standing.inside = true)
    {head : HeadId} (connected : c.connected head = true) (popped : Popped) {prepared : Prepared}
    (fit : prepared.Fit rules head) :
    Settles rules standing (sendPrepared (c := c) head popped prepared).run := by
  cases prepared with
  | keepalive => exact settles_sendKeepalive sound inside connected fit
  | raw damage =>
    exact .tryBind (settles_calm_lift (calm_readHead head)) fun _ =>
      settles_sendFrameRaw sound inside fit.1 _ _ _ (partialRanges_within fit.2)
  | encoded len =>
    unfold sendPrepared
    cases transport : c.transport head with
    | nv12 => exact settles_sendPreparedNv12 sound inside transport connected len
    | raw => exact absurd transport fit
    | jpegCmd =>
      exact settles_recordingErrors _ _
        (settles_sendJpegBlob sound inside (.inl transport) connected _ _)
    | userJpeg =>
      exact settles_recordingErrors _ _
        (settles_sendJpegBlob sound inside (.inr transport) connected _ _)

end Follows

end Trigger6.Driver
