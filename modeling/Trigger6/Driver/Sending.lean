/-
This file checks function by function that all code of the driver follows the
protocol of the senders, whatever the rules, as long as the rules allow what the
senders make of their bookkeeping.
-/

import Trigger6.Driver.SendRules

namespace Trigger6.Driver

open Bytes Interaction Framing

variable {c : Config}

/-! ### What the rules have to allow -/

/-- A range of rows of the frame. -/
def DirtyRange.Within (c : Config) (range : DirtyRange) : Prop :=
  range.yStart + range.yCount ≤ c.height

/-- The head encodes its frames to JPEG, or has them encoded by a process. -/
def SendsBlobs (c : Config) (head : HeadId) : Prop :=
  c.transport head = .jpegCmd ∨ c.transport head = .userJpeg

/-- The primary head is raw. -/
theorem SendsBlobs.secondary {head : HeadId} (sends : SendsBlobs c head) : head = .secondary := by
  cases head with
  | primary => rcases sends with transport | transport <;> cases transport
  | secondary => rfl

/-- The header of a record that goes to an address. -/
def recordTo (address length : Nat) : BulkHeader where
  payloadLength := length
  payloadAddress := address
  packetLength := length

/-- The rules allow whatever the senders send and make of their bookkeeping. -/
structure SendRules.Sound (rules : SendRules c) : Prop where
  cleared : ∀ {head place}, rules.fits head place → rules.fits head { place with cache := .empty }
  replayed : ∀ {head place}, rules.replays head → rules.fits head place →
    rules.fits head { place with keepaliveSent := place.keepaliveSent + 1 }
  cached : ∀ {head place}, rules.fits head place → place.cache.lastJpegData.isSome = true →
    rules.replays head
  raw : ∀ {head}, c.transport head = .raw → rules.replays head
  monitor : ∀ {head}, c.connected head = true → ∀ on : Bool,
    rules.request (.controlOut reqMonitorCtrl head.outputIdx (if on then 1 else 0) [])
  finalOff : c.selected = .primary → rules.request (.finalOff 0x03 0 0)
  rows : c.connected .primary = true → ∀ (pixels : Frame c) (range : DirtyRange),
    range.Within c → rules.record
      (recordTo (fbAddr c .primary + sizeofFlipHeader + range.offset c) (range.size c))
      (rangeOf pixels range)
  flip : c.connected .primary = true → ∀ frameSeq, rules.record
    (recordTo (fbAddr c .primary) sizeofFlipHeader)
    (rawFlipHeader c .primary frameSeq (fbAddr c .primary + sizeofFlipHeader)).bytes
  full : c.connected .primary = true → ∀ frameSeq (pixels : Frame c), rules.record
    (recordTo (fbAddr c .primary) (sizeofFlipHeader + c.frameSize))
    ((rawFlipHeader c .primary frameSeq (fbAddr c .primary + sizeofFlipHeader)).bytes ++
      pixels.bytes)
  slotFrame : c.transport .secondary = .raw → c.connected .secondary = true →
    ∀ {place}, rules.fits .secondary place → ∀ pixels : Frame c, rules.record
      (recordTo (slotAddr c .secondary (nextSlot c .secondary place.slot)) c.frameSize)
      pixels.bytes
  slotFlip : c.transport .secondary = .raw → c.connected .secondary = true →
    ∀ {place}, rules.fits .secondary place → ∀ frameSeq, rules.record
      (recordTo (cmdAddrFor c .secondary place.cursor mebibyte) sizeofFlipHeader)
      (rawFlipHeader c .secondary frameSeq
        (slotAddr c .secondary (nextSlot c .secondary place.slot))).bytes
  slotSent : c.transport .secondary = .raw → ∀ {place later}, rules.fits .secondary place →
    rules.fits .secondary later → rules.fits .secondary { later with
      cursor := (cmdAddrFor c .secondary place.cursor mebibyte + mebibyte) % 2 ^ 32
      slot := nextSlot c .secondary place.slot }
  blob : ∀ {head}, SendsBlobs c head → c.connected head = true → ∀ {place}, rules.fits head place →
    ∀ (len : BlobLength) (cmdStep flag : Nat) (staging : Buffer jpegStagingSize)
      (source : BlobSource),
      cmdStepFor (sizeofFlipHeader + len.val + jpegPaddingSize) = some cmdStep → rules.record
        (recordTo (cmdAddrFor c head place.cursor cmdStep)
          (sizeofFlipHeader + len.val + jpegPaddingSize))
        ((placeBlob staging source len.val (jpegFlipHeader c head len.val
          (slotAddr c head (nextSlot c head place.slot)) flag)).bytes.take
            (sizeofFlipHeader + len.val + jpegPaddingSize))
  blobSent : ∀ {head}, SendsBlobs c head → ∀ {place later cmdStep}, rules.fits head place →
    rules.fits head later → cmdStep ≤ 3 * mebibyte → rules.fits head { later with
      cursor := (cmdAddrFor c head place.cursor cmdStep + cmdStep) % 2 ^ 32
      slot := nextSlot c head place.slot }
  blobStored : ∀ {head}, SendsBlobs c head → ∀ {place} (cache : KeepaliveCache),
    rules.fits head place → rules.fits head { place with cache := cache }
  nv12 : ∀ {head}, c.transport head = .nv12 → c.connected head = true →
    ∀ {place}, rules.fits head place → ∀ (len : EncodedLength) (frameSeq : Nat)
      (staging : Buffer jpegStagingSize), rules.record
        (recordTo (slotAddr c head (nextSlot c head place.slot))
          (sizeofFlipHeader + len.val + jpegPaddingSize))
        ((staging.copy 0 (nv12FlipHeader c head len.val
          (slotAddr c head (nextSlot c head place.slot)) frameSeq).bytes).bytes.take
            (sizeofFlipHeader + len.val + jpegPaddingSize))
  nv12Sent : ∀ {head}, c.transport head = .nv12 → ∀ {place later}, rules.fits head place →
    rules.fits head later →
    rules.fits head { later with slot := nextSlot c head place.slot }
  nv12Stored : ∀ {head}, c.transport head = .nv12 → ∀ {place} (payload : List Byte)
    (small : payload.length + sizeofFlipHeader + jpegPaddingSize < 2 ^ 32),
    payload.length ≤ jpegStagingSize → rules.fits head place →
    rules.fits head { place with cache := place.cache.store payload small }
  nv12Replayed : ∀ {head}, c.transport head = .nv12 → c.connected head = true →
    rules.replays head → ∀ {place}, rules.fits head place → rules.record
      (recordTo (slotAddr c head (place.slot % fbSlotCount c head)) place.cache.lastJpegLen)
      place.cache.payload

/-! ### Calm steps -/

/-- The steps that are allowed in every phase. -/
def Op.Calm (rules : SendRules c) : Op c → Prop
  | .tune head change => rules.Keeps head change
  | .setKeepaliveDue head due => due = true → rules.replays head
  | .requeue head popped => popped.keepaliveDue = true → rules.replays head
  | .yieldTurn head popped => popped.keepaliveDue = true → rules.replays head
  | .arm _ work => work ≠ .bootKeepaliveWork
  | .lockIo | .unlockIo | .devEnter | .devExit | .setUnplugged | .awaitSections | .setIoFaulted
  | .submit _ _ _ | .freeBulkChunk => False
  | _ => True

/-- The phase is between two records. -/
def LockPhase.Whole (lock : LockPhase) : Prop := ∀ header payload, lock ≠ .owing header payload

theorem LockPhase.Settled.whole {lock : LockPhase} (settled : lock.Settled) : lock.Whole := by
  rintro header payload rfl
  exact settled

abbrev Calm (rules : SendRules c) {Result : Type} (program : Prog c Result) : Prop :=
  program.Only (Op.Calm rules)

section Follows

variable {rules : SendRules c} {standing : Standing} {lock : LockPhase} {Result : Type}

theorem sending_calm (whole : lock.Whole) {op : Op c} (calm : op.Calm rules) :
    (sending rules).allowed (standing, lock) op ∧ ∀ answer,
      (sending rules).possible (standing, lock) op answer →
        (sending rules).move (standing, lock) op answer = (standing, lock) := by
  cases op with
  | read =>
    refine ⟨trivial, fun answer _ => ?_⟩
    cases lock with
    | owing header payload => exact absurd rfl (whole header payload)
    | _ => rfl
  | tune | setKeepaliveDue | requeue | yieldTurn | arm =>
    exact ⟨calm, fun _ _ => by cases lock <;> rfl⟩
  | lockIo | unlockIo | devEnter | devExit | setUnplugged | awaitSections | setIoFaulted | submit
  | freeBulkChunk => exact calm.elim
  | _ => exact ⟨trivial, fun _ _ => by cases lock <;> rfl⟩

theorem stays_calm (whole : lock.Whole) {program : Prog c Result} (calm : Calm rules program) :
    program.Stays (sending rules) (standing, lock) :=
  .of_only calm fun _ => sending_calm whole

theorem stays_calm_lift (whole : lock.Whole) {program : Prog c Result}
    (calm : Calm rules program) :
    (lift program).run.Stays (sending rules) (standing, lock) :=
  .lift (stays_calm whole calm)

/-! ### Sections of the lock -/

/-- From between two records, the program ends between two records. -/
def Settles (rules : SendRules c) (standing : Standing) (program : Prog c Result) : Prop :=
  ∀ lock : LockPhase, lock.Settled → program.Follows (sending rules)
    (fun last _ => last.1 = standing ∧ last.2.Settled) (standing, lock)

theorem settles_calm {program : Prog c Result} (calm : Calm rules program) :
    Settles rules standing program := by
  intro lock settled
  refine (stays_calm settled.whole calm).mono fun last _ same => ?_
  rw [same]
  exact ⟨rfl, settled⟩

theorem settles_done (result : Result) :
    Settles (c := c) rules standing (.done result) := fun _ settled => ⟨rfl, settled⟩

theorem Settles.seq {First : Type} {program : Prog c First} {rest : First → Prog c Result}
    (first : Settles rules standing program)
    (second : ∀ result, Settles rules standing (rest result)) :
    Settles rules standing (program >>= rest) := by
  intro lock settled
  refine Program.Follows.seq ((first lock settled).mono fun last result ends => ?_)
  obtain ⟨last, after⟩ := last
  obtain ⟨rfl, settled⟩ := ends
  exact second result after settled

theorem Settles.tryBind {First : Type} {program : Fallible c First}
    {rest : First → Fallible c Result} (first : Settles rules standing program.run)
    (second : ∀ value, Settles rules standing (rest value).run) :
    Settles rules standing (program >>= rest).run := by
  intro lock settled
  refine Program.Follows.tryBind ((first lock settled).mono fun last result ends => ?_)
  obtain ⟨last, after⟩ := last
  obtain ⟨rfl, settled⟩ := ends
  cases result with
  | ok value => exact second value after settled
  | error errno => exact ⟨rfl, settled⟩

theorem Settles.tryCatch {program : Fallible c Result} {handler : Errno → Fallible c Result}
    (body : Settles rules standing program.run)
    (handled : ∀ errno, Settles rules standing (handler errno).run) :
    Settles rules standing (MonadExcept.tryCatch program handler).run := by
  intro lock settled
  refine Program.Follows.tryCatch ((body lock settled).mono fun last result ends => ?_)
  obtain ⟨last, after⟩ := last
  obtain ⟨rfl, settled⟩ := ends
  cases result with
  | ok value => exact ⟨rfl, settled⟩
  | error errno => exact handled errno after settled

theorem Settles.tryIte {condition : Prop} [Decidable condition] {yes no : Fallible c Result}
    (first : condition → Settles rules standing yes.run)
    (second : ¬ condition → Settles rules standing no.run) :
    Settles rules standing (if condition then yes else no).run := by
  split
  · exact first ‹_›
  · exact second ‹_›

theorem settles_lift {program : Prog c Result} (settles : Settles rules standing program) :
    Settles rules standing (lift program).run :=
  fun lock settled => .lift (settles lock settled)

/-- A read under the lock tells what holds of every head's bookkeeping. -/
theorem Settles.read {rest : HeadState c → Fallible c Result} {head : HeadId}
    (each : ∀ state : HeadState c, rules.fits head state.sender.place →
      Settles rules standing (rest state).run) :
    Settles rules standing (lift (readHead head) >>= rest).run := by
  intro lock settled
  refine ⟨trivial, fun dev possible => ?_⟩
  have still : (sending rules).move (standing, lock) .read dev = (standing, lock) := by
    cases lock <;> first | exact settled.elim | rfl
  rw [still]
  exact each (dev.heads head) (possible.2.1 head) lock settled

/-! ### Transfers -/

/-- Latching an error is the way out of a failed transfer. -/
theorem latchIoError_halts (errno : Errno) :
    (latchIoError (c := c) errno).Follows (sending rules)
      (fun last _ => last = (standing, .halted)) (standing, .failing) :=
  ⟨trivial, fun _ _ => ⟨(fun _ _ same => nomatch same), fun _ _ => rfl⟩⟩

/-- The device's counters can be changed in every phase. -/
theorem stays_tuneDevice {lock : LockPhase} (change : DeviceMetrics → DeviceMetrics) :
    (act (c := c) (.tuneDevice change)).Stays (sending rules) (standing, lock) :=
  Program.stays_perform trivial fun _ _ => by cases lock <;> rfl

theorem failBulk_halts (change : DeviceMetrics → DeviceMetrics) (errno : Errno) :
    (failBulk (c := c) change errno).run.Follows (sending rules)
      (fun last _ => last = (standing, .halted)) (standing, .failing) := by
  refine .tryBind (.lift ((stays_tuneDevice change).mono fun last _ same => ?_))
  rw [same]
  exact .tryBind (.lift ((latchIoError_halts errno).mono fun _ _ halted => halted))

theorem LockPhase.halted_settled {standing : Standing} {last : SendPhase}
    (halted : last = (standing, .halted)) : last.1 = standing ∧ last.2.Settled := by
  rw [halted]
  exact ⟨rfl, trivial⟩

theorem afterChunk_complete {header payload chunk data : List Byte} {outcome : Outcome}
    (complete : outcome.complete (.bulk chunk) = true) :
    LockPhase.afterChunk header payload chunk (.returned outcome data) = .sent header payload :=
  if_pos complete

theorem afterChunk_failed {header payload chunk data : List Byte} {outcome : Outcome}
    (failed : outcome.complete (.bulk chunk) = false) :
    LockPhase.afterChunk header payload chunk (.returned outcome data) = .failing := by
  rw [LockPhase.afterChunk, failed]
  rfl

/-- A chunk loop from inside a record: `sent` of the payload is out, and the loop is to send the
rest. -/
theorem bulkChunks_settles {header : BulkHeader} {payload : List Byte}
    (accepts : rules.Accepts header payload) (bound : Nat) {cursor sent : List Byte}
    {remaining : Nat} (enough : remaining ≤ bound) (whole : payload = sent ++ cursor.take remaining)
    (long : remaining ≤ cursor.length) {lock : LockPhase}
    (under : lock = .sent header.bytes sent ∨ lock = .halted) :
    (bulkChunks (c := c) bound cursor remaining).run.Follows (sending rules)
      (fun last _ => last.1 = standing ∧ last.2.Settled) (standing, lock) := by
  have announced : bulkFormat.payloadLength header.bytes = payload.length :=
    accepts.announces.announced
  have length : payload.length = sent.length + remaining := by
    rw [whole, List.length_append, List.length_take, Nat.min_eq_left long]
  have finished : remaining = 0 → lock.Settled := by
    rintro rfl
    rcases under with rfl | rfl
    · rw [LockPhase.sent, if_pos (by omega)]
      trivial
    · trivial
  induction bound generalizing cursor sent remaining lock with
  | zero => exact ⟨rfl, finished (Nat.le_zero.mp enough)⟩
  | succ bound inductionHypothesis =>
    rw [bulkChunks]
    show Program.Follows _ _ _ (ExceptT.run (if _ then _ else _))
    by_cases none : remaining = 0
    · rw [if_pos none]
      exact ⟨rfl, finished none⟩
    · rw [if_neg none]
      have positive : 0 < min xferChunkSize remaining :=
        Nat.lt_min.mpr ⟨by decide, Nat.pos_of_ne_zero none⟩
      have within : min xferChunkSize remaining ≤ remaining := Nat.min_le_right _ _
      generalize min xferChunkSize remaining = chunk at positive within
      have size : (cursor.take chunk).length = chunk := by
        rw [List.length_take, Nat.min_eq_left (by omega)]
      have split : cursor.take remaining = cursor.take chunk ++ (cursor.drop chunk).take (remaining - chunk) := by
        rw [← List.take_append_drop chunk (cursor.take remaining), List.take_take,
          Nat.min_eq_left within, List.drop_take]
      rcases under with rfl | rfl
      · have owing : LockPhase.sent header.bytes sent = .owing header.bytes sent :=
          if_neg (by omega)
        rw [owing]
        have permitted : rules.Permits (latchCheck (c := c)) (.owing header.bytes sent)
            (.bulk (cursor.take chunk)) := by
          refine ⟨fun _ => rfl, ?_, header, (cursor.drop chunk).take (remaining - chunk), rfl, ?_⟩
          · rw [← List.length_pos_iff, size]
            exact positive
          · rw [List.append_assoc, ← split, ← whole]
            exact accepts
        refine Program.Follows.tryBind (Program.Follows.lift ⟨permitted, fun submission possible => ?_⟩)
        cases submission with
        | refused => exact ⟨rfl, trivial⟩
        | noMemory => cases possible.2
        | returned outcome data =>
          refine .tryBind (.lift ((stays_tuneDevice _).mono fun last _ same => ?_))
          rw [same]
          show Program.Follows _ _ (standing, LockPhase.afterChunk header.bytes
            (sent ++ cursor.take chunk) (cursor.take chunk) (.returned outcome data)) _
          cases status : outcome.status with
          | some errno =>
            have incomplete : outcome.complete (.bulk (cursor.take chunk)) = false := by
              rw [Outcome.complete, status]
              rfl
            rw [afterChunk_failed incomplete]
            exact (failBulk_halts _ _).mono fun _ _ => LockPhase.halted_settled
          | none =>
            show Program.Follows _ _ _ (ExceptT.run (if _ then _ else _))
            by_cases moved : outcome.actual = chunk
            · rw [if_pos moved, afterChunk_complete (complete_of_moved status moved possible.1)]
              refine inductionHypothesis (by omega) ?_ ?_ (.inl rfl) ?_ ?_
              · rw [List.append_assoc, ← split, ← whole]
              · rw [List.length_drop]
                omega
              · rw [List.length_append, size]
                omega
              · intro last
                rw [LockPhase.sent, if_pos (by rw [List.length_append, size]; omega)]
                trivial
            · have incomplete : outcome.complete (.bulk (cursor.take chunk)) = false := by
                have differs : outcome.actual ≠ Transfer.size (.bulk (cursor.take chunk)) :=
                  fun same => moved (same.trans size)
                rw [Outcome.complete, beq_eq_false_iff_ne.mpr differs, Bool.and_false]
              rw [if_neg moved, afterChunk_failed incomplete]
              exact (failBulk_halts _ _).mono fun _ _ => LockPhase.halted_settled
      · refine Program.Follows.tryBind (Program.Follows.lift
          ⟨fun dev faulted => faulted, fun submission possible => ?_⟩)
        cases submission with
        | refused => exact ⟨rfl, trivial⟩
        | noMemory => cases possible.2
        | returned outcome data => exact absurd rfl possible.2

/-- The payload of a record, or nothing once the latch has been seen. -/
theorem bulkWrite_payload {header : BulkHeader} {payload : List Byte} {len : Nat}
    (accepts : rules.Accepts header (payload.take len)) (long : len ≤ payload.length)
    (inside : standing.inside = true) (active : c.queryOnly = false ∧ c.manualOnly = false)
    {lock : LockPhase} (under : lock = .sent header.bytes [] ∨ lock = .halted) :
    (bulkWrite (c := c) payload len).run.Follows (sending rules)
      (fun last _ => last.1 = standing ∧ last.2.Settled) (standing, lock) := by
  have announced : bulkFormat.payloadLength header.bytes = len := by
    rw [accepts.announces.announced, List.length_take, Nat.min_eq_left long]
  -- a read leaves the record as it is, or sees the latch
  have reads : ∀ {rest : Dev c → Fallible c Unit} {lock : LockPhase},
      (lock = .sent header.bytes [] ∨ lock = .halted) →
      (∀ dev : Dev c, (standing.inside = true → dev.bulkChunk = true) → ∀ later,
        (later = .sent header.bytes [] ∧ (dev.ioFaulted = true → len = 0)) ∨ later = .halted →
        (rest dev).run.Follows (sending rules)
          (fun last _ => last.1 = standing ∧ last.2.Settled) (standing, later)) →
      (lift readDev >>= rest).run.Follows (sending rules)
        (fun last _ => last.1 = standing ∧ last.2.Settled) (standing, lock) := by
    intro rest lock under each
    refine ⟨trivial, fun dev possible => ?_⟩
    rcases under with rfl | rfl
    · rw [LockPhase.sent]
      split
      · exact each dev possible.2.2 .ready
          (.inl ⟨(if_pos ‹_›).symm, fun _ => Nat.le_zero.mp (announced ▸ ‹_›)⟩)
      · next owed =>
        by_cases faulted : (dev : Dev c).ioFaulted = true
        · have moved : (sending rules).move (standing, .owing header.bytes []) .read dev =
              (standing, .halted) := congrArg (Prod.mk standing) (if_pos faulted)
          rw [moved]
          exact each dev possible.2.2 .halted (.inr rfl)
        · have moved : (sending rules).move (standing, .owing header.bytes []) .read dev =
              (standing, .owing header.bytes []) := congrArg (Prod.mk standing) (if_neg faulted)
          rw [moved]
          exact each dev possible.2.2 (.owing header.bytes [])
            (.inl ⟨(if_neg owed).symm, fun is => absurd is faulted⟩)
    · exact each dev possible.2.2 .halted (.inr rfl)
  have empty : ∀ {later : LockPhase},
      (later = .sent header.bytes [] ∧ len = 0) ∨ later = .halted → later.Settled := by
    rintro later (⟨rfl, none⟩ | rfl)
    · rw [LockPhase.sent, if_pos (by rw [announced, none]; exact Nat.zero_le _)]
      trivial
    · trivial
  unfold bulkWrite
  rw [active.1, active.2]
  refine reads under fun dev _ later seen => ?_
  show Program.Follows _ _ _ (ExceptT.run (if _ then _ else _))
  split
  · next faulted =>
    exact ⟨rfl, empty (seen.imp_left fun sent => ⟨sent.1, sent.2 (by simpa using faulted)⟩)⟩
  · show Program.Follows _ _ _ (ExceptT.run (if _ then _ else _))
    by_cases none : len = 0
    · rw [if_pos none]
      exact ⟨rfl, empty (seen.imp_left fun sent => ⟨sent.1, none⟩)⟩
    · rw [if_neg none]
      refine reads (seen.imp_left And.left) fun dev supply later seen => ?_
      show Program.Follows _ _ _ (ExceptT.run (if _ then _ else _))
      rw [supply inside, if_neg (by decide)]
      refine .tryBind (.lift ((stays_tuneDevice _).mono fun last _ same => ?_))
      rw [same]
      exact bulkChunks_settles accepts len (le_refl _) rfl long (seen.imp_left And.left)

/-- Where a thread may stand once it has written a header. -/
def HeaderOut (standing : Standing) (header : BulkHeader) (last : SendPhase)
    (result : Except Errno Unit) : Prop :=
  last.1 = standing ∧ match result with
    | .ok _ => last.2 = .sent header.bytes [] ∨ last.2 = .halted
    | .error _ => last.2.Settled

/-- The chunk loop on a header is one chunk. -/
theorem bulkChunks_header {header : BulkHeader} {payload : List Byte}
    (accepts : rules.Accepts header payload) {lock : LockPhase} (settled : lock.Settled) :
    (bulkChunks (c := c) sizeofBulkHeader header.bytes sizeofBulkHeader).run.Follows (sending rules)
      (HeaderOut standing header) (standing, lock) := by
  have whole : header.bytes.take (min xferChunkSize sizeofBulkHeader) = header.bytes :=
    List.take_of_length_le (by rw [header.length_bytes]; decide)
  have permitted : rules.Permits (latchCheck (c := c)) lock
      (.bulk (header.bytes.take (min xferChunkSize sizeofBulkHeader))) := by
    rw [whole]
    cases lock with
    | ready => exact ⟨fun _ => rfl, header, payload, rfl, accepts⟩
    | halted => exact fun dev faulted => faulted
    | _ => exact settled.elim
  refine Program.Follows.tryBind (Program.Follows.lift ⟨permitted, fun submission possible => ?_⟩)
  cases submission with
  | refused => cases lock <;> first | exact ⟨rfl, trivial⟩ | exact settled.elim
  | noMemory => exact nomatch possible.2
  | returned outcome data =>
    cases lock with
    | ready =>
      refine .tryBind (.lift ((stays_tuneDevice _).mono fun last _ same => ?_))
      rw [same]
      show Program.Follows _ _ (standing, LockPhase.afterChunk
        (header.bytes.take (min xferChunkSize sizeofBulkHeader)) []
        (header.bytes.take (min xferChunkSize sizeofBulkHeader)) (.returned outcome data)) _
      rw [whole]
      have out : ∀ {result : Except Errno Unit} {last : SendPhase}, last = (standing, .halted) →
          HeaderOut standing header last result := by
        rintro result last rfl
        refine ⟨rfl, ?_⟩
        cases result with
        | ok _ => exact .inr rfl
        | error errno => trivial
      cases status : outcome.status with
      | some errno =>
        have incomplete : outcome.complete (.bulk header.bytes) = false := by
          rw [Outcome.complete, status]
          rfl
        rw [afterChunk_failed incomplete]
        exact (failBulk_halts _ _).mono fun _ _ => out
      | none =>
        show Program.Follows _ _ _ (ExceptT.run (if _ then _ else _))
        by_cases moved : outcome.actual = min xferChunkSize sizeofBulkHeader
        · rw [whole] at possible
          have complete : outcome.complete (.bulk header.bytes) = true := by
            have size : Transfer.size (.bulk header.bytes) = min xferChunkSize sizeofBulkHeader :=
              header.length_bytes
            rw [Outcome.complete, status, moved, size]
            rfl
          rw [if_pos moved, afterChunk_complete complete]
          exact ⟨rfl, .inl rfl⟩
        · have incomplete : outcome.complete (.bulk header.bytes) = false := by
            have differs : outcome.actual ≠ Transfer.size (.bulk header.bytes) :=
              fun same => moved (same.trans header.length_bytes)
            rw [Outcome.complete, beq_eq_false_iff_ne.mpr differs, Bool.and_false]
          rw [if_neg moved, afterChunk_failed incomplete]
          exact (failBulk_halts _ _).mono fun _ _ => out
    | halted => exact absurd rfl possible.2
    | _ => exact settled.elim

theorem bulkWrite_header {header : BulkHeader} {payload : List Byte}
    (accepts : rules.Accepts header payload) {lock : LockPhase} (settled : lock.Settled)
    (active : c.queryOnly = false ∧ c.manualOnly = false) :
    (bulkWrite (c := c) header.bytes sizeofBulkHeader).run.Follows (sending rules)
      (HeaderOut standing header) (standing, lock) := by
  have reads : ∀ {rest : Dev c → Fallible c Unit},
      (∀ dev : Dev c, (rest dev).run.Follows (sending rules) (HeaderOut standing header)
        (standing, lock)) →
      (lift readDev >>= rest).run.Follows (sending rules) (HeaderOut standing header)
        (standing, lock) := by
    intro rest each
    refine Program.Follows.tryBind (Program.Follows.lift
      ((stays_calm settled.whole (only_act (by trivial))).mono fun last dev same => ?_))
    rw [same]
    exact each dev
  unfold bulkWrite
  rw [active.1, active.2]
  refine reads fun dev => ?_
  show Program.Follows _ _ _ (ExceptT.run (if _ then _ else _))
  split
  · exact ⟨rfl, settled⟩
  · refine reads fun dev => ?_
    show Program.Follows _ _ _ (ExceptT.run (if _ then _ else _))
    split
    · exact ⟨rfl, settled⟩
    · refine .tryBind (.lift ((stays_tuneDevice _).mono fun last _ same => ?_))
      rw [same]
      exact bulkChunks_header accepts settled

/-- In the read-only modes nothing is written. -/
theorem bulkWrite_inactive (inactive : ¬ (c.queryOnly = false ∧ c.manualOnly = false))
    {lock : LockPhase} (settled : lock.Settled) (src : List Byte) (len : Nat) :
    (bulkWrite (c := c) src len).run.Follows (sending rules)
      (fun last result => last = (standing, lock) ∧ ∃ errno, result = .error errno)
      (standing, lock) := by
  unfold bulkWrite
  show Program.Follows _ _ _ (ExceptT.run (if _ then _ else _))
  by_cases query : c.queryOnly = true
  · rw [if_pos query]
    exact ⟨rfl, _, rfl⟩
  · have manual : c.manualOnly = true := by
      by_contra active
      exact inactive ⟨eq_false_of_ne_true query, eq_false_of_ne_true active⟩
    rw [if_neg query, manual]
    refine Program.Follows.tryBind (Program.Follows.lift
      ((stays_calm settled.whole (only_act (by trivial))).mono fun last dev same => ?_))
    rw [same]
    exact ⟨rfl, _, rfl⟩

/-- A record that may go out. -/
theorem writeRecord_settles {header : BulkHeader} {payload : List Byte} {len : Nat}
    (accepts : rules.Accepts header (payload.take len)) (long : len ≤ payload.length)
    (inside : standing.inside = true) :
    Settles rules standing (writeRecord (c := c) header payload len).run := by
  intro lock settled
  by_cases active : c.queryOnly = false ∧ c.manualOnly = false
  · refine .tryBind ((bulkWrite_header accepts settled active).mono fun last result ends => ?_)
    obtain ⟨last, after⟩ := last
    obtain ⟨rfl, under⟩ := ends
    cases result with
    | error errno => exact ⟨rfl, under⟩
    | ok _ => exact bulkWrite_payload accepts long inside active under
  · refine .tryBind ((bulkWrite_inactive active settled _ _).mono fun last result ends => ?_)
    obtain ⟨same, errno, rfl⟩ := ends
    rw [same]
    exact ⟨rfl, settled⟩

/-- The end of a control transfer latches the fault if the transfer failed. -/
theorem finishControl_settles {transfer : Transfer} (control : transfer.isFinalOff = false)
    (submission : Submission) :
    (finishControl (c := c) transfer submission).run.Follows (sending rules)
      (fun last _ => last.1 = standing ∧ last.2.Settled)
      (standing, .afterRequest transfer submission) := by
  cases submission with
  | refused => exact ⟨rfl, trivial⟩
  | noMemory => exact ⟨rfl, trivial⟩
  | returned outcome data =>
    show Program.Follows _ _ _ (ExceptT.run (if _ then _ else _))
    by_cases complete : outcome.complete transfer = true
    · have ready : LockPhase.afterRequest transfer (.returned outcome data) = .ready := by
        rw [LockPhase.afterRequest, Submission.failed, failedTransfer, complete, Bool.not_true,
          Bool.and_false]
        rfl
      rw [if_pos complete, ready]
      exact ⟨rfl, trivial⟩
    · have failing : LockPhase.afterRequest transfer (.returned outcome data) = .failing := by
        rw [LockPhase.afterRequest, Submission.failed, failedTransfer, control,
          eq_false_of_ne_true complete]
        rfl
      rw [if_neg complete, failing]
      exact .tryBind (.lift ((latchIoError_halts _).mono fun _ _ => LockPhase.halted_settled))

theorem ctrlOut_settles {request value index : Nat} {data : List Byte}
    (permitted : rules.request (.controlOut request value index data)) :
    Settles rules standing (ctrlOut (c := c) request value index data).run := by
  refine .tryIte (fun _ => settles_done _) fun _ => .tryIte (fun _ => settles_done _) fun _ => ?_
  intro lock settled
  cases lock with
  | ready =>
    refine Program.Follows.tryBind (Program.Follows.lift
      ⟨⟨fun _ faulted => faulted, permitted⟩, fun submission _ => ?_⟩)
    refine .tryBind ((finishControl_settles rfl submission).mono fun last result ends => ?_)
    cases result <;> exact ends
  | halted =>
    refine Program.Follows.tryBind (Program.Follows.lift
      ⟨fun _ faulted => faulted, fun submission possible => ?_⟩)
    cases submission with
    | refused => exact ⟨rfl, trivial⟩
    | noMemory => exact ⟨rfl, trivial⟩
    | returned outcome data => exact absurd rfl possible.2
  | _ => exact settled.elim

/-! ### Calm programs -/

/-- A change of a sender that its bookkeeping does not notice. -/
theorem Op.calm_tune {head : HeadId} {change : Sender c → Sender c}
    (same : ∀ sender, (change sender).place = sender.place) :
    (Op.tune head change).Calm rules := fun sender fits => by
  rw [same]
  exact fits

section CalmPrograms

variable (head : HeadId)

theorem calm_readDev : Calm rules (readDev (c := c)) := only_act (by trivial)

theorem calm_readHead : Calm rules (readHead (c := c) head) := calm_readDev.seq fun _ => trivial

theorem calm_ask : Calm rules (act (c := c) .ask) := only_act (by trivial)

theorem calm_count {change : HeadMetrics → HeadMetrics}
    (quiet : ∀ metrics, (change metrics).keepaliveSent = metrics.keepaliveSent) :
    Calm rules (count (c := c) head change) := by
  refine only_act (Op.calm_tune fun sender => ?_)
  show ({ sender.place with keepaliveSent := (change sender.metrics).keepaliveSent } : Place) = _
  rw [quiet]
  rfl

theorem calm_headRecordSendError (errno : Errno) (source : String) :
    Calm rules (headRecordSendError (c := c) head errno source) :=
  (calm_count head fun _ => rfl).seq fun _ => calm_count head fun _ => rfl

theorem calm_rawRefreshEligible : Calm rules (rawRefreshEligible (c := c) head) :=
  (calm_readHead head).seq fun _ => (calm_readHead head).seq fun _ =>
    calm_readDev.seq fun _ => (calm_readHead head).seq fun _ => trivial

theorem calm_headRuntimeConnected : Calm rules (headRuntimeConnected (c := c) head) :=
  (calm_readHead head).seq fun _ => calm_readDev.seq fun _ => trivial

theorem calm_refreshDeadline : Calm rules (refreshDeadline (c := c) head) :=
  (calm_readHead head).seq fun _ => trivial

theorem calm_readTxDelay : Calm rules (readTxDelay (c := c) head) :=
  (calm_readHead head).seq fun _ => calm_ask.seq fun _ => trivial

theorem calm_noteCompleted : Calm rules (noteCompleted (c := c) head) :=
  (calm_readHead head).seq fun _ => only_act (by trivial)

theorem calm_arm {work : Work} (other : work ≠ .bootKeepaliveWork) :
    Calm rules (act (c := c) (.arm head work)) := only_act other

theorem calm_queueHeadTxWork : Calm rules (queueHeadTxWork (c := c) head) :=
  calm_readDev.seq fun _ => Program.Only.branch (calm_arm head (by decide)) trivial

theorem calm_queueNextPendingHead : Calm rules (queueNextPendingHead (c := c)) := by
  refine (only_act (by trivial)).seq fun next => ?_
  cases next with
  | none => exact trivial
  | some next => exact calm_queueHeadTxWork next

theorem calm_copyRanges (pixels : Frame c) (ranges : List DirtyRange) :
    Calm rules (copyRanges head pixels ranges) := by
  induction ranges with
  | nil => trivial
  | cons range rest inductionHypothesis =>
    exact (only_act (by trivial)).seq fun _ => inductionHypothesis

theorem calm_updateLastSent (pixels : Frame c) (isLastSent : Bool) (damage : Option FrameDamage) :
    Calm rules (updateLastSent head pixels isLastSent damage) := by
  refine (calm_readHead head).seq fun state => Program.Only.branch ?_ trivial
  have valid : Calm rules (act (c := c) (.setLastSentValid head true)) := only_act (by trivial)
  cases partialRanges damage with
  | none => exact (only_act (by trivial)).seq fun _ => valid
  | some ranges => exact (calm_copyRanges head pixels ranges).seq fun _ => valid

theorem calm_finishRaw (pixels : Frame c) (isLastSent : Bool) (damage : Option FrameDamage)
    (totalSent : Nat) : Calm rules (finishRaw head pixels isLastSent damage totalSent) := by
  have counted : Calm rules (act (c := c) (.tune head fun sender =>
      { sender with frameSeq := (sender.frameSeq + 1) % 2 ^ 32 }) >>= fun _ =>
        countSent head totalSent) :=
    (only_act (Op.calm_tune fun _ => rfl)).seq fun _ => calm_count head fun _ => rfl
  exact (calm_updateLastSent head pixels isLastSent damage).seq fun _ => calm_ask.seq fun _ =>
    (only_act (Op.calm_tune fun _ => rfl)).seq fun _ =>
      (calm_rawRefreshEligible head).seq fun _ =>
        Program.Only.branch ((calm_arm head (by decide)).seq fun _ => counted) counted

theorem calm_deferHeadActivity {popped : Popped}
    (due : popped.keepaliveDue = true → rules.replays head) (reason : TxDeferReason) :
    Calm rules (deferHeadActivity (c := c) head popped reason) := by
  have armed : Calm rules (readDev (c := c) >>= fun dev =>
      if dev.wq then act (.arm head .txDeferWork) else pure ()) :=
    calm_readDev.seq fun _ => Program.Only.branch (calm_arm head (by decide)) trivial
  refine (only_act due).seq fun _ => ?_
  cases reason with
  | none => exact armed
  | adapter => exact (only_act (by trivial)).seq fun _ => armed
  | head => exact (calm_count head fun _ => rfl).seq fun _ => armed

theorem calm_shouldYieldTurn {popped : Popped}
    (due : popped.keepaliveDue = true → rules.replays head) :
    Calm rules (shouldYieldTurn (c := c) head popped) := by
  unfold shouldYieldTurn
  cases c.transport head with
  | raw | userJpeg => trivial
  | jpegCmd | nv12 =>
    refine (only_act due).seq fun next => ?_
    cases next with
    | none => trivial
    | some next => exact (calm_queueHeadTxWork next).seq fun _ => trivial

theorem calm_finishFrame : Calm rules (finishFrame (c := c) head) := by
  refine (calm_noteCompleted head).seq fun _ => ?_
  cases c.transport head with
  | nv12 =>
    exact (calm_readHead head).seq fun _ => Program.Only.branch
      ((calm_readHead head).seq fun _ => (only_act (by trivial)).seq fun _ =>
        only_act (by trivial)) trivial
  | raw => trivial
  | jpegCmd => trivial
  | userJpeg => trivial

theorem calm_stopHeadActivity : Calm rules (stopHeadActivity (c := c) head) :=
  (only_act (by trivial)).seq fun _ => (only_act (by trivial)).seq fun _ =>
    (only_act (by trivial)).seq fun _ => (only_act (by trivial)).seq fun _ =>
    (only_act (by trivial)).seq fun _ => only_act (by trivial)

theorem calm_cancelHeadActivity (thread : Thread) :
    Calm rules (cancelHeadActivity (c := c) thread) := by
  have each : ∀ head, Calm rules (cancelActivityOf (c := c) thread head) := fun _ =>
    (only_act (by trivial)).seq fun _ => (only_act (by trivial)).seq fun _ =>
      (only_act (by trivial)).seq fun _ => (only_act (by trivial)).seq fun _ =>
      (only_act (by trivial)).seq fun _ => (only_act (by rintro ⟨⟩)).seq fun _ =>
        only_act (by trivial)
  exact (each .primary).seq fun _ => each .secondary

theorem calm_stopWorkqueue : Calm rules (stopWorkqueue (c := c)) :=
  calm_readDev.seq fun _ => Program.Only.branch
    ((only_act (by trivial)).seq fun _ => only_act (by trivial)) trivial

end CalmPrograms

end Follows

end Trigger6.Driver
