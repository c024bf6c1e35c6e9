/-
This file checks that the worker of the primary head follows its protocol of the
idle refresh, from the writing of a record up to the whole of a run of the
worker.
-/

import Trigger6.Driver.RefreshSteps

namespace Trigger6.Driver

open Bytes Interaction Trace

variable {c : Config}

/-! ### Parts of the worker -/

section Parts

variable {phase : WorkPhase} {Result : Type}

/-- Steps that lead the worker nowhere, from wherever it stands. -/
theorem refreshing_idle {op : Op c} (idle : op.Idle) : (refreshing c).allowed phase op ∧ ∀ answer,
    (refreshing c).possible phase op answer → (refreshing c).move phase op answer = phase := by
  cases op with
  | arm head work =>
    cases head with
    | secondary => cases phase <;> exact ⟨trivial, fun _ _ => rfl⟩
    | primary =>
      obtain rfl : work = .keepaliveTimer := idle
      cases phase <;> exact ⟨rfl, fun _ _ => rfl⟩
  | _ => first
    | exact idle.elim
    | cases phase <;> exact ⟨trivial, fun _ _ => rfl⟩

theorem stays_idle {program : Prog c Result} (idle : program.Only Op.Idle) :
    program.Stays (refreshing c) phase :=
  .of_only idle fun _ => refreshing_idle

/-- Phases between two transmissions, or before the worker has its lock. -/
def WorkPhase.Rests : WorkPhase → Prop
  | .free | .taken _ _ => True
  | _ => False

/-- Phases in which the worker may let go of its lock. -/
def WorkPhase.Closes : WorkPhase → Prop
  | .checking _ _ _ | .settled => True
  | .sending _ _ _ faulted => faulted = true
  | _ => False

/-- The steps that the rests of the senders and of the worker make. -/
def Op.Trailing : Op c → Prop
  | .read => True
  | .tune _ change => KeepsLast change
  | .arm .primary .txWork => True
  | op => op.Idle

theorem refreshing_trailing {op : Op c} (trailing : op.Trailing)
    (rests : phase = .free ∨ phase = .settled) : (refreshing c).allowed phase op ∧ ∀ answer,
      (refreshing c).possible phase op answer → (refreshing c).move phase op answer = phase := by
  cases op with
  | read | tune => rcases rests with rfl | rfl <;> exact ⟨trailing, fun _ _ => rfl⟩
  | arm head work =>
    by_cases queues : head = .primary ∧ work = .txWork
    · obtain ⟨rfl, rfl⟩ := queues
      rcases rests with rfl | rfl <;> exact ⟨trivial, fun _ _ => rfl⟩
    · refine refreshing_idle ?_
      cases head with
      | secondary => trivial
      | primary =>
        cases work with
        | txWork => exact absurd ⟨rfl, rfl⟩ queues
        | _ => exact trailing
  | _ => first
    | exact trailing.elim
    | exact refreshing_idle trailing

theorem stays_trailing {program : Prog c Result} (trailing : program.Only Op.Trailing)
    (rests : phase = .free ∨ phase = .settled) : program.Stays (refreshing c) phase :=
  .of_only trailing fun _ op => refreshing_trailing op rests

theorem trailing_count (head : HeadId) (change : HeadMetrics → HeadMetrics) :
    (count (c := c) head change).Only Op.Trailing := only_act fun _ => rfl

theorem trailing_readHead (head : HeadId) : (readHead (c := c) head).Only Op.Trailing :=
  (only_act trivial).seq fun _ => trivial

theorem trailing_rawRefreshEligible (head : HeadId) :
    (rawRefreshEligible (c := c) head).Only Op.Trailing :=
  (trailing_readHead head).seq fun _ => (trailing_readHead head).seq fun _ =>
    (only_act trivial).seq fun _ => (trailing_readHead head).seq fun _ => trivial

/-- The counters may be tuned wherever the lock may be let go. -/
theorem count_closes (head : HeadId) (change : HeadMetrics → HeadMetrics) (closes : phase.Closes) :
    (count (c := c) head change).Stays (refreshing c) phase := by
  cases phase with
  | checking | sending | settled => exact ⟨fun _ => rfl, fun _ _ => rfl⟩
  | _ => exact closes.elim

theorem recordSendError_closes (head : HeadId) (errno : Errno) (source : String)
    (closes : phase.Closes) :
    (headRecordSendError (c := c) head errno source).Stays (refreshing c) phase :=
  (count_closes head _ closes).seq fun _ => count_closes head _ closes

/-- The worker lets go of its lock. -/
theorem unlock_follows {rest : Prog c Result} {ending : WorkPhase → Result → Prop}
    (closes : phase.Closes) (follows : rest.Follows (refreshing c) ending .free) :
    (act .unlockIo >>= fun _ => rest).Follows (refreshing c) ending phase := by
  cases phase with
  | checking | settled => exact ⟨trivial, fun _ _ => follows⟩
  | sending => exact ⟨closes, fun _ _ => follows⟩
  | _ => exact closes.elim

end Parts

/-! ### Transfers -/

section Transfers

/-- A phase in which a chunk has just been submitted. -/
def WorkPhase.Sent : WorkPhase → Prop
  | .sending _ _ _ _ | .failing => True
  | _ => False

/-- Where a write ends that begins in the course of a transmission. -/
def Wrote (refresh known : Bool) (bytes : List Byte) : WorkPhase → Except Errno Unit → Prop
  | phase, .ok () => ∃ faulted, phase = .sending refresh known bytes faulted
  | phase, .error _ => phase.Closes

variable {refresh known faulted : Bool} {bytes : List Byte} {phase : WorkPhase}

theorem failBulk_closes (sent : phase.Sent) (change : DeviceMetrics → DeviceMetrics)
    (errno : Errno) : (failBulk (c := c) change errno).run.Follows (refreshing c)
      (fun phase result => result = .error errno ∧ phase.Closes) phase := by
  have latches : ∀ phase : WorkPhase, phase.Sent → (lift (latchIoError (c := c) errno)).run.Follows
      (refreshing c) (fun phase result => result = .ok () ∧ phase.Closes) phase := by
    intro phase sent
    cases phase with
    | sending | failing => exact ⟨trivial, fun _ _ => ⟨trivial, fun _ _ => ⟨rfl, by trivial⟩⟩⟩
    | _ => exact sent.elim
  refine .tryBind (.lift ((stays_idle (only_act (by trivial))).mono fun last _ same => ?_))
  rw [same]
  refine .tryBind ((latches phase sent).mono fun last result ends => ?_)
  obtain ⟨rfl, closes⟩ := ends
  exact ⟨rfl, closes⟩

/-- What follows a chunk of a transmission, which is now `sofar` long if the chunk was complete. -/
theorem chunk_wrote {outcome : Outcome} {cursor sofar total : List Byte} {chunk bound remaining : Nat}
    (possible : outcome.actual ≤ (Transfer.bulk (cursor.take chunk)).size)
    (rest : (bulkChunks (c := c) bound (cursor.drop chunk) (remaining - chunk)).run.Follows
      (refreshing c) (Wrote refresh known total) (.sending refresh known sofar faulted)) :
    (lift (act (.tuneDevice (c := c) fun metrics =>
        { metrics with bulkChunks := metrics.bulkChunks + 1 })) >>= fun _ =>
      match outcome.status with
      | some errno => failBulk (fun metrics =>
          { metrics with bulkErrors := metrics.bulkErrors + 1 }) errno
      | none =>
        if outcome.actual = chunk then bulkChunks bound (cursor.drop chunk) (remaining - chunk)
        else failBulk (fun metrics =>
          { metrics with bulkShortWrites := metrics.bulkShortWrites + 1 }) .io).run.Follows
      (refreshing c) (Wrote refresh known total)
      (if outcome.complete (.bulk (cursor.take chunk)) then .sending refresh known sofar faulted
        else .failing) := by
  have sent : WorkPhase.Sent (if outcome.complete (.bulk (cursor.take chunk)) then
      .sending refresh known sofar faulted else .failing) := by
    split <;> trivial
  have fails : ∀ change errno, (failBulk (c := c) change errno).run.Follows (refreshing c)
      (Wrote refresh known total) _ := fun change errno =>
    (failBulk_closes sent change errno).mono fun last result ends => by
      rw [ends.1]
      exact ends.2
  refine .tryBind (.lift ((stays_idle (only_act (by trivial))).mono fun last _ same => ?_))
  rw [same]
  cases status : outcome.status with
  | some errno => exact fails _ _
  | none =>
    show Program.Follows _ _ _ (ExceptT.run (if _ then _ else _))
    by_cases moved : outcome.actual = chunk
    · rw [if_pos moved, if_pos (complete_of_moved status moved possible)]
      exact rest
    · rw [if_neg moved]
      exact fails _ _

theorem bulkChunks_wrote (bound : Nat) (cursor : List Byte) (remaining : Nat)
    (enough : remaining ≤ bound) :
    (bulkChunks (c := c) bound cursor remaining).run.Follows (refreshing c)
      (Wrote refresh known (bytes ++ cursor.take remaining))
      (.sending refresh known bytes faulted) := by
  induction bound generalizing bytes faulted cursor remaining with
  | zero =>
    obtain rfl := Nat.le_zero.mp enough
    rw [List.take_zero, List.append_nil]
    exact ⟨faulted, rfl⟩
  | succ bound inductionHypothesis =>
    rw [bulkChunks]
    by_cases ended : remaining = 0
    · rw [if_pos ended, ended, List.take_zero, List.append_nil]
      exact ⟨faulted, rfl⟩
    · rw [if_neg ended]
      refine .tryBind (.lift ⟨⟨rfl, rfl, _, rfl⟩, fun submission possible => ?_⟩)
      cases submission with
      | refused => exact rfl
      | noMemory => exact possible.2.elim
      | returned outcome data =>
        refine chunk_wrote possible.1 ?_
        have positive : 0 < xferChunkSize := by decide
        rw [← Nat.add_sub_cancel' (Nat.min_le_right xferChunkSize remaining), List.take_add,
          ← List.append_assoc, Nat.add_sub_cancel' (Nat.min_le_right _ _)]
        exact inductionHypothesis _ _ (by omega)

/-- A write in the course of a transmission. -/
theorem bulkWrite_wrote (src : List Byte) (len : Nat)
    (sends : c.queryOnly = false ∧ c.manualOnly = false) :
    (bulkWrite (c := c) src len).run.Follows (refreshing c)
      (Wrote refresh known (bytes ++ src.take len)) (.sending refresh known bytes faulted) := by
  unfold bulkWrite
  rw [if_neg (by rw [sends.1]; decide)]
  refine .tryBind (.lift ⟨trivial, fun dev _ => ?_⟩)
  show Program.Follows _ _ _ (ExceptT.run (if (c.manualOnly || dev.ioFaulted) = true then _ else _))
  rw [sends.2, Bool.false_or]
  by_cases latched : dev.ioFaulted = true
  · rw [if_pos latched]
    show (faulted || dev.ioFaulted) = true
    rw [latched, Bool.or_true]
  · rw [if_neg latched]
    by_cases empty : len = 0
    · rw [if_pos empty, empty, List.take_zero, List.append_nil]
      exact ⟨_, rfl⟩
    · rw [if_neg empty]
      refine .tryBind (.lift ⟨trivial, fun dev possible => ?_⟩)
      show Program.Follows _ _ _ (ExceptT.run (if (!dev.bulkChunk) = true then _ else _))
      rw [if_neg (by rw [possible.2.1]; decide)]
      refine .tryBind (.lift ((stays_idle (only_act (by trivial))).mono fun last _ same => ?_))
      rw [same]
      exact bulkChunks_wrote len src len (Nat.le_refl len)

/-- What the worker has seen lets it begin, and still does when it has seen more. -/
def Begins (c : Config) (check : Check) (last : Option (BitVec 64)) : Prop :=
  check.refresh = true → check.Clear c last

theorem Begins.see {check : Check} {last : Option (BitVec 64)} (begins : Begins c check last)
    {dev : Dev c} {known : Bool}
    (possible : (refreshing c).possible (.checking known check last) .read dev) :
    Begins c (check.see dev) (some (dev.heads .primary).sender.rawLastSentJiffies) := by
  intro refresh
  obtain ⟨active, valid, sound, headSound, clock, rfl, late⟩ := begins refresh
  refine ⟨?_, ?_, ?_, ?_, clock, congrArg some (possible.2.2 known check clock rfl), late⟩
  · rw [Check.see, active, Bool.true_or]
  · rw [Check.see, valid, Bool.true_or]
  · rw [Check.see, sound, Bool.true_or]
  · rw [Check.see, headSound, Bool.true_or]

theorem bulkChunks_begins {check : Check} {last : Option (BitVec 64)}
    (begins : Begins c check last) (bound : Nat) (cursor : List Byte) (remaining : Nat)
    (positive : 0 < remaining) (enough : remaining ≤ bound) :
    (bulkChunks (c := c) bound cursor remaining).run.Follows (refreshing c)
      (Wrote check.refresh known (cursor.take remaining)) (.checking known check last) := by
  cases bound with
  | zero => omega
  | succ bound =>
    rw [bulkChunks, if_neg (by omega)]
    refine .tryBind (.lift ⟨⟨rfl, rfl, ⟨_, rfl⟩, begins⟩, fun submission possible => ?_⟩)
    cases submission with
    | refused => exact trivial
    | noMemory => exact possible.2.elim
    | returned outcome data =>
      refine chunk_wrote possible.1 ?_
      have chunked : 0 < xferChunkSize := by decide
      rw [← Nat.add_sub_cancel' (Nat.min_le_right xferChunkSize remaining), List.take_add,
        Nat.add_sub_cancel' (Nat.min_le_right _ _)]
      exact bulkChunks_wrote _ _ _ (by omega)

/-- A write that begins a transmission. -/
theorem bulkWrite_begins {check : Check} {last : Option (BitVec 64)} (begins : Begins c check last)
    (src : List Byte) (len : Nat) (positive : 0 < len) :
    (bulkWrite (c := c) src len).run.Follows (refreshing c)
      (fun phase result => Wrote check.refresh known (src.take len) phase result ∧
        (result = .ok () → c.queryOnly = false ∧ c.manualOnly = false))
      (.checking known check last) := by
  unfold bulkWrite
  by_cases query : c.queryOnly = true
  · rw [if_pos query]
    exact ⟨trivial, nofun⟩
  · rw [if_neg query]
    refine .tryBind (.lift ⟨trivial, fun dev possible => ?_⟩)
    have begins := begins.see possible
    show Program.Follows _ _ _
      (ExceptT.run (if (c.manualOnly || (dev : Dev c).ioFaulted) = true then _ else _))
    by_cases closed : (c.manualOnly || (dev : Dev c).ioFaulted) = true
    · rw [if_pos closed]
      exact ⟨trivial, nofun⟩
    · rw [if_neg closed, if_neg (by omega)]
      rw [Bool.or_eq_true, not_or] at closed
      refine .tryBind (.lift ⟨trivial, fun dev possible => ?_⟩)
      show Program.Follows _ _ _ (ExceptT.run (if (!(dev : Dev c).bulkChunk) = true then _ else _))
      rw [if_neg (by rw [possible.2.1]; decide)]
      refine .tryBind (.lift ((stays_idle (only_act (by trivial))).mono fun last _ same => ?_))
      rw [same]
      refine (bulkChunks_begins (begins.see possible) len src len positive (Nat.le_refl len)).mono ?_
      exact fun last result wrote =>
        ⟨wrote, fun _ => ⟨eq_false_of_ne_true query, eq_false_of_ne_true closed.1⟩⟩

theorem writeRecord_wrote (header : BulkHeader) (payload : List Byte) (len : Nat)
    (sends : c.queryOnly = false ∧ c.manualOnly = false) :
    (writeRecord (c := c) header payload len).run.Follows (refreshing c)
      (Wrote refresh known (bytes ++ (header.bytes ++ payload.take len)))
      (.sending refresh known bytes faulted) := by
  have whole : header.bytes.take sizeofBulkHeader = header.bytes :=
    List.take_of_length_le (Nat.le_of_eq header.length_bytes)
  refine .tryBind ((bulkWrite_wrote header.bytes sizeofBulkHeader sends).mono fun last result wrote => ?_)
  cases result with
  | error errno => exact wrote
  | ok =>
    obtain ⟨latched, rfl⟩ := wrote
    rw [whole, ← List.append_assoc]
    exact bulkWrite_wrote payload len sends

/-- The record a transmission begins with. -/
theorem writeRecord_begins {check : Check} {last : Option (BitVec 64)}
    (begins : Begins c check last) (header : BulkHeader) (payload : List Byte) (len : Nat) :
    (writeRecord (c := c) header payload len).run.Follows (refreshing c)
      (fun phase result => Wrote check.refresh known (header.bytes ++ payload.take len) phase result ∧
        (result = .ok () → c.queryOnly = false ∧ c.manualOnly = false))
      (.checking known check last) := by
  have whole : header.bytes.take sizeofBulkHeader = header.bytes :=
    List.take_of_length_le (Nat.le_of_eq header.length_bytes)
  refine .tryBind ((bulkWrite_begins begins header.bytes sizeofBulkHeader (by decide)).mono
    fun last result wrote => ?_)
  cases result with
  | error errno => exact ⟨wrote.1, nofun⟩
  | ok =>
    obtain ⟨⟨latched, rfl⟩, sends⟩ := wrote
    rw [whole]
    exact (bulkWrite_wrote payload len (sends rfl)).mono fun _ _ wrote => ⟨wrote, fun _ => sends rfl⟩

end Transfers

/-! ### Raw frames -/

section Frames

/-- Where the transfers of a frame end; `full` says that they were to send all of it. -/
def Transferred (c : Config) (refresh known : Bool) (full : Prop) :
    WorkPhase → Except Errno Nat → Prop
  | phase, .ok _ => ∃ bytes faulted, phase = .sending refresh known bytes faulted ∧
      (full → FullFrame c bytes)
  | phase, .error _ => phase.Closes

variable {refresh known faulted : Bool} {bytes : List Byte} {check : Check}
  {last : Option (BitVec 64)}

theorem sendRows_wrote (pixels : Frame c) (flip : FlipHeader) (ranges : List DirtyRange)
    (totalSent : Nat) (sends : c.queryOnly = false ∧ c.manualOnly = false) :
    (sendRows .primary pixels flip ranges totalSent).run.Follows (refreshing c)
      (Transferred c refresh known False) (.sending refresh known bytes faulted) := by
  induction ranges generalizing bytes faulted totalSent with
  | nil =>
    refine .tryBind ((writeRecord_wrote _ _ _ sends).mono fun last result wrote => ?_)
    cases result with
    | error errno => exact wrote
    | ok =>
      obtain ⟨latched, rfl⟩ := wrote
      exact ⟨_, latched, rfl, False.elim⟩
  | cons range rest inductionHypothesis =>
    refine .tryBind ((writeRecord_wrote _ _ _ sends).mono fun last result wrote => ?_)
    cases result with
    | error errno => exact wrote
    | ok =>
      obtain ⟨latched, rfl⟩ := wrote
      exact inductionHypothesis _

theorem sendRows_begins (begins : Begins c check last) (pixels : Frame c) (flip : FlipHeader)
    (ranges : List DirtyRange) (totalSent : Nat) :
    (sendRows .primary pixels flip ranges totalSent).run.Follows (refreshing c)
      (Transferred c check.refresh known False) (.checking known check last) := by
  cases ranges with
  | nil =>
    refine .tryBind ((writeRecord_begins begins _ _ _).mono fun last result wrote => ?_)
    cases result with
    | error errno => exact wrote.1
    | ok =>
      obtain ⟨⟨latched, rfl⟩, -⟩ := wrote
      exact ⟨_, latched, rfl, False.elim⟩
  | cons range rest =>
    refine .tryBind ((writeRecord_begins begins _ _ _).mono fun last result wrote => ?_)
    cases result with
    | error errno => exact wrote.1
    | ok =>
      obtain ⟨⟨latched, rfl⟩, sends⟩ := wrote
      exact sendRows_wrote pixels flip rest _ (sends rfl)

theorem sendFull_begins (begins : Begins c check last) (pixels : Frame c) (flip : FlipHeader) :
    (sendFull .primary pixels flip).run.Follows (refreshing c)
      (Transferred c check.refresh known True) (.checking known check last) := by
  refine .tryBind ((writeRecord_begins begins _ _ _).mono fun last result wrote => ?_)
  cases result with
  | error errno => exact wrote.1
  | ok =>
    obtain ⟨⟨latched, rfl⟩, -⟩ := wrote
    refine ⟨_, latched, rfl, fun _ => ⟨_, flip, pixels, congrArg _ (List.take_of_length_le ?_)⟩⟩
    rw [List.length_append, flip.length_bytes, pixels.length]

/-- A failure is recorded, and the lock may still be let go. -/
theorem recordingErrors_closes {source : String} {full : Prop} {phase : WorkPhase}
    {body : Fallible c Nat}
    (follows : body.run.Follows (refreshing c) (Transferred c refresh known full) phase) :
    (recordingErrors .primary source body).run.Follows (refreshing c)
      (Transferred c refresh known full) phase := by
  refine .tryCatch (follows.mono fun last result ends => ?_)
  cases result with
  | ok total => exact ends
  | error errno =>
    refine .tryBind (.lift ((recordSendError_closes .primary errno source ends).mono ?_))
    rintro _ _ rfl
    exact ends

theorem rawTransfers_begins (begins : Begins c check last) (pixels : Frame c)
    (damage : Option FrameDamage) : (rawTransfers .primary pixels damage).run.Follows (refreshing c)
      (Transferred c check.refresh known (partialRanges damage = none)) (.checking known check last) := by
  refine .tryBind (.lift ⟨trivial, fun dev possible => ?_⟩)
  have begins := begins.see possible
  beta_reduce
  cases partialRanges damage with
  | some ranges =>
    refine recordingErrors_closes ((sendRows_begins begins pixels _ ranges 0).mono ?_)
    rintro phase (errno | total) ends
    · exact ends
    · obtain ⟨bytes, latched, rfl, -⟩ := ends
      exact ⟨bytes, latched, rfl, fun same => by cases same⟩
  | none =>
    show Program.Follows _ _ _ (ExceptT.run (if _ then _ else _))
    split
    · exact trivial
    · refine recordingErrors_closes ((sendFull_begins begins pixels _).mono ?_)
      rintro phase (errno | total) ends
      · exact ends
      · obtain ⟨bytes, latched, rfl, whole⟩ := ends
        exact ⟨bytes, latched, rfl, fun _ => whole trivial⟩

theorem idle_copyRanges (head : HeadId) (pixels : Frame c) (ranges : List DirtyRange) :
    (copyRanges head pixels ranges).Only Op.Idle := by
  induction ranges with
  | nil => trivial
  | cons range rest inductionHypothesis =>
    exact (only_act (by trivial)).seq fun _ => inductionHypothesis

/-- The reference may become valid when a new frame has been sent that completes it. -/
theorem updateLastSent_follows (pixels : Frame c) (damage : Option FrameDamage)
    (partly : partialRanges damage ≠ none → known = true)
    (fully : partialRanges damage = none → FullFrame c bytes) :
    (updateLastSent .primary pixels refresh damage).Follows (refreshing c)
      (fun phase _ => (∃ latched, phase = .sending refresh known bytes latched) ∨
        phase = .kept refresh bytes) (.sending refresh known bytes faulted) := by
  refine ⟨trivial, fun dev _ => ?_⟩
  show Program.Follows _ _ _ (if _ then _ else _)
  split
  next stale =>
    have valid : (act (.setLastSentValid .primary true)).Follows (refreshing c)
        (fun phase _ => (∃ latched, phase = .sending refresh known bytes latched) ∨
          phase = .kept refresh bytes)
        (.sending refresh known bytes (faulted || dev.ioFaulted)) := by
      rw [Bool.and_eq_true, Bool.not_eq_true'] at stale
      refine ⟨⟨rfl, rfl, stale.2, ?_⟩, fun _ _ => .inr rfl⟩
      by_cases whole : partialRanges damage = none
      · exact .inr (fully whole)
      · exact .inl (partly whole)
    cases partialRanges damage with
    | some ranges =>
      refine .seq ((stays_idle (idle_copyRanges .primary pixels ranges)).mono ?_)
      rintro _ _ rfl
      exact valid
    | none =>
      refine .seq ((stays_idle (only_act (by trivial))).mono ?_)
      rintro _ _ rfl
      exact valid
  · exact .inl ⟨_, rfl⟩

/-- The clock is read, and noted as that of the last transmission. -/
theorem finishRaw_settles (pixels : Frame c) (damage : Option FrameDamage) (totalSent : Nat)
    (partly : partialRanges damage ≠ none → known = true)
    (fully : partialRanges damage = none → FullFrame c bytes) :
    (finishRaw .primary pixels refresh damage totalSent).Follows (refreshing c)
      (fun phase _ => phase = .settled) (.sending refresh known bytes faulted) := by
  have counted : (act (.tune .primary fun sender : Sender c =>
      { sender with frameSeq := (sender.frameSeq + 1) % 2 ^ 32 }) >>= fun _ =>
        countSent .primary totalSent).Only Op.Trailing :=
    (only_act fun _ => rfl).seq fun _ => trailing_count .primary _
  have settled : (rawRefreshEligible .primary >>= fun eligible => do
      if eligible then act (.arm .primary .keepaliveTimer)
      act (.tune .primary fun sender : Sender c =>
        { sender with frameSeq := (sender.frameSeq + 1) % 2 ^ 32 })
      countSent .primary totalSent).Only Op.Trailing :=
    (trailing_rawRefreshEligible .primary).seq fun _ =>
      Program.Only.branch ((only_act (by exact rfl)).seq fun _ => counted) counted
  refine .seq ((updateLastSent_follows pixels damage partly fully).mono ?_)
  rintro phase - (⟨latched, rfl⟩ | rfl)
  · exact ⟨trivial, fun env _ => ⟨⟨rfl, fun _ => rfl⟩, fun _ _ => stays_trailing settled (.inr rfl)⟩⟩
  · exact ⟨trivial, fun env _ => ⟨⟨rfl, fun _ => rfl⟩, fun _ _ => stays_trailing settled (.inr rfl)⟩⟩

/-- A frame is sent, or is found not to be needed, or fails; then the lock may be let go. -/
theorem sendFrameRaw_closes (known : Bool) (begins : Begins c check last) (pixels : Frame c) (pixelLen : Nat)
    (damage : Option FrameDamage) (partly : partialRanges damage ≠ none → known = true) :
    (sendFrameRaw .primary pixels check.refresh pixelLen damage).run.Follows (refreshing c)
      (fun phase _ => phase.Closes) (.checking known check last) := by
  have noted : ∀ phase : WorkPhase, phase.Closes →
      (lift (act (.noteSent (c := c) .primary pixels))).run.Follows (refreshing c)
        (fun phase _ => phase.Closes) phase := by
    intro phase closes
    refine .lift ((stays_idle (only_act (by trivial))).mono ?_)
    rintro _ _ rfl
    exact closes
  refine .tryBranch (fun _ => trivial) fun _ => .tryBranch (fun _ => trivial) fun _ =>
    .tryBranch (fun _ => ?_) fun _ => ?_
  · have closes : (WorkPhase.checking known check last).Closes := trivial
    refine .tryBind (.lift ((count_closes .primary _ closes).mono ?_))
    rintro _ _ rfl
    exact noted _ trivial
  · refine .tryBind ((rawTransfers_begins begins pixels damage).mono ?_)
    rintro phase (errno | total) ends
    · exact ends
    · obtain ⟨bytes, latched, rfl, fully⟩ := ends
      refine .tryBind (.lift ((finishRaw_settles pixels damage total partly fully).mono ?_))
      rintro _ _ rfl
      exact noted _ trivial

end Frames

/-! ### The refresh -/

section Refresh

variable {refresh known : Bool} {check : Check} {last : Option (BitVec 64)} {clock : BitVec 64}

/-- A read under the lock, when the time of the last transmission is known. -/
theorem read_checking {Result : Type} {ending : WorkPhase → Result → Prop}
    {rest : Dev c → Prog c Result}
    (follows : ∀ dev : Dev c, (dev.heads .primary).sender.rawLastSentJiffies = clock →
      (rest dev).Follows (refreshing c) ending (.checking known (check.see dev) (some clock))) :
    (readDev >>= rest).Follows (refreshing c) ending (.checking known check (some clock)) := by
  refine ⟨trivial, fun dev possible => ?_⟩
  have same := possible.2.2 known check clock rfl
  show Program.Follows _ _ (WorkPhase.checking known (check.see dev) (some _)) _
  rw [same]
  exact follows dev same

/-- What the worker has found when the refresh is still in order. -/
structure Check.Eligible (check : Check) : Prop where
  active : check.active = true
  valid : check.valid = true
  sound : check.sound = true
  headSound : check.headSound = true

theorem Check.Eligible.begins (eligible : check.Eligible)
    (late : timeBefore check.clock
      (clock + BitVec.ofNat 64 (c.msecsToJiffies rawIdleRefreshMs)) = false) :
    Begins c check (some clock) :=
  fun _ => ⟨eligible.active, eligible.valid, eligible.sound, eligible.headSound, clock, rfl, late⟩

theorem rawRefreshEligible_checking : (rawRefreshEligible (c := c) .primary).Follows (refreshing c)
    (fun phase eligible => ∃ seen, phase = .checking known seen (some clock) ∧
      seen.refresh = check.refresh ∧ (eligible = true → seen.Eligible))
    (.checking known check (some clock)) := by
  refine read_checking fun first _ => read_checking fun second _ => read_checking fun third _ =>
    read_checking fun fourth _ => ⟨_, rfl, rfl, fun eligible => ?_⟩
  simp only [rawRefreshAllowed, Bool.and_eq_true, Bool.not_eq_true', Bool.or_eq_false_iff] at eligible
  obtain ⟨⟨⟨⟨-, active⟩, -⟩, valid⟩, sound, headSound⟩ := eligible
  constructor
  · simp only [Check.see, active, Bool.or_true, Bool.true_or]
  · simp only [Check.see, valid, Bool.or_true, Bool.true_or]
  · simp only [Check.see, sound, Bool.not_false, Bool.or_true, Bool.true_or]
  · simp only [Check.see, headSound, Bool.not_false, Bool.or_true]

/-- The refresh goes out only when everything has been found in order, after the deadline. -/
theorem sendRefresh_closes (due : check.refresh = true) :
    (sendRefresh (c := c) .primary).run.Follows (refreshing c) (fun phase _ => phase.Closes)
      (.checking known check last) := by
  refine .tryBind (.lift ⟨trivial, fun dev _ => ?_⟩)
  refine .tryBind (.lift (rawRefreshEligible_checking.mono ?_))
  rintro phase eligible ⟨seen, rfl, same, found⟩
  refine .tryBranch (fun _ => trivial) fun allowed => ?_
  refine .tryBind (.lift ⟨trivial, fun env _ => ?_⟩)
  refine .tryBranch (fun _ => trivial) fun late => ?_
  have found : seen.Eligible := found (by
    rw [Bool.not_eq_true', Bool.not_eq_false] at allowed
    exact allowed)
  have begins : Begins c { seen with clock := env.jiffies }
      (some (dev.heads .primary).sender.rawLastSentJiffies) :=
    Check.Eligible.begins ⟨found.active, found.valid, found.sound, found.headSound⟩
      (eq_false_of_ne_true late)
  refine .tryBind (.lift ⟨trivial, fun dev possible => ?_⟩)
  dsimp only [Program.bind, Pure.pure, Program.Follows]
  cases (dev.heads .primary).lastSentFrame with
  | none => exact trivial
  | some frame =>
    have begins := begins.see possible
    have sends := sendFrameRaw_closes known begins frame c.frameSize none
      (fun partly => absurd rfl partly)
    rw [show (Check.see (c := c) { seen with clock := env.jiffies } dev).refresh = true from
      same.trans due] at sends
    refine .tryBind (sends.mono ?_)
    rintro phase (errno | sent) closes
    · exact closes
    · exact closes

theorem sendKeepalive_closes (due : check.refresh = true) :
    (sendKeepalive (c := c) .primary).run.Follows (refreshing c) (fun phase _ => phase.Closes)
      (.checking known check last) := by
  refine .tryCatch (.tryBind ((sendRefresh_closes due).mono ?_))
  rintro phase (errno | sent) closes
  · refine .tryBind (.lift ((count_closes .primary _ closes).mono ?_))
    rintro _ _ rfl
    refine .tryBind (.lift ((recordSendError_closes .primary errno "keepalive" closes).mono ?_))
    rintro _ _ rfl
    exact closes
  · refine .tryBranch (fun _ => ?_) fun _ => closes
    refine .lift ((count_closes .primary _ closes).mono ?_)
    rintro _ _ rfl
    exact closes

end Refresh

/-! ### The worker's run -/

section Run

variable {known : Bool} {popped : Popped}

/-- What has been made ready fits what the worker has taken and knows. -/
def Prepared.Fits (popped : Popped) (known : Bool) : Prepared → Prop
  | .keepalive => popped.keepaliveDue = true
  | .raw damage => popped.keepaliveDue = false ∧ (damage.fullFrame = false → known = true)
  | .encoded _ => False

theorem sendPrepared_closes {prepared : Prepared} (fits : prepared.Fits popped known)
    {check : Check} {last : Option (BitVec 64)} (same : check.refresh = popped.keepaliveDue) :
    (sendPrepared (c := c) .primary popped prepared).run.Follows (refreshing c)
      (fun phase _ => phase.Closes) (.checking known check last) := by
  cases prepared with
  | keepalive => exact sendKeepalive_closes (same.trans fits)
  | encoded len => exact fits.elim
  | raw damage =>
    refine .tryBind (.lift ⟨trivial, fun dev _ => ?_⟩)
    have fresh : (check.see dev).refresh = false := same.trans fits.1
    have begins : Begins c (check.see dev) (some (dev.heads .primary).sender.rawLastSentJiffies) :=
      fun refresh => absurd (refresh.symm.trans fresh) (by decide)
    have sends := sendFrameRaw_closes known begins
      (dev.heads .primary).queue.front.frame popped.len (some damage) fun partly => fits.2 (by
        by_contra full
        exact partly (if_pos (eq_true_of_ne_false full)))
    rw [fresh] at sends
    exact sends

theorem trailing_queueNextPendingHead : (queueNextPendingHead (c := c)).Only Op.Trailing := by
  refine (only_act trivial).seq fun next => ?_
  cases next with
  | none => trivial
  | some next =>
    refine (only_act trivial).seq fun _ => Program.Only.branch (only_act ?_) trivial
    cases next <;> trivial

theorem trailing_finishFrame : (finishFrame (c := c) .primary).Only Op.Trailing := by
  have noted : (noteCompleted (c := c) .primary).Only Op.Trailing :=
    (trailing_readHead .primary).seq fun _ => only_act (by trivial)
  exact noted.seq fun _ => trivial

theorem trip_follows {errno : Errno} {source : String} :
    (tripTransportFault (c := c) .primary errno source).Stays (refreshing c) .free := by
  refine .seq (stays_idle (only_act (by trivial))) fun tripped => ?_
  refine .ite (Program.stays_done _) (.seq (stays_idle (only_act (by trivial))) fun _ => ?_)
  refine .seq (Program.stays_perform trivial fun _ _ => rfl) fun _ => ?_
  exact stays_trailing ((only_act trivial).seq fun _ =>
    Program.Only.branch (only_act (by trivial)) trivial) (.inl rfl)

/-- The primary head never waits. -/
theorem readTxDelay_checking {check : Check} {last : Option (BitVec 64)} :
    (readTxDelay (c := c) .primary).Follows (refreshing c)
      (fun phase delay => ∃ seen last, phase = .checking known seen last ∧
        seen.refresh = check.refresh ∧ delay = (0, .none)) (.checking known check last) :=
  ⟨trivial, fun _ _ => ⟨trivial, fun _ _ => ⟨_, _, rfl, rfl, headTxDelayJiffies_raw rfl _ _⟩⟩⟩

theorem readTxDelay_taken {refresh : Bool} : (readTxDelay (c := c) .primary).Follows (refreshing c)
    (fun phase delay => ∃ known, phase = .taken refresh known ∧ delay = (0, .none))
    (.taken refresh known) :=
  ⟨trivial, fun _ _ => ⟨trivial, fun _ _ => ⟨_, rfl, headTxDelayJiffies_raw rfl _ _⟩⟩⟩

/-- Under the lock and after it. -/
theorem transmit_rests {prepared : Prepared} (fits : prepared.Fits popped known) :
    (transmit (c := c) .primary popped prepared).Follows (refreshing c)
      (fun phase _ => phase.Rests) (.taken popped.keepaliveDue known) := by
  refine .seq ⟨trivial, fun _ _ => .seq (readTxDelay_checking.mono ?_)⟩
  rintro phase delay ⟨check, last, rfl, same, rfl⟩
  refine .branch (fun waits => absurd rfl waits) fun _ => ⟨trivial, fun entered _ => ?_⟩
  refine .branch (fun _ => ?_) fun _ => ?_
  · have closes : (WorkPhase.checking known check last).Closes := trivial
    exact unlock_follows closes trivial
  · refine .seq ((sendPrepared_closes fits same).mono fun phase sent closes => unlock_follows closes ?_)
    refine ⟨trivial, fun _ _ => ⟨trivial, fun env _ => ⟨fun _ => rfl, fun _ _ => ⟨trivial, fun _ _ => ?_⟩⟩⟩⟩
    cases sent with
    | error errno =>
      refine .branch (fun _ => trip_follows.mono ?_) fun _ => by trivial
      rintro _ _ rfl
      trivial
    | ok =>
      have next : (queueNextPendingHead (c := c)).Stays (refreshing c) .free :=
        stays_trailing trailing_queueNextPendingHead (.inl rfl)
      refine .branch (fun _ => ?_) fun _ => next.mono ?_
      · refine .seq ((stays_trailing trailing_finishFrame (.inl rfl)).mono ?_)
        rintro _ _ rfl
        refine next.mono ?_
        rintro _ _ rfl
        trivial
      · rintro _ _ rfl
        trivial

/-- The damage of a frame is partial only where the reference was seen valid. -/
theorem frameDamage_follows {refresh : Bool} : (frameDamage (c := c) .primary).Follows (refreshing c)
    (fun phase damage => ∃ known, phase = .taken refresh known ∧
      (damage.fullFrame = false → known = true)) (.taken refresh known) := by
  refine ⟨trivial, fun first _ => ⟨trivial, fun second _ => ⟨trivial, fun third _ => ⟨_, rfl, ?_⟩⟩⟩⟩
  intro partly
  show (_ || (third.heads .primary).lastSentValid) = true
  unfold computeFrameDamage at partly
  split at partly
  · split at partly
    next valid => rw [valid, Bool.or_true]
    · cases partly
  · cases partly

theorem prepareFrame_follows (popped : Popped) :
    (prepareFrame (c := c) .primary popped).run.Follows (refreshing c)
      (fun phase result => ∃ known prepared, phase = .taken popped.keepaliveDue known ∧
        result = .ok (some prepared) ∧ prepared.Fits popped known)
      (.taken popped.keepaliveDue known) := by
  refine .tryBranch (fun due => ⟨known, .keepalive, rfl, rfl, due⟩) fun fresh => ?_
  refine .tryBind (.lift (frameDamage_follows.mono ?_))
  rintro phase damage ⟨known, rfl, valid⟩
  exact ⟨known, .raw damage, rfl, rfl, eq_false_of_ne_true fresh, valid⟩

/-- The primary head does not yield its turn. -/
theorem shouldYieldTurn_primary {phase : WorkPhase} :
    (shouldYieldTurn (c := c) .primary popped).Follows (refreshing c)
      (fun last yields => last = phase ∧ yields = false) phase := ⟨rfl, rfl⟩

theorem processActivity_rests (popped : Popped) :
    (processActivity (c := c) .primary popped).Follows (refreshing c)
      (fun phase _ => phase.Rests) (.taken popped.keepaliveDue false) := by
  refine .seq ⟨trivial, fun _ _ => ⟨trivial, fun _ _ => .branch (fun _ => by trivial) fun _ => ?_⟩⟩
  refine .seq (shouldYieldTurn_primary.mono ?_)
  rintro _ _ ⟨rfl, rfl⟩
  refine .branch nofun fun _ => .seq (readTxDelay_taken.mono ?_)
  rintro phase delay ⟨known, rfl, rfl⟩
  refine .branch (fun waits => absurd rfl waits) fun _ => ?_
  refine .seq ((prepareFrame_follows popped).mono ?_)
  rintro phase result ⟨known, prepared, rfl, rfl, fits⟩
  exact transmit_rests fits

/-- The worker of the primary head follows its protocol. -/
theorem frameWork_rests : (frameWork (c := c) .primary).Follows (refreshing c)
    (fun phase _ => phase.Rests) .free := by
  refine ⟨trivial, fun _ _ => ⟨trivial, fun _ _ => ⟨trivial, fun _ _ => ?_⟩⟩⟩
  refine .branch (fun _ => by trivial) fun _ => ⟨rfl, fun taken _ => ?_⟩
  cases taken with
  | none => exact ⟨trivial, fun _ _ => trivial⟩
  | some popped => exact processActivity_rests popped

end Run

end Trigger6.Driver
