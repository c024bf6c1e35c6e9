/-
This file says what one send of the secondary head does, JPEG or raw: which
command it issues for the stream it finds, what goes out on the pipe, and how it
leaves the stream. From that it follows sequences of sends, whatever the device
and the other threads do meanwhile.
-/

import Trigger6.Driver.BulkWrite

namespace Trigger6.Driver

open Bytes Interaction

variable {c : Config}

/-! ### The stream state of the secondary head -/

/-- What the senders of the secondary head go on from. -/
structure Stream where
  cursor : Nat
  slot : Nat
  frameSeq : Nat
deriving DecidableEq

def Sender.stream (sender : Sender c) : Stream where
  cursor := sender.cmdCursorAddr
  slot := sender.fbSlotIndex
  frameSeq := sender.frameSeq

def Dev.stream (dev : Dev c) : Stream := (dev.heads .secondary).sender.stream

/-- `t6_reset_head_stream_state`, for what belongs to the sender. -/
def resetHeadStreamState (head : HeadId) (sender : Sender c) : Sender c :=
  { sender with
    fbSlotIndex := if 1 < fbSlotCount c head then 1 else 0
    cmdCursorAddr := cmdBaseAddr head
    frameSeq := 0
    txLastJiffies := 0 }

/-- A command in the ring: its bucket, the step of the ring it takes, and the slot its flip
names. -/
structure Command where
  address : Nat
  size : Nat
  step : Nat
  slot : Nat
deriving DecidableEq

def Command.header (command : Command) : BulkHeader where
  payloadLength := command.size
  payloadAddress := command.address
  packetLength := command.size

/-- The stream after a command was sent. -/
def Stream.next (stream : Stream) (command : Command) : Stream where
  cursor := (command.address + command.step) % 2 ^ 32
  slot := command.slot
  frameSeq := (stream.frameSeq + 1) % 2 ^ 32

/-- The command for a record of some size that takes a step of the ring. -/
def Stream.command (c : Config) (stream : Stream) (size step : Nat) : Command where
  address := cmdAddrFor c .secondary stream.cursor step
  size := size
  step := step
  slot := nextSlot c .secondary stream.slot

/-- The command `t6_send_jpeg_blob` issues for a blob. -/
def blobCommand (c : Config) (len : Nat) (stream : Stream) : Option Command :=
  if len = 0 then none
  else
    (cmdStepFor (sizeofFlipHeader + len + jpegPaddingSize)).map fun step =>
      stream.command c (sizeofFlipHeader + len + jpegPaddingSize) step

/-- The command `t6_send_frame_raw` issues on the secondary head. -/
def frameCommand (c : Config) (damage : Option FrameDamage) (stream : Stream) : Option Command :=
  if partialRanges damage = some [] then none
  else some (stream.command c sizeofFlipHeader mebibyte)

/-! ### One send -/

/-- Neither the stream nor the bytes submitted have changed. -/
structure Still (dev after : Dev c) : Prop where
  stream : after.stream = dev.stream
  bytes : submittedBytes after.traffic = submittedBytes dev.traffic

/-- The bytes submitted since `dev` are the front of `record`, and all of it after a success,
which also moves the stream. -/
structure Pushed {Value : Type} (record : List Byte) (dev : Dev c) (moved : Stream)
    (result : Except Errno Value) (after : Dev c) : Prop where
  bytes : ∃ written rest, record = written ++ rest ∧
    submittedBytes after.traffic = submittedBytes dev.traffic ++ written ∧
    (∀ value, result = .ok value → rest = [])
  succeeded : ∀ value, result = .ok value → after.stream = moved
  failed : ∀ errno, result = .error errno → after.stream = dev.stream

/-- The effect of a send that issues a command, if it does: `lead`, then the header of the command
and its payload, which starts with a flip of the command's slot. -/
def Effect (lead : Command → List Byte) (command : Option Command) (dev : Dev c)
    (result : Except Errno Unit) (after : Dev c) : Prop :=
  match command with
  | none => Pushed [] dev dev.stream result after
  | some command => ∃ (flip : FlipHeader) (body : List Byte),
      flip.yFbOffset = slotAddr c .secondary command.slot ∧
      (flip.bytes ++ body).length = command.size ∧
      Pushed (lead command ++ (command.header.bytes ++ (flip.bytes ++ body))) dev
        (dev.stream.next command) result after

namespace Pushed

variable {Value Other : Type} {record more : List Byte} {dev mid after : Dev c} {moved : Stream}

theorem still {result : Except Errno Value} (pushed : Pushed record dev moved result mid)
    (unchanged : Still mid after) : Pushed record dev moved result after := by
  obtain ⟨written, rest, cut, bytes, done⟩ := pushed.bytes
  exact ⟨⟨written, rest, cut, unchanged.bytes.trans bytes, done⟩,
    fun value same => unchanged.stream.trans (pushed.succeeded value same),
    fun errno same => unchanged.stream.trans (pushed.failed errno same)⟩

/-- A call that ends without a transfer and without a success. -/
theorem refused (record : List Byte) (moved : Stream) (errno : Errno) (unchanged : Still dev after) :
    Pushed record dev moved (.error errno : Except Errno Value) after := by
  refine ⟨⟨[], record, rfl, ?_, nofun⟩, nofun, fun _ _ => unchanged.stream⟩
  rw [unchanged.bytes, List.append_nil]

/-- What was pushed since a state with the same stream and bytes. -/
theorem of_still {result : Except Errno Value} (unchanged : Still dev mid)
    (pushed : Pushed record mid moved result after) : Pushed record dev moved result after := by
  obtain ⟨written, rest, cut, bytes, done⟩ := pushed.bytes
  refine ⟨⟨written, rest, cut, ?_, done⟩, pushed.succeeded, fun errno same =>
    (pushed.failed errno same).trans unchanged.stream⟩
  rw [bytes, unchanged.bytes]

/-- A failure is one whatever a success would have done. -/
theorem unmoved {errno : Errno} {moved' : Stream}
    (pushed : Pushed record dev moved (.error errno : Except Errno Value) after) :
    Pushed record dev moved' (.error errno : Except Errno Other) after := by
  obtain ⟨written, rest, cut, bytes, -⟩ := pushed.bytes
  exact ⟨⟨written, rest, cut, bytes, nofun⟩, nofun, fun _ _ => pushed.failed errno rfl⟩

/-- A record that was not sent whole is not followed by more. -/
theorem broken {errno : Errno} {moved' : Stream}
    (pushed : Pushed record dev moved (.error errno : Except Errno Value) after) :
    Pushed (record ++ more) dev moved' (.error errno : Except Errno Other) after := by
  obtain ⟨written, rest, cut, bytes, -⟩ := pushed.bytes
  refine ⟨⟨written, rest ++ more, ?_, bytes, nofun⟩, nofun, fun _ _ => pushed.failed errno rfl⟩
  rw [cut, List.append_assoc]

/-- A record that was sent whole, and what was sent after it. -/
theorem append {value : Value} {result : Except Errno Other}
    (first : Pushed record dev dev.stream (.ok value) mid)
    (second : Pushed more mid moved result after) :
    Pushed (record ++ more) dev moved result after := by
  obtain ⟨written, rest, cut, bytes, done⟩ := first.bytes
  obtain ⟨further, left, cutMore, moreBytes, doneMore⟩ := second.bytes
  obtain rfl := done value rfl
  rw [List.append_nil] at cut
  refine ⟨⟨written ++ further, left, ?_, ?_, doneMore⟩, second.succeeded, fun errno same =>
    (second.failed errno same).trans (first.succeeded value rfl)⟩
  · rw [cut, cutMore, List.append_assoc]
  · rw [moreBytes, bytes, List.append_assoc]

/-- The stream is moved after the record was sent whole. -/
theorem move {value : Value} {other : Other} {before : Stream}
    (pushed : Pushed record dev before (.ok value) mid) (stream : after.stream = moved)
    (bytes : submittedBytes after.traffic = submittedBytes mid.traffic) :
    Pushed record dev moved (.ok other) after := by
  obtain ⟨written, rest, cut, submitted, done⟩ := pushed.bytes
  exact ⟨⟨written, rest, cut, bytes.trans submitted, fun _ _ => done value rfl⟩, fun _ _ => stream,
    nofun⟩

end Pushed

/-- A record as a send submits it. -/
theorem writeRecord_pushed (thread : Thread) {dev : Dev c} (header : BulkHeader)
    {payload : List Byte} {len : Nat} (present : len ≤ payload.length) :
    Ends (disturbed thread) (Pushed (header.bytes ++ payload.take len) dev dev.stream)
      (writeRecord header payload len).run dev := by
  refine (writeRecord_ends thread header present dev).mono fun result after submits => ?_
  obtain ⟨written, rest, cut, bytes, done⟩ := submits.front
  have stream : after.stream = dev.stream := by
    rw [Dev.stream, submits.heads, Dev.stream]
  exact ⟨⟨written, rest, cut, bytes, fun value same => done same⟩, fun _ _ => stream,
    fun _ _ => stream⟩

section Steps

variable {thread : Thread} {dev : Dev c}

theorem Still.refl (dev : Dev c) : Still dev dev := ⟨rfl, rfl⟩

theorem Still.trans {next after : Dev c} (first : Still dev next) (second : Still next after) :
    Still dev after :=
  ⟨second.stream.trans first.stream, second.bytes.trans first.bytes⟩

theorem still_latched (dev : Dev c) (other : Bool) : Still dev (dev.latched other) := by
  refine ⟨?_, ?_⟩
  · rw [Dev.stream, latched_heads, Dev.stream]
  · rw [submittedBytes, bulkSubmissions_latched, submittedBytes]

/-- A head is read as it is. -/
theorem readHead_ends (head : HeadId) :
    Ends (disturbed thread) (fun state after => state = dev.heads head ∧ after.heads = dev.heads ∧
      Still dev after) (readHead head) dev := by
  intro input
  refine ⟨_, _, rfl, ?_, latched_heads dev input.1, still_latched dev input.1⟩
  rw [latched_heads]

/-- A change of a head's bookkeeping moves the stream as it moves that of the sender. -/
theorem stream_tune (held : Dev c) (head : HeadId) (change : Sender c → Sender c) :
    (held.setHead head fun state => { state with sender := change state.sender }).stream =
      if head = .secondary then (change (held.heads .secondary).sender).stream else held.stream := by
  rw [Dev.stream, Dev.stream]
  cases head with
  | primary =>
    rw [Dev.setHead_other _ _ _ _ (by decide)]
    rfl
  | secondary =>
    rw [Dev.setHead_self]
    rfl

/-- A program that ends and moves neither the stream nor the bytes submitted. -/
def KeepsStream {Result : Type} (program : Prog c Result) : Prop :=
  ∀ (thread : Thread) (dev : Dev c),
    Ends (disturbed thread) (fun _ after => Still dev after) program dev

theorem keeps_pure {Result : Type} (result : Result) : KeepsStream (c := c) (pure result) :=
  fun _ dev => Still.refl dev

theorem KeepsStream.seq {First Second : Type} {program : Prog c First}
    {rest : First → Prog c Second} (first : KeepsStream program)
    (second : ∀ result, KeepsStream (rest result)) : KeepsStream (program >>= rest) :=
  fun thread dev => Ends.seq ((first thread dev).mono fun result between still =>
    (second result thread between).mono fun _ _ => still.trans)

theorem KeepsStream.branch {Result : Type} {condition : Prop} [Decidable condition]
    {yes no : Prog c Result} (first : KeepsStream yes) (second : KeepsStream no) :
    KeepsStream (if condition then yes else no) := by
  split
  · exact first
  · exact second

theorem keeps_tune (head : HeadId) {change : Sender c → Sender c}
    (keeps : ∀ sender, (change sender).stream = sender.stream) :
    KeepsStream (act (.tune head change)) := by
  intro thread dev input
  refine ⟨_, _, rfl, (still_latched dev input.1).trans ⟨?_, rfl⟩⟩
  rw [stream_tune, keeps]
  exact ite_self _

theorem keeps_ask : KeepsStream (c := c) (act .ask) :=
  fun _ dev input => ⟨_, _, rfl, still_latched dev input.1⟩

theorem keeps_readHead (head : HeadId) : KeepsStream (c := c) (readHead head) :=
  fun _ _ => (readHead_ends head).mono fun _ _ holds => holds.2.2

theorem keeps_arm (head : HeadId) (work : Work) : KeepsStream (c := c) (act (.arm head work)) := by
  intro thread dev input
  refine ⟨_, _, rfl, (still_latched dev input.1).trans ⟨?_, rfl⟩⟩
  cases head with
  | primary => rfl
  | secondary => rfl

theorem keeps_count (head : HeadId) (change : HeadMetrics → HeadMetrics) :
    KeepsStream (c := c) (count head change) :=
  keeps_tune head fun _ => rfl

theorem keeps_readDev : KeepsStream (c := c) readDev :=
  fun _ dev input => ⟨_, _, rfl, still_latched dev input.1⟩

theorem keeps_storeBlob (head : HeadId) (payload : List Byte)
    (small : payload.length + sizeofFlipHeader + jpegPaddingSize < 2 ^ 32) :
    KeepsStream (c := c) (storeBlob head payload small) := by
  refine (keeps_readHead head).seq fun state => ?_
  have store : KeepsStream (c := c) (act (.tune head fun sender =>
    { sender with cache := sender.cache.store payload small })) := keeps_tune head fun _ => rfl
  have allocate : ∀ env : Env, KeepsStream (c := c) (act (.tune head fun sender =>
      { sender with cache := .allocate env.allocated payload.length })) :=
    fun env => keeps_tune head fun _ => rfl
  exact KeepsStream.branch (keeps_ask.seq fun env => (allocate env).seq fun _ => store) store

theorem keeps_headRecordSendError (head : HeadId) (errno : Errno) (source : String) :
    KeepsStream (c := c) (headRecordSendError head errno source) :=
  (keeps_count head _).seq fun _ => keeps_count head _

theorem keeps_rawRefreshEligible (head : HeadId) :
    KeepsStream (c := c) (rawRefreshEligible head) :=
  (keeps_readHead head).seq fun _ => (keeps_readHead head).seq fun _ =>
    keeps_readDev.seq fun _ => (keeps_readHead head).seq fun _ => keeps_pure _

/-- A change of a head that is not one of its sender. -/
theorem stream_setHead (held : Dev c) (head : HeadId) {change : HeadState c → HeadState c}
    (keeps : ∀ state, (change state).sender = state.sender) :
    (held.setHead head change).stream = held.stream := by
  rw [Dev.stream, Dev.stream]
  cases head with
  | primary => rw [Dev.setHead_other _ _ _ _ (by decide)]
  | secondary => rw [Dev.setHead_self, keeps]

theorem keeps_copyLastSent (head : HeadId) (offset : Nat) (block : List Byte) :
    KeepsStream (c := c) (act (.copyLastSent head offset block)) :=
  fun _ dev input => ⟨_, _, rfl, (still_latched dev input.1).trans
    ⟨stream_setHead _ head fun _ => rfl, rfl⟩⟩

theorem keeps_setLastSentValid (head : HeadId) (valid : Bool) :
    KeepsStream (c := c) (act (.setLastSentValid head valid)) :=
  fun _ dev input => ⟨_, _, rfl, (still_latched dev input.1).trans
    ⟨stream_setHead _ head fun _ => rfl, rfl⟩⟩

theorem keeps_copyRanges (head : HeadId) (pixels : Frame c) (ranges : List DirtyRange) :
    KeepsStream (copyRanges head pixels ranges) := by
  induction ranges with
  | nil => exact keeps_pure ()
  | cons range rest inductionHypothesis =>
    exact (keeps_copyLastSent head _ _).seq fun _ => inductionHypothesis

theorem keeps_updateLastSent (head : HeadId) (pixels : Frame c) (isLastSent : Bool)
    (damage : Option FrameDamage) :
    KeepsStream (updateLastSent head pixels isLastSent damage) := by
  refine (keeps_readHead head).seq fun state => KeepsStream.branch ?_ (keeps_pure ())
  cases partialRanges damage with
  | none => exact (keeps_copyLastSent head _ _).seq fun _ => keeps_setLastSentValid head true
  | some ranges =>
    exact (keeps_copyRanges head pixels ranges).seq fun _ => keeps_setLastSentValid head true

/-- A change of the stream, in a state that still had the stream of `dev`. -/
theorem tune_ends (thread : Thread) {dev held : Dev c} (still : Still dev held)
    {change : Sender c → Sender c} {stream : Stream}
    (moves : ∀ sender, sender.stream = dev.stream → (change sender).stream = stream) :
    Ends (disturbed thread)
      (fun _ after => after.stream = stream ∧
        submittedBytes after.traffic = submittedBytes dev.traffic)
      (act (.tune .secondary change)) held := by
  intro input
  have latched := still.trans (still_latched held input.1)
  refine ⟨_, _, rfl, ?_, latched.bytes⟩
  rw [stream_tune, if_pos rfl]
  exact moves _ latched.stream

/-- A program that keeps the stream, before the rest. -/
theorem KeepsStream.first {First Second : Type} {program : Prog c First}
    {rest : First → Prog c Second} (keeps : KeepsStream program) {thread : Thread}
    {dev held : Dev c} (still : Still dev held) {post : Second → Dev c → Prop}
    (then_ : ∀ result after, Still dev after → Ends (disturbed thread) post (rest result) after) :
    Ends (disturbed thread) post (program >>= rest) held :=
  Ends.seq ((keeps thread held).mono fun result after more => then_ result after (still.trans more))

/-- What a program that keeps the stream leaves of a moved one. -/
theorem KeepsStream.after {Result : Type} {program : Prog c Result} (keeps : KeepsStream program)
    (thread : Thread) {dev : Dev c} {stream : Stream} {bytes : List Byte}
    (moved : dev.stream = stream ∧ submittedBytes dev.traffic = bytes) :
    Ends (disturbed thread)
      (fun _ after => after.stream = stream ∧ submittedBytes after.traffic = bytes) program dev :=
  (keeps thread dev).mono fun _ _ still =>
    ⟨still.stream.trans moved.1, still.bytes.trans moved.2⟩

/-- After a raw frame of the secondary head its number has gone up. -/
theorem finishRaw_ends (thread : Thread) (dev : Dev c) (pixels : Frame c) (isLastSent : Bool)
    (damage : Option FrameDamage) (totalSent : Nat) :
    Ends (disturbed thread) (fun _ after =>
        after.stream = { dev.stream with frameSeq := (dev.stream.frameSeq + 1) % 2 ^ 32 } ∧
        submittedBytes after.traffic = submittedBytes dev.traffic)
      (finishRaw .secondary pixels isLastSent damage totalSent) dev := by
  have counted : ∀ held, Still dev held → Ends (disturbed thread) (fun _ after =>
      after.stream = { dev.stream with frameSeq := (dev.stream.frameSeq + 1) % 2 ^ 32 } ∧
        submittedBytes after.traffic = submittedBytes dev.traffic)
      (act (.tune .secondary fun sender =>
        { sender with frameSeq := (sender.frameSeq + 1) % 2 ^ 32 }) >>= fun _ =>
          countSent .secondary totalSent) held := by
    intro held still
    refine Ends.seq ((tune_ends thread still fun sender same => ?_).mono fun _ _ moved =>
      (keeps_count .secondary _).after thread moved)
    rw [← same]
    rfl
  have stamped : ∀ env : Env, KeepsStream (c := c) (act (.tune .secondary fun sender =>
    { sender with rawLastSentJiffies := env.jiffies })) := fun env => keeps_tune .secondary fun _ => rfl
  refine (keeps_updateLastSent .secondary pixels isLastSent damage).first (.refl dev) ?_
  intro _ updated still
  refine keeps_ask.first still fun env asked still => ?_
  refine (stamped env).first still fun _ tuned still => ?_
  refine (keeps_rawRefreshEligible .secondary).first still fun eligible decided still => ?_
  show Ends _ _ (if eligible then _ else _) _
  split
  · exact (keeps_arm .secondary .keepaliveTimer).first still fun _ => counted
  · exact counted decided still

/-- Recording an error leaves the effect of a send. -/
theorem recordingErrors_pushed {Value : Type} {thread : Thread} {dev held : Dev c}
    {record : List Byte} {moved : Stream} {body : Fallible c Value} (head : HeadId) (source : String)
    (ends : Ends (disturbed thread) (Pushed record dev moved) body.run held) :
    Ends (disturbed thread) (Pushed record dev moved) (recordingErrors head source body).run held := by
  refine Ends.tryCatch (ends.mono fun result mid pushed => ?_)
  cases result with
  | ok value => exact pushed
  | error errno =>
    exact Ends.liftBind ((keeps_headRecordSendError head errno source thread mid).mono
      fun _ _ still => pushed.still still)

end Steps

/-! ### Raw frames -/

/-- The frame that goes to a slot before its command. -/
def frameLead (pixels : Frame c) (command : Command) : List Byte :=
  BulkHeader.bytes
    { payloadLength := c.frameSize
      payloadAddress := slotAddr c .secondary command.slot
      packetLength := c.frameSize } ++ pixels.bytes

section Raw

variable {thread : Thread} {dev : Dev c}

theorem sendSlot_pushed (pixels : Frame c) {sender : Sender c} (same : sender.stream = dev.stream) :
    let command := dev.stream.command c sizeofFlipHeader mebibyte
    let flip := rawFlipHeader c .secondary dev.stream.frameSeq (slotAddr c .secondary command.slot)
    Ends (disturbed thread)
      (Pushed (frameLead pixels command ++ (command.header.bytes ++ flip.bytes)) dev
        { dev.stream.next command with frameSeq := dev.stream.frameSeq })
      (sendSlot .secondary pixels sender).run dev := by
  intro command flip
  have cursor : sender.cmdCursorAddr = dev.stream.cursor := congrArg Stream.cursor same
  have slot : sender.fbSlotIndex = dev.stream.slot := congrArg Stream.slot same
  have frameSeq : sender.frameSeq = dev.stream.frameSeq := congrArg Stream.frameSeq same
  unfold sendSlot
  rw [cursor, slot, frameSeq]
  refine Ends.tryBind ((writeRecord_pushed thread _ pixels.length.ge).mono
    fun result between first => ?_)
  rw [List.take_of_length_le pixels.length.le] at first
  cases result with
  | error errno => exact first.broken
  | ok value =>
    refine Ends.tryBind ((writeRecord_pushed thread _ (FlipHeader.length_bytes flip).ge).mono
      fun result after second => ?_)
    rw [List.take_of_length_le (FlipHeader.length_bytes flip).le] at second
    cases result with
    | error errno => exact (first.append second).unmoved
    | ok value =>
      have whole := first.append second
      have still : after.stream = dev.stream :=
        (second.succeeded _ rfl).trans (first.succeeded _ rfl)
      refine Ends.liftBind ((tune_ends thread (.refl after) fun sender same => ?_).mono
        fun _ last moved => whole.move moved.1 moved.2)
      have number : sender.frameSeq = dev.stream.frameSeq :=
        congrArg Stream.frameSeq (same.trans still)
      rw [← number]
      rfl

/-- The transfers of a raw frame on the secondary head. -/
theorem rawTransfers_pushed (pixels : Frame c) (damage : Option FrameDamage) :
    let command := dev.stream.command c sizeofFlipHeader mebibyte
    let flip := rawFlipHeader c .secondary dev.stream.frameSeq (slotAddr c .secondary command.slot)
    Ends (disturbed thread)
      (Pushed (frameLead pixels command ++ (command.header.bytes ++ flip.bytes)) dev
        { dev.stream.next command with frameSeq := dev.stream.frameSeq })
      (rawTransfers .secondary pixels damage).run dev := by
  intro command flip
  refine Ends.liftBind ((readHead_ends .secondary).mono ?_)
  rintro state between ⟨rfl, heads, still⟩
  have same : (dev.heads .secondary).sender.stream = between.stream := still.stream.symm
  have slot := recordingErrors_pushed .secondary "raw"
    (@sendSlot_pushed c thread between pixels _ same)
  have supplied : Ends (disturbed thread)
      (Pushed (frameLead pixels command ++ (command.header.bytes ++ flip.bytes)) dev
        { dev.stream.next command with frameSeq := dev.stream.frameSeq })
      (do
        if !(dev.heads .secondary).sender.videoStaging then throw .noMemory
        recordingErrors .secondary "raw" (sendSlot .secondary pixels
          (dev.heads .secondary).sender) : Fallible c Nat).run between := by
    by_cases missing : (!(dev.heads .secondary).sender.videoStaging) = true
    · rw [if_pos missing]
      exact Pushed.refused _ _ _ still
    · rw [if_neg missing]
      rw [still.stream] at slot
      exact slot.mono fun _ _ pushed => pushed.of_still still
  cases partialRanges damage with
  | none => exact supplied
  | some ranges => exact supplied

theorem keeps_noteSent (head : HeadId) (pixels : Frame c) :
    KeepsStream (c := c) (act (.noteSent head pixels)) :=
  fun _ dev input => ⟨_, _, rfl, (still_latched dev input.1).trans ⟨rfl, rfl⟩⟩

/-- A call that has pushed nothing. -/
theorem effect_refused (lead : Command → List Byte) {command : Option Command}
    (sized : ∀ issued, command = some issued → sizeofFlipHeader ≤ issued.size) {after : Dev c}
    (still : Still dev after) (errno : Errno) : Effect lead command dev (.error errno) after := by
  cases command with
  | none => exact Pushed.refused _ _ _ still
  | some issued =>
    have length := sized issued rfl
    refine ⟨rawFlipHeader c .secondary 0 (slotAddr c .secondary issued.slot),
      List.replicate (issued.size - sizeofFlipHeader) 0, rfl, ?_, Pushed.refused _ _ _ still⟩
    rw [List.length_append, FlipHeader.length_bytes, List.length_replicate]
    omega

/-- A raw frame on the secondary head. -/
theorem sendFrameRaw_effect (pixels : Frame c) (isLastSent : Bool) (pixelLen : Nat)
    (damage : Option FrameDamage) :
    Ends (disturbed thread)
      (Effect (frameLead pixels) (frameCommand c damage dev.stream) dev)
      (sendFrameRaw .secondary pixels isLastSent pixelLen damage).run dev := by
  have sized : ∀ issued, frameCommand c damage dev.stream = some issued →
      sizeofFlipHeader ≤ issued.size := by
    intro issued same
    rw [frameCommand] at same
    split at same
    · cases same
    · rw [← Option.some.inj same]
      exact le_rfl
  unfold sendFrameRaw
  by_cases connected : (!c.connected .secondary) = true
  · rw [if_pos connected]
    exact effect_refused _ sized (.refl dev) _
  · rw [if_neg connected]
    by_cases short : pixelLen < c.frameSize
    · rw [if_pos short]
      exact effect_refused _ sized (.refl dev) _
    · rw [if_neg short]
      by_cases skipped : partialRanges damage = some []
      · rw [frameCommand, if_pos skipped, if_pos skipped]
        refine Ends.liftBind ((keeps_count .secondary _ thread dev).mono fun _ counted still => ?_)
        refine Ends.lift ((keeps_noteSent .secondary pixels thread counted).mono
          fun _ after more => ?_)
        have unchanged := still.trans more
        refine ⟨⟨[], [], rfl, ?_, fun _ _ => rfl⟩, fun _ _ => unchanged.stream, nofun⟩
        rw [unchanged.bytes, List.append_nil]
      · rw [frameCommand, if_neg skipped, if_neg skipped]
        refine Ends.tryBind ((rawTransfers_pushed pixels damage).mono fun result between pushed => ?_)
        have length : ∀ flip : FlipHeader, (flip.bytes ++ []).length = sizeofFlipHeader := by
          intro flip
          rw [List.append_nil, FlipHeader.length_bytes]
        cases result with
        | error errno =>
          refine ⟨rawFlipHeader c .secondary dev.stream.frameSeq _, [], rfl, length _, ?_⟩
          rw [List.append_nil]
          exact pushed.unmoved
        | ok totalSent =>
          refine Ends.liftBind ((finishRaw_ends thread between pixels isLastSent damage
            totalSent).mono fun _ finished moved => ?_)
          refine Ends.lift ((keeps_noteSent .secondary pixels).after thread moved |>.mono
            fun _ after last => ?_)
          refine ⟨rawFlipHeader c .secondary dev.stream.frameSeq _, [], rfl, length _, ?_⟩
          rw [List.append_nil]
          refine pushed.move (last.1.trans ?_) last.2
          rw [pushed.succeeded _ rfl]
          rfl

end Raw

/-! ### JPEG blobs -/

section Blob

variable {thread : Thread} {dev : Dev c}

/-- The staging buffer with a blob starts with the flip header. -/
theorem placeBlob_bytes (staging : Buffer jpegStagingSize) (source : BlobSource) (len : Nat)
    (flip : FlipHeader) : ∃ body, (placeBlob staging source len flip).bytes = flip.bytes ++ body := by
  have fits : 0 + flip.bytes.length ≤ jpegStagingSize := by
    rw [FlipHeader.length_bytes, jpegStagingSize_eq]
    decide
  unfold placeBlob
  rw [Buffer.copy, dif_pos fits]
  exact ⟨_, rfl⟩

theorem take_flip (flip : FlipHeader) (body : List Byte) (count : Nat) :
    (flip.bytes ++ body).take (sizeofFlipHeader + count) = flip.bytes ++ body.take count := by
  rw [← FlipHeader.length_bytes flip, List.take_length_add_append]

/-- The flip header of a blob. -/
def blobFlip (sender : Sender c) (cmdStep len : Nat) : FlipHeader :=
  jpegFlipHeader c .secondary len (slotAddr c .secondary (nextSlot c .secondary sender.fbSlotIndex))
    (if decide (sender.frameSeq < 10) || cmdWraps c .secondary sender.cmdCursorAddr cmdStep
      then flagReset else 0)

/-- A blob that fits a step of the ring. -/
theorem sendStagedBlob_effect {sender : Sender c} {held : Dev c} (still : Still dev held)
    (same : sender.stream = dev.stream) (staging : Buffer jpegStagingSize) (cmdStep : Nat)
    (source : BlobSource) (len : BlobLength) :
    Ends (disturbed thread)
      (Effect (fun _ => []) (some (dev.stream.command c
        (sizeofFlipHeader + len.val + jpegPaddingSize) cmdStep)) dev)
      (sendStagedBlob .secondary sender staging cmdStep source len).run held := by
  have issues : dev.stream.command c (sizeofFlipHeader + len.val + jpegPaddingSize) cmdStep =
      sender.stream.command c (sizeofFlipHeader + len.val + jpegPaddingSize) cmdStep := by
    rw [same]
  rw [issues]
  unfold sendStagedBlob
  by_cases large : jpegStagingSize < sizeofFlipHeader + len.val + jpegPaddingSize
  · rw [if_pos large]
    refine effect_refused _ (fun issued same => ?_) still _
    rw [← Option.some.inj same]
    exact (Nat.le_add_right _ _).trans (Nat.le_add_right _ _)
  · rw [if_neg large]
    have prepared : ∀ staged, KeepsStream (c := c) (act (.tune .secondary fun sender =>
      { sender with jpegStaging := some staged })) := fun staged => keeps_tune .secondary fun _ => rfl
    refine Ends.liftBind ((prepared _ thread held).mono fun _ ready more => ?_)
    have readyStill := still.trans more
    obtain ⟨body, staged⟩ := placeBlob_bytes staging source len.val (blobFlip sender cmdStep len.val)
    have present : sizeofFlipHeader + len.val + jpegPaddingSize ≤
        (placeBlob staging source len.val (blobFlip sender cmdStep len.val)).bytes.length := by
      rw [Buffer.length]
      exact Nat.not_lt.mp large
    have sized : ((blobFlip sender cmdStep len.val).bytes ++
        body.take (len.val + jpegPaddingSize)).length =
          sizeofFlipHeader + len.val + jpegPaddingSize := by
      rw [staged, List.length_append, FlipHeader.length_bytes] at present
      rw [List.length_append, FlipHeader.length_bytes, List.length_take]
      omega
    have payload : (placeBlob staging source len.val (blobFlip sender cmdStep len.val)).bytes.take
        (sizeofFlipHeader + len.val + jpegPaddingSize) =
          (blobFlip sender cmdStep len.val).bytes ++ body.take (len.val + jpegPaddingSize) := by
      rw [staged, Nat.add_assoc]
      exact take_flip _ _ _
    refine Ends.tryBind ((writeRecord_pushed thread _ present).mono fun result sent first => ?_)
    rw [payload] at first
    have pushed := first.of_still readyStill
    cases result with
    | error errno => exact ⟨blobFlip sender cmdStep len.val, _, rfl, sized, pushed.unmoved⟩
    | ok value =>
      have stream : sent.stream = dev.stream := (first.succeeded _ rfl).trans readyStill.stream
      refine Ends.liftBind ((@tune_ends c thread sent sent (.refl sent) _
        (dev.stream.next (sender.stream.command c (sizeofFlipHeader + len.val + jpegPaddingSize)
          cmdStep)) fun before unmoved => ?_).mono fun _ counted moved => ?_)
      · have number : before.frameSeq = dev.stream.frameSeq :=
          congrArg Stream.frameSeq (unmoved.trans stream)
        show Stream.mk _ _ ((before.frameSeq + 1) % 2 ^ 32) = _
        rw [number]
        rfl
      · refine Ends.liftBind (((keeps_count .secondary _).after thread moved).mono
          fun _ stored moved => ?_)
        refine Ends.liftBind (((keeps_storeBlob .secondary _ _).after thread moved).mono
          fun _ armed moved => ?_)
        refine Ends.lift (((keeps_arm .secondary .keepaliveTimer).after thread moved).mono
          fun _ last moved => ?_)
        exact ⟨blobFlip sender cmdStep len.val, _, rfl, sized, pushed.move moved.1 moved.2⟩

/-- A JPEG blob on the secondary head. -/
theorem sendJpegBlob_effect (source : BlobSource) (len : BlobLength) :
    Ends (disturbed thread) (Effect (fun _ => []) (blobCommand c len.val dev.stream) dev)
      (sendJpegBlob .secondary source len).run dev := by
  unfold sendJpegBlob
  by_cases empty : len.val = 0
  · rw [if_pos empty]
    refine effect_refused _ (fun issued same => ?_) (.refl dev) _
    rw [blobCommand, if_pos empty] at same
    cases same
  · rw [if_neg empty, blobCommand, if_neg empty]
    refine Ends.liftBind ((readHead_ends .secondary).mono ?_)
    rintro state between ⟨rfl, heads, still⟩
    cases step : cmdStepFor (sizeofFlipHeader + len.val + jpegPaddingSize) with
    | none =>
      refine effect_refused _ (fun issued same => ?_) still _
      rw [Option.map_none] at same
      cases same
    | some cmdStep =>
      cases staged : (dev.heads .secondary).sender.jpegStaging with
      | none =>
        refine effect_refused _ (fun issued same => ?_) still _
        rw [← Option.some.inj same]
        exact (Nat.le_add_right _ _).trans (Nat.le_add_right _ _)
      | some staging => exact sendStagedBlob_effect still rfl staging cmdStep source len

end Blob

/-! ### Sequences of sends -/

/-- A function that sends, with the command it issues for an input and what goes out before it. -/
structure CommandSender (c : Config) (Input : Type) where
  send : Input → Fallible c Unit
  command : Input → Stream → Option Command
  lead : Input → Command → List Byte
  effect : ∀ (thread : Thread) (dev : Dev c) (input : Input),
    Ends (disturbed thread) (Effect (lead input) (command input dev.stream) dev) (send input).run dev

/-- The arguments of `t6_send_frame_raw`. -/
structure RawFrame (c : Config) where
  pixels : Frame c
  isLastSent : Bool
  pixelLen : Nat
  damage : Option FrameDamage

def blobSender (c : Config) : CommandSender c (BlobSource × BlobLength) where
  send := fun input => sendJpegBlob .secondary input.1 input.2
  command := fun input => blobCommand c input.2.val
  lead := fun _ _ => []
  effect := fun _ _ input => sendJpegBlob_effect input.1 input.2

def frameSender (c : Config) : CommandSender c (RawFrame c) where
  send := fun input =>
    sendFrameRaw .secondary input.pixels input.isLastSent input.pixelLen input.damage
  command := fun input => frameCommand c input.damage
  lead := fun input => frameLead input.pixels
  effect := fun _ _ input =>
    sendFrameRaw_effect input.pixels input.isLastSent input.pixelLen input.damage

/-- One call of a sender. -/
structure Attempt (c : Config) (Input : Type) where
  before : Dev c
  input : Input
  result : Except Errno Unit
  after : Dev c

namespace CommandSender

variable {Input : Type} (sender : CommandSender c Input)

/-- Calls one after the other, each with what the outside does meanwhile. -/
def run (thread : Thread) : Dev c → List (Input × (Nat → Bool × Env)) → List (Attempt c Input)
  | _, [] => []
  | dev, (input, script) :: rest =>
    match (sender.send input).run.eval (disturbed thread) dev script with
    | none => []
    | some (result, after) => ⟨dev, input, result, after⟩ :: run thread after rest

/-- The command of a call. -/
def issued (attempt : Attempt c Input) : Option Command :=
  sender.command attempt.input attempt.before.stream

/-- The call sent its command. -/
def Sends (attempt : Attempt c Input) (command : Command) : Prop :=
  sender.issued attempt = some command ∧ attempt.result = .ok ()

/-- Calls of which each starts where the one before it ended. -/
def Linked : Dev c → List (Attempt c Input) → Prop
  | _, [] => True
  | dev, attempt :: rest => attempt.before = dev ∧
    Effect (sender.lead attempt.input) (sender.issued attempt) attempt.before attempt.result
      attempt.after ∧
    Linked attempt.after rest

/-- Every call comes to its end. -/
theorem run_linked (thread : Thread) (calls : List (Input × (Nat → Bool × Env))) (dev : Dev c) :
    (sender.run thread dev calls).map Attempt.input = calls.map Prod.fst ∧
      sender.Linked dev (sender.run thread dev calls) := by
  induction calls generalizing dev with
  | nil => exact ⟨rfl, trivial⟩
  | cons call rest inductionHypothesis =>
    obtain ⟨result, after, ran, effect⟩ := (sender.effect thread dev call.1).eval call.2
    obtain ⟨inputs, linked⟩ := inductionHypothesis after
    rw [run, ran]
    exact ⟨by rw [List.map_cons, List.map_cons, inputs], rfl, effect, linked⟩

/-- The stream after a call: that of its command if it was sent, and the same otherwise. -/
theorem stream_after {attempt : Attempt c Input}
    (effect : Effect (sender.lead attempt.input) (sender.issued attempt) attempt.before
      attempt.result attempt.after) :
    (∃ command, sender.Sends attempt command ∧
      attempt.after.stream = attempt.before.stream.next command) ∨
    (∀ command, ¬ sender.Sends attempt command) ∧ attempt.after.stream = attempt.before.stream := by
  cases issued : sender.issued attempt with
  | none =>
    rw [issued] at effect
    refine .inr ⟨fun command sends => ?_, ?_⟩
    · rw [Sends, issued] at sends
      exact nomatch sends.1
    · cases result : attempt.result with
      | ok value => exact effect.succeeded value result
      | error errno => exact effect.failed errno result
  | some command =>
    rw [issued] at effect
    obtain ⟨flip, body, -, -, pushed⟩ := effect
    cases result : attempt.result with
    | ok value => exact .inl ⟨command, ⟨issued, result⟩, pushed.succeeded value result⟩
    | error errno =>
      refine .inr ⟨fun other sends => ?_, pushed.failed errno result⟩
      rw [Sends, result] at sends
      exact nomatch sends.2

variable {sender}

/-- A property of streams that holds at the start and of every stream after a command holds
throughout. -/
theorem Linked.invariant {kept : Stream → Prop}
    (step : ∀ stream input command, kept stream → sender.command input stream = some command →
      kept (stream.next command))
    {attempts : List (Attempt c Input)} {dev : Dev c} (linked : sender.Linked dev attempts)
    (start : kept dev.stream) :
    ∀ attempt ∈ attempts, kept attempt.before.stream ∧
      Effect (sender.lead attempt.input) (sender.issued attempt) attempt.before attempt.result
        attempt.after := by
  induction attempts generalizing dev with
  | nil =>
    intro attempt member
    cases member
  | cons first rest inductionHypothesis =>
    obtain ⟨rfl, effect, others⟩ := linked
    have next : kept first.after.stream := by
      rcases sender.stream_after effect with ⟨command, sends, moved⟩ | ⟨-, same⟩
      · rw [moved]
        exact step first.before.stream first.input command start sends.1
      · rw [same]
        exact start
    intro attempt member
    rcases List.mem_cons.mp member with rfl | later
    · exact ⟨start, effect⟩
    · exact inductionHypothesis others next attempt later

/-- The calls after some of them are linked too. -/
theorem Linked.suffix {earlier later : List (Attempt c Input)} {dev : Dev c}
    (linked : sender.Linked dev (earlier ++ later)) : ∃ next, sender.Linked next later := by
  induction earlier generalizing dev with
  | nil => exact ⟨dev, linked⟩
  | cons first rest inductionHypothesis => exact inductionHypothesis linked.2.2

/-- Calls that send nothing leave the stream to the call after them. -/
theorem Linked.between {calls : List (Attempt c Input)} {later : Attempt c Input}
    {rest : List (Attempt c Input)} {dev : Dev c}
    (linked : sender.Linked dev (calls ++ later :: rest))
    (silent : ∀ attempt ∈ calls, ∀ command, ¬ sender.Sends attempt command) :
    later.before.stream = dev.stream := by
  induction calls generalizing dev with
  | nil =>
    obtain ⟨rfl, -⟩ := linked
    rfl
  | cons first calls inductionHypothesis =>
    obtain ⟨rfl, effect, others⟩ := linked
    have same : first.after.stream = first.before.stream := by
      rcases sender.stream_after effect with ⟨command, sends, -⟩ | ⟨-, same⟩
      · exact absurd sends (silent first List.mem_cons_self command)
      · exact same
    rw [inductionHypothesis others fun attempt member =>
      silent attempt (List.mem_cons_of_mem _ member), same]

/-- Two sends with none between them: the second goes on from the stream of the first. -/
theorem Linked.consecutive {earlier between rest : List (Attempt c Input)}
    {first second : Attempt c Input} {command : Command} {dev : Dev c}
    (linked : sender.Linked dev (earlier ++ first :: (between ++ second :: rest)))
    (sends : sender.Sends first command)
    (silent : ∀ attempt ∈ between, ∀ command, ¬ sender.Sends attempt command) :
    second.before.stream = first.before.stream.next command := by
  obtain ⟨next, suffix⟩ := linked.suffix
  obtain ⟨-, effect, others⟩ := suffix
  rcases sender.stream_after effect with ⟨other, sent, moved⟩ | ⟨idle, -⟩
  · obtain rfl : command = other := Option.some.inj (sends.1.symm.trans sent.1)
    exact (others.between silent).trans moved
  · exact absurd sends (idle command)

end CommandSender

end Trigger6.Driver
