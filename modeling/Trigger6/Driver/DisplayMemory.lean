/-
This file models the display's memory: the display copies the payload of every
complete record to the record's address. The transfers of a raw frame, by ranges
of rows or whole, put the frame at its place in that memory, or latch the fault;
and the ranges of the damage scan, copied over the reference, give the frame.
-/

import Trigger6.Driver.DamageRuns
import Trigger6.Driver.Regions

namespace Trigger6.Driver

open Bytes Interaction Framing MaximalRuns

variable {c : Config}

/-! ### The display's memory -/

/-- The payload address of a record: the third field of its header. -/
def recordAddress (record : Record bulkFormat) : Nat :=
  fromLittleEndian ((record.header.drop 8).take 4)

/-- The display executes the complete records of a stream: it copies each payload to its
address. -/
def displayMemory (stream : List Byte) : Memory :=
  (decode bulkFormat stream).1.foldl
    (fun memory record => memory.write (recordAddress record) record.payload) fun _ => 0

/-- Records, and nothing else. -/
def WholeRecords (stream : List Byte) : Prop :=
  ∃ records : List (Record bulkFormat), stream = encode records

theorem wholeRecords_nil : WholeRecords [] := ⟨[], rfl⟩

theorem WholeRecords.concat {stream : List Byte} (whole : WholeRecords stream)
    (record : Record bulkFormat) : WholeRecords (stream ++ record.bytes) := by
  obtain ⟨records, rfl⟩ := whole
  refine ⟨records ++ [record], ?_⟩
  rw [encode_append, encode_cons, encode_nil, List.append_nil]

/-- One more record is one more copy. -/
theorem displayMemory_concat {stream : List Byte} (whole : WholeRecords stream)
    (record : Record bulkFormat) :
    displayMemory (stream ++ record.bytes) =
      (displayMemory stream).write (recordAddress record) record.payload := by
  obtain ⟨records, rfl⟩ := whole
  have joined : encode records ++ record.bytes = encode (records ++ [record]) := by
    rw [encode_append, encode_cons, encode_nil, List.append_nil]
  rw [joined, displayMemory, displayMemory, decode_encode, decode_encode, List.foldl_append]
  rfl

theorem recordAddress_record {header : BulkHeader} {payload : List Byte}
    (announces : header.Announces payload) (near : header.payloadAddress < 2 ^ 32) :
    recordAddress (header.record payload announces) = header.payloadAddress := by
  show fromLittleEndian ((header.bytes.drop 8).take 4) = _
  have field : (header.bytes.drop 8).take 4 = littleEndian 4 header.payloadAddress := by
    unfold BulkHeader.bytes
    have front : (littleEndian 4 0 ++ littleEndian 4 header.payloadLength).length = 8 := by
      rw [List.length_append, length_littleEndian, length_littleEndian]
    rw [List.append_assoc, List.append_assoc, List.append_assoc, List.append_assoc,
      List.drop_left' front, List.take_left' (length_littleEndian 4 _)]
  rw [field, fromLittleEndian_littleEndian]
  exact Nat.mod_eq_of_lt near

/-! ### What a write delivers -/

theorem wire_submissions (traffic : List (Traffic c)) :
    wire traffic = (bulkSubmissions traffic).flatMap fun entry => entry.1.take entry.2.actual := by
  induction traffic with
  | nil => rfl
  | cons entry older inductionHypothesis =>
    rw [wire, inductionHypothesis]
    cases entry with
    | submitted thread transfer outcome =>
      cases transfer with
      | bulk chunk =>
        show _ = (bulkSubmissions older ++ [(chunk, outcome)]).flatMap _
        rw [List.flatMap_append, List.flatMap_singleton]
        rfl
      | _ => exact List.append_nil _
    | _ => exact List.append_nil _

/-- Chunks that were accepted are delivered as they are. -/
theorem delivered_flatMap {payload : List Byte} {sent : List (List Byte × Outcome)}
    (delivered : Delivered payload sent) :
    (sent.flatMap fun entry => entry.1.take entry.2.actual) = payload := by
  rw [← delivered.1, List.flatMap_def]
  refine congrArg List.flatten (List.map_congr_left fun entry member => ?_)
  have accepted := delivered.2 entry member
  rw [Accepted, Outcome.complete, Bool.and_eq_true, beq_iff_eq, beq_iff_eq] at accepted
  rw [accepted.2]
  exact List.take_length

/-- A write delivers all of its bytes, or latches the fault. -/
structure Writes (bytes : List Byte) (dev : Dev c) (result : Except Errno Unit) (after : Dev c) :
    Prop where
  heads : after.heads = dev.heads
  supplied : after.bulkChunk = true
  wrote : result = .ok () → wire after.traffic = wire dev.traffic ++ bytes
  failed : ∀ errno, result = .error errno → after.ioFaulted = true

/-- Nothing a write does frees the chunk buffer. -/
def Op.SparesChunk (op : Op c) : Prop := op ≠ .freeBulkChunk

theorem exec_sparesChunk {thread : Thread} {dev after : Dev c} {op : Op c} {input : Bool × Env}
    {answer : op.Answer} (spares : op.SparesChunk)
    (answered : disturbed thread dev op input = some (answer, after)) :
    after.bulkChunk = dev.bulkChunk := by
  rw [← latched_bulkChunk dev input.1]
  have answered : exec thread (dev.latched input.1) op input.2 = some (answer, after) := answered
  cases op with
  | freeBulkChunk => exact absurd rfl spares
  | lockIo =>
    simp only [exec] at answered
    split at answered <;> cases answered
    rfl
  | submit =>
    simp only [exec] at answered
    split at answered
    · cases answered
      rfl
    · split at answered <;> cases answered <;> rfl
  | setIoFaulted | unlockIo | noteSent =>
    cases answered
    rfl
  | _ => exact (exec_offBus (by trivial) answered).bulkChunk

theorem spares_lift {Result : Type} {program : Prog c Result} (only : program.Only Op.SparesChunk) :
    (lift program).run.Only Op.SparesChunk :=
  (Program.only_lift _).mpr only

theorem spares_failBulk (change : DeviceMetrics → DeviceMetrics) (errno : Errno) :
    (failBulk (c := c) change errno).run.Only Op.SparesChunk :=
  Program.Only.tryBind (spares_lift ⟨by rintro ⟨⟩, fun _ => trivial⟩) fun _ =>
    Program.Only.tryBind (spares_lift ⟨by rintro ⟨⟩, fun _ => ⟨by rintro ⟨⟩, fun _ => trivial⟩⟩)
      fun _ => trivial

theorem spares_bulkChunks (bound : Nat) (cursor : List Byte) (remaining : Nat) :
    (bulkChunks (c := c) bound cursor remaining).run.Only Op.SparesChunk := by
  induction bound generalizing cursor remaining with
  | zero => trivial
  | succ bound inductionHypothesis =>
    rw [bulkChunks]
    refine Program.Only.ite trivial (Program.Only.tryBind
      (spares_lift ⟨by rintro ⟨⟩, fun _ => trivial⟩) fun submission => ?_)
    cases submission with
    | refused | noMemory => trivial
    | returned outcome data =>
      refine Program.Only.tryBind (spares_lift ⟨by rintro ⟨⟩, fun _ => trivial⟩) fun _ => ?_
      cases outcome.status with
      | some errno => exact spares_failBulk _ _
      | none => exact Program.Only.ite (inductionHypothesis _ _) (spares_failBulk _ _)

theorem spares_bulkWrite (src : List Byte) (len : Nat) :
    (bulkWrite (c := c) src len).run.Only Op.SparesChunk := by
  have read : (lift (readDev (c := c))).run.Only Op.SparesChunk :=
    spares_lift ⟨by rintro ⟨⟩, fun _ => trivial⟩
  exact Program.Only.ite trivial (Program.Only.tryBind read fun _ => Program.Only.ite trivial
    (Program.Only.ite trivial (Program.Only.tryBind read fun _ => Program.Only.ite trivial
      (Program.Only.tryBind (spares_lift ⟨by rintro ⟨⟩, fun _ => trivial⟩) fun _ =>
        spares_bulkChunks _ _ _))))

section Writes

variable (query : c.queryOnly = false) (manual : c.manualOnly = false)

include query manual

theorem bulkWrite_writes (thread : Thread) {src : List Byte} {len : Nat}
    (present : len ≤ src.length) {dev : Dev c}
    (supplied : dev.bulkChunk = true) :
    Ends (disturbed thread) (Writes (src.take len) dev) (bulkWrite src len).run dev := by
  have writes : Ends (disturbed thread) (fun result after => after.heads = dev.heads ∧
      (result = .ok () → wire after.traffic = wire dev.traffic ++ src.take len) ∧
      (∀ errno, result = .error errno → after.ioFaulted = true)) (bulkWrite src len).run dev := by
    refine Ends.of_eval fun script => ?_
    rw [bulkWrite_take]
    have length : (src.take len).length = len := List.length_take_of_le present
    generalize src.take len = payload at length ⊢
    subst length
    by_cases empty : payload = []
    · subst empty
      unfold bulkWrite
      rw [if_neg (by rw [query]; exact Bool.false_ne_true), eval_readDev]
      by_cases faulted : (c.manualOnly || (dev.latched (script 0).1).ioFaulted) = true
      · rw [if_pos faulted]
        refine ⟨_, _, rfl, latched_heads _ _, by rintro ⟨⟩, fun _ _ => ?_⟩
        rw [manual, Bool.false_or] at faulted
        exact faulted
      · rw [if_neg faulted]
        refine ⟨_, _, rfl, latched_heads _ _, fun _ => ?_, by rintro _ ⟨⟩⟩
        rw [List.append_nil, wire_submissions, wire_submissions, bulkSubmissions_latched]
    have nonempty : payload ≠ [] := empty
    cases checked : entryError (dev.latched (script 0).1) with
    | some errno =>
      obtain ⟨after, ran, heads, same, why⟩ := bulkWrite_entry thread nonempty dev script checked
      refine ⟨_, after, ran, heads, by rintro ⟨⟩, fun _ _ => ?_⟩
      rcases why with faulted | other | other | other
      · exact faulted
      · rw [query] at other
        cases other
      · rw [manual] at other
        cases other
      · rw [supplied] at other
        cases other
    | none =>
      obtain ⟨next, heads, same, ran⟩ := bulkWrite_loop thread nonempty dev script checked
      obtain ⟨result, after, sent, looped, outcome⟩ :=
        bulkChunks_sent thread payload.length payload le_rfl next fun index => script (index + 3)
      refine ⟨result, after, ran.trans looped, outcome.heads.trans heads, fun done => ?_,
        fun errno failed => outcome.fails (by rw [failed]; rintro ⟨⟩)⟩
      rw [wire_submissions, wire_submissions, outcome.submitted, same, List.flatMap_append,
        delivered_flatMap (outcome.returns.mp done)]
  refine (Ends.keeping (fun spares answered kept => (exec_sparesChunk spares answered).trans kept)
    (spares_bulkWrite src len) writes supplied).mono ?_
  rintro result after ⟨⟨heads, wrote, failed⟩, kept⟩
  exact ⟨heads, kept, wrote, failed⟩

/-- A record is delivered whole, or the fault is latched. -/
theorem writeRecord_writes (thread : Thread) (header : BulkHeader) {payload : List Byte} {len : Nat}
    (present : len ≤ payload.length) {dev : Dev c}
    (supplied : dev.bulkChunk = true) :
    Ends (disturbed thread) (Writes (header.bytes ++ payload.take len) dev)
      (writeRecord header payload len).run dev := by
  have first := bulkWrite_writes query manual thread
    (show sizeofBulkHeader ≤ header.bytes.length from header.length_bytes.ge) supplied
  rw [List.take_of_length_le header.length_bytes.le] at first
  refine Ends.tryBind (first.mono fun result between writes => ?_)
  cases result with
  | error errno =>
    exact ⟨writes.heads, writes.supplied, by rintro ⟨⟩, fun _ _ => writes.failed errno rfl⟩
  | ok value =>
    refine (bulkWrite_writes query manual thread present writes.supplied).mono
      fun result after more => ⟨more.heads.trans writes.heads, more.supplied, fun done => ?_,
        more.failed⟩
    rw [more.wrote done, writes.wrote rfl, List.append_assoc]

end Writes

/-! ### Frames on the display -/

/-- Where the pixels of the primary head are shown. -/
def pixelAddr (c : Config) : Nat := fbAddr c .primary + sizeofFlipHeader

theorem pixelAddr_near (c : Config) : pixelAddr c + c.frameSize < 2 ^ 32 := by
  have address : fbAddr c .primary = 28 * mebibyte := slotAddr_primary c
  have fits := c.frame_fits
  have ram := ramMb_mebibyte
  have unit := mebibyte_eq
  rw [pixelAddr]
  omega

/-- The stream is whole, and its display shows a frame. -/
structure Displays (frame : Frame c) (stream : List Byte) : Prop where
  whole : WholeRecords stream
  shown : (displayMemory stream).Holds (pixelAddr c) frame.bytes

/-- The effect of transfers that are to show a frame on a clean device: it is shown, or the fault
is latched. -/
structure Shows {Value : Type} (clean : Prop) (frame : Frame c) (dev : Dev c)
    (result : Except Errno Value) (after : Dev c) : Prop where
  heads : after.heads = dev.heads
  supplied : after.bulkChunk = true
  shown : ∀ value, result = .ok value → clean → Displays frame (wire after.traffic)
  failed : ∀ errno, result = .error errno → after.ioFaulted = true

/-- The reference with some ranges of rows copied into it. -/
def patch (pixels : Frame c) : List DirtyRange → Frame c → Frame c
  | [], reference => reference
  | range :: rest, reference =>
    patch pixels rest (reference.copy (range.offset c) (rangeOf pixels range))

section Transfers

variable (query : c.queryOnly = false) (manual : c.manualOnly = false)

include query manual

/-- A record that goes out is copied on the display. -/
theorem recordTo_writes (thread : Thread) {address len : Nat} {payload : List Byte}
    (present : len ≤ payload.length) (near : address < 2 ^ 32) (small : len < 2 ^ 32) {dev : Dev c}
    (supplied : dev.bulkChunk = true) :
    Ends (disturbed thread) (fun result after => after.heads = dev.heads ∧ after.bulkChunk = true ∧
        (result = .ok () → WholeRecords (wire dev.traffic) → WholeRecords (wire after.traffic) ∧
          displayMemory (wire after.traffic) =
            (displayMemory (wire dev.traffic)).write address (payload.take len)) ∧
        ∀ errno, result = .error errno → after.ioFaulted = true)
      (writeRecord (recordTo address len) payload len).run dev := by
  have length : (payload.take len).length = len := List.length_take_of_le present
  have announces : (recordTo address len).Announces (payload.take len) :=
    ⟨length.symm, length.symm, by rw [length]; exact small⟩
  refine (writeRecord_writes query manual thread (recordTo address len) present supplied).mono
    fun result after writes => ⟨writes.heads, writes.supplied, fun done whole => ?_, writes.failed⟩
  have stream : wire after.traffic = wire dev.traffic ++
      ((recordTo address len).record (payload.take len) announces).bytes := writes.wrote done
  rw [stream]
  refine ⟨whole.concat _, ?_⟩
  rw [displayMemory_concat whole, recordAddress_record announces near]
  rfl

/-- The rows of a frame, and the flip header after them. -/
theorem sendRows_shows (thread : Thread) (pixels : Frame c) (flip : FlipHeader)
    {ranges : List DirtyRange} (within : ∀ range ∈ ranges, range.Within c) (totalSent : Nat)
    {clean : Prop} {reference : Frame c} {dev : Dev c} (supplied : dev.bulkChunk = true)
    (displays : clean → Displays reference (wire dev.traffic)) :
    Ends (disturbed thread) (Shows clean (patch pixels ranges reference) dev)
      (sendRows .primary pixels flip ranges totalSent).run dev := by
  have near := pixelAddr_near c
  induction ranges generalizing totalSent reference dev with
  | nil =>
    have header := FlipHeader.length_bytes flip
    have before : fbAddr c .primary < 2 ^ 32 := by
      rw [pixelAddr] at near
      omega
    refine Ends.tryBind ((recordTo_writes query manual thread header.ge before (by decide)
      supplied).mono fun result after copied => ?_)
    obtain ⟨heads, kept, wrote, failed⟩ := copied
    cases result with
    | error errno => exact ⟨heads, kept, by rintro _ ⟨⟩, fun _ _ => failed errno rfl⟩
    | ok value =>
      refine ⟨heads, kept, fun _ _ still => ?_, by rintro _ ⟨⟩⟩
      obtain ⟨whole, memory⟩ := wrote rfl (displays still).whole
      refine ⟨whole, ?_⟩
      rw [memory]
      refine (displays still).shown.write_apart (.inl ?_)
      rw [List.take_of_length_le header.le, header, pixelAddr]
  | cons range rest inductionHypothesis =>
    obtain ⟨length, inside⟩ := length_rangeOf (within range List.mem_cons_self) pixels
    have present : range.size c ≤ (pixels.bytes.drop (range.offset c)).length := by
      rw [List.length_drop, pixels.length]
      omega
    have far : fbAddr c .primary + sizeofFlipHeader + range.offset c < 2 ^ 32 := by
      rw [pixelAddr] at near
      omega
    refine Ends.tryBind ((recordTo_writes query manual thread present far (by omega)
      supplied).mono fun result between copied => ?_)
    obtain ⟨heads, kept, wrote, failed⟩ := copied
    cases result with
    | error errno => exact ⟨heads, kept, by rintro _ ⟨⟩, fun _ _ => failed errno rfl⟩
    | ok value =>
      have fits : range.offset c + (rangeOf pixels range).length ≤ reference.bytes.length := by
        rw [length, reference.length]
        exact inside
      have shown (still : clean) : Displays (reference.copy (range.offset c) (rangeOf pixels range))
          (wire between.traffic) := by
        obtain ⟨whole, memory⟩ := wrote rfl (displays still).whole
        refine ⟨whole, ?_⟩
        rw [memory, Buffer.copy, dif_pos (reference.length ▸ fits)]
        exact (displays still).shown.write fits
      refine (inductionHypothesis (fun other member => within other (List.mem_cons_of_mem _ member))
        _ kept shown).mono fun result after more =>
          ⟨more.heads.trans heads, more.supplied, more.shown, more.failed⟩

/-- A flip header and the whole frame behind it. -/
theorem sendFull_shows (thread : Thread) (pixels : Frame c) (flip : FlipHeader) {clean : Prop}
    {dev : Dev c} (supplied : dev.bulkChunk = true)
    (whole : clean → WholeRecords (wire dev.traffic)) :
    Ends (disturbed thread) (Shows clean pixels dev) (sendFull .primary pixels flip).run dev := by
  have near := pixelAddr_near c
  have length : (flip.bytes ++ pixels.bytes).length = sizeofFlipHeader + c.frameSize := by
    rw [List.length_append, FlipHeader.length_bytes, pixels.length]
  have start : fbAddr c .primary < 2 ^ 32 := by
    rw [pixelAddr] at near
    omega
  refine Ends.tryBind ((recordTo_writes query manual thread length.ge start
    (by rw [pixelAddr] at near; omega) supplied).mono fun result after copied => ?_)
  obtain ⟨heads, kept, wrote, failed⟩ := copied
  cases result with
  | error errno => exact ⟨heads, kept, by rintro _ ⟨⟩, fun _ _ => failed errno rfl⟩
  | ok value =>
    refine ⟨heads, kept, fun _ _ still => ?_, by rintro _ ⟨⟩⟩
    obtain ⟨whole, memory⟩ := wrote rfl (whole still)
    refine ⟨whole, ?_⟩
    have all := Memory.holds_write (displayMemory (wire dev.traffic)) (fbAddr c .primary)
      (flip.bytes ++ pixels.bytes)
    have behind := all.drop
    rw [FlipHeader.length_bytes] at behind
    rw [memory, List.take_of_length_le length.le]
    exact behind

end Transfers

/-! ### The ranges of the damage scan -/

theorem getElem?_rangeOf (pixels : Frame c) (range : DirtyRange) {index : Nat}
    (low : range.offset c ≤ index) (high : index < range.offset c + range.size c) :
    (rangeOf pixels range)[index - range.offset c]? = pixels.bytes[index]? := by
  rw [rangeOf, List.getElem?_take_of_lt (by omega), List.getElem?_drop]
  congr 1
  omega

/-- The byte lies in one of the ranges. -/
def Covers (c : Config) (ranges : List DirtyRange) (index : Nat) : Prop :=
  ∃ range ∈ ranges, range.offset c ≤ index ∧ index < range.offset c + range.size c

/-- A patched frame is the new one where a range covers it, and the reference elsewhere. -/
theorem getElem?_patch (pixels : Frame c) {ranges : List DirtyRange}
    (within : ∀ range ∈ ranges, range.Within c) (reference : Frame c) (index : Nat) :
    (Covers c ranges index → (patch pixels ranges reference).bytes[index]? = pixels.bytes[index]?) ∧
    (¬ Covers c ranges index →
      (patch pixels ranges reference).bytes[index]? = reference.bytes[index]?) := by
  induction ranges generalizing reference with
  | nil =>
    refine ⟨?_, fun _ => rfl⟩
    rintro ⟨range, member, -⟩
    cases member
  | cons range rest inductionHypothesis =>
    obtain ⟨length, inside⟩ := length_rangeOf (within range List.mem_cons_self) pixels
    have others := inductionHypothesis
      (fun other member => within other (List.mem_cons_of_mem _ member))
      (reference.copy (range.offset c) (rangeOf pixels range))
    have fits : range.offset c + (rangeOf pixels range).length ≤ c.frameSize := by
      rw [length]
      exact inside
    have copied := reference.getElem?_copy fits index
    rw [length] at copied
    constructor
    · rintro ⟨covering, member, low, high⟩
      by_cases later : Covers c rest index
      · exact others.1 later
      · rcases List.mem_cons.mp member with rfl | member
        · rw [if_pos ⟨low, high⟩, getElem?_rangeOf pixels covering low high] at copied
          exact (others.2 later).trans copied
        · exact absurd ⟨covering, member, low, high⟩ later
    · intro uncovered
      have later : ¬ Covers c rest index := by
        rintro ⟨covering, member, bounds⟩
        exact uncovered ⟨covering, List.mem_cons_of_mem _ member, bounds⟩
      rw [if_neg fun bounds => uncovered ⟨range, List.mem_cons_self, bounds⟩] at copied
      exact (others.2 later).trans copied

/-- Bytes of a row in which the frames do not differ. -/
theorem getElem?_of_sameRow {pixels reference : Frame c} {row column : Nat}
    (same : rowOf pixels row = rowOf reference row) (inside : column < c.stride) :
    pixels.bytes[row * c.stride + column]? = reference.bytes[row * c.stride + column]? := by
  have byte := congrArg (fun bytes => bytes[column]?) same
  simp only [rowOf] at byte
  rwa [List.getElem?_take_of_lt inside, List.getElem?_take_of_lt inside, List.getElem?_drop,
    List.getElem?_drop] at byte

/-- Copying the ranges of the damage over the reference makes it the new frame. -/
theorem patch_damage (pixels reference : Frame c)
    (notFull : (computeFrameDamage pixels (some reference) true).fullFrame = false) :
    patch pixels (computeFrameDamage pixels (some reference) true).ranges reference = pixels := by
  have within := computeFrameDamage_within pixels (some reference) true
  have exactly := @scanRows_exact (fun row => rowOf pixels row != rowOf reference row) c.height 0 []
    none scanned_zero (Nat.zero_le _)
  rw [Nat.zero_add] at exactly
  refine Buffer.ext (List.ext_getElem? fun index => ?_)
  rcases Nat.lt_or_ge index c.frameSize with below | beyond
  · have positive : 0 < c.stride := by
      rcases Nat.eq_zero_or_pos c.stride with zero | positive
      · rw [Config.frameSize, zero, Nat.zero_mul] at below
        exact absurd below (Nat.not_lt_zero _)
      · exact positive
    obtain ⟨covered, uncovered⟩ := getElem?_patch pixels within reference index
    by_cases covers : Covers c (computeFrameDamage pixels (some reference) true).ranges index
    · exact covered covers
    · rw [uncovered covers]
      have inside : index / c.stride < c.height :=
        Nat.div_lt_of_lt_mul (by rw [← Config.frameSize]; exact below)
      have column : index % c.stride < c.stride := Nat.mod_lt _ positive
      have place : index / c.stride * c.stride + index % c.stride = index := Nat.div_add_mod' _ _
      -- a row that differs would lie in a range
      have same : rowOf pixels (index / c.stride) = rowOf reference (index / c.stride) := by
        by_contra differs
        have dirty : (rowOf pixels (index / c.stride) !=
            rowOf reference (index / c.stride)) = true := bne_iff_ne.mpr differs
        obtain ⟨run, member, low, high⟩ := ((exactly.shows notFull).covers inside).mp dirty
        obtain ⟨range, ranged, rfl⟩ := List.mem_map.mp member
        have low : range.yStart ≤ index / c.stride := low
        have high : index / c.stride < range.yStart + range.yCount := high
        refine covers ⟨range, ranged, ?_, ?_⟩
        · rw [DirtyRange.offset]
          exact (Nat.mul_le_mul_right _ low).trans (by omega)
        · rw [DirtyRange.offset, DirtyRange.size, ← Nat.add_mul]
          calc index < (index / c.stride + 1) * c.stride := by rw [Nat.add_mul, Nat.one_mul]; omega
            _ ≤ (range.yStart + range.yCount) * c.stride := Nat.mul_le_mul_right _ high
      have bytes := getElem?_of_sameRow same column
      rw [place] at bytes
      exact bytes.symm
  · rw [List.getElem?_eq_none (by rw [Buffer.length]; exact beyond),
      List.getElem?_eq_none (by rw [Buffer.length]; exact beyond)]

end Trigger6.Driver
