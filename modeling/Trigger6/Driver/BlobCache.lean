/-
This file proves what the cache for the JPEG keepalive holds. Its capacity is
not stored, so that the length of the last blob stands for it: the block was
allocated for a blob that was at least as long. A resend asks for no more than
that, and so it reads the block it copies to.
-/

import Trigger6.Driver.BlobMemory

namespace Trigger6.Driver.Blob

open Bytes Interaction

/-! ### States of the memory -/

/-- The staging buffer is a block of its size. -/
def Sized (heap : Heap) : Prop :=
  ∀ staging, heap.fields.jpegStaging = some staging →
    ∃ content, heap.blocks staging = some content ∧ content.length = jpegStagingSize

/-- What holds between two calls. -/
structure Intact (heap : Heap) : Prop where
  sized : Sized heap
  cached : ∀ block, heap.fields.lastJpegData = some block →
    ∃ content, heap.blocks block = some content ∧ heap.fields.lastJpegLen ≤ content.length
  apart : ∀ block, heap.fields.lastJpegData = some block → heap.fields.jpegStaging ≠ some block
  empty : heap.fields.lastJpegData = none → heap.fields.lastJpegLen = 0
  small : heap.fields.lastJpegLen + sizeofFlipHeader + jpegPaddingSize ≤ jpegStagingSize

/-- Nothing was written but the staging buffer. -/
structure Staged (before after : Heap) : Prop where
  staging : after.fields.jpegStaging = before.fields.jpegStaging
  data : after.fields.lastJpegData = before.fields.lastJpegData
  len : after.fields.lastJpegLen = before.fields.lastJpegLen
  elsewhere : ∀ block, before.fields.jpegStaging ≠ some block →
    after.blocks block = before.blocks block
  sized : Sized before → Sized after
  writes : ∃ new, after.accesses = before.accesses ++ new ∧ ∀ access ∈ new,
    ∃ target bytes, access = .wrote target bytes ∧ before.fields.jpegStaging = some target.block

theorem Staged.refl (heap : Heap) : Staged heap heap where
  staging := rfl
  data := rfl
  len := rfl
  elsewhere _ _ := rfl
  sized := id
  writes := ⟨[], (List.append_nil _).symm, nofun⟩

theorem Staged.trans {first second third : Heap} (left : Staged first second)
    (right : Staged second third) : Staged first third where
  staging := right.staging.trans left.staging
  data := right.data.trans left.data
  len := right.len.trans left.len
  elsewhere block other :=
    (right.elsewhere block (left.staging ▸ other)).trans (left.elsewhere block other)
  sized sized := right.sized (left.sized sized)
  writes := by
    obtain ⟨early, grown, all⟩ := left.writes
    obtain ⟨late, grownAgain, others⟩ := right.writes
    refine ⟨early ++ late, by rw [grownAgain, grown, List.append_assoc], fun access inside => ?_⟩
    rcases List.mem_append.1 inside with inside | inside
    · exact all access inside
    · obtain ⟨target, bytes, is, place⟩ := others access inside
      exact ⟨target, bytes, is, left.staging ▸ place⟩

/-- The staging buffer holds a blob at its place. -/
def Carries (staging : Address) (blob : List Byte) (heap : Heap) : Prop :=
  ∃ content, heap.blocks staging = some content ∧ content.length = jpegStagingSize ∧
    (content.drop sizeofFlipHeader).take blob.length = blob

section Staging

variable {heap : Heap} {staging : Address} {content bytes blob : List Byte}

theorem copied_of_block {target : Pointer} (found : heap.blocks target.block = some content)
    (fits : target.offset + bytes.length ≤ content.length) :
    copied heap target (some bytes) = some ((), heap.after (.wrote target bytes)
      (Function.update heap.blocks target.block (some (splice target.offset bytes content)))) := by
  rw [copied, Option.bind_some, Blocks.store_of_block found fits]
  rfl

theorem exec_memmove {target source : Pointer} {count : Nat} {answers : Answers}
    (loaded : heap.blocks.load source count = some bytes) :
    exec heap (.memmove target source count) answers = copied heap target (some bytes) := by
  rw [exec, loaded]

theorem exec_memcpy {target source : Pointer} {count : Nat} {answers : Answers}
    (apart : Blocks.Apart target source count)
    (loaded : heap.blocks.load source count = some bytes) :
    exec heap (.memcpy target (some source) count) answers = copied heap target (some bytes) := by
  rw [exec, if_pos apart, loaded]

/-- A copy into the staging buffer. -/
theorem staged_copied {offset : Nat} (is : heap.fields.jpegStaging = some staging)
    (found : heap.blocks staging = some content)
    (fits : offset + bytes.length ≤ content.length) :
    Staged heap (heap.after (.wrote ⟨staging, offset⟩ bytes)
      (Function.update heap.blocks staging (some (splice offset bytes content)))) where
  staging := rfl
  data := rfl
  len := rfl
  elsewhere block other := 
    Function.update_of_ne (fun same : block = staging => other (same ▸ is)) _ _
  sized sized other same := by
    obtain rfl := Option.some.inj (is.symm.trans same)
    obtain ⟨whole, held, length⟩ := sized staging is
    refine ⟨_, Function.update_self _ _ _, ?_⟩
    rw [length_splice fits, Option.some.inj (found.symm.trans held), length]
  writes := by
    refine ⟨[_], rfl, fun access inside => ⟨_, _, List.mem_singleton.1 inside, is⟩⟩

/-- A write beside the blob leaves it. -/
theorem carries_put {offset : Nat} (is : heap.fields.jpegStaging = some staging)
    (carries : Carries staging blob heap)
    (fits : offset + bytes.length ≤ jpegStagingSize)
    (apart : sizeofFlipHeader + blob.length ≤ offset ∨ offset + bytes.length ≤ sizeofFlipHeader) :
    Ends exec (fun _ after => Staged heap after ∧ Carries staging blob after ∧
      after.fields = heap.fields) (act (.put ⟨staging, offset⟩ bytes)) heap := by
  obtain ⟨content, found, length, slice⟩ := carries
  have inside : offset + bytes.length ≤ content.length := length ▸ fits
  refine Ends.perform fun answers => ⟨(), _, @copied_of_block heap content bytes ⟨staging, offset⟩
    found inside, staged_copied is found inside, ⟨_, Function.update_self _ _ _, ?_, ?_⟩, rfl⟩
  · rw [length_splice inside, length]
  · rw [take_splice_apart apart inside, slice]

/-- Where a blob that is sent may be: in another block than the staging buffer, or at one of two
places of that. -/
structure Readable (heap : Heap) (staging : Address) (data : Option Pointer) (blob : List Byte) :
    Prop where
  loaded : ∃ pointer, data = some pointer ∧ heap.blocks.load pointer blob.length = some blob ∧
    (pointer.block ≠ staging ∨ pointer = (Pointer.start staging).add sizeofFlipHeader ∨
      pointer = .start staging)

theorem moveBlob_ends {data : Option Pointer} (is : heap.fields.jpegStaging = some staging)
    (found : heap.blocks staging = some content) (length : content.length = jpegStagingSize)
    (readable : Readable heap staging data blob)
    (fits : sizeofFlipHeader + blob.length ≤ jpegStagingSize) :
    Ends exec (fun _ after => Staged heap after ∧ Carries staging blob after ∧
      after.fields = heap.fields)
      (moveBlob (.start staging) ((Pointer.start staging).add sizeofFlipHeader) data blob.length)
      heap := by
  obtain ⟨pointer, rfl, loaded, place⟩ := readable.loaded
  have inside : sizeofFlipHeader + blob.length ≤ content.length := length ▸ fits
  have copy : copied heap ⟨staging, sizeofFlipHeader⟩ (some blob) = some ((), _) :=
    @copied_of_block heap content blob ⟨staging, sizeofFlipHeader⟩ found inside
  have result : Staged heap (heap.after (.wrote ⟨staging, sizeofFlipHeader⟩ blob)
      (Function.update heap.blocks staging (some (splice sizeofFlipHeader blob content)))) ∧
      Carries staging blob (heap.after (.wrote ⟨staging, sizeofFlipHeader⟩ blob)
        (Function.update heap.blocks staging (some (splice sizeofFlipHeader blob content)))) :=
    ⟨staged_copied is found inside, _, Function.update_self _ _ _,
      (length_splice inside).trans length, take_splice inside⟩
  rw [moveBlob]
  by_cases placed : pointer = (Pointer.start staging).add sizeofFlipHeader
  · rw [if_pos (congrArg some placed)]
    obtain ⟨whole, held, -, slice⟩ := Blocks.load_eq_some (placed ▸ loaded)
    obtain rfl := Option.some.inj (found.symm.trans held)
    exact ⟨Staged.refl heap, ⟨content, found, length, slice.symm⟩, rfl⟩
  rw [if_neg fun same => placed (Option.some.inj same)]
  by_cases first : pointer = .start staging
  · rw [if_neg (not_not.2 (congrArg some first))]
    refine Ends.perform fun answers => ⟨(), _, ?_, result.1, result.2, rfl⟩
    rw [exec_memmove (first ▸ loaded)]
    exact copy
  · have other : pointer.block ≠ staging :=
      place.resolve_right fun where_ => where_.elim placed first
    rw [if_pos fun same => first (Option.some.inj same)]
    refine Ends.perform fun answers => ⟨(), _, ?_, result.1, result.2, rfl⟩
    rw [exec_memcpy (Or.inl (Ne.symm other)) loaded]
    exact copy

end Staging

/-! ### The cache -/

/-- The heap with the cache dropped. -/
def Heap.dropped (heap : Heap) : Heap where
  blocks := heap.fields.lastJpegData.elim heap.blocks fun block =>
    Function.update heap.blocks block none
  fields := { heap.fields with lastJpegData := none, lastJpegLen := 0 }
  accesses := heap.accesses ++ (heap.fields.lastJpegData.map Access.freed).toList

/-- The heap with a blob copied to the block of the cache. -/
def Heap.keep (heap : Heap) (block : Address) (content blob : List Byte) : Heap where
  blocks := Function.update heap.blocks block (some (splice 0 blob content))
  fields := { heap.fields with lastJpegLen := blob.length }
  accesses := heap.accesses ++ [.wrote (.start block) blob]

/-- The heap with a new block for the cache. -/
def Heap.renew (heap : Heap) (block : Address) (garbage : List Byte) : Heap :=
  { heap with
    blocks := Function.update heap.blocks block (some garbage)
    fields := { heap.fields with lastJpegData := some block } }

/-- What storing a blob does. -/
inductive Stored (before : Heap) (blob : List Byte) (after : Heap) : Prop
  | reused (block : Address) (content : List Byte)
      (cached : before.fields.lastJpegData = some block)
      (found : before.blocks block = some content)
      (room : blob.length ≤ before.fields.lastJpegLen)
      (is : after = before.keep block content blob)
  | refused
      (needed : before.fields.lastJpegData = none ∨ before.fields.lastJpegLen < blob.length)
      (is : after = before.dropped.after .refused before.dropped.blocks)
  | renewed (block : Address) (garbage : List Byte)
      (needed : before.fields.lastJpegData = none ∨ before.fields.lastJpegLen < blob.length)
      (vacant : before.dropped.blocks block = none) (length : garbage.length = blob.length)
      (is : after = (before.dropped.renew block garbage).keep block garbage blob)

section Storing

variable {heap : Heap} {staging : Address} {blob : List Byte}

/-- A blob in the staging buffer is copied to the cache. -/
theorem keep_ends {block : Address} {content : List Byte} (other : block ≠ staging)
    (carries : Carries staging blob heap) (found : heap.blocks block = some content)
    (room : blob.length ≤ content.length)
    (fits : sizeofFlipHeader + blob.length ≤ jpegStagingSize) :
    Ends exec (fun _ after => after = heap.keep block content blob) (do
      act (.memcpy (.start block) (some ((Pointer.start staging).add sizeofFlipHeader)) blob.length)
      act (.tune fun fields => { fields with lastJpegLen := blob.length })) heap := by
  obtain ⟨whole, held, length, slice⟩ := carries
  have loaded : heap.blocks.load ((Pointer.start staging).add sizeofFlipHeader) blob.length =
      some blob := by
    rw [Blocks.load_of_block (show heap.blocks staging = some whole from held) (length ▸ fits)]
    exact congrArg some slice
  have copy := @copied_of_block heap content blob (.start block) found
    ((Nat.zero_add _).trans_le room)
  refine Ends.seq (Ends.perform fun answers =>
    ⟨(), _, (exec_memcpy (Or.inl other) loaded).trans copy, ?_⟩)
  exact Ends.perform fun answers => ⟨(), _, rfl, rfl⟩

theorem kvfree_ends (intact : Intact heap) :
    Ends exec (fun _ after => after = { heap.dropped with fields := heap.fields })
      (act (.kvfree heap.fields.lastJpegData)) heap := by
  refine Ends.perform fun answers => ⟨(), _, ?_, rfl⟩
  cases cached : heap.fields.lastJpegData with
  | none =>
    rw [exec, Heap.dropped, cached]
    simp only [Option.elim_none, Option.map_none, Option.toList_none, List.append_nil]
  | some block =>
    obtain ⟨content, found, -⟩ := intact.cached block cached
    rw [exec, Blocks.free, found, Heap.dropped, cached]
    rfl

/-- What is asked for is granted, at a place that was vacant, or not. -/
theorem kvmalloc_ends (len : Nat) :
    Ends exec (fun block after =>
      (block = none ∧ after = heap.after .refused heap.blocks) ∨
      ∃ place garbage, block = some place ∧ heap.blocks place = none ∧ garbage.length = len ∧
        after = { heap with blocks := Function.update heap.blocks place (some garbage) })
      (act (.kvmalloc len)) heap := by
  refine Ends.perform fun answers => ?_
  have refused : Blocks.allocate heap.blocks answers.offer
      ((List.range len).map answers.garbage) = (none, heap.blocks) →
      exec heap (.kvmalloc len) answers = some (none, heap.after .refused heap.blocks) := by
    intro none_
    rw [exec, none_]
  cases offer : answers.offer with
  | none => exact ⟨none, _, refused (by rw [offer, Blocks.allocate]), Or.inl ⟨rfl, rfl⟩⟩
  | some place =>
    cases vacant : heap.blocks place with
    | some content =>
      exact ⟨none, _, refused (by rw [offer, Blocks.allocate, vacant]), Or.inl ⟨rfl, rfl⟩⟩
    | none =>
      refine ⟨some place, _, ?_, Or.inr ⟨place, (List.range len).map answers.garbage, rfl, vacant, ?_,
        rfl⟩⟩
      · rw [exec, offer, Blocks.allocate, vacant]
      · rw [List.length_map, List.length_range]

theorem dropped_other {block : Address} (other : heap.fields.lastJpegData ≠ some block) :
    heap.dropped.blocks block = heap.blocks block := by
  rw [Heap.dropped]
  cases cached : heap.fields.lastJpegData with
  | none => rfl
  | some last =>
    exact Function.update_of_ne (fun same : block = last => other (same ▸ cached)) _ _

/-- The blob is copied to the block that was there, or to a new one if that is too small. -/
theorem storeBlob_ends (intact : Intact heap) (is : heap.fields.jpegStaging = some staging)
    (carries : Carries staging blob heap)
    (fits : sizeofFlipHeader + blob.length ≤ jpegStagingSize) :
    Ends exec (fun _ after => Stored heap blob after)
      (storeBlob ((Pointer.start staging).add sizeofFlipHeader) blob.length) heap := by
  have other : heap.fields.lastJpegData ≠ some staging := fun cached => intact.apart staging cached is
  obtain ⟨whole, held, length, slice⟩ := carries
  have heldStill : heap.dropped.blocks staging = some whole := (dropped_other other).trans held
  refine Ends.seq (Ends.perform fun answers => ⟨heap.fields, heap, rfl, ?_⟩)
  by_cases renews : (heap.fields.lastJpegData.isNone ||
    decide (heap.fields.lastJpegLen < blob.length)) = true
  · rw [if_pos renews]
    have needed : heap.fields.lastJpegData = none ∨ heap.fields.lastJpegLen < blob.length := by
      simpa using renews
    refine Ends.seq ((kvfree_ends intact).mono fun _ after freed => ?_)
    subst freed
    refine Ends.seq (Ends.perform fun answers => ⟨(), heap.dropped, rfl, ?_⟩)
    refine Ends.seq ((kvmalloc_ends blob.length).mono fun block after what => ?_)
    refine Ends.seq (Ends.perform fun answers => ⟨(), _, rfl, ?_⟩)
    refine Ends.seq (Ends.perform fun answers => ⟨_, _, rfl, ?_⟩)
    rcases what with ⟨rfl, rfl⟩ | ⟨place, garbage, rfl, vacant, sized, rfl⟩
    · exact Stored.refused needed rfl
    · have apart : place ≠ staging := fun same => by
        rw [same, heldStill] at vacant
        cases vacant
      have carried : Carries staging blob (heap.dropped.renew place garbage) :=
        ⟨whole, (Function.update_of_ne apart.symm _ _).trans heldStill, length, slice⟩
      exact (keep_ends apart carried (Function.update_self _ _ _) (Nat.le_of_eq sized.symm)
        fits).mono fun _ after is => Stored.renewed place garbage needed vacant sized is
  · rw [if_neg renews]
    have kept : heap.fields.lastJpegData ≠ none ∧ blob.length ≤ heap.fields.lastJpegLen := by
      simpa using renews
    obtain ⟨block, cached⟩ := Option.ne_none_iff_exists'.1 kept.1
    obtain ⟨content, found, room⟩ := intact.cached block cached
    refine Ends.seq (Ends.perform fun answers => ⟨heap.fields, heap, rfl, ?_⟩)
    rw [cached]
    exact (keep_ends (fun same : block = staging => other (same ▸ cached)) ⟨whole, held, length, slice⟩ found
      (kept.2.trans room) fits).mono fun _ after is => Stored.reused block content cached found kept.2 is

end Storing

/-! ### Sending -/

/-- What a send does: until the blob was taken, it writes to the staging buffer only. -/
inductive Sent (before : Heap) (blob : List Byte) : Except Errno Unit → Heap → Prop
  | failed {errno : Errno} {after : Heap} (staged : Staged before after) :
      Sent before blob (.error errno) after
  | sent {middle after : Heap} (staged : Staged before middle) (some_ : 0 < blob.length)
      (fits : blob.length + sizeofFlipHeader + jpegPaddingSize ≤ jpegStagingSize)
      (stored : Stored middle blob after) : Sent before blob (.ok ()) after

theorem Intact.staged {before after : Heap} (intact : Intact before) (staged : Staged before after) :
    Intact after where
  sized := staged.sized intact.sized
  cached block is := by
    rw [staged.data] at is
    obtain ⟨content, found, room⟩ := intact.cached block is
    refine ⟨content, ?_, staged.len ▸ room⟩
    rw [staged.elsewhere block (intact.apart block is), found]
  apart block is := by
    rw [staged.data] at is
    rw [staged.staging]
    exact intact.apart block is
  empty is := by
    rw [staged.len]
    exact intact.empty (staged.data ▸ is)
  small := staged.len ▸ intact.small

section Sending

variable {c : Config} {head : HeadId} {heap : Heap} {staging : Address} {blob : List Byte}

theorem Carries.same {before after : Heap} (carries : Carries staging blob before)
    (same : after.blocks = before.blocks) : Carries staging blob after := by
  rw [Carries, same]
  exact carries

/-- A transfer of what is readable changes no memory. -/
theorem transfer_ends {op : Op} {answer : Op.Answer op → Option Errno} {rest : Unit → Fallible Unit}
    {post : Except Errno Unit → Heap → Prop}
    (quiet : ∀ answers, ∃ answered, exec heap op answers = some (answered, heap))
    (fails : ∀ errno, post (.error errno) heap) (continues : Ends exec post (rest ()).run heap) :
    Ends exec post (transfer op answer >>= rest).run heap := by
  refine Ends.tryBind (Ends.liftBind (Ends.perform fun answers => ?_))
  obtain ⟨answered, done⟩ := quiet answers
  refine ⟨answered, heap, done, ?_⟩
  cases answer answered with
  | none => exact continues
  | some errno => exact fails errno

/-- The place in the stream is no part of the cache. -/
theorem tune_ends {change : Fields → Fields}
    (kept : ∀ fields, (change fields).jpegStaging = fields.jpegStaging ∧
      (change fields).lastJpegData = fields.lastJpegData ∧
      (change fields).lastJpegLen = fields.lastJpegLen) :
    Ends exec (fun _ after => Staged heap after ∧ after.blocks = heap.blocks)
      (act (.tune change)) heap := by
  obtain ⟨staging, data, len⟩ := kept heap.fields
  refine Ends.perform fun answers => ⟨(), _, rfl, ⟨staging, data, len, fun _ _ => rfl,
    fun sized other is => sized other (staging.symm.trans is),
    [], (List.append_nil _).symm, nofun⟩, rfl⟩

theorem sendStaged_ends {data : Option Pointer} {cmdStep : Nat} (intact : Intact heap)
    (is : heap.fields.jpegStaging = some staging) (readable : Readable heap staging data blob)
    (some_ : 0 < blob.length)
    (fits : blob.length + sizeofFlipHeader + jpegPaddingSize ≤ jpegStagingSize) :
    Ends exec (Sent heap blob)
      (sendStaged c head staging heap.fields cmdStep data blob.length).run heap := by
  obtain ⟨content, found, length⟩ := intact.sized staging is
  have flipLength : ∀ flip : FlipHeader, flip.bytes.length = sizeofFlipHeader :=
    FlipHeader.length_bytes
  refine Ends.liftBind ((moveBlob_ends is found length readable (by omega)).mono
    fun _ first moved => ?_)
  obtain ⟨stagedFirst, carries, fields⟩ := moved
  refine Ends.liftBind ((carries_put (stagedFirst.staging.trans is) carries
    (by rw [List.length_replicate]; omega) (Or.inl (Nat.le_refl _))).mono fun _ second padded => ?_)
  obtain ⟨stagedSecond, carriesSecond, -⟩ := padded
  have isSecond := (stagedFirst.trans stagedSecond).staging.trans is
  refine Ends.liftBind ((carries_put isSecond carriesSecond
    (by rw [flipLength]; omega) (Or.inr (by rw [flipLength]; omega))).mono fun _ third flipped => ?_)
  obtain ⟨stagedThird, carriesThird, -⟩ := flipped
  have staged := (stagedFirst.trans stagedSecond).trans stagedThird
  obtain ⟨whole, held, lengthThird, _⟩ := id carriesThird
  refine transfer_ends (fun answers => ⟨_, rfl⟩) (fun errno => .failed staged) ?_
  refine transfer_ends (fun answers => ⟨answers.status, ?_⟩) (fun errno => .failed staged) ?_
  · rw [exec, Blocks.load_of_block (show third.blocks staging = some whole from held)
      (by rw [lengthThird]; simp only [Pointer.start]; omega)]
    rfl
  refine Ends.liftBind (Ends.mono (tune_ends ?_) fun _ fourth tuned => ?_)
  · exact fun _ => ⟨rfl, rfl, rfl⟩
  have advanced := staged.trans tuned.1
  exact Ends.lift ((storeBlob_ends (intact.staged advanced) (advanced.staging.trans is)
    (carriesThird.same tuned.2) (by omega)).mono fun _ after stored =>
      .sent advanced some_ fits stored)

theorem sendJpegBlob_ends {data : Option Pointer} {len : BlobLength} (intact : Intact heap)
    (readable : 0 < len.val → len.val + sizeofFlipHeader + jpegPaddingSize ≤ jpegStagingSize →
      ∀ staging, heap.fields.jpegStaging = some staging →
        blob.length = len.val ∧ Readable heap staging data blob) :
    Ends exec (Sent heap blob) (sendJpegBlob c head data len.val).run heap := by
  have refused (errno : Errno) : Sent heap blob (.error errno) heap := .failed (.refl heap)
  have whole : (sizeofFlipHeader + len.val + jpegPaddingSize) % 2 ^ 32 =
      sizeofFlipHeader + len.val + jpegPaddingSize := Nat.mod_eq_of_lt (by
    have := len.property
    omega)
  unfold sendJpegBlob
  refine Ends.guard (fun _ => refused _) fun some_ => ?_
  refine Ends.liftBind (Ends.perform fun answers => ⟨heap.fields, heap, rfl, ?_⟩)
  rw [whole]
  dsimp only
  cases cmdStepFor (sizeofFlipHeader + len.val + jpegPaddingSize) with
  | none => exact refused _
  | some cmdStep =>
    cases is : heap.fields.jpegStaging with
    | none => exact refused _
    | some staging =>
      refine Ends.guard (fun _ => refused _) fun fits => ?_
      have positive : 0 < len.val := Nat.pos_of_ne_zero some_
      have small : len.val + sizeofFlipHeader + jpegPaddingSize ≤ jpegStagingSize := by omega
      obtain ⟨same, place⟩ := readable positive small staging is
      rw [← same] at positive small ⊢
      exact sendStaged_ends intact is place positive small

end Sending

/-! ### What the cache holds -/

/-- The cache holds a blob. -/
def Holds (heap : Heap) (blob : List Byte) : Prop :=
  ∃ block content, heap.fields.lastJpegData = some block ∧ heap.blocks block = some content ∧
    heap.fields.lastJpegLen = blob.length ∧ content.take blob.length = blob

/-- Some accesses were made. -/
def Adds (before after : Heap) (new : List Access) : Prop :=
  after.accesses = before.accesses ++ new

section Stores

variable {before after : Heap} {blob : List Byte}

theorem keep_holds {block : Address} {content : List Byte}
    (is : before.fields.lastJpegData = some block) :
    Holds (before.keep block content blob) blob := by
  refine ⟨block, _, is, Function.update_self _ _ _, rfl, ?_⟩
  rw [splice, List.take_zero, List.nil_append]
  exact List.take_left

theorem Stored.outcome (stored : Stored before blob after) :
    ∃ new, Adds before after new ∧
      ((.refused ∈ new ∧ after.fields.lastJpegData = none ∧ after.fields.lastJpegLen = 0) ∨
        (.refused ∉ new ∧ Holds after blob)) := by
  cases stored with
  | reused block content cached found room is =>
    subst is
    exact ⟨_, rfl, Or.inr ⟨by simp, keep_holds cached⟩⟩
  | refused needed is =>
    subst is
    refine ⟨_, List.append_assoc _ _ _, Or.inl ⟨?_, rfl, rfl⟩⟩
    exact List.mem_append_right _ List.mem_cons_self
  | renewed block garbage needed vacant length is =>
    subst is
    refine ⟨_, List.append_assoc _ _ _, Or.inr ⟨?_, keep_holds rfl⟩⟩
    cases before.fields.lastJpegData <;> simp

/-- The staging buffer and blocks that are no part of the cache stay. -/
theorem Stored.elsewhere {block : Address} {content : List Byte}
    (stored : Stored before blob after) (other : before.fields.lastJpegData ≠ some block)
    (found : before.blocks block = some content) : after.blocks block = some content := by
  have kept : before.dropped.blocks block = some content := (dropped_other other).trans found
  cases stored with
  | reused last content' cached found' room is =>
    subst is
    exact (Function.update_of_ne (fun same : block = last => other (same ▸ cached)) _ _).trans found
  | refused needed is =>
    subst is
    exact kept
  | renewed place garbage needed vacant length is =>
    subst is
    have apart : block ≠ place := fun same => by
      rw [← same, kept] at vacant
      cases vacant
    exact ((Function.update_of_ne apart _ _).trans (Function.update_of_ne apart _ _)).trans kept

theorem Intact.dropped {heap : Heap} (intact : Intact heap) : Intact heap.dropped where
  sized staging is := by
    obtain ⟨content, found, length⟩ := intact.sized staging is
    exact ⟨content, (dropped_other fun cached => intact.apart staging cached is).trans found, length⟩
  cached _ := nofun
  apart _ := nofun
  empty _ := rfl
  small := by
    have := intact.small
    show 0 + sizeofFlipHeader + jpegPaddingSize ≤ jpegStagingSize
    omega

theorem Intact.renew {heap : Heap} {block : Address} {garbage : List Byte} (intact : Intact heap)
    (vacant : heap.blocks block = none) (room : heap.fields.lastJpegLen ≤ garbage.length) :
    Intact (heap.renew block garbage) where
  sized staging is := by
    obtain ⟨content, found, length⟩ := intact.sized staging is
    have apart : staging ≠ block := fun same => by
      rw [← same, found] at vacant
      cases vacant
    exact ⟨content, (Function.update_of_ne apart _ _).trans found, length⟩
  cached place is := by
    obtain rfl := Option.some.inj is
    exact ⟨garbage, Function.update_self _ _ _, room⟩
  apart place is staged := by
    obtain rfl := Option.some.inj is
    obtain ⟨content, found, -⟩ := intact.sized block staged
    rw [found] at vacant
    cases vacant
  empty := nofun
  small := intact.small

theorem Intact.keep {heap : Heap} {block : Address} {content : List Byte} (intact : Intact heap)
    (is : heap.fields.lastJpegData = some block) (room : blob.length ≤ content.length)
    (fits : blob.length + sizeofFlipHeader + jpegPaddingSize ≤ jpegStagingSize) :
    Intact (heap.keep block content blob) where
  sized staging staged := by
    obtain ⟨whole, found, length⟩ := intact.sized staging staged
    have apart : staging ≠ block := fun same => intact.apart block is (same ▸ staged)
    exact ⟨whole, (Function.update_of_ne apart _ _).trans found, length⟩
  cached place same := by
    obtain rfl := Option.some.inj (is.symm.trans same)
    refine ⟨_, Function.update_self _ _ _, ?_⟩
    rw [length_splice ((Nat.zero_add _).trans_le room)]
    exact room
  apart := intact.apart
  empty same := absurd (is.symm.trans same) nofun
  small := fits

theorem Stored.intact (intact : Intact before) (stored : Stored before blob after)
    (fits : blob.length + sizeofFlipHeader + jpegPaddingSize ≤ jpegStagingSize) : Intact after := by
  cases stored with
  | reused block content cached found room is =>
    obtain ⟨whole, held, large⟩ := intact.cached block cached
    obtain rfl := Option.some.inj (found.symm.trans held)
    exact is ▸ intact.keep cached (room.trans large) fits
  | refused needed is =>
    have dropped := intact.dropped
    exact is ▸ ⟨dropped.sized, dropped.cached, dropped.apart, dropped.empty, dropped.small⟩
  | renewed block garbage needed vacant length is =>
    have renewed := intact.dropped.renew vacant (Nat.zero_le garbage.length)
    exact is ▸ renewed.keep rfl (Nat.le_of_eq length.symm) fits

theorem Holds.same {heap : Heap} (holds : Holds heap blob)
    (data : after.fields.lastJpegData = heap.fields.lastJpegData)
    (len : after.fields.lastJpegLen = heap.fields.lastJpegLen)
    (blocks : ∀ block, heap.fields.lastJpegData = some block →
      after.blocks block = heap.blocks block) : Holds after blob := by
  obtain ⟨block, content, is, found, length, slice⟩ := holds
  exact ⟨block, content, data.trans is, (blocks block is).trans found, len.trans length, slice⟩

theorem Holds.staged (holds : Holds before blob) (intact : Intact before)
    (staged : Staged before after) : Holds after blob :=
  holds.same staged.data staged.len fun block is => staged.elsewhere block (intact.apart block is)

/-! ### The cache of the senders -/

/-- A cache with its contents, as the other files of the driver keep it, is what the memory has. -/
structure Represents (heap : Heap) (cache : KeepaliveCache) : Prop where
  data : cache.lastJpegData = heap.fields.lastJpegData.bind heap.blocks
  len : cache.lastJpegLen = heap.fields.lastJpegLen

theorem splice_front {content : List Byte} : splice 0 blob content = blob ++ content.drop blob.length := by
  rw [splice, List.take_zero, List.nil_append, Nat.zero_add]

theorem keep_data {heap : Heap} {block : Address} {content : List Byte}
    (is : heap.fields.lastJpegData = some block) :
    (heap.keep block content blob).fields.lastJpegData.bind (heap.keep block content blob).blocks =
      some (splice 0 blob content) := by
  show heap.fields.lastJpegData.bind _ = _
  rw [is]
  exact Function.update_self _ _ _

theorem store_some (cache : KeepaliveCache) {buffer : List Byte}
    (is : cache.lastJpegData = some buffer)
    (small : blob.length + sizeofFlipHeader + jpegPaddingSize < 2 ^ 32) :
    (cache.store blob small).lastJpegData = some (blob ++ buffer.drop blob.length) ∧
      (cache.store blob small).lastJpegLen = blob.length := by
  unfold KeepaliveCache.store
  split
  · next none_ => cases none_.symm.trans is
  · next content found =>
    obtain rfl := Option.some.inj (found.symm.trans is)
    exact ⟨rfl, rfl⟩

/-- Storing a blob in memory is storing it in the cache with its contents. -/
theorem Stored.represents {cache : KeepaliveCache}
    (small : blob.length + sizeofFlipHeader + jpegPaddingSize < 2 ^ 32)
    (represents : Represents before cache) (stored : Stored before blob after) :
    Represents after
      ((if cache.lastJpegData.isNone || cache.lastJpegLen < blob.length then
        .allocate after.fields.lastJpegData.isSome blob.length else cache).store blob small) := by
  have renews (needed : before.fields.lastJpegData = none ∨
      before.fields.lastJpegLen < blob.length) :
      (cache.lastJpegData.isNone || decide (cache.lastJpegLen < blob.length)) = true := by
    rw [represents.data, represents.len]
    rcases needed with none_ | less
    · rw [none_]
      rfl
    · rw [decide_eq_true less, Bool.or_true]
  cases stored with
  | reused block content cached found room is =>
    subst is
    have data : cache.lastJpegData = some content := by
      rw [represents.data, cached, Option.bind_some, found]
    obtain ⟨stored, len⟩ := store_some cache data small
    rw [if_neg (by rw [data, represents.len]; simpa using room)]
    refine ⟨?_, len⟩
    rw [stored, ← splice_front, keep_data cached]
  | refused needed is =>
    subst is
    rw [if_pos (renews needed)]
    exact ⟨rfl, rfl⟩
  | renewed block garbage needed vacant length is =>
    subst is
    rw [if_pos (renews needed)]
    obtain ⟨stored, len⟩ := @store_some blob
      (.allocate true blob.length) (List.replicate blob.length 0) rfl small
    refine ⟨?_, len⟩
    have same : garbage.drop blob.length = (List.replicate blob.length 0).drop blob.length := by
      rw [← length, List.drop_length, length, List.drop_of_length_le]
      exact Nat.le_of_eq List.length_replicate
    have data : (before.dropped.renew block garbage).fields.lastJpegData = some block := rfl
    rw [keep_data data, splice_front, same]
    exact stored

/-! ### The calls -/

/-- What is known of the two blobs. -/
structure Tracks (history : History) : Prop where
  intact : Intact history.heap
  nothing : history.cached = none → history.heap.fields.lastJpegData = none
  something : ∀ blob, history.cached = some blob →
    Holds history.heap blob ∧ history.lastSent = some blob

/-- The two blobs after a send. -/
structure Followed (before : Heap) (blob : List Byte) (result : Except Errno Unit) (after : Heap) :
    Prop where
  intact : Intact after
  failed : ∀ errno, result = .error errno →
    after.fields.lastJpegData = before.fields.lastJpegData ∧
      ∀ last, Holds before last → Holds after last
  sent : result = .ok () → ∃ new, Adds before after new ∧
    ((.refused ∈ new ∧ after.fields.lastJpegData = none) ∨ (.refused ∉ new ∧ Holds after blob))

theorem Sent.followed {result : Except Errno Unit} (intact : Intact before)
    (sent : Sent before blob result after) : Followed before blob result after := by
  cases sent with
  | failed staged =>
    exact ⟨intact.staged staged, fun _ _ => ⟨staged.data, fun last holds =>
      holds.staged intact staged⟩, nofun⟩
  | @sent middle _ staged some_ fits stored =>
    refine ⟨stored.intact (intact.staged staged) fits, nofun, fun _ => ?_⟩
    obtain ⟨early, grown, writes⟩ := staged.writes
    obtain ⟨new, added, what⟩ := stored.outcome
    have granted : Access.refused ∉ early := fun inside => by
      obtain ⟨_, _, is, _⟩ := writes _ inside
      cases is
    refine ⟨early ++ new, by rw [Adds, added, grown, List.append_assoc], ?_⟩
    rcases what with ⟨refused, none_, _⟩ | ⟨kept, holds⟩
    · exact Or.inl ⟨List.mem_append_right _ refused, none_⟩
    · exact Or.inr ⟨fun inside => (List.mem_append.1 inside).elim granted kept, holds⟩

end Stores

/-- A blob that may be missing is there if it has bytes. -/
theorem eq_some_of_getD {blob : Option (List Byte)} (some_ : 0 < (blob.getD []).length) :
    blob = some (blob.getD []) := by
  cases blob with
  | none => exact absurd some_ (Nat.lt_irrefl 0)
  | some blob => rfl

/-- What a call does that sends a blob. -/
structure Answered (call : Call) (before : Heap) (result : Except Errno Unit) (after : Heap) :
    Prop where
  intact : Intact after
  failed : ∀ errno, result = .error errno →
    after.fields.lastJpegData = before.fields.lastJpegData ∧
      ∀ last, Holds before last → Holds after last
  sent : result = .ok () → ∃ blob new, call.blob before = some blob ∧ Adds before after new ∧
    ((.refused ∈ new ∧ after.fields.lastJpegData = none) ∨ (.refused ∉ new ∧ Holds after blob))

section Calls

variable {c : Config} {head : HeadId} {heap : Heap}

theorem Sent.answered {call : Call} {result : Except Errno Unit} {after : Heap}
    (intact : Intact heap) (sent : Sent heap ((call.blob heap).getD []) result after) :
    Answered call heap result after := by
  have followed := sent.followed intact
  refine ⟨followed.intact, followed.failed, fun done => ?_⟩
  obtain ⟨new, added, what⟩ := followed.sent done
  cases sent with
  | failed => cases done
  | sent _ some_ _ _ => exact ⟨_, new, eq_some_of_getD some_, added, what⟩

/-- A blob in the staging buffer. -/
theorem sendStaging_ends {call : Call} {offset : Nat} {len : BlobLength} (intact : Intact heap)
    (place : offset = 0 ∨ offset = sizeofFlipHeader)
    (is : call.blob heap = (stagingPlace heap.fields offset).bind fun place =>
      heap.blocks.load place len.val) :
    Ends exec (Answered call heap)
      (sendJpegBlob c head (stagingPlace heap.fields offset) len.val).run heap := by
  refine (sendJpegBlob_ends intact fun some_ fits staging staged => ?_).mono
    fun _ _ sent => Sent.answered intact sent
  obtain ⟨content, found, length⟩ := intact.sized staging staged
  have at_ : stagingPlace heap.fields offset = some ((Pointer.start staging).add offset) := by
    rw [stagingPlace, staged]
    rfl
  have within : 0 + offset + len.val ≤ content.length := by
    rcases place with rfl | rfl <;> omega
  obtain ⟨bytes, loaded⟩ : ∃ bytes, heap.blocks.load ((Pointer.start staging).add offset) len.val =
      some bytes := ⟨_, Blocks.load_of_block (show heap.blocks staging = some content from found) within⟩
  have blob : call.blob heap = some bytes := by
    rw [is, at_, Option.bind_some, loaded]
  have size := Blocks.length_load loaded
  rw [blob, Option.getD_some]
  refine ⟨size, _, at_, by rw [size]; exact loaded, Or.inr ?_⟩
  rcases place with rfl | rfl
  · exact Or.inr rfl
  · exact Or.inl rfl

theorem resendBlob_ends (intact : Intact heap) :
    Ends exec (Sent heap ((Call.resend.blob heap).getD [])) (resendBlob c head).run heap := by
  have small : heap.fields.lastJpegLen + sizeofFlipHeader + jpegPaddingSize < 2 ^ 32 :=
    intact.small.trans_lt (by rw [jpegStagingSize_eq]; decide)
  refine Ends.liftBind (Ends.perform fun answers => ⟨heap.fields, heap, rfl, ?_⟩)
  refine @sendJpegBlob_ends c head heap _ _ ⟨heap.fields.lastJpegLen, small⟩ intact
    fun some_ fits staging staged => ?_
  cases cached : heap.fields.lastJpegData with
  | none => exact absurd (intact.empty cached) (Nat.ne_of_gt some_)
  | some block =>
    obtain ⟨content, found, room⟩ := intact.cached block cached
    obtain ⟨bytes, loaded⟩ : ∃ bytes, heap.blocks.load (.start block) heap.fields.lastJpegLen =
        some bytes :=
      ⟨_, Blocks.load_of_block (show heap.blocks block = some content from found)
        ((Nat.zero_add _).trans_le room)⟩
    have blob : Call.resend.blob heap = some bytes := by
      rw [Call.blob, cached, Option.bind_some, loaded]
    have size := Blocks.length_load loaded
    rw [blob, Option.getD_some]
    refine ⟨size, .start block, rfl, by rw [size]; exact loaded, Or.inl fun same => ?_⟩
    exact intact.apart block cached (staged.trans (congrArg some same.symm))

/-- A resend leaves the block it reads, and what is in it. -/
structure Unharmed (before after : Heap) : Prop where
  kept : ∀ block content, before.fields.lastJpegData = some block →
    before.blocks block = some content →
    after.fields.lastJpegData = some block ∧ after.blocks block = some content
  accesses : ∃ new, Adds before after new ∧ ∀ block content,
    before.fields.lastJpegData = some block → before.blocks block = some content →
      .freed block ∉ new ∧ ∀ target bytes, .wrote target bytes ∈ new → target.block = block →
        bytes = (content.drop target.offset).take bytes.length

/-- The blob of a resend is the front of the cache. -/
theorem resend_blob {blob : List Byte} (is : Call.resend.blob heap = some blob) :
    ∃ block content, heap.fields.lastJpegData = some block ∧ heap.blocks block = some content ∧
      blob.length = heap.fields.lastJpegLen ∧ blob = (content.drop 0).take blob.length := by
  obtain ⟨block, cached, loaded⟩ := Option.bind_eq_some_iff.1 is
  have size := Blocks.length_load loaded
  obtain ⟨content, found, _, slice⟩ := Blocks.load_eq_some loaded
  exact ⟨block, content, cached, found, size, size ▸ slice⟩

theorem Staged.unharmed {after : Heap} (intact : Intact heap) (staged : Staged heap after) :
    Unharmed heap after where
  kept block content cached found :=
    ⟨staged.data.trans cached, (staged.elsewhere block (intact.apart block cached)).trans found⟩
  accesses := by
    obtain ⟨new, added, writes⟩ := staged.writes
    refine ⟨new, added, fun block content cached found => ⟨fun inside => ?_, ?_⟩⟩
    · obtain ⟨_, _, is, _⟩ := writes _ inside
      cases is
    · intro target bytes inside same
      obtain ⟨_, _, is, place⟩ := writes _ inside
      cases is
      exact absurd (place.trans (congrArg some same)) (intact.apart block cached)

/-- A blob from the cache fits the cache, and is what stands there. -/
theorem Stored.unharmed {middle after : Heap} {blob : List Byte} {block : Address}
    {content : List Byte} (cached : middle.fields.lastJpegData = some block)
    (found : middle.blocks block = some content) (length : blob.length = middle.fields.lastJpegLen)
    (slice : blob = (content.drop 0).take blob.length)
    (stored : Stored middle blob after) :
    after.fields.lastJpegData = some block ∧ after.blocks block = some content ∧
      Adds middle after [.wrote (.start block) blob] := by
  have enough : ¬(middle.fields.lastJpegData = none ∨ middle.fields.lastJpegLen < blob.length) := by
    rintro (none_ | less)
    · cases cached.symm.trans none_
    · omega
  cases stored with
  | reused place whole is held _ same =>
    obtain rfl := Option.some.inj (cached.symm.trans is)
    obtain rfl := Option.some.inj (found.symm.trans held)
    subst same
    refine ⟨cached, ?_, rfl⟩
    exact (Function.update_self _ _ _).trans (congrArg some (splice_self slice))
  | refused needed => exact absurd needed enough
  | renewed _ _ needed => exact absurd needed enough

theorem Sent.unharmed {result : Except Errno Unit} {after : Heap} (intact : Intact heap)
    (sent : Sent heap ((Call.resend.blob heap).getD []) result after) : Unharmed heap after := by
  cases sent with
  | failed staged => exact staged.unharmed intact
  | @sent middle _ staged some_ fits stored =>
    have front := staged.unharmed intact
    obtain ⟨block, content, cached, found, length, slice⟩ :=
      resend_blob (eq_some_of_getD some_)
    obtain ⟨cachedStill, foundStill⟩ := front.kept block content cached found
    obtain ⟨data, blocks, added⟩ := stored.unharmed cachedStill foundStill
      (length.trans staged.len.symm) slice
    refine ⟨fun place whole is held => ?_, ?_⟩
    · obtain rfl := Option.some.inj (cached.symm.trans is)
      obtain rfl := Option.some.inj (found.symm.trans held)
      exact ⟨data, blocks⟩
    · obtain ⟨new, grown, harmless⟩ := front.accesses
      refine ⟨new ++ [_], by rw [Adds, added, grown, List.append_assoc], ?_⟩
      intro place whole is held
      obtain rfl := Option.some.inj (cached.symm.trans is)
      obtain rfl := Option.some.inj (found.symm.trans held)
      obtain ⟨unfreed, writes⟩ := harmless block content cached found
      refine ⟨fun inside => ?_, fun target bytes inside same => ?_⟩
      · rcases List.mem_append.1 inside with inside | inside
        · exact unfreed inside
        · cases List.mem_singleton.1 inside
      · rcases List.mem_append.1 inside with inside | inside
        · exact writes target bytes inside same
        · obtain ⟨rfl, rfl⟩ := Access.wrote.inj (List.mem_singleton.1 inside)
          exact slice

/-- An encoded frame is put into the staging buffer. -/
theorem encodeBlob_ends {data : List Byte} (intact : Intact heap)
    (fits : data.length + sizeofFlipHeader + jpegPaddingSize ≤ jpegStagingSize) :
    Ends exec (fun _ after => Staged heap after) (encodeBlob data) heap := by
  refine Ends.seq (Ends.perform fun answers => ⟨heap.fields, heap, rfl, ?_⟩)
  cases is : heap.fields.jpegStaging with
  | none =>
    rw [stagingPlace, is]
    exact Staged.refl heap
  | some staging =>
    obtain ⟨content, found, length⟩ := intact.sized staging is
    have inside : sizeofFlipHeader + data.length ≤ content.length := by omega
    rw [stagingPlace, is]
    exact Ends.perform fun answers => ⟨(), _, @copied_of_block heap content data
      ⟨staging, sizeofFlipHeader⟩ found inside, staged_copied is found inside⟩

theorem forgetBlob_ends (intact : Intact heap) :
    Ends exec (fun _ after => after = heap.dropped) forgetBlob heap := by
  refine Ends.seq (Ends.perform fun answers => ⟨heap.fields, heap, rfl, ?_⟩)
  refine Ends.seq ((kvfree_ends intact).mono fun _ after freed => ?_)
  subst freed
  exact Ends.perform fun answers => ⟨(), _, rfl, rfl⟩

end Calls

/-! ### Blobs from user space -/

/-- Only one block changed. -/
structure Beside (block : Address) (before after : Heap) : Prop where
  fields : after.fields = before.fields
  elsewhere : ∀ other, other ≠ block → after.blocks other = before.blocks other

/-- A block is neither the staging buffer nor the cache. -/
structure Free (block : Address) (heap : Heap) : Prop where
  staging : heap.fields.jpegStaging ≠ some block
  cache : heap.fields.lastJpegData ≠ some block

section Write

variable {c : Config} {head : HeadId} {heap before after : Heap} {block : Address}

theorem Intact.free (intact : Intact heap) (vacant : heap.blocks block = none) : Free block heap where
  staging is := by
    obtain ⟨content, found, -⟩ := intact.sized block is
    cases vacant.symm.trans found
  cache is := by
    obtain ⟨content, found, -⟩ := intact.cached block is
    cases vacant.symm.trans found

theorem Intact.beside (intact : Intact before) (free : Free block before)
    (beside : Beside block before after) : Intact after := by
  have away {other : Address} {place : Option Address} (notPlace : place ≠ some block)
      (is : place = some other) : after.blocks other = before.blocks other :=
    beside.elsewhere other fun same => notPlace (same ▸ is)
  refine ⟨?_, ?_, ?_, ?_, ?_⟩
  · intro staging is
    rw [beside.fields] at is
    rw [away free.staging is]
    exact intact.sized staging is
  · intro last is
    rw [beside.fields] at is ⊢
    rw [away free.cache is]
    exact intact.cached last is
  · rw [beside.fields]
    exact intact.apart
  · rw [beside.fields]
    exact intact.empty
  · rw [beside.fields]
    exact intact.small

theorem Holds.beside {blob : List Byte} (holds : Holds before blob) (free : Free block before)
    (beside : Beside block before after) : Holds after blob :=
  holds.same (congrArg _ beside.fields) (congrArg _ beside.fields) fun last is =>
    beside.elsewhere last fun same => free.cache (same ▸ is)

/-- A send leaves a block that is neither the staging buffer nor the cache. -/
theorem Sent.bystander {blob content : List Byte} {result : Except Errno Unit}
    (sent : Sent before blob result after) (free : Free block before)
    (found : before.blocks block = some content) :
    after.blocks block = some content ∧ Free block after := by
  cases sent with
  | failed staged =>
    refine ⟨(staged.elsewhere block free.staging).trans found, ?_, ?_⟩
    · rw [staged.staging]
      exact free.staging
    · rw [staged.data]
      exact free.cache
  | @sent middle _ staged some_ fits stored =>
    have foundStill := (staged.elsewhere block free.staging).trans found
    have other : middle.fields.lastJpegData ≠ some block := staged.data ▸ free.cache
    have notStaging : middle.fields.jpegStaging ≠ some block := staged.staging ▸ free.staging
    refine ⟨stored.elsewhere other foundStill, ?_⟩
    cases stored with
    | reused place whole cached held room is => exact is ▸ ⟨notStaging, other⟩
    | refused needed is => exact is ▸ ⟨notStaging, nofun⟩
    | renewed place garbage needed vacant length is =>
      refine is ▸ ⟨notStaging, fun same => ?_⟩
      obtain rfl := Option.some.inj same
      cases vacant.symm.trans ((dropped_other other).trans foundStill)

/-- A block with the blob is allocated. -/
def Heap.written (heap : Heap) (block : Address) (data : List Byte) : Heap where
  blocks := Function.update heap.blocks block (some data)
  fields := heap.fields
  accesses := heap.accesses ++ [.wrote (.start block) data]

theorem written_beside (heap : Heap) (block : Address) (data : List Byte) :
    Beside block heap (heap.written block data) :=
  ⟨rfl, fun _ other => Function.update_of_ne other _ _⟩

theorem put_ends {garbage data : List Byte} (length : garbage.length = data.length) :
    Ends exec (fun _ after => after = heap.written block data) (act (.put (.start block) data))
      { heap with blocks := Function.update heap.blocks block (some garbage) } := by
  have whole : splice 0 data garbage = data := by
    rw [splice, List.take_zero, List.nil_append, Nat.zero_add, ← length, List.drop_length,
      List.append_nil]
  refine Ends.perform fun answers => ⟨(), _, copied_of_block (Function.update_self _ _ _)
    ((Nat.zero_add _).trans_le (Nat.le_of_eq length.symm)), ?_⟩
  show Heap.mk _ _ _ = _
  rw [Pointer.start, whole, Function.update_idem]
  rfl

/-- The send of a blob in a block of its own, and the end of that block. -/
theorem sendWritten_ends {data : List Byte} (intact : Intact heap)
    (small : data.length + sizeofFlipHeader + jpegPaddingSize < 2 ^ 32)
    (found : heap.blocks block = some data) (free : Free block heap) :
    Ends exec (Sent heap data) (sendJpegBlob c head (some (.start block)) data.length).run heap := by
  refine @sendJpegBlob_ends c head heap data _ ⟨data.length, small⟩ intact
    fun some_ fits staging staged => ⟨rfl, _, rfl, ?_, Or.inl ?_⟩
  · rw [Blocks.load_of_block (show heap.blocks block = some data from found)
      (Nat.le_of_eq (Nat.zero_add _))]
    exact congrArg some (List.take_length)
  · exact fun same => free.staging (staged.trans (congrArg some same.symm))

theorem writeBlob_ends (intact : Intact heap)
    (data : { data : List Byte // data.length + sizeofFlipHeader + jpegPaddingSize < 2 ^ 32 }) :
    Ends exec (Answered (.write data) heap) (writeBlob c head data.val).run heap := by
  refine Ends.liftBind ((kvmalloc_ends data.val.length).mono fun granted first what => ?_)
  rcases what with ⟨rfl, rfl⟩ | ⟨block, garbage, rfl, vacant, length, rfl⟩
  · refine ⟨⟨intact.sized, intact.cached, intact.apart, intact.empty, intact.small⟩, ?_, nofun⟩
    exact fun _ _ => ⟨rfl, fun _ holds => holds⟩
  have free := intact.free vacant
  have beside := written_beside heap block data.val
  have intactWritten := intact.beside free beside
  refine Ends.liftBind ((put_ends length).mono fun _ second written => ?_)
  subst written
  refine Ends.liftBind ((sendWritten_ends intactWritten data.property (Function.update_self _ _ _)
    ⟨free.staging, free.cache⟩).mono fun result third sent => ?_)
  obtain ⟨found, freeStill⟩ := sent.bystander ⟨free.staging, free.cache⟩ (Function.update_self _ _ _)
  have followed := sent.followed intactWritten
  refine Ends.liftBind (Ends.perform fun answers => ⟨(), third.after (.freed block)
    (Function.update third.blocks block none), ?_, ?_⟩)
  · rw [exec, Blocks.free, found]
    rfl
  have gone : Beside block third (third.after (.freed block)
      (Function.update third.blocks block none)) :=
    ⟨rfl, fun _ other => Function.update_of_ne other _ _⟩
  have intactLast := followed.intact.beside freeStill gone
  cases result with
  | error errno =>
    refine ⟨intactLast, fun _ _ => ?_, nofun⟩
    obtain ⟨same, kept⟩ := followed.failed errno rfl
    exact ⟨same, fun last holds => (kept last (holds.beside free beside)).beside freeStill gone⟩
  | ok value =>
    obtain ⟨new, added, what⟩ := followed.sent rfl
    refine ⟨intactLast, nofun, fun _ => ⟨data.val, [.wrote (.start block) data.val] ++ new ++
      [.freed block], rfl, ?_, ?_⟩⟩
    · show third.accesses ++ [_] = _
      rw [added]
      simp only [Heap.written, List.append_assoc]
    · have same : Access.refused ∈ [.wrote (.start block) data.val] ++ new ++ [.freed block] ↔
          .refused ∈ new := by simp
      rw [same]
      exact what.imp_right (And.imp_right fun holds => holds.beside freeStill gone)

end Write

/-! ### Runs -/

/-- What the cache holds, whatever was called. -/
structure Cached (history : History) : Prop where
  /-- The block is as large as the length says. -/
  capacity : ∀ block, history.heap.fields.lastJpegData = some block →
    ∃ content, history.heap.blocks block = some content ∧
      history.heap.fields.lastJpegLen ≤ content.length
  nothing : history.heap.fields.lastJpegData = none ↔ history.cached = none
  empty : history.heap.fields.lastJpegData = none → history.heap.fields.lastJpegLen = 0
  /-- Otherwise it holds the blob that was sent last. -/
  holds : ∀ block, history.heap.fields.lastJpegData = some block →
    ∃ content blob, history.heap.blocks block = some content ∧ history.cached = some blob ∧
      history.lastSent = some blob ∧ history.heap.fields.lastJpegLen = blob.length ∧
      content.take blob.length = blob

section Runs

variable {c : Config} {head : HeadId} {history : History}

theorem Tracks.summary (tracks : Tracks history) :
    Cached history := by
  have something : ∀ blob, history.cached = some blob → history.heap.fields.lastJpegData ≠ none := by
    intro blob is none_
    obtain ⟨⟨block, _, cached, _⟩, _⟩ := tracks.something blob is
    cases cached.symm.trans none_
  refine ⟨tracks.intact.cached, ⟨fun none_ => ?_, tracks.nothing⟩, tracks.intact.empty,
    fun block is => ?_⟩
  · cases cached : history.cached with
    | none => rfl
    | some blob => exact absurd none_ (something blob cached)
  · cases cached : history.cached with
    | none => cases is.symm.trans (tracks.nothing cached)
    | some blob =>
      obtain ⟨⟨place, content, same, found, length, slice⟩, last⟩ := tracks.something blob cached
      obtain rfl := Option.some.inj (is.symm.trans same)
      exact ⟨content, blob, found, rfl, last, length, slice⟩

theorem note_failed {call : Call} {errno : Errno} {after : Heap} (enabled : call ≠ .disable) :
    history.note call (.error errno) after = ⟨after, history.lastSent, history.cached⟩ := by
  cases call with
  | disable => exact absurd rfl enabled
  | _ => rfl

theorem note_sent {call : Call} {blob : List Byte} {after : Heap} (enabled : call ≠ .disable)
    (is : call.blob history.heap = some blob) :
    history.note call (.ok ()) after = ⟨after, some blob,
      if Access.refused ∈ after.accesses.drop history.heap.accesses.length then none
      else some blob⟩ := by
  cases call with
  | disable => exact absurd rfl enabled
  | _ => simp only [History.note, is]

/-- A call that sends keeps track of the blobs. -/
theorem Answered.tracks {call : Call} {result : Except Errno Unit} {after : Heap}
    (tracks : Tracks history) (enabled : call ≠ .disable)
    (answered : Answered call history.heap result after) :
    Tracks (history.note call result after) := by
  cases result with
  | error errno =>
    obtain ⟨data, kept⟩ := answered.failed errno rfl
    rw [note_failed enabled]
    refine ⟨answered.intact, fun none_ => data.trans (tracks.nothing none_), fun blob is => ?_⟩
    obtain ⟨holds, last⟩ := tracks.something blob is
    exact ⟨kept blob holds, last⟩
  | ok value =>
    obtain ⟨blob, new, is, added, what⟩ := answered.sent rfl
    rw [note_sent enabled is, added, List.drop_left]
    rcases what with ⟨refused, none_⟩ | ⟨granted, holds⟩
    · rw [if_pos refused]
      exact ⟨answered.intact, fun _ => none_, nofun⟩
    · rw [if_neg granted]
      exact ⟨answered.intact, nofun, fun other same => Option.some.inj same ▸ ⟨holds, rfl⟩⟩

theorem call_tracks (call : Call) (tracks : Tracks history) :
    Ends exec (fun result after => Tracks (history.note call result after))
      (call.program c head).run history.heap := by
  have intact := tracks.intact
  cases call with
  | encode data =>
    refine Ends.lift ((encodeBlob_ends intact data.property).mono fun _ after staged => ?_)
    refine ⟨intact.staged staged, fun none_ => staged.data.trans (tracks.nothing none_),
      fun blob is => ?_⟩
    obtain ⟨holds, last⟩ := tracks.something blob is
    exact ⟨holds.staged intact staged, last⟩
  | sendPrepared len =>
    refine Ends.liftBind (Ends.perform fun answers => ⟨history.heap.fields, history.heap, rfl, ?_⟩)
    exact (sendStaging_ends intact (Or.inr rfl) rfl).mono fun result after answered =>
      answered.tracks tracks nofun
  | sendShifted len =>
    refine Ends.liftBind (Ends.perform fun answers => ⟨history.heap.fields, history.heap, rfl, ?_⟩)
    exact (sendStaging_ends intact (Or.inl rfl) rfl).mono fun result after answered =>
      answered.tracks tracks nofun
  | write data =>
    exact (writeBlob_ends intact data).mono fun result after answered =>
      answered.tracks tracks nofun
  | resend =>
    exact (resendBlob_ends intact).mono fun result after sent =>
      (sent.answered intact).tracks tracks nofun
  | disable =>
    refine Ends.lift ((forgetBlob_ends intact).mono fun _ after forgotten => ?_)
    subst forgotten
    exact ⟨intact.dropped, fun _ => rfl, nofun⟩

theorem step_tracks (step : Call × (Nat → Answers)) (tracks : Tracks history) :
    ∃ after, history.step c head step = some after ∧ Tracks after := by
  obtain ⟨result, after, ran, still⟩ := (@call_tracks c head history step.1 tracks).eval step.2
  refine ⟨history.note step.1 result after, ?_, still⟩
  rw [History.step, ran]
  rfl

theorem run_tracks (steps : List (Call × (Nat → Answers))) (tracks : Tracks history) :
    ∃ after, history.run c head steps = some after ∧ Tracks after := by
  induction steps generalizing history with
  | nil => exact ⟨history, rfl, tracks⟩
  | cons step rest inductionHypothesis =>
    obtain ⟨next, stepped, still⟩ := @step_tracks c head history step tracks
    obtain ⟨after, ran, finally_⟩ := inductionHypothesis still
    refine ⟨after, ?_, finally_⟩
    rw [History.run, List.foldlM_cons, stepped]
    exact ran

theorem probed_tracks (staging : Address) (content : Buffer jpegStagingSize) (others : Blocks)
    (frameSeq cmdCursorAddr fbSlotIndex : Nat) :
    Tracks (.probed staging content others frameSeq cmdCursorAddr fbSlotIndex) where
  intact := {
    sized place is := by
      obtain rfl := Option.some.inj is
      exact ⟨content.bytes, Function.update_self _ _ _, content.length⟩
    cached _ := nofun
    apart _ := nofun
    empty _ := rfl
    small := by
      show 0 + sizeofFlipHeader + jpegPaddingSize ≤ jpegStagingSize
      rw [jpegStagingSize_eq, jpegPaddingSize_eq]
      decide }
  nothing _ := rfl
  something _ := nofun

/-- Whatever is encoded, sent, sent again or forgotten, however long the blobs are, whichever
transfers fail and whenever there is no memory: every access is to memory that is there, the cache
is as large as its length says, it is a null pointer exactly when nothing is cached, with a length
of zero, and otherwise it holds the blob that was sent last. A resend of it neither frees the block
it reads nor writes anything else to it. -/
theorem keepalive_cache (c : Config) (head : HeadId) (staging : Address)
    (content : Buffer jpegStagingSize) (others : Blocks)
    (frameSeq cmdCursorAddr fbSlotIndex : Nat) (steps : List (Call × (Nat → Answers))) :
    ∃ history, (History.probed staging content others frameSeq cmdCursorAddr fbSlotIndex).run c head
        steps = some history ∧ Cached history ∧
      ∀ script, ∃ result after, (Call.resend.program c head).run.eval exec history.heap script =
        some (result, after) ∧ Unharmed history.heap after := by
  obtain ⟨history, ran, tracks⟩ := @run_tracks c head _ steps
    (probed_tracks staging content others frameSeq cmdCursorAddr fbSlotIndex)
  refine ⟨history, ran, tracks.summary, fun script => ?_⟩
  have unharmed : Ends exec (fun _ after => Unharmed history.heap after)
      (Call.resend.program c head).run history.heap :=
    (resendBlob_ends tracks.intact).mono fun _ _ sent => sent.unharmed tracks.intact
  exact unharmed.eval script

end Runs

end Trigger6.Driver.Blob
