/-
This file proves the contract of a single bulk write: the payload is delivered
exactly, or an error is returned with the fault latched. The fault may be
latched by another party before any step of the write.
-/

import Trigger6.Driver.Runs
import Trigger6.Lib.TotalRuns

namespace Trigger6.Driver

open Bytes Interaction

variable {c : Config}

/-! ### What a write leaves on the pipe -/

/-- The chunks submitted to the bulk pipe with their outcomes, oldest first. -/
def bulkSubmissions : List (Traffic c) → List (List Byte × Outcome)
  | [] => []
  | .submitted _ (.bulk chunk) outcome :: older => bulkSubmissions older ++ [(chunk, outcome)]
  | _ :: older => bulkSubmissions older

/-- The chunk was transferred in full. -/
def Accepted (entry : List Byte × Outcome) : Prop :=
  entry.2.complete (.bulk entry.1) = true

/-- Chunks are cut from the front of a payload, and nothing follows one that was not accepted. -/
structure Chunked (payload : List Byte) (sent : List (List Byte × Outcome)) : Prop where
  bounded : ∀ entry ∈ sent, entry.1 ≠ [] ∧ entry.1.length ≤ xferChunkSize
  consecutive : ∃ rest, payload = (sent.map Prod.fst).flatten ++ rest
  stops : ∀ earlier entry later, sent = earlier ++ entry :: later → later ≠ [] → Accepted entry

/-- The chunks are the whole payload, and every one was accepted. -/
def Delivered (payload : List Byte) (sent : List (List Byte × Outcome)) : Prop :=
  (sent.map Prod.fst).flatten = payload ∧ ∀ entry ∈ sent, Accepted entry

theorem chunked_nil (payload : List Byte) : Chunked payload [] :=
  ⟨nofun, ⟨payload, rfl⟩, fun earlier _ _ same => absurd same (by simp)⟩

/-- A first chunk that was accepted, and the chunks of the rest. -/
theorem Chunked.cons {first rest : List Byte} {outcome : Outcome}
    {sent : List (List Byte × Outcome)} (nonempty : first ≠ [])
    (short : first.length ≤ xferChunkSize) (accepted : Accepted (first, outcome))
    (chunked : Chunked rest sent) : Chunked (first ++ rest) ((first, outcome) :: sent) := by
  obtain ⟨left, cut⟩ := chunked.consecutive
  refine ⟨?_, ⟨left, ?_⟩, ?_⟩
  · intro entry member
    rcases List.mem_cons.mp member with rfl | later
    · exact ⟨nonempty, short⟩
    · exact chunked.bounded entry later
  · rw [List.map_cons, List.flatten_cons, List.append_assoc, ← cut]
  · intro earlier entry later same follows
    cases earlier with
    | nil =>
      obtain ⟨rfl, -⟩ := List.cons.inj same
      exact accepted
    | cons head earlier => exact chunked.stops earlier entry later (List.cons.inj same).2 follows

/-- A single chunk, whatever became of it. -/
theorem chunked_single {first : List Byte} (rest : List Byte) (outcome : Outcome)
    (nonempty : first ≠ []) (short : first.length ≤ xferChunkSize) :
    Chunked (first ++ rest) [(first, outcome)] := by
  refine ⟨?_, ⟨rest, by simp⟩, ?_⟩
  · intro entry member
    rw [List.mem_singleton.mp member]
    exact ⟨nonempty, short⟩
  · intro earlier entry later same follows
    cases earlier with
    | nil => exact absurd (List.cons.inj same).2.symm follows
    | cons head earlier => exact absurd (List.cons.inj same).2 (by simp)

theorem delivered_cons {first rest : List Byte} {outcome : Outcome}
    {sent : List (List Byte × Outcome)} (accepted : Accepted (first, outcome)) :
    Delivered (first ++ rest) ((first, outcome) :: sent) ↔ Delivered rest sent := by
  rw [Delivered, List.map_cons, List.flatten_cons, List.append_cancel_left_eq, List.forall_mem_cons]
  exact and_congr_right fun _ => and_iff_right accepted

/-! ### Running a write while others may latch the fault -/

/-- The fault as another party latches it. -/
def Dev.latched (dev : Dev c) (other : Bool) : Dev c :=
  if other then { dev with ioFaulted := true, traffic := .latched :: dev.traffic } else dev

@[simp]
theorem bulkSubmissions_latched (dev : Dev c) (other : Bool) :
    bulkSubmissions (dev.latched other).traffic = bulkSubmissions dev.traffic := by
  cases other <;> rfl

@[simp]
theorem latched_heads (dev : Dev c) (other : Bool) : (dev.latched other).heads = dev.heads := by
  cases other <;> rfl

/-- How the world answers a step before which another party may latch the fault. -/
def disturbed (thread : Thread) : Executor (calls c) (Dev c) (Bool × Env) :=
  fun dev op input => exec thread (dev.latched input.1) op input.2

/-- What a write of the payload left: the chunks submitted, and a result that tells whether they
are the payload. An error comes with the latched fault. -/
structure Sent (payload : List Byte) (dev after : Dev c) (result : Except Errno Unit)
    (sent : List (List Byte × Outcome)) : Prop where
  heads : after.heads = dev.heads
  submitted : bulkSubmissions after.traffic = bulkSubmissions dev.traffic ++ sent
  chunked : Chunked payload sent
  returns : result = .ok () ↔ Delivered payload sent
  fails : result ≠ .ok () → after.ioFaulted = true

variable (thread : Thread)

/-- The end of a chunk that failed. -/
theorem failBulk_run (change : DeviceMetrics → DeviceMetrics) (errno : Errno) (dev : Dev c)
    (script : Nat → Bool × Env) :
    ∃ after, (failBulk change errno : Fallible c Unit).run.eval (disturbed thread) dev script =
        some (.error errno, after) ∧ after.heads = dev.heads ∧
      bulkSubmissions after.traffic = bulkSubmissions dev.traffic ∧ after.ioFaulted = true := by
  refine ⟨_, rfl, ?_, ?_, rfl⟩
  · simp
  · simp [bulkSubmissions]

theorem eval_act {Result : Type} (op : Op c) (rest : op.Answer → Fallible c Result)
    (exec : Executor (calls c) (Dev c) (Bool × Env)) (dev : Dev c) (script : Nat → Bool × Env) :
    (lift (act op) >>= rest).run.eval exec dev script =
      match exec dev op (script 0) with
      | none => none
      | some (answer, after) =>
        (rest answer).run.eval exec after fun index => script (index + 1) := by
  show (Program.call (I := calls c) op _).eval exec dev script = _
  rw [Program.eval]
  cases exec dev op (script 0) <;> rfl

section Pass

variable {bound : Nat} {cursor : List Byte} {dev : Dev c} {script : Nat → Bool × Env}

/-- A pass of the chunk loop that finds the fault latched. -/
theorem bulkChunks_refused (nonempty : cursor.length ≠ 0)
    (faulted : (dev.latched (script 0).1).ioFaulted = true) :
    (bulkChunks (bound + 1) cursor cursor.length).run.eval (disturbed thread) dev script =
      some (.error .io, dev.latched (script 0).1) := by
  have answered : disturbed thread dev (.submit latchCheck false
      (.bulk (cursor.take (min xferChunkSize cursor.length)))) (script 0) =
        some (.refused, dev.latched (script 0).1) := if_pos faulted
  rw [bulkChunks, if_neg nonempty, eval_act, answered]
  rfl

/-- The device after a chunk was submitted and counted. -/
def Dev.submitted (dev : Dev c) (thread : Thread) (chunk : List Byte) (outcome : Outcome)
    (other : Bool) : Dev c :=
  let held := { dev with traffic := .submitted thread (.bulk chunk) outcome :: dev.traffic }.latched
    other
  { held with metrics := { held.metrics with bulkChunks := held.metrics.bulkChunks + 1 } }

/-- A pass of the chunk loop that submits its chunk. -/
theorem bulkChunks_submitted (nonempty : cursor.length ≠ 0)
    (clear : (dev.latched (script 0).1).ioFaulted = false) :
    let chunk := cursor.take (min xferChunkSize cursor.length)
    let outcome := (script 0).2.outcome (.bulk chunk)
    (bulkChunks (bound + 1) cursor cursor.length).run.eval (disturbed thread) dev script =
      (match outcome.status with
        | some errno => failBulk (fun metrics =>
            { metrics with bulkErrors := metrics.bulkErrors + 1 }) errno
        | none =>
          if outcome.actual = min xferChunkSize cursor.length then
            bulkChunks bound (cursor.drop (min xferChunkSize cursor.length))
              (cursor.length - min xferChunkSize cursor.length)
          else failBulk (fun metrics =>
            { metrics with bulkShortWrites := metrics.bulkShortWrites + 1 }) .io :
        Fallible c Unit).run.eval (disturbed thread)
          ((dev.latched (script 0).1).submitted thread chunk outcome (script 1).1)
          fun index => script (index + 2) := by
  intro chunk outcome
  have answered : disturbed thread dev (.submit latchCheck false (.bulk chunk)) (script 0) =
      some (.returned outcome (script 0).2.data,
        { dev.latched (script 0).1 with
          traffic := .submitted thread (.bulk chunk) outcome ::
            (dev.latched (script 0).1).traffic }) :=
    if_neg (by rw [latchCheck, clear]; exact Bool.false_ne_true)
  rw [bulkChunks, if_neg nonempty, eval_act, answered]
  rfl

theorem bulkSubmissions_submitted (chunk : List Byte) (outcome : Outcome)
    (other : Bool) : bulkSubmissions (dev.submitted thread chunk outcome other).traffic =
      bulkSubmissions dev.traffic ++ [(chunk, outcome)] :=
  bulkSubmissions_latched (c := c)
    { dev with traffic := .submitted thread (.bulk chunk) outcome :: dev.traffic } other

end Pass

section Sent

variable {first rest : List Byte} {outcome : Outcome} {dev next after : Dev c}

/-- A first chunk that was not accepted is the last. -/
theorem Sent.refused (nonempty : first ≠ []) (short : first.length ≤ xferChunkSize)
    (refused : ¬ Accepted (first, outcome))
    (heads : after.heads = dev.heads)
    (submitted : bulkSubmissions after.traffic = bulkSubmissions dev.traffic ++ [(first, outcome)])
    (faulted : after.ioFaulted = true) (errno : Errno) :
    Sent (first ++ rest) dev after (.error errno) [(first, outcome)] := by
  refine ⟨heads, submitted, chunked_single rest outcome nonempty short,
    iff_of_false (fun same => nomatch same) ?_, fun _ => faulted⟩
  rintro ⟨-, accepted⟩
  exact refused (accepted _ (List.mem_singleton_self _))

/-- A first chunk that was accepted is followed by the rest. -/
theorem Sent.cons {result : Except Errno Unit} {sent : List (List Byte × Outcome)}
    (nonempty : first ≠ []) (short : first.length ≤ xferChunkSize)
    (accepted : Accepted (first, outcome)) (heads : next.heads = dev.heads)
    (submitted : bulkSubmissions next.traffic = bulkSubmissions dev.traffic ++ [(first, outcome)])
    (others : Sent rest next after result sent) :
    Sent (first ++ rest) dev after result ((first, outcome) :: sent) := by
  refine ⟨others.heads.trans heads, ?_, others.chunked.cons nonempty short accepted,
    others.returns.trans (delivered_cons accepted).symm, others.fails⟩
  rw [others.submitted, submitted, List.append_assoc, List.singleton_append]

end Sent

/-- The chunk loop leaves chunks of its cursor, and returns without an error exactly when they
are all of it. -/
theorem bulkChunks_sent (bound : Nat) :
    ∀ (cursor : List Byte), cursor.length ≤ bound → ∀ (dev : Dev c) (script : Nat → Bool × Env),
      ∃ result after sent,
        (bulkChunks bound cursor cursor.length).run.eval (disturbed thread) dev script =
          some (result, after) ∧ Sent cursor dev after result sent := by
  induction bound with
  | zero =>
    intro cursor short dev script
    obtain rfl : cursor = [] := List.length_eq_zero_iff.mp (Nat.le_zero.mp short)
    exact ⟨_, dev, [], rfl, rfl, (List.append_nil _).symm, chunked_nil [],
      iff_of_true rfl ⟨rfl, nofun⟩, fun failed => absurd rfl failed⟩
  | succ bound inductionHypothesis =>
    intro cursor short dev script
    by_cases empty : cursor.length = 0
    · obtain rfl := List.length_eq_zero_iff.mp empty
      exact ⟨_, dev, [], rfl, rfl, (List.append_nil _).symm, chunked_nil [],
        iff_of_true rfl ⟨rfl, nofun⟩, fun failed => absurd rfl failed⟩
    by_cases faulted : (dev.latched (script 0).1).ioFaulted = true
    · refine ⟨_, _, [], bulkChunks_refused thread empty faulted, latched_heads _ _, ?_, chunked_nil cursor,
        iff_of_false (fun same => nomatch same) ?_, fun _ => faulted⟩
      · rw [bulkSubmissions_latched, List.append_nil]
      · rintro ⟨whole, -⟩
        exact empty (by rw [← whole]; rfl)
    have pass := @bulkChunks_submitted c thread bound cursor dev script empty
      (eq_false_of_ne_true faulted)
    generalize chunk_eq : cursor.take (min xferChunkSize cursor.length) = chunk at pass
    generalize rest_eq : cursor.drop (min xferChunkSize cursor.length) = rest at pass
    have cut : chunk ++ rest = cursor := by
      rw [← chunk_eq, ← rest_eq]
      exact List.take_append_drop _ _
    have length : chunk.length = min xferChunkSize cursor.length := by
      rw [← chunk_eq, List.length_take, Nat.min_assoc, Nat.min_self]
    have size : min xferChunkSize cursor.length ≠ 0 := by
      rw [xferChunkSize]
      omega
    have nonempty : chunk ≠ [] := by
      rintro rfl
      exact size length.symm
    have short : chunk.length ≤ xferChunkSize := length ▸ Nat.min_le_left _ _
    have restLength : cursor.length - min xferChunkSize cursor.length = rest.length := by
      rw [← rest_eq, List.length_drop]
    have submitted := @bulkSubmissions_submitted c thread
      (dev.latched (script 0).1) chunk ((script 0).2.outcome (.bulk chunk)) (script 1).1
    have heads : ((dev.latched (script 0).1).submitted thread chunk
        ((script 0).2.outcome (.bulk chunk)) (script 1).1).heads = dev.heads :=
      (latched_heads _ _).trans (latched_heads dev _)
    rw [bulkSubmissions_latched] at submitted
    rw [restLength, ← length] at pass
    rw [pass, ← cut]
    cases status : ((script 0).2.outcome (.bulk chunk)).status with
    | some errno =>
      obtain ⟨after, ran, same, kept, faulted⟩ := failBulk_run thread
        (fun metrics => { metrics with bulkErrors := metrics.bulkErrors + 1 }) errno
        ((dev.latched (script 0).1).submitted thread chunk ((script 0).2.outcome (.bulk chunk))
          (script 1).1) fun index => script (index + 2)
      refine ⟨_, _, _, ran, .refused nonempty short (fun accepted => ?_) (same.trans heads)
        (kept.trans submitted) faulted errno⟩
      rw [Accepted, Outcome.complete, status] at accepted
      cases accepted
    | none =>
      by_cases whole : ((script 0).2.outcome (.bulk chunk)).actual = chunk.length
      · have fewer : rest.length ≤ bound := by omega
        obtain ⟨result, after, sent, ran, others⟩ := inductionHypothesis rest fewer
          ((dev.latched (script 0).1).submitted thread chunk ((script 0).2.outcome (.bulk chunk))
            (script 1).1) fun index => script (index + 2)
        refine ⟨result, after, _, ?_, .cons nonempty short ?_ heads submitted others⟩
        · simp only [if_pos whole]
          exact ran
        · rw [Accepted, Outcome.complete, status, whole]
          exact beq_self_eq_true _
      · obtain ⟨after, ran, same, kept, faulted⟩ := failBulk_run thread
          (fun metrics => { metrics with bulkShortWrites := metrics.bulkShortWrites + 1 }) .io
          ((dev.latched (script 0).1).submitted thread chunk ((script 0).2.outcome (.bulk chunk))
            (script 1).1) fun index => script (index + 2)
        refine ⟨.error .io, after, _, ?_, .refused nonempty short (fun accepted => ?_)
          (same.trans heads) (kept.trans submitted) faulted .io⟩
        · simp only [if_neg whole]
          exact ran
        · rw [Accepted, Outcome.complete, Bool.and_eq_true] at accepted
          exact whole (beq_iff_eq.mp accepted.2)

/-! ### The whole write -/

/-- The error with which the checks before the loop end a write. -/
def entryError (dev : Dev c) : Option Errno :=
  if c.queryOnly then some .perm
  else if c.manualOnly || dev.ioFaulted then some .io
  else if !dev.bulkChunk then some .noMemory
  else none

theorem latched_bulkChunk (dev : Dev c) (other : Bool) :
    (dev.latched other).bulkChunk = dev.bulkChunk := by
  cases other <;> rfl

/-- The reads of the device that the checks make. -/
theorem eval_readDev {Result : Type} (rest : Dev c → Fallible c Result) (dev : Dev c)
    (script : Nat → Bool × Env) :
    (lift readDev >>= rest).run.eval (disturbed thread) dev script =
      (rest (dev.latched (script 0).1)).run.eval (disturbed thread) (dev.latched (script 0).1)
        fun index => script (index + 1) :=
  eval_act .read rest (disturbed thread) dev script

/-- A write that fails a check before the loop submits nothing. -/
theorem bulkWrite_entry {payload : List Byte} (nonempty : payload ≠ []) (dev : Dev c)
    (script : Nat → Bool × Env) {errno : Errno}
    (fails : entryError (dev.latched (script 0).1) = some errno) :
    ∃ after, (bulkWrite payload payload.length).run.eval (disturbed thread) dev script =
        some (.error errno, after) ∧ after.heads = dev.heads ∧
      bulkSubmissions after.traffic = bulkSubmissions dev.traffic ∧
      (after.ioFaulted = true ∨ c.queryOnly = true ∨ c.manualOnly = true ∨
        dev.bulkChunk = false) := by
  have length : payload.length ≠ 0 := fun zero => nonempty (List.length_eq_zero_iff.mp zero)
  unfold entryError at fails
  unfold bulkWrite
  by_cases query : c.queryOnly = true
  · rw [if_pos query] at fails
    obtain rfl := Option.some.inj fails
    rw [if_pos query]
    exact ⟨dev, rfl, rfl, rfl, .inr (.inl query)⟩
  · rw [if_neg query] at fails
    rw [if_neg query]
    by_cases faulted : (c.manualOnly || (dev.latched (script 0).1).ioFaulted) = true
    · rw [if_pos faulted] at fails
      obtain rfl := Option.some.inj fails
      refine ⟨dev.latched (script 0).1, ?_, latched_heads _ _, bulkSubmissions_latched _ _, ?_⟩
      · rw [eval_readDev thread, if_pos faulted]
        rfl
      · rcases Bool.or_eq_true_iff.mp faulted with manual | latched
        · exact .inr (.inr (.inl manual))
        · exact .inl latched
    · rw [if_neg faulted] at fails
      have missing : (!((dev.latched (script 0).1).latched (script 1).1).bulkChunk) = true := by
        rw [latched_bulkChunk]
        by_contra present
        rw [if_neg present] at fails
        cases fails
      rw [latched_bulkChunk] at missing
      rw [if_pos missing] at fails
      obtain rfl := Option.some.inj fails
      rw [eval_readDev thread, if_neg faulted, if_neg length, eval_readDev, latched_bulkChunk,
        if_pos missing]
      refine ⟨_, rfl, ?_, ?_, .inr (.inr (.inr (by simpa [latched_bulkChunk] using missing)))⟩
      · rw [latched_heads, latched_heads]
      · rw [bulkSubmissions_latched, bulkSubmissions_latched]

/-- A write that passes the checks runs its chunk loop. -/
theorem bulkWrite_loop {payload : List Byte} (nonempty : payload ≠ []) (dev : Dev c)
    (script : Nat → Bool × Env) (passes : entryError (dev.latched (script 0).1) = none) :
    ∃ next, next.heads = dev.heads ∧
      bulkSubmissions next.traffic = bulkSubmissions dev.traffic ∧
      (bulkWrite payload payload.length).run.eval (disturbed thread) dev script =
        (bulkChunks payload.length payload payload.length).run.eval (disturbed thread) next
          fun index => script (index + 3) := by
  have length : payload.length ≠ 0 := fun zero => nonempty (List.length_eq_zero_iff.mp zero)
  unfold entryError at passes
  have query : ¬ c.queryOnly = true := by
    intro query
    rw [if_pos query] at passes
    cases passes
  rw [if_neg query] at passes
  have clear : ¬ (c.manualOnly || (dev.latched (script 0).1).ioFaulted) = true := by
    intro faulted
    rw [if_pos faulted] at passes
    cases passes
  rw [if_neg clear] at passes
  have present : ¬ (!(dev.latched (script 0).1).bulkChunk) = true := by
    intro missing
    rw [if_pos missing] at passes
    cases passes
  unfold bulkWrite
  rw [if_neg query, eval_readDev, if_neg clear, if_neg length, eval_readDev, latched_bulkChunk,
    if_neg present]
  refine ⟨_, ?_, ?_, eval_act _ _ _ _ _⟩
  · show (Dev.latched _ _).heads = _
    rw [latched_heads, latched_heads, latched_heads]
  · show bulkSubmissions (Dev.latched _ _).traffic = _
    rw [bulkSubmissions_latched, bulkSubmissions_latched, bulkSubmissions_latched]

/-- A bulk write of a non-empty payload comes to its end. What it submits are consecutive chunks
from the front of the payload, none after one that was not accepted in full, and it returns 0
exactly when they are the whole payload, all accepted. Where a check at the entry fails it
submits nothing and returns the check's error; any other error leaves the fault latched. -/
theorem bulk_write_exact {payload : List Byte} (nonempty : payload ≠ []) (thread : Thread)
    (dev : Dev c) (script : Nat → Bool × Env) :
    ∃ result after sent,
      (bulkWrite payload payload.length).run.eval (disturbed thread) dev script =
        some (result, after) ∧
      bulkSubmissions after.traffic = bulkSubmissions dev.traffic ++ sent ∧
      Chunked payload sent ∧ (result = .ok () ↔ Delivered payload sent) ∧
      (∀ errno, entryError (dev.latched (script 0).1) = some errno →
        result = .error errno ∧ sent = []) ∧
      (result ≠ .ok () → after.ioFaulted = true ∨ c.queryOnly = true ∨ c.manualOnly = true ∨
        dev.bulkChunk = false) := by
  cases checked : entryError (dev.latched (script 0).1) with
  | some errno =>
    obtain ⟨after, ran, -, submitted, faulted⟩ :=
      bulkWrite_entry thread nonempty dev script checked
    refine ⟨_, after, [], ran, by rw [submitted, List.append_nil], chunked_nil payload,
      iff_of_false (fun same => nomatch same) fun delivered => nonempty delivered.1.symm, ?_,
      fun _ => faulted⟩
    intro other same
    rw [Option.some.inj same]
    exact ⟨rfl, rfl⟩
  | none =>
    obtain ⟨next, -, kept, ran⟩ := bulkWrite_loop thread nonempty dev script checked
    obtain ⟨result, after, sent, looped, outcome⟩ :=
      bulkChunks_sent thread payload.length payload le_rfl next
        fun index => script (index + 3)
    exact ⟨result, after, sent, ran.trans looped, kept ▸ outcome.submitted, outcome.chunked,
      outcome.returns, nofun, fun failed => .inl (outcome.fails failed)⟩

/-- Three bytes to a device whose fault another party latches after they were taken. -/
theorem bulk_write_three :
    ∃ result after sent,
      (bulkWrite (c := sampleConfig) [1, 2, 3] 3).run.eval (disturbed (.worker .primary))
        (.probed sampleConfig) (fun index => (index == 4, { actual := 3 })) =
          some (result, after) ∧
      (result = .ok () ↔ Delivered [1, 2, 3] sent) := by
  obtain ⟨result, after, sent, ran, -, -, returns, -⟩ :=
    bulk_write_exact (show [1, 2, 3] ≠ [] by decide) (.worker .primary) (.probed sampleConfig)
      fun index => (index == 4, { actual := 3 })
  exact ⟨result, after, sent, ran, returns⟩

/-! ### What a record leaves on the pipe -/

/-- The bytes submitted to the bulk pipe, oldest first. -/
def submittedBytes (traffic : List (Traffic c)) : List Byte :=
  ((bulkSubmissions traffic).map Prod.fst).flatten

/-- What was submitted between two states is the front of `record`, and all of it after a
success. The heads are as they were. -/
structure Submits (record : List Byte) (dev : Dev c) (result : Except Errno Unit) (after : Dev c) :
    Prop where
  heads : after.heads = dev.heads
  front : ∃ written rest, record = written ++ rest ∧
    submittedBytes after.traffic = submittedBytes dev.traffic ++ written ∧
    (result = .ok () → rest = [])

/-- One pass of the chunk loop: a chunk, and the rest of the loop. -/
def bulkPass (chunk : List Byte) (size : Nat) (rest : Fallible c Unit) : Fallible c Unit := do
  match ← lift (act (.submit latchCheck false (.bulk chunk))) with
  | .refused => throw .io
  | .noMemory => throw .noMemory
  | .returned outcome _ =>
    lift (act (.tuneDevice fun metrics => { metrics with bulkChunks := metrics.bulkChunks + 1 }))
    match outcome.status with
    | some errno => failBulk (fun metrics =>
        { metrics with bulkErrors := metrics.bulkErrors + 1 }) errno
    | none =>
      if outcome.actual = size then rest
      else failBulk (fun metrics =>
        { metrics with bulkShortWrites := metrics.bulkShortWrites + 1 }) .io

theorem bulkChunks_succ (bound : Nat) (cursor : List Byte) (remaining : Nat) :
    bulkChunks (c := c) (bound + 1) cursor remaining =
      if remaining = 0 then pure () else
        bulkPass (cursor.take (min xferChunkSize remaining)) (min xferChunkSize remaining)
          (bulkChunks bound (cursor.drop (min xferChunkSize remaining))
            (remaining - min xferChunkSize remaining)) := by
  rw [bulkChunks]
  by_cases none : remaining = 0
  · rw [if_pos none, if_pos none]
  · rw [if_neg none, if_neg none]
    refine bind_congr fun submission => ?_
    cases submission with
    | refused => rfl
    | noMemory => rfl
    | returned outcome data => rfl

/-- A part of a longer source buffer is written as that part. -/
theorem bulkChunks_take (bound : Nat) : ∀ (cursor : List Byte) (remaining : Nat),
    bulkChunks (c := c) bound cursor remaining =
      bulkChunks bound (cursor.take remaining) remaining := by
  induction bound with
  | zero => exact fun _ _ => rfl
  | succ bound inductionHypothesis =>
    intro cursor remaining
    have chunk : (cursor.take remaining).take (min xferChunkSize remaining) =
        cursor.take (min xferChunkSize remaining) := by
      rw [List.take_take, Nat.min_assoc, Nat.min_self]
    have rest : bulkChunks (c := c) bound (cursor.drop (min xferChunkSize remaining))
        (remaining - min xferChunkSize remaining) =
          bulkChunks bound ((cursor.take remaining).drop (min xferChunkSize remaining))
            (remaining - min xferChunkSize remaining) := by
      rw [inductionHypothesis, List.drop_take]
    rw [bulkChunks_succ, bulkChunks_succ, chunk, rest]

theorem bulkWrite_take (src : List Byte) (len : Nat) :
    bulkWrite (c := c) src len = bulkWrite (src.take len) len := by
  rw [bulkWrite, bulkWrite, bulkChunks_take]

instance : Inhabited Env := ⟨{}⟩

theorem submits_nothing {record : List Byte} {dev after : Dev c} {result : Except Errno Unit}
    (heads : after.heads = dev.heads)
    (same : bulkSubmissions after.traffic = bulkSubmissions dev.traffic)
    (done : result = .ok () → record = []) : Submits record dev result after := by
  refine ⟨heads, [], record, rfl, ?_, done⟩
  rw [submittedBytes, submittedBytes, same, List.append_nil]

/-- A bulk write ends, and has submitted the front of its payload. -/
theorem bulkWrite_ends (thread : Thread) {src : List Byte} {len : Nat} (present : len ≤ src.length)
    (dev : Dev c) :
    Ends (disturbed thread) (Submits (src.take len) dev) (bulkWrite src len).run dev := by
  refine Ends.of_eval fun script => ?_
  rw [bulkWrite_take]
  have length : (src.take len).length = len := List.length_take_of_le present
  generalize src.take len = payload at length ⊢
  subst length
  by_cases empty : payload = []
  · subst empty
    unfold bulkWrite
    by_cases query : c.queryOnly = true
    · rw [if_pos query]
      exact ⟨_, dev, rfl, submits_nothing rfl rfl fun _ => rfl⟩
    · rw [if_neg query, eval_readDev]
      by_cases faulted : (c.manualOnly || (dev.latched (script 0).1).ioFaulted) = true
      · rw [if_pos faulted]
        exact ⟨_, _, rfl, submits_nothing (latched_heads _ _) (bulkSubmissions_latched _ _)
          fun _ => rfl⟩
      · rw [if_neg faulted]
        exact ⟨_, _, rfl, submits_nothing (latched_heads _ _) (bulkSubmissions_latched _ _)
          fun _ => rfl⟩
  · cases checked : entryError (dev.latched (script 0).1) with
    | some errno =>
      obtain ⟨after, ran, heads, same, -⟩ :=
        bulkWrite_entry thread empty dev script checked
      exact ⟨_, after, ran, submits_nothing heads same nofun⟩
    | none =>
      obtain ⟨next, heads, same, ran⟩ := bulkWrite_loop thread empty dev script checked
      obtain ⟨result, after, sent, looped, outcome⟩ :=
        bulkChunks_sent thread payload.length payload le_rfl next
          fun index => script (index + 3)
      obtain ⟨rest, cut⟩ := outcome.chunked.consecutive
      refine ⟨result, after, ran.trans looped, outcome.heads.trans heads, _, rest, cut, ?_, ?_⟩
      · rw [submittedBytes, submittedBytes, outcome.submitted, same, List.map_append,
          List.flatten_append]
      · intro done
        have whole := (outcome.returns.mp done).1
        rw [← whole] at cut
        exact List.append_cancel_left (cut.symm.trans (by rw [whole, List.append_nil]))

/-- A record ends, and has submitted the front of its header and payload. -/
theorem writeRecord_ends (thread : Thread) (header : BulkHeader) {payload : List Byte} {len : Nat}
    (present : len ≤ payload.length) (dev : Dev c) :
    Ends (disturbed thread) (Submits (header.bytes ++ payload.take len) dev)
      (writeRecord header payload len).run dev := by
  have whole : header.bytes.take sizeofBulkHeader = header.bytes :=
    List.take_of_length_le header.length_bytes.le
  have first := bulkWrite_ends thread (show sizeofBulkHeader ≤ header.bytes.length from header.length_bytes.ge) dev
  rw [whole] at first
  refine Ends.tryBind (first.mono fun result between submits => ?_)
  obtain ⟨written, rest, cut, bytes, done⟩ := submits.front
  cases result with
  | error errno =>
    refine ⟨submits.heads, written, rest ++ payload.take len, ?_, bytes, nofun⟩
    rw [cut, List.append_assoc]
  | ok value =>
    obtain rfl := done rfl
    rw [List.append_nil] at cut
    subst cut
    refine (bulkWrite_ends thread present between).mono fun result after next => ?_
    obtain ⟨further, left, cut, more, done⟩ := next.front
    refine ⟨next.heads.trans submits.heads, header.bytes ++ further, left, ?_, ?_, done⟩
    · rw [cut, List.append_assoc]
    · rw [more, bytes, List.append_assoc]

end Trigger6.Driver
