/-
This file proves the framing of the bulk pipe. Whatever the threads of the driver
do, and wherever a transfer fails or the fault is latched, the bytes delivered are
complete records, then possibly part of one more; a record is left torn only with
the fault latched, and then nothing more is delivered.

The worlds come with a ghost, the set of threads inside a section that the
unplugging waits for: the bulk buffer is freed only when it is empty.
-/

import Mathlib.Data.Finset.Card
import Trigger6.Driver.SendThreads

namespace Trigger6.Driver

open Bytes Interaction Framing

variable {c : Config}

/-! ### Streams of records -/

/-- A record that the rules let out. -/
structure SendRules.Sent (rules : SendRules c) where
  header : BulkHeader
  payload : List Byte
  accepts : rules.Accepts header payload

variable {rules : SendRules c}

def SendRules.Sent.record (sent : rules.Sent) : Record bulkFormat :=
  sent.header.record sent.payload sent.accepts.announces

/-- The bytes of some records. -/
def streamOf (sent : List rules.Sent) : List Byte := encode (sent.map SendRules.Sent.record)

theorem streamOf_concat (sent : List rules.Sent) (last : rules.Sent) :
    streamOf (sent ++ [last]) = streamOf sent ++ (last.header.bytes ++ last.payload) := by
  rw [streamOf, List.map_append, encode_append, List.map_singleton, encode_cons, encode_nil,
    List.append_nil]
  rfl

/-- Complete records, and nothing else. -/
def Complete (rules : SendRules c) (bytes : List Byte) : Prop :=
  ∃ sent : List rules.Sent, bytes = streamOf sent

/-- Complete records, and then part of one more. -/
def Broken (rules : SendRules c) (bytes : List Byte) : Prop :=
  ∃ (sent : List rules.Sent) (torn : rules.Sent) (left : List Byte),
    bytes = streamOf sent ++ left ∧ left ≠ [] ∧ left <+: torn.record.bytes ∧
      left ≠ torn.record.bytes

/-- Complete records, then a header and part of the payload it announces. -/
def UnderWay (rules : SendRules c) (header payload bytes : List Byte) : Prop :=
  ∃ (sent : List rules.Sent) (current : rules.Sent),
    bytes = streamOf sent ++ (header ++ payload) ∧ current.header.bytes = header ∧
      payload <+: current.payload ∧ payload.length < current.payload.length

/-- However much of a record is out, the stream is complete or broken. -/
theorem complete_or_broken (sent : List rules.Sent) {current : rules.Sent} {left : List Byte}
    (part : left <+: current.record.bytes) :
    Complete rules (streamOf sent ++ left) ∨ Broken rules (streamOf sent ++ left) := by
  by_cases whole : left = current.record.bytes
  · exact .inl ⟨sent ++ [current], by rw [streamOf_concat, whole]; rfl⟩
  · by_cases none : left = []
    · exact .inl ⟨sent, by rw [none, List.append_nil]⟩
    · exact .inr ⟨sent, current, left, rfl, none, part, whole⟩

theorem UnderWay.complete_or_broken {header payload bytes : List Byte}
    (under : UnderWay rules header payload bytes) : Complete rules bytes ∨ Broken rules bytes := by
  obtain ⟨sent, current, rfl, rfl, part, -⟩ := under
  exact Driver.complete_or_broken sent
    ((List.prefix_append_right_inj current.header.bytes).mpr part)

/-- What is known of the stream in each phase of a sender, with the latch. -/
def StreamIn (rules : SendRules c) (bytes : List Byte) (faulted : Bool) : LockPhase → Prop
  | .free => True
  | .ready => Complete rules bytes ∨ (Broken rules bytes ∧ faulted = true)
  | .owing header payload => UnderWay rules header payload bytes
  | .failing => Complete rules bytes ∨ Broken rules bytes
  | .halted => faulted = true ∧ (Complete rules bytes ∨ Broken rules bytes)

namespace StreamIn

variable {bytes : List Byte} {faulted : Bool} {lock : LockPhase}

/-- Another thread may latch the fault. -/
theorem latch (stream : StreamIn rules bytes faulted lock) {later : Bool}
    (kept : faulted = true → later = true) : StreamIn rules bytes later lock := by
  cases lock with
  | free => trivial
  | ready => exact stream.imp_right fun broken => ⟨broken.1, kept broken.2⟩
  | owing header payload => exact stream
  | failing => exact stream
  | halted => exact ⟨kept stream.1, stream.2⟩

/-- Between two records a broken stream comes with the latch. -/
theorem settled (stream : StreamIn rules bytes faulted lock) (settled : lock.Settled) :
    Complete rules bytes ∨ (Broken rules bytes ∧ faulted = true) := by
  cases lock with
  | ready => exact stream
  | halted => exact stream.2.imp_right fun broken => ⟨broken, stream.1⟩
  | _ => exact settled.elim

/-- Outside of `free` the stream is complete or broken. -/
theorem complete_or_broken (stream : StreamIn rules bytes faulted lock)
    (held : lock ≠ .free) : Complete rules bytes ∨ Broken rules bytes := by
  cases lock with
  | free => exact absurd rfl held
  | ready => exact stream.imp_right And.left
  | owing header payload => exact UnderWay.complete_or_broken stream
  | failing => exact stream
  | halted => exact stream.2

/-- After a complete chunk of a record. -/
theorem sent (before : List rules.Sent) (current : rules.Sent) {payload : List Byte}
    (part : payload <+: current.payload) :
    StreamIn rules (streamOf before ++ (current.header.bytes ++ payload)) faulted
      (.sent current.header.bytes payload) := by
  rw [LockPhase.sent, current.accepts.announces.announced]
  by_cases whole : current.payload.length ≤ payload.length
  · rw [if_pos whole]
    refine .inl ⟨before ++ [current], ?_⟩
    rw [streamOf_concat, part.eq_of_length_le whole]
  · rw [if_neg whole]
    exact ⟨before, current, rfl, rfl, part, Nat.not_le.mp whole⟩

/-- After any chunk of a record, of which `out` was there before. -/
theorem afterChunk (before : List rules.Sent) (current : rules.Sent)
    {out header payload chunk : List Byte} (outcome : Outcome) (data : List Byte)
    (part : out ++ chunk <+: current.record.bytes)
    (sent : StreamIn rules (streamOf before ++ (out ++ chunk)) faulted (.sent header payload)) :
    StreamIn rules (streamOf before ++ out ++ chunk.take outcome.actual) faulted
      (.afterChunk header payload chunk (.returned outcome data)) := by
  cases complete : outcome.complete (.bulk chunk) with
  | true =>
    rw [afterChunk_complete complete]
    have all : chunk.take outcome.actual = chunk := by
      rw [Outcome.complete, Bool.and_eq_true, beq_iff_eq, beq_iff_eq] at complete
      rw [complete.2]
      exact List.take_length
    rw [all, List.append_assoc]
    exact sent
  | false =>
    rw [afterChunk_failed complete, List.append_assoc]
    refine Driver.complete_or_broken before (List.IsPrefix.trans ?_ part)
    exact (List.prefix_append_right_inj out).mpr (List.take_prefix _ _)

theorem headerChunk (before : List rules.Sent) (current : rules.Sent) (outcome : Outcome)
    (data : List Byte) :
    StreamIn rules (streamOf before ++ current.header.bytes.take outcome.actual) faulted
      (.afterChunk current.header.bytes [] current.header.bytes (.returned outcome data)) := by
  have first : StreamIn rules (streamOf before ++ (current.header.bytes ++ [])) faulted
      (.sent current.header.bytes []) := StreamIn.sent before current List.nil_prefix
  rw [List.append_nil] at first
  rw [← List.append_nil (streamOf before)]
  exact afterChunk before current outcome data (List.prefix_append _ _) first

theorem payloadChunk (before : List rules.Sent) (current : rules.Sent)
    {payload chunk rest : List Byte} (whole : current.payload = payload ++ chunk ++ rest)
    (outcome : Outcome) (data : List Byte) :
    StreamIn rules
      (streamOf before ++ (current.header.bytes ++ payload) ++ chunk.take outcome.actual) faulted
      (.afterChunk current.header.bytes (payload ++ chunk) chunk (.returned outcome data)) := by
  have part : payload ++ chunk <+: current.payload := ⟨rest, whole.symm⟩
  refine afterChunk before current outcome data ?_ ?_
  · rw [List.append_assoc]
    exact (List.prefix_append_right_inj _).mpr part
  · rw [List.append_assoc]
    exact StreamIn.sent before current part

end StreamIn

/-! ### What a step leaves of a head -/

/-- The bookkeeping still fits, no keepalive is due without leave, and the boot keepalive has not
been armed. -/
structure Kept (rules : SendRules c) (head : HeadId) (before after : HeadState c) : Prop where
  fits : rules.fits head before.sender.place → rules.fits head after.sender.place
  due : after.keepaliveDue = true → before.keepaliveDue = true ∨ rules.replays head
  boot : (before.jobs .bootKeepaliveWork).pending = false →
    (after.jobs .bootKeepaliveWork).pending = false

section Heads

variable {head : HeadId} {before between after : HeadState c} {dev : Dev c}

theorem Kept.refl (state : HeadState c) : Kept rules head state state := ⟨id, .inl, id⟩

theorem Kept.trans (first : Kept rules head before between) (second : Kept rules head between after) :
    Kept rules head before after :=
  ⟨fun fits => second.fits (first.fits fits),
    fun due => (second.due due).elim first.due .inr,
    fun idle => second.boot (first.boot idle)⟩

theorem kept_requeue (state : HeadState c) {popped : Popped}
    (due : popped.keepaliveDue = true → rules.replays head) :
    Kept rules head state (requeueActivity state popped) := by
  unfold requeueActivity
  split
  · exact .refl state
  · split
    · next keepalive => exact ⟨id, fun _ => .inr (due keepalive), id⟩
    · exact ⟨id, .inl, id⟩

theorem kept_trip (state : HeadState c) (errno : Errno) (source : String) :
    Kept rules head state (tripHead state errno source) := by
  unfold tripHead
  split
  · exact .refl state
  · exact ⟨id, .inl, id⟩

theorem kept_take {popped : Popped} {state : HeadState c}
    (taken : takeActivity dev head = some (popped, state)) :
    Kept rules head (dev.heads head) state := by
  simp only [takeActivity] at taken
  split at taken
  · cases taken
    exact ⟨id, .inl, id⟩
  · split at taken <;> cases taken
    exact ⟨id, by rintro ⟨⟩, id⟩

/-- The worker takes a keepalive only where one is due. -/
theorem due_of_take {popped : Popped} {state : HeadState c}
    (taken : takeActivity dev head = some (popped, state)) (keepalive : popped.keepaliveDue = true) :
    (dev.heads head).keepaliveDue = true := by
  simp only [takeActivity] at taken
  split at taken
  · cases taken
    cases keepalive
  · split at taken
    · next due => exact (Bool.and_eq_true _ _ ▸ due).1
    · cases taken

theorem kept_setHead {change : HeadState c → HeadState c}
    (kept : Kept rules head (dev.heads head) (change (dev.heads head))) (other : HeadId) :
    Kept rules other (dev.heads other) ((dev.setHead head change).heads other) := by
  by_cases same : other = head
  · subst same
    rw [Dev.setHead_self]
    exact kept
  · rw [Dev.setHead_other _ _ _ _ same]
    exact .refl _

/-- A change of job flags that does not arm the boot keepalive. -/
theorem kept_setJob {work : Work} {change : Job → Job}
    (quiet : work = .bootKeepaliveWork → ∀ job : Job, job.pending = false →
      (change job).pending = false) (other : HeadId) :
    Kept rules other (dev.heads other) ((dev.setJob head work change).heads other) := by
  refine kept_setHead ⟨id, .inl, fun idle => ?_⟩ other
  show (Function.update (dev.heads head).jobs work _ _).pending = false
  by_cases same : work = .bootKeepaliveWork
  · subst same
    rw [Function.update_self]
    exact quiet rfl _ idle
  · rw [Function.update_of_ne (Ne.symm same)]
    exact idle

end Heads

/-- Every step that the protocol allows keeps the heads. -/
theorem exec_kept {thread : Thread} {phase : SendPhase} {dev after : Dev c} {op : Op c} {env : Env}
    {answer : op.Answer} (allowed : (sending rules).allowed phase op)
    (answered : exec thread dev op env = some (answer, after)) (head : HeadId) :
    Kept rules head (dev.heads head) (after.heads head) := by
  have armed : ∀ {dev : Dev c} {head : HeadId} {work : Work}, work ≠ .bootKeepaliveWork →
      ∀ other, Kept rules other (dev.heads other) ((dev.armJob thread head work).heads other) := by
    intro dev head work different other
    show Kept _ _ _ ((dev.setJob head work fun job => { job with pending := true }).heads other)
    exact kept_setJob (fun same => absurd same different) other
  cases op with
  | tune target change =>
    cases answered
    exact kept_setHead ⟨allowed (dev.heads target).sender, .inl, id⟩ head
  | setKeepaliveDue target due =>
    cases answered
    exact kept_setHead ⟨id, fun is => .inr (allowed is), id⟩ head
  | setScanoutActive | copyLastSent | setLastSentValid | swapExport | freeBuffers =>
    cases answered
    exact kept_setHead ⟨id, .inl, id⟩ head
  | requeue =>
    cases answered
    exact kept_setHead (kept_requeue _ allowed) head
  | trip =>
    cases answered
    exact kept_setHead (kept_trip _ _ _) head
  | take =>
    simp only [exec] at answered
    split at answered <;> cases answered
    · exact .refl _
    · next taken => exact kept_setHead (kept_take taken) head
  | yieldTurn =>
    simp only [exec] at answered
    split at answered <;> cases answered
    · exact .refl _
    · exact kept_setHead (kept_requeue _ allowed) head
  | packBack =>
    simp only [exec] at answered
    split at answered <;> cases answered
    · exact .refl _
    · exact kept_setHead ⟨id, .inl, id⟩ head
  | stage target src pitch =>
    simp only [exec] at answered
    split at answered
    · cases answered
      exact .refl _
    · next queue _ =>
      have staged : Kept rules head (dev.heads head)
          ((dev.setHead target fun state => { state with queue := queue }).heads head) :=
        kept_setHead ⟨id, .inl, id⟩ head
      split at answered <;> cases answered
      · exact staged.trans (armed (by decide) head)
      · exact staged
  | arm target work =>
    cases answered
    exact armed allowed head
  | cancelSync target work =>
    simp only [exec] at answered
    split at answered <;> cases answered
    show Kept _ _ _ ((dev.setJob target work fun job => { job with pending := false }).heads head)
    exact kept_setJob (fun _ _ _ => rfl) head
  | devEnter | awaitSections | lockIo | flushWorkqueue | destroyWorkqueue =>
    simp only [exec] at answered
    split at answered <;> cases answered <;> exact .refl _
  | submit =>
    simp only [exec] at answered
    split at answered
    · cases answered
      exact .refl _
    · split at answered <;> cases answered <;> exact .refl _
  | _ =>
    cases answered
    exact .refl _

/-! ### One thread's part -/

/-- A device, with the threads that are inside a section the unplugging waits for. -/
abbrev Tracked (c : Config) := Dev c × Finset Thread

/-- Who is inside after a call. -/
def trackSections (thread : Thread) (op : Op c) (answer : op.Answer) (inside : Finset Thread) :
    Finset Thread :=
  match op, answer with
  | .devEnter, entered => if (entered : Bool) then insert thread inside else inside
  | .devExit, _ => inside.erase thread
  | _, _ => inside

/-- A request on record that is not a bulk transfer. -/
def Traffic.request : Traffic c → Option Transfer
  | .submitted _ (.bulk _) _ => none
  | .submitted _ transfer _ => some transfer
  | _ => none

/-- What holds throughout a run. -/
structure WireInvariant (rules : SendRules c) (world : Tracked c) : Prop where
  stream : Complete rules (wire world.1.traffic) ∨ Broken rules (wire world.1.traffic)
  whole : world.1.ioLock = none →
    StreamIn rules (wire world.1.traffic) world.1.ioFaulted .ready
  fits : ∀ head, rules.fits head (world.1.heads head).sender.place
  due : ∀ head, (world.1.heads head).keepaliveDue = true → rules.replays head
  requests : ∀ entry ∈ world.1.traffic, ∀ transfer, entry.request = some transfer →
    rules.request transfer
  counted : world.1.sections = world.2.card
  supplied : world.1.bulkChunk = false → world.1.unplugged = true ∧ world.2 = ∅
  boot : ∀ head, ((world.1.heads head).jobs .bootKeepaliveWork).pending = false

/-- What a thread relies on. -/
structure WireRely (rules : SendRules c) (thread : Thread) (before after : Tracked c) : Prop where
  latch : before.1.ioFaulted = true → after.1.ioFaulted = true
  lock : after.1.ioLock = some thread ↔ before.1.ioLock = some thread
  sole : before.1.ioLock = some thread → wire after.1.traffic = wire before.1.traffic
  own : thread ∈ after.2 ↔ thread ∈ before.2
  closed : before.1.unplugged = true → after.1.unplugged = true ∧ after.2 ⊆ before.2
  inv : WireInvariant rules before → WireInvariant rules after

/-- What a thread guarantees. -/
structure WireGuar (rules : SendRules c) (thread : Thread) (before after : Tracked c) : Prop where
  latch : before.1.ioFaulted = true →
    after.1.ioFaulted = true ∧ wire after.1.traffic = wire before.1.traffic
  lock : ∀ other, other ≠ thread →
    (after.1.ioLock = some other ↔ before.1.ioLock = some other)
  sole : before.1.ioLock ≠ some thread → wire after.1.traffic = wire before.1.traffic
  own : ∀ other, other ≠ thread → (other ∈ after.2 ↔ other ∈ before.2)
  closed : before.1.unplugged = true → after.1.unplugged = true ∧ after.2 ⊆ before.2
  inv : WireInvariant rules before → WireInvariant rules after

theorem WireGuar.refl (thread : Thread) (world : Tracked c) :
    WireGuar rules thread world world :=
  ⟨fun faulted => ⟨faulted, rfl⟩, fun _ _ => Iff.rfl, fun _ => rfl, fun _ _ => Iff.rfl,
    fun unplugged => ⟨unplugged, Finset.Subset.refl _⟩, id⟩

theorem WireGuar.rely {first second : Thread} (different : first ≠ second)
    {before after : Tracked c} (guar : WireGuar rules first before after) :
    WireRely rules second before after where
  latch := fun faulted => (guar.latch faulted).1
  lock := guar.lock second different.symm
  sole := fun held => guar.sole fun own => different (Option.some.inj (own.symm.trans held))
  own := guar.own second different.symm
  closed := guar.closed
  inv := guar.inv

/-- The discipline of one thread of the driver. -/
def wireDiscipline (rules : SendRules c) (allowed : Entry → Bool) (thread : Thread) :
    Discipline (calls c) (Tracked c) Env where
  exec := ((driver c allowed).instrument trackSections).exec thread
  rely := WireRely rules thread
  guar := WireGuar rules thread
  rely_refl := fun _ => ⟨id, Iff.rfl, fun _ => rfl, Iff.rfl, fun unplugged =>
    ⟨unplugged, Finset.Subset.refl _⟩, id⟩
  rely_trans := fun first second => {
    latch := fun faulted => second.latch (first.latch faulted)
    lock := second.lock.trans first.lock
    sole := fun held => (second.sole (first.lock.mpr held)).trans (first.sole held)
    own := second.own.trans first.own
    closed := fun unplugged =>
      ⟨(second.closed (first.closed unplugged).1).1,
        (second.closed (first.closed unplugged).1).2.trans (first.closed unplugged).2⟩
    inv := fun holds => second.inv (first.inv holds) }

/-- What holds in each phase of a sender. -/
structure WireHolds (rules : SendRules c) (thread : Thread) (phase : SendPhase)
    (world : Tracked c) : Prop where
  inv : WireInvariant rules world
  inside : phase.1.inside = true ↔ thread ∈ world.2
  unplugged : phase.1.unplugged = true → world.1.unplugged = true
  gone : phase.1.gone = true → world.1.unplugged = true ∧ world.2 = ∅
  lock : phase.2 = .free ↔ world.1.ioLock ≠ some thread
  stream : StreamIn rules (wire world.1.traffic) world.1.ioFaulted phase.2

/-- Others do not disturb a phase. -/
theorem WireHolds.stable {thread : Thread} (phase : SendPhase) ⦃before after : Tracked c⦄
    (rely : WireRely rules thread before after) (holds : WireHolds rules thread phase before) :
    WireHolds rules thread phase after where
  inv := rely.inv holds.inv
  inside := holds.inside.trans rely.own.symm
  unplugged := fun unplugged => (rely.closed (holds.unplugged unplugged)).1
  gone := fun gone => by
    obtain ⟨unplugged, empty⟩ := holds.gone gone
    obtain ⟨still, subset⟩ := rely.closed unplugged
    exact ⟨still, Finset.subset_empty.mp (empty ▸ subset)⟩
  lock := holds.lock.trans (not_congr rely.lock).symm
  stream := by
    by_cases free : phase.2 = .free
    · rw [free]
      trivial
    · have held : before.1.ioLock = some thread := not_not.mp (mt holds.lock.mpr free)
      rw [rely.sole held]
      exact holds.stream.latch rely.latch

section Steps

variable {thread : Thread} {phase : SendPhase} {dev after : Dev c} {inside : Finset Thread}

theorem WireHolds.held (holds : WireHolds rules thread phase (dev, inside))
    (busy : phase.2 ≠ .free) : dev.ioLock = some thread :=
  not_not.mp (mt holds.lock.mpr busy)

/-- What a step off the bus and out of the sections leaves. -/
structure Beside (rules : SendRules c) (before after : Dev c) : Prop
    extends SameTraffic before after where
  sections : after.sections = before.sections
  unplugged : after.unplugged = before.unplugged
  kept : ∀ head, Kept rules head (before.heads head) (after.heads head)

theorem Beside.inv (beside : Beside rules dev after) (inv : WireInvariant rules (dev, inside)) :
    WireInvariant rules (after, inside) where
  stream := by
    show Complete rules (wire after.traffic) ∨ _
    rw [beside.traffic]
    exact inv.stream
  whole := by
    show after.ioLock = none → StreamIn rules (wire after.traffic) after.ioFaulted .ready
    rw [beside.ioLock, beside.traffic, beside.ioFaulted]
    exact inv.whole
  fits := fun head => (beside.kept head).fits (inv.fits head)
  due := fun head due => ((beside.kept head).due due).elim (inv.due head) id
  requests := by
    show ∀ entry ∈ after.traffic, _
    rw [beside.traffic]
    exact inv.requests
  counted := beside.sections.trans inv.counted
  supplied := fun missing => by
    rw [beside.bulkChunk] at missing
    exact ⟨beside.unplugged.trans (inv.supplied missing).1, (inv.supplied missing).2⟩
  boot := fun head => (beside.kept head).boot (inv.boot head)

theorem wire_beside (beside : Beside rules dev after)
    (holds : WireHolds rules thread phase (dev, inside)) :
    WireGuar rules thread (dev, inside) (after, inside) ∧
      WireHolds rules thread phase (after, inside) := by
  have same : wire after.traffic = wire dev.traffic := congrArg wire beside.traffic
  have unplugged : dev.unplugged = true → after.unplugged = true := beside.unplugged.trans
  refine ⟨⟨fun faulted => ⟨beside.ioFaulted.trans faulted, same⟩, fun other _ => ?_, fun _ => same,
    fun _ _ => Iff.rfl, fun was => ⟨unplugged was, Finset.Subset.refl _⟩, beside.inv⟩,
    beside.inv holds.inv, holds.inside, fun was => unplugged (holds.unplugged was),
    fun gone => ⟨unplugged (holds.gone gone).1, (holds.gone gone).2⟩, ?_, ?_⟩
  · show after.ioLock = _ ↔ _
    rw [beside.ioLock]
  · show _ ↔ after.ioLock ≠ _
    rw [beside.ioLock]
    exact holds.lock
  · show StreamIn rules (wire after.traffic) after.ioFaulted _
    rw [same, beside.ioFaulted]
    exact holds.stream

/-- A refused request, a read, and whatever else leaves the world: only the phase changes. -/
theorem wire_turn {standing : Standing} {lock : LockPhase} {world : Tracked c}
    (holds : WireHolds rules thread (standing, lock) world) (busy : lock ≠ .free)
    (next : LockPhase) (still : next ≠ .free)
    (stream : StreamIn rules (wire world.1.traffic) world.1.ioFaulted next) :
    WireGuar rules thread world world ∧ WireHolds rules thread (standing, next) world :=
  ⟨.refl _ _, { holds with
      lock := iff_of_false still (not_not.mpr (holds.held busy))
      stream := stream }⟩

theorem wire_lockIo {standing : Standing}
    (holds : WireHolds rules thread (standing, .free) (dev, inside)) (free : dev.ioLock = none) :
    let after : Dev c := { dev with ioLock := some thread }
    WireGuar rules thread (dev, inside) (after, inside) ∧
      WireHolds rules thread (standing, .ready) (after, inside) := by
  intro after
  have inv : WireInvariant rules (dev, inside) → WireInvariant rules (after, inside) := fun inv =>
    { inv with whole := fun released => by cases released }
  refine ⟨⟨fun faulted => ⟨faulted, rfl⟩, fun other different => ?_, fun _ => rfl,
    fun _ _ => Iff.rfl, fun unplugged => ⟨unplugged, Finset.Subset.refl _⟩, inv⟩,
    { holds with
      inv := inv holds.inv
      lock := iff_of_false (by rintro ⟨⟩) (not_not.mpr rfl)
      stream := holds.inv.whole free }⟩
  show some thread = some other ↔ dev.ioLock = some other
  rw [free]
  exact iff_of_false (fun own => different (Option.some.inj own).symm) (by rintro ⟨⟩)

theorem wire_unlockIo {standing : Standing} {lock : LockPhase}
    (holds : WireHolds rules thread (standing, lock) (dev, inside)) (settled : lock.Settled) :
    let after : Dev c := { dev with ioLock := none }
    WireGuar rules thread (dev, inside) (after, inside) ∧
      WireHolds rules thread (standing, .free) (after, inside) := by
  intro after
  have held : dev.ioLock = some thread := holds.held (by rintro rfl; exact settled)
  have inv : WireInvariant rules (after, inside) :=
    { holds.inv with whole := fun _ => holds.stream.settled settled }
  refine ⟨⟨fun faulted => ⟨faulted, rfl⟩, fun other different => ?_, fun _ => rfl,
    fun _ _ => Iff.rfl, fun unplugged => ⟨unplugged, Finset.Subset.refl _⟩, fun _ => inv⟩,
    { holds with
      inv := inv
      lock := iff_of_true rfl (by rintro ⟨⟩)
      stream := trivial }⟩
  show none = some other ↔ dev.ioLock = some other
  rw [held]
  exact iff_of_false (by rintro ⟨⟩) (fun own => different (Option.some.inj own).symm)

/-! ### Sections and the unplugging -/

theorem wire_devEnter {lock : LockPhase} {standing : Standing}
    (holds : WireHolds rules thread (standing, lock) (dev, inside))
    (outside : standing.inside = false) (plugged : dev.unplugged = false) :
    let after : Dev c := { dev with sections := dev.sections + 1 }
    WireGuar rules thread (dev, inside) (after, insert thread inside) ∧
      WireHolds rules thread ({ standing with inside := true }, lock)
        (after, insert thread inside) := by
  intro after
  have closed : dev.unplugged ≠ true := by
    rw [plugged]
    decide
  have absent : thread ∉ inside := fun member =>
    absurd (holds.inside.mpr member) (by rw [outside]; decide)
  have inv : WireInvariant rules (after, insert thread inside) := { holds.inv with
    counted := by
      rw [Finset.card_insert_of_notMem absent]
      exact congrArg (· + 1) holds.inv.counted
    supplied := fun missing => absurd (holds.inv.supplied missing).1 closed }
  refine ⟨⟨fun faulted => ⟨faulted, rfl⟩, fun _ _ => Iff.rfl, fun _ => rfl, fun other different =>
    ?_, fun unplugged => absurd unplugged closed, fun _ => inv⟩, { holds with
      inv := inv
      inside := iff_of_true rfl (Finset.mem_insert_self _ _)
      gone := fun gone => absurd (holds.gone gone).1 closed }⟩
  exact ⟨fun member => Finset.mem_of_mem_insert_of_ne member different,
    Finset.mem_insert_of_mem⟩

theorem wire_devExit {lock : LockPhase} {standing : Standing}
    (holds : WireHolds rules thread (standing, lock) (dev, inside))
    (within : standing.inside = true) :
    let after : Dev c := { dev with sections := dev.sections - 1 }
    WireGuar rules thread (dev, inside) (after, inside.erase thread) ∧
      WireHolds rules thread ({ standing with inside := false }, lock)
        (after, inside.erase thread) := by
  intro after
  have present : thread ∈ inside := holds.inside.mp within
  have inv : WireInvariant rules (after, inside.erase thread) := { holds.inv with
    counted := by
      rw [Finset.card_erase_of_mem present]
      exact congrArg (· - 1) holds.inv.counted
    supplied := fun missing => by
      obtain ⟨unplugged, empty⟩ := holds.inv.supplied missing
      exact ⟨unplugged, by rw [show inside = ∅ from empty, Finset.erase_empty]⟩ }
  refine ⟨⟨fun faulted => ⟨faulted, rfl⟩, fun _ _ => Iff.rfl, fun _ => rfl, fun other different =>
    ?_, fun unplugged => ⟨unplugged, Finset.erase_subset _ _⟩, fun _ => inv⟩, { holds with
      inv := inv
      inside := iff_of_false (by rintro ⟨⟩) (Finset.notMem_erase _ _)
      gone := fun gone => by
        obtain ⟨unplugged, empty⟩ := holds.gone gone
        exact ⟨unplugged, by rw [show inside = ∅ from empty, Finset.erase_empty]⟩ }⟩
  show other ∈ inside.erase thread ↔ other ∈ inside
  rw [Finset.mem_erase]
  exact and_iff_right different

theorem wire_setUnplugged {lock : LockPhase} {standing : Standing}
    (holds : WireHolds rules thread (standing, lock) (dev, inside)) :
    let after : Dev c := { dev with unplugged := true }
    WireGuar rules thread (dev, inside) (after, inside) ∧
      WireHolds rules thread ({ standing with unplugged := true }, lock) (after, inside) := by
  intro after
  have inv : WireInvariant rules (dev, inside) → WireInvariant rules (after, inside) := fun inv =>
    { inv with supplied := fun missing => ⟨rfl, (inv.supplied missing).2⟩ }
  exact ⟨⟨fun faulted => ⟨faulted, rfl⟩, fun _ _ => Iff.rfl, fun _ => rfl, fun _ _ => Iff.rfl,
    fun _ => ⟨rfl, Finset.Subset.refl _⟩, inv⟩, { holds with
      inv := inv holds.inv
      unplugged := fun _ => rfl
      gone := fun gone => ⟨rfl, (holds.gone gone).2⟩ }⟩

/-- Where the sections have been waited for after the unplugging, nobody is inside. -/
theorem wire_awaitSections {lock : LockPhase} {standing : Standing}
    (holds : WireHolds rules thread (standing, lock) (dev, inside))
    (unplugged : standing.unplugged = true) (quiet : dev.sections = 0) :
    WireGuar rules thread (dev, inside) (dev, inside) ∧
      WireHolds rules thread ({ standing with gone := true }, lock) (dev, inside) := by
  have empty : inside = ∅ := Finset.card_eq_zero.mp (holds.inv.counted.symm.trans quiet)
  exact ⟨.refl _ _, { holds with gone := fun _ => ⟨holds.unplugged unplugged, empty⟩ }⟩

theorem wire_freeBulkChunk
    (holds : WireHolds rules thread phase (dev, inside)) (gone : phase.1.gone = true) :
    let after : Dev c := { dev with bulkChunk := false }
    WireGuar rules thread (dev, inside) (after, inside) ∧
      WireHolds rules thread phase (after, inside) := by
  intro after
  have inv : WireInvariant rules (after, inside) :=
    { holds.inv with supplied := fun _ => holds.gone gone }
  exact ⟨⟨fun faulted => ⟨faulted, rfl⟩, fun _ _ => Iff.rfl, fun _ => rfl, fun _ _ => Iff.rfl,
    fun was => ⟨was, Finset.Subset.refl _⟩, fun _ => inv⟩, { holds with inv := inv }⟩

/-! ### The traffic -/

/-- A new entry in the traffic under the lock, and the phase after it. -/
theorem wire_entry {standing : Standing} {lock next : LockPhase} {entry : Traffic c}
    {faulted : Bool} (holds : WireHolds rules thread (standing, lock) (dev, inside))
    (kept : dev.ioFaulted = true → faulted = true ∧ entry.delivered = [])
    (request : ∀ transfer, entry.request = some transfer → rules.request transfer)
    (quiet : lock = .free → entry.delivered = [])
    (same : lock = .free ↔ next = .free)
    (stream : StreamIn rules (wire dev.traffic ++ entry.delivered) faulted next) :
    let after : Dev c := { dev with ioFaulted := faulted, traffic := entry :: dev.traffic }
    WireGuar rules thread (dev, inside) (after, inside) ∧
      WireHolds rules thread (standing, next) (after, inside) := by
  intro after
  have silent : entry.delivered = [] → wire after.traffic = wire dev.traffic := fun none => by
    show wire dev.traffic ++ entry.delivered = _
    rw [none, List.append_nil]
  have inv : WireInvariant rules (dev, inside) → WireInvariant rules (after, inside) := fun inv =>
    { inv with
      stream := by
        by_cases free : next = .free
        · rw [show wire after.traffic = wire dev.traffic from silent (quiet (same.mpr free))]
          exact inv.stream
        · exact stream.complete_or_broken free
      whole := fun released => by
        have free : lock = .free := by
          by_contra busy
          cases (holds.held busy).symm.trans released
        have before := inv.whole released
        rw [show wire after.traffic = wire dev.traffic from silent (quiet free)]
        exact before.latch fun latched => (kept latched).1
      requests := fun other member => by
        rcases List.mem_cons.mp member with rfl | older
        · exact request
        · exact inv.requests other older }
  refine ⟨⟨fun latched => ⟨(kept latched).1, silent (kept latched).2⟩, fun _ _ => Iff.rfl,
    fun other => silent (quiet (holds.lock.mpr other)), fun _ _ => Iff.rfl,
    fun was => ⟨was, Finset.Subset.refl _⟩, inv⟩, { holds with
      inv := inv holds.inv
      lock := same.symm.trans holds.lock
      stream := stream }⟩

/-- A request that may go out is made behind a check that sees the latch, and under the lock. -/
theorem permits_guards {check : Dev c → Bool} {lock : LockPhase} {transfer : Transfer}
    (permitted : rules.Permits check lock transfer) : Guards check ∧ lock ≠ .free := by
  cases lock with
  | ready =>
    refine ⟨?_, by rintro ⟨⟩⟩
    cases transfer with
    | bulk chunk => exact fun dev faulted => (permitted.1 dev).trans faulted
    | _ => exact permitted.1
  | owing header payload =>
    refine ⟨?_, by rintro ⟨⟩⟩
    cases transfer with
    | bulk chunk => exact fun dev faulted => (permitted.1 dev).trans faulted
    | _ => exact permitted.elim
  | halted => exact ⟨permitted, by rintro ⟨⟩⟩
  | free | failing => cases transfer <;> exact permitted.elim

section Submissions

variable {standing : Standing} {lock : LockPhase} {check : Dev c → Bool} {allocates : Bool}
  {transfer : Transfer}

/-- A bulk chunk is refused only where the fault is latched. -/
theorem wire_refused (holds : WireHolds rules thread (standing, lock) (dev, inside))
    (permitted : rules.Permits check lock transfer) (refused : check dev = true) :
    WireGuar rules thread (dev, inside) (dev, inside) ∧ WireHolds rules thread
      ((sending rules).move (standing, lock) (.submit check allocates transfer) .refused)
      (dev, inside) := by
  have busy := (permits_guards permitted).2
  have either := holds.stream.complete_or_broken busy
  cases lock with
  | ready =>
    cases transfer with
    | bulk chunk =>
      exact wire_turn holds busy .halted (by rintro ⟨⟩)
        ⟨(permitted.1 dev).symm.trans refused, either⟩
    | _ => exact wire_turn holds busy .ready (by rintro ⟨⟩) holds.stream
  | owing header payload =>
    cases transfer with
    | bulk chunk =>
      exact wire_turn holds busy .halted (by rintro ⟨⟩)
        ⟨(permitted.1 dev).symm.trans refused, either⟩
    | _ => exact permitted.elim
  | halted => exact wire_turn holds busy .halted (by rintro ⟨⟩) holds.stream
  | free => exact absurd rfl busy
  | failing => cases transfer <;> exact permitted.elim

theorem wire_noMemory (holds : WireHolds rules thread (standing, lock) (dev, inside))
    (permitted : rules.Permits check lock transfer) :
    WireGuar rules thread (dev, inside) (dev, inside) ∧ WireHolds rules thread
      ((sending rules).move (standing, lock) (.submit check allocates transfer) .noMemory)
      (dev, inside) := by
  have busy := (permits_guards permitted).2
  have either := holds.stream.complete_or_broken busy
  cases lock with
  | ready =>
    cases transfer with
    | bulk chunk => exact wire_turn holds busy .failing (by rintro ⟨⟩) either
    | _ => exact wire_turn holds busy .ready (by rintro ⟨⟩) holds.stream
  | owing header payload =>
    cases transfer with
    | bulk chunk => exact wire_turn holds busy .failing (by rintro ⟨⟩) either
    | _ => exact permitted.elim
  | halted => exact wire_turn holds busy .halted (by rintro ⟨⟩) holds.stream
  | free => exact absurd rfl busy
  | failing => cases transfer <;> exact permitted.elim

theorem afterChunk_ne_free (header payload chunk : List Byte) (submission : Submission) :
    LockPhase.afterChunk header payload chunk submission ≠ .free := by
  cases submission with
  | refused | noMemory => rintro ⟨⟩
  | returned outcome data =>
    show (if _ then LockPhase.sent header payload else _) ≠ _
    split
    · unfold LockPhase.sent
      split <;> rintro ⟨⟩
    · rintro ⟨⟩

/-- A request that is not a bulk transfer delivers nothing on the pipe. -/
theorem wire_requested (holds : WireHolds rules thread (standing, .ready) (dev, inside))
    (unlatched : dev.ioFaulted ≠ true) {transfer : Transfer} (requested : rules.request transfer)
    (control : ∀ chunk, transfer ≠ .bulk chunk) (outcome : Outcome) (data : List Byte) :
    let after : Dev c :=
      { dev with traffic := .submitted thread transfer outcome :: dev.traffic }
    WireGuar rules thread (dev, inside) (after, inside) ∧ WireHolds rules thread
      (standing, .afterRequest transfer (.returned outcome data)) (after, inside) := by
  have silent : (Traffic.submitted (c := c) thread transfer outcome).delivered = [] := by
    cases transfer with
    | bulk chunk => exact absurd rfl (control chunk)
    | _ => rfl
  have named : (Traffic.submitted (c := c) thread transfer outcome).request = some transfer := by
    cases transfer with
    | bulk chunk => exact absurd rfl (control chunk)
    | _ => rfl
  have complete : Complete rules (wire dev.traffic) :=
    holds.stream.resolve_right fun broken => unlatched broken.2
  refine wire_entry holds (fun faulted => absurd faulted unlatched) (fun other is => ?_)
    (fun free => by cases free) (iff_of_false (by rintro ⟨⟩) ?_) ?_
  · rw [named] at is
    cases is
    exact requested
  · unfold LockPhase.afterRequest
    split <;> rintro ⟨⟩
  · rw [silent, List.append_nil]
    unfold LockPhase.afterRequest
    split
    · exact .inl complete
    · exact .inl complete

/-- A request that is made: the fault is not latched, so the stream was complete or a record is
under way. -/
theorem wire_returned (holds : WireHolds rules thread (standing, lock) (dev, inside))
    (permitted : rules.Permits check lock transfer) (passed : check dev ≠ true)
    (outcome : Outcome) (data : List Byte) :
    let after : Dev c :=
      { dev with traffic := .submitted thread transfer outcome :: dev.traffic }
    WireGuar rules thread (dev, inside) (after, inside) ∧ WireHolds rules thread
      ((sending rules).move (standing, lock) (.submit check allocates transfer)
        (.returned outcome data)) (after, inside) := by
  obtain ⟨guards, busy⟩ := permits_guards permitted
  have unlatched : dev.ioFaulted ≠ true := fun faulted => passed (guards dev faulted)
  have kept : ∀ {entry : Traffic c}, dev.ioFaulted = true →
      dev.ioFaulted = true ∧ entry.delivered = [] := fun faulted => absurd faulted unlatched
  have quiet : ∀ {entry : Traffic c}, lock = .free → entry.delivered = [] :=
    fun free => absurd free busy
  cases lock with
  | ready =>
    obtain ⟨sent, is⟩ | broken := holds.stream
    · have is : wire dev.traffic = streamOf sent := is
      cases transfer with
      | bulk chunk =>
        obtain ⟨-, header, payload, rfl, accepts⟩ := permitted
        refine wire_entry holds kept (fun _ none => by cases none) quiet
          (iff_of_false busy (afterChunk_ne_free _ _ _ _)) ?_
        rw [is]
        exact StreamIn.headerChunk sent ⟨header, payload, accepts⟩ outcome data
      | _ => exact wire_requested holds unlatched permitted.2 (by rintro chunk ⟨⟩) outcome data
    · exact absurd broken.2 unlatched
  | owing header payload =>
    cases transfer with
    | bulk chunk =>
      obtain ⟨-, -, announced, rest, rfl, accepts⟩ := permitted
      obtain ⟨sent, current, is, same, -⟩ := holds.stream
      have is : wire dev.traffic = streamOf sent ++ (announced.bytes ++ payload) := is
      refine wire_entry holds kept (fun _ none => by cases none) quiet
        (iff_of_false busy (afterChunk_ne_free _ _ _ _)) ?_
      rw [is]
      exact StreamIn.payloadChunk sent ⟨announced, payload ++ chunk ++ rest, accepts⟩ rfl outcome
        data
    | _ => exact permitted.elim
  | halted => exact absurd holds.stream.1 unlatched
  | free => exact absurd rfl busy
  | failing => cases transfer <;> exact permitted.elim

end Submissions

/-! ### Every step -/

/-- The steps that neither touch what is tracked nor change a sender's phase. -/
def Op.Aside : Op c → Prop
  | .read | .setIoFaulted | .lockIo | .unlockIo | .devEnter | .devExit | .setUnplugged
  | .awaitSections | .submit _ _ _ | .freeBulkChunk | .noteSent _ _ => False
  | _ => True

theorem move_aside {op : Op c} (aside : op.Aside) (answer : op.Answer) :
    (sending rules).move phase op answer = phase := by
  obtain ⟨standing, lock⟩ := phase
  cases op with
  | read | setIoFaulted | lockIo | unlockIo | devEnter | devExit | setUnplugged | awaitSections
  | submit | freeBulkChunk | noteSent => exact aside.elim
  | _ => cases lock <;> rfl

theorem track_aside {op : Op c} (aside : op.Aside) (answer : op.Answer) :
    trackSections thread op answer inside = inside := by
  cases op with
  | devEnter | devExit => exact aside.elim
  | _ => rfl

theorem possible_aside {op : Op c} {input : Env} {answer : op.Answer}
    (aside : op.Aside) (holds : WireHolds rules thread phase (dev, inside))
    (answered : exec thread dev op input = some (answer, after)) :
    (sending rules).possible phase op answer := by
  refine ⟨exec_possible answered, ?_⟩
  cases op with
  | read | setIoFaulted | lockIo | unlockIo | devEnter | devExit | setUnplugged | awaitSections
  | submit | freeBulkChunk | noteSent => exact aside.elim
  | take head =>
    simp only [exec] at answered
    split at answered <;> cases answered
    · trivial
    · next taken => exact fun keepalive => holds.inv.due head (due_of_take taken keepalive)
  | _ => trivial

theorem exec_sections {op : Op c} {input : Env} {answer : op.Answer} (aside : op.Aside)
    (answered : exec thread dev op input = some (answer, after)) :
    after.sections = dev.sections ∧ after.unplugged = dev.unplugged := by
  cases op with
  | read | setIoFaulted | lockIo | unlockIo | devEnter | devExit | setUnplugged | awaitSections
  | submit | freeBulkChunk | noteSent => exact aside.elim
  | flushWorkqueue | destroyWorkqueue | cancelSync | take | yieldTurn | packBack =>
    simp only [exec] at answered
    split at answered <;> cases answered <;> exact ⟨rfl, rfl⟩
  | stage =>
    simp only [exec] at answered
    split at answered
    · cases answered
      exact ⟨rfl, rfl⟩
    · split at answered <;> cases answered <;> exact ⟨rfl, rfl⟩
  | _ =>
    cases answered
    exact ⟨rfl, rfl⟩

theorem exec_beside {op : Op c} {input : Env} {answer : op.Answer} (aside : op.Aside)
    (allowed : (sending rules).allowed phase op)
    (answered : exec thread dev op input = some (answer, after)) : Beside rules dev after := by
  have off : op.OffBus := by cases op <;> trivial
  obtain ⟨sections, unplugged⟩ := exec_sections aside answered
  have bus := exec_offBus off answered
  exact { bus with
    sections := sections
    unplugged := unplugged
    kept := exec_kept allowed answered }

/-- A read under the lock may find the latch between two chunks. -/
theorem wire_read (holds : WireHolds rules thread phase (dev, inside)) :
    WireGuar rules thread (dev, inside) (dev, inside) ∧
      (sending rules).possible phase .read dev ∧
      WireHolds rules thread ((sending rules).move phase .read dev) (dev, inside) := by
  have possible : (sending rules).possible phase .read dev := by
    refine ⟨trivial, holds.inv.fits, fun within => ?_⟩
    by_contra missing
    have empty := (holds.inv.supplied (eq_false_of_ne_true missing)).2
    exact absurd (holds.inside.mp within) (by
      rw [show inside = ∅ from empty]
      exact Finset.notMem_empty thread)
  obtain ⟨standing, lock⟩ := phase
  cases lock with
  | owing header payload =>
    by_cases faulted : dev.ioFaulted = true
    · have moved : (sending rules).move (standing, .owing header payload) .read dev =
          (standing, .halted) := congrArg (Prod.mk standing) (if_pos faulted)
      rw [moved]
      obtain ⟨guar, kept⟩ := wire_turn holds (by rintro ⟨⟩) .halted (by rintro ⟨⟩)
        ⟨faulted, holds.stream.complete_or_broken (by rintro ⟨⟩)⟩
      exact ⟨guar, possible, kept⟩
    · have moved : (sending rules).move (standing, .owing header payload) .read dev =
          (standing, .owing header payload) := congrArg (Prod.mk standing) (if_neg faulted)
      rw [moved]
      exact ⟨.refl _ _, possible, holds⟩
  | _ => exact ⟨.refl _ _, possible, holds⟩

theorem wire_setIoFaulted (holds : WireHolds rules thread phase (dev, inside))
    (whole : phase.2.Whole) :
    let after : Dev c := { dev with ioFaulted := true, traffic := .latched :: dev.traffic }
    WireGuar rules thread (dev, inside) (after, inside) ∧
      WireHolds rules thread ((sending rules).move phase .setIoFaulted ()) (after, inside) := by
  obtain ⟨standing, lock⟩ := phase
  have latched : ∀ next : LockPhase, (lock = .free ↔ next = .free) →
      StreamIn rules (wire dev.traffic) true next →
      WireGuar rules thread (dev, inside)
        ({ dev with ioFaulted := true, traffic := .latched :: dev.traffic }, inside) ∧
      WireHolds rules thread (standing, next)
        ({ dev with ioFaulted := true, traffic := .latched :: dev.traffic }, inside) :=
    fun next same stream => wire_entry holds (fun _ => ⟨rfl, rfl⟩) (fun _ none => by cases none)
      (fun _ => rfl) same (by
        show StreamIn rules (wire dev.traffic ++ []) true next
        rw [List.append_nil]
        exact stream)
  cases lock with
  | free => exact latched .free Iff.rfl trivial
  | ready => exact latched .ready Iff.rfl (holds.stream.latch fun _ => rfl)
  | owing header payload => exact absurd rfl (whole header payload)
  | failing =>
    exact latched .halted (iff_of_false (by rintro ⟨⟩) (by rintro ⟨⟩)) ⟨rfl, holds.stream⟩
  | halted => exact latched .halted Iff.rfl (holds.stream.latch fun _ => rfl)

theorem wire_noteSent (holds : WireHolds rules thread phase (dev, inside)) (head : HeadId)
    (frame : Frame c) :
    let after : Dev c := { dev with traffic := .rawSent head frame :: dev.traffic }
    WireGuar rules thread (dev, inside) (after, inside) ∧
      WireHolds rules thread phase (after, inside) := by
  obtain ⟨standing, lock⟩ := phase
  refine wire_entry holds (fun faulted => ⟨faulted, rfl⟩) (fun _ none => by cases none)
    (fun _ => rfl) Iff.rfl ?_
  show StreamIn rules (wire dev.traffic ++ []) dev.ioFaulted lock
  rw [List.append_nil]
  exact holds.stream

/-- Every step that the protocol allows keeps the thread's part. -/
theorem wire_each {op : Op c} {input : Env} {answer : op.Answer}
    (allowed : (sending rules).allowed phase op)
    (holds : WireHolds rules thread phase (dev, inside))
    (answered : exec thread dev op input = some (answer, after)) :
    WireGuar rules thread (dev, inside) (after, trackSections thread op answer inside) ∧
      (sending rules).possible phase op answer ∧
      WireHolds rules thread ((sending rules).move phase op answer)
        (after, trackSections thread op answer inside) := by
  have possible : op.Possible answer := exec_possible answered
  by_cases aside : op.Aside
  · obtain ⟨guar, kept⟩ := wire_beside (exec_beside aside allowed answered) holds
    rw [move_aside aside answer, track_aside aside answer]
    exact ⟨guar, possible_aside aside holds answered, kept⟩
  · obtain ⟨standing, lock⟩ := phase
    cases op with
    | read =>
      cases answered
      exact wire_read holds
    | setIoFaulted =>
      cases answered
      obtain ⟨guar, kept⟩ := wire_setIoFaulted holds allowed
      exact ⟨guar, ⟨possible, trivial⟩, kept⟩
    | lockIo =>
      simp only [exec] at answered
      by_cases free : dev.ioLock = none
      · rw [if_pos free] at answered
        cases answered
        obtain rfl : lock = .free := allowed
        obtain ⟨guar, kept⟩ := wire_lockIo holds free
        exact ⟨guar, ⟨possible, trivial⟩, kept⟩
      · rw [if_neg free] at answered
        cases answered
    | unlockIo =>
      cases answered
      obtain ⟨guar, kept⟩ := wire_unlockIo holds allowed
      refine ⟨guar, ⟨possible, trivial⟩, ?_⟩
      cases lock <;> exact kept
    | devEnter =>
      simp only [exec] at answered
      by_cases gone : dev.unplugged = true
      · rw [if_pos gone] at answered
        cases answered
        obtain ⟨within, unplugged, unbound⟩ := standing
        obtain rfl : within = false := allowed.1
        refine ⟨.refl _ _, ⟨possible, trivial⟩, ?_⟩
        cases lock <;> exact holds
      · rw [if_neg gone] at answered
        cases answered
        obtain ⟨guar, kept⟩ := wire_devEnter holds allowed.1 (eq_false_of_ne_true gone)
        refine ⟨guar, ⟨possible, trivial⟩, ?_⟩
        cases lock <;> exact kept
    | devExit =>
      cases answered
      obtain ⟨guar, kept⟩ := wire_devExit holds allowed.1
      refine ⟨guar, ⟨possible, trivial⟩, ?_⟩
      cases lock <;> exact kept
    | setUnplugged =>
      cases answered
      obtain ⟨guar, kept⟩ := wire_setUnplugged holds
      refine ⟨guar, ⟨possible, trivial⟩, ?_⟩
      cases lock <;> exact kept
    | awaitSections =>
      simp only [exec] at answered
      by_cases quiet : dev.sections = 0
      · rw [if_pos quiet] at answered
        cases answered
        obtain ⟨guar, kept⟩ := wire_awaitSections holds allowed quiet
        refine ⟨guar, ⟨possible, trivial⟩, ?_⟩
        cases lock <;> exact kept
      · rw [if_neg quiet] at answered
        cases answered
    | submit check allocates transfer =>
      simp only [exec] at answered
      by_cases refused : check dev = true
      · rw [if_pos refused] at answered
        cases answered
        obtain ⟨guar, kept⟩ := wire_refused holds allowed refused
        exact ⟨guar, ⟨possible, trivial⟩, kept⟩
      · rw [if_neg refused] at answered
        split at answered
        · next allocates_ =>
          cases answered
          obtain ⟨guar, kept⟩ := wire_noMemory holds allowed
          rw [Bool.and_eq_true] at allocates_
          exact ⟨guar, ⟨possible, allocates_.1⟩, kept⟩
        · cases answered
          obtain ⟨guar, kept⟩ := wire_returned holds allowed refused _ _
          refine ⟨guar, ⟨possible, ?_⟩, kept⟩
          rintro rfl
          exact refused (allowed dev holds.stream.1)
    | freeBulkChunk =>
      cases answered
      obtain ⟨guar, kept⟩ := wire_freeBulkChunk holds allowed
      refine ⟨guar, ⟨possible, trivial⟩, ?_⟩
      cases lock <;> exact kept
    | noteSent head frame =>
      cases answered
      obtain ⟨guar, kept⟩ := wire_noteSent holds head frame
      refine ⟨guar, ⟨possible, trivial⟩, ?_⟩
      cases lock <;> exact kept
    | _ => exact absurd trivial aside

end Steps

/-! ### All threads together -/

/-- What follows from a phase without the lock and outside of the sections. -/
theorem WireHolds.idle {thread : Thread} {phase : SendPhase} {world : Tracked c}
    (holds : WireHolds rules thread phase world) (idle : phase.Idle) :
    WireHolds rules thread (.outside false false, .free) world := by
  obtain ⟨standing, lock⟩ := phase
  obtain ⟨outside, rfl⟩ := idle
  exact { holds with
    inside := by
      rw [← holds.inside, show standing.inside = false from outside]
    unplugged := fun unplugged => by cases unplugged
    gone := fun gone => by cases gone }

theorem startTask_beside {allowed : Entry → Bool} {thread : Thread} {task : Task}
    {dev after : Dev c} {program : Prog c Unit}
    (started : startTask allowed thread task dev = some (after, program)) :
    Beside rules dev after := by
  have bus := (startTask_sameTraffic started).1
  cases task with
  | work head work =>
    simp only [startTask] at started
    split at started <;> cases started
    exact { bus with
      sections := rfl
      unplugged := rfl
      kept := kept_setJob fun _ _ _ => rfl }
  | entry entry =>
    simp only [startTask] at started
    split at started <;> cases started
    exact { bus with sections := rfl, unplugged := rfl, kept := fun _ => .refl _ }

theorem retireTask_beside (thread : Thread) (dev : Dev c) :
    Beside rules dev (retireTask thread dev) := by
  have bus := (retireTask_sameTraffic thread dev).1
  have idle : ∀ head work other, Kept rules other (dev.heads other)
      ((dev.setJob head work fun job => { job with running := false }).heads other) :=
    fun _ _ => kept_setJob fun _ _ quiet => quiet
  refine { bus with
    sections := by cases thread <;> rfl
    unplugged := by cases thread <;> rfl
    kept := ?_ }
  cases thread with
  | worker head => exact idle head .txWork
  | deferred head => exact idle head .txDeferWork
  | timer head => exact idle head .keepaliveTimer
  | boot head => exact idle head .bootKeepaliveWork
  | _ => exact fun _ => .refl _

/-- Whatever is started follows the protocol: the boot keepalive is never pending. -/
theorem sending_started (sound : rules.Sound) {allowed : Entry → Bool} {thread : Thread}
    {task : Task} {dev after : Dev c} {program : Prog c Unit}
    (boot : ∀ head, ((dev.heads head).jobs .bootKeepaliveWork).pending = false)
    (started : startTask allowed thread task dev = some (after, program)) :
    program.Follows (sending rules) (fun last _ => last.Idle) (.outside false false, .free) := by
  cases task with
  | work head work =>
    simp only [startTask] at started
    split at started
    · next pending =>
      cases started
      refine sending_work sound head ?_
      rintro rfl
      exact absurd ((boot head).symm.trans pending.2) (by decide)
    · cases started
  | entry entry =>
    simp only [startTask] at started
    split at started <;> cases started
    exact sending_entry sound entry

/-- Every thread of the driver keeps its part, whichever entries are allowed. -/
theorem wire_verified (sound : rules.Sound) (allowed : Entry → Bool) :
    ((driver c allowed).instrument trackSections).Verified (wireDiscipline rules allowed)
      (fun thread => WireHolds rules thread (.outside false false, .free))
      (fun thread => WireHolds rules thread (.outside false false, .free)) where
  exec := fun _ => rfl
  compatible := fun different _ _ guar => guar.rely different
  stable := fun rely holds => holds.stable _ rely
  starts := fun {thread} {task} {world} {after} {program} started idle => by
    obtain ⟨pair, begun, same⟩ := Option.map_eq_some_iff.mp started
    cases same
    obtain ⟨guar, holds⟩ := wire_beside (startTask_beside begun) idle
    refine ⟨guar, Discipline.Safe.of_follows (WireHolds rules thread) WireHolds.stable ?_ ?_
      (sending_started sound idle.inv.boot begun) holds⟩
    · intro phase op world input answer after permitted holds answered
      obtain ⟨reply, stepped, same⟩ := Option.map_eq_some_iff.mp answered
      cases same
      exact wire_each permitted holds stepped
    · exact fun phase result world ends holds => holds.idle ends
  retires := fun {thread} {world} ends => wire_beside (retireTask_beside thread world.1) ends

end Trigger6.Driver
