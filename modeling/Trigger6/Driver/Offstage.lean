/-
This file proves what the steps around a send leave alone on the primary head:
the reference, the stream and the frame last recorded as sent; and in a send
also the frame in hand. No step clears the latch or starts code of its own.
-/

import Trigger6.Driver.BulkWrite
import Trigger6.Driver.Latch
import Trigger6.Driver.Work

namespace Trigger6.Driver

open Interaction

variable {c : Config}

/-- The frame of the primary head that was last recorded as sent. -/
def lastRaw : List (Traffic c) → Option (Frame c)
  | [] => none
  | .rawSent .primary frame :: _ => some frame
  | _ :: older => lastRaw older

/-! ### Steps that move neither the reference nor the stream -/

/-- The steps around a send: reads, counters and timers. -/
def Op.Bookkeeping : Op c → Prop
  | .read | .ask | .tune _ _ | .arm _ _ => True
  | _ => False

/-- The steps of the worker and of the commits before and after a send. A control request leaves
the bulk stream alone. -/
def Op.Offstage : Op c → Prop
  | .read | .ask | .tune _ _ | .arm _ _ | .tuneDevice _ | .setNextHead _ | .setKeepaliveDue _ _
  | .setIoLastError _ | .setIoFaulted | .devEnter | .devExit | .take _ | .requeue _ _
  | .yieldTurn _ _ | .pickNextPending | .stage _ _ _ | .trip _ _ _ | .note _
  | .setScanoutActive _ _ | .submit _ _ (.controlOut _ _ _ _) => True
  | _ => False

/-- The reference of the primary head and the stream are as they were. -/
structure Unmoved (dev after : Dev c) : Prop where
  reference : (after.heads .primary).lastSentFrame = (dev.heads .primary).lastSentFrame
  valid : (after.heads .primary).lastSentValid = (dev.heads .primary).lastSentValid
  stream : wire after.traffic = wire dev.traffic
  noted : lastRaw after.traffic = lastRaw dev.traffic
  supplied : after.bulkChunk = dev.bulkChunk
  lock : after.ioLock = dev.ioLock

/-- And so is the frame in hand. -/
structure Steady (dev after : Dev c) : Prop extends Unmoved dev after where
  front : (after.heads .primary).queue.front = (dev.heads .primary).queue.front

theorem Unmoved.refl (dev : Dev c) : Unmoved dev dev := ⟨rfl, rfl, rfl, rfl, rfl, rfl⟩

theorem Unmoved.trans {dev between after : Dev c} (first : Unmoved dev between)
    (second : Unmoved between after) : Unmoved dev after where
  reference := second.reference.trans first.reference
  valid := second.valid.trans first.valid
  stream := second.stream.trans first.stream
  noted := second.noted.trans first.noted
  supplied := second.supplied.trans first.supplied
  lock := second.lock.trans first.lock

theorem Steady.refl (dev : Dev c) : Steady dev dev := ⟨.refl dev, rfl⟩

theorem Steady.trans {dev between after : Dev c} (first : Steady dev between)
    (second : Steady between after) : Steady dev after :=
  ⟨first.toUnmoved.trans second.toUnmoved, second.front.trans first.front⟩

theorem steady_latched (dev : Dev c) (other : Bool) : Steady dev (dev.latched other) := by
  cases other
  · exact .refl dev
  · exact ⟨⟨rfl, rfl, List.append_nil _, rfl, rfl, rfl⟩, rfl⟩

/-- A change of the primary head, or of the other, that spares the reference. -/
theorem unmoved_setHead (dev : Dev c) (head : HeadId) {change : HeadState c → HeadState c}
    (reference : ∀ state, (change state).lastSentFrame = state.lastSentFrame)
    (valid : ∀ state, (change state).lastSentValid = state.lastSentValid) :
    Unmoved dev (dev.setHead head change) := by
  cases head with
  | primary => exact ⟨reference _, valid _, rfl, rfl, rfl, rfl⟩
  | secondary => exact ⟨rfl, rfl, rfl, rfl, rfl, rfl⟩

theorem unmoved_armJob (thread : Thread) (dev : Dev c) (head : HeadId) (work : Work) :
    Unmoved dev (dev.armJob thread head work) := by
  cases head <;> exact ⟨rfl, rfl, rfl, rfl, rfl, rfl⟩

theorem requeue_reference (state : HeadState c) (popped : Popped) :
    (requeueActivity state popped).lastSentFrame = state.lastSentFrame ∧
      (requeueActivity state popped).lastSentValid = state.lastSentValid := by
  rw [requeueActivity]
  split
  · exact ⟨rfl, rfl⟩
  · split <;> exact ⟨rfl, rfl⟩

theorem requeue_running (state : HeadState c) (popped : Popped) (work : Work) :
    ((requeueActivity state popped).jobs work).running = (state.jobs work).running := by
  rw [requeueActivity]
  split
  · rfl
  · split <;> rfl

theorem take_running {dev : Dev c} {head : HeadId} {popped : Popped} {state : HeadState c}
    (taken : takeActivity dev head = some (popped, state)) (work : Work) :
    (state.jobs work).running = ((dev.heads head).jobs work).running := by
  simp only [takeActivity] at taken
  split at taken
  · cases taken
    rfl
  · split at taken
    · cases taken
      rfl
    · cases taken

theorem unmoved_take {dev : Dev c} {head : HeadId} {popped : Popped} {state : HeadState c}
    (taken : takeActivity dev head = some (popped, state)) :
    Unmoved dev (dev.setHead head fun _ => state) := by
  have kept : state.lastSentFrame = (dev.heads head).lastSentFrame ∧
      state.lastSentValid = (dev.heads head).lastSentValid := by
    simp only [takeActivity] at taken
    split at taken
    · cases taken
      exact ⟨rfl, rfl⟩
    · split at taken
      · cases taken
        exact ⟨rfl, rfl⟩
      · cases taken
  cases head with
  | primary => exact ⟨kept.1, kept.2, rfl, rfl, rfl, rfl⟩
  | secondary => exact ⟨rfl, rfl, rfl, rfl, rfl, rfl⟩

section Bookkeeping

variable {thread : Thread} {dev : Dev c}

theorem disturbed_bookkeeping {op : Op c} (bookkeeping : op.Bookkeeping) (input : Bool × Env) :
    ∃ answer after, disturbed thread dev op input = some (answer, after) ∧ Steady dev after := by
  have start := steady_latched dev input.1
  cases op with
  | read | ask => exact ⟨_, _, rfl, start⟩
  | tune head change =>
    refine ⟨_, _, rfl, start.trans ⟨unmoved_setHead _ head (fun _ => rfl) fun _ => rfl, ?_⟩⟩
    cases head <;> rfl
  | arm head work =>
    refine ⟨_, _, rfl, start.trans ?_⟩
    cases head <;> exact ⟨⟨rfl, rfl, rfl, rfl, rfl, rfl⟩, rfl⟩
  | _ => cases bookkeeping

theorem exec_offstage {op : Op c} (offstage : op.Offstage) (env : Env) :
    ∃ answer after, exec thread dev op env = some (answer, after) ∧ Unmoved dev after := by
  cases op with
  | read | ask | tuneDevice | setNextHead | setIoLastError | devExit | pickNextPending | note =>
    exact ⟨_, _, rfl, ⟨rfl, rfl, rfl, rfl, rfl, rfl⟩⟩
  | setIoFaulted => exact ⟨_, _, rfl, ⟨rfl, rfl, List.append_nil _, rfl, rfl, rfl⟩⟩
  | arm head work => exact ⟨_, _, rfl, unmoved_armJob thread dev head work⟩
  | tune head | setKeepaliveDue head | setScanoutActive head =>
    exact ⟨_, _, rfl, unmoved_setHead _ head (fun _ => rfl) fun _ => rfl⟩
  | devEnter =>
    simp only [exec]
    split
    · exact ⟨_, _, rfl, .refl dev⟩
    · exact ⟨_, _, rfl, ⟨rfl, rfl, rfl, rfl, rfl, rfl⟩⟩
  | take head =>
    simp only [exec]
    split
    next => exact ⟨_, _, rfl, .refl dev⟩
    next popped state taken =>
      exact ⟨_, _, rfl, unmoved_take taken⟩
  | requeue head popped =>
    exact ⟨_, _, rfl, unmoved_setHead dev head (fun state => (requeue_reference state popped).1)
      fun state => (requeue_reference state popped).2⟩
  | yieldTurn head popped =>
    simp only [exec]
    split
    · exact ⟨_, _, rfl, .refl dev⟩
    · exact ⟨_, _, rfl, unmoved_setHead dev head (fun state => (requeue_reference state popped).1)
        fun state => (requeue_reference state popped).2⟩
  | stage head src pitch =>
    simp only [exec]
    split
    · exact ⟨_, _, rfl, .refl dev⟩
    next queue staged =>
      have filled : Unmoved dev (dev.setHead head fun state => { state with queue := queue }) :=
        unmoved_setHead dev head (fun _ => rfl) fun _ => rfl
      have packed : Unmoved dev ((dev.setHead head fun state =>
          { state with queue := queue }).record (.staged head (queue.contents queue.txBack))) :=
        ⟨filled.reference, filled.valid, rfl, rfl, rfl, rfl⟩
      split
      · exact ⟨_, _, rfl, packed.trans (unmoved_armJob thread _ head .txWork)⟩
      · exact ⟨_, _, rfl, packed⟩
  | trip head errno source =>
    refine ⟨_, _, rfl, unmoved_setHead dev head (fun state => ?_) fun state => ?_⟩ <;>
      rw [tripHead] <;> split <;> rfl
  | submit check allocates transfer =>
    cases transfer with
    | controlOut =>
      simp only [exec]
      split
      · exact ⟨_, _, rfl, .refl dev⟩
      · split
        · exact ⟨_, _, rfl, .refl dev⟩
        · exact ⟨_, _, rfl, ⟨rfl, rfl, List.append_nil _, rfl, rfl, rfl⟩⟩
    | _ => cases offstage
  | _ => cases offstage

/-- No code of the primary head is running. -/
def Dev.Idle (dev : Dev c) : Prop := ∀ work, ((dev.heads .primary).jobs work).running = false

theorem latched_idle {dev : Dev c} (idle : dev.Idle) (other : Bool) : (dev.latched other).Idle := by
  cases other <;> exact idle

theorem idle_setHead {dev : Dev c} (idle : dev.Idle) {head : HeadId}
    {change : HeadState c → HeadState c}
    (running : ∀ work, ((change (dev.heads head)).jobs work).running =
      ((dev.heads head).jobs work).running) : (dev.setHead head change).Idle := by
  intro work
  cases head with
  | primary => exact (running work).trans (idle work)
  | secondary => exact idle work

theorem idle_setJob {dev : Dev c} (idle : dev.Idle) (head : HeadId) (work : Work) (pending : Bool) :
    (dev.setJob head work fun job => { job with pending := pending }).Idle := by
  refine idle_setHead idle fun other => ?_
  show (Function.update (dev.heads head).jobs work
    { (dev.heads head).jobs work with pending := pending } other).running = _
  rw [Function.update_apply]
  split
  next same => rw [same]
  next => rfl

theorem exec_idle {dev after : Dev c} {op : Op c} {env : Env} {answer : op.Answer}
    (answered : exec thread dev op env = some (answer, after)) (idle : dev.Idle) : after.Idle := by
  cases op with
  | tune | setScanoutActive | setKeepaliveDue | copyLastSent | setLastSentValid | swapExport |
    freeBuffers =>
    cases answered
    exact idle_setHead idle fun _ => rfl
  | requeue head popped =>
    cases answered
    exact idle_setHead idle (requeue_running _ popped)
  | trip head errno source =>
    cases answered
    refine idle_setHead idle fun work => ?_
    rw [tripHead]
    split <;> rfl
  | arm head work =>
    cases answered
    exact idle_setJob idle head work true
  | take head =>
    simp only [exec] at answered
    split at answered
    · cases answered
      exact idle
    next popped state taken =>
      cases answered
      exact idle_setHead idle (take_running taken)
  | yieldTurn head popped =>
    simp only [exec] at answered
    split at answered
    · cases answered
      exact idle
    · cases answered
      exact idle_setHead idle (requeue_running _ popped)
  | stage head src pitch =>
    simp only [exec] at answered
    split at answered
    · cases answered
      exact idle
    next queue staged =>
      have filled : (dev.setHead head fun state => { state with queue := queue }).Idle :=
        idle_setHead idle fun _ => rfl
      split at answered <;> cases answered
      · exact idle_setJob filled head .txWork true
      · exact filled
  | packBack head src pitch =>
    simp only [exec] at answered
    split at answered
    · cases answered
      exact idle
    · cases answered
      exact idle_setHead idle fun _ => rfl
  | cancelSync head work =>
    simp only [exec] at answered
    split at answered
    · cases answered
    · cases answered
      exact idle_setJob idle head work false
  | lockIo | devEnter | awaitSections | flushWorkqueue | destroyWorkqueue =>
    simp only [exec] at answered
    split at answered <;> cases answered <;> exact idle
  | submit =>
    simp only [exec] at answered
    split at answered
    · cases answered
      exact idle
    · split at answered <;> cases answered <;> exact idle
  | _ =>
    cases answered
    exact idle

/-- No program starts code of its own. -/
theorem Ends.idling {Result : Type} {post : Result → Dev c → Prop} {program : Prog c Result}
    (ends : Ends (disturbed thread) post program dev) (idle : dev.Idle) :
    Ends (disturbed thread) (fun result after => post result after ∧ after.Idle) program dev :=
  Ends.keeping (fun _ answered idle => exec_idle answered (latched_idle idle _))
    (Program.only_any program) ends idle


theorem bookkeeping_ends {Result : Type} {program : Prog c Result}
    (only : program.Only Op.Bookkeeping) :
    Ends (disturbed thread) (fun _ after => Steady dev after) program dev :=
  Ends.of_only (fun _ bookkeeping _ steady input => by
    obtain ⟨answer, after, answered, still⟩ := disturbed_bookkeeping bookkeeping input
    exact ⟨answer, after, answered, steady.trans still⟩) only (.refl dev)

theorem offstage_ends {Result : Type} {program : Prog c Result} (only : program.Only Op.Offstage) :
    Ends (disturbed thread) (fun _ after => Unmoved dev after) program dev :=
  Ends.of_only (fun op offstage world unmoved input => by
    have moved : ∃ answer after, exec thread (world.latched input.1) op input.2 =
        some (answer, after) ∧ Unmoved (world.latched input.1) after :=
      exec_offstage offstage input.2
    obtain ⟨answer, after, answered, still⟩ := moved
    exact ⟨answer, after, answered,
      unmoved.trans ((steady_latched world input.1).toUnmoved.trans still)⟩) only (.refl dev)

theorem only_readHead (head : HeadId) : (readHead (c := c) head).Only Op.Bookkeeping :=
  ⟨trivial, fun _ => trivial⟩

theorem only_count (head : HeadId) (change : HeadMetrics → HeadMetrics) :
    (count (c := c) head change).Only Op.Bookkeeping :=
  ⟨trivial, fun _ => trivial⟩

theorem only_rawRefreshEligible (head : HeadId) :
    (rawRefreshEligible (c := c) head).Only Op.Bookkeeping :=
  (only_readHead head).seq fun _ => (only_readHead head).seq fun _ =>
    Program.Only.seq ⟨trivial, fun _ => trivial⟩ fun _ => (only_readHead head).seq fun _ => trivial

theorem only_refreshDeadline (head : HeadId) :
    (refreshDeadline (c := c) head).Only Op.Bookkeeping :=
  (only_readHead head).seq fun _ => trivial

theorem only_readTxDelay (head : HeadId) : (readTxDelay (c := c) head).Only Op.Bookkeeping :=
  (only_readHead head).seq fun _ => Program.Only.seq ⟨trivial, fun _ => trivial⟩ fun _ => trivial

theorem only_headRuntimeConnected (head : HeadId) :
    (headRuntimeConnected (c := c) head).Only Op.Bookkeeping :=
  (only_readHead head).seq fun _ => Program.Only.seq ⟨trivial, fun _ => trivial⟩ fun _ => trivial

theorem only_queueHeadTxWork (head : HeadId) :
    (queueHeadTxWork (c := c) head).Only Op.Bookkeeping :=
  Program.Only.seq ⟨trivial, fun _ => trivial⟩ fun _ =>
    Program.Only.branch ⟨trivial, fun _ => trivial⟩ trivial

theorem only_headRecordSendError (head : HeadId) (errno : Errno) (source : String) :
    (headRecordSendError (c := c) head errno source).Only Op.Bookkeeping :=
  (only_count head _).seq fun _ => only_count head _

/-- A head is read as it is. -/
theorem readHead_steady (head : HeadId) :
    Ends (disturbed thread) (fun state after => state = dev.heads head ∧ Steady dev after)
      (readHead head) dev := by
  intro input
  refine ⟨_, _, rfl, ?_, steady_latched dev input.1⟩
  rw [latched_heads]

/-- The damage of the frame in hand, against the reference. -/
theorem frameDamage_ends :
    Ends (disturbed thread) (fun damage after => Steady dev after ∧
        damage = computeFrameDamage (dev.heads .primary).queue.front.frame
          (dev.heads .primary).lastSentFrame (dev.heads .primary).lastSentValid)
      (frameDamage .primary) dev := by
  refine Ends.seq ((readHead_steady .primary).mono fun state first read => ?_)
  obtain ⟨rfl, toFirst⟩ := read
  refine Ends.seq ((readHead_steady .primary).mono fun state second read => ?_)
  obtain ⟨rfl, toSecond⟩ := read
  refine Ends.seq ((readHead_steady .primary).mono fun state third read => ?_)
  obtain ⟨rfl, toThird⟩ := read
  refine ⟨(toFirst.trans toSecond).trans toThird, ?_⟩
  rw [toFirst.reference, (toFirst.trans toSecond).valid]

theorem latched_ioFaulted {dev : Dev c} (faulted : dev.ioFaulted = true) (other : Bool) :
    (dev.latched other).ioFaulted = true := by
  cases other
  · exact faulted
  · rfl

theorem disturbed_ioFaulted {dev after : Dev c} {op : Op c} {input : Bool × Env}
    {answer : op.Answer} (answered : disturbed thread dev op input = some (answer, after))
    (faulted : dev.ioFaulted = true) : after.ioFaulted = true := by
  have answered : exec thread (dev.latched input.1) op input.2 = some (answer, after) := answered
  exact exec_ioFaulted answered (latched_ioFaulted faulted input.1)

/-- No program clears the latch. -/
theorem Ends.latching {Result : Type} {post : Result → Dev c → Prop} {program : Prog c Result}
    (ends : Ends (disturbed thread) post program dev) :
    Ends (disturbed thread) (fun result after => post result after ∧
      (dev.ioFaulted = true → after.ioFaulted = true)) program dev :=
  Ends.keeping (fun _ answered kept faulted => disturbed_ioFaulted answered (kept faulted))
    (Program.only_any program) ends id

end Bookkeeping

end Trigger6.Driver
