/-
This file says what each thread of the driver contributes to the idle refresh of
the raw primary head. The worker alone sends, and only it may make the reference
frame valid; the timer callback may queue the worker only after it has seen
scanout active; a commit may record a disable only after it has stopped both.

Each of the three threads has its own protocol, whose phases are what it has
learned so far. What they need of each other is a relation on the few fields the
refresh depends on and on the observer's record.
-/

import Trigger6.Driver.RefreshWatch
import Trigger6.Lib.Protocol

namespace Trigger6.Driver

open Bytes Interaction Trace

variable {c : Config}

/-! ### What the refresh depends on -/

/-- The part of the device the refresh of the primary head depends on. -/
structure RawHead where
  txWork : Job
  deferred : Bool
  boot : Bool
  timerRunning : Bool
  active : Bool
  valid : Bool
  last : BitVec 64
  faulted : Bool
  supplied : Bool

def Dev.rawHead (dev : Dev c) : RawHead where
  txWork := (dev.heads .primary).jobs .txWork
  deferred := ((dev.heads .primary).jobs .txDeferWork).pending
  boot := ((dev.heads .primary).jobs .bootKeepaliveWork).pending
  timerRunning := ((dev.heads .primary).jobs .keepaliveTimer).running
  active := (dev.heads .primary).scanoutActive
  valid := (dev.heads .primary).lastSentValid
  last := (dev.heads .primary).sender.rawLastSentJiffies
  faulted := dev.ioFaulted
  supplied := dev.bulkChunk

/-- That part and the observer. -/
structure Scene where
  head : RawHead
  watch : Watch

def scene (world : Dev c × Watch) : Scene where
  head := world.1.rawHead
  watch := world.2

/-- A work item that is neither pending nor running. -/
def Job.stopped : Job where
  pending := false
  running := false

/-- Nothing but the worker is ever queued of the other work items; a disable on its way has
stopped the head; active scanout was switched on since; and every refresh was warranted. -/
structure RefreshInvariant (c : Config) (now : Scene) : Prop where
  undeferred : now.head.deferred = false
  unbooted : now.head.boot = false
  supplied : now.head.supplied = true
  drained : now.watch.draining = true →
    now.head.txWork = .stopped ∧ now.watch.timerLive = false ∧ now.head.active = false
  enabled : now.head.active = true → Enabled now.watch.marks
  permitted : AtEach (Permitted c) now.watch.marks

/-! ### What the threads rely on -/

/-- The worker alone sends and keeps its bookkeeping, and no disable is recorded while it runs. -/
structure WorkerRely (c : Config) (before after : Scene) : Prop where
  running : after.head.txWork.running = before.head.txWork.running
  last : after.head.last = before.head.last
  faulted : before.head.faulted = true → after.head.faulted = true
  check : after.watch.check = before.watch.check
  locked : after.watch.locked = before.watch.locked
  sent : after.watch.sent = before.watch.sent
  completed : lastCompleted after.watch.marks = lastCompleted before.watch.marks
  unfinished : Unfinished after.watch.marks ↔ Unfinished before.watch.marks
  enabled : before.head.txWork.running = true → Enabled before.watch.marks →
    Enabled after.watch.marks
  refilled : before.head.txWork.running = true → Refilled c before.watch.marks →
    Refilled c after.watch.marks
  valid : (before.head.valid = true → Refilled c before.watch.marks ∨ before.watch.draining = true) →
    after.head.valid = true → Refilled c after.watch.marks ∨ after.watch.draining = true

/-- What the callback has seen is forgotten only when it does not run. -/
structure TimerRely (before after : Scene) : Prop where
  running : after.head.timerRunning = before.head.timerRunning
  live : before.head.timerRunning = true → after.watch.timerLive = before.watch.timerLive

/-- Only commits switch scanout; a head that is inactive and stopped stays so. -/
structure CommitRely (before after : Scene) : Prop where
  active : after.head.active = before.head.active
  draining : after.watch.draining = before.watch.draining
  live : before.head.active = false → before.watch.timerLive = false →
    after.watch.timerLive = false
  stopped : before.head.active = false → before.watch.timerLive = false →
    before.head.txWork = .stopped → after.head.txWork = .stopped

/-- What a thread relies on. -/
structure RefreshRely (c : Config) (thread : Thread) (before after : Scene) : Prop where
  inv : RefreshInvariant c before → RefreshInvariant c after
  worker : thread = .worker .primary → WorkerRely c before after
  timer : thread = .timer .primary → TimerRely before after
  commit : thread = .commit .primary → CommitRely before after

/-- What a thread guarantees: all that the others rely on. -/
structure RefreshGuar (c : Config) (thread : Thread) (before after : Scene) : Prop where
  inv : RefreshInvariant c before → RefreshInvariant c after
  others : ∀ other, other ≠ thread → RefreshRely c other before after

theorem WorkerRely.refl (now : Scene) : WorkerRely c now now :=
  ⟨rfl, rfl, id, rfl, rfl, rfl, rfl, Iff.rfl, fun _ => id, fun _ => id, id⟩

theorem TimerRely.refl (now : Scene) : TimerRely now now := ⟨rfl, fun _ => rfl⟩

theorem CommitRely.refl (now : Scene) : CommitRely now now :=
  ⟨rfl, rfl, fun _ => id, fun _ _ => id⟩

section Trans

variable {first second third : Scene}

theorem WorkerRely.trans (one : WorkerRely c first second) (two : WorkerRely c second third) :
    WorkerRely c first third where
  running := two.running.trans one.running
  last := two.last.trans one.last
  faulted := fun holds => two.faulted (one.faulted holds)
  check := two.check.trans one.check
  locked := two.locked.trans one.locked
  sent := two.sent.trans one.sent
  completed := two.completed.trans one.completed
  unfinished := two.unfinished.trans one.unfinished
  enabled := fun running holds => two.enabled (one.running.trans running) (one.enabled running holds)
  refilled := fun running holds =>
    two.refilled (one.running.trans running) (one.refilled running holds)
  valid := fun holds => two.valid (one.valid holds)

theorem TimerRely.trans (one : TimerRely first second) (two : TimerRely second third) :
    TimerRely first third where
  running := two.running.trans one.running
  live := fun running => (two.live (one.running.trans running)).trans (one.live running)

theorem CommitRely.trans (one : CommitRely first second) (two : CommitRely second third) :
    CommitRely first third where
  active := two.active.trans one.active
  draining := two.draining.trans one.draining
  live := fun inactive dead => two.live (one.active.trans inactive) (one.live inactive dead)
  stopped := fun inactive dead holds =>
    two.stopped (one.active.trans inactive) (one.live inactive dead) (one.stopped inactive dead holds)

end Trans

/-- The discipline of one thread. -/
def refreshDiscipline (c : Config) (allowed : Entry → Bool) (thread : Thread) :
    Discipline (calls c) (Dev c × Watch) Env where
  exec := (watched c allowed).exec thread
  rely := fun before after => RefreshRely c thread (scene before) (scene after)
  guar := fun before after => RefreshGuar c thread (scene before) (scene after)
  rely_refl := fun _ => ⟨id, fun _ => .refl _, fun _ => .refl _, fun _ => .refl _⟩
  rely_trans := fun first second => {
    inv := fun holds => second.inv (first.inv holds)
    worker := fun own => (first.worker own).trans (second.worker own)
    timer := fun own => (first.timer own).trans (second.timer own)
    commit := fun own => (first.commit own).trans (second.commit own) }

/-! ### The worker -/

/-- The worker's bookkeeping between two transmissions. -/
structure Ordered (c : Config) (now : Scene) : Prop where
  last : ∀ clock, lastCompleted now.watch.marks = some clock → now.head.last = clock
  valid : now.head.valid = true → Refilled c now.watch.marks ∨ now.watch.draining = true
  finished : Unfinished now.watch.marks → now.head.faulted = true

/-- Where the worker stands. `known` says that it has seen a valid reference since it took what
it has in hand; under the lock it goes from checking to sending, to having kept the reference, to
having read the clock, and is settled when that is noted. -/
inductive WorkPhase
  | free
  | taken (refresh known : Bool)
  | checking (known : Bool) (check : Check) (last : Option (BitVec 64))
  | sending (refresh known : Bool) (bytes : List Byte) (faulted : Bool)
  | kept (refresh : Bool) (bytes : List Byte)
  | stamped (clock : BitVec 64)
  | settled
  | failing

/-- What holds in each phase. -/
def WorkHolds (c : Config) (phase : WorkPhase) (now : Scene) : Prop :=
  RefreshInvariant c now ∧ now.head.txWork.running = true ∧
    match phase with
    | .free => Ordered c now ∧ now.watch.locked = false
    | .taken refresh known => Ordered c now ∧ now.watch.locked = false ∧
        now.watch.check.refresh = refresh ∧ (known = true → Refilled c now.watch.marks)
    | .checking known check last => Ordered c now ∧ now.watch.locked = true ∧
        now.watch.sent = none ∧ now.watch.check = check ∧
        (known = true → Refilled c now.watch.marks) ∧
        (check.valid = true → Refilled c now.watch.marks) ∧
        (check.active = true → Enabled now.watch.marks) ∧
        (check.sound = true → ¬ Unfinished now.watch.marks) ∧
        ∀ clock, last = some clock → now.head.last = clock
    | .sending refresh known bytes faulted => now.watch.locked = true ∧
        now.watch.sent = some bytes ∧ now.watch.check.refresh = refresh ∧
        (∀ clock, lastCompleted now.watch.marks = some clock → now.head.last = clock) ∧
        (now.head.valid = true → Refilled c now.watch.marks) ∧
        (known = true → Refilled c now.watch.marks) ∧
        (faulted = true → now.head.faulted = true)
    | .kept refresh bytes => now.watch.locked = true ∧ now.watch.sent = some bytes ∧
        now.watch.check.refresh = refresh ∧
        (Refilled c now.watch.marks ∨ refresh = false ∧ FullFrame c bytes)
    | .stamped clock => now.watch.locked = true ∧
        lastCompleted now.watch.marks = some clock ∧ ¬ Unfinished now.watch.marks ∧
        (now.head.valid = true → Refilled c now.watch.marks)
    | .settled => Ordered c now ∧ now.watch.locked = true
    | .failing => now.watch.locked = true ∧
        (∀ clock, lastCompleted now.watch.marks = some clock → now.head.last = clock) ∧
        (now.head.valid = true → Refilled c now.watch.marks)

/-- A refresh may begin: everything has been seen, and the interval has passed. -/
def Check.Clear (c : Config) (check : Check) (last : Option (BitVec 64)) : Prop :=
  check.active = true ∧ check.valid = true ∧ check.sound = true ∧ check.headSound = true ∧
    ∃ clock, last = some clock ∧ timeBefore check.clock
      (clock + BitVec.ofNat 64 (c.msecsToJiffies rawIdleRefreshMs)) = false

/-- Steps of the worker that change nothing the refresh depends on. -/
def Op.Idle : Op c → Prop
  | .tuneDevice _ | .setNextHead _ | .setIoLastError _ | .copyLastSent _ _ _ | .devEnter | .devExit
  | .note _ | .noteSent _ _ | .pickNextPending | .trip _ _ _ => True
  | .arm .primary work => work = .keepaliveTimer
  | .arm .secondary _ => True
  | _ => False

/-- A change of a sender that keeps the time of the last transmission. -/
def KeepsLast (change : Sender c → Sender c) : Prop :=
  ∀ sender, (change sender).rawLastSentJiffies = sender.rawLastSentJiffies

/-- The protocol of the worker of the primary head. -/
def refreshing (c : Config) : Protocol (calls c) WorkPhase where
  allowed
    | _, .read => True
    | _, .arm .primary .txWork => True
    | .stamped clock, .tune head change =>
      head = .primary ∧ ∀ sender, (change sender).rawLastSentJiffies = clock
    | _, .tune _ change => KeepsLast change
    | .free, .ask | .taken _ _, .ask | .checking _ _ _, .ask => True
    | .sending _ _ _ _, .ask | .kept _ _, .ask => True
    | .free, .take head => head = .primary
    | .free, .setIoFaulted | .sending _ _ _ _, .setIoFaulted | .failing, .setIoFaulted => True
    | .taken _ _, .lockIo => True
    | .checking _ _ _, .unlockIo | .settled, .unlockIo => True
    | .sending _ _ _ faulted, .unlockIo => faulted = true
    | .checking _ check last, .submit guard allocates transfer =>
      guard = latchCheck ∧ allocates = false ∧ (∃ chunk, transfer = .bulk chunk) ∧
        (check.refresh = true → check.Clear c last)
    | .sending _ _ _ _, .submit guard allocates transfer =>
      guard = latchCheck ∧ allocates = false ∧ ∃ chunk, transfer = .bulk chunk
    | .sending refresh known bytes _, .setLastSentValid head valid =>
      head = .primary ∧ valid = true ∧ refresh = false ∧ (known = true ∨ FullFrame c bytes)
    | _, op => op.Idle
  possible phase op answer := op.Possible answer ∧
    match op, answer with
    | .read, dev => (dev : Dev c).bulkChunk = true ∧ ∀ known check clock,
        phase = .checking known check (some clock) →
          (dev.heads .primary).sender.rawLastSentJiffies = clock
    | .submit _ _ _, .noMemory => False
    | .submit _ _ _, .returned _ _ =>
      ∀ refresh known bytes faulted, phase = .sending refresh known bytes faulted → faulted = false
    | _, _ => True
  move phase op answer :=
    match phase, op, answer with
    | .free, .take _, some popped => .taken popped.keepaliveDue false
    | .taken refresh known, .read, dev =>
      .taken refresh (known || ((dev : Dev c).heads .primary).lastSentValid)
    | .taken refresh known, .lockIo, _ => .checking known (.opened refresh) none
    | .checking known check _, .read, dev =>
      .checking known (check.see (dev : Dev c))
        (some ((dev : Dev c).heads .primary).sender.rawLastSentJiffies)
    | .checking known check last, .ask, env =>
      .checking known { check with clock := env.jiffies } last
    | .checking known check _, .submit _ _ (.bulk chunk), .returned outcome _ =>
      if outcome.complete (.bulk chunk) then .sending check.refresh known chunk false else .failing
    | .sending refresh known bytes faulted, .read, dev =>
      .sending refresh known bytes (faulted || (dev : Dev c).ioFaulted)
    | .sending refresh known bytes faulted, .submit _ _ (.bulk chunk), .returned outcome _ =>
      if outcome.complete (.bulk chunk) then .sending refresh known (bytes ++ chunk) faulted
      else .failing
    | .sending refresh known bytes _, .submit _ _ _, .refused => .sending refresh known bytes true
    | .sending refresh _ bytes _, .setLastSentValid _ _, _ => .kept refresh bytes
    | .sending _ _ _ _, .ask, env => .stamped env.jiffies
    | .kept _ _, .ask, env => .stamped env.jiffies
    | .stamped _, .tune _ _, _ => .settled
    | .sending refresh known bytes _, .setIoFaulted, _ => .sending refresh known bytes true
    | .failing, .setIoFaulted, _ => .settled
    | .checking _ _ _, .unlockIo, _ => .free
    | .sending _ _ _ _, .unlockIo, _ => .free
    | .settled, .unlockIo, _ => .free
    | phase, _, _ => phase

/-! ### The timer callback -/

/-- Whether the callback has looked, and has seen scanout active. -/
inductive TimerPhase
  | fresh
  | live
  | dead

def TimerHolds (c : Config) (phase : TimerPhase) (now : Scene) : Prop :=
  RefreshInvariant c now ∧ now.head.timerRunning = true ∧
    match phase with
    | .live => now.watch.timerLive = true
    | _ => True

/-- The protocol of the timer callback of the primary head. -/
def ticking (c : Config) : Protocol (calls c) TimerPhase where
  allowed
    | _, .read => True
    | .live, .ask | .dead, .ask => True
    | .live, .setKeepaliveDue head _ => head = .primary
    | .live, .arm head work => head = .primary ∧ (work = .txWork ∨ work = .keepaliveTimer)
    | _, _ => False
  possible _ op answer := op.Possible answer
  move phase op answer :=
    match phase, op, answer with
    | .fresh, .read, dev => if ((dev : Dev c).heads .primary).scanoutActive then .live else .dead
    | phase, _, _ => phase

/-! ### Commits -/

/-- How far a commit has come in a disable. -/
inductive CommitPhase
  | idle
  | closed
  | quiet
  | stopped
  | drained

def CommitHolds (c : Config) (phase : CommitPhase) (now : Scene) : Prop :=
  RefreshInvariant c now ∧
    match phase with
    | .idle => now.watch.draining = false
    | .closed => now.watch.draining = false ∧ now.head.active = false
    | .quiet => now.watch.draining = false ∧ now.head.active = false ∧ now.watch.timerLive = false
    | .stopped => now.watch.draining = false ∧ now.head.active = false ∧
        now.watch.timerLive = false ∧ now.head.txWork = .stopped
    | .drained => now.watch.draining = true

/-- The protocol of the commits on the primary head. -/
def committing (c : Config) : Protocol (calls c) CommitPhase where
  allowed
    | _, .read | _, .ask | _, .tuneDevice _ | _, .devEnter | _, .devExit | _, .lockIo
    | _, .unlockIo | _, .setIoLastError _ | _, .setIoFaulted | _, .submit _ _ _ => True
    | _, .setKeepaliveDue head _ => head = .primary
    | _, .tune _ change => KeepsLast change
    | _, .cancelSync head _ => head = .primary
    | .idle, .arm head work => head = .primary ∧ work = .keepaliveTimer
    | .idle, .setScanoutActive head _ => head = .primary
    | .idle, .stage head _ _ => head = .primary
    | .stopped, .note event => event = .drained (.commit .primary) .primary
    | .drained, .setLastSentValid head valid => head = .primary ∧ valid = false
    | _, _ => False
  possible _ op answer := op.Possible answer
  move phase op answer :=
    match phase, op, answer with
    | .idle, .setScanoutActive _ false, _ => .closed
    | .closed, .cancelSync _ .keepaliveTimer, _ => .quiet
    | .quiet, .cancelSync _ .txWork, _ => .stopped
    | .stopped, .note _, _ => .drained
    | .drained, .setLastSentValid _ _, _ => .idle
    | phase, _, _ => phase

end Trigger6.Driver
