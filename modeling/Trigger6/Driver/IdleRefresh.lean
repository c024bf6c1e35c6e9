/-
This file puts the threads of the idle refresh together, for every run of the
driver in which the display subsystem makes the entries, and draws the
conclusion: a refresh goes out only when the worker has found it warranted under
`io_lock`, the interval after the last transmission, and after a disable only
when scanout has been switched on again and a new frame has been sent in full.
-/

import Trigger6.Driver.RefreshWorker

namespace Trigger6.Driver

open Bytes Interaction Trace

variable {c : Config}

/-! ### The timer callback -/

/-- The steps of the callback once it has seen scanout active. -/
def Op.Ticks : Op c → Prop
  | .read | .ask | .setKeepaliveDue .primary _ | .arm .primary .keepaliveTimer
  | .arm .primary .txWork => True
  | _ => False

theorem stays_ticks {Result : Type} {program : Prog c Result} (only : program.Only Op.Ticks) :
    program.Stays (ticking c) .live := by
  refine .of_only only fun op ticks => ?_
  cases op with
  | read | ask => exact ⟨trivial, fun _ _ => rfl⟩
  | setKeepaliveDue head due =>
    cases head with
    | primary => exact ⟨rfl, fun _ _ => rfl⟩
    | secondary => exact ticks.elim
  | arm head work =>
    cases head with
    | secondary => exact ticks.elim
    | primary =>
      cases work with
      | txWork => exact ⟨⟨rfl, .inl rfl⟩, fun _ _ => rfl⟩
      | keepaliveTimer => exact ⟨⟨rfl, .inr rfl⟩, fun _ _ => rfl⟩
      | _ => exact ticks.elim
  | _ => exact ticks.elim

/-- The callback gives up where it has not seen scanout active. -/
theorem keepaliveTimeout_ticks : (keepaliveTimeout (c := c) .primary).Follows (ticking c)
    (fun _ _ => True) .fresh := by
  have head : (readHead (c := c) .primary).Only Op.Ticks := (only_act trivial).seq fun _ => trivial
  have queued : (act (.setKeepaliveDue .primary true) >>= fun _ =>
      queueHeadTxWork (c := c) .primary).Only Op.Ticks :=
    (only_act (by trivial)).seq fun _ => (only_act trivial).seq fun _ =>
      Program.Only.branch (only_act (by trivial)) trivial
  have eligible : (rawRefreshEligible (c := c) .primary).Only Op.Ticks :=
    head.seq fun _ => head.seq fun _ => (only_act trivial).seq fun _ => head.seq fun _ => trivial
  refine ⟨trivial, fun dev _ => ?_⟩
  show Program.Follows _ _ (if (dev.heads .primary).scanoutActive = true then _ else _) _
  by_cases active : (dev.heads .primary).scanoutActive = true
  · rw [if_pos active]
    refine Program.Follows.mono (stays_ticks ?_) fun _ _ _ => trivial
    refine head.seq fun headState => (only_act trivial).seq fun device => ?_
    have deadline : (refreshDeadline (c := c) .primary).Only Op.Ticks := head.seq fun _ => trivial
    refine Program.Only.branch trivial (deadline.seq fun _ => eligible.seq fun _ =>
      Program.Only.branch trivial ((only_act trivial).seq fun _ => Program.Only.branch ?_ queued))
    exact (only_act (by trivial)).seq fun _ => trivial
  · rw [if_neg active]
    refine ⟨trivial, fun headState _ => ⟨trivial, fun device _ => .branch (fun _ => trivial) ?_⟩⟩
    intro goes
    rw [eq_false_of_ne_true active, Bool.not_false, Bool.or_true] at goes
    exact absurd rfl goes

/-! ### Commits -/

/-- The steps of a commit that is not in a disable. -/
def Op.Commits : Op c → Prop
  | .read | .ask | .tuneDevice _ | .devEnter | .devExit | .lockIo | .unlockIo | .setIoLastError _
  | .setIoFaulted | .submit _ _ _ | .setKeepaliveDue .primary _ | .cancelSync .primary _
  | .arm .primary .keepaliveTimer | .setScanoutActive .primary true | .stage .primary _ _ => True
  | .tune _ change => KeepsLast change
  | _ => False

theorem stays_commits {Result : Type} {program : Prog c Result} (only : program.Only Op.Commits) :
    program.Stays (committing c) .idle := by
  refine .of_only only fun op commits => ?_
  cases op with
  | setKeepaliveDue head | cancelSync head | stage head =>
    cases head with
    | primary => exact ⟨rfl, fun _ _ => rfl⟩
    | secondary => exact commits.elim
  | arm head work =>
    cases head with
    | secondary => exact commits.elim
    | primary =>
      cases work with
      | keepaliveTimer => exact ⟨⟨rfl, rfl⟩, fun _ _ => rfl⟩
      | _ => exact commits.elim
  | setScanoutActive head active =>
    cases head with
    | secondary => exact commits.elim
    | primary =>
      cases active with
      | true => exact ⟨rfl, fun _ _ => rfl⟩
      | false => exact commits.elim
  | tune head change => exact ⟨commits, fun _ _ => rfl⟩
  | read | ask | tuneDevice | devEnter | devExit | lockIo | unlockIo | setIoLastError | setIoFaulted
  | submit => exact ⟨trivial, fun _ _ => rfl⟩
  | _ => exact commits.elim

theorem commits_readHead (head : HeadId) : (readHead (c := c) head).Only Op.Commits :=
  (only_act trivial).seq fun _ => trivial

theorem commits_headRuntimeConnected (head : HeadId) :
    (headRuntimeConnected (c := c) head).Only Op.Commits :=
  (commits_readHead head).seq fun _ => (only_act trivial).seq fun _ => trivial

theorem commits_monitorControl (on : Bool) :
    (monitorControl (c := c) .primary on).run.Only Op.Commits := by
  have latches : ∀ errno, (lift (latchIoError (c := c) errno)).run.Only Op.Commits := fun errno =>
    (Program.only_lift _).mpr ((only_act trivial).seq fun _ => only_act trivial)
  refine Program.Only.ite trivial (Program.Only.ite trivial ?_)
  refine Program.Only.tryBind ((Program.only_lift _).mpr (only_act trivial)) fun submission => ?_
  refine Program.Only.tryBind ?_ fun _ => trivial
  cases submission with
  | refused | noMemory => trivial
  | returned outcome data =>
    exact Program.Only.ite trivial (Program.Only.tryBind (latches _) fun _ => trivial)

theorem commits_crtcAtomicEnable : (crtcAtomicEnable (c := c) .primary).Only Op.Commits := by
  have finish : (act (.unlockIo (c := c)) >>= fun _ => act .devExit).Only Op.Commits :=
    (only_act trivial).seq fun _ => only_act trivial
  have eligible : (rawRefreshEligible (c := c) .primary).Only Op.Commits :=
    (commits_readHead _).seq fun _ => (commits_readHead _).seq fun _ =>
      (only_act trivial).seq fun _ => (commits_readHead _).seq fun _ => trivial
  refine (commits_headRuntimeConnected _).seq fun _ => Program.Only.branch trivial ?_
  refine (only_act (by trivial)).seq fun _ => (only_act (by trivial)).seq fun _ =>
    (only_act trivial).seq fun _ => Program.Only.branch trivial ?_
  refine (only_act trivial).seq fun _ => (commits_monitorControl true).seq fun switched => ?_
  cases switched with
  | error errno => exact finish
  | ok =>
    exact (only_act (by trivial)).seq fun _ => eligible.seq fun _ =>
      Program.Only.branch ((only_act (by trivial)).seq fun _ => finish) finish

theorem commits_planeAtomicUpdate (fb : Framebuffer) :
    (planeAtomicUpdate (c := c) .primary fb).Only Op.Commits := by
  unfold planeAtomicUpdate
  rw [if_neg (by rw [Config.transport]; decide)]
  refine Program.Only.branch trivial ((only_act trivial).seq fun _ => Program.Only.branch trivial
    ((commits_headRuntimeConnected _).seq fun _ => Program.Only.branch trivial ?_))
  cases fb.vaddr with
  | none => trivial
  | some src =>
    refine Program.Only.branch trivial ((commits_readHead _).seq fun _ => Program.Only.branch trivial
      ((only_act trivial).seq fun _ => Program.Only.branch trivial ?_))
    exact (only_act fun _ => rfl).seq fun _ => (only_act (by trivial)).seq fun _ => only_act trivial

/-- A disable stops the head, is recorded, and discards the reference. -/
theorem crtcAtomicDisable_follows : (crtcAtomicDisable (c := c) (.commit .primary) .primary).Follows
    (committing c) (fun phase _ => phase = .idle) .idle := by
  have switchedOff : (do
      if !c.connected .primary then return
      if !(← act .devEnter) then return
      act .lockIo
      let _ ← (monitorControl (c := c) .primary false).run
      act .unlockIo
      act .devExit).Only Op.Commits :=
    Program.Only.branch trivial ((only_act trivial).seq fun _ => Program.Only.branch trivial
      ((only_act trivial).seq fun _ => (commits_monitorControl false).seq fun _ =>
        (only_act trivial).seq fun _ => only_act trivial))
  have stopped : (stopHeadActivity (c := c) .primary).Follows (committing c)
      (fun phase _ => phase = .stopped) .idle :=
    ⟨rfl, fun _ _ => ⟨rfl, fun _ _ => ⟨rfl, fun _ _ => ⟨rfl, fun _ _ => ⟨rfl, fun _ _ =>
      ⟨rfl, fun _ _ => rfl⟩⟩⟩⟩⟩⟩
  refine .seq (stopped.mono ?_)
  rintro _ _ rfl
  exact ⟨rfl, fun _ _ => ⟨rfl, fun _ _ => ⟨⟨rfl, rfl⟩, fun _ _ => ⟨fun _ => rfl, fun _ _ =>
    stays_commits switchedOff⟩⟩⟩⟩

/-! ### Bystanders -/

/-- Threads that have no part in the refresh of the primary head. -/
def Thread.Bystands : Thread → Prop
  | .worker .primary | .timer .primary | .commit .primary => False
  | _ => True

/-- The entries that the display subsystem makes on a head. -/
def Entry.displays : Entry → Bool
  | .crtcEnable _ | .crtcDisable _ | .planeUpdate _ _ => true
  | _ => false

/-- Those entries are made on the commit thread of their head. -/
theorem Entry.display_cases {entry : Entry} {thread : Thread} (own : entry.on thread = true)
    (displays : entry.displays = true) : ∃ head, thread = .commit head ∧
      (entry = .crtcEnable head ∨ entry = .crtcDisable head ∨ ∃ fb, entry = .planeUpdate head fb) := by
  cases entry with
  | crtcEnable | crtcDisable | planeUpdate =>
    cases thread with
    | commit holder =>
      obtain rfl := of_decide_eq_true own
      simp
    | _ => cases own
  | _ => cases displays

section Bystanders

variable (single : c.connected .secondary = false)

theorem still_readHead (head : HeadId) : (readHead (c := c) head).Only Op.Still :=
  (only_act trivial).seq fun _ => trivial

include single

/-- Without a monitor on the secondary head nothing is done for it. -/
theorem still_unconnected {Result : Type} {rest : Bool → Prog c Result}
    (ends : (rest false).Only Op.Still) :
    (headRuntimeConnected .secondary >>= rest).Only Op.Still := by
  refine ⟨trivial, fun _ => ⟨trivial, fun _ => ?_⟩⟩
  show (rest (c.connected .secondary && _ && _ && _)).Only Op.Still
  rw [single]
  exact ends

theorem still_frameWork : (frameWork (c := c) .secondary).Only Op.Still := by
  refine (only_act trivial).seq fun _ => (only_act trivial).seq fun _ => (still_readHead _).seq
    fun _ => Program.Only.branch trivial ((only_act trivial).seq fun taken => ?_)
  cases taken with
  | none => exact only_act trivial
  | some popped => exact still_unconnected single trivial

theorem still_keepaliveTimeout : (keepaliveTimeout (c := c) .secondary).Only Op.Still := by
  refine (still_readHead _).seq fun state => (still_readHead _).seq fun faulted =>
    (only_act trivial).seq fun dev => ?_
  rw [if_pos (by rw [single]; rfl)]
  trivial

theorem still_bootKeepaliveFn : (bootKeepaliveFn (c := c) .secondary).Only Op.Still := by
  refine (still_readHead _).seq fun state => (only_act trivial).seq fun dev => ?_
  rw [if_pos (by rw [single]; rfl)]
  trivial

theorem still_planeAtomicUpdate (fb : Framebuffer) :
    (planeAtomicUpdate (c := c) .secondary fb).Only Op.Still := by
  have exports : (exportFrame (c := c) .secondary fb).Only Op.Still := by
    unfold exportFrame
    cases fb.vaddr with
    | none => trivial
    | some src =>
      refine (still_readHead _).seq fun _ => Program.Only.branch trivial
        ((only_act (by exact rfl)).seq fun packed => ?_)
      cases packed with
      | error errno => trivial
      | ok => exact only_act (by exact rfl)
  exact Program.Only.branch (exports.seq fun _ => trivial) (Program.Only.branch trivial
    ((only_act trivial).seq fun _ => Program.Only.branch trivial (still_unconnected single trivial)))

theorem still_crtcAtomicDisable :
    (crtcAtomicDisable (c := c) (.commit .secondary) .secondary).Only Op.Still := by
  have other : ∀ {work : Work}, HeadId.secondary = .primary → work = .keepaliveTimer := nofun
  have stops : (stopHeadActivity (c := c) .secondary).Only Op.Still :=
    (only_act (by exact rfl)).seq fun _ => (only_act other).seq fun _ => (only_act other).seq fun _ =>
      (only_act other).seq fun _ => (only_act other).seq fun _ => only_act other
  refine stops.seq fun _ => (only_act trivial).seq fun _ => (only_act trivial).seq fun _ =>
    (only_act (by exact rfl)).seq fun _ => (only_act nofun).seq fun _ => ?_
  rw [if_pos (by rw [single]; rfl)]
  trivial

/-- What runs on a bystander leaves the refresh alone, from its start on. -/
theorem still_started {thread : Thread} {task : Task} {dev after : Dev c} {program : Prog c Unit}
    (bystands : thread.Bystands)
    (undeferred : ((dev.heads .primary).jobs .txDeferWork).pending = false)
    (unbooted : ((dev.heads .primary).jobs .bootKeepaliveWork).pending = false)
    (started : startTask Entry.displays thread task dev = some (after, program)) :
    after.rawHead = dev.rawHead ∧ program.Only Op.Still := by
  cases task with
  | work head work =>
    simp only [startTask] at started
    split at started <;> cases started
    next queued =>
    obtain ⟨rfl, pending⟩ := queued
    cases head with
    | primary =>
      cases work with
      | txWork | keepaliveTimer => exact bystands.elim
      | txDeferWork => exact absurd (pending.symm.trans undeferred) (by decide)
      | bootKeepaliveWork => exact absurd (pending.symm.trans unbooted) (by decide)
    | secondary =>
      refine ⟨rfl, ?_⟩
      cases work with
      | txWork => exact still_frameWork single
      | keepaliveTimer => exact still_keepaliveTimeout single
      | bootKeepaliveWork => exact still_bootKeepaliveFn single
      | txDeferWork =>
        exact (only_act trivial).seq fun _ => Program.Only.branch (only_act fun same => by cases same) trivial
  | entry entry =>
    simp only [startTask] at started
    split at started <;> cases started
    next own =>
    rw [Bool.and_eq_true] at own
    obtain ⟨head, rfl, made⟩ := Entry.display_cases own.1 own.2
    refine ⟨rfl, ?_⟩
    cases head with
    | primary => exact bystands.elim
    | secondary =>
      obtain rfl | rfl | ⟨fb, rfl⟩ := made
      · exact still_unconnected single trivial
      · exact still_crtcAtomicDisable single
      · exact still_planeAtomicUpdate single fb

end Bystanders

/-! ### The pool -/

/-- What holds of a thread that is idle. -/
def RefreshIdle (c : Config) (thread : Thread) (now : Scene) : Prop :=
  match thread with
  | .worker .primary => RefreshInvariant c now ∧ Ordered c now ∧ now.watch.locked = false
  | .commit .primary => CommitHolds c .idle now
  | _ => RefreshInvariant c now

/-- What holds at the end of a program. -/
def RefreshEnds (c : Config) (thread : Thread) (now : Scene) : Prop :=
  match thread with
  | .worker .primary => ∃ phase, phase.Rests ∧ WorkHolds c phase now
  | .timer .primary => ∃ phase, TimerHolds c phase now
  | .commit .primary => CommitHolds c .idle now
  | _ => RefreshInvariant c now

theorem RefreshIdle.inv {thread : Thread} {now : Scene} (idle : RefreshIdle c thread now) :
    RefreshInvariant c now := by
  rcases thread with (_ | _) | (_ | _) | (_ | _) | (_ | _) | (_ | _) | _ | _ <;>
    first | exact idle | exact idle.1

/-- On a bystander an idle thread promises no more than the invariant. -/
theorem Thread.Bystands.idle {thread : Thread} (bystands : thread.Bystands) {now : Scene} :
    RefreshIdle c thread now ↔ RefreshInvariant c now := by
  rcases thread with (_ | _) | (_ | _) | (_ | _) | (_ | _) | (_ | _) | _ | _ <;>
    first | exact bystands.elim | exact Iff.rfl

theorem Thread.Bystands.ends {thread : Thread} (bystands : thread.Bystands) {now : Scene} :
    RefreshEnds c thread now ↔ RefreshInvariant c now := by
  rcases thread with (_ | _) | (_ | _) | (_ | _) | (_ | _) | (_ | _) | _ | _ <;>
    first | exact bystands.elim | exact Iff.rfl

/-- The observer has no eye for bystanders. -/
theorem Thread.Bystands.unobserved {thread : Thread} (bystands : thread.Bystands) (op : Op c)
    (answer : op.Answer) (watch : Watch) : watch.observe thread op answer = watch := by
  rcases thread with (_ | _) | (_ | _) | (_ | _) | (_ | _) | (_ | _) | _ | _ <;>
    first | exact bystands.elim | rfl

/-- A program of still steps is safe on a bystander. -/
theorem safe_still {allowed : Entry → Bool} {thread : Thread} (bystands : thread.Bystands)
    {program : Prog c Unit} (still : program.Only Op.Still) {world : Dev c × Watch}
    (inv : RefreshInvariant c (scene world)) :
    (refreshDiscipline c allowed thread).Safe (fun _ later => RefreshInvariant c (scene later))
      program world := by
  refine Discipline.Safe.of_only (fun rely inv => RefreshRely.inv rely inv) ?_ still inv
  intro op quiet world input answer after inv answered
  obtain ⟨ran, observed⟩ := watched_exec answered
  have same : scene after = scene world := by
    rw [scene, scene, exec_still quiet ran, observed, bystands.unobserved]
  rw [same]
  exact ⟨.of_same same, inv⟩

/-! ### Starting and ending -/

theorem watched_start {allowed : Entry → Bool} {thread : Thread} {task : Task}
    {world after : Dev c × Watch} {program : Prog c Unit}
    (started : (watched c allowed).start thread task world = some (after, program)) :
    startTask allowed thread task world.1 = some (after.1, program) ∧ after.2 = world.2 := by
  simp only [watched, Pool.instrument, Option.map_eq_some_iff] at started
  obtain ⟨pair, begun, same⟩ := started
  cases same
  exact ⟨begun, rfl⟩

section Start

variable {thread : Thread} {task : Task} {world after : Dev c × Watch} {program : Prog c Unit}

/-- Only its own work item is started on the thread of one. -/
theorem started_work (head : HeadId) (work : Work) {dev next : Dev c}
    (started : startTask Entry.displays (work.thread head) task dev = some (next, program)) :
    task = .work head work ∧ ((dev.heads head).jobs work).pending = true ∧
      next = dev.setJob head work (fun _ => { pending := false, running := true }) ∧
      program = workProgram head work := by
  cases task with
  | work other item =>
    simp only [startTask] at started
    split at started <;> cases started
    next queued =>
    obtain ⟨same, pending⟩ := queued
    have both : other = head ∧ item = work := by
      cases item <;> cases work <;> cases same <;> exact ⟨rfl, rfl⟩
    obtain ⟨rfl, rfl⟩ := both
    exact ⟨rfl, pending, rfl, rfl⟩
  | entry entry =>
    simp only [startTask] at started
    split at started <;> cases started
    next own =>
    rw [Bool.and_eq_true] at own
    obtain ⟨holder, same, -⟩ := Entry.display_cases own.1 own.2
    cases work <;> cases same

/-- What is started on the commit thread follows the protocol of commits. -/
theorem started_commit {dev next : Dev c}
    (started : startTask Entry.displays (.commit .primary) task dev = some (next, program)) :
    next = dev ∧ program.Follows (committing c) (fun phase _ => phase = .idle) .idle := by
  cases task with
  | work head work =>
    simp only [startTask] at started
    split at started <;> cases started
    next queued => cases work <;> cases queued.1
  | entry entry =>
    simp only [startTask] at started
    split at started <;> cases started
    next own =>
    rw [Bool.and_eq_true] at own
    obtain ⟨head, same, made⟩ := Entry.display_cases own.1 own.2
    cases same
    refine ⟨rfl, ?_⟩
    obtain rfl | rfl | ⟨fb, rfl⟩ := made
    · exact stays_commits commits_crtcAtomicEnable
    · exact crtcAtomicDisable_follows
    · exact stays_commits (commits_planeAtomicUpdate fb)

/-- The worker starts. A disable on its way would have removed it from the queue. -/
theorem worker_starts (now : Scene) (pending : now.head.txWork.pending = true) :
    RefreshGuar c (.worker .primary) now
      { now with head := { now.head with txWork := { pending := false, running := true } } } := by
  have queued : now.head.txWork ≠ .stopped := by
    intro stopped
    rw [stopped] at pending
    exact absurd pending (by decide)
  exact .of_worker
    (fun inv => { inv with drained := fun draining => absurd (inv.drained draining).1 queued })
    ⟨rfl, fun _ => rfl⟩ ⟨rfl, rfl, fun _ => id, fun _ _ stopped => absurd stopped queued⟩

/-- The worker ends. -/
theorem worker_retires (now : Scene) : RefreshGuar c (.worker .primary) now
    { now with head := { now.head with txWork := { now.head.txWork with running := false } } } := by
  have kept : now.head.txWork = .stopped → { now.head.txWork with running := false } = Job.stopped :=
    fun stopped => by rw [stopped]; rfl
  exact .of_worker
    (fun inv => { inv with
      drained := fun draining => ⟨kept (inv.drained draining).1, (inv.drained draining).2⟩ })
    ⟨rfl, fun _ => rfl⟩ ⟨rfl, rfl, fun _ => id, fun _ _ => kept⟩

/-- The timer callback starts, or ends. -/
theorem timer_runs (now : Scene) (running : Bool) : RefreshGuar c (.timer .primary) now
    { now with head := { now.head with timerRunning := running } } :=
  .of_timer (fun inv => { inv with })
    ⟨rfl, rfl, id, rfl, rfl, rfl, rfl, Iff.rfl, fun _ => id, fun _ => id, id⟩
    ⟨rfl, rfl, fun _ => id, fun _ _ => id⟩

theorem safe_worker (kernel : c.hz < 2 ^ 31)
    (started : startTask Entry.displays (.worker .primary) task world.1 = some (after.1, program))
    (watch : after.2 = world.2) (idle : RefreshIdle c (.worker .primary) (scene world)) :
    RefreshGuar c (.worker .primary) (scene world) (scene after) ∧
      (refreshDiscipline c Entry.displays (.worker .primary)).Safe
        (fun _ later => RefreshEnds c (.worker .primary) (scene later)) program after := by
  obtain ⟨-, pending, begun, rfl⟩ := started_work .primary .txWork started
  obtain ⟨inv, ordered, unlocked⟩ := idle
  have next : scene after = { scene world with head := { (scene world).head with
      txWork := { pending := false, running := true } } } := by
    rw [scene, scene, watch, begun]
    rfl
  have starts := worker_starts (c := c) (scene world) pending
  have holds : WorkHolds c .free (scene after) := by
    rw [next]
    exact ⟨starts.inv inv, rfl, ⟨ordered.last, ordered.valid, ordered.finished⟩, unlocked⟩
  rw [next]
  refine ⟨starts, ?_⟩
  exact Discipline.Safe.of_follows (fun phase world => WorkHolds c phase (scene world))
    (fun phase _ _ rely holds => worker_stable phase rely holds)
    (fun phase op _ _ _ _ permitted holds answered => worker_each kernel phase op permitted holds answered)
    (fun phase _ _ rests holds => ⟨phase, rests, holds⟩) frameWork_rests holds

theorem safe_timer
    (started : startTask Entry.displays (.timer .primary) task world.1 = some (after.1, program))
    (watch : after.2 = world.2) (idle : RefreshIdle c (.timer .primary) (scene world)) :
    RefreshGuar c (.timer .primary) (scene world) (scene after) ∧
      (refreshDiscipline c Entry.displays (.timer .primary)).Safe
        (fun _ later => RefreshEnds c (.timer .primary) (scene later)) program after := by
  obtain ⟨-, -, begun, rfl⟩ := started_work .primary .keepaliveTimer started
  have next : scene after =
      { scene world with head := { (scene world).head with timerRunning := true } } := by
    rw [scene, scene, watch, begun]
    rfl
  have starts := timer_runs (c := c) (scene world) true
  have holds : TimerHolds c .fresh (scene after) := by
    rw [next]
    exact ⟨starts.inv idle, rfl, trivial⟩
  rw [next]
  refine ⟨starts, ?_⟩
  exact Discipline.Safe.of_follows (fun phase world => TimerHolds c phase (scene world))
    (fun phase _ _ rely holds => timer_stable phase rely holds)
    (fun phase op _ _ _ _ permitted holds answered => timer_each phase op permitted holds answered)
    (fun phase _ _ _ holds => ⟨phase, holds⟩) keepaliveTimeout_ticks holds

theorem safe_commit
    (started : startTask Entry.displays (.commit .primary) task world.1 = some (after.1, program))
    (watch : after.2 = world.2) (idle : RefreshIdle c (.commit .primary) (scene world)) :
    RefreshGuar c (.commit .primary) (scene world) (scene after) ∧
      (refreshDiscipline c Entry.displays (.commit .primary)).Safe
        (fun _ later => RefreshEnds c (.commit .primary) (scene later)) program after := by
  obtain ⟨kept, follows⟩ := started_commit started
  have same : scene after = scene world := by rw [scene, scene, kept, watch]
  refine ⟨.of_same same, ?_⟩
  exact Discipline.Safe.of_follows (fun phase world => CommitHolds c phase (scene world))
    (fun phase _ _ rely holds => commit_stable phase rely holds)
    (fun phase op _ _ _ _ permitted holds answered => commit_each phase op permitted holds answered)
    (fun phase _ _ rests holds => by rw [rests] at holds; exact holds) follows
    (by rw [same]; exact idle)

end Start

/-! ### Every thread keeps its part -/

/-- The threads with a part in the refresh, and the bystanders. -/
theorem Thread.refresh_cases (thread : Thread) : thread = .worker .primary ∨
    thread = .timer .primary ∨ thread = .commit .primary ∨ thread.Bystands := by
  rcases thread with (_ | _) | (_ | _) | (_ | _) | (_ | _) | (_ | _) | _ | _ <;>
    simp [Thread.Bystands]

theorem refreshIdle_stable {thread : Thread} {before after : Scene}
    (rely : RefreshRely c thread before after) (idle : RefreshIdle c thread before) :
    RefreshIdle c thread after := by
  obtain rfl | rfl | rfl | bystands := thread.refresh_cases
  · obtain ⟨inv, ordered, unlocked⟩ := idle
    have kept := rely.worker rfl
    exact ⟨rely.inv inv, ordered.stable kept, kept.locked.trans unlocked⟩
  · exact rely.inv idle
  · exact commit_stable .idle rely idle
  · exact bystands.idle.mpr (rely.inv idle.inv)

theorem refresh_starts (kernel : c.hz < 2 ^ 31) (single : c.connected .secondary = false)
    {thread : Thread} {task : Task} {world after : Dev c × Watch} {program : Prog c Unit}
    (started : (watched c Entry.displays).start thread task world = some (after, program))
    (idle : RefreshIdle c thread (scene world)) :
    RefreshGuar c thread (scene world) (scene after) ∧
      (refreshDiscipline c Entry.displays thread).Safe
        (fun _ later => RefreshEnds c thread (scene later)) program after := by
  obtain ⟨begun, watch⟩ := watched_start started
  obtain rfl | rfl | rfl | bystands := thread.refresh_cases
  · exact safe_worker kernel begun watch idle
  · exact safe_timer begun watch idle
  · exact safe_commit begun watch idle
  · have inv := idle.inv
    obtain ⟨kept, still⟩ := still_started single bystands inv.undeferred inv.unbooted begun
    have same : scene after = scene world := by rw [scene, scene, kept, watch]
    refine ⟨.of_same same, ?_⟩
    exact (safe_still bystands still (by rw [same]; exact inv)).mono fun _ _ => bystands.ends.mpr

theorem refresh_retires {thread : Thread} {world : Dev c × Watch}
    (ends : RefreshEnds c thread (scene world)) :
    RefreshGuar c thread (scene world)
        (scene ((watched c Entry.displays).retire thread world)) ∧
      RefreshIdle c thread (scene ((watched c Entry.displays).retire thread world)) := by
  obtain rfl | rfl | rfl | bystands := thread.refresh_cases
  · obtain ⟨phase, rests, inv, -, reached⟩ := ends
    have retires := worker_retires (c := c) (scene world)
    refine ⟨retires, retires.inv inv, ?_⟩
    cases phase with
    | free => exact ⟨⟨reached.1.last, reached.1.valid, reached.1.finished⟩, reached.2⟩
    | taken =>
      obtain ⟨ordered, unlocked, -⟩ := reached
      exact ⟨⟨ordered.last, ordered.valid, ordered.finished⟩, unlocked⟩
    | _ => exact rests.elim
  · obtain ⟨phase, inv, -⟩ := ends
    have retires := timer_runs (c := c) (scene world) false
    exact ⟨retires, retires.inv inv⟩
  · exact ⟨.of_same rfl, ends⟩
  · have same : scene ((watched c Entry.displays).retire thread world) = scene world := by
      rcases thread with (_ | _) | (_ | _) | (_ | _) | (_ | _) | (_ | _) | _ | _ <;>
        first | exact bystands.elim | rfl
    rw [same]
    exact ⟨.of_same rfl, bystands.idle.mpr (bystands.ends.mp ends)⟩

theorem refresh_verified (kernel : c.hz < 2 ^ 31) (single : c.connected .secondary = false) :
    (watched c Entry.displays).Verified (refreshDiscipline c Entry.displays)
      (fun thread world => RefreshIdle c thread (scene world))
      (fun thread world => RefreshEnds c thread (scene world)) where
  exec _ := rfl
  compatible different _ _ guar := guar.others _ different.symm
  stable := refreshIdle_stable
  starts := refresh_starts kernel single
  retires := refresh_retires

/-! ### A head without a monitor -/

/-- No transmission has begun. -/
def Silent (world : Dev c × Watch) : Prop := ∀ check, Mark.began check ∉ world.2.marks

/-- Steps other than requests. -/
def Op.Unsent : Op c → Prop
  | .submit _ _ _ => False
  | _ => True

theorem silent_cons {world after : Dev c × Watch} (mark : Mark) (silent : Silent world)
    (marks : after.2.marks = mark :: world.2.marks) (other : ¬ mark.isBegan) : Silent after := by
  intro check member
  rw [marks, List.mem_cons] at member
  obtain rfl | member := member
  · exact other trivial
  · exact silent check member

/-- Only a request of the worker can begin a transmission. -/
theorem silent_step {allowed : Entry → Bool} {thread : Thread} {world after : Dev c × Watch}
    {op : Op c} {env : Env} {answer : op.Answer}
    (unsent : thread = .worker .primary → op.Unsent) (silent : Silent world)
    (answered : (watched c allowed).exec thread world op env = some (answer, after)) :
    Silent after := by
  obtain ⟨-, observed⟩ := watched_exec answered
  have same : after.2.marks = world.2.marks → Silent after := by
    intro marks check
    rw [marks]
    exact silent check
  obtain rfl | rfl | rfl | bystands := thread.refresh_cases
  · cases op with
    | submit => exact (unsent rfl).elim
    | ask =>
      cases locked : world.2.locked <;> cases sent : world.2.sent
      case true.some bytes =>
        refine silent_cons (.completed world.2.check.refresh bytes answer.jiffies) silent ?_ id
        rw [observed, Watch.observe, Watch.observeWorker, Watch.hear, locked, sent]
      all_goals
        refine same ?_
        rw [observed, Watch.observe, Watch.observeWorker, Watch.hear, locked, sent]
    | take head => cases head <;> cases answer <;> exact same (by rw [observed]; rfl)
    | _ => exact same (by rw [observed]; rfl)
  · cases op with
    | _ => exact same (by rw [observed]; rfl)
  · cases op with
    | setScanoutActive head active =>
      cases head <;> cases active
      case primary.true => exact silent_cons _ silent (by rw [observed]; rfl) id
      all_goals exact same (by rw [observed]; rfl)
    | cancelSync head work => cases head <;> cases work <;> exact same (by rw [observed]; rfl)
    | setLastSentValid head valid => cases head <;> cases valid <;> exact same (by rw [observed]; rfl)
    | note event =>
      by_cases drained : event = .drained (.commit .primary) .primary
      · rw [drained] at observed
        exact silent_cons _ silent (by rw [observed]; rfl) id
      · refine same ?_
        rw [observed, Watch.observe, Watch.observeCommit] <;> intro clash <;> cases clash
        exact drained rfl
    | _ => exact same (by rw [observed]; rfl)
  · exact same (by rw [observed, bystands.unobserved])

/-- Without a monitor the worker makes no requests. -/
theorem unsent_frameWork (off : c.connected .primary = false) :
    (frameWork (c := c) .primary).Only Op.Unsent := by
  have head : (readHead (c := c) .primary).Only Op.Unsent := (only_act trivial).seq fun _ => trivial
  refine (only_act trivial).seq fun _ => (only_act trivial).seq fun _ => head.seq fun _ =>
    Program.Only.branch trivial ((only_act trivial).seq fun taken => ?_)
  cases taken with
  | none => exact only_act trivial
  | some popped =>
    refine ⟨trivial, fun _ => ⟨trivial, fun _ => ?_⟩⟩
    show Program.Only _ (if (!(c.connected .primary && _ && _ && _)) = true then _ else _)
    rw [off]
    trivial

/-- The discipline of a thread that begins no transmission. -/
def silentDiscipline (c : Config) (thread : Thread) :
    Discipline (calls c) (Dev c × Watch) Env where
  exec := (watched c Entry.displays).exec thread
  rely := fun before after => Silent before → Silent after
  guar := fun before after => Silent before → Silent after
  rely_refl := fun _ => id
  rely_trans := fun first second silent => second (first silent)

theorem silent_starts (off : c.connected .primary = false) {thread : Thread} {task : Task}
    {world after : Dev c × Watch} {program : Prog c Unit}
    (started : (watched c Entry.displays).start thread task world = some (after, program))
    (silent : Silent world) : (Silent world → Silent after) ∧
      (silentDiscipline c thread).Safe (fun _ later => Silent later) program after := by
  obtain ⟨begun, watch⟩ := watched_start started
  have after_silent : Silent after := by
    intro check
    rw [watch]
    exact silent check
  refine ⟨fun _ => after_silent, ?_⟩
  have only : program.Only fun op : Op c => thread = .worker .primary → op.Unsent := by
    by_cases worker : thread = .worker .primary
    · obtain rfl := worker
      obtain ⟨-, -, -, rfl⟩ := started_work .primary .txWork begun
      exact (unsent_frameWork off).mono fun _ unsent _ => unsent
    · exact (Program.only_any program).mono fun _ _ own => absurd own worker
  have stable : ∀ {world later}, (silentDiscipline c thread).rely world later →
      Silent world → Silent later := fun rely => rely
  refine Discipline.Safe.of_only stable ?_ only after_silent
  intro op unsent world input answer after silent answered
  have next := silent_step unsent silent answered
  exact ⟨fun _ => next, next⟩

theorem silent_verified (off : c.connected .primary = false) :
    (watched c Entry.displays).Verified (silentDiscipline c) (fun _ => Silent) (fun _ => Silent) where
  exec _ := rfl
  compatible _ _ _ guar := guar
  stable rely silent := rely silent
  starts := silent_starts off
  retires silent := ⟨fun _ => silent, silent⟩

/-! ### Whole runs -/

/-- A run of the watched driver, from the device the probe leaves. -/
def watchedRun (c : Config) (choices : List DriverChoice) :
    Pool.Config (calls c) (Dev c × Watch) Thread :=
  (watched c Entry.displays).run (.idle (Dev.probed c, {})) choices

/-- The observer changes nothing. -/
theorem forget_watchedRun (choices : List DriverChoice) :
    (watchedRun c choices).forget = runDriver Entry.displays (Dev.probed c) choices :=
  Pool.forget_run _ _ _

theorem refreshInvariant_probed : RefreshInvariant c (scene (Dev.probed c, {})) where
  undeferred := rfl
  unbooted := rfl
  supplied := rfl
  drained := nofun
  enabled := nofun
  permitted := trivial

theorem ordered_probed : Ordered c (scene (Dev.probed c, {})) where
  last := nofun
  valid := nofun
  finished := nofun

theorem idle_probed (thread : Thread) : RefreshIdle c thread (scene (Dev.probed c, {})) := by
  obtain rfl | rfl | rfl | bystands := thread.refresh_cases
  · exact ⟨refreshInvariant_probed, ordered_probed, rfl⟩
  · exact refreshInvariant_probed
  · exact ⟨refreshInvariant_probed, rfl⟩
  · exact bystands.idle.mpr refreshInvariant_probed

theorem permitted_of_silent {marks : List Mark} (silent : ∀ check, Mark.began check ∉ marks) :
    AtEach (Permitted c) marks := by
  induction marks with
  | nil => trivial
  | cons mark older inductionHypothesis =>
    refine .cons (inductionHypothesis fun check member =>
      silent check (List.mem_cons_of_mem _ member)) ?_
    cases mark with
    | began check => exact absurd List.mem_cons_self (silent check)
    | _ => trivial

/-- Every refresh of a run was warranted. -/
theorem permitted_of_run (kernel : c.hz < 2 ^ 31) (choices : List DriverChoice) :
    AtEach (Permitted c) (watchedRun c choices).world.2.marks := by
  by_cases on : c.connected .primary = true
  · have single : c.connected .secondary = false := by
      by_contra both
      have same := (c.connected_selected _ on).trans
        (c.connected_selected .secondary (eq_true_of_ne_false both)).symm
      cases same
    have kept : RefreshInvariant c (scene (watchedRun c choices).world) := by
      refine (refresh_verified kernel single).run_invariant
        (fun guar inv => RefreshGuar.inv guar inv) choices ?_ refreshInvariant_probed
      exact idle_probed
    exact kept.permitted
  · have silent : Silent (watchedRun c choices).world :=
      (silent_verified (eq_false_of_ne_true on)).run_invariant (fun guar silent => guar silent)
        choices (fun _ _ => List.not_mem_nil) fun _ => List.not_mem_nil
    exact permitted_of_silent silent

/-! ### Reading the record -/

section Record

variable {recent earlier : List Mark}

/-- Where nothing is unfinished, a transmission that began has been completed since. -/
theorem completed_since {prior : Check}
    (finished : ¬ Unfinished (recent ++ .began prior :: earlier)) :
    ∃ clock, lastCompleted recent = some clock := by
  induction recent with
  | nil => exact absurd (.inl trivial) finished
  | cons mark rest inductionHypothesis =>
    cases mark with
    | completed refresh bytes clock => exact ⟨clock, rfl⟩
    | began check => exact absurd (.inl trivial) finished
    | enabled | disabled =>
      exact inductionHypothesis fun unfinished => finished (.inr ⟨id, unfinished⟩)

theorem lastCompleted_append {clock : BitVec 64} (completed : lastCompleted recent = some clock) :
    lastCompleted (recent ++ earlier) = some clock := by
  induction recent with
  | nil => cases completed
  | cons mark rest inductionHypothesis =>
    cases mark with
    | completed => exact completed
    | _ => exact inductionHypothesis completed

end Record

/-- The idle refresh of the raw primary head, over every interleaving: before its first chunk the
worker has found, under `io_lock`, scanout active, the reference valid, no fault latched, and the
interval passed since the last transmission was completed. The transmission before it was
completed, and the interval ago; and since the last disable scanout has been switched on and a
new frame has been sent in full. -/
theorem idle_refresh (c : Config) (kernel : c.hz < 2 ^ 31) (choices : List DriverChoice) :
    (watchedRun c choices).forget = runDriver Entry.displays (Dev.probed c) choices ∧
      ∀ newer check older,
        (watchedRun c choices).world.2.marks = newer ++ .began check :: older →
          check.refresh = true →
            (check.active = true ∧ check.valid = true ∧ check.sound = true ∧
              check.headSound = true ∧
              ∃ clock, lastCompleted older = some clock ∧ FarApart c clock check.clock) ∧
            (∀ recent prior earlier, older = recent ++ .began prior :: earlier →
              ∃ clock, lastCompleted recent = some clock ∧ FarApart c clock check.clock) ∧
            ∀ recent earlier, older = recent ++ .disabled :: earlier →
              .enabled ∈ recent ∧
                ∃ bytes clock, .completed false bytes clock ∈ recent ∧ FullFrame c bytes := by
  refine ⟨forget_watchedRun choices, fun newer check older split refresh => ?_⟩
  have warranted : Warranted c check older := (permitted_of_run kernel choices).split split refresh
  obtain ⟨clock, completed, far⟩ := warranted.rested
  refine ⟨⟨warranted.active, warranted.valid, warranted.sound, warranted.headSound, clock,
    completed, far⟩, ?_, ?_⟩
  · rintro recent prior earlier rfl
    obtain ⟨latest, finished⟩ := completed_since warranted.finished
    have same : latest = clock :=
      Option.some.inj ((lastCompleted_append finished).symm.trans completed)
    exact ⟨latest, finished, by rw [same]; exact far⟩
  · rintro recent earlier rfl
    obtain ⟨switch, member, is⟩ := warranted.enabled.between trivial id
    obtain ⟨refill, sent, full⟩ := warranted.refilled.between trivial id
    constructor
    · cases switch with
      | enabled => exact member
      | _ => exact is.elim
    · cases refill with
      | completed again bytes clock =>
        obtain ⟨rfl, full⟩ := full
        exact ⟨bytes, clock, sent, full⟩
      | _ => exact full.elim

/-- Whether an entry begins a transmission, and if so of a refresh. -/
def Mark.beginning : Mark → Option Bool
  | .began check => some check.refresh
  | _ => none

/-- One thread runs on its own for a while, at one reading of the clock. -/
def runAlone (thread : Thread) (task : Task) (jiffies : BitVec 64) : List DriverChoice :=
  .start thread task ::
    List.replicate 80 (.step thread { jiffies := jiffies, actual := 1000000 })

/-- Scanout is enabled, a frame is staged and sent, and 300 ticks of 4 ms later it is refreshed. -/
def refreshRun : List DriverChoice :=
  runAlone (.commit .primary) (.entry (.crtcEnable .primary)) 1000 ++
    runAlone (.commit .primary)
      (.entry (.planeUpdate .primary { vaddr := some UInt8.ofNat, pitch := 8 })) 1000 ++
    runAlone (.worker .primary) (.work .primary .txWork) 1000 ++
    runAlone (.timer .primary) (.work .primary .keepaliveTimer) 1300 ++
    runAlone (.worker .primary) (.work .primary .txWork) 1300

theorem beginning_refreshRun : (watchedRun sampleConfig refreshRun).world.2.marks.map Mark.beginning =
    [none] ++ some true :: [none, some false, none] := by decide +kernel

theorem idle_refresh_sample : ∃ newer check older,
    (watchedRun sampleConfig refreshRun).world.2.marks = newer ++ .began check :: older ∧
      check.refresh = true ∧ check.active = true ∧
      ∃ clock, lastCompleted older = some clock ∧ FarApart sampleConfig clock check.clock := by
  obtain ⟨newer, rest, split, -, kinds⟩ := List.map_eq_append_iff.mp beginning_refreshRun
  obtain ⟨mark, older, rfl, kind, -⟩ := List.map_eq_cons_iff.mp kinds
  cases mark with
  | began check =>
    have refresh : check.refresh = true := Option.some.inj kind
    obtain ⟨⟨active, -, -, -, rested⟩, -⟩ :=
      (idle_refresh sampleConfig (by decide) refreshRun).2 newer check older split refresh
    exact ⟨newer, check, older, split, refresh, active, rested⟩
  | _ => cases kind

end Trigger6.Driver
