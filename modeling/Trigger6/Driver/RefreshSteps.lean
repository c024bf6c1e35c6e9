/-
This file proves, step by step, that each thread keeps its part of the idle
refresh: what a step does to the fields the refresh depends on and to the
observer, and that the others may rely on it.
-/

import Trigger6.Driver.RefreshRules

namespace Trigger6.Driver

open Bytes Interaction Trace

variable {c : Config}

/-! ### Still steps -/

/-- Steps that leave the fields alone that the refresh depends on. -/
def Op.Still : Op c → Prop
  | .read | .ask | .tuneDevice _ | .setNextHead _ | .setIoLastError _ | .copyLastSent _ _ _
  | .lockIo | .unlockIo | .devEnter | .devExit | .submit _ _ _ | .take _ | .pickNextPending
  | .trip _ _ _ | .note _ | .noteSent _ _ | .setKeepaliveDue _ _ => True
  | .tune head change => head = .primary → KeepsLast change
  | .setScanoutActive head _ | .setLastSentValid head _ | .packBack head _ _ | .swapExport head =>
    head = .secondary
  | .arm head work | .cancelSync head work => head = .primary → work = .keepaliveTimer
  | _ => False

section Still

variable {thread : Thread} {dev after : Dev c} {op : Op c} {env : Env} {answer : op.Answer}

theorem rawHead_setHead_secondary (change : HeadState c → HeadState c) :
    (dev.setHead .secondary change).rawHead = dev.rawHead := rfl

theorem takeActivity_kept {popped : Popped} {state : HeadState c}
    (took : takeActivity dev .primary = some (popped, state)) :
    (dev.setHead .primary fun _ => state).rawHead = dev.rawHead := by
  unfold takeActivity at took
  cases pop : popPendingFrameLocked (dev.heads .primary).queue with
  | some frame =>
    simp only [pop] at took
    cases took
    rfl
  | none =>
    simp only [pop] at took
    split at took <;> cases took
    rfl

theorem tripHead_kept (errno : Errno) (source : String) :
    (dev.setHead .primary fun state => tripHead state errno source).rawHead = dev.rawHead := by
  unfold Dev.rawHead
  simp only [Dev.setHead_self, Dev.setHead_ioFaulted, Dev.setHead_bulkChunk, tripHead]
  split <;> rfl

theorem exec_still (still : op.Still) (answered : exec thread dev op env = some (answer, after)) :
    after.rawHead = dev.rawHead := by
  cases op with
  | tune head change =>
    cases answered
    cases head with
    | secondary => rfl
    | primary =>
      have kept := still rfl (dev.heads .primary).sender
      show Dev.rawHead (dev.setHead .primary _) = _
      unfold Dev.rawHead
      simp only [Dev.setHead_self, kept]
      rfl
  | arm head work =>
    cases answered
    cases head with
    | secondary => rfl
    | primary => rw [still rfl]; rfl
  | take head =>
    simp only [exec] at answered
    split at answered <;> cases answered
    · rfl
    · cases head with
      | secondary => rfl
      | primary => exact takeActivity_kept ‹_›
  | cancelSync head work =>
    simp only [exec] at answered
    split at answered <;> cases answered
    cases head with
    | secondary => rfl
    | primary => rw [still rfl]; rfl
  | trip head errno source =>
    cases answered
    cases head with
    | secondary => rfl
    | primary => exact tripHead_kept errno source
  | lockIo | devEnter =>
    simp only [exec] at answered
    split at answered <;> cases answered <;> rfl
  | submit =>
    simp only [exec] at answered
    split at answered
    · cases answered
      rfl
    · split at answered <;> cases answered <;> rfl
  | packBack head src pitch =>
    cases still
    simp only [exec] at answered
    split at answered <;> cases answered <;> rfl
  | setScanoutActive head active | setLastSentValid head valid | swapExport head =>
    cases still
    cases answered
    rfl
  | copyLastSent head offset block | setKeepaliveDue head due =>
    cases answered
    cases head <;> rfl
  | read | ask | tuneDevice | setNextHead | setIoLastError | unlockIo | devExit | pickNextPending
  | note | noteSent =>
    cases answered
    rfl
  | _ => exact still.elim

end Still

/-- A step of the watched driver is one of the driver, and the observer follows. -/
theorem watched_exec {allowed : Entry → Bool} {thread : Thread} {world after : Dev c × Watch}
    {op : Op c} {env : Env} {answer : op.Answer}
    (answered : (watched c allowed).exec thread world op env = some (answer, after)) :
    exec thread world.1 op env = some (answer, after.1) ∧
      after.2 = world.2.observe thread op answer := by
  simp only [watched, Pool.instrument, Option.map_eq_some_iff] at answered
  obtain ⟨reply, ran, same⟩ := answered
  cases same
  exact ⟨ran, rfl⟩

/-! ### Guarantees -/

section Guarantees

variable {before after : Scene}

theorem RefreshGuar.of_worker (inv : RefreshInvariant c before → RefreshInvariant c after)
    (timer : TimerRely before after) (commit : CommitRely before after) :
    RefreshGuar c (.worker .primary) before after :=
  ⟨inv, fun _ different => ⟨inv, fun own => absurd own different, fun _ => timer, fun _ => commit⟩⟩

theorem RefreshGuar.of_timer (inv : RefreshInvariant c before → RefreshInvariant c after)
    (worker : WorkerRely c before after) (commit : CommitRely before after) :
    RefreshGuar c (.timer .primary) before after :=
  ⟨inv, fun _ different => ⟨inv, fun _ => worker, fun own => absurd own different, fun _ => commit⟩⟩

theorem RefreshGuar.of_commit (inv : RefreshInvariant c before → RefreshInvariant c after)
    (worker : WorkerRely c before after) (timer : TimerRely before after) :
    RefreshGuar c (.commit .primary) before after :=
  ⟨inv, fun _ different => ⟨inv, fun _ => worker, fun _ => timer, fun own => absurd own different⟩⟩

theorem RefreshGuar.of_same {thread : Thread} (same : after = before) :
    RefreshGuar c thread before after := by
  rw [same]
  exact ⟨id, fun _ _ => ⟨id, fun _ => .refl _, fun _ => .refl _, fun _ => .refl _⟩⟩

end Guarantees

/-! ### Steps of the timer callback -/

section Timer

variable {now : Scene}

/-- The callback looks at the device. -/
theorem timer_looks (now : Scene) (active : Bool) (same : active = now.head.active) :
    RefreshGuar c (.timer .primary) now
      { now with watch := { now.watch with timerLive := now.watch.timerLive || active } } := by
  refine .of_timer (fun inv => { inv with drained := fun draining => ?_ })
    ⟨rfl, rfl, id, rfl, rfl, rfl, rfl, Iff.rfl, fun _ => id, fun _ => id, id⟩
    ⟨rfl, rfl, fun inactive dead => ?_, fun _ _ => id⟩
  · obtain ⟨stopped, dead, inactive⟩ := inv.drained draining
    refine ⟨stopped, ?_, inactive⟩
    show (now.watch.timerLive || active) = false
    rw [dead, same, inactive]
    rfl
  · show (now.watch.timerLive || active) = false
    rw [dead, same, inactive]
    rfl

/-- The callback queues the worker, which it does only after it has seen scanout active. -/
theorem timer_queues (now : Scene) (live : now.watch.timerLive = true) :
    RefreshGuar c (.timer .primary) now { now with
      head := { now.head with txWork := { now.head.txWork with pending := true } } } := by
  refine .of_timer (fun inv => { inv with drained := fun draining => ?_ })
    ⟨rfl, rfl, id, rfl, rfl, rfl, rfl, Iff.rfl, fun _ => id, fun _ => id, id⟩
    ⟨rfl, rfl, fun _ => id, fun _ dead => ?_⟩
  · exact absurd (inv.drained draining).2.1 (by rw [live]; decide)
  · exact absurd dead (by rw [live]; decide)

end Timer

theorem timer_stable (phase : TimerPhase) ⦃before after : Scene⦄
    (rely : RefreshRely c (.timer .primary) before after) (holds : TimerHolds c phase before) :
    TimerHolds c phase after := by
  obtain ⟨inv, running, seen⟩ := holds
  have kept := rely.timer rfl
  refine ⟨rely.inv inv, kept.running.trans running, ?_⟩
  cases phase with
  | live => exact (kept.live running).trans seen
  | fresh | dead => trivial

theorem timer_each {allowed : Entry → Bool} {world : Dev c × Watch} (phase : TimerPhase) (op : Op c)
    ⦃input : Env⦄ ⦃answer : op.Answer⦄ ⦃after : Dev c × Watch⦄
    (permitted : (ticking c).allowed phase op) (holds : TimerHolds c phase (scene world))
    (answered : (watched c allowed).exec (.timer .primary) world op input = some (answer, after)) :
    RefreshGuar c (.timer .primary) (scene world) (scene after) ∧
      (ticking c).possible phase op answer ∧
      TimerHolds c ((ticking c).move phase op answer) (scene after) := by
  obtain ⟨ran, observed⟩ := watched_exec answered
  have possible : op.Possible answer := exec_possible ran
  obtain ⟨inv, running, seen⟩ := holds
  -- a still step that the observer ignores
  have still : op.Still → after.2 = world.2 →
      RefreshGuar c (.timer .primary) (scene world) (scene after) ∧
        TimerHolds c phase (scene after) := by
    intro quiet same
    have unchanged : scene after = scene world := by
      rw [scene, scene, exec_still quiet ran, same]
    rw [unchanged]
    exact ⟨.of_same rfl, inv, running, seen⟩
  cases op with
  | read =>
    obtain ⟨rfl, kept⟩ := Prod.mk.inj (Option.some.inj ran)
    have next : scene after = { scene world with watch := { (scene world).watch with
        timerLive := (scene world).watch.timerLive || (world.1.heads .primary).scanoutActive } } := by
      rw [scene, scene, observed, ← kept]
      rfl
    have looks := timer_looks (c := c) (scene world) (world.1.heads .primary).scanoutActive rfl
    rw [next]
    refine ⟨looks, possible, looks.inv inv, running, ?_⟩
    cases phase with
    | fresh =>
      by_cases active : (world.1.heads .primary).scanoutActive = true
      · rw [show (ticking c).move .fresh .read world.1 = .live from if_pos active]
        show ((scene world).watch.timerLive || (world.1.heads .primary).scanoutActive) = true
        rw [active, Bool.or_true]
      · rw [show (ticking c).move .fresh .read world.1 = .dead from if_neg active]
        trivial
    | live =>
      show ((scene world).watch.timerLive || (world.1.heads .primary).scanoutActive) = true
      rw [show (scene world).watch.timerLive = true from seen, Bool.true_or]
    | dead => trivial
  | ask =>
    obtain ⟨guar, kept⟩ := still trivial observed
    cases phase with
    | fresh => exact permitted.elim
    | live | dead => exact ⟨guar, possible, kept⟩
  | setKeepaliveDue head due =>
    obtain ⟨guar, kept⟩ := still trivial observed
    cases phase with
    | live => exact ⟨guar, possible, kept⟩
    | fresh | dead => exact permitted.elim
  | arm head work =>
    cases phase with
    | fresh | dead => exact permitted.elim
    | live =>
      obtain ⟨rfl, rfl | rfl⟩ := permitted
      · obtain ⟨-, kept⟩ := Prod.mk.inj (Option.some.inj ran)
        have next : scene after = { scene world with head := { (scene world).head with
            txWork := { (scene world).head.txWork with pending := true } } } := by
          rw [scene, scene, observed, ← kept]
          rfl
        have queues := timer_queues (c := c) (scene world) seen
        rw [next]
        exact ⟨queues, possible, queues.inv inv, running, seen⟩
      · obtain ⟨guar, kept⟩ := still (fun _ => rfl) observed
        exact ⟨guar, possible, kept⟩
  | _ => cases phase <;> exact permitted.elim

/-! ### Steps of a commit -/

section Commit

variable {now : Scene}

/-- A worker that sees no new entry of the record, and the same bookkeeping. -/
theorem WorkerRely.of_marks {before after : Scene}
    (running : after.head.txWork.running = before.head.txWork.running)
    (last : after.head.last = before.head.last)
    (faulted : before.head.faulted = true → after.head.faulted = true)
    (valid : after.head.valid = true → before.head.valid = true)
    (watch : after.watch = before.watch) : WorkerRely c before after where
  running := running
  last := last
  faulted := faulted
  check := by rw [watch]
  locked := by rw [watch]
  sent := by rw [watch]
  completed := by rw [watch]
  unfinished := by rw [watch]
  enabled := fun _ => by rw [watch]; exact id
  refilled := fun _ => by rw [watch]; exact id
  valid := fun holds is => by rw [watch]; exact holds (valid is)

theorem commit_cancelsTimer (stopped : now.head.timerRunning = false) :
    RefreshGuar c (.commit .primary) now
      { now with watch := { now.watch with timerLive := false } } := by
  refine .of_commit (fun inv => { inv with drained := fun draining => ?_ })
    ⟨rfl, rfl, id, rfl, rfl, rfl, rfl, Iff.rfl, fun _ => id, fun _ => id, id⟩
    ⟨rfl, fun running => absurd running (by rw [stopped]; decide)⟩
  obtain ⟨idle, -, inactive⟩ := inv.drained draining
  exact ⟨idle, rfl, inactive⟩

theorem commit_cancelsWork (stopped : now.head.txWork.running = false) :
    RefreshGuar c (.commit .primary) now { now with head := { now.head with txWork := .stopped } } := by
  refine .of_commit (fun inv => { inv with drained := fun draining => ?_ })
    (.of_marks stopped.symm rfl id id rfl) ⟨rfl, fun _ => rfl⟩
  exact ⟨rfl, (inv.drained draining).2⟩

theorem commit_cancelsDefer : RefreshGuar c (.commit .primary) now
    { now with head := { now.head with deferred := false } } :=
  .of_commit (fun inv => { inv with undeferred := rfl }) (.of_marks rfl rfl id id rfl)
    ⟨rfl, fun _ => rfl⟩

theorem commit_cancelsBoot : RefreshGuar c (.commit .primary) now
    { now with head := { now.head with boot := false } } :=
  .of_commit (fun inv => { inv with unbooted := rfl }) (.of_marks rfl rfl id id rfl)
    ⟨rfl, fun _ => rfl⟩

theorem commit_latches : RefreshGuar c (.commit .primary) now
    { now with head := { now.head with faulted := true } } :=
  .of_commit (fun inv => { inv with }) (.of_marks rfl rfl (fun _ => rfl) id rfl) ⟨rfl, fun _ => rfl⟩

theorem commit_enables (idle : now.watch.draining = false) : RefreshGuar c (.commit .primary) now
    { head := { now.head with active := true }
      watch := { now.watch with marks := .enabled :: now.watch.marks } } := by
  refine .of_commit (fun inv => { inv with
      drained := fun draining => absurd draining (by rw [idle]; decide)
      enabled := fun _ => .inl trivial
      permitted := inv.permitted.cons trivial }) ?_ ⟨rfl, fun _ => rfl⟩
  refine ⟨rfl, rfl, id, rfl, rfl, rfl, rfl, ?_, fun _ _ => .inl trivial,
    fun _ holds => .inr ⟨not_false, holds⟩, fun holds valid => ?_⟩
  · exact ⟨fun unfinished => unfinished.resolve_left not_false |>.2,
      fun unfinished => .inr ⟨not_false, unfinished⟩⟩
  · exact (holds valid).imp (fun refilled => .inr ⟨not_false, refilled⟩) id

theorem commit_closes : RefreshGuar c (.commit .primary) now
    { now with head := { now.head with active := false } } :=
  .of_commit (fun inv => { inv with
      drained := fun draining => ⟨(inv.drained draining).1, (inv.drained draining).2.1, rfl⟩
      enabled := fun active => nomatch active })
    (.of_marks rfl rfl id id rfl) ⟨rfl, fun _ => rfl⟩

theorem commit_stages (idle : now.watch.draining = false) : RefreshGuar c (.commit .primary) now
    { now with head := { now.head with txWork := { now.head.txWork with pending := true } } } :=
  .of_commit (fun inv => { inv with
      drained := fun draining => absurd draining (by rw [idle]; decide) })
    (.of_marks rfl rfl id id rfl) ⟨rfl, fun _ => rfl⟩

/-- A disable is recorded when the head has been stopped. -/
theorem commit_drains (stopped : now.head.txWork = .stopped) (dead : now.watch.timerLive = false)
    (inactive : now.head.active = false) : RefreshGuar c (.commit .primary) now
      { now with watch := { now.watch with draining := true, marks := .disabled :: now.watch.marks } } := by
  have idle : ¬ now.head.txWork.running = true := by rw [stopped]; decide
  refine .of_commit (fun inv => { inv with
      drained := fun _ => ⟨stopped, dead, inactive⟩
      enabled := fun active => absurd active (by rw [inactive]; decide)
      permitted := inv.permitted.cons trivial }) ?_ ⟨rfl, fun _ => rfl⟩
  refine ⟨rfl, rfl, id, rfl, rfl, rfl, rfl, ?_, fun running => absurd running idle,
    fun running => absurd running idle, fun _ _ => .inr rfl⟩
  exact ⟨fun unfinished => unfinished.resolve_left not_false |>.2,
    fun unfinished => .inr ⟨not_false, unfinished⟩⟩

/-- Then the reference is discarded. -/
theorem commit_discards : RefreshGuar c (.commit .primary) now
    { head := { now.head with valid := false }, watch := { now.watch with draining := false } } := by
  refine .of_commit (fun inv => { inv with drained := fun draining => nomatch draining }) ?_
    ⟨rfl, fun _ => rfl⟩
  exact ⟨rfl, rfl, id, rfl, rfl, rfl, rfl, Iff.rfl, fun _ => id, fun _ => id,
    fun _ valid => nomatch valid⟩

end Commit

theorem commit_stable (phase : CommitPhase) ⦃before after : Scene⦄
    (rely : RefreshRely c (.commit .primary) before after) (holds : CommitHolds c phase before) :
    CommitHolds c phase after := by
  obtain ⟨inv, reached⟩ := holds
  have kept := rely.commit rfl
  refine ⟨rely.inv inv, ?_⟩
  cases phase with
  | idle | drained => exact kept.draining.trans reached
  | closed => exact ⟨kept.draining.trans reached.1, kept.active.trans reached.2⟩
  | quiet =>
    obtain ⟨idle, inactive, dead⟩ := reached
    exact ⟨kept.draining.trans idle, kept.active.trans inactive, kept.live inactive dead⟩
  | stopped =>
    obtain ⟨idle, inactive, dead, stopped⟩ := reached
    exact ⟨kept.draining.trans idle, kept.active.trans inactive, kept.live inactive dead,
      kept.stopped inactive dead stopped⟩

theorem commit_each {allowed : Entry → Bool} {world : Dev c × Watch} (phase : CommitPhase)
    (op : Op c) ⦃input : Env⦄ ⦃answer : op.Answer⦄ ⦃after : Dev c × Watch⦄
    (permitted : (committing c).allowed phase op) (holds : CommitHolds c phase (scene world))
    (answered : (watched c allowed).exec (.commit .primary) world op input = some (answer, after)) :
    RefreshGuar c (.commit .primary) (scene world) (scene after) ∧
      (committing c).possible phase op answer ∧
      CommitHolds c ((committing c).move phase op answer) (scene after) := by
  obtain ⟨ran, observed⟩ := watched_exec answered
  have possible : op.Possible answer := exec_possible ran
  obtain ⟨inv, reached⟩ := holds
  -- a still step that the observer ignores
  have still : op.Still → after.2 = world.2 → (committing c).move phase op answer = phase →
      RefreshGuar c (.commit .primary) (scene world) (scene after) ∧
        (committing c).possible phase op answer ∧
        CommitHolds c ((committing c).move phase op answer) (scene after) := by
    intro quiet same stays
    have unchanged : scene after = scene world := by
      rw [scene, scene, exec_still quiet ran, same]
    rw [unchanged, stays]
    exact ⟨.of_same rfl, possible, inv, reached⟩
  -- a step that leads to a known scene
  have leads : ∀ {next : Scene}, scene after = next →
      RefreshGuar c (.commit .primary) (scene world) next →
      (∀ inv : RefreshInvariant c next, CommitHolds c ((committing c).move phase op answer) next) →
      RefreshGuar c (.commit .primary) (scene world) (scene after) ∧
        (committing c).possible phase op answer ∧
        CommitHolds c ((committing c).move phase op answer) (scene after) := by
    rintro next rfl guar reaches
    exact ⟨guar, possible, reaches (guar.inv inv)⟩
  cases op with
  | read | ask | tuneDevice | devEnter | devExit | lockIo | unlockIo | setIoLastError | submit =>
    exact still trivial observed (by cases phase <;> rfl)
  | setKeepaliveDue head due => exact still trivial observed (by cases phase <;> rfl)
  | tune head change =>
    have keeps : KeepsLast change := by cases phase <;> exact permitted
    exact still (fun _ => keeps) observed (by cases phase <;> rfl)
  | setIoFaulted =>
    obtain ⟨-, kept⟩ := Prod.mk.inj (Option.some.inj ran)
    refine leads (by rw [scene, observed, ← kept]; rfl) commit_latches fun inv => ⟨inv, ?_⟩
    cases phase <;> exact reached
  | cancelSync head work =>
    have own : head = .primary := by cases phase <;> exact permitted
    subst own
    simp only [exec] at ran
    by_cases running : ((world.1.heads .primary).jobs work).running = true
    · rw [if_pos running] at ran
      cases ran
    · rw [if_neg running] at ran
      obtain ⟨-, kept⟩ := Prod.mk.inj (Option.some.inj ran)
      have idle := eq_false_of_ne_true running
      cases work with
      | keepaliveTimer =>
        have cancels : RefreshGuar c _ (scene world) _ := commit_cancelsTimer idle
        refine leads (by rw [scene, observed, ← kept]; rfl) cancels fun inv => ⟨inv, ?_⟩
        cases phase with
        | idle | drained => exact reached
        | closed => exact ⟨reached.1, reached.2, rfl⟩
        | quiet => exact ⟨reached.1, reached.2.1, rfl⟩
        | stopped => exact ⟨reached.1, reached.2.1, rfl, reached.2.2.2⟩
      | txWork =>
        have next : scene after = { scene world with head := { (scene world).head with
            txWork := ⟨false, (scene world).head.txWork.running⟩ } } := by
          rw [scene, observed, ← kept]
          rfl
        rw [show (scene world).head.txWork.running = false from idle] at next
        have stops : RefreshGuar c _ (scene world) _ := commit_cancelsWork idle
        refine leads next stops fun inv => ⟨inv, ?_⟩
        cases phase with
        | idle | drained | closed => exact reached
        | quiet => exact ⟨reached.1, reached.2.1, reached.2.2, rfl⟩
        | stopped => exact ⟨reached.1, reached.2.1, reached.2.2.1, rfl⟩
      | txDeferWork =>
        refine leads (by rw [scene, observed, ← kept]; rfl) commit_cancelsDefer fun inv => ⟨inv, ?_⟩
        cases phase <;> exact reached
      | bootKeepaliveWork =>
        refine leads (by rw [scene, observed, ← kept]; rfl) commit_cancelsBoot fun inv => ⟨inv, ?_⟩
        cases phase <;> exact reached
  | arm head work =>
    cases phase with
    | idle =>
      obtain ⟨rfl, rfl⟩ := permitted
      exact still (fun _ => rfl) observed rfl
    | _ => exact permitted.elim
  | setScanoutActive head active =>
    cases phase with
    | idle =>
      obtain rfl := permitted
      obtain ⟨-, kept⟩ := Prod.mk.inj (Option.some.inj ran)
      cases active with
      | true =>
        exact leads (by rw [scene, observed, ← kept]; rfl) (commit_enables reached)
          fun inv => ⟨inv, reached⟩
      | false =>
        exact leads (by rw [scene, observed, ← kept]; rfl) commit_closes
          fun inv => ⟨inv, reached, rfl⟩
    | _ => exact permitted.elim
  | stage head src pitch =>
    cases phase with
    | idle =>
      obtain rfl := permitted
      simp only [exec] at ran
      cases staged : stageFrame (world.1.heads .primary).queue src pitch input.ns with
      | error errno =>
        rw [staged] at ran
        obtain ⟨-, kept⟩ := Prod.mk.inj (Option.some.inj ran)
        exact leads (by rw [scene, observed, ← kept]; rfl) (.of_same rfl) fun inv => ⟨inv, reached⟩
      | ok queue =>
        rw [staged] at ran
        obtain ⟨-, kept⟩ := Prod.mk.inj (Option.some.inj ran)
        by_cases queued : world.1.wq = true
        · rw [if_pos queued] at kept
          exact leads (by rw [scene, observed, ← kept]; rfl) (commit_stages reached)
            fun inv => ⟨inv, reached⟩
        · rw [if_neg queued] at kept
          exact leads (by rw [scene, observed, ← kept]; rfl) (.of_same rfl)
            fun inv => ⟨inv, reached⟩
    | _ => exact permitted.elim
  | note event =>
    cases phase with
    | stopped =>
      obtain rfl := permitted
      obtain ⟨-, kept⟩ := Prod.mk.inj (Option.some.inj ran)
      obtain ⟨-, inactive, dead, stopped⟩ := reached
      exact leads (by rw [scene, observed, ← kept]; rfl) (commit_drains stopped dead inactive)
        fun inv => ⟨inv, rfl⟩
    | _ => exact permitted.elim
  | setLastSentValid head valid =>
    cases phase with
    | drained =>
      obtain ⟨rfl, rfl⟩ := permitted
      obtain ⟨-, kept⟩ := Prod.mk.inj (Option.some.inj ran)
      exact leads (by rw [scene, observed, ← kept]; rfl) commit_discards fun inv => ⟨inv, rfl⟩
    | _ => exact permitted.elim
  | _ => cases phase <;> exact permitted.elim

/-! ### Steps of the worker -/

/-- No disable is on its way past a running worker. -/
theorem RefreshInvariant.undrained {now : Scene} (inv : RefreshInvariant c now)
    (running : now.head.txWork.running = true) : ¬ now.watch.draining = true := by
  intro draining
  rw [(inv.drained draining).1] at running
  exact absurd running (by decide)

section Stable

variable {before after : Scene} (kept : WorkerRely c before after)

include kept

theorem Ordered.stable (ordered : Ordered c before) : Ordered c after where
  last clock completed := kept.last.trans (ordered.last clock (kept.completed.symm.trans completed))
  valid := kept.valid ordered.valid
  finished unfinished := kept.faulted (ordered.finished (kept.unfinished.mp unfinished))

theorem last_stable
    (last : ∀ clock, lastCompleted before.watch.marks = some clock → before.head.last = clock) :
    ∀ clock, lastCompleted after.watch.marks = some clock → after.head.last = clock :=
  fun clock completed => kept.last.trans (last clock (kept.completed.symm.trans completed))

theorem valid_stable (inv : RefreshInvariant c after) (running : after.head.txWork.running = true)
    (valid : before.head.valid = true → Refilled c before.watch.marks)
    (is : after.head.valid = true) : Refilled c after.watch.marks :=
  (kept.valid (fun is => .inl (valid is)) is).resolve_right (inv.undrained running)

end Stable

theorem worker_stable (phase : WorkPhase) ⦃before after : Scene⦄
    (rely : RefreshRely c (.worker .primary) before after) (holds : WorkHolds c phase before) :
    WorkHolds c phase after := by
  obtain ⟨inv, running, reached⟩ := holds
  have kept := rely.worker rfl
  have still := kept.running.trans running
  have refilled := kept.refilled running
  have enabled := kept.enabled running
  refine ⟨rely.inv inv, still, ?_⟩
  cases phase with
  | free => exact ⟨reached.1.stable kept, kept.locked.trans reached.2⟩
  | taken refresh known =>
    obtain ⟨ordered, unlocked, same, seen⟩ := reached
    exact ⟨ordered.stable kept, kept.locked.trans unlocked, by rw [kept.check]; exact same,
      fun is => refilled (seen is)⟩
  | checking known check last =>
    obtain ⟨ordered, locked, unsent, same, seen, valid, active, sound, read⟩ := reached
    exact ⟨ordered.stable kept, kept.locked.trans locked, kept.sent.trans unsent,
      kept.check.trans same, fun is => refilled (seen is), fun is => refilled (valid is),
      fun is => enabled (active is), fun is => fun unfinished => sound is (kept.unfinished.mp unfinished),
      fun clock is => kept.last.trans (read clock is)⟩
  | sending refresh known bytes faulted =>
    obtain ⟨locked, sent, same, last, valid, seen, latched⟩ := reached
    exact ⟨kept.locked.trans locked, kept.sent.trans sent, by rw [kept.check]; exact same,
      last_stable kept last, valid_stable kept (rely.inv inv) still valid,
      fun is => refilled (seen is), fun is => kept.faulted (latched is)⟩
  | kept refresh bytes =>
    obtain ⟨locked, sent, same, full⟩ := reached
    exact ⟨kept.locked.trans locked, kept.sent.trans sent, by rw [kept.check]; exact same,
      full.imp refilled id⟩
  | stamped clock =>
    obtain ⟨locked, completed, finished, valid⟩ := reached
    exact ⟨kept.locked.trans locked, kept.completed.trans completed,
      fun unfinished => finished (kept.unfinished.mp unfinished),
      valid_stable kept (rely.inv inv) still valid⟩
  | settled => exact ⟨reached.1.stable kept, kept.locked.trans reached.2⟩
  | failing =>
    obtain ⟨locked, last, valid⟩ := reached
    exact ⟨kept.locked.trans locked, last_stable kept last,
      valid_stable kept (rely.inv inv) still valid⟩

/-- What a step of the worker leaves to the others. -/
structure Moves (c : Config) (before after : Scene) : Prop where
  running : after.head.txWork.running = true
  deferred : after.head.deferred = before.head.deferred
  boot : after.head.boot = before.head.boot
  timerRunning : after.head.timerRunning = before.head.timerRunning
  active : after.head.active = before.head.active
  supplied : after.head.supplied = before.head.supplied
  live : after.watch.timerLive = before.watch.timerLive
  draining : after.watch.draining = before.watch.draining
  enabled : Enabled before.watch.marks → Enabled after.watch.marks
  permitted : AtEach (Permitted c) before.watch.marks → AtEach (Permitted c) after.watch.marks

theorem Moves.guar {before after : Scene} (moves : Moves c before after)
    (running : before.head.txWork.running = true) :
    RefreshGuar c (.worker .primary) before after := by
  refine .of_worker (fun inv => ?_) ⟨moves.timerRunning, fun _ => moves.live⟩
    ⟨moves.active, moves.draining, fun _ dead => moves.live.trans dead, fun _ _ stopped => ?_⟩
  · exact {
      undeferred := moves.deferred.trans inv.undeferred
      unbooted := moves.boot.trans inv.unbooted
      supplied := moves.supplied.trans inv.supplied
      drained := fun draining =>
        absurd (moves.draining.symm.trans draining) (inv.undrained running)
      enabled := fun active => moves.enabled (inv.enabled (moves.active.symm.trans active))
      permitted := moves.permitted inv.permitted }
  · rw [stopped] at running
    exact absurd running (by decide)

/-- A step that only concerns the worker's own view. -/
theorem Moves.of_watch {now : Scene} {watch : Watch} (running : now.head.txWork.running = true)
    (live : watch.timerLive = now.watch.timerLive) (draining : watch.draining = now.watch.draining)
    (marks : watch.marks = now.watch.marks) : Moves c now { now with watch := watch } :=
  ⟨running, rfl, rfl, rfl, rfl, rfl, live, draining, by rw [marks]; exact id,
    by rw [marks]; exact id⟩

/-- The record goes on with an entry that is no disable and no unwarranted refresh. -/
theorem Moves.of_mark {now : Scene} {watch : Watch} {mark : Mark}
    (running : now.head.txWork.running = true) (live : watch.timerLive = now.watch.timerLive)
    (draining : watch.draining = now.watch.draining) (marks : watch.marks = mark :: now.watch.marks)
    (other : ¬ mark.isDisabled) (permitted : Permitted c mark now.watch.marks) :
    Moves c now { now with watch := watch } :=
  ⟨running, rfl, rfl, rfl, rfl, rfl, live, draining,
    by rw [marks]; exact fun enabled => .inr ⟨other, enabled⟩,
    by rw [marks]; exact fun each => each.cons permitted⟩

section Worker

variable {now : Scene}

/-- The bookkeeping does not depend on what the worker has seen. -/
theorem Ordered.of_marks (ordered : Ordered c now) {watch : Watch}
    (marks : watch.marks = now.watch.marks) (draining : watch.draining = now.watch.draining) :
    Ordered c { now with watch := watch } where
  last := by rw [marks]; exact ordered.last
  valid := by rw [marks, draining]; exact ordered.valid
  finished := by rw [marks]; exact ordered.finished

theorem RefreshInvariant.of_view (inv : RefreshInvariant c now) {watch : Watch}
    (marks : watch.marks = now.watch.marks) (live : watch.timerLive = now.watch.timerLive)
    (draining : watch.draining = now.watch.draining) :
    RefreshInvariant c { now with watch := watch } where
  undeferred := inv.undeferred
  unbooted := inv.unbooted
  supplied := inv.supplied
  drained := by rw [draining, live]; exact inv.drained
  enabled := by rw [marks]; exact inv.enabled
  permitted := by rw [marks]; exact inv.permitted

/-- The worker reads the device. -/
theorem worker_sees {dev : Dev c} (same : dev.rawHead = now.head) {phase : WorkPhase}
    (holds : WorkHolds c phase now) :
    WorkHolds c ((refreshing c).move phase .read dev)
      { now with watch := { now.watch with check := now.watch.check.see dev } } := by
  obtain ⟨inv, running, reached⟩ := holds
  have valid : (dev.heads .primary).lastSentValid = now.head.valid := congrArg RawHead.valid same
  have active : (dev.heads .primary).scanoutActive = now.head.active := congrArg RawHead.active same
  have faulted : dev.ioFaulted = now.head.faulted := congrArg RawHead.faulted same
  have last : (dev.heads .primary).sender.rawLastSentJiffies = now.head.last :=
    congrArg RawHead.last same
  -- a valid reference was refilled, since no disable is on its way
  have refilled : Ordered c now → now.head.valid = true → Refilled c now.watch.marks :=
    fun ordered is => (ordered.valid is).resolve_right (inv.undrained running)
  refine ⟨inv.of_view rfl rfl rfl, running, ?_⟩
  cases phase with
  | free => exact ⟨reached.1.of_marks rfl rfl, reached.2⟩
  | taken refresh known =>
    obtain ⟨ordered, unlocked, took, seen⟩ := reached
    refine ⟨ordered.of_marks rfl rfl, unlocked, took, fun is => ?_⟩
    rw [valid, Bool.or_eq_true] at is
    exact is.elim seen (refilled ordered)
  | checking known check read =>
    obtain ⟨ordered, locked, unsent, took, seen, wasValid, wasActive, sound, -⟩ := reached
    refine ⟨ordered.of_marks rfl rfl, locked, unsent, congrArg (Check.see · dev) took, seen,
      fun is => ?_, fun is => ?_, fun is => ?_, fun clock is => ?_⟩
    · rw [Check.see, valid, Bool.or_eq_true] at is
      exact is.elim wasValid (refilled ordered)
    · rw [Check.see, active, Bool.or_eq_true] at is
      exact is.elim wasActive inv.enabled
    · rw [Check.see, faulted, Bool.or_eq_true, Bool.not_eq_true'] at is
      refine is.elim sound fun unlatched unfinished => ?_
      exact absurd (ordered.finished unfinished) (by rw [unlatched]; decide)
    · exact last.symm.trans (Option.some.inj is)
  | sending refresh known bytes latched =>
    obtain ⟨locked, sent, took, kept, wasValid, seen, was⟩ := reached
    refine ⟨locked, sent, took, kept, wasValid, seen, fun is => ?_⟩
    rw [faulted, Bool.or_eq_true] at is
    exact is.elim was id
  | settled => exact ⟨reached.1.of_marks rfl rfl, reached.2⟩
  | kept | stamped | failing => exact reached

theorem hear_idle {watch : Watch} (idle : watch.locked = false ∨ watch.sent = none)
    (clock : BitVec 64) :
    watch.hear clock = { watch with check := { watch.check with clock := clock } } := by
  rw [Watch.hear]
  rcases idle with idle | idle <;> rw [idle]
  cases watch.locked <;> rfl

theorem hear_sent {watch : Watch} {bytes : List Byte} (locked : watch.locked = true)
    (sent : watch.sent = some bytes) (clock : BitVec 64) : watch.hear clock = { watch with
      check := { watch.check with clock := clock }
      sent := none
      marks := .completed watch.check.refresh bytes clock :: watch.marks } := by
  rw [Watch.hear, locked, sent]

/-- The worker reads the clock between two sections, or before it sends. -/
theorem worker_hears {env : Env} {phase : WorkPhase} (holds : WorkHolds c phase now)
    (idle : now.watch.locked = false ∨ now.watch.sent = none)
    (before : phase = .free ∨ (∃ refresh known, phase = .taken refresh known) ∨
      ∃ known check last, phase = .checking known check last) :
    Moves c now { now with watch := now.watch.hear env.jiffies } ∧
      WorkHolds c ((refreshing c).move phase .ask env)
        { now with watch := now.watch.hear env.jiffies } := by
  obtain ⟨inv, running, reached⟩ := holds
  rw [hear_idle idle]
  refine ⟨.of_watch running rfl rfl rfl, inv.of_view rfl rfl rfl, running, ?_⟩
  rcases before with rfl | ⟨refresh, known, rfl⟩ | ⟨known, check, last, rfl⟩
  · exact ⟨reached.1.of_marks rfl rfl, reached.2⟩
  · exact ⟨reached.1.of_marks rfl rfl, reached.2⟩
  · obtain ⟨ordered, locked, unsent, took, seen⟩ := reached
    refine ⟨ordered.of_marks rfl rfl, locked, unsent, ?_, seen⟩
    rw [took]

/-- The worker reads the clock after its last chunk: the transmission is complete. -/
theorem worker_stamps {env : Env} {refresh : Bool} {bytes : List Byte}
    (inv : RefreshInvariant c now) (running : now.head.txWork.running = true)
    (locked : now.watch.locked = true) (sent : now.watch.sent = some bytes)
    (took : now.watch.check.refresh = refresh)
    (valid : now.head.valid = true → Refilled c now.watch.marks ∨ refresh = false ∧ FullFrame c bytes) :
    Moves c now { now with watch := now.watch.hear env.jiffies } ∧
      WorkHolds c (.stamped env.jiffies) { now with watch := now.watch.hear env.jiffies } := by
  rw [hear_sent locked sent]
  have moves : Moves c now { now with watch := { now.watch with
      check := { now.watch.check with clock := env.jiffies }
      sent := none
      marks := .completed now.watch.check.refresh bytes env.jiffies :: now.watch.marks } } :=
    .of_mark running rfl rfl rfl not_false trivial
  refine ⟨moves, (moves.guar running).inv inv, running, locked, rfl, ?_, fun is => ?_⟩
  · exact fun unfinished => unfinished.elim id fun older => older.1 trivial
  · refine (valid is).elim (fun refilled => .inr ⟨not_false, refilled⟩) fun full => ?_
    rw [← took] at full
    exact .inl full

/-- The first or a later chunk of a transmission. -/
theorem send_first {watch : Watch} (unsent : watch.sent = none) (moved : List Byte) :
    watch.send moved =
      { watch with sent := some moved, marks := .began watch.check :: watch.marks } := by
  rw [Watch.send, unsent]

theorem send_later {watch : Watch} {bytes : List Byte} (sent : watch.sent = some bytes)
    (moved : List Byte) : watch.send moved = { watch with sent := some (bytes ++ moved) } := by
  rw [Watch.send, sent]

/-- Where a frame was sent in full a transmission was completed. -/
theorem Refilled.completed {marks : List Mark} (refilled : Refilled c marks) :
    ∃ clock, lastCompleted marks = some clock := by
  induction marks with
  | nil => exact refilled.elim
  | cons mark older inductionHypothesis =>
    rcases refilled with is | ⟨-, older⟩
    · cases mark with
      | completed refresh bytes clock => exact ⟨clock, rfl⟩
      | _ => exact is.elim
    · cases mark with
      | completed refresh bytes clock => exact ⟨clock, rfl⟩
      | _ => exact inductionHypothesis older

/-- The kernel's comparison, on times less than half the range of the counter apart. -/
theorem farApart_of_late (kernel : c.hz < 2 ^ 31) {last clock : BitVec 64}
    (late : timeBefore clock (last + BitVec.ofNat 64 (c.msecsToJiffies rawIdleRefreshMs)) = false) :
    FarApart c last clock := by
  rintro earlier later rfl rfl ordered half
  have interval : c.msecsToJiffies rawIdleRefreshMs < 2 ^ 32 := by
    rw [Config.msecsToJiffies, if_neg (by decide), rawIdleRefreshMs]
    omega
  generalize c.msecsToJiffies rawIdleRefreshMs = jiffies at late interval
  obtain ⟨elapsed, rfl⟩ := Nat.exists_eq_add_of_le ordered
  rw [Nat.add_sub_cancel_left] at half ⊢
  rw [timeBefore, BitVec.msb_eq_decide, decide_eq_false_iff_not, BitVec.toNat_sub,
    BitVec.toNat_add, BitVec.toNat_ofNat, BitVec.toNat_ofNat, BitVec.toNat_ofNat] at late
  omega

/-- The worker begins a transmission: a refresh is warranted. -/
theorem worker_begins (kernel : c.hz < 2 ^ 31) {known : Bool} {check : Check}
    {last : Option (BitVec 64)} (holds : WorkHolds c (.checking known check last) now)
    (clear : check.refresh = true → check.Clear c last) (moved : List Byte) :
    Moves c now { now with watch := now.watch.send moved } ∧
      WorkHolds c (.sending check.refresh known moved false)
        { now with watch := now.watch.send moved } := by
  obtain ⟨inv, running, ordered, locked, unsent, took, seen, valid, active, sound, read⟩ := holds
  have permitted : Permitted c (.began now.watch.check) now.watch.marks := by
    intro refresh
    rw [took] at refresh ⊢
    obtain ⟨isActive, isValid, isSound, headSound, clock, known, late⟩ := clear refresh
    obtain ⟨completed, same⟩ := (valid isValid).completed
    rw [← (ordered.last completed same).symm.trans (read clock known)] at late
    exact ⟨isActive, isValid, isSound, headSound, ⟨completed, same, farApart_of_late kernel late⟩,
      sound isSound, active isActive, valid isValid⟩
  rw [send_first unsent]
  have moves : Moves c now { now with watch := { now.watch with
      sent := some moved, marks := .began now.watch.check :: now.watch.marks } } :=
    .of_mark running rfl rfl rfl not_false permitted
  refine ⟨moves, (moves.guar running).inv inv, running, locked, rfl, ?_, ordered.last,
    fun is => .inr ⟨not_false, ?_⟩, fun is => .inr ⟨not_false, seen is⟩, nofun⟩
  · exact congrArg Check.refresh took
  · exact (ordered.valid is).resolve_right (inv.undrained running)

/-- The worker goes on with a transmission. -/
theorem worker_continues {refresh known faulted : Bool} {bytes : List Byte}
    (holds : WorkHolds c (.sending refresh known bytes faulted) now) (moved : List Byte) :
    Moves c now { now with watch := now.watch.send moved } ∧
      WorkHolds c (.sending refresh known (bytes ++ moved) faulted)
        { now with watch := now.watch.send moved } := by
  obtain ⟨inv, running, locked, sent, rest⟩ := holds
  rw [send_later sent]
  exact ⟨.of_watch running rfl rfl rfl, inv.of_view rfl rfl rfl, running, locked, rfl, rest⟩

/-- A transmission in which a chunk has failed. -/
theorem WorkHolds.fails {refresh known faulted : Bool} {bytes : List Byte}
    (holds : WorkHolds c (.sending refresh known bytes faulted) now) :
    WorkHolds c .failing now := by
  obtain ⟨inv, running, locked, -, -, last, valid, -⟩ := holds
  exact ⟨inv, running, locked, last, valid⟩

/-- Where the worker stands does not depend on whether it is queued again. -/
theorem WorkHolds.queued {phase : WorkPhase} (holds : WorkHolds c phase now) :
    Moves c now { now with head := { now.head with txWork := { now.head.txWork with pending := true } } } ∧
      WorkHolds c phase { now with
        head := { now.head with txWork := { now.head.txWork with pending := true } } } := by
  obtain ⟨inv, running, reached⟩ := holds
  have moves : Moves c now { now with
      head := { now.head with txWork := { now.head.txWork with pending := true } } } :=
    ⟨running, rfl, rfl, rfl, rfl, rfl, rfl, rfl, id, id⟩
  refine ⟨moves, (moves.guar running).inv inv, running, ?_⟩
  have same : Ordered c now → Ordered c { now with
      head := { now.head with txWork := { now.head.txWork with pending := true } } } :=
    fun ordered => ⟨ordered.last, ordered.valid, ordered.finished⟩
  cases phase with
  | free | taken | checking | settled => exact ⟨same reached.1, reached.2⟩
  | sending | kept | stamped | failing => exact reached

theorem take_complete {outcome : Outcome} {chunk : List Byte}
    (complete : outcome.complete (.bulk chunk) = true) : chunk.take outcome.actual = chunk := by
  rw [Outcome.complete, Bool.and_eq_true, beq_iff_eq, beq_iff_eq] at complete
  rw [complete.2]
  exact List.take_length

end Worker

/-- The phases in which the worker may submit. -/
theorem submit_phase {phase : WorkPhase} {guard : Dev c → Bool} {allocates : Bool}
    {transfer : Transfer}
    (permitted : (refreshing c).allowed phase (.submit guard allocates transfer)) :
    guard = latchCheck ∧ allocates = false ∧ (∃ chunk, transfer = .bulk chunk) ∧
      ((∃ known check last, phase = .checking known check last ∧
          (check.refresh = true → check.Clear c last)) ∨
        ∃ refresh known bytes faulted, phase = .sending refresh known bytes faulted) := by
  cases phase with
  | checking known check last =>
    obtain ⟨own, direct, bulk, clear⟩ := permitted
    exact ⟨own, direct, bulk, .inl ⟨known, check, last, rfl, clear⟩⟩
  | sending refresh known bytes faulted =>
    obtain ⟨own, direct, bulk⟩ := permitted
    exact ⟨own, direct, bulk, .inr ⟨refresh, known, bytes, faulted, rfl⟩⟩
  | _ => exact permitted.elim

theorem worker_each (kernel : c.hz < 2 ^ 31) {allowed : Entry → Bool} {world : Dev c × Watch}
    (phase : WorkPhase) (op : Op c) ⦃input : Env⦄ ⦃answer : op.Answer⦄ ⦃after : Dev c × Watch⦄
    (permitted : (refreshing c).allowed phase op) (holds : WorkHolds c phase (scene world))
    (answered : (watched c allowed).exec (.worker .primary) world op input = some (answer, after)) :
    RefreshGuar c (.worker .primary) (scene world) (scene after) ∧
      (refreshing c).possible phase op answer ∧
      WorkHolds c ((refreshing c).move phase op answer) (scene after) := by
  obtain ⟨ran, observed⟩ := watched_exec answered
  have possible : op.Possible answer := exec_possible ran
  have running : (scene world).head.txWork.running = true := holds.2.1
  -- a step that leads to a known scene
  have leads : ∀ {next : Scene}, scene after = next → Moves c (scene world) next →
      WorkHolds c ((refreshing c).move phase op answer) next →
      RefreshGuar c (.worker .primary) (scene world) (scene after) ∧
        WorkHolds c ((refreshing c).move phase op answer) (scene after) := by
    rintro next rfl moves reaches
    exact ⟨moves.guar running, reaches⟩
  -- a still step that the observer ignores
  have still : op.Still → after.2 = world.2 → (refreshing c).move phase op answer = phase →
      RefreshGuar c (.worker .primary) (scene world) (scene after) ∧
        WorkHolds c ((refreshing c).move phase op answer) (scene after) := by
    intro quiet same stays
    have unchanged : scene after = scene world := by
      rw [scene, scene, exec_still quiet ran, same]
    rw [unchanged, stays]
    exact ⟨.of_same rfl, holds⟩
  cases op with
  | read =>
    obtain ⟨rfl, kept⟩ := Prod.mk.inj (Option.some.inj ran)
    have next : scene after = { scene world with watch := { (scene world).watch with
        check := (scene world).watch.check.see world.1 } } := by
      rw [scene, observed, ← kept]
      rfl
    obtain ⟨guar, reaches⟩ := leads next (.of_watch running rfl rfl rfl) (worker_sees rfl holds)
    refine ⟨guar, ⟨possible, holds.1.supplied, ?_⟩, reaches⟩
    rintro known check clock rfl
    exact holds.2.2.2.2.2.2.2.2.2.2 clock rfl
  | ask =>
    obtain ⟨rfl, kept⟩ := Prod.mk.inj (Option.some.inj ran)
    have next : scene after = { scene world with
        watch := (scene world).watch.hear input.jiffies } := by
      rw [scene, observed, ← kept]
      rfl
    have heard : Moves c (scene world) { scene world with
        watch := (scene world).watch.hear input.jiffies } ∧
        WorkHolds c ((refreshing c).move phase .ask input) { scene world with
          watch := (scene world).watch.hear input.jiffies } := by
      cases phase with
      | free => exact worker_hears holds (.inl holds.2.2.2) (.inl rfl)
      | taken => exact worker_hears holds (.inl holds.2.2.2.1) (.inr (.inl ⟨_, _, rfl⟩))
      | checking => exact worker_hears holds (.inr holds.2.2.2.2.1) (.inr (.inr ⟨_, _, _, rfl⟩))
      | sending =>
        obtain ⟨inv, -, locked, sent, took, -, valid, -⟩ := holds
        exact worker_stamps inv running locked sent took fun is => .inl (valid is)
      | kept =>
        obtain ⟨inv, -, locked, sent, took, full⟩ := holds
        exact worker_stamps inv running locked sent took fun _ => full
      | _ => exact permitted.elim
    obtain ⟨guar, reaches⟩ := leads next heard.1 heard.2
    exact ⟨guar, ⟨possible, trivial⟩, reaches⟩
  | tune head change =>
    by_cases stamped : ∃ clock, phase = .stamped clock
    · obtain ⟨clock, rfl⟩ := stamped
      obtain ⟨rfl, notes⟩ := permitted
      obtain ⟨-, kept⟩ := Prod.mk.inj (Option.some.inj ran)
      have next : scene after = { scene world with head := { (scene world).head with last := clock } } := by
        rw [scene, observed, ← kept, ← notes (world.1.heads .primary).sender]
        rfl
      obtain ⟨inv, -, locked, completed, finished, valid⟩ := holds
      have moves : Moves c (scene world) { scene world with
          head := { (scene world).head with last := clock } } :=
        ⟨running, rfl, rfl, rfl, rfl, rfl, rfl, rfl, id, id⟩
      have ordered : Ordered c { scene world with
          head := { (scene world).head with last := clock } } :=
        ⟨fun other same => Option.some.inj (completed.symm.trans same),
          fun is => .inl (valid is), fun unfinished => absurd unfinished finished⟩
      obtain ⟨guar, reaches⟩ := leads next moves
        ⟨(moves.guar running).inv inv, running, ordered, locked⟩
      exact ⟨guar, ⟨possible, trivial⟩, reaches⟩
    · have keeps : KeepsLast change := by
        cases phase with
        | stamped clock => exact absurd ⟨clock, rfl⟩ stamped
        | _ => exact permitted
      have stays : (refreshing c).move phase (.tune head change) answer = phase := by
        cases phase with
        | stamped clock => exact absurd ⟨clock, rfl⟩ stamped
        | _ => rfl
      obtain ⟨guar, reaches⟩ := still (fun _ => keeps) observed stays
      exact ⟨guar, ⟨possible, trivial⟩, reaches⟩
  | arm head work =>
    by_cases queues : head = .primary ∧ work = .txWork
    · obtain ⟨rfl, rfl⟩ := queues
      obtain ⟨-, kept⟩ := Prod.mk.inj (Option.some.inj ran)
      have next : scene after = { scene world with head := { (scene world).head with
          txWork := { (scene world).head.txWork with pending := true } } } := by
        rw [scene, observed, ← kept]
        rfl
      have stays : (refreshing c).move phase (.arm .primary .txWork) answer = phase := by
        cases phase <;> rfl
      obtain ⟨moves, same⟩ := holds.queued
      obtain ⟨guar, reaches⟩ := leads next moves (by rw [stays]; exact same)
      exact ⟨guar, ⟨possible, trivial⟩, reaches⟩
    · have quiet : (Op.arm (c := c) head work).Still := by
        rintro rfl
        cases work with
        | keepaliveTimer => rfl
        | txWork => exact absurd ⟨rfl, rfl⟩ queues
        | _ => cases phase <;> exact permitted
      obtain ⟨guar, reaches⟩ := still quiet observed (by cases phase <;> rfl)
      exact ⟨guar, ⟨possible, trivial⟩, reaches⟩
  | take head =>
    cases phase with
    | free =>
      obtain rfl := permitted
      cases answer with
      | none =>
        obtain ⟨guar, reaches⟩ := still trivial observed rfl
        exact ⟨guar, ⟨possible, trivial⟩, reaches⟩
      | some popped =>
        have next : scene after = { scene world with watch := { (scene world).watch with
            check := { (scene world).watch.check with refresh := popped.keepaliveDue } } } := by
          rw [scene, scene, exec_still (show Op.Still (c := c) (.take .primary) from trivial) ran, observed]
          rfl
        obtain ⟨inv, -, ordered, unlocked⟩ := holds
        obtain ⟨guar, reaches⟩ := leads next (.of_watch running rfl rfl rfl)
          ⟨inv.of_view rfl rfl rfl, running, ordered.of_marks rfl rfl, unlocked, rfl, fun due => by cases due⟩
        exact ⟨guar, ⟨possible, trivial⟩, reaches⟩
    | _ => exact permitted.elim
  | lockIo =>
    cases phase with
    | taken refresh known =>
      have next : scene after = { scene world with watch := { (scene world).watch with
          locked := true, sent := none, check := .opened (scene world).watch.check.refresh } } := by
        rw [scene, scene, exec_still (show Op.Still (c := c) .lockIo from trivial) ran, observed]
        rfl
      obtain ⟨inv, -, ordered, -, took, seen⟩ := holds
      obtain ⟨guar, reaches⟩ := leads next (.of_watch running rfl rfl rfl)
        ⟨inv.of_view rfl rfl rfl, running, ordered.of_marks rfl rfl, rfl, rfl,
          congrArg Check.opened took, seen, by rintro ⟨⟩, by rintro ⟨⟩, by rintro ⟨⟩, by rintro _ ⟨⟩⟩
      exact ⟨guar, ⟨possible, trivial⟩, reaches⟩
    | _ => exact permitted.elim
  | unlockIo =>
    have next : scene after = { scene world with watch := { (scene world).watch with
        locked := false, sent := none } } := by
      rw [scene, scene, exec_still (show Op.Still (c := c) .unlockIo from trivial) ran, observed]
      rfl
    have settled : Ordered c (scene world) ∧ (refreshing c).move phase .unlockIo answer = .free := by
      cases phase with
      | checking => exact ⟨holds.2.2.1, rfl⟩
      | settled => exact ⟨holds.2.2.1, rfl⟩
      | sending refresh known bytes faulted =>
        obtain ⟨-, -, -, -, -, last, valid, -, latched⟩ := holds
        exact ⟨⟨last, fun is => .inl (valid is), fun _ => latched permitted⟩, rfl⟩
      | _ => exact permitted.elim
    obtain ⟨guar, reaches⟩ := leads next (.of_watch running rfl rfl rfl) (by
      rw [settled.2]
      exact ⟨holds.1.of_view rfl rfl rfl, running, settled.1.of_marks rfl rfl, rfl⟩)
    exact ⟨guar, ⟨possible, trivial⟩, reaches⟩
  | setIoFaulted =>
    obtain ⟨-, kept⟩ := Prod.mk.inj (Option.some.inj ran)
    have next : scene after = { scene world with head := { (scene world).head with faulted := true } } := by
      rw [scene, observed, ← kept]
      rfl
    have moves : Moves c (scene world) { scene world with
        head := { (scene world).head with faulted := true } } :=
      ⟨running, rfl, rfl, rfl, rfl, rfl, rfl, rfl, id, id⟩
    have inv := (moves.guar running).inv holds.1
    have latched : WorkHolds c ((refreshing c).move phase .setIoFaulted answer) { scene world with
        head := { (scene world).head with faulted := true } } := by
      cases phase with
      | free =>
        obtain ⟨-, -, ordered, unlocked⟩ := holds
        exact ⟨inv, running, ⟨ordered.last, ordered.valid, fun _ => rfl⟩, unlocked⟩
      | sending =>
        obtain ⟨-, -, locked, sent, took, last, valid, seen, -⟩ := holds
        exact ⟨inv, running, locked, sent, took, last, valid, seen, fun _ => rfl⟩
      | failing =>
        obtain ⟨-, -, locked, last, valid⟩ := holds
        exact ⟨inv, running, ⟨last, fun is => .inl (valid is), fun _ => rfl⟩, locked⟩
      | _ => exact permitted.elim
    obtain ⟨guar, reaches⟩ := leads next moves latched
    exact ⟨guar, ⟨possible, trivial⟩, reaches⟩
  | setLastSentValid head valid =>
    cases phase with
    | sending refresh known bytes faulted =>
      obtain ⟨rfl, rfl, rfl, full⟩ := permitted
      obtain ⟨-, kept⟩ := Prod.mk.inj (Option.some.inj ran)
      have next : scene after = { scene world with head := { (scene world).head with valid := true } } := by
        rw [scene, observed, ← kept]
        rfl
      have moves : Moves c (scene world) { scene world with
          head := { (scene world).head with valid := true } } :=
        ⟨running, rfl, rfl, rfl, rfl, rfl, rfl, rfl, id, id⟩
      obtain ⟨inv, -, locked, sent, took, -, -, seen, -⟩ := holds
      obtain ⟨guar, reaches⟩ := leads next moves
        ⟨(moves.guar running).inv inv, running, locked, sent, took,
          full.imp seen fun whole => ⟨rfl, whole⟩⟩
      exact ⟨guar, ⟨possible, trivial⟩, reaches⟩
    | _ => exact permitted.elim
  | submit guard allocates transfer =>
    obtain ⟨rfl, rfl, ⟨chunk, rfl⟩, places⟩ := submit_phase permitted
    simp only [exec, Bool.false_and, Bool.false_eq_true, if_false] at ran
    by_cases refused : latchCheck world.1 = true
    · rw [if_pos refused] at ran
      obtain ⟨rfl, kept⟩ := Prod.mk.inj (Option.some.inj ran)
      have unchanged : scene after = scene world := by
        rw [scene, observed, ← kept]
        rfl
      rw [unchanged]
      refine ⟨.of_same rfl, ⟨possible, trivial⟩, ?_⟩
      rcases places with ⟨known, check, last, rfl, -⟩ | ⟨refresh, known, bytes, faulted, rfl⟩
      · exact holds
      · obtain ⟨inv, -, locked, sent, took, last, valid, seen, -⟩ := holds
        exact ⟨inv, running, locked, sent, took, last, valid, seen, fun _ => refused⟩
    · rw [if_neg refused] at ran
      obtain ⟨rfl, kept⟩ := Prod.mk.inj (Option.some.inj ran)
      have next : scene after = { scene world with
          watch := (scene world).watch.send (chunk.take (input.outcome (.bulk chunk)).actual) } := by
        rw [scene, observed, ← kept]
        rfl
      rcases places with ⟨known, check, last, rfl, clear⟩ | ⟨refresh, known, bytes, faulted, rfl⟩
      · obtain ⟨moves, sends⟩ := worker_begins kernel holds clear
          (chunk.take (input.outcome (.bulk chunk)).actual)
        obtain ⟨guar, reaches⟩ := leads next moves (by
          show WorkHolds c (if _ then _ else _) _
          by_cases complete : (input.outcome (.bulk chunk)).complete (.bulk chunk) = true
          · rw [if_pos complete]
            rwa [take_complete complete] at sends ⊢
          · rw [if_neg complete]
            exact sends.fails)
        refine ⟨guar, ⟨possible, ?_⟩, reaches⟩
        rintro _ _ _ _ ⟨⟩
      · obtain ⟨moves, sends⟩ := worker_continues holds
          (chunk.take (input.outcome (.bulk chunk)).actual)
        obtain ⟨guar, reaches⟩ := leads next moves (by
          show WorkHolds c (if _ then _ else _) _
          by_cases complete : (input.outcome (.bulk chunk)).complete (.bulk chunk) = true
          · rw [if_pos complete]
            rwa [take_complete complete] at sends ⊢
          · rw [if_neg complete]
            exact sends.fails)
        refine ⟨guar, ⟨possible, ?_⟩, reaches⟩
        rintro refresh known bytes faulted ⟨⟩
        by_contra latched
        exact refused (holds.2.2.2.2.2.2.2.2 (eq_true_of_ne_false latched))
  | tuneDevice | setNextHead | setIoLastError | copyLastSent | devEnter | devExit | pickNextPending
  | trip | note | noteSent =>
    obtain ⟨guar, reaches⟩ := still trivial observed (by cases phase <;> rfl)
    exact ⟨guar, ⟨possible, trivial⟩, reaches⟩
  | _ => cases phase <;> exact permitted.elim

end Trigger6.Driver
