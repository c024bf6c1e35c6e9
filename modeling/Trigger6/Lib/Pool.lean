/-
This file runs interactive programs in a pool of threads over one world. A
thread is idle or runs the program of the job it was started on; the scheduler
chooses at every step which thread starts a job, makes its next call or retires.
A choice that is not enabled changes nothing, so every list of choices is a run.

The main theorem reduces a run to its threads: if every thread is safe in its
own rely-guarantee discipline, and what one thread guarantees the others may
rely on, then every thread stays safe, and an invariant that every guarantee
keeps holds throughout.
-/

import Trigger6.Lib.RelyGuarantee

namespace Interaction

/-! ### Pools and their runs -/

/-- How threads run in a world: how it answers each of them, when a job may be started on one
and with what program, and what the end of a program changes. -/
structure Pool (I : Interface) (World Env Thread Job : Type) where
  exec : Thread → Executor I World Env
  start : Thread → Job → World → Option (World × Program I Unit)
  retire : Thread → World → World

namespace Pool

variable {I : Interface} {World Env Thread Job : Type}

/-- The world, and the rest of the program of every thread that is not idle. -/
structure Config (I : Interface) (World Thread : Type) where
  world : World
  running : Thread → Option (Program I Unit)

/-- A choice of the scheduler. -/
inductive Choice (Thread Job Env : Type)
  | start (thread : Thread) (job : Job)
  | step (thread : Thread) (input : Env)

variable [DecidableEq Thread]

/-- A new world, with the program of one thread replaced. -/
def Config.move (config : Config I World Thread) (thread : Thread) (world : World)
    (program : Option (Program I Unit)) : Config I World Thread where
  world := world
  running := Function.update config.running thread program

/-- One step of a running thread: its next call, or its end. -/
def advance (pool : Pool I World Env Thread Job) (config : Config I World Thread)
    (thread : Thread) (input : Env) : Program I Unit → Config I World Thread
  | .done _ => config.move thread (pool.retire thread config.world) none
  | .call op next =>
    match pool.exec thread config.world op input with
    | none => config
    | some (answer, after) => config.move thread after (some (next answer))

/-- One choice of the scheduler. -/
def step (pool : Pool I World Env Thread Job) (config : Config I World Thread) :
    Choice Thread Job Env → Config I World Thread
  | .start thread job =>
    match config.running thread, pool.start thread job config.world with
    | none, some pair => config.move thread pair.1 (some pair.2)
    | _, _ => config
  | .step thread input =>
    match config.running thread with
    | none => config
    | some program => pool.advance config thread input program

/-- A run: the scheduler's choices, one after the other. -/
def run (pool : Pool I World Env Thread Job) (config : Config I World Thread)
    (choices : List (Choice Thread Job Env)) : Config I World Thread :=
  choices.foldl pool.step config

/-- A pool with every thread idle. -/
def Config.idle (world : World) : Config I World Thread where
  world := world
  running := fun _ => none

section Steps

variable (pool : Pool I World Env Thread Job) (config : Config I World Thread)

/-- What one choice can do: nothing, start a job on an idle thread, retire a thread whose program
has ended, or make the next call of a running thread. -/
theorem step_cases (choice : Choice Thread Job Env) :
    pool.step config choice = config ∨
      (∃ thread job after program, config.running thread = none ∧
        pool.start thread job config.world = some (after, program) ∧
        pool.step config choice = config.move thread after (some program)) ∨
      (∃ thread result, config.running thread = some (.done result) ∧
        pool.step config choice = config.move thread (pool.retire thread config.world) none) ∨
      ∃ thread op next input answer after, config.running thread = some (.call op next) ∧
        pool.exec thread config.world op input = some (answer, after) ∧
        pool.step config choice = config.move thread after (some (next answer)) := by
  cases choice with
  | start thread job =>
    cases running : config.running thread with
    | some program => exact .inl (by simp only [step, running])
    | none =>
      cases started : pool.start thread job config.world with
      | none => exact .inl (by simp only [step, running, started])
      | some pair =>
        refine .inr (.inl ⟨thread, job, pair.1, pair.2, running, started, ?_⟩)
        simp only [step, running, started]
  | step thread input =>
    cases running : config.running thread with
    | none => exact .inl (by simp only [step, running])
    | some program =>
      cases program with
      | done result =>
        refine .inr (.inr (.inl ⟨thread, result, running, ?_⟩))
        simp only [step, running, advance]
      | call op next =>
        cases answered : pool.exec thread config.world op input with
        | none => exact .inl (by simp only [step, running, advance, answered])
        | some pair =>
          refine .inr (.inr (.inr ⟨thread, op, next, input, pair.1, pair.2, running, answered, ?_⟩))
          simp only [step, running, advance, answered]

variable {pool config}

/-- A job starts on an idle thread. -/
theorem step_start {thread : Thread} {job : Job} {after : World} {program : Program I Unit}
    (idle : config.running thread = none)
    (started : pool.start thread job config.world = some (after, program)) :
    pool.step config (.start thread job) = config.move thread after (some program) := by
  simp only [step, idle, started]

theorem move_running (thread : Thread) (world : World) (program : Option (Program I Unit)) :
    (config.move thread world program).running thread = program :=
  Function.update_self ..

end Steps

/-! ### Rely and guarantee -/

/-- The obligations of a pool's threads: each is verified in its own discipline, what one
guarantees the others rely on, and an idle thread's assertion lets it start a job. -/
structure Verified (pool : Pool I World Env Thread Job)
    (discipline : Thread → Discipline I World Env) (idle ending : Thread → World → Prop) :
    Prop where
  exec : ∀ thread, (discipline thread).exec = pool.exec thread
  compatible : ∀ {first second}, first ≠ second → ∀ {world later},
    (discipline first).guar world later → (discipline second).rely world later
  stable : ∀ {thread world later}, (discipline thread).rely world later →
    idle thread world → idle thread later
  starts : ∀ {thread job world after program},
    pool.start thread job world = some (after, program) → idle thread world →
      (discipline thread).guar world after ∧
        (discipline thread).Safe (fun _ later => ending thread later) program after
  retires : ∀ {thread world}, ending thread world →
    (discipline thread).guar world (pool.retire thread world) ∧
      idle thread (pool.retire thread world)

/-- A thread's own assertion: idle as promised, or safe for the rest of its program. -/
def Holds (discipline : Thread → Discipline I World Env) (idle ending : Thread → World → Prop)
    (thread : Thread) (world : World) : Option (Program I Unit) → Prop
  | none => idle thread world
  | some program =>
    (discipline thread).Safe (fun _ later => ending thread later) program world

/-- Every thread's own assertion holds. -/
def Sound (discipline : Thread → Discipline I World Env) (idle ending : Thread → World → Prop)
    (config : Config I World Thread) : Prop :=
  ∀ thread, Holds discipline idle ending thread config.world (config.running thread)

section Soundness

variable {pool : Pool I World Env Thread Job} {discipline : Thread → Discipline I World Env}
  {idle ending : Thread → World → Prop} {config : Config I World Thread}

/-- A thread that moves as guaranteed leaves the others sound. -/
theorem Verified.move (verified : pool.Verified discipline idle ending)
    (sound : Sound discipline idle ending config) {thread : Thread} {after : World}
    {program : Option (Program I Unit)}
    (guaranteed : (discipline thread).guar config.world after)
    (own : Holds discipline idle ending thread after program) :
    Sound discipline idle ending (config.move thread after program) := by
  intro other
  show Holds discipline idle ending other after
    (Function.update config.running thread program other)
  by_cases same : other = thread
  · rw [same, Function.update_self]
    exact own
  · rw [Function.update_of_ne same]
    have interference := verified.compatible (Ne.symm same) guaranteed
    have before := sound other
    cases running : config.running other with
    | none =>
      rw [running] at before
      exact verified.stable interference before
    | some rest =>
      rw [running] at before
      exact before.stable interference

/-- One choice keeps every thread sound, and changes the world only as some thread
guarantees. -/
theorem Verified.step (verified : pool.Verified discipline idle ending)
    (sound : Sound discipline idle ending config) (choice : Choice Thread Job Env) :
    Sound discipline idle ending (pool.step config choice) ∧
      ((pool.step config choice).world = config.world ∨
        ∃ thread, (discipline thread).guar config.world (pool.step config choice).world) := by
  rcases step_cases pool config choice with same |
    ⟨thread, job, after, program, running, started, moved⟩ | ⟨thread, result, running, moved⟩ |
    ⟨thread, op, next, input, answer, after, running, answered, moved⟩
  · rw [same]
    exact ⟨sound, .inl rfl⟩
  · have before := sound thread
    rw [running] at before
    obtain ⟨guaranteed, safe⟩ := verified.starts started before
    rw [moved]
    exact ⟨verified.move sound guaranteed safe, .inr ⟨thread, guaranteed⟩⟩
  · have before := sound thread
    rw [running] at before
    have ended := before config.world ((discipline thread).rely_refl config.world)
    obtain ⟨guaranteed, rests⟩ := verified.retires ended
    rw [moved]
    exact ⟨verified.move sound guaranteed rests, .inr ⟨thread, guaranteed⟩⟩
  · have before := sound thread
    rw [running] at before
    rw [← verified.exec thread] at answered
    obtain ⟨guaranteed, continued⟩ := before config.world
      ((discipline thread).rely_refl config.world) input answer after answered
    rw [moved]
    exact ⟨verified.move sound guaranteed continued, .inr ⟨thread, guaranteed⟩⟩

/-- Every thread is sound throughout a run. -/
theorem Verified.run_sound (verified : pool.Verified discipline idle ending)
    (choices : List (Choice Thread Job Env)) (sound : Sound discipline idle ending config) :
    Sound discipline idle ending (pool.run config choices) := by
  induction choices generalizing config with
  | nil => exact sound
  | cons choice rest inductionHypothesis =>
    exact inductionHypothesis (verified.step sound choice).1

/-- An invariant that every guarantee keeps holds throughout a run. -/
theorem Verified.run_invariant (verified : pool.Verified discipline idle ending)
    {invariant : World → Prop}
    (kept : ∀ {thread world after}, (discipline thread).guar world after → invariant world →
      invariant after)
    (choices : List (Choice Thread Job Env)) (sound : Sound discipline idle ending config)
    (start : invariant config.world) : invariant (pool.run config choices).world := by
  induction choices generalizing config with
  | nil => exact start
  | cons choice rest inductionHypothesis =>
    obtain ⟨next, same | ⟨thread, guaranteed⟩⟩ := verified.step sound choice
    · exact inductionHypothesis next (same ▸ start)
    · exact inductionHypothesis next (kept guaranteed start)

/-- What a thread is going to establish holds, or the thread is still on its way to it. -/
def Owes (own : Discipline I World Env) (post : World → Prop) (thread : Thread)
    (config : Config I World Thread) : Prop :=
  post config.world ∨ ∃ program, config.running thread = some program ∧
    own.Safe (fun _ later => post later) program config.world

/-- What a running thread owes, it owes or has established after a step. -/
theorem Verified.step_owes (verified : pool.Verified discipline idle ending)
    {own : Discipline I World Env} {post : World → Prop} {thread : Thread}
    (exec : own.exec = pool.exec thread)
    (others : ∀ other, other ≠ thread → ∀ ⦃world after⦄,
      (discipline other).guar world after → own.rely world after)
    (kept : ∀ other ⦃world after⦄, (discipline other).guar world after → post world → post after)
    (sound : Sound discipline idle ending config) {program : Program I Unit}
    (running : config.running thread = some program)
    (safe : own.Safe (fun _ later => post later) program config.world)
    (choice : Choice Thread Job Env) : Owes own post thread (pool.step config choice) := by
  -- another thread's move is interference
  have moved : ∀ {other after rest}, other ≠ thread →
      (discipline other).guar config.world after →
      Owes own post thread (config.move other after rest) := by
    intro other after rest different guaranteed
    refine .inr ⟨program, ?_, safe.stable (others other different guaranteed)⟩
    rw [← running]
    exact Function.update_of_ne different.symm ..
  rcases step_cases pool config choice with same |
    ⟨other, job, after, started, idle, starts, next⟩ | ⟨other, result, ended, next⟩ |
    ⟨other, op, rest, input, answer, after, calling, answered, next⟩
  · rw [same]
    exact .inr ⟨program, running, safe⟩
  · have different : other ≠ thread := by
      rintro rfl
      rw [running] at idle
      cases idle
    have before := sound other
    rw [idle] at before
    rw [next]
    exact moved different (verified.starts starts before).1
  · have before := sound other
    rw [ended] at before
    have guaranteed := (verified.retires (before config.world
      ((discipline other).rely_refl config.world))).1
    rw [next]
    by_cases different : other = thread
    · subst different
      rw [running] at ended
      cases ended
      exact .inl (kept other guaranteed (safe config.world (own.rely_refl config.world)))
    · exact moved different guaranteed
  · rw [next]
    by_cases different : other = thread
    · subst different
      rw [running] at calling
      cases calling
      rw [← exec] at answered
      exact .inr ⟨_, Function.update_self .., (safe config.world (own.rely_refl config.world)
        input answer after answered).2⟩
    · have before := sound other
      rw [calling] at before
      rw [← verified.exec other] at answered
      exact moved different (before config.world ((discipline other).rely_refl config.world)
        input answer after answered).1

/-- A thread that owes an assertion, which every guarantee keeps, owes it throughout a run. The
thread may be looked at in a discipline of its own. -/
theorem Verified.run_owes (verified : pool.Verified discipline idle ending)
    {own : Discipline I World Env} {post : World → Prop} {thread : Thread}
    (exec : own.exec = pool.exec thread)
    (others : ∀ other, other ≠ thread → ∀ ⦃world after⦄,
      (discipline other).guar world after → own.rely world after)
    (kept : ∀ other ⦃world after⦄, (discipline other).guar world after → post world → post after)
    (choices : List (Choice Thread Job Env)) (sound : Sound discipline idle ending config)
    (owes : Owes own post thread config) : Owes own post thread (pool.run config choices) := by
  induction choices generalizing config with
  | nil => exact owes
  | cons choice rest inductionHypothesis =>
    obtain ⟨next, -⟩ := verified.step sound choice
    refine inductionHypothesis next ?_
    rcases owes with holds | ⟨program, running, safe⟩
    · obtain ⟨-, same | ⟨other, guaranteed⟩⟩ := verified.step sound choice
      · exact .inl (same ▸ holds)
      · exact .inl (kept other guaranteed holds)
    · exact verified.step_owes exec others kept sound running safe choice

end Soundness

/-! ### Ghost state -/

section Ghost

variable {Ghost : Type} (track : Thread → (op : I.Op) → I.Answer op → Ghost → Ghost)

/-- The pool over worlds with a ghost part, which follows the calls and their answers. -/
def instrument (pool : Pool I World Env Thread Job) : Pool I (World × Ghost) Env Thread Job where
  exec := fun thread world op input =>
    (pool.exec thread world.1 op input).map fun reply =>
      (reply.1, reply.2, track thread op reply.1 world.2)
  start := fun thread job world =>
    (pool.start thread job world.1).map fun started => ((started.1, world.2), started.2)
  retire := fun thread world => (pool.retire thread world.1, world.2)

/-- A configuration without its ghost part. -/
def Config.forget (config : Config I (World × Ghost) Thread) : Config I World Thread where
  world := config.world.1
  running := config.running

variable {track} (pool : Pool I World Env Thread Job)

theorem forget_step (config : Config I (World × Ghost) Thread) (choice : Choice Thread Job Env) :
    ((pool.instrument track).step config choice).forget = pool.step config.forget choice := by
  cases choice with
  | start thread job =>
    simp only [step, Config.forget, instrument]
    cases config.running thread with
    | some program => rfl
    | none => cases pool.start thread job config.world.1 <;> rfl
  | step thread input =>
    simp only [step, Config.forget]
    cases config.running thread with
    | none => rfl
    | some program =>
      cases program with
      | done result => rfl
      | call op next =>
        simp only [advance, instrument]
        cases pool.exec thread config.world.1 op input <;> rfl

/-- A run with ghost state is a run. -/
theorem forget_run (config : Config I (World × Ghost) Thread)
    (choices : List (Choice Thread Job Env)) :
    ((pool.instrument track).run config choices).forget = pool.run config.forget choices := by
  induction choices generalizing config with
  | nil => rfl
  | cons choice rest inductionHypothesis =>
    show ((pool.instrument track).run ((pool.instrument track).step config choice) rest).forget =
      pool.run (pool.step config.forget choice) rest
    rw [inductionHypothesis, forget_step]

end Ghost

end Pool

end Interaction
