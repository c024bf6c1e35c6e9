/-
This file gives interactive programs a rely-guarantee logic. A discipline fixes
how the world answers, what the other parties may do to the world between two
calls (the rely), and what each call of the program itself may do (the
guarantee). A program is safe from a world when, under every interference and
every answer, each of its calls meets the guarantee and its result meets the
postcondition.

The sequential disciplines are those whose rely is equality. Their safe
programs are exactly the ones the two run functions of the program library
obey: a complete run ends in the postcondition, and a killed run keeps every
invariant that the guarantee keeps.
-/

import Trigger6.Lib.Program

namespace Interaction

/-- The setting a program is verified in: how the world answers, what the other parties may
do between two calls, and what a call of the program may do. -/
structure Discipline (I : Interface) (World Env : Type) where
  exec : Executor I World Env
  rely : World → World → Prop
  guar : World → World → Prop
  rely_refl : ∀ world, rely world world
  rely_trans : ∀ {first second third}, rely first second → rely second third → rely first third

namespace Discipline

variable {I : Interface} {World Env Result First Second : Type}

/-- Under every interference and every answer, each call meets the guarantee and the result
meets the postcondition, also after further interference. -/
def Safe (D : Discipline I World Env) (post : Result → World → Prop) :
    Program I Result → World → Prop
  | .done result, world => ∀ later, D.rely world later → post result later
  | .call op next, world => ∀ later, D.rely world later → ∀ input answer after,
      D.exec later op input = some (answer, after) →
        D.guar later after ∧ D.Safe post (next answer) after

variable {D : Discipline I World Env}

theorem safe_done {post : Result → World → Prop} {result : Result} {world : World}
    (holds : ∀ later, D.rely world later → post result later) :
    D.Safe post (.done result) world := holds

theorem safe_call {post : Result → World → Prop} {op : I.Op}
    {next : I.Answer op → Program I Result} {world : World}
    (each : ∀ later, D.rely world later → ∀ input answer after,
      D.exec later op input = some (answer, after) →
        D.guar later after ∧ D.Safe post (next answer) after) :
    D.Safe post (.call op next) world := each

/-- Interference keeps a program safe. -/
theorem Safe.stable {post : Result → World → Prop} {program : Program I Result}
    {world later : World} (safe : D.Safe post program world) (interference : D.rely world later) :
    D.Safe post program later := by
  cases program with
  | done result => exact fun last further => safe last (D.rely_trans interference further)
  | call op next => exact fun last further => safe last (D.rely_trans interference further)

/-- A safe program is safe for a weaker postcondition. -/
theorem Safe.mono {post weaker : Result → World → Prop} {program : Program I Result}
    {world : World} (safe : D.Safe post program world)
    (weaken : ∀ result later, post result later → weaker result later) :
    D.Safe weaker program world := by
  induction program generalizing world with
  | done result => exact fun later interference => weaken result later (safe later interference)
  | call op next inductionHypothesis =>
    intro later interference input answer after answered
    obtain ⟨guaranteed, rest⟩ := safe later interference input answer after answered
    exact ⟨guaranteed, inductionHypothesis answer rest⟩

/-- Sequential composition: the first part must end where the rest is safe. -/
theorem Safe.bind {post : Second → World → Prop} {program : Program I First}
    {rest : First → Program I Second} {world : World}
    (safe : D.Safe (fun result later => D.Safe post (rest result) later) program world) :
    D.Safe post (program.bind rest) world := by
  induction program generalizing world with
  | done result => exact safe world (D.rely_refl world)
  | call op next inductionHypothesis =>
    intro later interference input answer after answered
    obtain ⟨guaranteed, continued⟩ := safe later interference input answer after answered
    exact ⟨guaranteed, inductionHypothesis answer continued⟩

theorem Safe.seq {post : Second → World → Prop} {program : Program I First}
    {rest : First → Program I Second} {world : World}
    (safe : D.Safe (fun result later => D.Safe post (rest result) later) program world) :
    D.Safe post (program >>= rest) world :=
  safe.bind

/-- A program that only calls operations keeping `kept` (and meeting the guarantee) is safe,
and ends with `kept`. -/
theorem Safe.of_only {allowed : I.Op → Prop} {kept : World → Prop} {program : Program I Result}
    (stable : ∀ {world later}, D.rely world later → kept world → kept later)
    (each : ∀ op, allowed op → ∀ {world input answer after}, kept world →
      D.exec world op input = some (answer, after) → D.guar world after ∧ kept after)
    (only : program.Only allowed) {world : World} (start : kept world) :
    D.Safe (fun _ later => kept later) program world := by
  induction program generalizing world with
  | done result => exact fun later interference => stable interference start
  | call op next inductionHypothesis =>
    intro later interference input answer after answered
    obtain ⟨guaranteed, continued⟩ := each op only.1 (stable interference start) answered
    exact ⟨guaranteed, inductionHypothesis answer (only.2 answer) continued⟩

/-- A single call between two assertions that interference keeps. -/
theorem Safe.perform (op : I.Op) {pre : World → Prop} {post : I.Answer op → World → Prop}
    (preStable : ∀ ⦃world later⦄, D.rely world later → pre world → pre later)
    (postStable : ∀ ⦃answer world later⦄, D.rely world later → post answer world →
      post answer later)
    (each : ∀ ⦃world input answer after⦄, pre world →
      D.exec world op input = some (answer, after) → D.guar world after ∧ post answer after)
    {world : World} (start : pre world) : D.Safe post (.perform op) world := by
  intro later interference input answer after answered
  obtain ⟨guaranteed, holds⟩ := each (preStable interference start) answered
  exact ⟨guaranteed, fun last further => postStable further holds⟩

/-! ### Programs that may fail -/

/-- What a program that may fail ends with: one property with a result, another with a
failure. -/
def Outcome {Failure : Type} (kept : First → World → Prop) (thrown : Failure → World → Prop) :
    Except Failure First → World → Prop
  | .ok value, world => kept value world
  | .error failure, world => thrown failure world

/-- Sequential composition of programs that may fail: a failure of the first part is the
failure of the whole. -/
theorem Safe.tryBind {Failure : Type} {post : Except Failure Second → World → Prop}
    {program : ExceptT Failure (Program I) First}
    {rest : First → ExceptT Failure (Program I) Second} {world : World}
    (safe : D.Safe (fun result later => match result with
        | .ok value => D.Safe post (rest value).run later
        | .error failure => post (.error failure) later) program.run world)
    (stable : ∀ {failure world later}, D.rely world later →
      post (.error failure) world → post (.error failure) later) :
    D.Safe post (program >>= rest).run world := by
  refine Safe.bind (safe.mono fun result later holds => ?_)
  cases result with
  | ok value => exact holds
  | error failure => exact fun last interference => stable interference holds

/-- Handling a failure: the handler must be safe wherever the body fails. -/
theorem Safe.tryCatch {Failure : Type} {post : Except Failure First → World → Prop}
    {program : ExceptT Failure (Program I) First}
    {handler : Failure → ExceptT Failure (Program I) First} {world : World}
    (safe : D.Safe (fun result later => match result with
        | .ok value => post (.ok value) later
        | .error failure => D.Safe post (handler failure).run later) program.run world)
    (stable : ∀ {value world later}, D.rely world later →
      post (.ok value) world → post (.ok value) later) :
    D.Safe post (tryCatch program handler).run world := by
  refine Safe.bind (safe.mono fun result later holds => ?_)
  cases result with
  | ok value => exact fun last interference => stable interference holds
  | error failure => exact holds

/-- Mapping the result of a program that may fail. -/
theorem Safe.tryMap {Failure : Type} {post : Except Failure Second → World → Prop}
    {program : ExceptT Failure (Program I) First} {map : First → Second} {world : World}
    (safe : D.Safe (fun result later => post (result.map map) later) program.run world)
    (stable : ∀ {result world later}, D.rely world later → post result world →
      post result later) :
    D.Safe post (map <$> program).run world := by
  rw [map_eq_pure_bind]
  refine Safe.tryBind (safe.mono fun result later holds => ?_) stable
  cases result with
  | ok value => exact fun last interference => stable interference holds
  | error failure => exact holds

/-- A program that cannot fail, among programs that may. -/
theorem Safe.lift {Failure : Type} {post : Except Failure First → World → Prop}
    {program : Program I First} {world : World}
    (safe : D.Safe (fun result later => post (.ok result) later) program world)
    (stable : ∀ {result world later}, D.rely world later → post (.ok result) world →
      post (.ok result) later) :
    D.Safe post (ExceptT.lift program : ExceptT Failure (Program I) First).run world :=
  Safe.bind (safe.mono fun _ _ holds => fun _ interference => stable interference holds)

/-- From wherever `kept` holds the program is safe, and ends with `kept`, failing or not. -/
def Keeps {Failure : Type} (D : Discipline I World Env) (kept : World → Prop)
    (program : ExceptT Failure (Program I) First) : Prop :=
  ∀ ⦃world⦄, kept world → D.Safe (fun _ later => kept later) program.run world

section Keeps

variable {Failure : Type} {kept : World → Prop}
  (stable : ∀ ⦃world later⦄, D.rely world later → kept world → kept later)

include stable

end Keeps

/-! ### Sequential disciplines -/

/-- The discipline without interference. -/
def sequential (exec : Executor I World Env) (guar : World → World → Prop) :
    Discipline I World Env where
  exec := exec
  rely := Eq
  guar := guar
  rely_refl := fun _ => rfl
  rely_trans := Eq.trans

variable {exec : Executor I World Env} {guar : World → World → Prop}

@[simp]
theorem sequential_done {post : Result → World → Prop} {result : Result} {world : World} :
    (sequential exec guar).Safe post (.done result) world ↔ post result world :=
  ⟨fun safe => safe world rfl, fun holds _ same => same ▸ holds⟩

theorem sequential_call {post : Result → World → Prop} {op : I.Op}
    {next : I.Answer op → Program I Result} {world : World} :
    (sequential exec guar).Safe post (.call op next) world ↔
      ∀ input answer after, exec world op input = some (answer, after) →
        guar world after ∧ (sequential exec guar).Safe post (next answer) after :=
  ⟨fun safe => safe world rfl, fun each _ same => same ▸ each⟩

theorem sequential_bind {post : Second → World → Prop} {program : Program I First}
    {rest : First → Program I Second} {world : World} :
    (sequential exec guar).Safe post (program.bind rest) world ↔
      (sequential exec guar).Safe
        (fun result later => (sequential exec guar).Safe post (rest result) later)
        program world := by
  induction program generalizing world with
  | done result => exact sequential_done.symm
  | call op next inductionHypothesis =>
    rw [Program.call_bind, sequential_call, sequential_call]
    exact forall_congr' fun _ => forall_congr' fun answer => forall_congr' fun _ =>
      imp_congr_right fun _ => and_congr_right fun _ => inductionHypothesis answer

/-- A single call, in a sequential discipline. -/
theorem sequential_perform {op : I.Op} {post : I.Answer op → World → Prop} {world : World} :
    (sequential exec guar).Safe post (.perform op) world ↔
      ∀ input answer after, exec world op input = some (answer, after) →
        guar world after ∧ post answer after := by
  rw [Program.perform, sequential_call]
  simp only [sequential_done]

section Failing

variable {Failure : Type}

theorem sequential_tryBind {post : Except Failure Second → World → Prop}
    {program : ExceptT Failure (Program I) First}
    {rest : First → ExceptT Failure (Program I) Second} {world : World} :
    (sequential exec guar).Safe post (program >>= rest).run world ↔
      (sequential exec guar).Safe (fun result later => match result with
        | .ok value => (sequential exec guar).Safe post (rest value).run later
        | .error failure => post (.error failure) later) program.run world := by
  refine sequential_bind.trans (iff_of_eq (congrFun (congrFun (congrArg _ ?_) _) _))
  funext result later
  cases result with
  | ok value => rfl
  | error failure => exact propext sequential_done

theorem sequential_tryCatch {post : Except Failure First → World → Prop}
    {program : ExceptT Failure (Program I) First}
    {handler : Failure → ExceptT Failure (Program I) First} {world : World} :
    (sequential exec guar).Safe post (tryCatch program handler).run world ↔
      (sequential exec guar).Safe (fun result later => match result with
        | .ok value => post (.ok value) later
        | .error failure => (sequential exec guar).Safe post (handler failure).run later)
        program.run world := by
  refine sequential_bind.trans (iff_of_eq (congrFun (congrFun (congrArg _ ?_) _) _))
  funext result later
  cases result with
  | ok value => exact propext sequential_done
  | error failure => rfl

theorem sequential_tryPure {post : Except Failure First → World → Prop} {value : First}
    {world : World} :
    (sequential exec guar).Safe post (pure value : ExceptT Failure (Program I) First).run world ↔
      post (.ok value) world := sequential_done

theorem sequential_throw {post : Except Failure First → World → Prop} {failure : Failure}
    {world : World} :
    (sequential exec guar).Safe post
        (throw failure : ExceptT Failure (Program I) First).run world ↔
      post (.error failure) world := sequential_done

theorem sequential_tryMap {post : Except Failure Second → World → Prop}
    {program : ExceptT Failure (Program I) First} {map : First → Second} {world : World} :
    (sequential exec guar).Safe post (map <$> program).run world ↔
      (sequential exec guar).Safe (fun result later => post (result.map map) later)
        program.run world := by
  rw [map_eq_pure_bind, sequential_tryBind]
  refine iff_of_eq (congrFun (congrFun (congrArg _ ?_) _) _)
  funext result later
  cases result with
  | ok value => exact propext sequential_done
  | error failure => rfl

end Failing

/-- A complete run of a safe program ends in the postcondition. -/
theorem Safe.eval {post : Result → World → Prop} {program : Program I Result} {world : World}
    (safe : (sequential exec guar).Safe post program world) {script : Nat → Env}
    {result : Result} {after : World}
    (ran : program.eval exec world script = some (result, after)) : post result after := by
  induction program generalizing world script with
  | done value =>
    obtain ⟨rfl, rfl⟩ : value = result ∧ world = after := by
      simpa only [Program.eval, Option.some.injEq, Prod.mk.injEq] using ran
    exact sequential_done.mp safe
  | call op next inductionHypothesis =>
    cases answered : exec world op (script 0) with
    | none => simp only [Program.eval, answered, reduceCtorEq] at ran
    | some pair =>
      simp only [Program.eval, answered] at ran
      exact inductionHypothesis pair.1 (sequential_call.mp safe _ _ _ answered).2 ran

/-- A killed run of a safe program keeps every invariant that the guarantee keeps. -/
theorem Safe.killed_invariant {post : Result → World → Prop} {program : Program I Result}
    {world : World} (safe : (sequential exec guar).Safe post program world)
    {invariant : World → Prop}
    (kept : ∀ {before after}, guar before after → invariant before → invariant after)
    (start : invariant world) (inputs : List Env) :
    invariant (program.killed exec world inputs).1 := by
  induction program generalizing world inputs with
  | done value => exact start
  | call op next inductionHypothesis =>
    cases inputs with
    | nil => exact start
    | cons input rest =>
      cases answered : exec world op input with
      | none => simpa only [Program.killed, answered] using start
      | some pair =>
        obtain ⟨guaranteed, continued⟩ := sequential_call.mp safe _ _ _ answered
        simpa only [Program.killed, answered] using
          inductionHypothesis pair.1 continued (kept guaranteed start) rest

/-- A killed run of a safe program that does reach its end ends in the postcondition. -/
theorem Safe.killed_result {post : Result → World → Prop} {program : Program I Result}
    {world : World} (safe : (sequential exec guar).Safe post program world)
    {inputs : List Env} {result : Result} {after : World}
    (ran : program.killed exec world inputs = (after, some result)) : post result after := by
  induction program generalizing world inputs with
  | done value =>
    obtain ⟨rfl, rfl⟩ : world = after ∧ value = result := by
      simpa only [Program.killed, Prod.mk.injEq, Option.some.injEq] using ran
    exact sequential_done.mp safe
  | call op next inductionHypothesis =>
    cases inputs with
    | nil => simp only [Program.killed, Prod.mk.injEq, reduceCtorEq, and_false] at ran
    | cons input rest =>
      cases answered : exec world op input with
      | none => simp only [Program.killed, answered, Prod.mk.injEq, reduceCtorEq, and_false] at ran
      | some pair =>
        simp only [Program.killed, answered] at ran
        exact inductionHypothesis pair.1 (sequential_call.mp safe _ _ _ answered).2 ran

end Discipline

end Interaction
