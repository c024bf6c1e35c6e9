/-
This file gives interactive programs a logic of total correctness. A program
ends with a postcondition when no call blocks, whatever the environment inputs,
and the postcondition holds where the program stops. Such a program has a
complete run on every script.
-/

import Trigger6.Lib.Program

namespace Interaction

variable {I : Interface} {World Env Result First Second : Type}

/-- Whatever the inputs, every call is answered and the program ends with the postcondition. -/
def Ends (exec : Executor I World Env) (post : Result → World → Prop) :
    Program I Result → World → Prop
  | .done result, world => post result world
  | .call op next, world => ∀ input, ∃ answer after,
      exec world op input = some (answer, after) ∧ Ends exec post (next answer) after

variable {exec : Executor I World Env} {world : World}

/-- A program that ends has a complete run on every script. -/
theorem Ends.eval {post : Result → World → Prop} {program : Program I Result}
    (ends : Ends exec post program world) (script : Nat → Env) :
    ∃ result after, program.eval exec world script = some (result, after) ∧ post result after := by
  induction program generalizing world script with
  | done result => exact ⟨result, world, rfl, ends⟩
  | call op next inductionHypothesis =>
    obtain ⟨answer, after, answered, continued⟩ := ends (script 0)
    rw [Program.eval, answered]
    exact inductionHypothesis answer continued fun index => script (index + 1)

/-- A program whose every complete run is known ends. -/
theorem Ends.of_eval [Inhabited Env] {post : Result → World → Prop} {program : Program I Result}
    (runs : ∀ script, ∃ result after,
      program.eval exec world script = some (result, after) ∧ post result after) :
    Ends exec post program world := by
  induction program generalizing world with
  | done result =>
    obtain ⟨same, after, ran, holds⟩ := runs fun _ => default
    obtain ⟨rfl, rfl⟩ := Prod.mk.inj (Option.some.inj ran)
    exact holds
  | call op next inductionHypothesis =>
    intro input
    have first := runs fun _ => input
    rw [Program.eval] at first
    cases answered : exec world op input with
    | none =>
      rw [answered] at first
      obtain ⟨_, _, blocked, _⟩ := first
      cases blocked
    | some pair =>
      refine ⟨pair.1, pair.2, rfl, inductionHypothesis pair.1 fun script => ?_⟩
      have whole := runs fun index => index.casesOn input script
      have first : exec world op (Nat.casesOn 0 input script) = some pair := answered
      simp only [Program.eval, first] at whole
      exact whole

/-- Inputs that are drawn from others. -/
theorem Program.eval_inputs {Drawn : Type} (input : Drawn → Env) (program : Program I Result)
    (script : Nat → Drawn) :
    program.eval (fun world op drawn => exec world op (input drawn)) world script =
      program.eval exec world fun index => input (script index) := by
  induction program generalizing world script with
  | done result => rfl
  | call op next inductionHypothesis =>
    rw [Program.eval, Program.eval]
    cases exec world op (input (script 0)) with
    | none => rfl
    | some pair => exact inductionHypothesis pair.1 fun index => script (index + 1)

theorem Ends.mono {program : Program I Result} {post weaker : Result → World → Prop}
    (ends : Ends exec post program world)
    (weaken : ∀ result after, post result after → weaker result after) :
    Ends exec weaker program world := by
  induction program generalizing world with
  | done result => exact weaken result world ends
  | call op next inductionHypothesis =>
    intro input
    obtain ⟨answer, after, answered, continued⟩ := ends input
    exact ⟨answer, after, answered, inductionHypothesis answer continued⟩

/-- Sequential composition: the first part must end where the rest ends. -/
theorem Ends.bind {program : Program I First} {rest : First → Program I Second}
    {post : Second → World → Prop}
    (ends : Ends exec (fun result after => Ends exec post (rest result) after) program world) :
    Ends exec post (program.bind rest) world := by
  induction program generalizing world with
  | done result => exact ends
  | call op next inductionHypothesis =>
    intro input
    obtain ⟨answer, after, answered, continued⟩ := ends input
    exact ⟨answer, after, answered, inductionHypothesis answer continued⟩

theorem Ends.seq {program : Program I First} {rest : First → Program I Second}
    {post : Second → World → Prop}
    (ends : Ends exec (fun result after => Ends exec post (rest result) after) program world) :
    Ends exec post (program >>= rest) world :=
  ends.bind

/-- A single call. -/
theorem Ends.perform {op : I.Op} {post : I.Answer op → World → Prop}
    (each : ∀ input, ∃ answer after,
      exec world op input = some (answer, after) ∧ post answer after) :
    Ends exec post (.perform op) world :=
  each

/-- A program whose every operation is answered and keeps an invariant ends with it. -/
theorem Ends.of_only {allowed : I.Op → Prop} {kept : World → Prop} {program : Program I Result}
    (step : ∀ op, allowed op → ∀ world, kept world → ∀ input, ∃ answer after,
      exec world op input = some (answer, after) ∧ kept after)
    (only : program.Only allowed) (holds : kept world) :
    Ends exec (fun _ after => kept after) program world := by
  induction program generalizing world with
  | done result => exact holds
  | call op next inductionHypothesis =>
    intro input
    obtain ⟨answer, after, answered, still⟩ := step op only.1 world holds input
    exact ⟨answer, after, answered, inductionHypothesis answer (only.2 answer) still⟩

/-- A program that ends keeps, besides, what every operation it may call keeps. -/
theorem Ends.keeping {allowed : I.Op → Prop} {kept : World → Prop} {post : Result → World → Prop}
    {program : Program I Result}
    (step : ∀ {world input op answer after}, allowed op →
      exec world op input = some (answer, after) → kept world → kept after)
    (only : program.Only allowed) (ends : Ends exec post program world) (holds : kept world) :
    Ends exec (fun result after => post result after ∧ kept after) program world := by
  induction program generalizing world with
  | done result => exact ⟨ends, holds⟩
  | call op next inductionHypothesis =>
    intro input
    obtain ⟨answer, after, answered, continued⟩ := ends input
    exact ⟨answer, after, answered,
      inductionHypothesis answer (only.2 answer) continued (step only.1 answered holds)⟩

/-! ### Programs that may fail -/

section Failing

variable {Failure : Type}

theorem Ends.tryBind {program : ExceptT Failure (Program I) First}
    {rest : First → ExceptT Failure (Program I) Second}
    {post : Except Failure Second → World → Prop}
    (ends : Ends exec (fun result after => match result with
      | .ok value => Ends exec post (rest value).run after
      | .error failure => post (.error failure) after) program.run world) :
    Ends exec post (program >>= rest).run world := by
  refine Ends.bind (Ends.mono ends fun result after holds => ?_)
  cases result with
  | ok value => exact holds
  | error failure => exact holds

theorem Ends.tryCatch {program : ExceptT Failure (Program I) First}
    {handler : Failure → ExceptT Failure (Program I) First}
    {post : Except Failure First → World → Prop}
    (ends : Ends exec (fun result after => match result with
      | .ok value => post (.ok value) after
      | .error failure => Ends exec post (handler failure).run after) program.run world) :
    Ends exec post (tryCatch program handler).run world := by
  refine Ends.bind (Ends.mono ends fun result after holds => ?_)
  cases result with
  | ok value => exact holds
  | error failure => exact holds

theorem Ends.lift {program : Program I First} {post : Except Failure First → World → Prop}
    (ends : Ends exec (fun result after => post (.ok result) after) program world) :
    Ends exec post (ExceptT.lift program : ExceptT Failure (Program I) First).run world :=
  Ends.bind ends

/-- A check that ends the program with a failure, and the rest. -/
theorem Ends.guard {condition : Prop} [Decidable condition] {failure : Failure}
    {rest : PUnit → ExceptT Failure (Program I) Second}
    {post : Except Failure Second → World → Prop}
    (fails : condition → post (.error failure) world)
    (continues : ¬ condition → Ends exec post (rest ⟨⟩).run world) :
    Ends exec post
      (if condition then (do let done ← throw failure; rest done) else rest ⟨⟩).run world := by
  by_cases holds : condition
  · rw [if_pos holds]
    exact fails holds
  · rw [if_neg holds]
    exact continues holds

/-- A lifted program, and the rest. -/
theorem Ends.liftBind {program : Program I First}
    {rest : First → ExceptT Failure (Program I) Second}
    {post : Except Failure Second → World → Prop}
    (ends : Ends exec (fun result after => Ends exec post (rest result).run after) program world) :
    Ends exec post (ExceptT.lift program >>= rest).run world :=
  Ends.tryBind (Ends.lift ends)

end Failing

end Interaction
