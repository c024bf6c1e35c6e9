/-
This file says what a program does when the answers it gets are known to be of
some kind. A program stays under an assumption on its answers when every call it
can reach through such answers is allowed, and every result it can reach meets a
condition; the world does not appear.

A killed run of such a program keeps an invariant that allowed calls keep, as
long as the invariant makes the world's answers the assumed ones. Allowed calls
may also leave the world in a state of alarm, after which nothing more is asked.
-/

import Trigger6.Lib.Program

namespace Interaction

namespace Program

variable {I : Interface} {First Second : Type}

/-- What is assumed of the answers of a program, and which calls it may make. -/
structure Assumption (I : Interface) where
  admits : (op : I.Op) → I.Answer op → Prop
  allowed : I.Op → Prop

/-- Through admitted answers only allowed calls are reached, and only results that meet a
condition. -/
def Under (assumption : Assumption I) (post : First → Prop) : Program I First → Prop
  | done result => post result
  | call op next => assumption.allowed op ∧
      ∀ answer, assumption.admits op answer → (next answer).Under assumption post

variable {assumption : Assumption I}

theorem Under.mono {post weaker : First → Prop} {program : Program I First}
    (under : program.Under assumption post) (weaken : ∀ result, post result → weaker result) :
    program.Under assumption weaker := by
  induction program with
  | done result => exact weaken result under
  | call op next inductionHypothesis =>
    exact ⟨under.1, fun answer admitted => inductionHypothesis answer (under.2 answer admitted)⟩

theorem Under.bind {post : Second → Prop} {program : Program I First}
    {rest : First → Program I Second}
    (under : program.Under assumption fun result => (rest result).Under assumption post) :
    (program.bind rest).Under assumption post := by
  induction program with
  | done result => exact under
  | call op next inductionHypothesis =>
    exact ⟨under.1, fun answer admitted => inductionHypothesis answer (under.2 answer admitted)⟩

theorem under_perform {op : I.Op} {post : I.Answer op → Prop} (allowed : assumption.allowed op)
    (each : ∀ answer, assumption.admits op answer → post answer) :
    (perform op).Under assumption post :=
  ⟨allowed, each⟩

/-! ### Programs that may fail -/

section Failing

variable {Failure : Type}

theorem Under.tryBind {post : Except Failure Second → Prop}
    {program : ExceptT Failure (Program I) First}
    {rest : First → ExceptT Failure (Program I) Second}
    (under : program.run.Under assumption fun result => match result with
      | .ok value => (rest value).run.Under assumption post
      | .error failure => post (.error failure)) :
    (program >>= rest).run.Under assumption post := by
  refine Under.bind (under.mono fun result holds => ?_)
  cases result with
  | ok value => exact holds
  | error failure => exact holds

theorem Under.tryCatch {post : Except Failure First → Prop}
    {program : ExceptT Failure (Program I) First}
    {handler : Failure → ExceptT Failure (Program I) First}
    (under : program.run.Under assumption fun result => match result with
      | .ok value => post (.ok value)
      | .error failure => (handler failure).run.Under assumption post) :
    (tryCatch program handler).run.Under assumption post := by
  refine Under.bind (under.mono fun result holds => ?_)
  cases result with
  | ok value => exact holds
  | error failure => exact holds

theorem Under.tryMap {post : Except Failure Second → Prop}
    {program : ExceptT Failure (Program I) First} {map : First → Second}
    (under : program.run.Under assumption fun result => post (result.map map)) :
    (map <$> program).run.Under assumption post := by
  rw [map_eq_pure_bind]
  refine Under.tryBind (under.mono fun result holds => ?_)
  cases result with
  | ok value => exact holds
  | error failure => exact holds

theorem Under.lift {post : Except Failure First → Prop} {program : Program I First}
    (under : program.Under assumption fun result => post (.ok result)) :
    (ExceptT.lift program : ExceptT Failure (Program I) First).run.Under assumption post :=
  Under.bind (under.mono fun _ holds => holds)

end Failing

/-! ### Runs -/

variable {World Env Result : Type}

/-- The world's answers in a killed run are of some kind. -/
def Answered (exec : Executor I World Env) (kind : (op : I.Op) → I.Answer op → Prop) :
    Program I Result → World → List Env → Prop
  | done _, _, _ => True
  | call _ _, _, [] => True
  | call op next, world, input :: rest =>
    match exec world op input with
    | none => True
    | some (answer, after) => kind op answer ∧ (next answer).Answered exec kind after rest

/-- What every call keeps, a killed run keeps. -/
theorem killed_stays {exec : Executor I World Env} {alarm : World → Prop}
    (stays : ∀ ⦃op world input answer after⦄, alarm world →
      exec world op input = some (answer, after) → alarm after)
    (program : Program I Result) {world : World} (inputs : List Env) (alarmed : alarm world) :
    alarm (program.killed exec world inputs).1 := by
  induction program generalizing world inputs with
  | done result => exact alarmed
  | call op next inductionHypothesis =>
    cases inputs with
    | nil => exact alarmed
    | cons input rest =>
      rw [killed]
      cases answered : exec world op input with
      | none => exact alarmed
      | some pair => exact inductionHypothesis pair.1 rest (stays alarmed answered)

/-- A killed run under an assumption keeps what its allowed calls keep, or raises the alarm. -/
theorem Under.killed {exec : Executor I World Env} {kind : (op : I.Op) → I.Answer op → Prop}
    {post : Result → Prop} {invariant alarm : World → Prop}
    (each : ∀ ⦃op world input answer after⦄, assumption.allowed op → invariant world →
      exec world op input = some (answer, after) → kind op answer →
      assumption.admits op answer ∧ (invariant after ∨ alarm after))
    (stays : ∀ ⦃op world input answer after⦄, alarm world →
      exec world op input = some (answer, after) → alarm after)
    {program : Program I Result} (under : program.Under assumption post) {world : World}
    {inputs : List Env} (answered : program.Answered exec kind world inputs)
    (start : invariant world) :
    invariant (program.killed exec world inputs).1 ∨ alarm (program.killed exec world inputs).1 := by
  induction program generalizing world inputs with
  | done result => exact .inl start
  | call op next inductionHypothesis =>
    cases inputs with
    | nil => exact .inl start
    | cons input rest =>
      rw [Answered] at answered
      rw [Program.killed]
      cases reply : exec world op input with
      | none => exact .inl start
      | some pair =>
        rw [reply] at answered
        obtain ⟨admitted, kept | alarmed⟩ := each under.1 start reply answered.1
        · exact inductionHypothesis pair.1 (under.2 pair.1 admitted) answered.2 kept
        · exact .inr (killed_stays stays (next pair.1) rest alarmed)

end Program

end Interaction
