/-
This file is a small library of interactive programs: finite-branching-depth
trees of calls to an interface, with a monad structure, two ways of running
them against a world, and the predicate that a program calls only allowed
operations.

A program never inspects the world directly. Each call is answered by an
executor, which reads an environment input chosen by the adversary and may
refuse to answer (the call blocks). A complete run takes one environment input
per call from an infinite script; a killed run takes them from a list and stops
wherever the list ends.
-/

import Mathlib.Logic.Function.Basic
import Mathlib.Tactic.Common

namespace Interaction

/-! ### Programs -/

/-- The operations a program may call, with the type of the answer to each. -/
structure Interface where
  Op : Type
  Answer : Op → Type

/-- A program: a result, or a call whose answer selects the rest. -/
inductive Program (I : Interface) (Result : Type) : Type
  | done (result : Result)
  | call (op : I.Op) (next : I.Answer op → Program I Result)

namespace Program

variable {I : Interface} {First Second Third : Type}

/-- Sequential composition. -/
def bind : Program I First → (First → Program I Second) → Program I Second
  | done result, rest => rest result
  | call op next, rest => call op fun answer => (next answer).bind rest

/-- The program that makes one call and returns its answer. -/
def perform (op : I.Op) : Program I (I.Answer op) :=
  call op done

instance : Monad (Program I) where
  pure := done
  bind := bind

theorem pure_eq (result : First) : (pure result : Program I First) = done result := rfl

theorem bind_eq (first : Program I First) (rest : First → Program I Second) :
    first >>= rest = first.bind rest := rfl

@[simp]
theorem done_bind (result : First) (rest : First → Program I Second) :
    (done result).bind rest = rest result := rfl

@[simp]
theorem call_bind (op : I.Op) (next : I.Answer op → Program I First)
    (rest : First → Program I Second) :
    (call op next).bind rest = call op fun answer => (next answer).bind rest := rfl

theorem bind_done (program : Program I First) : program.bind done = program := by
  induction program with
  | done result => rfl
  | call op next inductionHypothesis =>
    rw [call_bind]
    exact congrArg (call op) (funext inductionHypothesis)

theorem bind_assoc (program : Program I First) (second : First → Program I Second)
    (third : Second → Program I Third) :
    (program.bind second).bind third = program.bind fun result => (second result).bind third := by
  induction program with
  | done result => rfl
  | call op next inductionHypothesis =>
    rw [call_bind, call_bind, call_bind]
    exact congrArg (call op) (funext inductionHypothesis)

instance : LawfulMonad (Program I) :=
  LawfulMonad.mk' _ (fun program => bind_done program) (fun _ _ => rfl)
    (fun program second third => bind_assoc program second third)

/-! ### The operations a program may reach -/

/-- Every operation the program can reach, whatever the answers, is allowed. -/
def Only (allowed : I.Op → Prop) : Program I First → Prop
  | done _ => True
  | call op next => allowed op ∧ ∀ answer, (next answer).Only allowed

variable {allowed : I.Op → Prop}

@[simp]
theorem only_done (result : First) : (done result : Program I First).Only allowed := trivial

@[simp]
theorem only_pure (result : First) : (pure result : Program I First).Only allowed := trivial

theorem only_call (op : I.Op) (next : I.Answer op → Program I First) :
    (call op next).Only allowed ↔ allowed op ∧ ∀ answer, (next answer).Only allowed := Iff.rfl

@[simp]
theorem only_perform (op : I.Op) : (perform op).Only allowed ↔ allowed op :=
  ⟨fun only => only.1, fun permitted => ⟨permitted, fun _ => trivial⟩⟩

theorem Only.bind {program : Program I First} {rest : First → Program I Second}
    (first : program.Only allowed) (second : ∀ result, (rest result).Only allowed) :
    (program.bind rest).Only allowed := by
  induction program with
  | done result => exact second result
  | call op next inductionHypothesis =>
    exact ⟨first.1, fun answer => inductionHypothesis answer (first.2 answer)⟩

theorem Only.seq {program : Program I First} {rest : First → Program I Second}
    (first : program.Only allowed) (second : ∀ result, (rest result).Only allowed) :
    (program >>= rest).Only allowed :=
  first.bind second

theorem Only.mono {wider : I.Op → Prop} {program : Program I First}
    (only : program.Only allowed) (widen : ∀ op, allowed op → wider op) :
    program.Only wider := by
  induction program with
  | done result => trivial
  | call op next inductionHypothesis =>
    exact ⟨widen op only.1, fun answer => inductionHypothesis answer (only.2 answer)⟩

theorem Only.branch {condition : Prop} [Decidable condition] {yes no : Program I First}
    (first : yes.Only allowed) (second : no.Only allowed) :
    (if condition then yes else no).Only allowed := by
  split
  · exact first
  · exact second

/-- Nothing is asked of a program that may call any operation. -/
theorem only_any (program : Program I First) : program.Only fun _ => True := by
  induction program with
  | done result => trivial
  | call op next inductionHypothesis => exact ⟨trivial, inductionHypothesis⟩

/-! ### Programs that may fail -/

section Failing

variable {Failure : Type}

theorem Only.tryBind {program : ExceptT Failure (Program I) First}
    {rest : First → ExceptT Failure (Program I) Second} (first : program.run.Only allowed)
    (second : ∀ value, (rest value).run.Only allowed) :
    (program >>= rest).run.Only allowed := by
  refine Only.bind first fun result => ?_
  cases result with
  | ok value => exact second value
  | error failure => trivial

theorem Only.tryCatch {program : ExceptT Failure (Program I) First}
    {handler : Failure → ExceptT Failure (Program I) First} (first : program.run.Only allowed)
    (second : ∀ failure, (handler failure).run.Only allowed) :
    (tryCatch program handler).run.Only allowed := by
  refine Only.bind first fun result => ?_
  cases result with
  | ok value => trivial
  | error failure => exact second failure

theorem Only.tryMap {program : ExceptT Failure (Program I) First} {map : First → Second}
    (first : program.run.Only allowed) : (map <$> program).run.Only allowed := by
  rw [map_eq_pure_bind]
  exact Only.tryBind first fun _ => trivial

@[simp]
theorem only_tryPure (value : First) :
    (pure value : ExceptT Failure (Program I) First).run.Only allowed := trivial

@[simp]
theorem only_throw (failure : Failure) :
    (throw failure : ExceptT Failure (Program I) First).run.Only allowed := trivial

@[simp]
theorem only_lift (program : Program I First) :
    (ExceptT.lift program : ExceptT Failure (Program I) First).run.Only allowed ↔
      program.Only allowed := by
  show (program.bind (pure ∘ @Except.ok Failure First)).Only allowed ↔ _
  induction program with
  | done result => exact Iff.rfl
  | call op next inductionHypothesis =>
    rw [call_bind, only_call, only_call]
    exact and_congr_right fun _ => forall_congr' inductionHypothesis

theorem Only.ite {condition : Prop} [Decidable condition]
    {yes no : ExceptT Failure (Program I) First}
    (first : yes.run.Only allowed) (second : no.run.Only allowed) :
    (if condition then yes else no).run.Only allowed := by
  split
  · exact first
  · exact second

theorem Only.dite {condition : Prop} [Decidable condition]
    {yes : condition → ExceptT Failure (Program I) First}
    {no : ¬ condition → ExceptT Failure (Program I) First}
    (first : ∀ holds, (yes holds).run.Only allowed)
    (second : ∀ fails, (no fails).run.Only allowed) :
    (if holds : condition then yes holds else no holds).run.Only allowed := by
  split
  · exact first _
  · exact second _

end Failing

end Program

/-! ### Running a program against a world -/

/-- How a world answers an operation, given an environment input; `none` means the call
blocks (or that the input is not one the world can give). -/
abbrev Executor (I : Interface) (World Env : Type) :=
  World → (op : I.Op) → Env → Option (I.Answer op × World)

namespace Program

variable {I : Interface} {World Env Result : Type}

/-- A complete run: one environment input per call, from an infinite script. The run is
`none` when some call blocks. -/
def eval (exec : Executor I World Env) :
    Program I Result → World → (Nat → Env) → Option (Result × World)
  | done result, world, _ => some (result, world)
  | call op next, world, script =>
    match exec world op (script 0) with
    | none => none
    | some (answer, after) => (next answer).eval exec after fun index => script (index + 1)

/-- A run that may be killed: one environment input per call, from a list, and the run
stops where the list ends. -/
def killed (exec : Executor I World Env) :
    Program I Result → World → List Env → World × Option Result
  | done result, world, _ => (world, some result)
  | call _ _, world, [] => (world, none)
  | call op next, world, input :: rest =>
    match exec world op input with
    | none => (world, none)
    | some (answer, after) => (next answer).killed exec after rest

end Program

end Interaction
