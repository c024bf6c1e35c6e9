/-
This file gives interactive programs typestate protocols. A protocol says, phase
by phase, which operations may be called, which answers they may get and which
phase each answer leads to. That a program follows a protocol is a fact about
its text alone: every call is allowed in the phase it is made in, whatever
possible answers came before.

The main theorem turns it into a fact about runs. If every phase comes with an
assertion that interference keeps, and every allowed call gets a possible answer
and leads from the assertion of its phase to that of the next, then a program
that follows the protocol is safe.
-/

import Trigger6.Lib.RelyGuarantee

namespace Interaction

/-- A protocol with the given phases: the operations allowed in each, the answers they may
get, and the phase an answer leads to. -/
structure Protocol (I : Interface) (Phase : Type) where
  allowed : Phase → I.Op → Prop
  possible : Phase → (op : I.Op) → I.Answer op → Prop
  move : Phase → (op : I.Op) → I.Answer op → Phase

namespace Program

variable {I : Interface} {Result First Second Failure : Type} {Phase : Type} {P : Protocol I Phase}

/-- From `phase`, every call is allowed in the phase it is made in, and the program ends in a
phase fit for its result. -/
def Follows (P : Protocol I Phase) (ending : Phase → Result → Prop) :
    Phase → Program I Result → Prop
  | phase, done result => ending phase result
  | phase, call op next =>
    P.allowed phase op ∧ ∀ answer, P.possible phase op answer →
      (next answer).Follows P ending (P.move phase op answer)

variable {phase : Phase}

theorem Follows.mono {ending weaker : Phase → Result → Prop} {program : Program I Result}
    (follows : program.Follows P ending phase)
    (weaken : ∀ phase result, ending phase result → weaker phase result) :
    program.Follows P weaker phase := by
  induction program generalizing phase with
  | done result => exact weaken phase result follows
  | call op next inductionHypothesis =>
    exact ⟨follows.1, fun answer possible => inductionHypothesis answer (follows.2 answer possible)⟩

theorem follows_perform {op : I.Op} {ending : Phase → I.Answer op → Prop}
    (allowed : P.allowed phase op)
    (ends : ∀ answer, P.possible phase op answer → ending (P.move phase op answer) answer) :
    (perform op).Follows P ending phase :=
  ⟨allowed, ends⟩

/-- The second part follows from wherever the first may end. -/
theorem Follows.bind {ending : Phase → Second → Prop} {program : Program I First}
    {rest : First → Program I Second}
    (first : program.Follows P (fun phase result => (rest result).Follows P ending phase) phase) :
    (program.bind rest).Follows P ending phase := by
  induction program generalizing phase with
  | done result => exact first
  | call op next inductionHypothesis =>
    exact ⟨first.1, fun answer possible => inductionHypothesis answer (first.2 answer possible)⟩

theorem Follows.seq {ending : Phase → Second → Prop} {program : Program I First}
    {rest : First → Program I Second}
    (first : program.Follows P (fun phase result => (rest result).Follows P ending phase) phase) :
    (program >>= rest).Follows P ending phase :=
  first.bind

theorem Follows.branch {ending : Phase → Result → Prop} {condition : Prop} [Decidable condition]
    {yes no : Program I Result} (first : condition → yes.Follows P ending phase)
    (second : ¬ condition → no.Follows P ending phase) :
    (if condition then yes else no).Follows P ending phase := by
  split
  · exact first ‹_›
  · exact second ‹_›

/-- A program whose calls are all allowed in one phase and never leave it. -/
theorem Follows.of_only {kept : I.Op → Prop} {program : Program I Result}
    (only : program.Only kept) (stays : ∀ op, kept op → P.allowed phase op ∧
      ∀ answer, P.possible phase op answer → P.move phase op answer = phase) :
    program.Follows P (fun last _ => last = phase) phase := by
  induction program with
  | done result => rfl
  | call op next inductionHypothesis =>
    obtain ⟨allowed, same⟩ := stays op only.1
    refine ⟨allowed, fun answer possible => ?_⟩
    rw [same answer possible]
    exact inductionHypothesis answer (only.2 answer)

/-! ### Programs that may fail -/

theorem Follows.tryBind {ending : Phase → Except Failure Second → Prop}
    {program : ExceptT Failure (Program I) First}
    {rest : First → ExceptT Failure (Program I) Second}
    (first : program.run.Follows P (fun phase result => match result with
        | .ok value => (rest value).run.Follows P ending phase
        | .error failure => ending phase (.error failure)) phase) :
    (program >>= rest).run.Follows P ending phase := by
  refine Follows.bind (first.mono fun last result holds => ?_)
  cases result with
  | ok value => exact holds
  | error failure => exact holds

theorem Follows.tryCatch {ending : Phase → Except Failure First → Prop}
    {program : ExceptT Failure (Program I) First}
    {handler : Failure → ExceptT Failure (Program I) First}
    (body : program.run.Follows P (fun phase result => match result with
        | .ok value => ending phase (.ok value)
        | .error failure => (handler failure).run.Follows P ending phase) phase) :
    (MonadExcept.tryCatch program handler).run.Follows P ending phase := by
  refine Follows.bind (body.mono fun last result holds => ?_)
  cases result with
  | ok value => exact holds
  | error failure => exact holds

theorem Follows.lift {ending : Phase → Except Failure First → Prop} {program : Program I First}
    (follows : program.Follows P (fun phase value => ending phase (.ok value)) phase) :
    (ExceptT.lift program : ExceptT Failure (Program I) First).run.Follows P ending phase :=
  Follows.bind (follows.mono fun _ _ holds => holds)

theorem Follows.tryBranch {ending : Phase → Except Failure First → Prop} {condition : Prop}
    [Decidable condition] {yes no : ExceptT Failure (Program I) First}
    (first : condition → yes.run.Follows P ending phase)
    (second : ¬ condition → no.run.Follows P ending phase) :
    (if condition then yes else no).run.Follows P ending phase := by
  split
  · exact first ‹_›
  · exact second ‹_›

/-! ### Programs that end in the phase they start in -/

/-- Every call is allowed, and the program ends in the phase it started in. -/
def Stays (P : Protocol I Phase) (phase : Phase) (program : Program I Result) : Prop :=
  program.Follows P (fun last _ => last = phase) phase

theorem stays_done (result : Result) : (done result).Stays P phase := rfl

theorem stays_perform {op : I.Op} (allowed : P.allowed phase op)
    (stays : ∀ answer, P.possible phase op answer → P.move phase op answer = phase) :
    (perform op).Stays P phase :=
  ⟨allowed, stays⟩

theorem Stays.seq {program : Program I First} {rest : First → Program I Second}
    (first : program.Stays P phase) (second : ∀ result, (rest result).Stays P phase) :
    (program >>= rest).Stays P phase := by
  refine Follows.seq (first.mono fun last result same => ?_)
  rw [same]
  exact second result

theorem Stays.ite {condition : Prop} [Decidable condition] {yes no : Program I Result}
    (first : yes.Stays P phase) (second : no.Stays P phase) :
    (if condition then yes else no).Stays P phase := by
  split
  · exact first
  · exact second

theorem Stays.tryBind {program : ExceptT Failure (Program I) First}
    {rest : First → ExceptT Failure (Program I) Second} (first : program.run.Stays P phase)
    (second : ∀ value, (rest value).run.Stays P phase) :
    (program >>= rest).run.Stays P phase := by
  refine Follows.tryBind (first.mono fun last result same => ?_)
  rw [same]
  cases result with
  | ok value => exact second value
  | error failure => rfl

theorem Stays.tryCatch {program : ExceptT Failure (Program I) First}
    {handler : Failure → ExceptT Failure (Program I) First} (body : program.run.Stays P phase)
    (handled : ∀ failure, (handler failure).run.Stays P phase) :
    (MonadExcept.tryCatch program handler).run.Stays P phase := by
  refine Follows.tryCatch (body.mono fun last result same => ?_)
  rw [same]
  cases result with
  | ok value => rfl
  | error failure => exact handled failure

theorem Stays.lift {program : Program I First} (stays : program.Stays P phase) :
    (ExceptT.lift program : ExceptT Failure (Program I) First).run.Stays P phase :=
  Follows.lift stays

theorem Stays.tryIte {condition : Prop} [Decidable condition]
    {yes no : ExceptT Failure (Program I) First} (first : yes.run.Stays P phase)
    (second : no.run.Stays P phase) : (if condition then yes else no).run.Stays P phase := by
  split
  · exact first
  · exact second

theorem Stays.tryDite {condition : Prop} [Decidable condition]
    {yes : condition → ExceptT Failure (Program I) First}
    {no : ¬ condition → ExceptT Failure (Program I) First}
    (first : ∀ holds, (yes holds).run.Stays P phase)
    (second : ∀ fails, (no fails).run.Stays P phase) :
    (if holds : condition then yes holds else no holds).run.Stays P phase := by
  split
  · exact first _
  · exact second _

theorem Stays.of_only {kept : I.Op → Prop} {program : Program I Result}
    (only : program.Only kept) (stays : ∀ op, kept op → P.allowed phase op ∧
      ∀ answer, P.possible phase op answer → P.move phase op answer = phase) :
    program.Stays P phase :=
  Follows.of_only only stays

end Program

/-! ### From a protocol to safety -/

namespace Discipline

variable {I : Interface} {World Env Result : Type} {D : Discipline I World Env} {Phase : Type} {P : Protocol I Phase}

/-- A program that follows a protocol is safe where its phase's assertion holds. -/
theorem Safe.of_follows (holds : Phase → World → Prop)
    (stable : ∀ phase ⦃world later⦄, D.rely world later → holds phase world → holds phase later)
    (each : ∀ phase op ⦃world input answer after⦄, P.allowed phase op → holds phase world →
      D.exec world op input = some (answer, after) →
        D.guar world after ∧ P.possible phase op answer ∧ holds (P.move phase op answer) after)
    {ending : Phase → Result → Prop} {post : Result → World → Prop}
    (ends : ∀ phase result ⦃world⦄, ending phase result → holds phase world → post result world)
    {program : Program I Result} {phase : Phase} (follows : program.Follows P ending phase)
    {world : World} (start : holds phase world) : D.Safe post program world := by
  induction program generalizing phase world with
  | done result =>
    exact fun later interference => ends phase result follows (stable phase interference start)
  | call op next inductionHypothesis =>
    intro later interference input answer after answered
    obtain ⟨guaranteed, possible, moved⟩ :=
      each phase op follows.1 (stable phase interference start) answered
    exact ⟨guaranteed, inductionHypothesis answer (follows.2 answer possible) moved⟩

end Discipline

end Interaction
