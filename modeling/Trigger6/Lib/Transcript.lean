/-
This file gives interactive programs transcripts: the answered calls of a run,
newest first. Nothing is assumed about the answers, so a fact about every
transcript of a program holds whatever environment answers it.

A program records good calls when each of its calls is good after the calls
before it. The rules below follow the program's text, and the main theorem reads
the calls back off every transcript, complete or cut short.
-/

import Trigger6.Lib.Program
import Trigger6.Lib.Trace

namespace Interaction

open Trace

/-- One answered call. -/
structure Call (I : Interface) where
  op : I.Op
  answer : I.Answer op

/-- The answered calls of a run, newest first. -/
abbrev Transcript (I : Interface) := List (Call I)

namespace Program

variable {I : Interface} {Result First Second Failure World Env : Type}

/-- From the calls before it, the program can get to the later transcript; a run cut short has
no result. -/
inductive Reaches : Program I Result → Transcript I → Transcript I → Option Result → Prop
  | cut (program : Program I Result) (history : Transcript I) :
    Reaches program history history none
  | done (result : Result) (history : Transcript I) :
    Reaches (done result) history history (some result)
  | call {op : I.Op} {next : I.Answer op → Program I Result} (answer : I.Answer op)
    {history later : Transcript I} {result : Option Result}
    (rest : Reaches (next answer) (⟨op, answer⟩ :: history) later result) :
    Reaches (call op next) history later result

/-- Every call is good after the calls before it, and the program ends as it should. -/
def Records (good : Call I → Transcript I → Prop) (post : Transcript I → Result → Prop) :
    Transcript I → Program I Result → Prop
  | history, done result => post history result
  | history, call op next => ∀ answer, good ⟨op, answer⟩ history ∧
      (next answer).Records good post (⟨op, answer⟩ :: history)

variable {good : Call I → Transcript I → Prop} {history later : Transcript I}

/-! ### Rules -/

theorem Records.mono {post weaker : Transcript I → Result → Prop} {program : Program I Result}
    (records : program.Records good post history)
    (weaken : ∀ later result, post later result → weaker later result) :
    program.Records good weaker history := by
  induction program generalizing history with
  | done result => exact weaken history result records
  | call op next inductionHypothesis =>
    exact fun answer => ⟨(records answer).1, inductionHypothesis answer (records answer).2⟩

theorem Records.weaken {fair : Call I → Transcript I → Prop}
    {post : Transcript I → Result → Prop} {program : Program I Result}
    (records : program.Records good post history)
    (weaken : ∀ call before, good call before → fair call before) :
    program.Records fair post history := by
  induction program generalizing history with
  | done result => exact records
  | call op next inductionHypothesis =>
    exact fun answer => ⟨weaken _ _ (records answer).1, inductionHypothesis answer (records answer).2⟩

theorem records_perform {op : I.Op} {post : Transcript I → I.Answer op → Prop}
    (each : ∀ answer, good ⟨op, answer⟩ history ∧ post (⟨op, answer⟩ :: history) answer) :
    (perform op).Records good post history :=
  each

/-- The second part records good calls from wherever the first may end. -/
theorem Records.bind {post : Transcript I → Second → Prop} {program : Program I First}
    {rest : First → Program I Second}
    (first : program.Records good (fun later result => (rest result).Records good post later)
      history) :
    (program.bind rest).Records good post history := by
  induction program generalizing history with
  | done result => exact first
  | call op next inductionHypothesis =>
    exact fun answer => ⟨(first answer).1, inductionHypothesis answer (first answer).2⟩

theorem Records.tryBind {post : Transcript I → Except Failure Second → Prop}
    {program : ExceptT Failure (Program I) First}
    {rest : First → ExceptT Failure (Program I) Second}
    (first : program.run.Records good (fun later result => match result with
        | .ok value => (rest value).run.Records good post later
        | .error failure => post later (.error failure)) history) :
    (program >>= rest).run.Records good post history := by
  refine Records.bind (first.mono fun last result holds => ?_)
  cases result with
  | ok value => exact holds
  | error failure => exact holds

theorem Records.tryCatch {post : Transcript I → Except Failure First → Prop}
    {program : ExceptT Failure (Program I) First}
    {handler : Failure → ExceptT Failure (Program I) First}
    (body : program.run.Records good (fun later result => match result with
        | .ok value => post later (.ok value)
        | .error failure => (handler failure).run.Records good post later) history) :
    (MonadExcept.tryCatch program handler).run.Records good post history := by
  refine Records.bind (body.mono fun last result holds => ?_)
  cases result with
  | ok value => exact holds
  | error failure => exact holds

theorem Records.lift {post : Transcript I → Except Failure First → Prop}
    {program : Program I First}
    (records : program.Records good (fun later value => post later (.ok value)) history) :
    (ExceptT.lift program : ExceptT Failure (Program I) First).run.Records good post history :=
  Records.bind (records.mono fun _ _ holds => holds)

theorem Records.tryIte {condition : Prop} [Decidable condition]
    {yes no : ExceptT Failure (Program I) First}
    {post : Transcript I → Except Failure First → Prop}
    (first : condition → yes.run.Records good post history)
    (second : ¬ condition → no.run.Records good post history) :
    (if condition then yes else no).run.Records good post history := by
  split
  · exact first ‹_›
  · exact second ‹_›

/-- A program whose calls are good after anything; it adds only such calls. -/
theorem Records.of_only {allowed : I.Op → Prop} {program : Program I Result}
    (only : program.Only allowed)
    (each : ∀ op, allowed op → ∀ answer before, good ⟨op, answer⟩ before) :
    program.Records good
      (fun later _ => ∃ own, later = own ++ history ∧ ∀ call ∈ own, allowed call.op) history := by
  induction program generalizing history with
  | done result => exact ⟨[], rfl, fun call member => nomatch member⟩
  | call op next inductionHypothesis =>
    refine fun answer => ⟨each op only.1 answer history, ?_⟩
    refine (inductionHypothesis answer (only.2 answer)).mono fun later result added => ?_
    obtain ⟨own, rfl, permitted⟩ := added
    refine ⟨own ++ [⟨op, answer⟩], by rw [List.append_assoc, List.singleton_append], ?_⟩
    intro call member
    rcases List.mem_append.mp member with recent | first
    · exact permitted call recent
    · rw [List.mem_singleton.mp first]
      exact only.1

/-- What a program records on its own it records after anything, about its own calls. -/
theorem Records.frame {post : Transcript I → Result → Prop} {program : Program I Result}
    {own : Transcript I} (records : program.Records good post own) (before : Transcript I) :
    program.Records (fun call older => ∃ mine, older = mine ++ before ∧ good call mine)
      (fun later result => ∃ mine, later = mine ++ before ∧ post mine result) (own ++ before) := by
  induction program generalizing own with
  | done result => exact ⟨own, rfl, records⟩
  | call op next inductionHypothesis =>
    exact fun answer => ⟨⟨own, rfl, (records answer).1⟩,
      inductionHypothesis answer (records answer).2⟩

/-- What was good stays on record to the end. -/
theorem Records.each {post : Transcript I → Result → Prop} {program : Program I Result}
    (records : program.Records good post history) (start : AtEach good history) :
    program.Records good (fun later result => AtEach good later ∧ post later result) history := by
  induction program generalizing history with
  | done result => exact ⟨start, records⟩
  | call op next inductionHypothesis =>
    exact fun answer => ⟨(records answer).1,
      inductionHypothesis answer (records answer).2 ⟨(records answer).1, start⟩⟩

/-! ### Reading the calls back -/

/-- Every transcript of a program that records good calls has only good calls, and a complete
one ends as it should. -/
theorem Records.reaches {post : Transcript I → Result → Prop} {program : Program I Result}
    {outcome : Option Result} (records : program.Records good post history)
    (start : AtEach good history) (reaches : program.Reaches history later outcome) :
    AtEach good later ∧ ∀ result, outcome = some result → post later result := by
  induction reaches with
  | cut program history => exact ⟨start, fun result same => nomatch same⟩
  | done result history => exact ⟨start, fun other same => Option.some.inj same ▸ records⟩
  | call answer rest inductionHypothesis =>
    exact inductionHypothesis (records answer).2 ⟨(records answer).1, start⟩

/-! ### The transcripts of runs -/

/-- The answered calls of a run that may be killed. -/
def transcript (exec : Executor I World Env) :
    Program I Result → World → List Env → Transcript I
  | done _, _, _ => []
  | call _ _, _, [] => []
  | call op next, world, input :: rest =>
    match exec world op input with
    | none => []
    | some (answer, after) => (next answer).transcript exec after rest ++ [⟨op, answer⟩]

theorem reaches_transcript (exec : Executor I World Env) (program : Program I Result)
    (world : World) (inputs : List Env) (history : Transcript I) :
    program.Reaches history (program.transcript exec world inputs ++ history)
      (program.killed exec world inputs).2 := by
  induction program generalizing world inputs history with
  | done result => exact .done result history
  | call op next inductionHypothesis =>
    cases inputs with
    | nil => exact .cut _ history
    | cons input rest =>
      unfold transcript killed
      cases exec world op input with
      | none => exact .cut _ history
      | some moved =>
        rw [List.append_assoc, List.singleton_append]
        exact .call moved.1 (inductionHypothesis moved.1 moved.2 rest (⟨op, moved.1⟩ :: history))

/-- A log the executor keeps of the calls is what the transcript says. -/
theorem log_transcript {Entry : Type} {exec : Executor I World Env} {log : World → List Entry}
    {entry : Call I → Option Entry}
    (logged : ∀ ⦃world op input answer after⦄, exec world op input = some (answer, after) →
      log after = (entry ⟨op, answer⟩).toList ++ log world)
    (program : Program I Result) (world : World) (inputs : List Env) :
    log (program.killed exec world inputs).1 =
      (program.transcript exec world inputs).filterMap entry ++ log world := by
  induction program generalizing world inputs with
  | done result => rfl
  | call op next inductionHypothesis =>
    cases inputs with
    | nil => rfl
    | cons input rest =>
      unfold transcript killed
      cases answered : exec world op input with
      | none => rfl
      | some moved =>
        rw [inductionHypothesis moved.1 moved.2 rest, logged answered, List.filterMap_append,
          List.append_assoc]
        congr 1

end Program

end Interaction
