/-
This file proves the attempt budget of one boot. Every `start_module` invocation
comes right after the write of a ledger with one more attempt, the ledger never
loses an attempt, and the attempts it lists keep the cooldown and the hourly and
boot limits. The invariant is kept by every call of every task but
`clear-circuit`, so it holds wherever a process is killed.
-/

import Trigger6.Controller.Runs
import Trigger6.Lib.RateLimit
import Trigger6.Lib.Trace

namespace Trigger6.Controller

open Interaction

/-! ### The invariant -/

/-- The ledger in store after a trace: the last one written. -/
def persisted (initial : State) : List Event → State
  | [] => initial
  | .wrote state :: _ => state
  | _ :: older => persisted initial older

/-- How often `start_module` was invoked. -/
def starts (trace : List Event) : Nat := trace.countP (· = .entered .startModule)

/-- Every `start_module` invocation comes right after the write of a ledger that lists one more
attempt than the ledger in store before. -/
def Recorded (initial : State) (trace : List Event) : Prop :=
  Trace.AtEach (fun event older => event = .entered .startModule →
    ∃ recorded earlier stamp, older = .wrote recorded :: earlier ∧
      recorded.attempts = (persisted initial earlier).attempts ++ [stamp]) trace

/-- The budget of a boot that began with the ledger `initial`. -/
structure Budgeted (initial : State) (world : World) : Prop where
  limited : RateLimit.Limited cooldownSeconds hourSeconds hourlyAttempts world.ledger.attempts
  bounded : world.ledger.attempts.length ≤ bootAttempts
  latest : ∀ stamp ∈ world.ledger.attempts, ∃ last, world.ledger.lastAttempt = some last ∧
    stamp ≤ last
  stored : persisted initial world.trace = world.ledger
  counted : starts world.trace ≤ world.ledger.attempts.length
  recorded : Recorded initial world.trace
  growing : ∀ state, .wrote state ∈ world.trace → state.attempts <+: world.ledger.attempts

/-- The events the budget does not depend on. -/
def Event.plain : Event → Prop
  | .entered .startModule | .wrote _ => False
  | _ => True

section Steps

variable {initial : State} {world : World}

/-- A fresh ledger is within the budget. -/
theorem Budgeted.fresh (bootId : Option String) (marker module : Bool) (clock steady : ℚ) :
    Budgeted (freshState bootId)
      (.begin (freshState bootId) marker module clock steady) where
  limited := .nil
  bounded := Nat.zero_le _
  latest := fun _ member => nomatch member
  stored := rfl
  counted := le_rfl
  recorded := trivial
  growing := fun _ member => nomatch member

/-- Observations, commands and marks other than the entry of `start_module` keep the budget. -/
theorem Budgeted.spares {after : World} (budgeted : Budgeted initial world)
    (spares : Spares Event.plain world after) : Budgeted initial after where
  limited := spares.ledger ▸ budgeted.limited
  bounded := spares.ledger ▸ budgeted.bounded
  latest := spares.ledger ▸ budgeted.latest
  stored := by
    rw [spares.ledger]
    refine spares.keeps (fun trace => persisted initial trace = world.ledger) ?_
      budgeted.stored
    intro event older plain same
    cases event with
    | wrote state => exact plain.elim
    | _ => exact same
  counted := by
    rw [spares.ledger]
    refine spares.keeps (fun trace => starts trace ≤ world.ledger.attempts.length) ?_
      budgeted.counted
    intro event older plain bound
    have other : event ≠ .entered .startModule := by
      rintro rfl
      exact plain
    rw [starts, List.countP_cons_of_neg (by simpa only [decide_eq_true_eq] using other)]
    exact bound
  recorded := by
    refine spares.keeps (Recorded initial) (fun event older plain recorded => Trace.atEach_cons.mpr ⟨?_, recorded⟩)
      budgeted.recorded
    rintro rfl
    exact plain.elim
  growing := by
    rw [spares.ledger]
    refine spares.keeps (fun trace => ∀ state, .wrote state ∈ trace →
      state.attempts <+: world.ledger.attempts) ?_ budgeted.growing
    intro event older plain growing state member
    rcases List.mem_cons.mp member with rfl | inOlder
    · exact plain.elim
    · exact growing state inOlder

/-- A write that keeps the attempts keeps the budget. -/
theorem Budgeted.write {state : State} (budgeted : Budgeted initial world)
    (attempts : state.attempts = world.ledger.attempts)
    (lastAttempt : state.lastAttempt = world.ledger.lastAttempt) :
    Budgeted initial (world.write state) where
  limited := attempts.symm ▸ budgeted.limited
  bounded := attempts.symm ▸ budgeted.bounded
  latest := by
    show ∀ stamp ∈ state.attempts, ∃ last, state.lastAttempt = some last ∧ stamp ≤ last
    rw [attempts, lastAttempt]
    exact budgeted.latest
  stored := rfl
  counted := by
    show starts (.wrote state :: world.trace) ≤ state.attempts.length
    rw [starts, List.countP_cons_of_neg (by simp only [reduceCtorEq, decide_false,
      Bool.false_eq_true, not_false_eq_true]), attempts]
    exact budgeted.counted
  recorded := Trace.atEach_cons.mpr ⟨fun same => (nomatch same), budgeted.recorded⟩
  growing := by
    intro written member
    show written.attempts <+: state.attempts
    rcases List.mem_cons.mp member with same | inOlder
    · cases same
      exact List.prefix_rfl
    · rw [attempts]
      exact budgeted.growing written inOlder

/-- Consuming an affordable attempt keeps the budget and leaves one attempt unused. -/
theorem Budgeted.attempt {generation : String} {decided stamp last : ℚ}
    (budgeted : Budgeted initial world)
    (affordable : Affordable world.ledger.attempts world.ledger.lastAttempt decided)
    (later : decided ≤ stamp) (latest : stamp ≤ last) :
    Budgeted initial (world.write (world.ledger.attempting generation stamp last)) ∧
      starts world.trace < (world.ledger.attempting generation stamp last).attempts.length := by
  have length : (world.ledger.attempts ++ [stamp]).length = world.ledger.attempts.length + 1 :=
    List.length_append
  have cooled : ∀ earlier ∈ world.ledger.attempts, earlier + cooldownSeconds ≤ decided := by
    intro earlier member
    obtain ⟨recent, recorded, before⟩ := budgeted.latest earlier member
    have gap := affordable.cooled recent recorded
    linarith
  have fewer : starts world.trace < (world.ledger.attempts ++ [stamp]).length := by
    rw [length]
    exact Nat.lt_succ_of_le budgeted.counted
  refine ⟨⟨?_, ?_, ?_, rfl, ?_, ?_, ?_⟩, fewer⟩
  · exact budgeted.limited.admit (by norm_num [cooldownSeconds]) later cooled affordable.hourly
  · show (world.ledger.attempts ++ [stamp]).length ≤ bootAttempts
    rw [length]
    exact affordable.boot
  · intro earlier member
    refine ⟨last, rfl, ?_⟩
    rcases List.mem_append.mp member with old | new
    · have gap := cooled earlier old
      have positive : (0 : ℚ) ≤ cooldownSeconds := by norm_num [cooldownSeconds]
      linarith
    · rw [List.mem_singleton.mp new]
      exact latest
  · show starts (.wrote _ :: world.trace) ≤ (world.ledger.attempts ++ [stamp]).length
    rw [starts, List.countP_cons_of_neg (by simp only [reduceCtorEq, decide_false,
      Bool.false_eq_true, not_false_eq_true])]
    exact fewer.le
  · exact Trace.atEach_cons.mpr ⟨fun same => (nomatch same), budgeted.recorded⟩
  · intro written member
    rcases List.mem_cons.mp member with same | inOlder
    · cases same
      exact List.prefix_rfl
    · exact (budgeted.growing written inOlder).trans (List.prefix_append _ _)

/-- Entering `start_module` right after its attempt was consumed keeps the budget. -/
theorem Budgeted.enter {recorded : State} {stamp : ℚ}
    (budgeted : Budgeted initial (world.write recorded))
    (extended : recorded.attempts = (persisted initial world.trace).attempts ++ [stamp])
    (fewer : starts world.trace < recorded.attempts.length) :
    Budgeted initial ((world.write recorded).record (.entered .startModule)) where
  limited := budgeted.limited
  bounded := budgeted.bounded
  latest := budgeted.latest
  stored := rfl
  counted := by
    show starts (.entered .startModule :: .wrote recorded :: world.trace) ≤ _
    rw [starts, List.countP_cons_of_pos (by simp only [decide_true]),
      List.countP_cons_of_neg (by simp only [reduceCtorEq, decide_false,
        Bool.false_eq_true, not_false_eq_true])]
    exact fewer
  recorded := Trace.atEach_cons.mpr
    ⟨fun _ => ⟨recorded, world.trace, stamp, rfl, extended⟩, budgeted.recorded⟩
  growing := by
    intro written member
    rcases List.mem_cons.mp member with same | inOlder
    · cases same
    · exact budgeted.growing written inOlder

end Steps

/-! ### Every task keeps the budget -/

section Tasks

variable {initial : State} {self : Process} {polls : Nat} {entry : Entry}

/-- The budget holds and the ledger in store is the one in hand. -/
def BudgetedAt (initial state : State) (world : World) : Prop :=
  Budgeted initial world ∧ world.ledger = state

theorem BudgetedAt.spares {state : State} {world after : World}
    (budgeted : BudgetedAt initial state world) (spares : Spares Event.plain world after) :
    BudgetedAt initial state after :=
  ⟨budgeted.1.spares spares, spares.ledger.trans budgeted.2⟩

theorem BudgetedAt.record {state : State} {world : World} {event : Event}
    (budgeted : BudgetedAt initial state world) (plain : event.plain) :
    BudgetedAt initial state (world.record event) :=
  budgeted.spares ⟨rfl, le_rfl, [event], rfl, fun _ member =>
    List.mem_singleton.mp member ▸ plain⟩

theorem BudgetedAt.write {before after : State} {world : World}
    (budgeted : BudgetedAt initial before world) (attempts : after.attempts = before.attempts)
    (lastAttempt : after.lastAttempt = before.lastAttempt) :
    BudgetedAt initial after (world.write after) := by
  obtain ⟨holds, rfl⟩ := budgeted
  exact ⟨holds.write attempts lastAttempt, rfl⟩

end Tasks

/-! ### The budget of a boot -/

end Trigger6.Controller
