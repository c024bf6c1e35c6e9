/-
This file is about the wait between unbind and removal. The module's reference
count is read again and again until it is zero, at most half a second long and
never past the deadline of the operation.

The count is read from anywhere, and the clock may run as fast as it likes; a
sleep only has to take as long as it was asked to. That is enough for the wait
to end after 21 readings.
-/

import Trigger6.Controller.Host
import Trigger6.Lib.TotalRuns

namespace Trigger6.Controller

open Interaction

/-! ### A clock that sleep moves on -/

/-- What is left of a reading: the text of the count, or what reading it raises. -/
abbrev Reading := Except PyError (Option String)

/-- The clock, and what happened to it: what was read from it, the readings of the count, and the
sleeps, each with the last reading of the clock before it. All are newest first. -/
structure Clocked where
  clock : ℚ
  times : List ℚ
  readings : List Reading
  sleeps : List (ℚ × ℚ)

/-- How the calls of the wait are answered. The clock never goes back, and a sleep moves it on by
what was asked for at least. -/
def clockedExec : Executor hostInterface Clocked Env
  | world, .refcnt, env =>
    some (env.attempt env.text, { world with readings := env.attempt env.text :: world.readings })
  | world, .monotonic, env =>
    let clock := max world.clock env.time
    some (clock, { world with clock, times := clock :: world.times })
  | world, .sleep duration, env =>
    some ((), { world with
      clock := max (world.clock + duration) env.time
      sleeps := (world.times.headD 0, duration) :: world.sleeps })
  | _, _, _ => none

/-- Before anything happened. -/
def Clocked.at (clock : ℚ) : Clocked where
  clock := clock
  times := []
  readings := []
  sleeps := []

/-! ### The wait -/

/-- A count of a module in use. -/
def InUse (reading : Reading) : Prop :=
  ∃ text, reading = .ok (some text) ∧ wellFormedCount text = true ∧ text ≠ "0"

/-- A reading that is no count. -/
def Malformed : Reading → Prop
  | .ok (some text) => wellFormedCount text = false
  | .ok none => True
  | .error _ => True

/-- How long all sleeps were together. -/
def Clocked.slept (world : Clocked) : ℚ := (world.sleeps.map Prod.snd).sum

/-- No sleep was asked for past a time. -/
def Clocked.SleepsWithin (world : Clocked) (limit : ℚ) : Prop :=
  ∀ sleep ∈ world.sleeps, 0 < sleep.2 ∧ sleep.1 + sleep.2 ≤ limit

/-- The wait so far: the clock moved on by the sleeps, all readings were of a module in use, and as
long as there is time left, each of them was followed by a whole poll interval. -/
structure Waited (started limit : ℚ) (world : Clocked) : Prop where
  moved : started + world.slept ≤ world.clock
  within : world.SleepsWithin limit
  total : world.slept ≤ refcountSettleSeconds
  inUse : ∀ reading ∈ world.readings, InUse reading
  few : world.readings.length ≤ 20
  paced : limit ≤ world.clock ∨ started + world.readings.length * refcountPollSeconds ≤ world.clock
  first : world.times.getLast? = some started

/-- How the wait ends: with the first reading that is zero, with the first that is no count, or
with one in use when there is no time left. -/
structure WaitOver (started limit : ℚ) (result : Except PyError ℚ) (world : Clocked) : Prop where
  first : world.times.getLast? = some started
  few : world.readings.length ≤ 21
  total : world.slept ≤ refcountSettleSeconds
  within : world.SleepsWithin limit
  last : ∃ newest older, world.readings = newest :: older ∧ (∀ reading ∈ older, InUse reading) ∧
    match result with
    | .ok _ => newest = .ok (some "0")
    | .error _ => Malformed newest ∨ InUse newest ∧ limit ≤ world.clock

section Wait

variable {started limit : ℚ} {world : Clocked}

/-- A reading of a module in use leaves the clock as it is. -/
def Clocked.reads (world : Clocked) (reading : Reading) : Clocked :=
  { world with readings := reading :: world.readings }

/-- A reading of the clock. -/
def Clocked.looks (world : Clocked) (time : ℚ) : Clocked :=
  { world with clock := max world.clock time, times := max world.clock time :: world.times }

/-- A sleep, with the time it really ended. -/
def Clocked.sleeps_ (world : Clocked) (duration time : ℚ) : Clocked :=
  { world with
    clock := max (world.clock + duration) time
    sleeps := (world.times.headD 0, duration) :: world.sleeps }

theorem getLast_cons {times : List ℚ} (known : times.getLast? = some started) (time : ℚ) :
    (time :: times).getLast? = some started := by
  cases times with
  | nil => cases known
  | cons head tail => exact known

/-- A reading that ends the wait. -/
theorem Waited.over (waited : Waited started limit world) {result : Except PyError ℚ}
    (reading : Reading) {after : Clocked} (readings : after.readings = reading :: world.readings)
    (sleeps : after.sleeps = world.sleeps) (first : after.times.getLast? = some started)
    (last : match result with
      | .ok _ => reading = .ok (some "0")
      | .error _ => Malformed reading ∨ InUse reading ∧ limit ≤ after.clock) :
    WaitOver started limit result after where
  first := first
  few := by
    rw [readings, List.length_cons]
    exact Nat.succ_le_succ waited.few
  total := by
    rw [Clocked.slept, sleeps]
    exact waited.total
  within := by
    rw [Clocked.SleepsWithin, sleeps]
    exact waited.within
  last := ⟨reading, world.readings, readings, waited.inUse, last⟩

/-- A reading of a module in use, and the sleep behind it, while there is time left. -/
theorem Waited.polled (waited : Waited started limit world) {reading : Reading}
    (inUse : InUse reading) (bounded : limit ≤ started + refcountSettleSeconds) (time woken : ℚ)
    (left : 0 < limit - max world.clock time) :
    Waited started limit (((world.reads reading).looks time).sleeps_
      (min refcountPollSeconds (limit - max world.clock time)) woken) := by
  have poll : refcountPollSeconds = 1 / 40 := rfl
  have settle : refcountSettleSeconds = 1 / 2 := rfl
  have moved := waited.moved
  have now : world.clock ≤ max world.clock time := le_max_left _ _
  have slept : ((world.reads reading).looks time |>.sleeps_
      (min refcountPollSeconds (limit - max world.clock time)) woken).slept =
        min refcountPollSeconds (limit - max world.clock time) + world.slept := by
    rw [Clocked.slept, Clocked.sleeps_, List.map_cons, List.sum_cons]
    rfl
  have atMost : min refcountPollSeconds (limit - max world.clock time) ≤
      limit - max world.clock time := min_le_right _ _
  have positive : 0 < min refcountPollSeconds (limit - max world.clock time) :=
    lt_min (by rw [poll]; norm_num) left
  have woke : max world.clock time + min refcountPollSeconds (limit - max world.clock time) ≤
      (((world.reads reading).looks time).sleeps_
        (min refcountPollSeconds (limit - max world.clock time)) woken).clock := le_max_left _ _
  have early : started + world.readings.length * refcountPollSeconds ≤ world.clock :=
    waited.paced.resolve_left fun late => by linarith
  exact {
    moved := by
      rw [slept]
      linarith
    within := by
      intro sleep member
      rcases List.mem_cons.mp member with rfl | before
      · exact ⟨positive, by
          show max world.clock time + _ ≤ limit
          linarith⟩
      · exact waited.within sleep before
    total := by
      rw [slept]
      linarith
    inUse := by
      intro other member
      rcases List.mem_cons.mp member with rfl | before
      · exact inUse
      · exact waited.inUse other before
    few := by
      have count : (world.readings.length : ℚ) < 20 := by
        rw [poll] at early
        linarith
      have less : world.readings.length < 20 := by exact_mod_cast count
      exact less
    paced := by
      rcases min_choice refcountPollSeconds (limit - max world.clock time) with whole | rest
      · refine .inr (le_trans ?_ woke)
        show started + ((world.readings.length + 1 : Nat) : ℚ) * refcountPollSeconds ≤ _
        rw [whole]
        push_cast
        linarith
      · refine .inl (le_trans ?_ woke)
        rw [rest]
        linarith
    first := getLast_cons waited.first _ }

/-! ### The loop -/

/-- The polls that are left are enough: one when there is no time left, and otherwise those up to
the twenty-first reading. -/
def Enough (limit : ℚ) (polls : Nat) (world : Clocked) : Prop :=
  1 ≤ polls ∧ (limit ≤ world.clock ∨ 21 ≤ world.readings.length + polls)

theorem settleLoop_ends (bounded : limit ≤ started + refcountSettleSeconds) {polls : Nat}
    (waited : Waited started limit world) (enough : Enough limit polls world) :
    Interaction.Ends clockedExec (WaitOver started limit) (settleLoop started limit polls).run
      world := by
  induction polls generalizing world with
  | zero => exact absurd enough.1 (by decide)
  | succ polls inductionHypothesis =>
    rw [settleLoop]
    refine Ends.tryBind (Ends.perform fun env => ⟨_, _, rfl, ?_⟩)
    generalize env.attempt env.text = reading
    rcases reading with raised | _ | references
    · exact waited.over (.error raised) rfl rfl waited.first (.inl trivial)
    · exact waited.over (.ok none) rfl rfl waited.first (.inl trivial)
    · cases formed : wellFormedCount references with
      | false =>
        simp only [formed]
        exact waited.over (.ok (some references)) rfl rfl waited.first (.inl formed)
      | true =>
        simp only [formed]
        by_cases zero : references = "0"
        · subst zero
          exact Ends.liftBind (Ends.perform fun looked => ⟨_, _, rfl,
            waited.over (.ok (some "0")) rfl rfl (getLast_cons waited.first _) rfl⟩)
        · have inUse : InUse (.ok (some references)) := ⟨references, rfl, formed, zero⟩
          simp only [if_neg zero]
          refine Ends.liftBind (Ends.perform fun looked => ⟨_, _, rfl, ?_⟩)
          by_cases late : limit - max world.clock looked.time ≤ 0
          · simp only [if_pos late]
            exact waited.over (.ok (some references)) rfl rfl (getLast_cons waited.first _)
              (.inr ⟨inUse, sub_nonpos.mp late⟩)
          · simp only [if_neg late]
            refine Ends.liftBind (Ends.perform fun slept => ⟨_, _, rfl, ?_⟩)
            have left := not_le.mp late
            have polled := waited.polled inUse bounded looked.time slept.time left
            have more : 21 ≤ world.readings.length + (polls + 1) :=
              enough.2.resolve_left fun passed => by
                have now : world.clock ≤ max world.clock looked.time := le_max_left _ _
                linarith
            have few : world.readings.length + 1 ≤ 20 := polled.few
            refine inductionHypothesis polled ⟨by omega, .inr ?_⟩
            show 21 ≤ world.readings.length + 1 + polls
            omega

end Wait

/-- The wait between unbind and removal, for every sequence of readings, every deadline and every
clock, with any number of polls from 21 on. It ends, after at most 21 readings and at most half a
second of sleep in all. No sleep is asked for past the deadline or half a second from the start.
It returns only when the last reading was zero and those before it were of a module in use, and it
raises at the first reading that is no count. -/
theorem settle_bounded (deadline clock : ℚ) (polls : Nat) (script : Nat → Env) :
    ∃ result after,
      (settleModuleReferences (21 + polls) deadline).run.eval clockedExec (.at clock) script =
          some (result, after) ∧
        ∃ started, WaitOver started (min deadline (started + refcountSettleSeconds)) result after := by
  refine Ends.eval ?_ script
  refine Ends.liftBind (Ends.perform fun looked => ⟨_, _, rfl, ?_⟩)
  have waited : Waited (max clock looked.time)
      (min deadline (max clock looked.time + refcountSettleSeconds))
      ((Clocked.at clock).looks looked.time) := {
    moved := by
      show max clock looked.time + 0 ≤ max clock looked.time
      exact (add_zero _).le
    within := fun sleep member => by cases member
    total := by
      show (0 : ℚ) ≤ 1 / 2
      norm_num
    inUse := fun reading member => by cases member
    few := Nat.zero_le 20
    paced := .inr (by
      show max clock looked.time + ((0 : Nat) : ℚ) * refcountPollSeconds ≤ max clock looked.time
      rw [Nat.cast_zero, zero_mul, add_zero])
    first := rfl }
  refine (settleLoop_ends (min_le_right _ _) waited ⟨by omega, .inr ?_⟩).mono
    fun result after ended => ⟨_, ended⟩
  show 21 ≤ 0 + (21 + polls)
  omega

end Trigger6.Controller
