/-
This file is a small library about the maximal runs of a predicate on an
initial segment of the numbers. A list shows the runs when it has exactly
them, in increasing order. A scan that reads one number at a time keeps the
runs below the number it stands at: those that are closed, and the one that
still grows.
-/

import Mathlib.Data.List.Basic
import Mathlib.Data.Set.Card
import Mathlib.Tactic.Common

namespace MaximalRuns

/-- The numbers `first, …, first + count - 1`. -/
structure Run where
  first : Nat
  count : Nat
deriving DecidableEq

/-- The number after the last of a run. -/
def Run.past (run : Run) : Nat := run.first + run.count

variable {holds : Nat → Prop} {bound : Nat}

/-- A run of numbers below `bound` that satisfy `holds` and cannot be extended. -/
structure Run.Maximal (holds : Nat → Prop) (bound : Nat) (run : Run) : Prop where
  nonempty : 0 < run.count
  inside : run.past ≤ bound
  all : ∀ index, run.first ≤ index → index < run.past → holds index
  starts : ∀ index, index + 1 = run.first → ¬ holds index
  ends : run.past < bound → ¬ holds run.past

/-- The list has exactly the maximal runs, in increasing order and with gaps between them. -/
structure Shows (holds : Nat → Prop) (bound : Nat) (runs : List Run) : Prop where
  exact : ∀ run, run ∈ runs ↔ run.Maximal holds bound
  ordered : runs.Pairwise fun earlier later => earlier.past < later.first

/-! ### One more number -/

/-- A number that does not satisfy the predicate changes no run. -/
theorem maximal_succ_of_not (fails : ¬ holds bound) (run : Run) :
    run.Maximal holds (bound + 1) ↔ run.Maximal holds bound := by
  constructor
  · intro maximal
    have inside : run.past ≤ bound := by
      by_contra beyond
      have positive := maximal.nonempty
      have last := maximal.inside
      refine fails (maximal.all bound ?_ (by omega))
      rw [Run.past] at beyond last
      omega
    exact ⟨maximal.nonempty, inside, maximal.all, maximal.starts, fun before =>
      maximal.ends (by omega)⟩
  · intro maximal
    refine ⟨maximal.nonempty, Nat.le_succ_of_le maximal.inside, maximal.all, maximal.starts, ?_⟩
    intro before
    rcases Nat.lt_or_ge run.past bound with inner | last
    · exact maximal.ends inner
    · rw [show run.past = bound by omega]
      exact fails

/-- A number that satisfies the predicate keeps the runs that ended before it, and the last run
ends with it. -/
theorem maximal_succ_of (satisfies : holds bound) (run : Run) :
    run.Maximal holds (bound + 1) ↔
      run.past < bound ∧ run.Maximal holds bound ∨
      run.past = bound + 1 ∧ 0 < run.count ∧
        (∀ index, run.first ≤ index → index < bound → holds index) ∧
        ∀ index, index + 1 = run.first → ¬ holds index := by
  constructor
  · intro maximal
    have inside := maximal.inside
    rcases Nat.lt_or_ge run.past (bound + 1) with before | last
    · have inner : run.past < bound := by
        by_contra reaches
        have ends := maximal.ends before
        rw [show run.past = bound by omega] at ends
        exact ends satisfies
      exact .inl ⟨inner, maximal.nonempty, inner.le, maximal.all, maximal.starts, fun _ =>
        maximal.ends before⟩
    · exact .inr ⟨by omega, maximal.nonempty, fun index low high =>
        maximal.all index low (by omega), maximal.starts⟩
  · rintro (⟨inner, maximal⟩ | ⟨last, nonempty, all, starts⟩)
    · exact ⟨maximal.nonempty, by omega, maximal.all, maximal.starts, fun _ => maximal.ends inner⟩
    · refine ⟨nonempty, last.le, fun index low high => ?_, starts, fun before => by omega⟩
      rcases Nat.lt_or_ge index bound with below | top
      · exact all index low below
      · rw [show index = bound by omega]
        exact satisfies

/-- A maximal run stays or grows with the bound. -/
theorem Run.Maximal.succ {run : Run} (maximal : run.Maximal holds bound) :
    ∃ longer : Run, longer.Maximal holds (bound + 1) ∧ longer.first = run.first ∧
      run.past ≤ longer.past ∧ (run.past = bound → holds bound → longer.past = bound + 1) := by
  by_cases satisfies : holds bound
  · rcases Nat.lt_or_ge run.past bound with inner | reaches
    · exact ⟨run, (maximal_succ_of satisfies run).mpr (.inl ⟨inner, maximal⟩), rfl, le_rfl,
        fun last => absurd last inner.ne⟩
    · have last : run.past = bound := le_antisymm maximal.inside reaches
      have grown : Run.past { run with count := run.count + 1 } = bound + 1 := by
        rw [← last]
        rfl
      refine ⟨{ run with count := run.count + 1 }, (maximal_succ_of satisfies _).mpr (.inr
        ⟨grown, Nat.succ_pos _, fun index low high => ?_, maximal.starts⟩), rfl, ?_, fun _ _ => grown⟩
      · exact maximal.all index low (last ▸ high)
      · omega
  · exact ⟨run, (maximal_succ_of_not satisfies run).mpr maximal, rfl, le_rfl,
      fun _ holding => absurd holding satisfies⟩

/-- Every number that satisfies the predicate lies in a maximal run. -/
theorem exists_maximal {index : Nat} (below : index < bound) (satisfies : holds index) :
    ∃ run : Run, run.Maximal holds bound ∧ run.first ≤ index ∧ index < run.past := by
  induction bound generalizing index with
  | zero => exact absurd below (Nat.not_lt_zero index)
  | succ bound inductionHypothesis =>
    rcases Nat.lt_or_ge index bound with inner | last
    · obtain ⟨run, maximal, low, high⟩ := inductionHypothesis inner satisfies
      obtain ⟨longer, still, first, past, -⟩ := maximal.succ
      exact ⟨longer, still, first ▸ low, high.trans_le past⟩
    · obtain rfl : index = bound := by omega
      by_cases alone : ∀ previous, previous + 1 = index → ¬ holds previous
      · refine ⟨⟨index, 1⟩, (maximal_succ_of satisfies _).mpr (.inr ⟨rfl, Nat.one_pos, ?_, alone⟩),
          le_rfl, Nat.lt_succ_self index⟩
        intro other low high
        exact absurd high (Nat.not_lt.mpr low)
      · push Not at alone
        obtain ⟨previous, rfl, holding⟩ := alone
        obtain ⟨run, maximal, low, high⟩ :=
          inductionHypothesis (Nat.lt_succ_self previous) holding
        obtain ⟨longer, still, first, -, reaches⟩ := maximal.succ
        have past := reaches (le_antisymm maximal.inside high) satisfies
        exact ⟨longer, still, by omega, by omega⟩

/-- A list that shows the runs covers the numbers that satisfy the predicate, and no others. -/
theorem Shows.covers {runs : List Run} (shows : Shows holds bound runs) {index : Nat}
    (below : index < bound) :
    holds index ↔ ∃ run ∈ runs, run.first ≤ index ∧ index < run.past := by
  constructor
  · intro satisfies
    obtain ⟨run, maximal, low, high⟩ := exists_maximal below satisfies
    exact ⟨run, (shows.exact run).mpr maximal, low, high⟩
  · rintro ⟨run, member, low, high⟩
    exact ((shows.exact run).mp member).all index low high

/-! ### The scan -/

/-- What a scan has found below `bound`: the runs that ended before it, and the run that reaches
it, if the last number satisfied the predicate. -/
structure Scanned (holds : Nat → Prop) (bound : Nat) (closed : List Run) (opened : Option Run) :
    Prop where
  shows : Shows holds bound (closed ++ opened.toList)
  before : ∀ run ∈ closed, run.past < bound
  reaches : ∀ run, opened = some run → run.past = bound
  idle : opened = none → ∀ index, index + 1 = bound → ¬ holds index

theorem scanned_zero : Scanned holds 0 [] none := by
  refine ⟨⟨fun run => ⟨(fun member => nomatch member), fun maximal => ?_⟩, .nil⟩,
    (fun _ member => nomatch member), (fun _ member => nomatch member),
    fun _ index next => absurd next (Nat.succ_ne_zero index)⟩
  have nonempty := maximal.nonempty
  have inside := maximal.inside
  rw [Run.past] at inside
  omega

namespace Scanned

variable {closed : List Run} {run : Run} {opened : Option Run}

/-- The closed runs are the maximal ones that end before the bound. -/
theorem mem_closed (scanned : Scanned holds bound closed opened) (run : Run) :
    run ∈ closed ↔ run.past < bound ∧ run.Maximal holds bound := by
  constructor
  · intro member
    exact ⟨scanned.before run member,
      (scanned.shows.exact run).mp (List.mem_append_left _ member)⟩
  · rintro ⟨inner, maximal⟩
    rcases List.mem_append.mp ((scanned.shows.exact run).mpr maximal) with member | member
    · exact member
    · have last := scanned.reaches run (Option.mem_toList.mp member)
      omega

theorem closed_ordered (scanned : Scanned holds bound closed opened) :
    closed.Pairwise fun earlier later => earlier.past < later.first :=
  (List.pairwise_append.mp scanned.shows.ordered).1

/-- The run that reaches the bound is maximal, and starts after the closed runs. -/
theorem opened_maximal (scanned : Scanned holds bound closed (some run)) :
    run.Maximal holds bound ∧ ∀ earlier ∈ closed, earlier.past < run.first :=
  ⟨(scanned.shows.exact run).mp (List.mem_append_right _ (List.mem_singleton_self run)),
    fun earlier member =>
      (List.pairwise_append.mp scanned.shows.ordered).2.2 earlier member run
        (List.mem_singleton_self run)⟩

/-- After a number that satisfies the predicate: the closed runs, and one run that ends with it. -/
theorem reaching (scanned : Scanned holds bound closed opened) (satisfies : holds bound)
    {grown : Run} (after : ∀ earlier ∈ closed, earlier.past < grown.first)
    (exact : ∀ run : Run, grown = run ↔ run.past = bound + 1 ∧ 0 < run.count ∧
      (∀ index, run.first ≤ index → index < bound → holds index) ∧
      ∀ index, index + 1 = run.first → ¬ holds index) :
    Scanned holds (bound + 1) closed (some grown) := by
  have last := ((exact grown).mp rfl).1
  refine ⟨⟨fun run => ?_, ?_⟩, fun run member => ?_, fun run same => ?_, nofun⟩
  · rw [maximal_succ_of satisfies, ← scanned.mem_closed, ← exact, List.mem_append,
      Option.mem_toList, Option.some.injEq]
  · exact List.pairwise_append.mpr ⟨scanned.closed_ordered, List.pairwise_singleton _ _,
      fun earlier member later same => List.mem_singleton.mp same ▸ after earlier member⟩
  · have inner := scanned.before run member
    omega
  · exact Option.some.inj same ▸ last

/-- A number that satisfies the predicate opens a run where none reaches it. -/
theorem opens (scanned : Scanned holds bound closed none) (satisfies : holds bound) :
    Scanned holds (bound + 1) closed (some ⟨bound, 1⟩) := by
  refine scanned.reaching satisfies scanned.before fun run => ⟨?_, ?_⟩
  · rintro rfl
    exact ⟨rfl, Nat.one_pos, fun index low high => absurd high (by simpa using low),
      scanned.idle rfl⟩
  · rintro ⟨last, nonempty, all, -⟩
    have one : run.first = bound := by
      by_contra different
      rw [Run.past] at last
      exact scanned.idle rfl (bound - 1) (by omega) (all _ (by omega) (by omega))
    cases run with
    | mk first count =>
      rw [Run.past] at last
      congr 1
      · exact one.symm
      · have starts : first = bound := one
        have ends : first + count = bound + 1 := last
        omega

/-- A number that satisfies the predicate extends the run that reaches it. -/
theorem grows (scanned : Scanned holds bound closed (some run)) (satisfies : holds bound) :
    Scanned holds (bound + 1) closed (some { run with count := run.count + 1 }) := by
  obtain ⟨maximal, after⟩ := scanned.opened_maximal
  have last : run.first + run.count = bound := scanned.reaches run rfl
  have nonempty := maximal.nonempty
  refine scanned.reaching satisfies after fun other => ⟨?_, ?_⟩
  · rintro rfl
    refine ⟨?_, Nat.succ_pos _, fun index low high => ?_, maximal.starts⟩
    · show run.first + (run.count + 1) = bound + 1
      omega
    · refine maximal.all index low ?_
      rw [Run.past, last]
      exact high
  · rintro ⟨otherLast, otherNonempty, all, starts⟩
    have same : other.first = run.first := by
      rcases Nat.lt_trichotomy other.first run.first with early | same | late
      · exact absurd (all (run.first - 1) (by omega) (by omega))
          (maximal.starts _ (by omega))
      · exact same
      · rw [Run.past] at otherLast
        refine absurd (maximal.all (other.first - 1) (by omega) ?_) (starts _ (by omega))
        rw [Run.past]
        omega
    cases other with
    | mk first count =>
      have starts : first = run.first := same
      have ends : first + count = bound + 1 := otherLast
      congr 1
      · exact starts.symm
      · omega

/-- A number that fails the predicate closes the run that reaches it. -/
theorem closes (scanned : Scanned holds bound closed (some run)) (fails : ¬ holds bound) :
    Scanned holds (bound + 1) (closed ++ [run]) none := by
  refine ⟨⟨fun other => ?_, ?_⟩, fun other member => ?_, nofun, fun _ index next => ?_⟩
  · rw [maximal_succ_of_not fails, ← scanned.shows.exact, Option.toList_none, List.append_nil,
      Option.toList_some]
  · rw [Option.toList_none, List.append_nil]
    exact scanned.shows.ordered
  · rcases List.mem_append.mp member with closedBefore | last
    · have inner := scanned.before other closedBefore
      omega
    · rw [List.mem_singleton.mp last, scanned.reaches run rfl]
      exact Nat.lt_succ_self bound
  · rw [Nat.succ.inj next]
    exact fails

/-- A number that fails the predicate where no run reaches it changes nothing. -/
theorem passes (scanned : Scanned holds bound closed none) (fails : ¬ holds bound) :
    Scanned holds (bound + 1) closed none := by
  refine ⟨⟨fun other => ?_, scanned.shows.ordered⟩, fun other member => ?_, nofun,
    fun _ index next => ?_⟩
  · rw [maximal_succ_of_not fails, ← scanned.shows.exact]
  · have inner := scanned.before other member
    omega
  · rw [Nat.succ.inj next]
    exact fails

end Scanned

/-! ### How many runs there are -/

/-- A list that shows the runs counts them. -/
theorem Shows.encard {runs : List Run} (shows : Shows holds bound runs) :
    {run : Run | run.Maximal holds bound}.encard = runs.length := by
  have distinct : runs.Nodup := by
    refine shows.ordered.imp_of_mem fun {earlier later} member _ apart => ?_
    rintro rfl
    rw [Run.past] at apart
    omega
  have same : {run : Run | run.Maximal holds bound} = (runs.toFinset : Set Run) := by
    ext run
    rw [Finset.mem_coe, List.mem_toFinset]
    exact (shows.exact run).symm
  rw [same, Set.encard_coe_eq_coe_finsetCard, List.toFinset_card_of_nodup distinct]

/-- A scan can always read one more number, and never has fewer runs after it. -/
theorem Scanned.step {closed : List Run} {opened : Option Run}
    (scanned : Scanned holds bound closed opened) :
    ∃ closed' opened', Scanned holds (bound + 1) closed' opened' ∧
      (closed ++ opened.toList).length ≤ (closed' ++ opened'.toList).length := by
  by_cases satisfies : holds bound
  · cases opened with
    | none => exact ⟨_, _, scanned.opens satisfies, by simp⟩
    | some run => exact ⟨_, _, scanned.grows satisfies, by simp⟩
  · cases opened with
    | none => exact ⟨_, _, scanned.passes satisfies, le_rfl⟩
    | some run => exact ⟨_, _, scanned.closes satisfies, by simp⟩

/-- There are at least as many runs as a scan has found. -/
theorem Scanned.length_le {closed : List Run} {opened : Option Run}
    (scanned : Scanned holds bound closed opened) (further : Nat) :
    ((closed ++ opened.toList).length : ℕ∞) ≤
      {run : Run | run.Maximal holds (bound + further)}.encard := by
  induction further generalizing bound closed opened with
  | zero =>
    rw [Nat.add_zero, scanned.shows.encard]
  | succ further inductionHypothesis =>
    obtain ⟨closed', opened', next, more⟩ := scanned.step
    rw [Nat.add_succ, ← Nat.succ_add]
    exact (Nat.cast_le.mpr more).trans (inductionHypothesis next)

end MaximalRuns
