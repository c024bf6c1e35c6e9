/-
This file is a small library about rate limits on a growing list of stamps, in
any ordered group of times. A list is limited when consecutive stamps keep a
gap and every `count + 1` of them span a window. The main lemma is the
admission rule: a stamp may be added when its decision, taken no later, saw the
gap since the last stamp and fewer than `count` stamps inside the window.
-/

import Mathlib.Algebra.Order.Group.Defs
import Mathlib.Data.List.Basic
import Mathlib.Tactic.Linarith

namespace RateLimit

variable {Time : Type} [AddCommGroup Time] [LinearOrder Time] [IsOrderedAddMonoid Time]

/-- Stamps, oldest first, that keep a gap and of which any `count + 1` span the window. -/
structure Limited (gap window : Time) (count : Nat) (stamps : List Time) : Prop where
  spaced : stamps.Pairwise fun earlier later => earlier + gap ≤ later
  windowed : ∀ oldest middle newest, (oldest :: (middle ++ [newest])).Sublist stamps →
    middle.length + 1 = count → oldest + window ≤ newest

variable {gap window : Time} {count : Nat} {stamps : List Time}

omit [IsOrderedAddMonoid Time] in
theorem Limited.nil : Limited gap window count ([] : List Time) where
  spaced := .nil
  windowed := fun _ _ _ chosen => by cases chosen

/-- In a spaced list no stamp of a selection lies before its first. -/
theorem oldest_le (nonneg : 0 ≤ gap) {oldest : Time} {rest : List Time}
    (spaced : (oldest :: rest).Pairwise fun earlier later => earlier + gap ≤ later) :
    ∀ stamp ∈ oldest :: rest, oldest ≤ stamp := by
  intro stamp member
  rcases List.mem_cons.mp member with rfl | later
  · exact le_rfl
  · exact (le_add_of_nonneg_right nonneg).trans (List.rel_of_pairwise_cons spaced later)

/-- A selection of `count` stamps that all lie inside the window contradicts a count of recent
stamps below `count`. -/
theorem window_le_of_countP_lt (nonneg : 0 ≤ gap) {decided oldest : Time} {middle : List Time}
    (spaced : stamps.Pairwise fun earlier later => earlier + gap ≤ later)
    (chosen : (oldest :: middle).Sublist stamps) (length : middle.length + 1 = count)
    (recent : stamps.countP (fun stamp => decide (decided - stamp < window)) < count) :
    oldest + window ≤ decided := by
  by_contra inside
  have early : decided - oldest < window := sub_lt_iff_lt_add'.mpr (not_le.mp inside)
  have all : ∀ stamp ∈ oldest :: middle, decide (decided - stamp < window) = true := by
    intro stamp member
    have least := oldest_le nonneg (spaced.sublist chosen) stamp member
    exact decide_eq_true ((sub_le_sub_left least decided).trans_lt early)
  have counted := chosen.countP_le (p := fun stamp => decide (decided - stamp < window))
  rw [List.countP_eq_length.mpr all, List.length_cons, length] at counted
  exact absurd recent (not_lt.mpr counted)

/-- The admission rule: a stamp taken no earlier than its decision keeps the limits. -/
theorem Limited.admit (limited : Limited gap window count stamps) (nonneg : 0 ≤ gap)
    {decided stamp : Time} (later : decided ≤ stamp)
    (cooled : ∀ earlier ∈ stamps, earlier + gap ≤ decided)
    (recent : stamps.countP (fun stamp => decide (decided - stamp < window)) < count) :
    Limited gap window count (stamps ++ [stamp]) where
  spaced := by
    refine List.pairwise_append.mpr ⟨limited.spaced, List.pairwise_singleton _ _, ?_⟩
    intro earlier member last isLast
    rw [List.mem_singleton.mp isLast]
    exact (cooled earlier member).trans later
  windowed := by
    intro oldest middle newest chosen length
    rw [← List.cons_append] at chosen
    obtain ⟨left, right, split, inStamps, inLast⟩ := List.sublist_append_iff.mp chosen
    rcases List.sublist_singleton.mp inLast with rfl | rfl
    · refine limited.windowed oldest middle newest ?_ length
      rw [← List.cons_append, split, List.append_nil]
      exact inStamps
    · obtain ⟨rfl, last⟩ := List.append_inj' split rfl
      obtain rfl : newest = stamp := by simpa only [List.cons.injEq, and_true] using last
      exact (window_le_of_countP_lt nonneg limited.spaced inStamps length recent).trans later

end RateLimit
