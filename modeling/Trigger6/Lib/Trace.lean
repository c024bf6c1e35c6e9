/-
This file is a small library about traces: lists of events with the newest
first. It gives two ways of speaking about the order of events, both built for
induction on the trace: what holds at each event of the older ones, and that no
event of one kind comes after an event of another.
-/

import Mathlib.Data.List.Basic

namespace Trace

variable {Event : Type} {trace older : List Event} {event : Event}

/-! ### What holds at each event -/

/-- At each event, `holds` is true of the event and everything older. -/
def AtEach (holds : Event → List Event → Prop) : List Event → Prop
  | [] => True
  | event :: older => holds event older ∧ AtEach holds older

variable {holds : Event → List Event → Prop}

theorem atEach_cons :
    AtEach holds (event :: older) ↔ holds event older ∧ AtEach holds older := Iff.rfl

/-- What holds at each event holds wherever the trace is split at one. -/
theorem AtEach.split (each : AtEach holds trace) {newer : List Event}
    (same : trace = newer ++ event :: older) : holds event older := by
  induction newer generalizing trace with
  | nil =>
    rw [same] at each
    exact each.1
  | cons head rest inductionHypothesis =>
    rw [same, List.cons_append] at each
    exact inductionHypothesis each.2 rfl

/-- What holds at each event of a trace without the event holds with it. -/
theorem AtEach.cons (each : AtEach holds older) (here : holds event older) :
    AtEach holds (event :: older) := ⟨here, each⟩

/-! ### What has happened since -/

/-- An event of the first kind comes after every event of the second. -/
def Since (first second : Event → Prop) : List Event → Prop
  | [] => False
  | event :: older => first event ∨ ¬ second event ∧ Since first second older

section Since

variable {first second : Event → Prop}

theorem since_cons : Since first second (event :: older) ↔
    first event ∨ ¬ second event ∧ Since first second older := Iff.rfl

/-- After an event of the second kind there is one of the first. -/
theorem Since.between {newer : List Event} (since : Since first second (newer ++ event :: older))
    (stop : second event) (other : ¬ first event) : ∃ later ∈ newer, first later := by
  induction newer with
  | nil =>
    rcases since with is | ⟨goes, -⟩
    · exact absurd is other
    · exact absurd stop goes
  | cons head rest inductionHypothesis =>
    rcases since with is | ⟨-, since⟩
    · exact ⟨head, List.mem_cons_self, is⟩
    · obtain ⟨later, member, is⟩ := inductionHypothesis since
      exact ⟨later, List.mem_cons_of_mem _ member, is⟩

end Since

/-! ### The order of two kinds of events -/

/-- No event of the second kind comes after one of the first. -/
def NeverAfter (first second : Event → Bool) (trace : List Event) : Prop :=
  trace.Pairwise fun newer older => first older = true → second newer = false

variable {first second : Event → Bool}

instance : Decidable (NeverAfter first second trace) :=
  inferInstanceAs (Decidable (List.Pairwise _ _))

theorem neverAfter_nil : NeverAfter first second ([] : List Event) := .nil

theorem neverAfter_cons : NeverAfter first second (event :: older) ↔
    (∀ earlier ∈ older, first earlier = true → second event = false) ∧
      NeverAfter first second older :=
  List.pairwise_cons

/-- Without an event of the first kind nothing comes after one. -/
theorem neverAfter_of_none (none : ¬ ∃ event ∈ trace, first event = true) :
    NeverAfter first second trace :=
  List.pairwise_of_forall_mem_list fun _ _ earlier member is =>
    absurd ⟨earlier, member, is⟩ none

end Trace
