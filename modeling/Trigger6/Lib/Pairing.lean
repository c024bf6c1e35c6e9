/-
This file is a small library about requests and answers in one list of events.
A request is answered at once, or later, or never; one that is answered later
waits under a key, until an answer or another request comes for the key. A
table of the waiting requests, gone through once, finds every pair of a request
and its answer, and finds it once.
-/

import Mathlib.Data.List.Basic
import Mathlib.Data.List.Induction
import Mathlib.Logic.Function.Basic
import Mathlib.Tactic.Common

namespace Pairing

/-! ### Events and the table -/

/-- When a request is answered. -/
inductive Answer
  | atOnce
  | later
  | never
  deriving DecidableEq

inductive Event (Key : Type)
  | request (key : Key) (answer : Answer)
  | answer (key : Key)
  | other

/-- The key that an event is about. -/
def Event.key {Key : Type} : Event Key → Option Key
  | .request key _ => some key
  | .answer key => some key
  | .other => none

/-- How many events there were, the requests that wait, and the requests that were answered with
their answers, if these came later. -/
structure Table (Key : Type) where
  count : Nat
  pending : Key → Option Nat
  answered : List (Nat × Option Nat)

variable {Key : Type} [DecidableEq Key]

def Table.next (table : Table Key) : Event Key → Table Key
  | .request key .atOnce =>
    ⟨table.count + 1, Function.update table.pending key none,
      table.answered ++ [(table.count, none)]⟩
  | .request key .later =>
    ⟨table.count + 1, Function.update table.pending key (some table.count), table.answered⟩
  | .request key .never => ⟨table.count + 1, Function.update table.pending key none, table.answered⟩
  | .answer key =>
    match table.pending key with
    | some index => ⟨table.count + 1, Function.update table.pending key none,
        table.answered ++ [(index, some table.count)]⟩
    | none => ⟨table.count + 1, table.pending, table.answered⟩
  | .other => ⟨table.count + 1, table.pending, table.answered⟩

/-- The table behind a list of events. -/
def run (events : List (Event Key)) : Table Key :=
  events.foldl Table.next ⟨0, fun _ => none, []⟩

theorem run_concat (events : List (Event Key)) (event : Event Key) :
    run (events ++ [event]) = (run events).next event := by
  rw [run, List.foldl_append]
  rfl

theorem count_next (table : Table Key) (event : Event Key) :
    (table.next event).count = table.count + 1 := by
  rcases event with ⟨key, _ | _ | _⟩ | key | _
  · rfl
  · rfl
  · rfl
  · rw [Table.next]
    split <;> rfl
  · rfl

theorem count_run (events : List (Event Key)) : (run events).count = events.length := by
  induction events using List.reverseRecOn with
  | nil => rfl
  | append_singleton events event inductionHypothesis =>
    rw [run_concat, count_next, inductionHypothesis, List.length_append, List.length_singleton]

/-! ### Waiting requests -/

/-- A request waits under its key up to a place: no event in between is about the key. -/
structure Waits (events : List (Event Key)) (key : Key) (index place : Nat) : Prop where
  before : index < place
  request : events[index]? = some (.request key .later)
  quiet : ∀ between event, index < between → between < place → events[between]? = some event →
    event.key ≠ some key

omit [DecidableEq Key] in
theorem Waits.congr {events events' : List (Event Key)} {key : Key} {index place : Nat}
    (same : ∀ at_ < place, events'[at_]? = events[at_]?) (waits : Waits events key index place) :
    Waits events' key index place where
  before := waits.before
  request := (same index waits.before).trans waits.request
  quiet between event after until_ found :=
    waits.quiet between event after until_ ((same between until_).symm.trans found)

omit [DecidableEq Key] in
theorem waits_concat {events : List (Event Key)} (event : Event Key) {key : Key}
    {index place : Nat} (inside : place ≤ events.length) :
    Waits (events ++ [event]) key index place ↔ Waits events key index place := by
  have same : ∀ at_ < place, (events ++ [event])[at_]? = events[at_]? := fun at_ short =>
    List.getElem?_append_left (by omega)
  exact ⟨Waits.congr fun at_ short => (same at_ short).symm, Waits.congr same⟩

omit [DecidableEq Key] in
/-- What waits behind one more event: its own request, or one that it is not about. -/
theorem waits_behind {events : List (Event Key)} {event : Event Key} {key : Key} {index : Nat} :
    Waits (events ++ [event]) key index (events.length + 1) ↔
      (index = events.length ∧ event = .request key .later) ∨
        (Waits events key index events.length ∧ event.key ≠ some key) := by
  have last : (events ++ [event])[events.length]? = some event := List.getElem?_concat_length
  constructor
  · rintro ⟨before, request, quiet⟩
    by_cases own : index = events.length
    · rw [own, last] at request
      exact Or.inl ⟨own, Option.some.inj request⟩
    · refine Or.inr ⟨?_, quiet events.length event (by omega) (by omega) last⟩
      refine (waits_concat event (Nat.le_refl _)).1 ⟨by omega, request, ?_⟩
      exact fun between event' after until_ => quiet between event' after (by omega)
  · rintro (⟨rfl, rfl⟩ | ⟨waits, other⟩)
    · exact ⟨Nat.lt_succ_self _, last, fun between _ after until_ => by omega⟩
    · have waits' := (waits_concat event (Nat.le_refl _)).2 waits
      refine ⟨Nat.lt_succ_of_lt waits.before, waits'.request, fun between event' after until_ found => ?_⟩
      by_cases own : between = events.length
      · rw [own, last] at found
        exact Option.some.inj found ▸ other
      · exact waits'.quiet between event' after (by omega) found

/-- One event changes what waits under its own key only. -/
theorem pending_next (table : Table Key) (event : Event Key) (key : Key) :
    (table.next event).pending key =
      if event.key = some key then
        match event with
        | .request _ .later => some table.count
        | _ => none
      else table.pending key := by
  have updated : ∀ (key' : Key) (value : Option Nat),
      Function.update table.pending key' value key =
        if some key' = some key then value else table.pending key := by
    intro key' value
    by_cases same : key = key'
    · rw [same, Function.update_self, if_pos rfl]
    · rw [Function.update_of_ne same, if_neg fun equal => same (Option.some.inj equal).symm]
  rcases event with ⟨key', _ | _ | _⟩ | key' | _
  · exact updated key' none
  · exact updated key' (some table.count)
  · exact updated key' none
  · show (match table.pending key' with
      | some index => _
      | none => _ : Table Key).pending key = if some key' = some key then none else table.pending key
    cases held : table.pending key' with
    | none =>
      by_cases same : some key' = some key
      · rw [if_pos same, ← Option.some.inj same]
        exact held
      · rw [if_neg same]
    | some index => exact updated key' none
  · exact (if_neg nofun).symm

/-- The table holds the request that waits under a key. -/
theorem pending_run {events : List (Event Key)} {key : Key} {index : Nat} :
    (run events).pending key = some index ↔ Waits events key index events.length := by
  induction events using List.reverseRecOn generalizing index with
  | nil => exact iff_of_false nofun fun waits => Nat.not_lt_zero _ waits.before
  | append_singleton events event inductionHypothesis =>
    rw [run_concat, pending_next, count_run, List.length_append, List.length_singleton,
      waits_behind]
    by_cases own : event.key = some key
    · rw [if_pos own]
      have silent : ¬ (Waits events key index events.length ∧ event.key ≠ some key) :=
        fun ⟨_, other⟩ => other own
      rw [or_iff_left silent]
      rcases event with ⟨key', _ | _ | _⟩ | key' | _
      · exact iff_of_false nofun nofun
      · obtain rfl := Option.some.inj own
        exact ⟨fun same => ⟨(Option.some.inj same).symm, rfl⟩, fun ⟨same, _⟩ => congrArg some same.symm⟩
      · exact iff_of_false nofun nofun
      · exact iff_of_false nofun nofun
      · cases own
    · rw [if_neg own, inductionHypothesis]
      refine ⟨fun waits => Or.inr ⟨waits, own⟩, ?_⟩
      rintro (⟨-, rfl⟩ | ⟨waits, -⟩)
      · exact absurd rfl own
      · exact waits

/-! ### Answered requests -/

/-- What one event adds to the answered requests. -/
def Table.answers (table : Table Key) : Event Key → List (Nat × Option Nat)
  | .request _ .atOnce => [(table.count, none)]
  | .answer key => (table.pending key).toList.map fun index => (index, some table.count)
  | _ => []

theorem answered_next (table : Table Key) (event : Event Key) :
    (table.next event).answered = table.answered ++ table.answers event := by
  rcases event with ⟨key, _ | _ | _⟩ | key | _
  · rfl
  · exact (List.append_nil _).symm
  · exact (List.append_nil _).symm
  · rw [Table.next, Table.answers]
    cases table.pending key with
    | none => exact (List.append_nil _).symm
    | some index => rfl
  · exact (List.append_nil _).symm

/-- An answered request, with its answer if this came later. -/
def Answered (events : List (Event Key)) : Nat × Option Nat → Prop
  | (index, none) => ∃ key, events[index]? = some (.request key .atOnce)
  | (index, some place) => ∃ key, Waits events key index place ∧ events[place]? = some (.answer key)

/-- The last event of an answered request. -/
def finished : Nat × Option Nat → Nat
  | (index, none) => index
  | (_, some place) => place

omit [DecidableEq Key] in
theorem Answered.finished_lt {events : List (Event Key)} {request : Nat × Option Nat}
    (answered : Answered events request) : finished request < events.length := by
  rcases request with ⟨index, _ | place⟩
  · obtain ⟨key, found⟩ := answered
    exact (List.getElem?_eq_some_iff.1 found).1
  · obtain ⟨key, -, found⟩ := answered
    exact (List.getElem?_eq_some_iff.1 found).1

omit [DecidableEq Key] in
/-- One more event leaves what was answered before it. -/
theorem answered_concat {events : List (Event Key)} {event : Event Key}
    {request : Nat × Option Nat} (before : finished request < events.length) :
    Answered (events ++ [event]) request ↔ Answered events request := by
  rcases request with ⟨index, _ | place⟩
  · have same : (events ++ [event])[index]? = events[index]? := List.getElem?_append_left before
    rw [Answered, Answered, same]
  · have same : (events ++ [event])[place]? = events[place]? := List.getElem?_append_left before
    rw [Answered, Answered, same]
    exact exists_congr fun key => and_congr_left fun _ => waits_concat event (Nat.le_of_lt before)

/-- One more event answers what the table says. -/
theorem mem_answers {events : List (Event Key)} {event : Event Key} {request : Nat × Option Nat} :
    request ∈ (run events).answers event ↔
      finished request = events.length ∧ Answered (events ++ [event]) request := by
  have last : (events ++ [event])[events.length]? = some event := List.getElem?_concat_length
  rcases request with ⟨index, _ | place⟩
  · have ends : (finished (index, none) = events.length ∧
        Answered (events ++ [event]) (index, none)) ↔
        index = events.length ∧ ∃ key, event = .request key .atOnce := by
      refine and_congr_right fun same => exists_congr fun key => ?_
      rw [show index = events.length from same, last, Option.some_inj]
    rw [ends]
    rcases event with ⟨key, _ | _ | _⟩ | key | _
    · rw [Table.answers, count_run, List.mem_singleton, Prod.mk.injEq]
      exact and_congr_right fun _ => iff_of_true rfl ⟨key, rfl⟩
    · exact iff_of_false nofun nofun
    · exact iff_of_false nofun nofun
    · refine iff_of_false (fun inside => ?_) nofun
      obtain ⟨_, _, impossible⟩ := List.mem_map.1 inside
      cases impossible
    · exact iff_of_false nofun nofun
  · have ends : (finished (index, some place) = events.length ∧
        Answered (events ++ [event]) (index, some place)) ↔
        place = events.length ∧ ∃ key, (run events).pending key = some index ∧
          event = .answer key := by
      refine and_congr_right fun same => exists_congr fun key => ?_
      rw [show place = events.length from same, last, Option.some_inj, pending_run,
        waits_concat event (Nat.le_refl _)]
    rw [ends]
    rcases event with ⟨key, _ | _ | _⟩ | key | _
    · refine iff_of_false (fun inside => ?_) nofun
      cases List.mem_singleton.1 inside
    · exact iff_of_false nofun nofun
    · exact iff_of_false nofun nofun
    · rw [Table.answers, count_run, List.mem_map]
      constructor
      · rintro ⟨index', held, same⟩
        obtain ⟨rfl, sameEnd⟩ := Prod.mk.inj same
        exact ⟨(Option.some.inj sameEnd).symm, key, Option.mem_toList.1 held, rfl⟩
      · rintro ⟨rfl, key', held, same⟩
        obtain rfl := Event.answer.inj same
        exact ⟨index, Option.mem_toList.2 held, rfl⟩
    · exact iff_of_false nofun nofun

/-- The table finds every answered request. -/
theorem mem_answered {events : List (Event Key)} {request : Nat × Option Nat} :
    request ∈ (run events).answered ↔ Answered events request := by
  induction events using List.reverseRecOn with
  | nil => exact iff_of_false nofun fun answered => Nat.not_lt_zero _ answered.finished_lt
  | append_singleton events event inductionHypothesis =>
    rw [run_concat, answered_next, List.mem_append, inductionHypothesis, mem_answers]
    constructor
    · rintro (before | ⟨-, now⟩)
      · exact (answered_concat before.finished_lt).2 before
      · exact now
    · intro answered
      have inside := answered.finished_lt
      rw [List.length_append, List.length_singleton] at inside
      by_cases now : finished request = events.length
      · exact Or.inr ⟨now, answered⟩
      · exact Or.inl ((answered_concat (by omega)).1 answered)

/-- The answered requests come in the order of their last events. -/
theorem answered_ordered (events : List (Event Key)) :
    (run events).answered.Pairwise fun first second => finished first < finished second := by
  induction events using List.reverseRecOn with
  | nil => exact List.Pairwise.nil
  | append_singleton events event inductionHypothesis =>
    rw [run_concat, answered_next, List.pairwise_append]
    refine ⟨inductionHypothesis, ?_, fun first before second now => ?_⟩
    · rcases event with ⟨key, _ | _ | _⟩ | key | _
      · exact List.pairwise_singleton _ _
      · exact List.Pairwise.nil
      · exact List.Pairwise.nil
      · rw [Table.answers]
        cases (run events).pending key with
        | none => exact List.Pairwise.nil
        | some index => exact List.pairwise_singleton _ _
      · exact List.Pairwise.nil
    · rw [(mem_answers.1 now).1]
      exact (mem_answered.1 before).finished_lt

omit [DecidableEq Key] in
/-- A request is answered once. -/
theorem Answered.unique {events : List (Event Key)} {index : Nat} {first second : Option Nat}
    (one : Answered events (index, first)) (other : Answered events (index, second)) :
    ¬ finished (index, first) < finished (index, second) := by
  intro before
  rcases first with _ | place <;> rcases second with _ | place'
  · exact Nat.lt_irrefl _ before
  · obtain ⟨key, found⟩ := one
    obtain ⟨key', waits, -⟩ := other
    cases found.symm.trans waits.request
  · obtain ⟨key, waits, -⟩ := one
    obtain ⟨key', found⟩ := other
    cases found.symm.trans waits.request
  · obtain ⟨key, waits, answer⟩ := one
    obtain ⟨key', waits', -⟩ := other
    cases waits.request.symm.trans waits'.request
    exact waits'.quiet place _ waits.before before answer rfl

/-- No request is answered twice. -/
theorem requests_nodup (events : List (Event Key)) :
    ((run events).answered.map Prod.fst).Nodup := by
  refine List.pairwise_map.2 ((answered_ordered events).imp_of_mem ?_)
  rintro ⟨index, first⟩ ⟨index', second⟩ one other before rfl
  exact (mem_answered.1 one).unique (mem_answered.1 other) before

/-- No answer is used twice. -/
theorem answers_nodup (events : List (Event Key)) :
    ((run events).answered.filterMap Prod.snd).Nodup := by
  refine List.Pairwise.filterMap _ ?_ (answered_ordered events)
  rintro ⟨index, first⟩ ⟨index', second⟩ before place rfl place' rfl same
  exact Nat.ne_of_lt before same

end Pairing
