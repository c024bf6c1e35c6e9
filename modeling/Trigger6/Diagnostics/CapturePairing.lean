/-
This file proves how a capture's records come from its packets: every record is
one submission, alone or with its completion, and no packet is used twice. What
the table of waiting reads does is the table of the pairing library, with the
submissions whose setup was captured as its requests.

A submission whose setup was not captured is none of them. The table keeps what
waits under its key, and that is exactly when a read may be given a completion
that belongs to a later submission.
-/

import Mathlib.Data.List.Forall2
import Trigger6.Diagnostics.Capture
import Trigger6.Lib.Pairing
import Trigger6.Lib.Text

namespace Trigger6.Diagnostics.Capture

open Bytes Text Pairing

/-! ### Reading ends -/

/-- A block that is read is not empty, and the stream behind it is part of the stream. -/
theorem readBlock_shorter {stream body behind : List Byte} {kind : Nat}
    (read : readBlock stream = .ok (some (kind, body, behind))) :
    behind.length < stream.length ∧ behind <:+: stream ∧ body <:+: stream := by
  unfold readBlock at read
  dsimp only at read
  by_cases empty : stream.take 8 = []
  · rw [if_pos empty] at read
    cases read
  · rw [if_neg empty] at read
    obtain ⟨-, read⟩ := guard_eq_ok.1 read
    obtain ⟨bounds, read⟩ := guard_eq_ok.1 read
    obtain ⟨-, read⟩ := guard_eq_ok.1 read
    obtain ⟨-, same⟩ := Prod.mk.inj (Option.some.inj (Except.ok.inj read))
    obtain ⟨rfl, rfl⟩ := Prod.mk.inj same
    refine ⟨?_, (List.drop_suffix _ _).isInfix, ?_⟩
    · have filled : stream.length ≠ 0 := by
        intro none_
        rw [List.length_eq_zero_iff.1 none_] at empty
        exact empty rfl
      rw [List.length_drop]
      omega
    · exact ((List.take_prefix _ _).isInfix.trans (List.take_prefix _ _).isInfix).trans
        (List.drop_suffix _ _).isInfix

theorem readBody_slice {links links' : List Nat} {kind : Nat} {body : List Byte} {packet : Packet}
    (read : readBody links kind body = .ok (links', some packet)) : packet.data <:+: body := by
  unfold readBody at read
  by_cases section_ : kind = 0x0A0D0D0A
  · rw [if_pos section_] at read
    cases (guard_eq_ok.1 read).2
  · rw [if_neg section_] at read
    by_cases interface : kind = 1
    · rw [if_pos interface] at read
      cases (guard_eq_ok.1 read).2
    · rw [if_neg interface] at read
      by_cases enhanced : kind = 6
      · rw [if_pos enhanced] at read
        obtain ⟨-, read⟩ := guard_eq_ok.1 read
        dsimp only at read
        cases link : links[field body 0 4]? with
        | none =>
          rw [link] at read
          cases read
        | some link' =>
          rw [link] at read
          obtain ⟨-, read⟩ := guard_eq_ok.1 read
          by_cases usb : link' = 220 ∨ link' = 249
          · rw [if_pos usb] at read
            obtain ⟨-, same⟩ := Prod.mk.inj (Except.ok.inj read)
            rw [← Option.some.inj same]
            exact (List.take_prefix _ _).isInfix.trans (List.drop_suffix _ _).isInfix
          · rw [if_neg usb] at read
            cases read
      · rw [if_neg enhanced] at read
        cases read

theorem throw_or_ok {Result : Type} {bad : Prop} [Decidable bad] {text : String}
    {next : Except Failure Result} {failure : Failure}
    (failed : (if bad then throw (.valueError text) else next) = .error failure)
    (behind : next = .error failure → ∃ text, failure = .valueError text) :
    ∃ text, failure = .valueError text := by
  by_cases holds : bad
  · rw [if_pos holds] at failed
    exact ⟨text, (Except.error.inj failed).symm⟩
  · rw [if_neg holds] at failed
    exact behind failed

theorem readBlock_error {stream : List Byte} {failure : Failure}
    (failed : readBlock stream = .error failure) : ∃ text, failure = .valueError text := by
  unfold readBlock at failed
  dsimp only at failed
  by_cases empty : stream.take 8 = []
  · rw [if_pos empty] at failed
    cases failed
  · rw [if_neg empty] at failed
    refine throw_or_ok failed fun failed => throw_or_ok failed fun failed =>
      throw_or_ok failed fun failed => ?_
    cases failed

theorem readBody_error {links : List Nat} {kind : Nat} {body : List Byte} {failure : Failure}
    (failed : readBody links kind body = .error failure) : ∃ text, failure = .valueError text := by
  unfold readBody at failed
  by_cases section_ : kind = 0x0A0D0D0A
  · rw [if_pos section_] at failed
    refine throw_or_ok failed fun failed => ?_
    cases failed
  · rw [if_neg section_] at failed
    by_cases interface : kind = 1
    · rw [if_pos interface] at failed
      refine throw_or_ok failed fun failed => ?_
      cases failed
    · rw [if_neg interface] at failed
      by_cases enhanced : kind = 6
      · rw [if_pos enhanced] at failed
        refine throw_or_ok failed fun failed => ?_
        dsimp only at failed
        cases link : links[field body 0 4]? with
        | none =>
          rw [link] at failed
          exact ⟨_, (Except.error.inj failed).symm⟩
        | some link' =>
          rw [link] at failed
          refine throw_or_ok failed fun failed => ?_
          by_cases usb : link' = 220 ∨ link' = 249
          · rw [if_pos usb] at failed
            cases failed
          · rw [if_neg usb] at failed
            cases failed
      · rw [if_neg enhanced] at failed
        cases failed

theorem viewUsbmon_error {data : List Byte} {failure : Failure}
    (failed : viewUsbmon data = .error failure) : ∃ text, failure = .valueError text := by
  unfold viewUsbmon at failed
  refine throw_or_ok failed fun failed => ?_
  dsimp only at failed
  refine throw_or_ok failed fun failed => ?_
  split_ifs at failed <;> cases failed

theorem viewUsbPcap_error {data : List Byte} {failure : Failure}
    (failed : viewUsbPcap data = .error failure) : ∃ text, failure = .valueError text := by
  unfold viewUsbPcap at failed
  refine throw_or_ok failed fun failed => ?_
  dsimp only at failed
  refine throw_or_ok failed fun failed => ?_
  by_cases other : field data 22 1 ≠ 2
  · rw [if_pos other] at failed
    cases failed
  · rw [if_neg other] at failed
    refine throw_or_ok failed fun failed => ?_
    by_cases setup : field data 27 1 = 0
    · rw [if_pos setup] at failed
      refine throw_or_ok failed fun failed => ?_
      cases failed
    · rw [if_neg setup] at failed
      split_ifs at failed <;> cases failed

theorem Packet.view_error {packet : Packet} {failure : Failure}
    (failed : packet.view = .error failure) : ∃ text, failure = .valueError text := by
  rw [Packet.view] at failed
  by_cases usbmon : packet.link = 220
  · rw [if_pos usbmon] at failed
    exact viewUsbmon_error failed
  · rw [if_neg usbmon] at failed
    exact viewUsbPcap_error failed

/-- With enough fuel, the generator ends with the stream or an error, and what it yields are slices
of the stream. -/
theorem packets_end {fuel : Nat} {links : List Nat} {stream : List Byte}
    (enough : stream.length < fuel) :
    (∀ failure, (packets fuel links stream).2 = some failure →
      ∃ text, failure = .valueError text) ∧
      ∀ packet ∈ (packets fuel links stream).1, packet.data <:+: stream := by
  induction fuel generalizing links stream with
  | zero => exact absurd enough (Nat.not_lt_zero _)
  | succ fuel inductionHypothesis =>
    rw [packets]
    cases block : readBlock stream with
    | error failure =>
      exact ⟨fun _ same => Option.some.inj same ▸ readBlock_error block,
        fun _ impossible => nomatch impossible⟩
    | ok read =>
      rcases read with _ | ⟨kind, body, behind⟩
      · exact ⟨nofun, fun _ impossible => nomatch impossible⟩
      · obtain ⟨shorter, part, inside⟩ := readBlock_shorter block
        cases contents : readBody links kind body with
        | error failure =>
          dsimp only
          rw [contents]
          exact ⟨fun _ same => Option.some.inj same ▸ readBody_error contents,
            fun _ impossible => nomatch impossible⟩
        | ok found =>
          obtain ⟨links', packet⟩ := found
          dsimp only
          rw [contents]
          obtain ⟨ends, slices⟩ := @inductionHypothesis links' behind (by omega)
          refine ⟨ends, fun other among => ?_⟩
          rcases List.mem_append.1 among with own | later
          · rw [Option.mem_toList.1 own] at contents
            exact (readBody_slice contents).trans inside
          · exact (slices other later).trans part

/-! ### The table of waiting reads -/

/-- What a packet is to the pairing of submissions and completions. -/
def View.event : View → Event Key
  | .submission key (some (setup, _)) =>
    .request key (if requestOf setup = modeWrite then .atOnce
      else if requestOf setup = timingRead then .later else .never)
  | .submission _ none => .other
  | .completion key _ _ => .answer key
  | .other => .other

theorem View.event_request {view : View} {key : Key} {answer : Answer} :
    view.event = .request key answer ↔
      ∃ setup payload, view = .submission key (some (setup, payload)) ∧
        (if requestOf setup = modeWrite then .atOnce
          else if requestOf setup = timingRead then .later else .never) = answer := by
  rcases view with ⟨key', _ | ⟨setup, payload⟩⟩ | ⟨key', status, payload⟩ | _
  · exact iff_of_false nofun nofun
  · constructor
    · intro same
      obtain ⟨rfl, kind⟩ := Event.request.inj same
      exact ⟨setup, payload, rfl, kind⟩
    · rintro ⟨_, _, same, kind⟩
      cases same
      exact congrArg (Event.request key) kind
  · exact iff_of_false nofun nofun
  · exact iff_of_false nofun nofun

theorem View.event_later {view : View} {key : Key} : view.event = .request key .later ↔
    ∃ setup payload, view = .submission key (some (setup, payload)) ∧
      requestOf setup = timingRead := by
  rw [View.event_request]
  refine exists_congr fun setup => exists_congr fun payload => and_congr_right fun _ => ?_
  by_cases write : requestOf setup = modeWrite
  · rw [if_pos write, write]
    exact iff_of_false nofun (by decide)
  · by_cases read : requestOf setup = timingRead
    · rw [if_neg write, if_pos read]
      exact iff_of_true rfl read
    · rw [if_neg write, if_neg read]
      exact iff_of_false nofun read

theorem View.event_atOnce {view : View} {key : Key} : view.event = .request key .atOnce ↔
    ∃ setup payload, view = .submission key (some (setup, payload)) ∧
      requestOf setup = modeWrite := by
  rw [View.event_request]
  refine exists_congr fun setup => exists_congr fun payload => and_congr_right fun _ => ?_
  by_cases write : requestOf setup = modeWrite
  · rw [if_pos write]
    exact iff_of_true rfl write
  · rw [if_neg write]
    refine iff_of_false (fun same => ?_) write
    split_ifs at same

theorem View.event_answer {view : View} {key : Key} :
    view.event = .answer key ↔ ∃ status payload, view = .completion key status payload := by
  rcases view with ⟨key', _ | ⟨setup, payload⟩⟩ | ⟨key', status, payload⟩ | _
  · exact iff_of_false nofun nofun
  · exact iff_of_false nofun nofun
  · constructor
    · intro same
      obtain rfl := Event.answer.inj same
      exact ⟨status, payload, rfl⟩
    · rintro ⟨_, _, same⟩
      cases same
      rfl
  · exact iff_of_false nofun nofun

/-- The submission at a place. -/
def submissionAt (views : List View) (index : Nat) : Option Submission :=
  match views[index]? with
  | some (.submission key (some (setup, _))) => some (submissionOf index key setup)
  | _ => none

/-- The record of an answered request. -/
def recordAt (views : List View) : Nat × Option Nat → Option Record
  | (index, none) =>
    match views[index]? with
    | some (.submission key (some (setup, payload))) =>
      some ⟨submissionOf index key setup, none, payload.length, payload⟩
    | _ => none
  | (index, some place) =>
    match submissionAt views index, views[place]? with
    | some submission, some (.completion _ status payload) =>
      some ⟨submission, some status, payload.length, payload⟩
    | _, _ => none

/-- The state behind a list of packets is the table behind their events. -/
structure Refines (state : State) (views : List View) : Prop where
  pending : ∀ key, state.pending key =
    ((run (views.map View.event)).pending key).bind (submissionAt views)
  records : state.records.map some = (run (views.map View.event)).answered.map (recordAt views)

theorem submissionAt_concat {views : List View} {view : View} {index : Nat}
    (inside : index < views.length) :
    submissionAt (views ++ [view]) index = submissionAt views index := by
  rw [submissionAt, submissionAt, List.getElem?_append_left inside]

theorem recordAt_concat {views : List View} {view : View} {request : Nat × Option Nat}
    (answered : Answered (views.map View.event) request) :
    recordAt (views ++ [view]) request = recordAt views request := by
  have inside := answered.finished_lt
  rw [List.length_map] at inside
  rcases request with ⟨index, _ | place⟩
  · have same : (views ++ [view])[index]? = views[index]? := List.getElem?_append_left inside
    rw [recordAt, recordAt, same]
  · obtain ⟨key, waits, -⟩ := answered
    have same : (views ++ [view])[place]? = views[place]? := List.getElem?_append_left inside
    rw [recordAt, recordAt, same, submissionAt_concat (waits.before.trans inside)]

variable {state : State} {views : List View}

/-- What waits was submitted before. -/
theorem pending_inside {key : Key} {index : Nat}
    (held : (run (views.map View.event)).pending key = some index) : index < views.length := by
  have waits := pending_run.1 held
  rw [List.length_map] at waits
  exact waits.before

/-- The keys that a packet is not about keep what waits. -/
theorem Refines.pending_kept (refines : Refines state views) (view : View) (key : Key) :
    state.pending key =
      ((run (views.map View.event)).pending key).bind (submissionAt (views ++ [view])) := by
  rw [refines.pending key]
  cases held : (run (views.map View.event)).pending key with
  | none => rfl
  | some index => exact (submissionAt_concat (pending_inside held)).symm

theorem Refines.pending_update (refines : Refines state views) (view : View) (key : Key)
    {submission : Option Submission} {index : Option Nat}
    (same : submission = index.bind (submissionAt (views ++ [view]))) (key' : Key) :
    Function.update state.pending key submission key' =
      (Function.update (run (views.map View.event)).pending key index key').bind
        (submissionAt (views ++ [view])) := by
  by_cases own : key' = key
  · rw [own, Function.update_self, Function.update_self]
    exact same
  · rw [Function.update_of_ne own, Function.update_of_ne own]
    exact refines.pending_kept view key'

theorem Refines.records_kept (refines : Refines state views) (view : View) :
    state.records.map some =
      (run (views.map View.event)).answered.map (recordAt (views ++ [view])) := by
  rw [refines.records]
  exact List.map_congr_left fun request inside => (recordAt_concat (mem_answered.1 inside)).symm

theorem Refines.records_more (refines : Refines state views) (view : View) {record : Record}
    {request : Nat × Option Nat} (same : recordAt (views ++ [view]) request = some record) :
    (state.records ++ [record]).map some =
      ((run (views.map View.event)).answered ++ [request]).map (recordAt (views ++ [view])) := by
  rw [List.map_append, List.map_append, refines.records_kept view, List.map_singleton,
    List.map_singleton, same]

/-- One packet more. -/
theorem Refines.see (refines : Refines state views) (view : View) :
    Refines (state.see views.length view) (views ++ [view]) := by
  have last : (views ++ [view])[views.length]? = some view := List.getElem?_concat_length
  have count : (run (views.map View.event)).count = views.length := by
    rw [count_run, List.length_map]
  have next : run ((views ++ [view]).map View.event) =
      (run (views.map View.event)).next view.event := by
    rw [List.map_append, List.map_singleton, run_concat]
  rcases view with ⟨key, _ | ⟨setup, payload⟩⟩ | ⟨key, status, payload⟩ | _
  · exact ⟨next ▸ refines.pending_kept _, next ▸ refines.records_kept _⟩
  · have own : submissionAt (views ++ [.submission key (some (setup, payload))]) views.length =
        some (submissionOf views.length key setup) := by
      rw [submissionAt, last]
    by_cases write : requestOf setup = modeWrite
    · have event : View.event (.submission key (some (setup, payload))) = .request key .atOnce := by
        rw [View.event, if_pos write]
      have submitted : state.submit views.length key setup payload =
          { pending := Function.update state.pending key none
            records := state.records ++
              [⟨submissionOf views.length key setup, none, payload.length, payload⟩] } :=
        if_pos write
      rw [State.see, submitted]
      refine ⟨?_, ?_⟩
      · rw [next, event]
        exact refines.pending_update _ key rfl
      · rw [next, event]
        refine refines.records_more _ ?_
        rw [count, recordAt, last]
    · by_cases read : requestOf setup = timingRead
      · have event : View.event (.submission key (some (setup, payload))) =
            .request key .later := by
          rw [View.event, if_neg write, if_pos read]
        have submitted : state.submit views.length key setup payload =
            { pending := Function.update (Function.update state.pending key none) key
                (some (submissionOf views.length key setup))
              records := state.records } :=
          (if_neg write).trans (if_pos read)
        rw [State.see, submitted, Function.update_idem]
        refine ⟨?_, ?_⟩
        · rw [next, event]
          refine refines.pending_update _ key ?_
          rw [count]
          exact own.symm
        · rw [next, event]
          exact refines.records_kept _
      · have event : View.event (.submission key (some (setup, payload))) =
            .request key .never := by
          rw [View.event, if_neg write, if_neg read]
        have submitted : state.submit views.length key setup payload =
            { state with pending := Function.update state.pending key none } :=
          (if_neg write).trans (if_neg read)
        rw [State.see, submitted]
        refine ⟨?_, ?_⟩
        · rw [next, event]
          exact refines.pending_update _ key rfl
        · rw [next, event]
          exact refines.records_kept _
  · rw [State.see, State.complete, refines.pending_kept (.completion key status payload) key]
    cases held : (run (views.map View.event)).pending key with
    | none =>
      have after : (run (views.map View.event)).next (.answer key) =
          ⟨(run (views.map View.event)).count + 1, (run (views.map View.event)).pending,
            (run (views.map View.event)).answered⟩ := by
        rw [Table.next, held]
      refine ⟨?_, ?_⟩
      · rw [next, View.event, after]
        exact refines.pending_kept _
      · rw [next, View.event, after]
        exact refines.records_kept _
    | some index =>
      obtain ⟨view, found, request⟩ := (List.getElem?_map ..).symm.trans (pending_run.1 held).request
        |> Option.map_eq_some_iff.1
      obtain ⟨setup, asked, rfl, read⟩ := View.event_later.1 request
      have submitted : submissionAt (views ++ [.completion key status payload]) index =
          some (submissionOf index key setup) := by
        rw [submissionAt_concat (pending_inside held), submissionAt, found]
      have after : (run (views.map View.event)).next (.answer key) =
          ⟨(run (views.map View.event)).count + 1,
            Function.update (run (views.map View.event)).pending key none,
            (run (views.map View.event)).answered ++ [(index, some views.length)]⟩ := by
        rw [Table.next, held, ← count]
      rw [Option.bind_some, submitted]
      refine ⟨?_, ?_⟩
      · rw [next, View.event, after]
        exact refines.pending_update _ key rfl
      · rw [next, View.event, after]
        refine refines.records_more _ ?_
        rw [recordAt, submitted, last]
  · exact ⟨next ▸ refines.pending_kept _, next ▸ refines.records_kept _⟩

/-- All packets: the views of a capture, and the state behind them. -/
theorem inspectPackets_refines {rest : List Packet} {final : State} (refines : Refines state views)
    (inspected : inspectPackets views.length state rest = .ok final) :
    ∃ later, rest.map Packet.view = later.map .ok ∧ Refines final (views ++ later) := by
  induction rest generalizing state views with
  | nil =>
    obtain rfl := Except.ok.inj inspected
    exact ⟨[], rfl, (List.append_nil views).symm ▸ refines⟩
  | cons packet rest inductionHypothesis =>
    obtain ⟨view, seen, inspected⟩ := bind_eq_ok.1 inspected
    have grown : (views ++ [view]).length = views.length + 1 := by
      rw [List.length_append, List.length_singleton]
    obtain ⟨later, same, final⟩ := inductionHypothesis (refines.see view) (grown ▸ inspected)
    refine ⟨view :: later, ?_, ?_⟩
    · rw [List.map_cons, List.map_cons, seen, same]
    · rwa [List.append_assoc, List.singleton_append] at final

theorem inspectPackets_error {rest : List Packet} {sequence : Nat} {failure : Failure}
    (failed : inspectPackets sequence state rest = .error failure) :
    ∃ text, failure = .valueError text := by
  induction rest generalizing state sequence with
  | nil => cases failed
  | cons packet rest inductionHypothesis =>
    rw [inspectPackets] at failed
    cases seen : packet.view with
    | error other =>
      rw [seen] at failed
      obtain rfl : other = failure := Except.error.inj failed
      exact Packet.view_error seen
    | ok view =>
      rw [seen] at failed
      exact inductionHypothesis failed

/-! ### Payloads -/

/-- The payload that a packet shows is part of its data. -/
def View.Within (data : List Byte) : View → Prop
  | .submission _ (some (_, payload)) => payload <:+: data
  | .completion _ _ payload => payload <:+: data
  | _ => True

theorem slice_inside (data : List Byte) (offset length : Nat) :
    (data.drop offset).take length <:+: data :=
  (List.take_prefix _ _).isInfix.trans (List.drop_suffix _ _).isInfix

theorem viewUsbmon_within {data : List Byte} {view : View} (seen : viewUsbmon data = .ok view) :
    view.Within data := by
  unfold viewUsbmon at seen
  obtain ⟨-, seen⟩ := guard_eq_ok.1 seen
  dsimp only at seen
  obtain ⟨-, seen⟩ := guard_eq_ok.1 seen
  split_ifs at seen <;> obtain rfl := Except.ok.inj seen
  · trivial
  · exact slice_inside data 64 _
  · trivial
  · exact slice_inside data 64 _
  · trivial

theorem viewUsbPcap_within {data : List Byte} {view : View} (seen : viewUsbPcap data = .ok view) :
    view.Within data := by
  unfold viewUsbPcap at seen
  obtain ⟨-, seen⟩ := guard_eq_ok.1 seen
  dsimp only at seen
  obtain ⟨-, seen⟩ := guard_eq_ok.1 seen
  by_cases other : field data 22 1 ≠ 2
  · rw [if_pos other] at seen
    obtain rfl := Except.ok.inj seen
    trivial
  · rw [if_neg other] at seen
    obtain ⟨-, seen⟩ := guard_eq_ok.1 seen
    by_cases setup : field data 27 1 = 0
    · rw [if_pos setup] at seen
      obtain ⟨-, seen⟩ := guard_eq_ok.1 seen
      obtain rfl := Except.ok.inj seen
      exact (List.drop_suffix _ _).isInfix.trans (slice_inside data _ _)
    · rw [if_neg setup] at seen
      split_ifs at seen <;> obtain rfl := Except.ok.inj seen
      · exact slice_inside data _ _
      · trivial

theorem Packet.view_within {packet : Packet} {view : View} (seen : packet.view = .ok view) :
    view.Within packet.data := by
  rw [Packet.view] at seen
  by_cases usbmon : packet.link = 220
  · rw [if_pos usbmon] at seen
    exact viewUsbmon_within seen
  · rw [if_neg usbmon] at seen
    exact viewUsbPcap_within seen

/-! ### Records and their packets -/

/-- A packet of a capture and what it holds. -/
def Sees (packets : List Packet) (index : Nat) (view : View) : Prop :=
  ∃ packet, packets[index]? = some packet ∧ packet.view = .ok view

/-- Where a record comes from: a write from its submission, a read from its submission and its
completion, without another control submission of the same key in between. -/
inductive Explained (packets : List Packet) (record : Record) : Nat × Option Nat → Prop
  | write {index : Nat} {packet : Packet} {key : Key} {setup : List Byte}
      (found : packets[index]? = some packet)
      (seen : packet.view = .ok (.submission key (some (setup, record.data))))
      (written : requestOf setup = modeWrite)
      (submitted : record.submission = submissionOf index key setup)
      (status : record.status = none) (slice : record.data <:+: packet.data) :
      Explained packets record (index, none)
  | read {index place : Nat} {packet : Packet} {key : Key} {setup payload : List Byte}
      {status : Int} (submission : Sees packets index (.submission key (some (setup, payload))))
      (asked : requestOf setup = timingRead)
      (submitted : record.submission = submissionOf index key setup) (later : index < place)
      (found : packets[place]? = some packet)
      (seen : packet.view = .ok (.completion key status record.data))
      (completed : record.status = some status) (slice : record.data <:+: packet.data)
      (alone : ∀ between, index < between → between < place → ∀ setup,
        ¬ Sees packets between (.submission key setup)) :
      Explained packets record (index, some place)

/-- Every record comes from one submission, alone or with its completion; no submission and no
completion is used twice. -/
def Paired (packets : List Packet) (records : List Record) : Prop :=
  ∃ origins, List.Forall₂ (Explained packets) records origins ∧ (origins.map Prod.fst).Nodup ∧
    (origins.filterMap Prod.snd).Nodup

/-- A submission whose setup was not captured comes between a timing read and the next completion
under the same key, with no submission with a setup before the completion. -/
def Overtaken (packets : List Packet) : Prop :=
  ∃ index between place key setup payload status data, index < between ∧ between < place ∧
    Sees packets index (.submission key (some (setup, payload))) ∧ requestOf setup = timingRead ∧
    Sees packets between (.submission key none) ∧
    Sees packets place (.completion key status data) ∧
    ∀ other view, index < other → other < place → Sees packets other view →
      (∀ setup, view ≠ .submission key (some setup)) ∧
        ∀ status data, view ≠ .completion key status data

theorem sees_iff {packets : List Packet} (same : packets.map Packet.view = views.map .ok)
    {index : Nat} {view : View} : Sees packets index view ↔ views[index]? = some view := by
  have at_ : (packets[index]?).map Packet.view = (views[index]?).map .ok := by
    rw [← List.getElem?_map, ← List.getElem?_map, same]
  constructor
  · rintro ⟨packet, found, seen⟩
    rw [found, Option.map_some, seen] at at_
    obtain ⟨view', found', equal⟩ := Option.map_eq_some_iff.1 at_.symm
    rw [found', Except.ok.inj equal]
  · intro found
    rw [found, Option.map_some] at at_
    exact Option.map_eq_some_iff.1 at_

theorem View.key_event {view : View} {key : Key} : view.event.key ≠ some key ↔
    (∀ setup, view ≠ .submission key (some setup)) ∧
      ∀ status data, view ≠ .completion key status data := by
  rcases view with ⟨key', _ | ⟨setup, payload⟩⟩ | ⟨key', status, payload⟩ | _
  · exact iff_of_true nofun ⟨nofun, nofun⟩
  · constructor
    · intro different
      refine ⟨fun setup' same => different ?_, nofun⟩
      obtain ⟨rfl, -⟩ := View.submission.inj same
      rfl
    · rintro ⟨different, -⟩ same
      obtain rfl := Option.some.inj same
      exact different _ rfl
  · constructor
    · intro different
      refine ⟨nofun, fun status' data same => different ?_⟩
      obtain ⟨rfl, -⟩ := View.completion.inj same
      rfl
    · rintro ⟨-, different⟩ same
      obtain rfl := Option.some.inj same
      exact different _ _ rfl
  · exact iff_of_true nofun ⟨nofun, nofun⟩

/-- A waiting read, in what the packets hold. -/
theorem waits_iff {packets : List Packet} (same : packets.map Packet.view = views.map .ok)
    {key : Key} {index place : Nat} : Waits (views.map View.event) key index place ↔
      index < place ∧ (∃ setup payload,
        Sees packets index (.submission key (some (setup, payload))) ∧
          requestOf setup = timingRead) ∧
        ∀ between view, index < between → between < place → Sees packets between view →
          (∀ setup, view ≠ .submission key (some setup)) ∧
            ∀ status data, view ≠ .completion key status data := by
  constructor
  · intro waits
    have request := waits.request
    rw [List.getElem?_map] at request
    obtain ⟨view, found, event⟩ := Option.map_eq_some_iff.1 request
    obtain ⟨setup, payload, rfl, asked⟩ := View.event_later.1 event
    refine ⟨waits.before, ⟨setup, payload, (sees_iff same).2 found, asked⟩, ?_⟩
    intro between view after until_ seen
    refine View.key_event.1 (waits.quiet between view.event after until_ ?_)
    rw [List.getElem?_map, (sees_iff same).1 seen, Option.map_some]
  · rintro ⟨before, ⟨setup, payload, seen, asked⟩, quiet⟩
    refine ⟨before, ?_, fun between event after until_ found => ?_⟩
    · rw [List.getElem?_map, (sees_iff same).1 seen, Option.map_some,
        View.event_later.2 ⟨setup, payload, rfl, asked⟩]
    · rw [List.getElem?_map] at found
      obtain ⟨view, found', rfl⟩ := Option.map_eq_some_iff.1 found
      exact View.key_event.2 (quiet between view after until_ ((sees_iff same).2 found'))

/-- A record of an answered request is explained by it, unless the read was overtaken. -/
theorem explained_recordAt {packets : List Packet}
    (same : packets.map Packet.view = views.map .ok) (kept : ¬ Overtaken packets)
    {request : Nat × Option Nat} (answered : Answered (views.map View.event) request)
    {record : Record} (recorded : some record = recordAt views request) :
    Explained packets record request := by
  rcases request with ⟨index, _ | place⟩
  · obtain ⟨key, found⟩ := answered
    rw [List.getElem?_map] at found
    obtain ⟨view, at_, event⟩ := Option.map_eq_some_iff.1 found
    obtain ⟨setup, payload, rfl, written⟩ := View.event_atOnce.1 event
    rw [recordAt, at_] at recorded
    obtain rfl := Option.some.inj recorded
    obtain ⟨packet, inside, seen⟩ := (sees_iff same).2 at_
    exact .write inside seen written rfl rfl (Packet.view_within seen)
  · obtain ⟨key, waits, answer⟩ := answered
    obtain ⟨before, ⟨setup, payload, seen, asked⟩, quiet⟩ := (waits_iff same).1 waits
    rw [List.getElem?_map] at answer
    obtain ⟨view, at_, event⟩ := Option.map_eq_some_iff.1 answer
    obtain ⟨status, data, rfl⟩ := View.event_answer.1 event
    rw [recordAt, submissionAt, (sees_iff same).1 seen, at_] at recorded
    obtain rfl := Option.some.inj recorded
    obtain ⟨packet, inside, completed⟩ := (sees_iff same).2 at_
    refine .read seen asked rfl before inside completed rfl (Packet.view_within completed) ?_
    intro between after until_ setup' other
    cases setup' with
    | some setup' => exact (quiet between _ after until_ other).1 setup' rfl
    | none =>
      exact kept ⟨index, between, place, key, setup, payload, status, data, after, until_, seen,
        asked, other, ⟨packet, inside, completed⟩, quiet⟩

theorem Sees.unique {packets : List Packet} {index : Nat} {first second : View}
    (one : Sees packets index first) (other : Sees packets index second) : first = second := by
  obtain ⟨packet, found, seen⟩ := one
  obtain ⟨packet', found', seen'⟩ := other
  obtain rfl := Option.some.inj (found.symm.trans found')
  exact Except.ok.inj (seen.symm.trans seen')

/-- The records are paired right if and only if no read was overtaken. -/
theorem paired_iff {packets : List Packet} (same : packets.map Packet.view = views.map .ok)
    (refines : Refines state views) : Paired packets state.records ↔ ¬ Overtaken packets := by
  constructor
  · rintro ⟨origins, explained, -⟩ ⟨index, between, place, key, setup, payload, status, data, after,
      until_, seen, asked, bare, completed, quiet⟩
    have waits : Waits (views.map View.event) key index place :=
      (waits_iff same).2 ⟨after.trans until_, ⟨setup, payload, seen, asked⟩, quiet⟩
    have answered : Answered (views.map View.event) (index, some place) := by
      refine ⟨key, waits, ?_⟩
      rw [List.getElem?_map, (sees_iff same).1 completed]
      rfl
    have recorded : recordAt views (index, some place) =
        some ⟨submissionOf index key setup, some status, data.length, data⟩ := by
      rw [recordAt, submissionAt, (sees_iff same).1 seen, (sees_iff same).1 completed]
    have inside : some ⟨submissionOf index key setup, some status, data.length, data⟩ ∈
        state.records.map some := by
      rw [refines.records, ← recorded]
      exact List.mem_map_of_mem (mem_answered.2 answered)
    obtain ⟨record, member, equal⟩ := List.mem_map.1 inside
    obtain rfl := Option.some.inj equal
    obtain ⟨at_, short, found⟩ := List.mem_iff_getElem.1 member
    have origin := explained.get short (explained.length_eq ▸ short)
    rw [List.get_eq_getElem, found] at origin
    generalize origins.get _ = source at origin
    cases origin with
    | write found' seen' written submitted =>
      have requests := congrArg (fun submission => (submission.type, submission.request)) submitted
      have apart : (requestOf setup) = requestOf _ := requests
      rw [asked, written] at apart
      exact absurd apart (by decide)
    | @read _ place' _ _ _ _ _ seen' asked' submitted later found' completed' _ _ alone =>
      obtain rfl := congrArg Submission.packet submitted
      obtain ⟨rfl, -⟩ := View.submission.inj (seen.unique seen')
      have answer : Sees packets place' (.completion key _ _) := ⟨_, found', completed'⟩
      -- the bare submission forbids every completion behind it, and none comes before it
      rcases Nat.lt_trichotomy between place' with before | same' | behind
      · exact alone between after before none bare
      · cases (same' ▸ bare).unique answer
      · exact (quiet place' _ later (behind.trans until_) answer).2 _ _ rfl
  · intro kept
    refine ⟨(run (views.map View.event)).answered, ?_, requests_nodup _, answers_nodup _⟩
    have equal : List.Forall₂ (fun record request => some record = recordAt views request)
        state.records (run (views.map View.event)).answered := by
      have listed := refines.records
      rwa [← List.forall₂_eq_eq_eq, List.forall₂_map_left_iff, List.forall₂_map_right_iff] at listed
    have both := (List.forall₂_and_left _ _).2
      ⟨fun request inside => mem_answered.1 inside, equal.flip⟩
    exact (both.imp fun request record ⟨answered, recorded⟩ =>
      explained_recordAt same kept answered recorded).flip

/-- What `inspect` returns is the state behind all packets. -/
theorem inspect_eq_ok {stream : List Byte} {records : List Record}
    (inspected : inspect stream = .ok records) : ∃ views state,
      (captured stream).1.map Packet.view = views.map .ok ∧ Refines state views ∧
        state.records = records := by
  have begun : Refines ⟨fun _ => none, []⟩ [] := ⟨fun _ => rfl, rfl⟩
  obtain ⟨state, packets, result⟩ := bind_eq_ok.1 inspected
  obtain ⟨views, same, refines⟩ := inspectPackets_refines begun packets
  cases ended : (captured stream).2 with
  | some failure =>
    rw [ended] at result
    cases result
  | none =>
    rw [ended] at result
    exact ⟨views, state, same, refines, Except.ok.inj result⟩

theorem inspect_error {stream : List Byte} {failure : Failure}
    (failed : inspect stream = .error failure) : ∃ text, failure = .valueError text := by
  rw [inspect] at failed
  cases inspected : inspectPackets 0 ⟨fun _ => none, []⟩ (captured stream).1 with
  | error other =>
    rw [inspected] at failed
    obtain rfl : other = failure := Except.error.inj failed
    exact inspectPackets_error inspected
  | ok state =>
    rw [inspected] at failed
    have ends := (@packets_end (stream.length + 1) [] stream (Nat.lt_succ_self _)).1
    cases ended : (captured stream).2 with
    | none =>
      rw [ended] at failed
      cases failed
    | some other =>
      rw [ended] at failed
      obtain rfl : other = failure := Except.error.inj failed
      exact ends other ended

/-- Every stream ends in a `ValueError` or in records, whose data are slices of packets of the
stream; and the records are paired right if and only if no read was overtaken. -/
theorem capture_paired (stream : List Byte) :
    (∃ text, inspect stream = .error (.valueError text)) ∨
      ∃ records, inspect stream = .ok records ∧
        (∀ packet ∈ (captured stream).1, packet.data <:+: stream) ∧
        (Paired (captured stream).1 records ↔ ¬ Overtaken (captured stream).1) := by
  cases inspected : inspect stream with
  | error failure =>
    obtain ⟨text, rfl⟩ := inspect_error inspected
    exact Or.inl ⟨text, rfl⟩
  | ok records =>
    obtain ⟨views, state, same, refines, rfl⟩ := inspect_eq_ok inspected
    exact Or.inr ⟨_, rfl, (packets_end (Nat.lt_succ_self _)).2, paired_iff same refines⟩

/-- A capture of three usbmon packets: a read, a submission without its setup, a completion. -/
def overtakenStream : List Byte :=
  let block := fun kind body => littleEndian 4 kind ++ littleEndian 4 (body.length + 12) ++ body ++
    littleEndian 4 (body.length + 12)
  let packet := fun event flag => block 6 (pack [4, 4, 4, 4, 4] [0, 0, 0, 64, 64] ++
    pack [8, 1, 1, 1, 1, 2, 1, 1] [123, event, 2, 0x80, 25, 6, flag, 0] ++ List.replicate 24 0 ++
    pack [1, 1, 2, 2, 2] [0xC0, 0x89, 0, 512, 32] ++ List.replicate 16 0)
  block 0x0A0D0D0A (pack [4, 2, 2, 8] [0x1A2B3C4D, 1, 0, 0]) ++ block 1 (pack [2, 2, 4] [220, 0, 65535]) ++
    packet 'S'.toNat 0 ++ packet 'S'.toNat '-'.toNat ++ packet 'C'.toNat '-'.toNat

/-- A read is given the completion of a later submission. -/
theorem not_paired_overtaken : ¬ ∀ stream, (∃ text, inspect stream = .error (.valueError text)) ∨
    ∃ records, inspect stream = .ok records ∧ Paired (captured stream).1 records := by
  intro claim
  have succeeds : (inspect overtakenStream).isOk = true := by decide +kernel
  rcases claim overtakenStream with ⟨text, failed⟩ | ⟨records, inspected, paired⟩
  · rw [failed] at succeeds
    cases succeeds
  · obtain ⟨views, state, same, refines, rfl⟩ := inspect_eq_ok inspected
    have seen : (captured overtakenStream).1.map Packet.view =
        [.ok (.submission ⟨6, 25, 123⟩ (some (pack [1, 1, 2, 2, 2] [0xC0, 0x89, 0, 512, 32] ++
            List.replicate 16 0, []))), .ok (.submission ⟨6, 25, 123⟩ none),
          .ok (.completion ⟨6, 25, 123⟩ 0 [])] := by
      decide +kernel
    have at_ : ∀ index view, ((captured overtakenStream).1.map Packet.view)[index]? = some (.ok view) →
        Sees (captured overtakenStream).1 index view := by
      intro index view found
      rw [List.getElem?_map] at found
      exact Option.map_eq_some_iff.1 found
    rw [seen] at at_
    refine (paired_iff same refines).1 paired ⟨0, 1, 2, ⟨6, 25, 123⟩, _, _, _, _, by decide,
      by decide, at_ 0 _ rfl, by decide, at_ 1 _ rfl, at_ 2 _ rfl, ?_⟩
    intro other view after until_ found
    obtain rfl : other = 1 := by omega
    obtain rfl := found.unique (at_ 1 _ rfl)
    exact ⟨nofun, nofun⟩

end Trigger6.Diagnostics.Capture
