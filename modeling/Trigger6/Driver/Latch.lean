/-
This file proves the fault latch. Every thread of the driver keeps its part: it
submits a request only under `io_lock` and behind a check of the latch, and
latches a failed transfer before it does anything else on the bus. Over any run
of any entries it follows that nothing is submitted after a failed transfer or
after the latch, and that the latch is never cleared.
-/

import Trigger6.Driver.LatchProtocol
import Trigger6.Lib.Trace

namespace Trigger6.Driver

open Bytes Interaction Trace

variable {c : Config}

/-! ### What the latch promises -/

namespace Traffic

def isSubmitted : Traffic c → Bool
  | .submitted _ _ _ => true
  | _ => false

def isLatched : Traffic c → Bool
  | .latched => true
  | _ => false

def isFailed : Traffic c → Bool
  | .submitted _ transfer outcome => failedTransfer transfer outcome
  | _ => false

end Traffic

/-- The requests on record, the newest first. -/
def submissions (traffic : List (Traffic c)) : List (Traffic c) := traffic.filter Traffic.isSubmitted

/-- If a transfer has failed, the fault is latched. -/
def Settled (dev : Dev c) : Prop :=
  (∃ entry ∈ submissions dev.traffic, entry.isFailed = true) → dev.ioFaulted = true

/-- Nothing is submitted after the latch or after a failed transfer, the latch is kept, and it
is set whenever a transfer has failed and nobody is sending. -/
structure LatchInvariant (dev : Dev c) : Prop where
  quiet : NeverAfter Traffic.isLatched Traffic.isSubmitted dev.traffic
  noRetry : NeverAfter Traffic.isFailed Traffic.isSubmitted dev.traffic
  kept : (∃ entry ∈ dev.traffic, entry.isLatched = true) → dev.ioFaulted = true
  settled : dev.ioLock = none → Settled dev

/-- What the latch depends on, and the driver's binding. -/
structure SameBus (before after : Dev c) : Prop where
  ioFaulted : after.ioFaulted = before.ioFaulted
  ioLock : after.ioLock = before.ioLock
  traffic : after.traffic = before.traffic

theorem SameTraffic.sameBus {before after : Dev c} (same : SameTraffic before after) :
    SameBus before after := ⟨same.ioFaulted, same.ioLock, same.traffic⟩

section Same

variable {before after : Dev c} (same : SameBus before after)

include same

theorem Settled.of_same (settled : Settled before) : Settled after := by
  unfold Settled
  rw [same.traffic, same.ioFaulted]
  exact settled

theorem LatchInvariant.of_same (inv : LatchInvariant before) : LatchInvariant after where
  quiet := by rw [same.traffic]; exact inv.quiet
  noRetry := by rw [same.traffic]; exact inv.noRetry
  kept := by rw [same.traffic, same.ioFaulted]; exact inv.kept
  settled := by rw [same.ioLock]; exact fun free => (inv.settled free).of_same same

end Same

/-! ### One thread's part -/

/-- What holds in each phase of the protocol. -/
def LatchHolds (thread : Thread) : LatchPhase → Dev c → Prop
  | .free, dev => LatchInvariant dev ∧ dev.ioLock ≠ some thread
  | .locked, dev => LatchInvariant dev ∧ dev.ioLock = some thread ∧ Settled dev
  | .failing, dev => LatchInvariant dev ∧ dev.ioLock = some thread

/-- What a thread relies on. -/
structure LatchRely (thread : Thread) (before after : Dev c) : Prop where
  latch : before.ioFaulted = true → after.ioFaulted = true
  lock : after.ioLock = some thread ↔ before.ioLock = some thread
  sole : before.ioLock = some thread → submissions after.traffic = submissions before.traffic
  bound : thread = .bus → after.intfdata = before.intfdata
  inv : LatchInvariant before → LatchInvariant after

/-- What a thread guarantees. -/
structure LatchGuar (thread : Thread) (before after : Dev c) : Prop where
  latch : before.ioFaulted = true →
    after.ioFaulted = true ∧ submissions after.traffic = submissions before.traffic
  lock : ∀ other, other ≠ thread → (after.ioLock = some other ↔ before.ioLock = some other)
  sole : before.ioLock ≠ some thread → submissions after.traffic = submissions before.traffic
  bound : thread ≠ .bus → after.intfdata = before.intfdata
  inv : LatchInvariant before → LatchInvariant after

theorem LatchGuar.rely {first second : Thread} (different : first ≠ second) {before after : Dev c}
    (guar : LatchGuar first before after) : LatchRely second before after where
  latch := fun faulted => (guar.latch faulted).1
  lock := guar.lock second different.symm
  sole := fun held => guar.sole fun own => different (Option.some.inj (own.symm.trans held))
  bound := fun same => guar.bound fun own => different (own.trans same.symm)
  inv := guar.inv

/-- The discipline of one thread of the driver. -/
def latchDiscipline (c : Config) (thread : Thread) : Discipline (calls c) (Dev c) Env where
  exec := exec thread
  rely := LatchRely thread
  guar := LatchGuar thread
  rely_refl := fun _ => ⟨id, Iff.rfl, fun _ => rfl, fun _ => rfl, id⟩
  rely_trans := fun first second => {
    latch := fun faulted => second.latch (first.latch faulted)
    lock := second.lock.trans first.lock
    sole := fun held => (second.sole (first.lock.mpr held)).trans (first.sole held)
    bound := fun own => (second.bound own).trans (first.bound own)
    inv := fun holds => second.inv (first.inv holds) }

/-- Others do not disturb a phase. -/
theorem LatchHolds.stable {thread : Thread} (phase : LatchPhase) ⦃before after : Dev c⦄
    (rely : LatchRely thread before after) (holds : LatchHolds thread phase before) :
    LatchHolds thread phase after := by
  cases phase with
  | free => exact ⟨rely.inv holds.1, fun held => holds.2 (rely.lock.mp held)⟩
  | failing => exact ⟨rely.inv holds.1, rely.lock.mpr holds.2⟩
  | locked =>
    obtain ⟨inv, held, settled⟩ := holds
    refine ⟨rely.inv inv, rely.lock.mpr held, ?_⟩
    unfold Settled
    rw [rely.sole held]
    exact fun failed => rely.latch (settled failed)

/-- A step that changes nothing the latch depends on. -/
theorem latch_same {thread : Thread} {phase : LatchPhase} {before after : Dev c}
    (same : SameBus before after) (bound : thread ≠ .bus → after.intfdata = before.intfdata)
    (holds : LatchHolds thread phase before) :
    LatchGuar thread before after ∧ LatchHolds thread phase after := by
  refine ⟨⟨fun faulted => ⟨same.ioFaulted.trans faulted, by rw [same.traffic]⟩, fun other _ => ?_,
    fun _ => by rw [same.traffic], bound, LatchInvariant.of_same same⟩, ?_⟩
  · rw [same.ioLock]
  · cases phase with
    | free => exact ⟨holds.1.of_same same, by rw [same.ioLock]; exact holds.2⟩
    | failing => exact ⟨holds.1.of_same same, by rw [same.ioLock]; exact holds.2⟩
    | locked =>
      exact ⟨holds.1.of_same same, by rw [same.ioLock]; exact holds.2.1, holds.2.2.of_same same⟩

/-! ### The steps on the bus -/

section Steps

variable {thread : Thread} {dev : Dev c}

theorem latch_setIoFaulted {phase : LatchPhase} (holds : LatchHolds thread phase dev) :
    let after : Dev c := { dev with ioFaulted := true, traffic := .latched :: dev.traffic }
    LatchGuar thread dev after ∧
      LatchHolds thread ((latching c thread).move phase .setIoFaulted ()) after := by
  intro after
  have inv : LatchInvariant dev → LatchInvariant after := fun inv => {
    quiet := neverAfter_cons.mpr ⟨fun _ _ _ => rfl, inv.quiet⟩
    noRetry := neverAfter_cons.mpr ⟨fun _ _ _ => rfl, inv.noRetry⟩
    kept := fun _ => rfl
    settled := fun _ _ => rfl }
  refine ⟨⟨fun _ => ⟨rfl, rfl⟩, fun _ _ => Iff.rfl, fun _ => rfl, fun _ => rfl, inv⟩, ?_⟩
  cases phase with
  | free => exact ⟨inv holds.1, holds.2⟩
  | locked => exact ⟨inv holds.1, holds.2.1, fun _ => rfl⟩
  | failing => exact ⟨inv holds.1, holds.2, fun _ => rfl⟩

theorem latch_lockIo (holds : LatchHolds thread .free dev) (free : dev.ioLock = none) :
    let after : Dev c := { dev with ioLock := some thread }
    LatchGuar thread dev after ∧ LatchHolds thread .locked after := by
  intro after
  have inv : LatchInvariant dev → LatchInvariant after := fun inv => {
    quiet := inv.quiet
    noRetry := inv.noRetry
    kept := inv.kept
    settled := fun released => nomatch released }
  refine ⟨⟨fun faulted => ⟨faulted, rfl⟩, fun other different => ?_, fun _ => rfl, fun _ => rfl,
    inv⟩, inv holds.1, rfl, holds.1.settled free⟩
  rw [free]
  exact ⟨fun own => absurd (Option.some.inj own).symm different, fun own => nomatch own⟩

theorem latch_unlockIo (holds : LatchHolds thread .locked dev) :
    let after : Dev c := { dev with ioLock := none }
    LatchGuar thread dev after ∧ LatchHolds thread .free after := by
  intro after
  obtain ⟨holdsInv, held, settled⟩ := holds
  have inv : LatchInvariant dev → LatchInvariant after := fun inv => {
    quiet := inv.quiet
    noRetry := inv.noRetry
    kept := inv.kept
    settled := fun _ => settled }
  refine ⟨⟨fun faulted => ⟨faulted, rfl⟩, fun other different => ?_, fun _ => rfl, fun _ => rfl,
    inv⟩, inv holdsInv, fun own => nomatch own⟩
  rw [held]
  exact ⟨(fun own => nomatch own), fun own => absurd (Option.some.inj own).symm different⟩

/-- A request that got past its check: the fault is not latched, so no transfer has failed
before. -/
theorem latch_submitted (holds : LatchHolds thread .locked dev) (open_ : dev.ioFaulted = false)
    (transfer : Transfer) (outcome : Outcome) (data : List Byte) :
    let after : Dev c :=
      { dev with traffic := .submitted thread transfer outcome :: dev.traffic }
    LatchGuar thread dev after ∧
      LatchHolds thread (.after transfer (.returned outcome data)) after := by
  intro after
  obtain ⟨holdsInv, held, settled⟩ := holds
  have inv : LatchInvariant dev → LatchInvariant after := fun inv => {
    quiet := neverAfter_cons.mpr ⟨fun earlier member latched =>
      absurd (inv.kept ⟨earlier, member, latched⟩) (by rw [open_]; decide), inv.quiet⟩
    noRetry := neverAfter_cons.mpr ⟨fun earlier member failed => by
      have submitted : earlier.isSubmitted = true := by cases earlier <;> first | rfl | cases failed
      have latched := settled ⟨earlier, List.mem_filter.mpr ⟨member, submitted⟩, failed⟩
      exact absurd latched (by rw [open_]; decide), inv.noRetry⟩
    kept := fun ⟨entry, member, latched⟩ => by
      rcases List.mem_cons.mp member with rfl | older
      · cases latched
      · exact inv.kept ⟨entry, older, latched⟩
    settled := fun free => nomatch held.symm.trans free }
  have first : submissions after.traffic =
      .submitted thread transfer outcome :: submissions dev.traffic := rfl
  refine ⟨⟨fun faulted => absurd faulted (by rw [open_]; decide), fun _ _ => Iff.rfl,
    fun other => absurd held other, fun _ => rfl, inv⟩, ?_⟩
  unfold LatchPhase.after
  by_cases failed : failedTransfer transfer outcome = true
  · rw [show Submission.failed transfer (.returned outcome data) = true from failed, if_pos rfl]
    exact ⟨inv holdsInv, held⟩
  · rw [show Submission.failed transfer (.returned outcome data) = false from
      eq_false_of_ne_true failed, if_neg Bool.false_ne_true]
    refine ⟨inv holdsInv, held, ?_⟩
    unfold Settled
    rw [first]
    rintro ⟨entry, member, entryFailed⟩
    rcases List.mem_cons.mp member with rfl | older
    · exact absurd entryFailed failed
    · exact settled ⟨entry, older, entryFailed⟩

theorem latch_noteSent {phase : LatchPhase} (holds : LatchHolds thread phase dev) (head : HeadId)
    (frame : Frame c) :
    let after : Dev c := { dev with traffic := .rawSent head frame :: dev.traffic }
    LatchGuar thread dev after ∧ LatchHolds thread phase after := by
  intro after
  have settled : Settled dev → Settled after := id
  have inv : LatchInvariant dev → LatchInvariant after := fun inv => {
    quiet := neverAfter_cons.mpr ⟨fun _ _ _ => rfl, inv.quiet⟩
    noRetry := neverAfter_cons.mpr ⟨fun _ _ _ => rfl, inv.noRetry⟩
    kept := fun ⟨entry, member, latched⟩ => by
      rcases List.mem_cons.mp member with rfl | older
      · cases latched
      · exact inv.kept ⟨entry, older, latched⟩
    settled := fun free => settled (inv.settled free) }
  refine ⟨⟨fun faulted => ⟨faulted, rfl⟩, fun _ _ => Iff.rfl, fun _ => rfl, fun _ => rfl, inv⟩, ?_⟩
  cases phase with
  | free => exact ⟨inv holds.1, holds.2⟩
  | locked => exact ⟨inv holds.1, holds.2.1, settled holds.2.2⟩
  | failing => exact ⟨inv holds.1, holds.2⟩

/-- Every step that the protocol allows keeps the thread's part. -/
theorem latch_each (phase : LatchPhase) (op : Op c) ⦃input : Env⦄ ⦃answer : op.Answer⦄ ⦃after : Dev c⦄
    (allowed : (latching c thread).allowed phase op) (holds : LatchHolds thread phase dev)
    (answered : exec thread dev op input = some (answer, after)) :
    LatchGuar thread dev after ∧ (latching c thread).possible phase op answer ∧
      LatchHolds thread ((latching c thread).move phase op answer) after := by
  have possible : op.Possible answer := exec_possible answered
  by_cases quiet : op.Quiet
  · obtain ⟨guar, kept⟩ := latch_same (exec_offBus quiet.offBus answered).sameBus
      (fun _ => exec_intfdata quiet.bound answered) holds
    refine ⟨guar, possible, ?_⟩
    rw [(latching_quiet quiet).2 answer possible]
    exact kept
  · cases op with
    | clearIntfdata =>
      obtain ⟨-, rfl⟩ := Prod.mk.inj (Option.some.inj answered)
      have own : thread = .bus := by cases phase <;> exact allowed
      have same : SameBus dev { dev with intfdata := false } := ⟨rfl, rfl, rfl⟩
      obtain ⟨guar, kept⟩ := latch_same same (fun other => absurd own other) holds
      refine ⟨guar, possible, ?_⟩
      cases phase <;> exact kept
    | setIoFaulted =>
      obtain ⟨-, rfl⟩ := Prod.mk.inj (Option.some.inj answered)
      obtain ⟨guar, kept⟩ := latch_setIoFaulted holds
      exact ⟨guar, possible, kept⟩
    | lockIo =>
      cases phase with
      | free =>
        simp only [exec] at answered
        by_cases free : dev.ioLock = none
        · rw [if_pos free] at answered
          obtain ⟨-, rfl⟩ := Prod.mk.inj (Option.some.inj answered)
          obtain ⟨guar, kept⟩ := latch_lockIo holds free
          exact ⟨guar, possible, kept⟩
        · rw [if_neg free] at answered
          cases answered
      | locked | failing => exact allowed.elim
    | unlockIo =>
      cases phase with
      | locked =>
        obtain ⟨-, rfl⟩ := Prod.mk.inj (Option.some.inj answered)
        obtain ⟨guar, kept⟩ := latch_unlockIo holds
        exact ⟨guar, possible, kept⟩
      | free | failing => exact allowed.elim
    | submit check allocates transfer =>
      cases phase with
      | locked =>
        have refusal : ∀ submission, submission.failed transfer = false → after = dev →
            answer = submission → LatchGuar thread dev after ∧
              (latching c thread).possible .locked (.submit check allocates transfer) answer ∧
              LatchHolds thread ((latching c thread).move .locked
                (.submit check allocates transfer) answer) after := by
          rintro submission sound rfl rfl
          obtain ⟨guar, kept⟩ := latch_same ⟨rfl, rfl, rfl⟩ (fun _ => rfl) holds
          refine ⟨guar, possible, ?_⟩
          show LatchHolds thread (if _ then _ else _) _
          rw [if_neg (by rw [sound]; decide)]
          exact kept
        simp only [exec] at answered
        by_cases refused : check dev = true
        · rw [if_pos refused] at answered
          obtain ⟨same, still⟩ := Prod.mk.inj (Option.some.inj answered)
          exact refusal _ rfl still.symm same.symm
        · rw [if_neg refused] at answered
          split at answered
          · obtain ⟨same, still⟩ := Prod.mk.inj (Option.some.inj answered)
            exact refusal _ rfl still.symm same.symm
          · obtain ⟨rfl, rfl⟩ := Prod.mk.inj (Option.some.inj answered)
            have unlatched : dev.ioFaulted = false := by
              by_contra latched
              exact refused (allowed dev (eq_true_of_ne_false latched))
            obtain ⟨guar, kept⟩ := latch_submitted holds unlatched transfer _ _
            exact ⟨guar, possible, kept⟩
      | free | failing => exact allowed.elim
    | freeBulkChunk =>
      obtain ⟨-, rfl⟩ := Prod.mk.inj (Option.some.inj answered)
      have same : SameBus dev { dev with bulkChunk := false } := ⟨rfl, rfl, rfl⟩
      obtain ⟨guar, kept⟩ := latch_same same (fun _ => rfl) holds
      refine ⟨guar, possible, ?_⟩
      cases phase <;> exact kept
    | noteSent head frame =>
      obtain ⟨-, rfl⟩ := Prod.mk.inj (Option.some.inj answered)
      obtain ⟨guar, kept⟩ := latch_noteSent holds head frame
      refine ⟨guar, possible, ?_⟩
      cases phase <;> exact kept
    | _ => exact absurd (by trivial) quiet

end Steps

/-! ### All threads together -/

/-- Every thread of the driver keeps its part of the latch, whichever entries are allowed. -/
theorem latch_verified (allowed : Entry → Bool) :
    (driver c allowed).Verified (latchDiscipline c) (fun thread => LatchHolds thread .free)
      (fun thread => LatchHolds thread .free) where
  exec := fun _ => rfl
  compatible := fun different _ _ guar => guar.rely different
  stable := fun rely holds => LatchHolds.stable .free rely holds
  starts := fun {thread} {task} {dev} {after} {program} started idle => by
    obtain ⟨same, bound⟩ := startTask_sameTraffic started
    obtain ⟨guar, holds⟩ := latch_same same.sameBus (fun _ => bound) idle
    refine ⟨guar, Discipline.Safe.of_follows (LatchHolds thread) (fun phase => LatchHolds.stable phase)
      (fun phase op _ _ _ _ permitted holds answered => latch_each phase op permitted holds answered) ?_ (stays_started started) holds⟩
    rintro phase result world rfl ends
    exact ends
  retires := fun {thread} {dev} ends => by
    obtain ⟨same, bound⟩ := retireTask_sameTraffic thread dev
    exact latch_same same.sameBus (fun _ => bound) ends

/-- Nothing has been recorded yet and nobody sends. -/
theorem latch_sound {start : Dev c} (fresh : start.traffic = [])
    (unlocked : start.ioLock = none) :
    LatchInvariant start ∧ Pool.Sound (latchDiscipline c) (fun thread => LatchHolds thread .free)
      (fun thread => LatchHolds thread .free) (Pool.Config.idle start) := by
  have inv : LatchInvariant start := {
    quiet := by rw [fresh]; exact neverAfter_nil
    noRetry := by rw [fresh]; exact neverAfter_nil
    kept := by rw [fresh]; exact fun ⟨_, member, _⟩ => nomatch member
    settled := by unfold Settled; rw [fresh]; exact fun _ ⟨_, member, _⟩ => nomatch member }
  exact ⟨inv, fun thread => ⟨inv, fun held => nomatch unlocked.symm.trans held⟩⟩

/-! ### The transfer functions on their own -/

/-- No step clears the latch. -/
theorem exec_ioFaulted {thread : Thread} {dev after : Dev c} {op : Op c} {env : Env}
    {answer : op.Answer} (answered : exec thread dev op env = some (answer, after))
    (faulted : dev.ioFaulted = true) : after.ioFaulted = true := by
  by_cases off : op.OffBus
  · exact (exec_offBus off answered).ioFaulted.trans faulted
  · cases op with
    | lockIo | submit =>
      simp only [exec] at answered
      split at answered
      · cases answered
        exact faulted
      · first
        | cases answered
        | split at answered <;> cases answered <;> exact faulted
    | setIoFaulted =>
      cases answered
      rfl
    | unlockIo | freeBulkChunk | noteSent =>
      cases answered
      exact faulted
    | _ => exact absurd (by trivial) off

/-- Only a request is put on record as one. -/
theorem exec_submissions {thread : Thread} {dev after : Dev c} {op : Op c} {env : Env}
    {answer : op.Answer} (other : ∀ check allocates transfer, op ≠ .submit check allocates transfer)
    (answered : exec thread dev op env = some (answer, after)) :
    submissions after.traffic = submissions dev.traffic := by
  by_cases off : op.OffBus
  · rw [(exec_offBus off answered).traffic]
  · cases op with
    | submit check allocates transfer => exact absurd rfl (other check allocates transfer)
    | lockIo =>
      simp only [exec] at answered
      split at answered <;> cases answered
      rfl
    | setIoFaulted | unlockIo | freeBulkChunk | noteSent =>
      cases answered
      rfl
    | _ => exact absurd (by trivial) off

/-- What a transfer function on its own keeps: between two transfers every failure is
latched. -/
def SettledIn : LatchPhase → Dev c → Prop
  | .failing, _ => True
  | _, dev => Settled dev

theorem settledIn_each {thread : Thread} {dev : Dev c} (phase : LatchPhase) (op : Op c)
    ⦃input : Env⦄ ⦃answer : op.Answer⦄ ⦃after : Dev c⦄
    (allowed : (latching c thread).allowed phase op) (settled : SettledIn phase dev)
    (answered : exec thread dev op input = some (answer, after)) :
    SettledIn ((latching c thread).move phase op answer) after := by
  by_cases request : ∃ check allocates transfer, op = .submit check allocates transfer
  · obtain ⟨check, allocates, transfer, rfl⟩ := request
    cases phase with
    | free | failing => exact allowed.elim
    | locked =>
      show SettledIn (if _ then _ else _) after
      by_cases failed : Submission.failed transfer answer = true
      · rw [if_pos failed]
        trivial
      · rw [if_neg failed]
        rintro ⟨entry, member, entryFailed⟩
        simp only [exec] at answered
        split at answered
        · cases answered
          exact settled ⟨entry, member, entryFailed⟩
        · split at answered <;> cases answered
          · exact settled ⟨entry, member, entryFailed⟩
          · rcases List.mem_cons.mp member with rfl | older
            · exact absurd entryFailed failed
            · exact settled ⟨entry, older, entryFailed⟩
  · have same := exec_submissions (fun check allocates transfer is =>
      request ⟨check, allocates, transfer, is⟩) answered
    have kept : Settled dev → Settled after := by
      intro holds failed
      rw [same] at failed
      exact exec_ioFaulted answered (holds failed)
    cases phase with
    | failing =>
      cases op with
      | setIoFaulted =>
        cases answered
        exact fun _ => rfl
      | _ => trivial
    | free | locked =>
      cases op with
      | submit check allocates transfer => exact absurd ⟨_, _, _, rfl⟩ request
      | _ => exact kept settled

/-- A transfer function that returns has latched every transfer of its own that failed. -/
theorem settled_of_stays {Result : Type} {thread : Thread} {program : Prog c Result}
    (stays : program.Stays (latching c thread) .locked) {dev after : Dev c} (settled : Settled dev)
    {script : Nat → Env} {result : Result}
    (ran : program.eval (exec thread) dev script = some (result, after)) : Settled after := by
  have safe : (Discipline.sequential (exec (c := c) thread) fun _ _ => True).Safe
      (fun _ later => Settled later) program dev := by
    refine Discipline.Safe.of_follows SettledIn (fun phase _ _ same holds => same ▸ holds)
      (fun phase op _ _ _ _ permitted holds answered =>
        ⟨trivial, exec_possible answered, settledIn_each phase op permitted holds answered⟩)
      ?_ stays settled
    rintro phase result world rfl ends
    exact ends
  exact safe.eval ran

/-! ### Suspend and resume -/

/-- What the bus thread needs of the others while it suspends or resumes. -/
def busDiscipline (c : Config) : Discipline (calls c) (Dev c) Env where
  exec := exec .bus
  rely := fun before after =>
    (before.ioFaulted = true → after.ioFaulted = true) ∧ after.intfdata = before.intfdata
  guar := fun _ _ => True
  rely_refl := fun _ => ⟨id, rfl⟩
  rely_trans := fun first second => ⟨fun faulted => second.1 (first.1 faulted), second.2.trans first.2⟩

/-- A latched device stays latched whatever the bus thread runs. -/
theorem latched_safe {Result : Type} (program : Prog c Result) {dev : Dev c}
    (faulted : dev.ioFaulted = true) :
    (busDiscipline c).Safe (fun _ later => later.ioFaulted = true) program dev :=
  Discipline.Safe.of_only (D := busDiscipline c) (fun rely holds => rely.1 holds)
    (fun _ _ _ _ _ _ holds answered => ⟨trivial, exec_ioFaulted answered holds⟩)
    (Program.only_any program) faulted

/-- Suspend and resume latch the fault of a bound device first. -/
theorem hostDown_safe {rest : Prog c Unit} {dev : Dev c} (bound : dev.intfdata = true) :
    (busDiscipline c).Safe (fun _ later => later.ioFaulted = true)
      (readDev >>= fun seen => if !seen.intfdata then pure () else latchHostDown >>= fun _ => rest)
      dev := by
  intro later rely input answer after answered
  obtain ⟨rfl, rfl⟩ := Prod.mk.inj (Option.some.inj answered)
  refine ⟨trivial, ?_⟩
  show (busDiscipline c).Safe _ (if _ then _ else _) later
  rw [if_neg (by rw [rely.2, bound]; decide)]
  intro last _ input answer after answered
  obtain ⟨-, rfl⟩ := Prod.mk.inj (Option.some.inj answered)
  exact ⟨trivial, latched_safe _ rfl⟩

/-! ### The latch over whole runs -/

/-- The entries that latch the fault themselves. -/
def Entry.hostDown : Entry → Bool
  | .suspend | .resume => true
  | _ => false

theorem hostDown_started {entry : Entry} (latches : entry.hostDown = true) {dev : Dev c}
    (bound : dev.intfdata = true) :
    (busDiscipline c).Safe (fun _ later => later.ioFaulted = true) entry.program dev := by
  cases entry with
  | suspend => exact hostDown_safe bound
  | resume => exact hostDown_safe bound
  | _ => cases latches

/-- A suspend or resume that was started on a bound device has latched the fault by the time
the bus thread is idle again. -/
theorem hostDown_latches {allowed : Entry → Bool}
    {config : Pool.Config (calls c) (Dev c) Thread}
    (sound : Pool.Sound (latchDiscipline c) (fun thread => LatchHolds thread .free)
      (fun thread => LatchHolds thread .free) config)
    {entry : Entry} (latches : entry.hostDown = true) (permitted : allowed entry = true)
    (idle : config.running .bus = none) (bound : config.world.intfdata = true)
    (choices : List DriverChoice) :
    let last := (driver c allowed).run config (.start .bus (.entry entry) :: choices)
    last.running .bus = none → last.world.ioFaulted = true := by
  intro last ended
  have own : entry.on .bus = true := by cases entry <;> first | rfl | cases latches
  have started : (driver c allowed).step config (.start .bus (.entry entry)) =
      config.move .bus config.world (some entry.program) := by
    refine Pool.step_start idle ?_
    show (if entry.on .bus && allowed entry then some (config.world, entry.program) else none) = _
    rw [own, permitted]
    rfl
  have owes : Pool.Owes (busDiscipline c) (fun later => later.ioFaulted = true) .bus
      ((driver c allowed).step config (.start .bus (.entry entry))) := by
    rw [started]
    exact .inr ⟨_, Pool.move_running .., hostDown_started latches bound⟩
  have soundAfter := ((latch_verified allowed).step sound (.start .bus (.entry entry))).1
  have others : ∀ other : Thread, other ≠ .bus → ∀ ⦃before after : Dev c⦄,
      LatchGuar other before after → (busDiscipline c).rely before after :=
    fun other different before after guar =>
      ⟨fun faulted => (guar.latch faulted).1, guar.bound different⟩
  rcases (latch_verified allowed).run_owes rfl others
    (fun other before after guar faulted => (guar.latch faulted).1) choices soundAfter owes with
    latched | ⟨program, running, -⟩
  · exact latched
  · exact nomatch ended.symm.trans running

/-- The fault latch, over every run of the driver from a device with nothing on record yet, and
at every point of it. A failed transfer is latched before anything else is submitted; after the
latch nothing is submitted, the rest of a transfer already begun and the final monitor-off
included; the latch is never cleared; suspend and resume set it; and each transfer function
that returns has latched its own failures. -/
theorem fault_latch (allowed : Entry → Bool) (start : Dev c) (fresh : start.traffic = [])
    (unlocked : start.ioLock = none) (before after : List DriverChoice) :
    let middle := runDriver allowed start before
    LatchInvariant middle.world ∧
    (middle.world.ioFaulted = true →
      let last := (driver c allowed).run middle after
      last.world.ioFaulted = true ∧
        submissions last.world.traffic = submissions middle.world.traffic) ∧
    (∀ entry : Entry, entry.hostDown = true → allowed entry = true →
      middle.running .bus = none → middle.world.intfdata = true →
      let last := (driver c allowed).run middle (.start .bus (.entry entry) :: after)
      last.running .bus = none → last.world.ioFaulted = true) ∧
    ∀ (thread : Thread) (dev last : Dev c) (script : Nat → Env), Settled dev →
      (∀ request value index data result,
        (ctrlOut request value index data).run.eval (exec thread) dev script =
          some (result, last) → Settled last) ∧
      (∀ request value index size result,
        (ctrlIn request value index size).run.eval (exec thread) dev script =
          some (result, last) → Settled last) ∧
      (∀ src len result,
        (bulkWrite src len).run.eval (exec thread) dev script = some (result, last) →
          Settled last) := by
  intro middle
  obtain ⟨inv, sound⟩ := latch_sound fresh unlocked
  have verified := latch_verified (c := c) allowed
  have soundMiddle := verified.run_sound before sound
  refine ⟨?_, fun faulted => ?_, fun entry latches permitted idle bound => ?_,
    fun thread dev last script settled => ⟨?_, ?_, ?_⟩⟩
  · exact verified.run_invariant (fun guar => guar.inv) before sound inv
  · let frozen : Dev c → Prop := fun later => later.ioFaulted = true ∧
      submissions later.traffic = submissions middle.world.traffic
    have kept : ∀ {thread : Thread} {world later : Dev c}, LatchGuar thread world later →
        frozen world → frozen later := fun guar holds =>
      ⟨(guar.latch holds.1).1, (guar.latch holds.1).2.trans holds.2⟩
    exact verified.run_invariant kept after soundMiddle ⟨faulted, rfl⟩
  · exact hostDown_latches soundMiddle latches permitted idle bound after
  · exact fun request value index data result ran =>
      settled_of_stays (stays_ctrlOut request value index data) settled ran
  · exact fun request value index size result ran =>
      settled_of_stays (stays_ctrlIn request value index size) settled ran
  · exact fun src len result ran => settled_of_stays (stays_bulkWrite src len) settled ran

/-- Suspending the sample device latches its fault. -/
theorem sampleSuspend_latched :
    ((driver sampleConfig fun _ => true).run (runDriver (fun _ => true) (.probed sampleConfig) [])
      (.start .bus (.entry .suspend) :: List.replicate 18 (.step .bus {}))).world.ioFaulted = true :=
  (fault_latch (fun _ => true) (.probed sampleConfig) rfl rfl []
    (List.replicate 18 (.step .bus {}))).2.2.1 .suspend rfl rfl rfl rfl rfl

end Trigger6.Driver
