/-
This file keeps the accounts of the probe: every resource that is taken and
every one that is given back, in order, and the fields of the device that say
whether there is something to give back. A resource that the code gives back
without a look at its field, or whose field it leaves as it is, would be given
back twice here if the code did.

A probe that fails, or only queries, ends with every account settled. One that
succeeds leaves what disconnect settles.
-/

import Trigger6.Probe.Probe

namespace Trigger6.Probe

open Bytes Driver Interaction

/-! ### Accounts -/

/-- What the driver gives back itself; the rest goes with the display device. -/
def Resource.owned : Resource → Bool
  | .usbDevice | .dmaDevice | .workqueue | .bulkChunk | .buffer _ _ | .jpegDevice _ => true
  | _ => false

/-- Resources that are still named by their field when they were given back. -/
def Resource.keptNamed : Resource → Bool
  | .usbDevice | .dmaDevice => true
  | _ => false

inductive Posting
  | granted (resource : Resource)
  | returned (resource : Resource)
deriving DecidableEq

def Posting.resource : Posting → Resource
  | .granted resource => resource
  | .returned resource => resource

/-- A device with its accounts: the fields that name a resource, what was posted, and the work
items and timers that are queued or armed. -/
structure Books where
  dev : Probing
  named : Resource → Bool
  postings : List Posting
  armed : HeadId → Work → Bool

namespace Books

/-- What was posted about a resource. -/
def about (books : Books) (resource : Resource) : List Posting :=
  books.postings.filter fun posting => posting.resource = resource

def grant (books : Books) (resource : Resource) : Books :=
  { books with
    named := Function.update books.named resource true
    postings := books.postings ++ [.granted resource] }

def give (books : Books) (resource : Resource) : Books :=
  { books with postings := books.postings ++ [.returned resource] }

def forget (books : Books) (resource : Resource) : Books :=
  { books with named := Function.update books.named resource false }

/-- How a resource is given back: the reference to the USB device is put in any case. -/
def giveBack (books : Books) (resource : Resource) : Books :=
  if resource = .usbDevice ∨ books.named resource = true then
    if resource.keptNamed then books.give resource else (books.give resource).forget resource
  else books

end Books

/-- What the environment does at one operation: the answer, and what users of a device that is
being registered arm. -/
structure Users where
  env : Env
  arming : HeadId → Work → Bool

/-- What an operation does to the accounts, by its answer. -/
def Books.account (books : Books) (users : Users) : (op : Op) → Op.Answer op → Books
  | .acquire resource, refused =>
    { (if refused.isNone then books.grant resource else books) with
      armed := if resource = .drmRegistration then users.arming else books.armed }
  | .take resource, _ => books.grant resource
  | .release resource, _ => books.giveBack resource
  | .cancelSync head work, _ =>
    { books with armed := fun other item =>
        if other = head ∧ item = work then false else books.armed other item }
  | _, _ => books

/-- The probe's operations, accounted for. -/
def accounted : Executor calls Books Users := fun books op users =>
  (exec books.dev op users.env).map fun (answer, dev) =>
    (answer, { books.account users op answer with dev })

/-- The accounts do not change what the probe does. -/
theorem eval_of_accounted {Result : Type} {program : Prog Result} {books after : Books}
    {script : Nat → Users} {result : Result}
    (ran : program.eval accounted books script = some (result, after)) :
    program.eval exec books.dev (fun index => (script index).env) = some (result, after.dev) := by
  induction program generalizing books script with
  | done value =>
    obtain ⟨rfl, rfl⟩ := Prod.mk.inj (Option.some.inj ran)
    rfl
  | call op next inductionHypothesis =>
    rw [Program.eval, accounted] at ran
    rw [Program.eval]
    cases stepped : exec books.dev op (script 0).env with
    | none =>
      rw [stepped] at ran
      cases ran
    | some pair =>
      rw [stepped] at ran
      exact inductionHypothesis pair.1 ran

/-! ### States of an account -/

section States

variable {books : Books} {resource : Resource}

def Books.Untouched (books : Books) (resource : Resource) : Prop :=
  books.named resource = false ∧ books.about resource = []

def Books.Held (books : Books) (resource : Resource) : Prop :=
  books.named resource = true ∧ books.about resource = [.granted resource]

/-- Nothing was taken, or it was and was given back once. -/
def Books.Settled (books : Books) (resource : Resource) : Prop :=
  books.about resource = [] ∨ books.about resource = [.granted resource, .returned resource]

/-- What has to be given back if it was taken. The reference to the USB device is put in any case,
so that it must have been taken. -/
def Books.Due (books : Books) (resource : Resource) : Prop :=
  (books.Untouched resource ∧ resource ≠ .usbDevice) ∨ books.Held resource

/-- Only these resources may have been taken, and none was given back. -/
def Stage (taken : List Resource) (books : Books) : Prop :=
  ∀ resource, resource.owned = true →
    (resource ∈ taken → books.Due resource) ∧ (resource ∉ taken → books.Untouched resource)

/-- Only these resources have still to be given back. -/
def Closing (pending : List Resource) (books : Books) : Prop :=
  ∀ resource, resource.owned = true →
    (resource ∈ pending → books.Due resource) ∧ (resource ∉ pending → books.Settled resource)

/-- Nothing is queued or armed. -/
def Still (books : Books) : Prop := ∀ head work, books.armed head work = false

/-- Accounts that a disconnect leaves: all settled, and nothing bound to the interface. -/
structure Cleared (books : Books) : Prop where
  settled : ∀ resource, resource.owned = true → books.Settled resource
  unbound : books.dev.held .intfdata = false

/-- After a failed probe nothing is queued or armed either. -/
structure Clean (books : Books) : Prop extends Cleared books where
  still : Still books

theorem about_append (books : Books) (posting : Posting) (resource : Resource) :
    { books with postings := books.postings ++ [posting] }.about resource =
      books.about resource ++ if posting.resource = resource then [posting] else [] := by
  rw [Books.about, List.filter_append, List.filter_cons, List.filter_nil]
  simp only [decide_eq_true_eq]
  rfl

theorem Books.about_grant (books : Books) (taken resource : Resource) :
    (books.grant taken).about resource =
      books.about resource ++ if taken = resource then [.granted taken] else [] :=
  about_append books (.granted taken) resource

theorem Books.about_give (books : Books) (given resource : Resource) :
    (books.give given).about resource =
      books.about resource ++ if given = resource then [.returned given] else [] :=
  about_append books (.returned given) resource

/-- Taking one resource leaves the accounts of the others. -/
theorem Books.untouched_grant {taken : Resource} (other : taken ≠ resource)
    (untouched : books.Untouched resource) : (books.grant taken).Untouched resource := by
  refine ⟨(Function.update_of_ne other.symm _ _).trans untouched.1, ?_⟩
  rw [about_grant, if_neg other, List.append_nil]
  exact untouched.2

theorem Books.held_grant {taken : Resource} (other : taken ≠ resource)
    (held : books.Held resource) : (books.grant taken).Held resource := by
  refine ⟨(Function.update_of_ne other.symm _ _).trans held.1, ?_⟩
  rw [about_grant, if_neg other, List.append_nil]
  exact held.2

theorem Books.Untouched.grant (untouched : books.Untouched resource) :
    (books.grant resource).Held resource := by
  refine ⟨Function.update_self _ _ _, ?_⟩
  rw [about_grant, if_pos rfl, untouched.2, List.nil_append]

theorem Books.due_grant {taken : Resource} (other : taken ≠ resource) (due : books.Due resource) :
    (books.grant taken).Due resource :=
  due.imp (And.imp_left (untouched_grant other)) (held_grant other)

/-- The same accounts. -/
structure Books.Same (books after : Books) : Prop where
  named : after.named = books.named
  postings : after.postings = books.postings

theorem Books.Same.untouched {after : Books} (same : books.Same after)
    (untouched : books.Untouched resource) : after.Untouched resource := by
  rw [Untouched, about, same.named, same.postings]
  exact untouched

theorem Books.Same.heldIn {after : Books} (same : books.Same after)
    (held : books.Held resource) : after.Held resource := by
  rw [Held, about, same.named, same.postings]
  exact held

theorem Books.Same.due {after : Books} (same : books.Same after) (due : books.Due resource) :
    after.Due resource :=
  due.imp (And.imp_left same.untouched) same.heldIn

theorem Stage.same {taken : List Resource} {after : Books} (stage : Stage taken books)
    (same : books.Same after) : Stage taken after := fun resource owned =>
  ⟨fun inside => same.due ((stage resource owned).1 inside),
    fun out => same.untouched ((stage resource owned).2 out)⟩

theorem Closing.same {pending : List Resource} {after : Books} (closing : Closing pending books)
    (same : books.Same after) : Closing pending after := fun resource owned =>
  ⟨fun inside => same.due ((closing resource owned).1 inside), fun out => by
    rw [Books.Settled, Books.about, same.postings]
    exact (closing resource owned).2 out⟩

/-- More resources may have been taken, if the reference to the device is not one of them. -/
theorem Stage.mono {taken more : List Resource} (stage : Stage taken books)
    (sub : taken ⊆ more) (device : .usbDevice ∈ more → .usbDevice ∈ taken) : Stage more books := by
  intro resource owned
  by_cases inside : resource ∈ taken
  · exact ⟨fun _ => (stage resource owned).1 inside, fun out => absurd (sub inside) out⟩
  · have untouched := (stage resource owned).2 inside
    exact ⟨fun more => Or.inl ⟨untouched, fun same => inside (same ▸ device (same ▸ more))⟩,
      fun _ => untouched⟩

theorem Stage.closing {taken : List Resource} (stage : Stage taken books) :
    Closing taken books := fun resource owned =>
  ⟨(stage resource owned).1, fun out => Or.inl ((stage resource owned).2 out).2⟩

/-- One more resource is taken. -/
theorem Stage.grant {taken : List Resource} (stage : Stage taken books) (fresh : resource ∉ taken) :
    Stage (resource :: taken) (books.grant resource) := by
  intro other owned
  by_cases same : resource = other
  · subst same
    exact ⟨fun _ => Or.inr ((stage resource owned).2 fresh).grant,
      fun out => absurd List.mem_cons_self out⟩
  · refine ⟨fun inside => ?_, fun out => ?_⟩
    · rcases List.mem_cons.1 inside with equal | before
      · exact absurd equal.symm same
      · exact Books.due_grant same ((stage other owned).1 before)
    · exact Books.untouched_grant same
        ((stage other owned).2 fun before => out (List.mem_cons_of_mem _ before))

/-- What the display device keeps is not accounted for. -/
theorem Stage.grant_other {taken : List Resource} (stage : Stage taken books)
    (other : resource.owned = false) : Stage taken (books.grant resource) := by
  intro owned isOwned
  have apart : resource ≠ owned := fun same => by
    rw [same, isOwned] at other
    cases other
  exact ⟨fun inside => Books.due_grant apart ((stage owned isOwned).1 inside),
    fun out => Books.untouched_grant apart ((stage owned isOwned).2 out)⟩

/-- Giving one resource back settles its account and leaves the others. -/
theorem Books.about_giveBack (books : Books) (given resource : Resource) :
    (books.giveBack given).about resource = books.about resource ++
      if given = resource ∧ (given = .usbDevice ∨ books.named given = true) then [.returned given]
      else [] := by
  rw [giveBack]
  by_cases gives : given = .usbDevice ∨ books.named given = true
  · have posted : (if given.keptNamed then books.give given else (books.give given).forget given).about
        resource = (books.give given).about resource := by
      split <;> rfl
    rw [if_pos gives, posted, about_give]
    simp only [gives, and_true]
  · rw [if_neg gives, if_neg fun both => gives both.2, List.append_nil]

theorem Books.named_giveBack {given : Resource} (other : given ≠ resource) :
    (books.giveBack given).named resource = books.named resource := by
  rw [giveBack]
  split
  · split
    · rfl
    · exact Function.update_of_ne other.symm _ _
  · rfl

theorem Books.Due.giveBack (due : books.Due resource) :
    (books.giveBack resource).Settled resource := by
  rw [Settled, about_giveBack]
  rcases due with ⟨untouched, notDevice⟩ | held
  · rw [if_neg fun both => both.2.elim notDevice fun named =>
      absurd (untouched.1.symm.trans named) (by decide), untouched.2]
    exact Or.inl rfl
  · rw [if_pos ⟨rfl, Or.inr held.1⟩, held.2]
    exact Or.inr rfl

theorem Books.giveBack_other {given : Resource} (other : given ≠ resource) :
    (books.giveBack given).about resource = books.about resource ∧
      (books.giveBack given).named resource = books.named resource := by
  refine ⟨?_, named_giveBack other⟩
  rw [about_giveBack, if_neg fun both => other both.1, List.append_nil]

theorem Books.due_giveBack {given : Resource} (other : given ≠ resource)
    (due : books.Due resource) : (books.giveBack given).Due resource := by
  obtain ⟨about, named⟩ := @giveBack_other books resource given other
  rw [Due, Untouched, Held, about, named]
  exact due

theorem Books.settled_giveBack {given : Resource} (other : given ≠ resource)
    (settled : books.Settled resource) : (books.giveBack given).Settled resource := by
  rw [Settled, (@giveBack_other books resource given other).1]
  exact settled

theorem Closing.giveBack {pending : List Resource} (closing : Closing (resource :: pending) books)
    (once : resource ∉ pending) : Closing pending (books.giveBack resource) := by
  intro other owned
  by_cases same : resource = other
  · subst same
    exact ⟨fun inside => absurd inside once,
      fun _ => ((closing resource owned).1 List.mem_cons_self).giveBack⟩
  · refine ⟨fun inside => ?_, fun out => ?_⟩
    · exact Books.due_giveBack same ((closing other owned).1 (List.mem_cons_of_mem _ inside))
    · refine Books.settled_giveBack same ((closing other owned).2 fun inside => ?_)
      rcases List.mem_cons.1 inside with equal | before
      · exact same equal.symm
      · exact out before

theorem Closing.giveBack_other {pending : List Resource} (closing : Closing pending books)
    (other : resource.owned = false) : Closing pending (books.giveBack resource) := by
  intro owned isOwned
  have apart : resource ≠ owned := fun same => by
    rw [same, isOwned] at other
    cases other
  exact ⟨fun inside => Books.due_giveBack apart ((closing owned isOwned).1 inside),
    fun out => Books.settled_giveBack apart ((closing owned isOwned).2 out)⟩

end States

/-! ### Steps that take nothing -/

/-- Operations that take and give back nothing. -/
def Op.plain : Op → Prop
  | .acquire _ | .take _ | .release _ | .cancelSync _ _ => False
  | _ => True

/-- The accounts at one point of the probe: what may have been taken, that the device is bound to
the interface, and that nothing is queued or armed. -/
structure Bound (taken : List Resource) (books : Books) : Prop where
  stage : Stage taken books
  bound : books.dev.held .intfdata = true
  still : Still books

theorem Bound.same {taken : List Resource} {books after : Books} (bound : Bound taken books)
    (same : books.Same after) (held : after.dev.held = books.dev.held)
    (armed : after.armed = books.armed) : Bound taken after where
  stage := bound.stage.same same
  bound := held ▸ bound.bound
  still := by
    rw [Still, armed]
    exact bound.still

theorem accounted_plain {op : Op} (plain : op.plain) (books : Books) (users : Users) :
    ∃ answer after, accounted books op users = some (answer, after) ∧ books.Same after ∧
      after.dev.held = books.dev.held ∧ after.armed = books.armed := by
  cases op with
  | acquire _ | take _ | release _ | cancelSync _ _ => exact plain.elim
  | _ => exact ⟨_, _, rfl, ⟨rfl, rfl⟩, rfl, rfl⟩

/-- A resource is refused, which changes nothing, or granted. -/
theorem accounted_acquire (resource : Resource) (books : Books) (users : Users) :
    ∃ refused after, accounted books (.acquire resource) users = some (refused, after) ∧
      (resource ≠ .drmRegistration → after.armed = books.armed) ∧
      ((refused.isSome = true ∧ books.Same after ∧ after.dev.held = books.dev.held) ∨
        (refused = none ∧ (books.grant resource).Same after ∧
          after.dev.held = Function.update books.dev.held resource true)) := by
  cases refused : users.env.status with
  | some errno =>
    have done : exec books.dev (.acquire resource) users.env = some (some errno, books.dev) := by
      rw [exec]
      simp only [refused]
    refine ⟨some errno, { books.account users (.acquire resource) (some errno) with dev := books.dev },
      ?_, fun other => if_neg other, Or.inl ⟨rfl, ⟨rfl, rfl⟩, rfl⟩⟩
    rw [accounted, done]
    rfl
  | none =>
    have done : exec books.dev (.acquire resource) users.env = some (none,
        { books.dev with held := Function.update books.dev.held resource true }) := by
      rw [exec]
      simp only [refused]
    refine ⟨none, { books.account users (.acquire resource) none with
      dev := { books.dev with held := Function.update books.dev.held resource true } },
      ?_, fun other => if_neg other, Or.inr ⟨rfl, ⟨rfl, rfl⟩, rfl⟩⟩
    rw [accounted, done]
    rfl

/-- A part of the probe that takes some resources more. -/
def Takes {Value : Type} (start finish : List Resource) (program : Fallible Value) : Prop :=
  ∀ books, Bound start books → Ends accounted (fun _ after => Bound finish after) program.run books

section Takes

variable {First Second : Type} {start middle finish : List Resource}

theorem takes_plain {program : Fallible First} (only : program.run.Only Op.plain) :
    Takes start start program := by
  intro books bound
  refine Ends.of_only (fun op plain books bound users => ?_) only bound
  obtain ⟨answer, after, answered, same, held, armed⟩ := accounted_plain plain books users
  exact ⟨answer, after, answered, bound.same same held armed⟩

theorem Takes.mono {program : Fallible First} (takes : Takes start middle program)
    (sub : middle ⊆ finish) (device : .usbDevice ∈ finish → .usbDevice ∈ middle) :
    Takes start finish program := fun books bound =>
  (takes books bound).mono fun _ _ after => ⟨after.stage.mono sub device, after.bound, after.still⟩

theorem Takes.bind {program : Fallible First} {rest : First → Fallible Second}
    (first : Takes start middle program) (second : ∀ value, Takes middle finish (rest value))
    (sub : middle ⊆ finish) (device : .usbDevice ∈ finish → .usbDevice ∈ middle) :
    Takes start finish (program >>= rest) := by
  intro books bound
  refine Ends.tryBind ((first books bound).mono fun result after still => ?_)
  cases result with
  | ok value => exact second value after still
  | error failure => exact ⟨still.stage.mono sub device, still.bound, still.still⟩

/-- A failure becomes another. -/
theorem Takes.orElse {program : Fallible First} {errno : Errno} (takes : Takes start finish program) :
    Takes start finish (tryCatch program fun _ => throw errno) := by
  intro books bound
  refine Ends.tryCatch ((takes books bound).mono fun result after still => ?_)
  cases result with
  | ok value => exact still
  | error failure => exact still

/-- One resource is asked for. -/
theorem asks_ends {resource : Resource} {books : Books} (bound : Bound start books)
    (fresh : resource ∉ start) (other : resource ≠ .usbDevice) (unseen : resource ≠ .drmRegistration) :
    Ends accounted (fun _ after => Bound (resource :: start) after)
      (act (.acquire resource)) books := by
  refine Ends.perform fun users => ?_
  obtain ⟨refused, after, answered, armed, what⟩ := accounted_acquire resource books users
  refine ⟨refused, after, answered, ?_⟩
  have still : Still after := by
    rw [Still, armed unseen]
    exact bound.still
  rcases what with ⟨-, same, held⟩ | ⟨-, same, held⟩
  · refine ⟨(bound.stage.same same).mono (List.subset_cons_self _ _) fun inside => ?_,
      held ▸ bound.bound, still⟩
    exact (List.mem_cons.1 inside).resolve_left fun equal => other equal.symm
  · refine ⟨(bound.stage.grant fresh).same same, ?_, still⟩
    rw [held, Function.update_apply]
    split
    · rfl
    · exact bound.bound

/-- What the display device keeps is asked for. -/
theorem asks_other_ends {resource : Resource} {books : Books} (bound : Bound start books)
    (other : resource.owned = false) (unseen : resource ≠ .drmRegistration) :
    Ends accounted (fun _ after => Bound start after) (act (.acquire resource)) books := by
  refine Ends.perform fun users => ?_
  obtain ⟨refused, after, answered, armed, what⟩ := accounted_acquire resource books users
  refine ⟨refused, after, answered, ?_⟩
  have still : Still after := by
    rw [Still, armed unseen]
    exact bound.still
  rcases what with ⟨-, same, held⟩ | ⟨-, same, held⟩
  · exact ⟨bound.stage.same same, held ▸ bound.bound, still⟩
  · refine ⟨(bound.stage.grant_other other).same same, ?_, still⟩
    rw [held, Function.update_apply]
    split
    · rfl
    · exact bound.bound

theorem takes_lift {program : Prog First} (ends : ∀ books, Bound start books →
    Ends accounted (fun _ after => Bound finish after) program books) :
    Takes start finish (lift program) := fun books bound =>
  Ends.lift (ends books bound)

theorem takes_pure {value : First} : Takes start start (pure value : Fallible First) :=
  fun _ bound => bound

theorem takes_throw {errno : Errno} : Takes start start (throw errno : Fallible First) :=
  fun _ bound => bound

theorem takes_acquire {resource : Resource} (fresh : resource ∉ start)
    (other : resource ≠ .usbDevice) (unseen : resource ≠ .drmRegistration) :
    Takes start (resource :: start) (acquire resource) := by
  have grown : .usbDevice ∈ resource :: start → Resource.usbDevice ∈ resource :: start := id
  refine Takes.bind (takes_lift fun books bound => asks_ends bound fresh other unseen)
    (fun refused => ?_) (List.Subset.refl _) grown
  cases refused with
  | none => exact takes_pure
  | some errno => exact takes_throw

theorem takes_allocate {resource : Resource} (fresh : resource ∉ start)
    (other : resource ≠ .usbDevice) (unseen : resource ≠ .drmRegistration) :
    Takes start (resource :: start) (allocate resource) := by
  refine Takes.bind (takes_lift fun books bound => asks_ends bound fresh other unseen)
    (fun refused => ?_) (List.Subset.refl _) id
  show Takes _ _ (if refused.isSome = true then _ else _)
  split
  · exact takes_throw
  · exact takes_pure

theorem takes_acquire_other {resource : Resource} (other : resource.owned = false)
    (unseen : resource ≠ .drmRegistration) : Takes start start (acquire resource) := by
  refine Takes.bind (takes_lift fun books bound => asks_other_ends bound other unseen)
    (fun refused => ?_) (List.Subset.refl _) id
  cases refused with
  | none => exact takes_pure
  | some errno => exact takes_throw

end Takes

/-! ### Requests take nothing -/

section Requests

open Program

variable {params : Params}

theorem act_plain {op : Op} (plain : op.plain) : (act op).Only Op.plain :=
  ⟨plain, fun _ => trivial⟩

theorem lift_plain {op : Op} (plain : op.plain) :
    (lift (act op) : Fallible (Op.Answer op)).run.Only Op.plain :=
  (only_lift _).2 (act_plain plain)

theorem finishControl_plain (transfer : Transfer) (answer : Outcome × List Byte) :
    (finishControl transfer answer).run.Only Op.plain :=
  Only.ite trivial (Only.tryBind (lift_plain trivial) fun _ => trivial)

theorem ctrlOut_plain (request value index : Nat) (data : List Byte) :
    (ctrlOut params request value index data).run.Only Op.plain := by
  refine Only.ite trivial (Only.tryBind (lift_plain trivial) fun dev => Only.ite trivial ?_)
  refine Only.tryBind (lift_plain trivial) fun allocated => Only.ite trivial ?_
  refine Only.tryBind (lift_plain trivial) fun answer => ?_
  exact Only.tryBind (finishControl_plain _ _) fun _ => trivial

theorem ctrlIn_plain (asked : Asked) (target : Nat) :
    (ctrlIn params asked target).run.Only Op.plain := by
  refine Only.tryBind (lift_plain trivial) fun dev => Only.ite trivial (Only.ite ?_ ?_)
  · exact Only.tryBind (lift_plain trivial) fun _ => trivial
  · refine Only.ite trivial (Only.tryBind (lift_plain trivial) fun allocated => Only.ite trivial ?_)
    exact Only.tryBind (lift_plain trivial) fun _ => finishControl_plain _ _

theorem queryRam_plain : (queryRam params).run.Only Op.plain := by
  refine Only.tryBind (Only.tryCatch (ctrlIn_plain _ _) fun _ => trivial) fun ram => ?_
  exact Only.tryBind (lift_plain trivial) fun _ => Only.ite trivial trivial

theorem probeEdid_plain (head : HeadId) : (probeEdid params head).run.Only Op.plain := by
  refine Only.tryBind (lift_plain trivial) fun _ => Only.tryBind (ctrlIn_plain _ _) fun edid => ?_
  refine Only.tryBind (lift_plain trivial) fun _ => Only.ite trivial ?_
  exact lift_plain trivial

theorem setUpHead_plain (head : HeadId) : (setUpHead params head).run.Only Op.plain := by
  refine Only.tryBind (lift_plain trivial) fun _ => Only.ite ?_ trivial
  refine Only.tryBind (ctrlIn_plain _ _) fun status => Only.tryBind (lift_plain trivial) fun _ => ?_
  exact Only.ite (probeEdid_plain head) trivial

theorem queryDevice_plain : (queryDevice params).run.Only Op.plain :=
  Only.tryBind queryRam_plain fun _ =>
    Only.tryBind (setUpHead_plain _) fun _ => setUpHead_plain _

theorem queryHead0Timings_plain : (queryHead0Timings params).run.Only Op.plain := by
  refine Only.tryBind (lift_plain trivial) fun dev => Only.ite trivial ?_
  refine Only.tryBind (ctrlIn_plain _ _) fun count => Only.ite trivial (Only.ite trivial ?_)
  refine Only.tryBind (lift_plain trivial) fun allocated => Only.ite trivial ?_
  exact Only.tryBind (ctrlIn_plain _ _) fun _ => trivial

theorem initHead_plain (head : HeadId) : (initHead params head).run.Only Op.plain :=
  Only.tryBind (ctrlOut_plain _ _ _ _) fun _ =>
    Only.tryBind (ctrlOut_plain _ _ _ _) fun _ => ctrlOut_plain _ _ _ _

theorem chipInit_plain : (chipInit params).run.Only Op.plain := by
  refine Only.tryBind (lift_plain trivial) fun first => Only.tryBind (lift_plain trivial) fun second =>
    Only.ite trivial ?_
  refine Only.tryBind (ctrlOut_plain _ _ _ _) fun _ => Only.tryBind (ctrlOut_plain _ _ _ _) fun _ => ?_
  refine Only.tryBind (ctrlOut_plain _ _ _ _) fun _ => Only.tryBind (ctrlOut_plain _ _ _ _) fun _ => ?_
  have finish : (do
      ctrlOut params reqSetTiming 0 0 initTimingPost
      ctrlOut params reqReset 0x0002 0 [] : Fallible Unit).run.Only Op.plain :=
    Only.tryBind (ctrlOut_plain _ _ _ _) fun _ => ctrlOut_plain _ _ _ _
  have secondary_ := Only.tryBind (@initHead_plain params .secondary) fun _ => finish
  refine Only.ite (Only.tryBind (initHead_plain .primary) fun _ => ?_) ?_
  · exact Only.ite secondary_ finish
  · exact Only.ite secondary_ finish

end Requests

/-! ### What an active device takes -/

/-- The buffers of a head, in the order they are freed. -/
def headBuffers (head : HeadId) : List Resource :=
  [.buffer head .txBack, .buffer head .txFront, .buffer head .videoStaging,
    .buffer head .lastSentFrame, .buffer head .jpegStaging, .buffer head .fbExportBuf]

/-- The references that are put last. -/
def references : List Resource := [.dmaDevice, .usbDevice]

/-- What `t6_free_head_buffers` frees, in order, with what is left. -/
def buffers : List Resource :=
  headBuffers .primary ++ headBuffers .secondary ++ .bulkChunk :: references

def everything : List Resource := .jpegDevice .primary :: .jpegDevice .secondary :: .workqueue :: buffers

section Active

variable {params : Params}

/-- Buffers that are allocated one behind the other. -/
theorem allocate_takes {start : List Resource} {head : HeadId} (kinds : List HeadBuffer)
    (fresh : ∀ kind ∈ kinds, .buffer head kind ∉ start) (apart : kinds.Nodup) :
    Takes start (kinds.reverse.map (.buffer head) ++ start)
      (kinds.forM fun kind => allocate (.buffer head kind)) := by
  induction kinds generalizing start with
  | nil => exact takes_pure
  | cons kind rest inductionHypothesis =>
    have once := List.nodup_cons.1 apart
    have still : ∀ other ∈ rest, Resource.buffer head other ∉ .buffer head kind :: start := by
      intro other inside among
      rcases List.mem_cons.1 among with same | before
      · exact once.1 ((Resource.buffer.inj same).2 ▸ inside)
      · exact fresh other (List.mem_cons_of_mem _ inside) before
    have order : (kind :: rest).reverse.map (Resource.buffer head) ++ start =
        rest.reverse.map (.buffer head) ++ .buffer head kind :: start := by
      rw [List.reverse_cons, List.map_append, List.append_assoc]
      rfl
    rw [order]
    refine (takes_allocate (fresh kind List.mem_cons_self) nofun nofun).bind
      (fun _ => inductionHypothesis still once.2) (List.subset_append_right _ _) fun inside => ?_
    refine (List.mem_append.1 inside).resolve_left fun among => ?_
    obtain ⟨_, _, same⟩ := List.mem_map.1 among
    cases same

theorem buffersOf_apart (transport : Transport) :
    (buffersOf transport).Nodup ∧ .txBack ∉ buffersOf transport ∧ .txFront ∉ buffersOf transport := by
  cases transport <;> decide

theorem mem_headBuffers (head : HeadId) (kind : HeadBuffer) :
    .buffer head kind ∈ headBuffers head := by
  cases kind <;> simp [headBuffers]

theorem allocBuffersOf_takes {start : List Resource} (head : HeadId)
    (fresh : ∀ kind, .buffer head kind ∉ start) :
    Takes start (headBuffers head ++ start) (allocBuffersOf head) := by
  have among (kinds : List HeadBuffer) :
      kinds.map (.buffer head) ++ start ⊆ headBuffers head ++ start := by
    refine List.append_subset.2 ⟨fun resource inside => ?_, List.subset_append_right _ _⟩
    obtain ⟨kind, _, rfl⟩ := List.mem_map.1 inside
    exact List.mem_append_left _ (mem_headBuffers head kind)
  have device (kinds : List HeadBuffer) (inside : Resource.usbDevice ∈ headBuffers head ++ start) :
      .usbDevice ∈ kinds.map (Resource.buffer head) ++ start :=
    List.mem_append_right _ ((List.mem_append.1 inside).resolve_left (by simp [headBuffers]))
  have back : Resource.buffer head .txBack ∉ .buffer head .txFront :: start := fun inside =>
    (List.mem_cons.1 inside).elim nofun (fresh _)
  refine (takes_lift fun books bound => asks_ends bound (fresh _) nofun nofun).bind (fun front => ?_)
    (among [.txFront]) (device [.txFront])
  refine (takes_lift fun books bound => asks_ends bound back nofun nofun).bind (fun backward => ?_)
    (among [.txBack, .txFront]) (device [.txBack, .txFront])
  show Takes _ _ (if _ then _ else _)
  split
  · exact takes_throw.mono (among [.txBack, .txFront]) (device [.txBack, .txFront])
  · refine (takes_plain (@lift_plain .read trivial)).bind (fun dev => ?_)
      (among [.txBack, .txFront]) (device [.txBack, .txFront])
    obtain ⟨apart, notBack, notFront⟩ := buffersOf_apart (dev.heads head).transport
    refine (allocate_takes (buffersOf (dev.heads head).transport) (fun kind inside => ?_) apart).mono
      ?_ fun inside => ?_
    · simp only [List.mem_cons, Resource.buffer.injEq, true_and, not_or]
      exact ⟨fun same => notBack (same ▸ inside), fun same => notFront (same ▸ inside), fresh kind⟩
    · have all := among ((buffersOf (dev.heads head).transport).reverse ++ [.txBack, .txFront])
      rw [List.map_append, List.append_assoc] at all
      exact all
    · have whole := device ((buffersOf (dev.heads head).transport).reverse ++ [.txBack, .txFront])
        inside
      rw [List.map_append, List.append_assoc] at whole
      exact whole

theorem allocHeadBuffers_takes :
    Takes (.workqueue :: references) (.workqueue :: buffers) allocHeadBuffers := by
  have primary : ∀ kind, .buffer .primary kind ∉ .bulkChunk :: .workqueue :: references := by
    intro kind
    cases kind <;> decide
  have secondary_ : ∀ kind, .buffer .secondary kind ∉
      headBuffers .primary ++ .bulkChunk :: .workqueue :: references := by
    intro kind
    cases kind <;> decide
  refine Takes.bind (takes_allocate (by decide) nofun nofun) (fun _ => ?_) (by decide) (by decide)
  refine Takes.bind (allocBuffersOf_takes .primary primary) (fun _ => ?_) (by decide) (by decide)
  exact (allocBuffersOf_takes .secondary secondary_).mono (by decide) (by decide)

theorem createHead_takes {start : List Resource} (head : HeadId) :
    Takes start start (createHead head) := by
  have object : ∀ kind, Takes start start (acquire (.object head kind)) := fun kind =>
    takes_acquire_other rfl nofun
  refine (object .connector).bind (fun _ => ?_) (List.Subset.refl _) id
  refine (object .plane).bind (fun _ => ?_) (List.Subset.refl _) id
  refine (object .crtc).bind (fun _ => ?_) (List.Subset.refl _) id
  exact (object .encoder).bind (fun _ => object .attachment) (List.Subset.refl _) id

theorem registerJpegDevice_takes {start : List Resource} (head : HeadId)
    (fresh : .jpegDevice head ∉ start) :
    Takes start (.jpegDevice head :: start) (registerJpegDevice head) := by
  have more : start ⊆ .jpegDevice head :: start := List.subset_cons_self _ _
  have device : Resource.usbDevice ∈ .jpegDevice head :: start → .usbDevice ∈ start := fun inside =>
    (List.mem_cons.1 inside).resolve_left nofun
  refine (takes_plain (@lift_plain .read trivial)).bind (fun dev => ?_) more device
  show Takes _ _ (if _ then _ else _)
  split
  · exact takes_acquire fresh nofun nofun
  · exact takes_pure.mono more device

end Active

/-! ### Giving back -/

/-- The accounts at one point of a cleanup: what has still to be given back, each once, whether the
device is unbound and whether everything was cancelled. -/
structure Winding (pending : List Resource) (unbound quiet : Prop) (books : Books) : Prop where
  closing : Closing pending books
  once : pending.Nodup
  unbound : unbound → books.dev.held .intfdata = false
  still : quiet → Still books

theorem Winding.clean {books : Books} (winding : Winding [] True True books) : Clean books where
  settled resource owned := (winding.closing resource owned).2 List.not_mem_nil
  unbound := winding.unbound trivial
  still := winding.still trivial

theorem accounted_release (resource : Resource) (books : Books) (users : Users) :
    ∃ after, accounted books (.release resource) users = some ((), after) ∧
      (books.giveBack resource).Same after ∧
      after.dev.held = Function.update books.dev.held resource false ∧
      after.armed = books.armed := by
  refine ⟨_, rfl, ⟨rfl, rfl⟩, rfl, ?_⟩
  show (books.giveBack resource).armed = books.armed
  rw [Books.giveBack]
  split
  · split <;> rfl
  · rfl

/-- A part of a cleanup that gives some resources back. -/
def Gives (pending left : List Resource) (program : Prog Unit) : Prop :=
  ∀ unbound quiet books, Winding pending unbound quiet books →
    Ends accounted (fun _ after => Winding left unbound quiet after) program books

section Cleanup

variable {pending middle left : List Resource}

theorem Gives.seq {first second : Prog Unit} (firstGives : Gives pending middle first)
    (secondGives : Gives middle left second) : Gives pending left (first >>= fun _ => second) :=
  fun unbound quiet books winding => Ends.seq ((firstGives unbound quiet books winding).mono
    fun _ after still => secondGives unbound quiet after still)

theorem release_gives (resource : Resource) :
    Gives (resource :: pending) pending (act (.release resource)) := by
  intro unbound quiet books winding
  refine Ends.perform fun users => ?_
  obtain ⟨after, answered, same, held, armed⟩ := accounted_release resource books users
  have once := List.nodup_cons.1 winding.once
  refine ⟨(), after, answered, (winding.closing.giveBack once.1).same same, once.2, fun gone => ?_,
    fun cancelled => ?_⟩
  · rw [held, Function.update_apply, winding.unbound gone, ite_self]
  · rw [Still, armed]
    exact winding.still cancelled

theorem release_other_gives {resource : Resource} (other : resource.owned = false) :
    Gives pending pending (act (.release resource)) := by
  intro unbound quiet books winding
  refine Ends.perform fun users => ?_
  obtain ⟨after, answered, same, held, armed⟩ := accounted_release resource books users
  refine ⟨(), after, answered, (winding.closing.giveBack_other other).same same, winding.once,
    fun gone => ?_, fun cancelled => ?_⟩
  · rw [held, Function.update_apply, winding.unbound gone, ite_self]
  · rw [Still, armed]
    exact winding.still cancelled

/-- The interface lets go of the device. -/
theorem unbind_ends {unbound quiet : Prop} {books : Books}
    (winding : Winding pending unbound quiet books) :
    Ends accounted (fun _ after => Winding pending True quiet after)
      (act (.release .intfdata)) books := by
  refine Ends.perform fun users => ?_
  obtain ⟨after, answered, same, held, armed⟩ := accounted_release .intfdata books users
  refine ⟨(), after, answered, (winding.closing.giveBack_other rfl).same same, winding.once,
    fun _ => ?_, fun cancelled => ?_⟩
  · rw [held, Function.update_self]
  · rw [Still, armed]
    exact winding.still cancelled

theorem cancelSync_gives (head : HeadId) (work : Work) :
    Gives pending pending (act (.cancelSync head work)) := by
  intro unbound quiet books winding
  refine Ends.perform fun users => ⟨(), _, rfl, winding.closing.same ⟨rfl, rfl⟩, winding.once,
    winding.unbound, fun cancelled other item => ?_⟩
  show (if _ then false else books.armed other item) = false
  rw [winding.still cancelled other item, ite_self]

/-- Cancelling one work item or timer leaves the others as they are. -/
theorem cancelSync_ends {cancelled : HeadId → Work → Prop} {unbound quiet : Prop} {books : Books}
    (head : HeadId) (work : Work) (winding : Winding pending unbound quiet books)
    (before : ∀ other item, cancelled other item → books.armed other item = false) :
    Ends accounted (fun _ after => Winding pending unbound quiet after ∧ ∀ other item,
      (cancelled other item ∨ (other = head ∧ item = work)) → after.armed other item = false)
      (act (.cancelSync head work)) books := by
  refine Ends.perform fun users => ⟨(), _, rfl, ⟨winding.closing.same ⟨rfl, rfl⟩, winding.once,
    winding.unbound, fun quiet other item => ?_⟩, fun other item which => ?_⟩
  · show (if _ then false else books.armed other item) = false
    rw [winding.still quiet other item, ite_self]
  · show (if other = head ∧ item = work then false else books.armed other item) = false
    by_cases this : other = head ∧ item = work
    · exact if_pos this
    · rw [if_neg this]
      exact before other item (which.resolve_right this)

theorem cancelActivityOf_ends {cancelled : HeadId → Prop} {unbound quiet : Prop} {books : Books}
    (head : HeadId) (winding : Winding pending unbound quiet books)
    (before : ∀ other, cancelled other → ∀ item, books.armed other item = false) :
    Ends accounted (fun _ after => Winding pending unbound quiet after ∧
      ∀ other, (cancelled other ∨ other = head) → ∀ item, after.armed other item = false)
      (cancelActivityOf head) books := by
  refine Ends.seq ((cancelSync_ends head .keepaliveTimer winding fun other item which =>
    before other which item).mono fun _ books first => ?_)
  refine Ends.seq ((cancelSync_ends head .bootKeepaliveWork first.1 first.2).mono
    fun _ books second => ?_)
  refine Ends.seq ((cancelSync_ends head .txDeferWork second.1 second.2).mono fun _ books third => ?_)
  refine (cancelSync_ends head .txWork third.1 third.2).mono fun _ after last => ⟨last.1, ?_⟩
  rintro other (which | same) item
  · exact last.2 other item (Or.inl (Or.inl (Or.inl (Or.inl which))))
  · refine last.2 other item ?_
    cases item with
    | txWork => exact Or.inr ⟨same, rfl⟩
    | txDeferWork => exact Or.inl (Or.inr ⟨same, rfl⟩)
    | keepaliveTimer => exact Or.inl (Or.inl (Or.inl (Or.inr ⟨same, rfl⟩)))
    | bootKeepaliveWork => exact Or.inl (Or.inl (Or.inr ⟨same, rfl⟩))

/-- Whatever users of the device armed, nothing is left of it. -/
theorem cancelHeadActivity_ends {unbound quiet : Prop} {books : Books}
    (winding : Winding pending unbound quiet books) :
    Ends accounted (fun _ after => Winding pending unbound True after) cancelHeadActivity books := by
  have nothing : ∀ other, False → ∀ item, books.armed other item = false := fun _ => False.elim
  refine Ends.seq ((cancelActivityOf_ends .primary winding nothing).mono fun _ books first => ?_)
  refine (cancelActivityOf_ends .secondary first.1 first.2).mono fun _ after last =>
    ⟨last.1.closing, last.1.once, last.1.unbound, fun _ head item => ?_⟩
  cases head with
  | primary => exact last.2 .primary (Or.inl (Or.inr rfl)) item
  | secondary => exact last.2 .secondary (Or.inr rfl) item

theorem freeBuffersOf_gives (head : HeadId) :
    Gives (headBuffers head ++ pending) pending (freeBuffersOf head) :=
  (release_gives _).seq <| (release_gives _).seq <| (release_gives _).seq <|
    (release_gives _).seq <| (release_gives _).seq <| (release_gives _).seq <|
      cancelSync_gives head .keepaliveTimer

theorem freeHeadBuffers_gives : Gives buffers references freeHeadBuffers := by
  refine Gives.seq (?_ : Gives _ (headBuffers .secondary ++ .bulkChunk :: references) _) ?_
  · exact freeBuffersOf_gives .primary
  · exact (freeBuffersOf_gives .secondary).seq (release_gives .bulkChunk)

theorem unregisterJpegDevices_gives :
    Gives (.jpegDevice .primary :: .jpegDevice .secondary :: pending) pending
      unregisterJpegDevices :=
  (release_gives _).seq (release_gives _)

/-- From the label for the buffers on, only the references are left. -/
theorem errBuffers_ends {unbound quiet : Prop} {books : Books}
    (winding : Winding (.workqueue :: buffers) unbound quiet books) :
    Ends accounted (fun _ after => Winding references unbound True after) errBuffers books := by
  refine Ends.seq ((cancelHeadActivity_ends winding).mono fun _ books cancelled => ?_)
  exact (release_gives .workqueue).seq freeHeadBuffers_gives unbound True books cancelled

/-- From the last label on, nothing is left. -/
theorem errPut_clean {unbound : Prop} {books : Books}
    (winding : Winding references unbound True books) :
    Ends accounted (fun _ after => Clean after) errPut books := by
  refine Ends.seq ((unbind_ends winding).mono fun _ books gone => ?_)
  exact ((release_gives .dmaDevice).seq (release_gives .usbDevice) True True books gone).mono
    fun _ after done => done.clean

end Cleanup

/-! ### The probe -/

section Probe

variable {params : Params}

/-- The accounts once users may reach the device. -/
structure Loose (taken : List Resource) (books : Books) : Prop where
  stage : Stage taken books
  bound : books.dev.held .intfdata = true

theorem Bound.loose {taken : List Resource} {books : Books} (bound : Bound taken books) :
    Loose taken books := ⟨bound.stage, bound.bound⟩

theorem Loose.same {taken : List Resource} {books after : Books} (loose : Loose taken books)
    (same : books.Same after) (held : after.dev.held = books.dev.held) : Loose taken after :=
  ⟨loose.stage.same same, held ▸ loose.bound⟩

theorem Loose.mono {taken more : List Resource} {books : Books} (loose : Loose taken books)
    (sub : taken ⊆ more) (device : .usbDevice ∈ more → .usbDevice ∈ taken) : Loose more books :=
  ⟨loose.stage.mono sub device, loose.bound⟩

/-- What was taken is what has to be given back. -/
theorem Loose.winding {taken pending : List Resource} {books : Books} (loose : Loose taken books)
    (sub : taken ⊆ pending) (device : .usbDevice ∈ pending → .usbDevice ∈ taken)
    (once : pending.Nodup) : Winding pending False False books :=
  ⟨(loose.stage.mono sub device).closing, once, False.elim, False.elim⟩

/-- What the display device keeps is asked for, which may let users in. -/
theorem asks_loose {taken : List Resource} {resource : Resource} {books : Books}
    (loose : Loose taken books) (other : resource.owned = false) :
    Ends accounted (fun _ after => Loose taken after) (act (.acquire resource)) books := by
  refine Ends.perform fun users => ?_
  obtain ⟨refused, after, answered, -, what⟩ := accounted_acquire resource books users
  refine ⟨refused, after, answered, ?_⟩
  rcases what with ⟨-, same, held⟩ | ⟨-, same, held⟩
  · exact loose.same same held
  · refine ⟨(loose.stage.grant_other other).same same, ?_⟩
    rw [held, Function.update_apply, loose.bound, ite_self]

/-- What holds after a success and what holds after a failure. -/
def Either {Value : Type} (good failed : Books → Prop) : Except Errno Value → Books → Prop
  | .ok _, after => good after
  | .error _, after => failed after

/-- A failure is cleaned up after and then returned. -/
theorem onFailure_either {Value : Type} {cleanup : Prog Unit} {body : Fallible Value}
    {good failed : Books → Prop} {books : Books}
    (ends : Ends accounted (Either good fun after =>
      Ends accounted (fun _ after => failed after) cleanup after) body.run books) :
    Ends accounted (Either good failed) (onFailure cleanup body).run books := by
  refine Ends.tryCatch (ends.mono fun result after holds => ?_)
  cases result with
  | ok value => exact holds
  | error errno => exact Ends.liftBind (Ends.mono holds fun _ after done => done)

/-- A part whose failures are those of the whole, and the rest. -/
theorem andThen_ends {First Second : Type} {program : Fallible First}
    {rest : First → Fallible Second} (good : Books → Prop) {next failed : Books → Prop}
    {books : Books} (ends : Ends accounted (Either good failed) program.run books)
    (continues : ∀ value after, good after →
      Ends accounted (Either next failed) (rest value).run after) :
    Ends accounted (Either next failed) (program >>= rest).run books := by
  refine Ends.tryBind (ends.mono fun result after ended => ?_)
  cases result with
  | ok value => exact continues value after ended
  | error errno => exact ended

theorem Takes.andThen {First Second : Type} {start middle : List Resource}
    {program : Fallible First} {rest : First → Fallible Second} {good failed : Books → Prop}
    {books : Books} (takes : Takes start middle program) (bound : Bound start books)
    (fails : ∀ after, Bound middle after → failed after)
    (continues : ∀ value after, Bound middle after →
      Ends accounted (Either good failed) (rest value).run after) :
    Ends accounted (Either good failed) (program >>= rest).run books := by
  refine andThen_ends (Bound middle) ((takes books bound).mono fun result after still => ?_) continues
  cases result with
  | ok value => exact still
  | error errno => exact fails after still

theorem acquire_loose {taken : List Resource} {resource : Resource} {books : Books}
    (loose : Loose taken books) (other : resource.owned = false) :
    Ends accounted (fun _ after => Loose taken after) (acquire resource).run books := by
  refine Ends.liftBind ((asks_loose loose other).mono fun refused after still => ?_)
  cases refused with
  | none => exact still
  | some errno => exact still

/-- The last part of the probe of an active device. -/
theorem register_ends {books : Books} (bound : Bound (.workqueue :: buffers) books) :
    Ends accounted (Either (Loose everything) (Winding (.workqueue :: buffers) False False))
      (onFailure unregisterJpegDevices (do
        registerJpegDevice .primary
        registerJpegDevice .secondary
        acquire .drmRegistration)).run books := by
  have undo : ∀ after, Loose everything after → Ends accounted
      (fun _ after => Winding (.workqueue :: buffers) False False after)
      unregisterJpegDevices after := fun after loose =>
    unregisterJpegDevices_gives False False after
      (loose.winding (List.Subset.refl _) id (by decide))
  refine onFailure_either ?_
  refine (registerJpegDevice_takes .primary (by decide)).andThen bound
    (fun after first => undo after (first.loose.mono (by decide) (by decide))) fun _ _ first => ?_
  refine (registerJpegDevice_takes .secondary (by decide)).andThen first
    (fun after second => undo after (second.loose.mono (by decide) (by decide)))
    fun _ _ second => ?_
  have all : Loose everything _ := second.loose.mono (by decide) (by decide)
  refine (acquire_loose all rfl).mono fun result after loose => ?_
  cases result with
  | ok _ => exact loose
  | error errno => exact undo after loose

/-- An active device has taken everything, and one that failed has only the references left. -/
theorem activate_ends {books : Books} (bound : Bound references books) :
    Ends accounted (Either (Loose everything) (Winding references False True))
      (activate params).run books := by
  have undo : ∀ taken after, taken ⊆ .workqueue :: buffers → .usbDevice ∈ taken →
      Bound taken after →
      Ends accounted (fun _ after => Winding references False True after) errBuffers after :=
    fun taken after sub device still =>
      errBuffers_ends (still.loose.winding sub (fun _ => device) (by decide))
  have whole := fun after => undo (.workqueue :: buffers) after (List.Subset.refl _) (by decide)
  refine andThen_ends (Loose everything) (onFailure_either ?_) fun _ after loose => ?_
  · refine (@takes_allocate references .workqueue (by decide) nofun nofun).andThen bound
      (fun after => undo _ after (by decide) (by decide)) fun _ _ queue => ?_
    refine allocHeadBuffers_takes.orElse.andThen queue whole fun _ _ allocated => ?_
    refine (takes_plain chipInit_plain).andThen allocated whole fun _ _ ready => ?_
    refine (@takes_acquire_other _ .modeConfig rfl nofun).andThen ready whole fun _ _ configured => ?_
    refine (createHead_takes .primary).andThen configured whole fun _ _ first => ?_
    refine (createHead_takes .secondary).andThen first whole fun _ _ second => ?_
    refine (register_ends second).mono fun result after ended => ?_
    cases result with
    | ok _ => exact ended
    | error errno => exact errBuffers_ends ended
  · exact Ends.liftBind ((asks_loose loose rfl).mono fun _ after still => still)

/-- Queries take nothing, and what follows a failed one leaves nothing. -/
theorem query_ends {program : Fallible Unit} {books : Books} (bound : Bound references books)
    (only : program.run.Only Op.plain) :
    Ends accounted (Either (Bound references) Clean) (onFailure errPut program).run books := by
  refine onFailure_either ((takes_plain only books bound).mono fun result after still => ?_)
  cases result with
  | ok value => exact still
  | error errno =>
    exact errPut_clean ⟨still.stage.closing, by decide, False.elim, fun _ => still.still⟩

/-- What a probe leaves: everything that an active device takes, or nothing. -/
def Left (params : Params) (books : Books) : Prop :=
  if params.manualOnly || params.queryOnly then Clean books else Loose everything books

/-- The accounts before the probe. -/
structure Fresh (books : Books) : Prop where
  stage : Stage [] books
  unbound : books.dev.held .intfdata = false
  still : Still books

theorem Fresh.same {books after : Books} (fresh : Fresh books) (same : books.Same after)
    (held : after.dev.held = books.dev.held) (armed : after.armed = books.armed) : Fresh after where
  stage := fresh.stage.same same
  unbound := held ▸ fresh.unbound
  still := by
    rw [Still, armed]
    exact fresh.still

theorem Fresh.winding {books : Books} (fresh : Fresh books) : Winding [] True True books :=
  ⟨fresh.stage.closing, List.nodup_nil, fun _ => fresh.unbound, fun _ => fresh.still⟩

theorem Fresh.clean {books : Books} (fresh : Fresh books) : Clean books :=
  fresh.winding.clean

theorem accounted_take (resource : Resource) (books : Books) (users : Users) :
    ∃ after, accounted books (.take resource) users = some ((), after) ∧
      (books.grant resource).Same after ∧
      after.dev.held = Function.update books.dev.held resource true ∧
      after.armed = books.armed :=
  ⟨_, rfl, ⟨rfl, rfl⟩, rfl, rfl⟩

/-- The references are taken, and the device is bound. -/
theorem bind_ends {books : Books} (fresh : Fresh books) {rest : Fallible Unit}
    {post : Except Errno Unit → Books → Prop}
    (continues : ∀ after, Bound references after → Ends accounted post rest.run after) :
    Ends accounted post (do
      lift (act .resetFault)
      lift (act (.take .usbDevice))
      let _ ← lift (act (.acquire .dmaDevice))
      lift (act (.take .intfdata))
      rest : Fallible Unit).run books := by
  refine Ends.liftBind (Ends.perform fun users => ?_)
  obtain ⟨answer, first, answered, same, -, armed⟩ :=
    @accounted_plain .resetFault trivial books users
  refine ⟨answer, first, answered, Ends.liftBind (Ends.perform fun users => ?_)⟩
  obtain ⟨second, taken, granted, -, armedSecond⟩ := accounted_take .usbDevice first users
  refine ⟨(), second, taken, Ends.liftBind (Ends.perform fun users => ?_)⟩
  have device : Stage [.usbDevice] second :=
    ((fresh.stage.same same).grant List.not_mem_nil).same granted
  obtain ⟨refused, third, asked, armedThird, what⟩ := accounted_acquire .dmaDevice second users
  refine ⟨refused, third, asked, Ends.liftBind (Ends.perform fun users => ?_)⟩
  have both : Stage references third := by
    rcases what with ⟨-, unchanged, -⟩ | ⟨-, grown, -⟩
    · exact (device.same unchanged).mono (by decide) (by decide)
    · exact (device.grant (by decide)).same grown
  obtain ⟨last, bound, kept, held, armedLast⟩ := accounted_take .intfdata third users
  refine ⟨(), last, bound, continues last ⟨(both.grant_other rfl).same kept, ?_, ?_⟩⟩
  · rw [held, Function.update_self]
  · rw [Still, armedLast, armedThird nofun, armedSecond, armed]
    exact fresh.still

theorem probeDevice_left {books : Books} (fresh : Fresh books) (active : params.manualOnly = false) :
    Ends accounted (Either (Left params) Clean) (probeDevice params).run books := by
  refine Ends.liftBind (Ends.perform fun users => ?_)
  obtain ⟨refused, after, answered, armed, what⟩ := accounted_acquire .drmDevice books users
  refine ⟨refused, after, answered, ?_⟩
  have still : Fresh after := by
    rcases what with ⟨-, same, held⟩ | ⟨-, same, held⟩
    · exact fresh.same same held (armed nofun)
    · refine ⟨(fresh.stage.grant_other rfl).same same, ?_, fun head work =>
        (congrFun (congrFun (armed nofun) head) work).trans (fresh.still head work)⟩
      rw [held]
      exact fresh.unbound
  cases refused with
  | some errno => exact still.clean
  | none =>
    refine bind_ends still fun first bound => ?_
    refine andThen_ends (Bound references) (query_ends bound queryDevice_plain) fun _ second asked => ?_
    by_cases queries : params.queryOnly = true
    · rw [if_pos queries]
      refine andThen_ends (Bound references) (query_ends asked ?_) fun _ third asked => ?_
      · exact Program.Only.ite (Program.Only.tryBind queryHead0Timings_plain fun _ => trivial) trivial
      · refine Ends.lift ((errPut_clean ⟨asked.stage.closing, by decide, False.elim, fun _ =>
          asked.still⟩).mono fun _ after clean => ?_)
        rw [Either, Left, queries, Bool.or_true, if_pos rfl]
        exact clean
    · rw [if_neg queries]
      refine onFailure_either ((activate_ends asked).mono fun result after ended => ?_)
      cases result with
      | ok _ =>
        rw [Either, Left, active, eq_false_of_ne_true queries, Bool.or_false,
          if_neg Bool.false_ne_true]
        exact ended
      | error errno => exact errPut_clean ended

theorem usbProbe_left {books : Books} (fresh : Fresh books) (interface : UsbInterface) :
    Ends accounted (Either (Left params) Clean) (usbProbe params interface).run books := by
  have refuse (errno : Errno) : Either (Left params) Clean (.error errno : Except Errno Unit) books :=
    fresh.clean
  unfold usbProbe
  refine Ends.guard (fun _ => refuse _) fun _ => ?_
  refine Ends.guard (fun _ => refuse _) fun _ => ?_
  by_cases manual : params.manualOnly = true
  · rw [if_pos manual]
    refine Ends.lift ((unbind_ends fresh.winding).mono fun _ after done => ?_)
    rw [Either, Left, manual, Bool.true_or, if_pos rfl]
    exact done.clean
  · rw [if_neg manual]
    refine Ends.guard (fun _ => refuse _) fun _ => Ends.liftBind (Ends.perform fun users => ?_)
    obtain ⟨used, after, answered, same, held, armed⟩ :=
      @accounted_plain .claim trivial books users
    have still := fresh.same same held armed
    refine ⟨used, after, answered, ?_⟩
    exact Ends.guard (fun _ => still.clean) fun _ => probeDevice_left still (eq_false_of_ne_true manual)

/-- Disconnect gives back what an active device took. -/
theorem usbDisconnect_ends {books : Books} (loose : Loose everything books) :
    Ends accounted (fun _ after => Cleared after) usbDisconnect books := by
  have order : Winding (.workqueue :: .jpegDevice .primary :: .jpegDevice .secondary :: buffers) False
      False books := loose.winding (by decide) (by decide) (by decide)
  refine Ends.seq (Ends.perform fun users => ⟨books.dev, books, rfl, ?_⟩)
  refine Ends.seq ((unbind_ends order).mono fun _ first gone => ?_)
  rw [loose.bound]
  refine Ends.seq ((release_other_gives rfl True False first gone).mono fun _ second gone => ?_)
  refine Ends.seq ((cancelHeadActivity_ends gone).mono fun _ third cancelled => ?_)
  have rest := (release_gives .workqueue).seq <| unregisterJpegDevices_gives.seq <|
    freeHeadBuffers_gives.seq <| (release_gives .dmaDevice).seq (release_gives .usbDevice)
  exact (rest True True third cancelled).mono fun _ after done => done.clean.toCleared

theorem account_grows (books : Books) (users : Users) (op : Op) (answer : Op.Answer op) :
    books.postings <+: (books.account users op answer).postings := by
  cases op with
  | acquire resource =>
    show books.postings <+: (if answer.isNone then books.grant resource else books).postings
    split
    · exact List.prefix_append _ _
    · exact List.prefix_refl _
  | take resource => exact List.prefix_append _ _
  | release resource =>
    show books.postings <+: (books.giveBack resource).postings
    rw [Books.giveBack]
    split
    · split
      · exact List.prefix_append _ _
      · exact List.prefix_append _ _
    · exact List.prefix_refl _
  | _ => exact List.prefix_refl _

/-- Nothing that was posted is taken back. -/
theorem postings_grow {Result : Type} {program : Prog Result} {books after : Books}
    {script : Nat → Users} {result : Result}
    (ran : program.eval accounted books script = some (result, after)) :
    books.postings <+: after.postings := by
  induction program generalizing books script with
  | done value =>
    obtain ⟨rfl, rfl⟩ := Prod.mk.inj (Option.some.inj ran)
    exact List.prefix_refl _
  | call op next inductionHypothesis =>
    rw [Program.eval] at ran
    cases stepped : accounted books op (script 0) with
    | none =>
      rw [stepped] at ran
      cases ran
    | some pair =>
      rw [stepped] at ran
      obtain ⟨⟨answer, dev⟩, -, same⟩ := Option.map_eq_some_iff.1 stepped
      subst same
      have continued := inductionHypothesis answer ran
      exact (account_grows books (script 0) op answer).trans continued

/-- The accounts of a device that was plugged in: it has nothing. -/
def Books.opened (dev : Probing) : Books where
  dev := { dev with held := fun _ => false }
  named _ := false
  postings := []
  armed _ _ := false

theorem opened_fresh (dev : Probing) : Fresh (Books.opened dev) where
  stage _ _ := ⟨fun inside => absurd inside List.not_mem_nil, fun _ => ⟨rfl, rfl⟩⟩
  unbound := rfl
  still _ _ := rfl

/-- Whichever step of a probe fails, and after a probe that only queries, what was taken was given
back once, the interface is unbound and nothing is queued or armed. After the probe of an active
device disconnect gives back what was taken, and again once, whatever the device did between. -/
theorem all_or_nothing (params : Params) (interface : UsbInterface) (dev : Probing)
    (script : Nat → Users) :
    ∃ result after, (usbProbe params interface).run.eval accounted (Books.opened dev) script =
        some (result, after) ∧
      (result ≠ .ok () ∨ params.manualOnly = true ∨ params.queryOnly = true → Clean after) ∧
      (result = .ok () → params.manualOnly = false → params.queryOnly = false →
        ∀ later : Books, later.named = after.named → later.postings = after.postings →
          later.dev.held = after.dev.held → ∀ unplugged, ∃ ended,
            usbDisconnect.eval accounted later unplugged = some ((), ended) ∧ Cleared ended ∧
              after.postings <+: ended.postings) := by
  obtain ⟨result, after, ran, left⟩ :=
    (@usbProbe_left params (Books.opened dev) (opened_fresh dev) interface).eval script
  refine ⟨result, after, ran, fun why => ?_, fun succeeded active scans later named postings held
    unplugged => ?_⟩
  · cases result with
    | error errno => exact left
    | ok value =>
      rw [Either, Left, if_pos] at left
      · exact left
      · exact Bool.or_eq_true_iff.2 (why.resolve_left fun failed => failed rfl)
  · subst succeeded
    rw [Either, Left, active, scans, Bool.or_false, if_neg Bool.false_ne_true] at left
    have loose := @Loose.same everything after later left ⟨named, postings⟩ held
    obtain ⟨_, ended, disconnected, cleared⟩ := (usbDisconnect_ends loose).eval unplugged
    exact ⟨ended, disconnected, cleared, postings ▸ postings_grow disconnected⟩

end Probe

end Trigger6.Probe
