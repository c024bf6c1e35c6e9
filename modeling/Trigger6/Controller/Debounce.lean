/-
This file proves what the debounce is for. A start is asked for only after the
same generation was seen, at every look at the device, for `stableSeconds`. The
calls of the policy thread one ledger, and between two of them any operation may
run and be killed anywhere.
-/

import Trigger6.Controller.Runs

namespace Trigger6.Controller

open Interaction

/-! ### Calls of the policy -/

/-- One call of the policy. -/
structure Call where
  state : State
  observation : Observation
  now : ℚ

namespace Call

variable (call : Call)

def answer : State × Action := decide call.state call.observation call.now

/-- The generation of the device the call was shown. -/
def saw : Option String := call.observation.device.map Device.generation

/-- The call came past the tests of the marker, the circuit, intent, inhibition and errors, and
looked at the device. -/
structure Evaluated : Prop where
  inflight : call.state.inflight = none
  circuit : truthy call.state.circuit = false
  desired : call.state.desired = true
  paused : call.state.paused = false
  inhibited : call.observation.inhibited = some false
  error : truthy call.observation.error = false

end Call

/-- Two ledgers agree on the candidate and its clock. -/
def State.SameCandidate (before after : State) : Prop :=
  after.candidate = before.candidate ∧ after.candidateSince = before.candidateSince

section Answers

variable {state : State} {observation : Observation} {device : Device} {now : ℚ}

theorem decideBound_sameCandidate :
    state.SameCandidate (decideBound state observation device).1 := by
  unfold decideBound
  split_ifs <;> exact ⟨rfl, rfl⟩

theorem decideUnbound_sameCandidate :
    state.SameCandidate (decideUnbound state observation device now).1 := by
  unfold decideUnbound
  split_ifs <;> exact ⟨rfl, rfl⟩

theorem decideAbsent_candidate : (decideAbsent state observation now).1.candidate = none := by
  simp only [decideAbsent]
  split_ifs <;> rfl

/-- Of the branches for an unbound device only the last starts, after the debounce. -/
theorem decideUnbound_start (starts : (decideUnbound state observation device now).2 = .start) :
    stableSeconds ≤ now - state.candidateSince := by
  unfold decideUnbound at starts
  split_ifs at starts with _ _ _ _ early
  all_goals try cases starts
  exact not_lt.mp early

variable {call : Call}

/-- A call that did not look at the device waits, and leaves the candidate. -/
theorem answer_unevaluated (passed : ¬ call.Evaluated) :
    call.state.SameCandidate call.answer.1 ∧ call.answer.2 = .wait := by
  unfold Call.answer decide
  split_ifs with marked latched stopped unknown damaged
  · exact ⟨⟨rfl, rfl⟩, rfl⟩
  · exact ⟨⟨rfl, rfl⟩, rfl⟩
  · exact ⟨⟨rfl, rfl⟩, rfl⟩
  · exact ⟨⟨rfl, rfl⟩, rfl⟩
  · exact ⟨⟨rfl, rfl⟩, rfl⟩
  · refine absurd ⟨?_, ?_, ?_, ?_, ?_, ?_⟩ passed
    · simpa using marked
    · simpa using latched
    · grind
    · grind
    · cases marker : call.observation.inhibited with
      | none => simp [marker] at unknown
      | some value => cases value <;> simp_all
    · simpa using damaged

/-- A call that looked at the device is answered by what it saw. -/
theorem answer_evaluated (evaluated : call.Evaluated) :
    call.answer = match call.observation.device with
      | none => decideAbsent call.state call.observation call.now
      | some device =>
        if truthy device.driver then
          decideBound (call.state.consider device.generation call.now) call.observation device
        else
          decideUnbound (call.state.consider device.generation call.now) call.observation device
            call.now := by
  unfold Call.answer decide
  rw [evaluated.inflight, evaluated.circuit, evaluated.desired, evaluated.paused,
    evaluated.inhibited, evaluated.error]
  rfl

/-- It leaves what it saw as the candidate, with the clock of its first sight. -/
theorem evaluated_candidate (evaluated : call.Evaluated) :
    call.answer.1.candidate = call.saw ∧
      (call.saw = none ∨ call.answer.1.candidateSince =
        if call.state.candidate = call.saw then call.state.candidateSince else call.now) := by
  rw [answer_evaluated evaluated, Call.saw]
  cases present : call.observation.device with
  | none => exact ⟨decideAbsent_candidate, .inl rfl⟩
  | some device =>
    have same : (call.state.consider device.generation call.now).SameCandidate
        (if truthy device.driver then
          decideBound (call.state.consider device.generation call.now) call.observation device
        else
          decideUnbound (call.state.consider device.generation call.now) call.observation device
            call.now).1 := by
      split_ifs
      · exact decideBound_sameCandidate
      · exact decideUnbound_sameCandidate
    refine ⟨same.1.trans ?_, .inr (same.2.trans ?_)⟩
    · unfold State.consider
      split_ifs with changed
      · rfl
      · exact not_not.mp (by simpa using changed)
    · unfold State.consider
      by_cases kept : call.state.candidate = some device.generation
      · rw [if_neg (by simp [kept]), Option.map_some, if_pos kept]
      · rw [if_pos (by simpa using kept), Option.map_some, if_neg kept]

/-- A call that starts has seen a device whose candidate is old enough. -/
theorem answer_start (starts : call.answer.2 = .start) :
    call.Evaluated ∧ call.saw ≠ none ∧ call.answer.1.candidateSince ≤ call.now - stableSeconds := by
  have evaluated : call.Evaluated := by
    by_contra passed
    rw [(answer_unevaluated passed).2] at starts
    cases starts
  refine ⟨evaluated, ?_⟩
  rw [answer_evaluated evaluated] at starts ⊢
  rw [Call.saw]
  cases present : call.observation.device with
  | none =>
    rw [present] at starts
    simp only [decideAbsent] at starts
    split_ifs at starts <;> cases starts
  | some device =>
    refine ⟨Option.some_ne_none _, ?_⟩
    simp only [present] at starts ⊢
    split_ifs at starts ⊢ with bound
    · unfold decideBound at starts
      split_ifs at starts <;> cases starts
    · rw [decideUnbound_sameCandidate.2]
      have stable := decideUnbound_start starts
      linarith

end Answers

/-! ### What the operations leave of the candidate -/

/-- The ledgers an operation writes, in any of its runs. -/
inductive OperationWrites (state : State) : State → Prop
  | pausing : OperationWrites state state.pausing
  | pauseFailed (text : String) : OperationWrites state (state.pausing.stopFailed "pause" text)
  | paused : OperationWrites state state.pausing.stopped
  | resumed : OperationWrites state { state with paused := false, candidate := none }
  | stopping :
    OperationWrites state { state with desired := false, inflight := some (.begin "stop" none) }
  | stopFailed (text : String) : OperationWrites state
    ({ state with desired := false, inflight := some (.begin "stop" none) }.stopFailed "stop" text)
  | stopped : OperationWrites state
    { state with desired := false, inflight := some (.begin "stop" none) }.stopped
  | cleared (bootId : Option String) : OperationWrites state (freshState bootId)
  | started : OperationWrites state { state with desired := true }

/-- The calls of an operation. -/
abbrev HostOp.ofOperation (state : State) : HostOp → Prop :=
  HostOp.mild (OperationWrites state) fun _ => True

section Operations

variable {state : State} {polls : Nat}

theorem persist_ofOperation {written : State} (writes : OperationWrites state written) :
    (persist written).run.Only (HostOp.ofOperation state) :=
  Program.Only.tryBind (raising_only.mpr (calling_only.mpr writes)) fun _ => trivial

theorem releaseInhibit_ofOperation : releaseInhibit.run.Only (HostOp.ofOperation state) := by
  refine Program.Only.tryBind (raising_only.mpr (calling_only.mpr trivial)) fun _ => ?_
  refine Program.Only.ite ?_ trivial
  refine Program.Only.tryBind (raising_only.mpr (calling_only.mpr trivial)) fun _ => ?_
  exact raising_only.mpr (calling_only.mpr trivial)

theorem stopPreservingFailure_ofOperation {marked : State} (site : StopSite) (command : String)
    (writes : ∀ text, OperationWrites state (marked.stopFailed command text)) :
    (stopPreservingFailure polls site command marked).run.Only (HostOp.ofOperation state) := by
  refine Program.Only.tryCatch (traced_only trivial trivial trivial ?_) (caughtBy_only fun text => ?_)
  · exact (stopModuleBody_only polls).mono fun _ => HostOp.ofStop_mild fun _ _ => trivial
  · exact Program.Only.tryBind (raising_only.mpr (calling_only.mpr (writes text))) fun _ =>
      refuse_only _

theorem operate_ofOperation (operation : Operation) :
    (operate polls operation state).run.Only (HostOp.ofOperation state) := by
  cases operation with
  | pause =>
    refine traced_only trivial trivial trivial (Program.Only.ite ?_ ?_)
    · refine Program.Only.tryBind (raising_only.mpr (calling_only.mpr trivial)) fun _ => ?_
      exact Program.Only.tryBind (raising_only.mpr (calling_only.mpr trivial)) fun _ => trivial
    · refine Program.Only.tryBind (raising_only.mpr (calling_only.mpr .pausing)) fun _ => ?_
      exact Program.Only.tryBind (stopPreservingFailure_ofOperation _ _ .pauseFailed) fun _ =>
        persist_ofOperation .paused
  | resume =>
    refine traced_only trivial trivial trivial (Program.Only.tryBind ?_ fun idle => ?_)
    · refine Program.Only.ite (Program.Only.tryMap ?_) trivial
      exact raising_only.mpr (calling_only.mpr trivial)
    · refine Program.Only.ite trivial (Program.Only.ite (refuse_only _) ?_)
      exact Program.Only.tryBind releaseInhibit_ofOperation fun _ => persist_ofOperation .resumed
  | stop =>
    refine Program.Only.tryBind (raising_only.mpr (calling_only.mpr .stopping)) fun _ => ?_
    exact Program.Only.tryBind (stopPreservingFailure_ofOperation _ _ .stopFailed) fun _ =>
      persist_ofOperation .stopped
  | clearCircuit =>
    refine Program.Only.tryBind (raising_only.mpr (calling_only.mpr trivial)) fun observation => ?_
    refine Program.Only.ite (refuse_only _) ?_
    refine Program.Only.tryBind (raising_only.mpr (calling_only.mpr trivial)) fun bootId => ?_
    exact Program.Only.tryBind releaseInhibit_ofOperation fun _ =>
      persist_ofOperation (.cleared bootId)
  | start =>
    refine Program.Only.tryBind (raising_only.mpr (calling_only.mpr trivial)) fun _ => ?_
    exact persist_ofOperation .started

end Operations

/-- The candidate is the one it was, with its clock, or there is none. -/
def State.Considers (before after : State) : Prop :=
  after.candidate = none ∨ before.SameCandidate after

theorem OperationWrites.considers {state written : State} (writes : OperationWrites state written) :
    state.Considers written := by
  cases writes with
  | resumed => exact .inl rfl
  | cleared bootId => exact .inl rfl
  | pausing | pauseFailed | paused | stopping | stopFailed | stopped | started =>
    exact .inr ⟨rfl, rfl⟩

theorem State.Considers.trans {first second third : State} (left : first.Considers second)
    (right : second.Considers third) : first.Considers third := by
  rcases right with cleared | same
  · exact .inl cleared
  · rcases left with cleared | before
    · exact .inl (same.1.trans cleared)
    · exact .inr ⟨same.1.trans before.1, same.2.trans before.2⟩

/-- The tasks that are operations. -/
def isOperation (task : Task) : Prop := ∃ operation, task = .operate operation

/-- An operation, killed wherever, leaves the candidate or clears it. -/
theorem invocation_considers (invocation : Invocation isOperation) (world : World) :
    world.ledger.Considers (invocation.run world).ledger := by
  refine run_keeps (fun after => world.ledger.Considers after.ledger) ?_ ?_ ?_ invocation
    (.inr ⟨rfl, rfl⟩)
  · exact fun _ _ kept => kept
  · exact fun _ _ kept => kept
  · rintro task ⟨operation, rfl⟩ between kept polls entry
    refine only_safe (operate_ofOperation operation) (fun holds => holds) ?_ kept
    intro op mild before input answer after holds answered
    rcases hostExec_mild (fun _ _ => trivial) mild answered with spares | ⟨written, writes, rfl⟩
    · show world.ledger.Considers after.ledger
      rw [spares.ledger]
      exact holds
    · exact kept.trans writes.considers

/-! ### The calls of a run -/

/-- A call of the policy, or an operation in a process of its own. -/
inductive Step
  | decided (observation : Observation) (now : ℚ)
  | operated (invocation : Invocation isOperation)

/-- The world so far, and the calls of the policy that were made, the oldest first. -/
structure Progress where
  world : World
  calls : List Call

def Progress.step (progress : Progress) : Step → Progress
  | .decided observation now =>
    let call : Call := ⟨progress.world.ledger, observation, now⟩
    ⟨progress.world.write call.answer.1, progress.calls ++ [call]⟩
  | .operated invocation => ⟨invocation.run progress.world, progress.calls⟩

/-- The run of the steps from a world in which no call was made. -/
def runSteps (world : World) (steps : List Step) : Progress :=
  steps.foldl Progress.step ⟨world, []⟩

/-- The last of the calls ends a period that begins with a look at the device at some time, and in
which every look saw one generation. -/
def Steady (calls : List Call) (generation : String) (since : ℚ) : Prop :=
  ∃ before first between, calls = before ++ first :: between ∧ first.now = since ∧
    first.Evaluated ∧ ∀ call ∈ first :: between, call.Evaluated → call.saw = some generation

/-- A call that did not look at the device, or saw the same generation, prolongs the period. -/
theorem Steady.append {calls : List Call} {generation : String} {since : ℚ} {call : Call}
    (steady : Steady calls generation since) (same : call.Evaluated → call.saw = some generation) :
    Steady (calls ++ [call]) generation since := by
  obtain ⟨before, first, between, rfl, now, evaluated, saw⟩ := steady
  refine ⟨before, first, between ++ [call], by simp, now, evaluated, ?_⟩
  intro other member
  rcases List.mem_append.mp (List.cons_append ▸ member) with earlier | last
  · exact saw other earlier
  · rw [List.mem_singleton.mp last]
    exact same

/-- What holds of a run: the candidate was seen steadily since its clock was set, and so was every
generation that was started. -/
structure Debounced (progress : Progress) : Prop where
  candidate : ∀ generation, progress.world.ledger.candidate = some generation →
    Steady progress.calls generation progress.world.ledger.candidateSince
  started : ∀ earlier last later, progress.calls = earlier ++ last :: later →
    last.answer.2 = .start → ∃ generation since, last.saw = some generation ∧
      since ≤ last.now - stableSeconds ∧ Steady (earlier ++ [last]) generation since

/-- The ledger a call returns keeps its candidate steady. -/
theorem Debounced.answer {progress : Progress} (debounced : Debounced progress) (call : Call)
    (threaded : call.state = progress.world.ledger) (generation : String)
    (candidate : call.answer.1.candidate = some generation) :
    Steady (progress.calls ++ [call]) generation call.answer.1.candidateSince := by
  by_cases evaluated : call.Evaluated
  · obtain ⟨saw, clock⟩ := evaluated_candidate evaluated
    have seen : call.saw = some generation := saw.symm.trans candidate
    have clock := clock.resolve_left (by rw [seen]; exact nofun)
    rw [clock]
    split_ifs with kept
    · have held : progress.world.ledger.candidate = some generation := by
        rw [← threaded, kept, seen]
      rw [threaded]
      exact (debounced.candidate generation held).append fun _ => seen
    · refine ⟨progress.calls, call, [], rfl, rfl, evaluated, fun other member _ => ?_⟩
      rw [List.mem_singleton.mp member]
      exact seen
  · obtain ⟨same, -⟩ := answer_unevaluated evaluated
    have held : progress.world.ledger.candidate = some generation := by
      rw [← threaded, ← same.1, candidate]
    rw [same.2, threaded]
    exact (debounced.candidate generation held).append fun looked => absurd looked evaluated

/-- A step keeps what holds of a run. -/
theorem Debounced.step {progress : Progress} (debounced : Debounced progress) (step : Step) :
    Debounced (progress.step step) := by
  cases step with
  | operated invocation =>
    refine ⟨fun generation candidate => ?_, debounced.started⟩
    rcases invocation_considers invocation progress.world with cleared | same
    · rw [Progress.step, cleared] at candidate
      cases candidate
    · have steady := debounced.candidate generation (same.1.symm.trans candidate)
      show Steady _ _ (invocation.run progress.world).ledger.candidateSince
      rw [same.2]
      exact steady
  | decided observation now =>
    have threaded := debounced.answer ⟨progress.world.ledger, observation, now⟩ rfl
    refine ⟨threaded, ?_⟩
    intro earlier last later made starts
    rcases List.eq_nil_or_concat later with rfl | ⟨rest, final, rfl⟩
    · obtain ⟨rfl, same⟩ := List.append_inj' made rfl
      obtain rfl := List.singleton_inj.mp same
      obtain ⟨evaluated, seen, stable⟩ := answer_start starts
      obtain ⟨generation, saw⟩ := Option.ne_none_iff_exists'.mp seen
      exact ⟨generation, _, saw, stable,
        threaded generation ((evaluated_candidate evaluated).1.trans saw)⟩
    · refine debounced.started earlier last rest ?_ starts
      rw [List.concat_eq_append, ← List.cons_append, ← List.append_assoc] at made
      exact (List.append_inj' made rfl).1

theorem runSteps_debounced (world : World) (fresh : world.ledger.candidate = none)
    (steps : List Step) : Debounced (runSteps world steps) := by
  have start : Debounced ⟨world, []⟩ := by
    refine ⟨fun generation candidate => ?_, fun earlier last later made => ?_⟩
    · rw [fresh] at candidate
      cases candidate
    · cases earlier <;> cases made
  unfold runSteps
  generalize (⟨world, []⟩ : Progress) = progress at start
  induction steps generalizing progress with
  | nil => exact start
  | cons step rest inductionHypothesis => exact inductionHypothesis _ (start.step step)

/-- Over every sequence of calls of the policy from the ledger of a new boot, with any operations
between them: where a call starts a generation, a call at least `stableSeconds` before it looked
at the device and saw that generation, and every call since then that looked at the device saw
it too. -/
theorem start_debounced (bootId : Option String) (marker module : Bool) (clock steady : ℚ)
    (steps : List Step) {earlier later : List Call} {last : Call}
    (nondecreasing : (runSteps (.begin (freshState bootId) marker module clock steady)
      steps).calls.Pairwise fun first second => first.now ≤ second.now)
    (made : (runSteps (.begin (freshState bootId) marker module clock steady) steps).calls =
      earlier ++ last :: later)
    (starts : last.answer.2 = .start) :
    ∃ generation before first between, last.saw = some generation ∧
      earlier ++ [last] = before ++ first :: between ∧
      first.now ≤ last.now - stableSeconds ∧ first.Evaluated ∧
      (∀ call ∈ before, call.now ≤ first.now) ∧
      ∀ call ∈ first :: between, (first.now ≤ call.now ∧ call.now ≤ last.now) ∧
        (call.Evaluated → call.saw = some generation) := by
  obtain ⟨generation, since, saw, stable, before, first, between, cut, rfl, evaluated, same⟩ :=
    (runSteps_debounced _ rfl steps).started earlier last later made starts
  have ordered : (earlier ++ [last]).Pairwise fun first second => first.now ≤ second.now := by
    rw [made, List.append_cons] at nondecreasing
    exact (List.pairwise_append.mp nondecreasing).1
  have latest : ∀ call ∈ earlier ++ [last], call.now ≤ last.now := by
    intro call member
    rcases List.mem_append.mp member with before | rest
    · exact (List.pairwise_append.mp ordered).2.2 call before last (List.mem_singleton_self last)
    · rw [List.mem_singleton.mp rest]
  rw [cut] at ordered latest
  obtain ⟨-, rest, apart⟩ := List.pairwise_append.mp ordered
  refine ⟨generation, before, first, between, saw, cut, stable, evaluated, ?_, ?_⟩
  · exact fun call member => apart call member first List.mem_cons_self
  · intro call member
    refine ⟨⟨?_, latest call (List.mem_append_right before member)⟩, same call member⟩
    rcases List.mem_cons.mp member with rfl | later
    · exact le_rfl
    · exact (List.pairwise_cons.mp rest).1 call later

/-- An operator turns intent on, and the sample device is seen twice. -/
def sampleSteps : List Step :=
  [.operated (sampleInvocation (.operate .start) ⟨.start, rfl⟩
      (List.replicate 8 (sampleEnv false "0"))),
    .decided (sampleObservation false) 100, .decided (sampleObservation false) 120]

theorem sampleSteps_calls :
    ∃ first last, (runSteps (.begin (freshState none) false false 0 0) sampleSteps).calls =
      [first] ++ last :: [] ∧ first.now = 100 ∧ last.now = 120 ∧ last.answer.2 = .start := by
  refine ⟨_, _, rfl, rfl, rfl, ?_⟩
  decide +kernel

/-- The second sight starts it. -/
theorem sampleSteps_start :
    ∃ generation before first between,
      (runSteps (.begin (freshState none) false false 0 0) sampleSteps).calls =
        before ++ first :: between ∧ first.now ≤ 120 - stableSeconds ∧
      ∀ call ∈ first :: between, call.Evaluated → call.saw = some generation := by
  obtain ⟨seen, last, made, early, late, starts⟩ := sampleSteps_calls
  have nondecreasing : (runSteps (.begin (freshState none) false false 0 0)
      sampleSteps).calls.Pairwise fun first second => first.now ≤ second.now := by
    have ascending : seen.now ≤ last.now := by
      rw [early, late]
      norm_num
    rw [made]
    simpa using ascending
  obtain ⟨generation, before, first, between, -, cut, stable, -, -, same⟩ :=
    start_debounced none false false 0 0 sampleSteps nondecreasing made starts
  rw [late] at stable
  exact ⟨generation, before, first, between, made.trans cut, stable, fun call member =>
    (same call member).2⟩

end Trigger6.Controller
