/-
This file bounds the ledgers a host can make the controller keep. Every text a
host raises is one `run_command` makes of a failing tool's output, or no longer;
a generation is a digest; a boot id is at most 64 bytes; clock readings are
floats. Then everything a ledger keeps besides its causes is short, and a ledger
with one cause fits its file.

A failed start with a failed cleanup is the one case that keeps two causes: that
of the start is written twice and that of the cleanup three times.
`run_command` bounds each to 2048 characters before they are escaped once more,
so the file can grow to more than 16 KiB. A ledger whose two causes do fit goes
on fitting whatever the controller makes of it.
-/

import Trigger6.Controller.Ledger

namespace Trigger6.Controller

/-! ### The texts a host raises -/

/-- A text a host call raises: a refusal of `run_command`, or one made of fixed words with a
number, a duration or a path. -/
def HostText (text : String) : Prop := Json.escapedLength text ≤ 4352

/-- The texts of an error that `except (Refusal, OSError)` would see are no longer than a bound. -/
def Raises (bound : Nat) (error : PyError) : Prop :=
  ∀ text, error.caught = some text → Json.escapedLength text ≤ bound

/-- A failure's text is no longer than a bound. -/
def Fails {Value : Type} (bound : Nat) (result : Except PyError Value) : Prop :=
  ∀ error, result = .error error → Raises bound error

/-- A SHA-256 digest in hexadecimal. -/
def Digest (text : String) : Prop :=
  text.toList.length = 64 ∧ ∀ symbol ∈ text.toList, symbol ∈ "0123456789abcdef".toList

/-- An observation a snapshot makes. -/
structure HostObservation (observation : Observation) : Prop where
  generation : ∀ device, observation.device = some device → Digest device.generation
  pending : ∀ text, observation.pending = some text → HostText text
  error : ∀ text, observation.error = some text → HostText text

/-- `text_file(..., 64)`. -/
def BootId (bootId : Option String) : Prop :=
  ∀ text, bootId = some text → byteSize text.toList ≤ 64

/-- The answers a host can give. -/
def HostAnswer (floats : Floats) : (op : HostOp) → op.Answer → Prop
  | .snapshot _, answer =>
    Fails 4352 answer ∧ ∀ observation, answer = .ok observation → HostObservation observation
  | .discover _, answer => Fails 4352 answer
  | .residentIdentity, answer => Fails 4352 answer
  | .refcnt, answer => Fails 4352 answer
  | .moduleExists, answer => Fails 4352 answer
  | .now, answer => floats.IsStamp answer
  | .bootId, answer => Fails 4352 answer ∧ ∀ bootId, answer = .ok bootId → BootId bootId
  | .readConfig, answer => Fails 4352 answer
  | .verifyArtifact, answer => Fails 4352 answer
  | .runCommand _ _, answer => Fails 4352 answer
  | .print _, answer => Fails 4352 answer
  | _, _ => True

/-! ### Bounded ledgers -/

/-- A marker holds the cause of at most one failure. -/
structure Inflight.Bounded (marker : Inflight) : Prop where
  action : Json.escapedLength marker.action ≤ 10
  generation : ∀ text, marker.generation = some text → Digest text
  error : ∀ text, marker.error = some text → Json.escapedLength text ≤ 4400
  cleanupError : ∀ text, marker.cleanupError = some text → Json.escapedLength text ≤ 4400
  single : marker.error = none ∨ marker.cleanupError = none

/-- A ledger whose parts besides its causes are as long as the host makes them. -/
structure State.Bounded (floats : Floats) (state : State) : Prop where
  sound : state.Sound floats
  bootId : BootId state.bootId
  candidate : ∀ text, state.candidate = some text → Digest text
  managed : ∀ text, state.managedGeneration = some text → Digest text
  inflight : ∀ marker, state.inflight = some marker → marker.Bounded

/-- The circuit and the reason hold one cause each. -/
structure State.Light (state : State) : Prop where
  circuit : ∀ text, state.circuit = some text → Json.escapedLength text ≤ 4416
  reason : Json.escapedLength state.reason ≤ 4416

/-- The circuit and the reason hold the same causes, which fit beside any marker that begins an
operation. -/
structure State.Heavy (floats : Floats) (state : State) : Prop where
  latched : truthy state.circuit = true
  cause : state.circuit = some state.reason
  fits : state.size floats ≤ 16384
  room : state.coreSize floats + 2 * Json.escapedLength state.reason + 36 ≤ 16384

/-- A ledger that fits its file, and whatever the controller makes of it does too, but for a
failed start with a failed cleanup. -/
structure State.Good (floats : Floats) (state : State) : Prop where
  bounded : state.Bounded floats
  causes : state.Light ∨ state.Heavy floats

section Bounds

variable {floats : Floats} {state : State}

theorem escapedLength_digest {text : String} (digest : Digest text) :
    Json.escapedLength text = 64 := by
  have narrow : ∀ symbol ∈ "0123456789abcdef".toList, Json.escapedWidth symbol = 1 := by
    decide
  have widths : text.toList.map Json.escapedWidth = text.toList.map fun _ => 1 :=
    List.map_congr_left fun symbol inside => narrow symbol (digest.2 symbol inside)
  rw [Json.escapedLength, widths, List.map_const', digest.1]
  rfl

theorem optionalLength_digest {text : Option String} (digest : ∀ value, text = some value → Digest value) :
    4 ≤ optionalLength text ∧ optionalLength text ≤ 66 := by
  cases text with
  | none => exact ⟨le_rfl, by decide⟩
  | some text =>
    rw [optionalLength, escapedLength_digest (digest text rfl)]
    exact ⟨by decide, le_rfl⟩

theorem escapedWidth_le_utf8Size (symbol : Char) :
    Json.escapedWidth symbol ≤ 6 * symbol.utf8Size := by
  have positive := symbol.utf8Size_pos
  unfold Json.escapedWidth
  cases Json.escapeLetter symbol with
  | some letter =>
    dsimp only
    omega
  | none =>
    dsimp only
    split_ifs with visible basic
    · omega
    · omega
    · have wide : ¬ symbol.utf8Size = 1 := by
        rw [Char.utf8Size_eq_one_iff, UInt32.le_iff_toNat_le]
        intro small
        exact basic (Nat.lt_of_le_of_lt small (by decide))
      omega

theorem escapedLength_le_utf8ByteSize (text : String) :
    Json.escapedLength text ≤ 6 * text.utf8ByteSize := by
  rw [Json.escapedLength, ← String.ofList_toList (s := text), String.utf8ByteSize_ofList,
    String.toList_ofList]
  induction text.toList with
  | nil => exact le_rfl
  | cons symbol rest inductionHypothesis =>
    have first := escapedWidth_le_utf8Size symbol
    rw [List.map_cons, List.sum_cons, String.utf8Len_cons]
    omega

theorem boolLength_le (value : Bool) : boolLength value ≤ 5 := by
  cases value <;> decide

end Bounds

/-! ### What the policy makes of a bounded ledger -/

/-- The reasons of the policy that are fixed texts. -/
def fixedReasons : List String :=
  ["unfinished prior mutation: manual recovery required", "stopped or sleep-inhibited",
    "sleep inhibition state unavailable: manual review required", "exact device absent",
    "rapid device loss: automatic recovery blocked",
    "foreign binding or unapproved resident module",
    "bound generation was not started/adopted by controller",
    "active transport fault: circuit breaker latched", "managed DRM device missing", "active",
    "connected; CRTC off", "unapproved resident module",
    "binding lost without a new device generation",
    "rapid re-enumeration: automatic recovery blocked",
    "waiting for active laptop panel and Hyprland", "waiting for stable exact generation",
    "attempt budget exhausted: manual recovery required", "automatic attempt cooldown",
    "stable approved generation ready", "not started",
    "managed KMS started; physical confirmation remains separate"]

theorem short_reason {text : String} (fixed : text ∈ fixedReasons) :
    Json.escapedLength text ≤ 4416 := by
  have spelled : fixedReasons = [_, _, _, _, _, _, _, _, _, _, _, _, _, _, _, _, _, _, _, _, _].map
    String.ofList := rfl
  have visible := @Json.escapedLength_spelled_le _ _ 100 spelled (by decide)
  exact (visible text fixed).trans (by decide)

section Policy

variable {floats : Floats} {state : State}

/-- A bounded ledger with one cause at most. -/
abbrev State.Plain (floats : Floats) (state : State) : Prop := state.Bounded floats ∧ state.Light

theorem State.Plain.good (plain : state.Plain floats) : state.Good floats := ⟨plain.1, .inl plain.2⟩

/-- A ledger that differs in its causes only is as bounded. -/
theorem State.Bounded.with_causes (bounded : state.Bounded floats) (circuit : Option String)
    (reason : String) : State.Bounded floats { state with circuit := circuit, reason := reason } :=
  ⟨⟨bounded.sound.few, bounded.sound.attempts, bounded.sound.candidateSince,
    bounded.sound.lastAttempt⟩, bounded.bootId, bounded.candidate, bounded.managed,
    bounded.inflight⟩

theorem State.Plain.answer (plain : state.Plain floats) (action : Action) {reason : String}
    (short : Json.escapedLength reason ≤ 4416) :
    State.Plain floats (state.answer action reason).1 :=
  ⟨plain.1.with_causes state.circuit reason, plain.2.circuit, short⟩

theorem State.Plain.trip (plain : state.Plain floats) (action : Action) {reason : String}
    (short : Json.escapedLength reason ≤ 4416) :
    State.Plain floats (state.trip action reason).1 :=
  ⟨plain.1.with_causes (some reason) reason, fun _ same => Option.some.inj same ▸ short, short⟩

theorem State.Plain.fail (bounded : state.Bounded floats) {text : String}
    (short : Json.escapedLength text ≤ 4416) : State.Plain floats (state.fail text) :=
  ⟨bounded.with_causes (some text) text, fun _ same => Option.some.inj same ▸ short, short⟩

/-- Forgetting the candidate keeps a ledger bounded. -/
theorem State.Bounded.forget (bounded : state.Bounded floats) :
    State.Bounded floats { state with candidate := none } :=
  ⟨⟨bounded.sound.few, bounded.sound.attempts, bounded.sound.candidateSince,
    bounded.sound.lastAttempt⟩, bounded.bootId, (fun _ absent => nomatch absent), bounded.managed,
    bounded.inflight⟩

theorem State.Plain.consider (plain : state.Plain floats) {generation : String} {now : ℚ}
    (digest : Digest generation) (stamp : floats.IsStamp now) :
    State.Plain floats (state.consider generation now) := by
  unfold State.consider
  split_ifs
  · have bounded := plain.1
    exact ⟨⟨⟨bounded.sound.few, bounded.sound.attempts, .inr stamp, bounded.sound.lastAttempt⟩,
      bounded.bootId, fun _ same => Option.some.inj same ▸ digest, bounded.managed,
      bounded.inflight⟩, plain.2.circuit, plain.2.reason⟩
  · exact plain

/-- Repeating the circuit as the reason leaves a heavy ledger as it is. -/
theorem State.Heavy.same (heavy : state.Heavy floats) :
    ({ state with reason := state.circuit.getD "", circuit := some (state.circuit.getD "") } : State) =
      state := by
  rw [heavy.cause, Option.getD_some]
  have circuit : some state.reason = state.circuit := heavy.cause.symm
  rw [circuit]

theorem State.Good.plain (good : state.Good floats) (open_ : truthy state.circuit = false) :
    state.Plain floats :=
  ⟨good.bounded, good.causes.resolve_right fun heavy =>
    Bool.false_ne_true (open_.symm.trans heavy.latched)⟩

end Policy

/-! ### What the operations make of a good ledger -/

section Transitions

variable {floats : Floats} {state : State}

/-- A good ledger whose causes stay and which otherwise does not grow stays good. -/
theorem State.Good.calm (good : state.Good floats) {after : State} (bounded : after.Bounded floats)
    (circuit : after.circuit = state.circuit) (reason : after.reason = state.reason)
    (core : after.coreSize floats ≤ state.coreSize floats)
    (inflight : inflightLength after.inflight ≤ 24) : after.Good floats := by
  refine ⟨bounded, ?_⟩
  rcases good.causes with light | heavy
  · exact .inl ⟨circuit ▸ light.circuit, reason ▸ light.reason⟩
  · have room := heavy.room
    have desired := boolLength_le after.desired
    have paused := boolLength_le after.paused
    have cause : after.circuit = some after.reason := by rw [circuit, reason, heavy.cause]
    refine .inr ⟨circuit ▸ heavy.latched, cause, ?_, by rw [reason]; omega⟩
    rw [State.size, cause, optionalLength, reason]
    omega

theorem bounded_begin {action : String} (short : Json.escapedLength action ≤ 10)
    {generation : Option String} (digest : ∀ text, generation = some text → Digest text) :
    (Inflight.begin action generation).Bounded :=
  ⟨short, digest, (fun _ absent => nomatch absent), (fun _ absent => nomatch absent), .inl rfl⟩

/-- A marker, the intent and the pause may change in a bounded ledger. -/
theorem State.Bounded.mark (bounded : state.Bounded floats) (desired paused : Bool)
    {inflight : Option Inflight} (marker : ∀ marker, inflight = some marker → marker.Bounded) :
    State.Bounded floats
      { state with desired := desired, paused := paused, inflight := inflight } :=
  ⟨⟨bounded.sound.few, bounded.sound.attempts, bounded.sound.candidateSince,
    bounded.sound.lastAttempt⟩, bounded.bootId, bounded.candidate, bounded.managed, marker⟩

theorem State.Good.mark (good : state.Good floats) (desired paused : Bool) {action : String}
    (short : Json.escapedLength action ≤ 10) :
    State.Good floats { state with
      desired := desired, paused := paused, inflight := some (.begin action none) } := by
  refine good.calm (good.bounded.mark desired paused fun marker same => ?_) rfl rfl le_rfl ?_
  · exact Option.some.inj same ▸ bounded_begin short fun _ absent => nomatch absent
  · show 14 + Json.escapedLength action + 0 + 0 + 0 ≤ 24
    omega

/-- A clean stop keeps a ledger good. -/
theorem State.Good.stopped (good : state.Good floats) : state.stopped.Good floats := by
  have bounded := good.bounded
  have managed := (optionalLength_digest bounded.managed).1
  refine good.calm ⟨⟨bounded.sound.few, bounded.sound.attempts, bounded.sound.candidateSince,
    bounded.sound.lastAttempt⟩, bounded.bootId, bounded.candidate, (fun _ absent => nomatch absent),
    fun _ absent => nomatch absent⟩ rfl rfl ?_ (show 4 ≤ 24 by decide)
  show 185 + attemptsLength floats state.attempts + optionalLength state.bootId +
    optionalLength state.candidate + stampLength floats state.candidateSince +
    optionalStampLength floats state.lastAttempt + 4 ≤ state.coreSize floats
  rw [State.coreSize]
  omega

/-- Resuming keeps a ledger good. -/
theorem State.Good.resumed (good : state.Good floats) (idle : state.inflight = none) :
    State.Good floats { state with paused := false, candidate := none } := by
  have bounded := good.bounded
  have candidate := (optionalLength_digest bounded.candidate).1
  refine good.calm ⟨⟨bounded.sound.few, bounded.sound.attempts, bounded.sound.candidateSince,
    bounded.sound.lastAttempt⟩, bounded.bootId, (fun _ absent => nomatch absent), bounded.managed,
    bounded.inflight⟩ rfl rfl ?_ ?_
  · show 185 + attemptsLength floats state.attempts + optionalLength state.bootId + 4 +
      stampLength floats state.candidateSince + optionalStampLength floats state.lastAttempt +
      optionalLength state.managedGeneration ≤ state.coreSize floats
    rw [State.coreSize]
    omega
  · show inflightLength state.inflight ≤ 24
    rw [idle]
    decide

/-- The ledger of an attempt about to be made is plain, if the policy afforded it. -/
theorem State.Plain.attempting (plain : state.Plain floats) {generation : String} {stamp last : ℚ}
    (few : state.attempts.length < bootAttempts) (digest : Digest generation)
    (stamped : floats.IsStamp stamp) (lasted : floats.IsStamp last) :
    State.Plain floats (state.attempting generation stamp last) := by
  have bounded := plain.1
  refine ⟨⟨⟨?_, ?_, bounded.sound.candidateSince, fun _ same => Option.some.inj same ▸ lasted⟩,
    bounded.bootId, bounded.candidate, bounded.managed, fun _ same => Option.some.inj same ▸
      bounded_begin ?_ fun _ same => Option.some.inj same ▸ digest⟩,
    plain.2.circuit, plain.2.reason⟩
  · show (state.attempts ++ [stamp]).length ≤ bootAttempts
    rw [List.length_append, List.length_singleton]
    exact few
  · exact List.forall_mem_append.mpr ⟨bounded.sound.attempts, List.forall_mem_singleton.mpr stamped⟩
  · decide

/-- A clean start keeps a ledger plain. -/
theorem State.Plain.started (plain : state.Plain floats) {generation : String}
    (digest : Digest generation) : State.Plain floats (state.started generation) := by
  have bounded := plain.1
  refine ⟨⟨⟨bounded.sound.few, bounded.sound.attempts, bounded.sound.candidateSince,
    bounded.sound.lastAttempt⟩, bounded.bootId, bounded.candidate,
    fun _ same => Option.some.inj same ▸ digest, fun _ absent => nomatch absent⟩,
    plain.2.circuit, ?_⟩
  show Json.escapedLength "managed KMS started; physical confirmation remains separate" ≤ 4416
  exact short_reason (by simp [fixedReasons])

/-- The causes of a failed start and of its failed cleanup fit beside the ledger that recorded
the attempt: the first is written twice, the front of the second three times. -/
def CleanupFits (floats : Floats) (recorded : State) (text cleanupText : String) : Prop :=
  recorded.coreSize floats + boolLength recorded.desired + boolLength recorded.paused +
    inflightLength recorded.inflight + 2 * Json.escapedLength text +
      3 * Json.escapedLength (clipped cleanupText) + 59 ≤ 16384

end Transitions

end Trigger6.Controller
