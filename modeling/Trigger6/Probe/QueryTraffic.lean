/-
This file proves what a query-only probe asks of the device: five requests at
most, each of them admitted by the gate, in an order in which each depends on
the answers to those before it.
-/

import Trigger6.Probe.Probe

namespace Trigger6.Probe

open Bytes Driver Interaction

/-! ### The order of the requests -/

/-- The head an output mask selects. -/
def Params.selected (params : Params) : HeadId :=
  if params.outputMask = 1 then .primary else .secondary

/-- A vendor IN request, into a buffer of `target` bytes. -/
structure Request.Asks (request : Request) (asked : Asked) (target : Nat) : Prop where
  transfer : request.transfer =
    .controlIn asked.request asked.value asked.index asked.size
  target : request.target = target

/-- The request was answered in full, with this little-endian number. -/
def Request.Answers (request : Request) (value : Nat) : Prop :=
  request.outcome.complete request.transfer = true ∧ fromLittleEndian request.received = value

def askRam : Asked := ⟨reqGetRam, 0, 0, 4⟩
def askStatus (head : HeadId) : Asked := ⟨reqGetStatus, head.outputIdx, 0, 1⟩
def askEdid (head : HeadId) : Asked := ⟨reqGetEdid, 0, head.outputIdx, 128⟩
def askCount : Asked := ⟨reqGetResCount, 0, 0, 4⟩
def askTable (first entries : Nat) : Asked :=
  ⟨reqGetResTable, 0, first * resEntrySize, entries * resEntrySize⟩

/-- What may be asked after some requests. -/
def Next (params : Params) (request : Request) : List Request → Prop
  | [] => request.Asks askRam 4
  | [ram] => ram.Answers ramMb ∧ request.Asks (askStatus params.selected) 1
  | [_, status] => status.Answers 1 ∧ request.Asks (askEdid params.selected) edidDataSize
  | [_, _, edid] => params.queryTimings = true ∧
      edid.outcome.complete edid.transfer = true ∧ edidBaseBlockValid edid.received = true ∧
      request.Asks askCount 4
  | [_, _, _, counted] => ∃ count, counted.Answers count ∧
      (params.queryTimingPage1 = true → count = 36) ∧ firstEntry params < count ∧
      request.Asks (askTable (firstEntry params) (min (count - firstEntry params) 16))
        (min (count - firstEntry params) 16 * resEntrySize)
  | _ => False

/-- Each request is one that may be asked after those before it. -/
def InOrder (params : Params) (requests : List Request) : Prop :=
  ∀ earlier request later, requests = earlier ++ request :: later → Next params request earlier

theorem inOrder_nil (params : Params) : InOrder params [] := by
  intro earlier request later same
  exact absurd same (by simp)

theorem InOrder.append {params : Params} {requests : List Request} {request : Request}
    (ordered : InOrder params requests) (next : Next params request requests) :
    InOrder params (requests ++ [request]) := by
  intro earlier other later same
  rcases List.eq_nil_or_concat later with rfl | ⟨rest, last, rfl⟩
  · obtain ⟨rfl, single⟩ := List.append_inj' same rfl
    obtain rfl := List.singleton_inj.mp single
    exact next
  · rw [List.concat_eq_append, ← List.cons_append, ← List.append_assoc] at same
    exact ordered earlier other rest (List.append_inj' same rfl).1

/-! ### One transfer -/

/-- What a transfer leaves: it was not made, or it was and a success hands over its answer. -/
structure Transferred (asked : Asked) (target : Nat) (before : Probing)
    (result : Except Errno (List Byte)) (after : Probing) : Prop where
  refused : after.refused = before.refused
  heads : after.heads = before.heads
  traffic : (after.traffic = before.traffic ∧ ∀ data, result ≠ .ok data) ∨
    ∃ request : Request, request.Asks asked target ∧
      after.traffic = before.traffic ++ [request] ∧
      request.received.length = asked.size ∧
      ∀ data, result = .ok data →
        request.outcome.complete request.transfer = true ∧ request.received = data

theorem length_receive (outcome : Outcome) (transfer : Transfer) (data : List Byte) :
    (receive outcome transfer data).length = transfer.size := by
  rw [receive]
  split
  · rw [List.length_take, List.length_append, List.length_replicate]
    omega
  · exact List.length_replicate

section Transfers

variable {params : Params} {asked : Asked} {target : Nat} {dev : Probing}

theorem finishControl_ends {transfer : Transfer} {answer : Outcome × List Byte}
    {post : Except Errno (List Byte) → Probing → Prop}
    (complete : answer.1.complete transfer = true → post (.ok answer.2) dev)
    (failed : ∀ errno, post (.error errno)
      { dev with ioFaulted := true, ioLastError := some errno }) :
    Ends exec post (finishControl transfer answer).run dev := by
  unfold finishControl
  by_cases whole : answer.1.complete transfer = true
  · rw [if_pos whole]
    exact complete whole
  · rw [if_neg whole]
    exact fun input => ⟨_, _, rfl, failed _⟩

/-- A transfer the gate admits. -/
theorem ctrlIn_ends (admitted : params.queryOnly = true → queryInAllowed params.outputMask
    params.queryTimings params.queryTimingPage1 asked = true) :
    Ends exec (Transferred asked target dev) (ctrlIn params asked target).run dev := by
  have refuses : ∀ {errno : Errno}, Transferred asked target dev (.error errno) dev :=
    ⟨rfl, rfl, .inl ⟨rfl, nofun⟩⟩
  have gate : ¬ (params.queryOnly && !queryInAllowed params.outputMask params.queryTimings
      params.queryTimingPage1 asked) = true := by
    intro closed
    rw [Bool.and_eq_true, Bool.not_eq_true'] at closed
    rw [admitted closed.1] at closed
    exact absurd closed.2 (by decide)
  unfold ctrlIn
  intro input
  refine ⟨dev, dev, rfl, ?_⟩
  show Ends _ _ (ExceptT.run (if (params.manualOnly || dev.ioFaulted) = true then _ else _)) _
  by_cases closed : (params.manualOnly || dev.ioFaulted) = true
  · rw [if_pos closed]
    exact refuses
  · rw [if_neg closed, if_neg gate]
    by_cases empty : asked.size = 0
    · rw [if_pos empty]
      exact refuses
    · rw [if_neg empty]
      intro input
      refine ⟨input.allocated, dev, rfl, ?_⟩
      show Ends _ _ (ExceptT.run (if (!input.allocated) = true then _ else _)) _
      split
      · exact refuses
      · intro input
        refine ⟨_, _, rfl, finishControl_ends (fun whole => ?_) fun errno => ?_⟩
        · refine ⟨rfl, rfl, .inr ⟨_, ⟨rfl, rfl⟩, rfl, length_receive _ _ _, ?_⟩⟩
          exact fun data same => ⟨whole, Except.ok.inj same⟩
        · exact ⟨rfl, rfl, .inr ⟨_, ⟨rfl, rfl⟩, rfl, length_receive _ _ _, nofun⟩⟩

end Transfers

/-! ### What the gate admits -/

/-- The parameters of a probe in query mode. -/
structure Querying (params : Params) : Prop where
  valid : params.outputMask = 1 ∨ params.outputMask = 2
  timings : params.queryTimings = true → params.outputMask = 1
  page : params.queryTimingPage1 = true → params.queryTimings = true

theorem querying_of_admitted {params : Params} (admitted : paramsRefused params = false) :
    Querying params := by
  simp only [paramsRefused, outputMaskValid, Bool.or_eq_false_iff] at admitted
  obtain ⟨⟨⟨⟨⟨⟨⟨⟨mask, -⟩, -⟩, -⟩, -⟩, -⟩, page⟩, -⟩, timings⟩ := admitted
  refine ⟨?_, fun on => ?_, fun on => ?_⟩
  · rwa [Bool.not_eq_false', Bool.or_eq_true, beq_iff_eq, beq_iff_eq] at mask
  · rw [on, Bool.true_and, Bool.or_eq_false_iff, Bool.or_eq_false_iff, Bool.or_eq_false_iff] at timings
    simpa using timings.1.1.2
  · simpa [on] using page

section Gate

variable {params : Params} (querying : Querying params)

include querying

/-- In query mode the gate decides by the request alone. -/
theorem queryInAllowed_eq (asked : Asked) :
    queryInAllowed params.outputMask params.queryTimings params.queryTimingPage1 asked =
      if asked.request = reqGetRam then asked.value == 0 && asked.index == 0 && asked.size == 4
      else if asked.request = reqGetStatus then
        asked.value == params.selected.outputIdx && asked.index == 0 && asked.size == 1
      else if asked.request = reqGetEdid then
        asked.value == 0 && asked.index == params.selected.outputIdx && asked.size == 128
      else if asked.request = reqGetResCount then
        params.queryTimings && asked.value == 0 && asked.index == 0 && asked.size == 4
      else if asked.request = reqGetResTable then
        if params.queryTimingPage1 then
          params.queryTimings && asked.value == 0 && asked.index == 512 && asked.size == 512
        else params.queryTimings && asked.value == 0 && asked.index == 0 && asked.size != 0 &&
          asked.size ≤ resTableSize && asked.size % resEntrySize == 0
      else false := by
  have mask : ¬ (params.outputMask ≠ 1 ∧ params.outputMask ≠ 2) := by
    have := querying.valid
    omega
  have timings : ¬ (params.queryTimings && params.outputMask != 1) = true := by
    intro closed
    rw [Bool.and_eq_true] at closed
    rw [querying.timings closed.1] at closed
    exact absurd closed.2 (by decide)
  have page : ¬ (params.queryTimingPage1 && !params.queryTimings) = true := by
    intro closed
    rw [Bool.and_eq_true] at closed
    rw [querying.page closed.1] at closed
    exact absurd closed.2 (by decide)
  have head : (if params.outputMask = 1 then 0 else 1) = params.selected.outputIdx := by
    rw [Params.selected]
    split <;> rfl
  unfold queryInAllowed
  rw [if_neg mask, if_neg timings, if_neg page, head]

theorem admits_ram : queryInAllowed params.outputMask params.queryTimings
    params.queryTimingPage1 askRam = true := by
  rw [queryInAllowed_eq querying]
  rfl

theorem admits_status : queryInAllowed params.outputMask params.queryTimings
    params.queryTimingPage1 (askStatus params.selected) = true := by
  rw [queryInAllowed_eq querying]
  cases params.selected <;> rfl

theorem admits_edid : queryInAllowed params.outputMask params.queryTimings
    params.queryTimingPage1 (askEdid params.selected) = true := by
  rw [queryInAllowed_eq querying]
  cases params.selected <;> rfl

theorem admits_count (on : params.queryTimings = true) : queryInAllowed params.outputMask
    params.queryTimings params.queryTimingPage1 askCount = true := by
  rw [queryInAllowed_eq querying, on]
  rfl

/-- The page that follows the first record of the page, of a count the query accepts. -/
theorem admits_table (on : params.queryTimings = true) {count : Nat}
    (measured : params.queryTimingPage1 = true → count = 36) (more : firstEntry params < count) :
    queryInAllowed params.outputMask params.queryTimings params.queryTimingPage1
      (askTable (firstEntry params) (min (count - firstEntry params) 16)) = true := by
  rw [queryInAllowed_eq querying, on]
  cases page : params.queryTimingPage1 with
  | true =>
    rw [measured page, firstEntry, if_pos page]
    rfl
  | false =>
    have first : firstEntry params = 0 := by
      rw [firstEntry, if_neg (by rw [page]; decide)]
    rw [first] at more ⊢
    have positive : (askTable 0 (min (count - 0) 16)).size ≠ 0 := by
      show min (count - 0) 16 * 32 ≠ 0
      omega
    have bounded : (askTable 0 (min (count - 0) 16)).size ≤ resTableSize := by
      show min (count - 0) 16 * 32 ≤ 512
      omega
    have whole : (askTable 0 (min (count - 0) 16)).size % resEntrySize = 0 :=
      Nat.mul_mod_left _ _
    show (true && true && true && (askTable 0 (min (count - 0) 16)).size != 0 &&
      decide ((askTable 0 (min (count - 0) 16)).size ≤ resTableSize) &&
      (askTable 0 (min (count - 0) 16)).size % resEntrySize == 0) = true
    rw [Nat.sub_zero] at positive bounded whole ⊢
    simp [positive, bounded, whole]

end Gate

/-! ### The stages of the probe -/

/-- These are the requests since `before`; they are in order, and the gate refused none. -/
structure Reached (params : Params) (before : Probing) (requests : List Request)
    (after : Probing) : Prop where
  traffic : after.traffic = before.traffic ++ requests
  ordered : InOrder params requests
  refused : after.refused = before.refused

def Orderly (params : Params) (before after : Probing) : Prop :=
  ∃ requests, Reached params before requests after

section Stages

variable {params : Params} {before dev after : Probing} {requests : List Request} {asked : Asked}
  {target : Nat}

theorem Reached.refl (params : Params) (dev : Probing) : Reached params dev [] dev :=
  ⟨(List.append_nil _).symm, inOrder_nil params, rfl⟩

theorem Reached.same (reached : Reached params before requests dev)
    (traffic : after.traffic = dev.traffic) (refused : after.refused = dev.refused) :
    Reached params before requests after :=
  ⟨traffic.trans reached.traffic, reached.ordered, refused.trans reached.refused⟩

theorem Reached.heads (reached : Reached params before requests dev)
    (heads : HeadId → ProbedHead) : Reached params before requests { dev with heads := heads } :=
  reached.same rfl rfl

/-- A transfer that may follow, and a success by its request. -/
theorem Reached.ctrlIn (reached : Reached params before requests dev)
    (admitted : queryInAllowed params.outputMask params.queryTimings params.queryTimingPage1
      asked = true)
    (next : ∀ request : Request, request.Asks asked target → Next params request requests) :
    Ends exec (fun result after => Orderly params before after ∧
        after.heads = dev.heads ∧ ∀ data, result = .ok data → ∃ request : Request,
          Reached params before (requests ++ [request]) after ∧
            data.length = asked.size ∧
            request.outcome.complete request.transfer = true ∧ request.received = data)
      (ctrlIn params asked target).run dev := by
  refine (ctrlIn_ends fun _ => admitted).mono fun result after transferred => ?_
  rcases transferred.traffic with ⟨same, failed⟩ | ⟨request, asks, more, length, answered⟩
  · exact ⟨⟨requests, reached.same same transferred.refused⟩, transferred.heads,
      fun data success => absurd success (failed data)⟩
  · have extended : Reached params before (requests ++ [request]) after := by
      refine ⟨?_, reached.ordered.append (next request asks), ?_⟩
      · rw [more, reached.traffic, List.append_assoc]
      · rw [transferred.refused, reached.refused]
    refine ⟨⟨_, extended⟩, transferred.heads, fun data success => ?_⟩
    obtain ⟨complete, rfl⟩ := answered data success
    exact ⟨request, extended, length, complete, rfl⟩

/-- The RAM query is the first request, and its answer is checked. -/
theorem queryRam_ends (querying : Querying params) (reached : Reached params before [] dev) :
    Ends exec (fun result after => Orderly params before after ∧ (result = .ok () →
        ∃ ram : Request, Reached params before [ram] after ∧ ram.Answers ramMb))
      (queryRam params).run dev := by
  unfold queryRam
  refine Ends.tryBind (Ends.tryCatch ((reached.ctrlIn (admits_ram querying)
    fun request asks => asks).mono fun result after asked => ?_))
  obtain ⟨orderly, -, answered⟩ := asked
  cases result with
  | error errno => exact ⟨orderly, nofun⟩
  | ok data =>
    obtain ⟨ram, reached, -, complete, rfl⟩ := answered data rfl
    intro input
    refine ⟨_, _, rfl, ?_⟩
    have kept : Reached params before [ram] { after with ramMb := fromLittleEndian ram.received } :=
      reached.same rfl rfl
    show Ends _ _ (ExceptT.run (if fromLittleEndian ram.received ≠ ramMb then _ else _)) _
    by_cases measured : fromLittleEndian ram.received = ramMb
    · rw [if_neg (not_not.mpr measured)]
      exact ⟨⟨_, kept⟩, fun _ => ⟨ram, kept, complete, measured⟩⟩
    · rw [if_pos measured]
      exact ⟨⟨_, kept⟩, nofun⟩

/-- The requests up to an EDID that was read and is valid. -/
def ReadEdid (requests : List Request) : Prop :=
  ∃ ram status edid : Request, requests = [ram, status, edid] ∧
    edid.outcome.complete edid.transfer = true ∧ edidBaseBlockValid edid.received = true

/-- The EDID of the selected head is read after its status, and is checked. -/
theorem probeEdid_ends (querying : Querying params) {ram status : Request}
    (reached : Reached params before [ram, status] dev) (connected : status.Answers 1) :
    Ends exec (fun result after => Orderly params before after ∧ (result = .ok () →
        ∃ requests, Reached params before requests after ∧ ReadEdid requests))
      (probeEdid params params.selected).run dev := by
  unfold probeEdid
  intro input
  refine ⟨_, _, rfl, ?_⟩
  refine Ends.tryBind (((reached.heads _).ctrlIn (admits_edid querying)
    fun request asks => ⟨connected, asks⟩).mono fun result after asked => ?_)
  obtain ⟨orderly, -, answered⟩ := asked
  cases result with
  | error errno => exact ⟨orderly, nofun⟩
  | ok data =>
    obtain ⟨edid, extended, -, complete, rfl⟩ := answered data rfl
    intro input
    refine ⟨_, _, rfl, ?_⟩
    by_cases valid : edidBaseBlockValid edid.received = true
    · show Ends _ _ (ExceptT.run (if (!edidBaseBlockValid edid.received) = true then _ else _)) _
      rw [if_neg (by rw [valid]; decide)]
      intro input
      refine ⟨_, _, rfl, ⟨_, extended.same rfl rfl⟩, fun _ => ⟨_, extended.same rfl rfl, ?_⟩⟩
      exact ⟨ram, status, edid, rfl, complete, valid⟩
    · show Ends _ _ (ExceptT.run (if (!edidBaseBlockValid edid.received) = true then _ else _)) _
      rw [if_pos (by simpa using valid)]
      exact ⟨⟨_, extended.same rfl rfl⟩, nofun⟩

/-- The status of the selected head is asked after the RAM, and its EDID if it is connected. -/
theorem setUpHead_selected (querying : Querying params) (selects : params.selects params.selected)
    {ram : Request} (reached : Reached params before [ram] dev) (measured : ram.Answers ramMb) :
    Ends exec (fun result after => Orderly params before after ∧ (result = .ok () →
        ∃ requests, Reached params before requests after ∧
          ((after.heads params.selected).connected = true → ReadEdid requests)))
      (setUpHead params params.selected).run dev := by
  unfold setUpHead probeHead
  intro input
  refine ⟨_, _, rfl, ?_⟩
  show Ends _ _ (ExceptT.run (if params.selects params.selected = true then _ else _)) _
  rw [if_pos selects]
  refine Ends.tryBind (((reached.heads _).ctrlIn (admits_status querying)
    fun request asks => ⟨measured, asks⟩).mono fun result after asked => ?_)
  obtain ⟨orderly, -, answered⟩ := asked
  cases result with
  | error errno => exact ⟨orderly, nofun⟩
  | ok data =>
    obtain ⟨status, extended, -, complete, rfl⟩ := answered data rfl
    intro input
    refine ⟨_, _, rfl, ?_⟩
    show Ends _ _ (ExceptT.run (if fromLittleEndian status.received = 1 then _ else _)) _
    by_cases connected : fromLittleEndian status.received = 1
    · rw [if_pos connected]
      refine (probeEdid_ends querying (extended.heads _) ⟨complete, connected⟩).mono ?_
      rintro result last ⟨orderly, succeeded⟩
      refine ⟨orderly, fun success => ?_⟩
      obtain ⟨requests, reached, read⟩ := succeeded success
      exact ⟨requests, reached, fun _ => read⟩
    · rw [if_neg connected]
      refine ⟨⟨_, extended.heads _⟩, fun _ => ⟨_, extended.heads _, fun found => ?_⟩⟩
      change (Function.update after.heads _ _ params.selected).connected = true at found
      rw [Function.update_self] at found
      exact absurd (beq_iff_eq.mp found) connected

/-- A head that is not selected is not asked. -/
theorem setUpHead_other {head : HeadId} (other : params.selects head = false) :
    Ends exec (fun result after => result = .ok () ∧ after.traffic = dev.traffic ∧
        after.refused = dev.refused ∧ ∀ kept ≠ head, after.heads kept = dev.heads kept)
      (setUpHead params head).run dev := by
  unfold setUpHead probeHead
  intro input
  refine ⟨_, _, rfl, ?_⟩
  show Ends _ _ (ExceptT.run (if params.selects head = true then _ else _)) _
  rw [if_neg (by rw [other]; decide)]
  exact ⟨rfl, rfl, rfl, fun kept different => Function.update_of_ne different _ _⟩

/-- The queries of every probe ask the selected head alone. -/
theorem queryDevice_ends (querying : Querying params) (reached : Reached params before [] dev) :
    Ends exec (fun result after => Orderly params before after ∧ (result = .ok () →
        ∃ requests, Reached params before requests after ∧
          ((after.heads params.selected).connected = true → ReadEdid requests)))
      (queryDevice params).run dev := by
  refine Ends.tryBind ((queryRam_ends querying reached).mono fun result asked queried => ?_)
  cases result with
  | error errno => exact ⟨queried.1, nofun⟩
  | ok done =>
    obtain ⟨ram, reached, measured⟩ := queried.2 rfl
    rcases querying.valid with mask | mask
    · -- the primary head, and then nothing of the other
      have selected : params.selected = .primary := by rw [Params.selected, if_pos mask]
      have selects : params.selects params.selected = true := by
        rw [selected, Params.selects, mask]
        rfl
      have other : params.selects .secondary = false := by
        rw [Params.selects, mask]
        rfl
      have first := setUpHead_selected querying selects reached measured
      rw [selected] at first ⊢
      refine Ends.tryBind (first.mono fun result after ended => ?_)
      cases result with
      | error errno => exact ⟨ended.1, nofun⟩
      | ok done =>
        refine (setUpHead_other other).mono ?_
        rintro result last ⟨rfl, traffic, refused, kept⟩
        obtain ⟨requests, extended, read⟩ := ended.2 rfl
        refine ⟨⟨requests, extended.same traffic refused⟩, fun _ =>
          ⟨requests, extended.same traffic refused, fun found => read ?_⟩⟩
        rwa [kept .primary (by decide)] at found
    · have selected : params.selected = .secondary := by
        rw [Params.selected, if_neg (by omega)]
      have selects : params.selects params.selected = true := by
        rw [selected, Params.selects, mask]
        rfl
      have other : params.selects .primary = false := by
        rw [Params.selects, mask]
        rfl
      refine Ends.tryBind ((setUpHead_other other).mono ?_)
      rintro result after ⟨rfl, traffic, refused, -⟩
      have second := setUpHead_selected querying selects (reached.same traffic refused) measured
      rw [selected] at second ⊢
      exact second

/-- The records a page of an accepted count holds. -/
theorem entries_eq {count : Nat} (bound : count < 2 ^ 32)
    (measured : params.queryTimingPage1 = true → count = 36) :
    Diagnostics.timingQueryEntries (Diagnostics.remainingEntries count (firstEntry params)) =
      min (count - firstEntry params) 16 := by
  have page : firstEntry params ≤ count := by
    rw [firstEntry]
    split
    · rw [measured ‹_›]
      decide
    · exact Nat.zero_le _
  have remaining : Diagnostics.remainingEntries count (firstEntry params) =
      count - firstEntry params := by
    rw [Diagnostics.remainingEntries, Nat.add_comm, Nat.add_sub_assoc page, Nat.add_mod_left,
      Nat.mod_eq_of_lt (by omega)]
  rw [remaining, Diagnostics.timingQueryEntries_eq]
  rfl

/-- The timing query asks for the count after the EDID, and for the page of an accepted count. -/
theorem queryHead0Timings_ends (querying : Querying params)
    (reached : Reached params before requests dev)
    (read : (dev.heads params.selected).connected = true → ReadEdid requests) :
    Ends exec (fun _ after => Orderly params before after) (queryHead0Timings params).run dev := by
  unfold queryHead0Timings
  refine Ends.liftBind (Ends.perform fun input => ⟨_, _, rfl, ?_⟩)
  refine Ends.guard (fun _ => ⟨requests, reached⟩) fun accepted => ?_
  simp only [Bool.or_eq_true, Bool.not_eq_true', not_or, Bool.not_eq_false] at accepted
  obtain ⟨⟨⟨⟨⟨-, timings⟩, -⟩, connected⟩, -⟩, -⟩ := accepted
  have selected : params.selected = .primary := by
    rw [Params.selected, if_pos (querying.timings timings)]
  rw [selected] at read
  obtain ⟨ram, status, edid, rfl, complete, valid⟩ := read connected
  refine Ends.tryBind ((reached.ctrlIn (admits_count querying timings)
    fun request asks => ⟨timings, complete, valid, asks⟩).mono fun result after asked => ?_)
  obtain ⟨orderly, -, answered⟩ := asked
  cases result with
  | error errno => exact orderly
  | ok data =>
    obtain ⟨counted, extended, length, whole, rfl⟩ := answered data rfl
    refine Ends.guard (fun _ => orderly) fun other => ?_
    have measured : params.queryTimingPage1 = true → fromLittleEndian counted.received = 36 := by
      simpa using other
    have bound : fromLittleEndian counted.received < 2 ^ 32 := by
      have := fromLittleEndian_lt counted.received
      rwa [show counted.received.length = 4 from length] at this
    have entries := entries_eq bound measured
    refine Ends.guard (fun _ => orderly) fun some => ?_
    rw [entries] at some ⊢
    have more : firstEntry params < fromLittleEndian counted.received := by omega
    refine Ends.liftBind (Ends.perform fun input => ⟨_, _, rfl, ?_⟩)
    refine Ends.guard (fun _ => orderly) fun _ => ?_
    refine Ends.tryBind ((extended.ctrlIn (admits_table querying timings measured more)
      fun request asks => ⟨_, ⟨whole, rfl⟩, measured, more, asks⟩).mono fun result after asked => ?_)
    cases result with
    | error errno => exact asked.1
    | ok data => exact asked.1

/-- Giving back what was taken asks nothing. -/
theorem errPut_ends (orderly : Orderly params before dev) :
    Ends exec (fun _ after => Orderly params before after) errPut dev := by
  obtain ⟨requests, reached⟩ := orderly
  intro _
  refine ⟨_, _, rfl, fun _ => ⟨_, _, rfl, fun _ => ⟨_, _, rfl, ?_⟩⟩⟩
  exact ⟨requests, reached.same rfl rfl⟩

theorem onFailure_ends {Value : Type} {body : Fallible Value}
    {post : Except Errno Value → Probing → Prop}
    (ends : Ends exec (fun result after => match result with
      | .ok value => post (.ok value) after
      | .error _ => Orderly params before after) body.run dev)
    (fails : ∀ errno after, Orderly params before after → post (.error errno) after) :
    Ends exec post (onFailure errPut body).run dev := by
  refine Ends.tryCatch (ends.mono fun result after holds => ?_)
  cases result with
  | ok value => exact holds
  | error errno =>
    refine Ends.liftBind ((errPut_ends holds).mono ?_)
    exact fun _ released orderly => fails errno released orderly

/-- Taking a resource asks nothing. -/
theorem acquire_ends (resource : Resource) (dev : Probing) :
    Ends exec (fun _ after => after.traffic = dev.traffic ∧ after.refused = dev.refused)
      (act (.acquire resource)) dev := by
  intro input
  cases refused : input.status with
  | some errno => exact ⟨some errno, dev, by simp only [exec, refused], rfl, rfl⟩
  | none =>
    refine ⟨none, { dev with held := Function.update dev.held resource true }, ?_, rfl, rfl⟩
    simp only [exec, refused]

theorem probeDevice_ends (querying : Querying params) (queryOnly : params.queryOnly = true)
    (dev : Probing) :
    Ends exec (fun _ after => Orderly params dev after) (probeDevice params).run dev := by
  unfold probeDevice acquire
  refine Ends.tryBind (Ends.liftBind ((acquire_ends .drmDevice dev).mono ?_))
  intro refused allocated first
  cases refused with
  | some errno => exact ⟨[], (Reached.refl params dev).same first.1 first.2⟩
  | none =>
    refine Ends.liftBind (Ends.perform fun _ => ⟨_, _, rfl, ?_⟩)
    refine Ends.liftBind (Ends.perform fun _ => ⟨_, _, rfl, ?_⟩)
    refine Ends.liftBind ((acquire_ends .dmaDevice _).mono fun _ offered second => ?_)
    refine Ends.liftBind (Ends.perform fun _ => ⟨_, _, rfl, ?_⟩)
    have silent : Reached params dev []
        { offered with held := Function.update offered.held .intfdata true } :=
      (Reached.refl params dev).same (second.1.trans first.1) (second.2.trans first.2)
    refine Ends.tryBind (onFailure_ends ((queryDevice_ends querying silent).mono ?_)
      fun _ _ (orderly : Orderly params dev _) => orderly)
    · rintro result queried ⟨orderly, succeeded⟩
      cases result with
      | error errno => exact orderly
      | ok done =>
        obtain ⟨requests, reached, read⟩ := succeeded rfl
        show Ends _ _ (ExceptT.run (if params.queryOnly = true then _ else _)) _
        rw [if_pos queryOnly]
        refine Ends.tryBind (onFailure_ends ?_
          fun _ _ (orderly : Orderly params dev _) => orderly)
        by_cases timings : params.queryTimings = true
        · rw [if_pos timings]
          refine Ends.tryBind ((queryHead0Timings_ends querying reached read).mono ?_)
          intro result asked orderly
          cases result with
          | error errno => exact orderly
          | ok log => exact errPut_ends orderly
        · rw [if_neg timings]
          exact errPut_ends orderly

end Stages

/-! ### What requests in order are -/

section Order

variable {params : Params} {requests : List Request}

theorem InOrder.next {earlier later : List Request} {request : Request}
    (ordered : InOrder params (earlier ++ request :: later)) : Next params request earlier :=
  ordered earlier request later rfl

theorem InOrder.init {earlier later : List Request} (ordered : InOrder params (earlier ++ later)) :
    InOrder params earlier := by
  rintro before request after rfl
  exact ordered before request (after ++ later) (by simp)

/-- The vendor request of a transfer IN. -/
def Request.code (request : Request) : Option Nat :=
  match request.transfer with
  | .controlIn code _ _ _ => some code
  | _ => none

/-- The requests of a query, in their order. -/
def queryCodes : List (Option Nat) :=
  [some reqGetRam, some reqGetStatus, some reqGetEdid, some reqGetResCount, some reqGetResTable]

theorem Next.code {request : Request} {earlier : List Request}
    (next : Next params request earlier) : queryCodes[earlier.length]? = some request.code := by
  have code : ∀ {asked target}, request.Asks asked target → request.code = some asked.request := by
    intro asked target asks
    rw [Request.code, asks.transfer]
  match earlier, next with
  | [], asks => rw [code asks]; rfl
  | [_], ⟨_, asks⟩ => rw [code asks]; rfl
  | [_, _], ⟨_, asks⟩ => rw [code asks]; rfl
  | [_, _, _], ⟨_, _, _, asks⟩ => rw [code asks]; rfl
  | [_, _, _, _], ⟨_, _, _, _, asks⟩ => rw [code asks]; rfl

/-- The requests are a beginning of the query's, so none is made twice. -/
theorem InOrder.codes (ordered : InOrder params requests) :
    requests.map Request.code = queryCodes.take requests.length := by
  induction requests using List.reverseRecOn with
  | nil => rfl
  | append_singleton earlier request inductionHypothesis =>
    rw [List.map_append, inductionHypothesis ordered.init, List.length_append,
      List.length_singleton, List.take_add_one, ordered.next.code]
    rfl

theorem InOrder.length_le (ordered : InOrder params requests) : requests.length ≤ 5 := by
  have lengths := congrArg List.length ordered.codes
  rw [List.length_map, List.length_take, show queryCodes.length = 5 from rfl] at lengths
  omega

theorem InOrder.nodup (ordered : InOrder params requests) :
    (requests.map Request.code).Nodup := by
  rw [ordered.codes]
  exact (List.take_sublist _ _).nodup (by decide)

/-- What stands in the requests in front of a count or a table. -/
theorem InOrder.timing {earlier later : List Request} {request : Request}
    (ordered : InOrder params (earlier ++ request :: later))
    (timing : request.code = some reqGetResCount ∨ request.code = some reqGetResTable) :
    ∃ ram status edid rest, earlier = ram :: status :: edid :: rest ∧
      params.queryTimings = true ∧ status.code = some reqGetStatus ∧ status.Answers 1 ∧
      edid.code = some reqGetEdid ∧ edid.outcome.complete edid.transfer = true ∧
      edidBaseBlockValid edid.received = true := by
  have code := ordered.next.code
  have late : 3 ≤ earlier.length := by
    by_contra early
    have cases : earlier.length = 0 ∨ earlier.length = 1 ∨ earlier.length = 2 := by omega
    rcases cases with length | length | length <;> rw [length] at code <;>
      rcases timing with same | same <;> rw [same] at code <;> exact absurd code (by decide)
  match earlier, late with
  | ram :: status :: edid :: rest, _ =>
    have asked : Next params status [ram] :=
      ordered [ram] status (edid :: rest ++ request :: later) rfl
    have read : Next params edid [ram, status] :=
      ordered [ram, status] edid (rest ++ request :: later) rfl
    have counted : ∃ count, Next params count [ram, status, edid] := by
      cases rest with
      | nil => exact ⟨request, ordered.next⟩
      | cons count rest =>
        exact ⟨count, ordered [ram, status, edid] count (rest ++ request :: later) rfl⟩
    obtain ⟨count, timings, complete, valid, -⟩ := counted
    exact ⟨ram, status, edid, rest, rfl, timings, (Option.some.inj asked.code).symm, read.1,
      (Option.some.inj read.code).symm, complete, valid⟩

/-- Each request is a vendor request IN that the gate admits, and its answer fits. -/
theorem InOrder.admitted (querying : Querying params) (ordered : InOrder params requests)
    {request : Request} (member : request ∈ requests) :
    ∃ asked target, request.Asks asked target ∧ queryInAllowed params.outputMask
      params.queryTimings params.queryTimingPage1 asked = true ∧ asked.size ≤ target := by
  obtain ⟨earlier, later, rfl⟩ := List.append_of_mem member
  match earlier, ordered.next, ordered with
  | [], asks, _ => exact ⟨_, _, asks, admits_ram querying, by decide⟩
  | [_], ⟨_, asks⟩, _ => exact ⟨_, _, asks, admits_status querying, Nat.le_refl 1⟩
  | [_, _], ⟨_, asks⟩, _ => exact ⟨_, _, asks, admits_edid querying, (by decide : 128 ≤ 256)⟩
  | [_, _, _], ⟨timings, _, _, asks⟩, _ =>
    exact ⟨_, _, asks, admits_count querying timings, by decide⟩
  | [ram, status, edid, counted], ⟨_, _, measured, more, asks⟩, ordered =>
    obtain ⟨timings, -⟩ := ordered [ram, status, edid] counted (request :: later) rfl
    exact ⟨_, _, asks, admits_table querying timings measured more, Nat.le_refl _⟩

/-- The table is one page of the records the count announced. -/
theorem InOrder.table (ordered : InOrder params requests) {request : Request}
    (member : request ∈ requests) (table : request.code = some reqGetResTable) :
    ∃ counted ∈ requests, ∃ count, counted.code = some reqGetResCount ∧ counted.Answers count ∧
      firstEntry params < count ∧
      request.Asks (askTable (firstEntry params) (min (count - firstEntry params) 16))
        (32 * min (count - firstEntry params) 16) := by
  obtain ⟨earlier, later, rfl⟩ := List.append_of_mem member
  have code := ordered.next.code
  rw [table] at code
  match earlier, ordered.next, ordered, code with
  | [], _, _, code => exact absurd (show queryCodes[0]? = _ from code) (by decide)
  | [_], _, _, code => exact absurd (show queryCodes[1]? = _ from code) (by decide)
  | [_, _], _, _, code => exact absurd (show queryCodes[2]? = _ from code) (by decide)
  | [_, _, _], _, _, code => exact absurd (show queryCodes[3]? = _ from code) (by decide)
  | [ram, status, edid, counted], ⟨count, answers, _, more, asks⟩, ordered, _ =>
    have next : Next params counted [ram, status, edid] :=
      ordered [ram, status, edid] counted (request :: later) rfl
    refine ⟨counted, by simp, count, (Option.some.inj next.code).symm, answers, more, ?_⟩
    rwa [Nat.mul_comm]

end Order

/-! ### The probe -/

/-- What a probe in query mode asked. -/
structure QueryTraffic (params : Params) (requests : List Request) : Prop where
  /-- The RAM, the status and the EDID of the selected head, the count and the table, each after
  the answers it depends on. -/
  ordered : InOrder params requests
  atMostFive : requests.length ≤ 5
  eachOnce : (requests.map Request.code).Nodup
  /-- Vendor requests IN that the gate admits, into buffers that hold their answers. -/
  admitted : ∀ request ∈ requests, ∃ asked target, request.Asks asked target ∧
    queryInAllowed params.outputMask params.queryTimings params.queryTimingPage1 asked = true ∧
    asked.size ≤ target
  /-- The timings are asked for only when they are on, of a connected head with a valid EDID. -/
  timing : ∀ request ∈ requests,
    request.code = some reqGetResCount ∨ request.code = some reqGetResTable →
      params.queryTimings = true ∧
      (∃ status ∈ requests, status.code = some reqGetStatus ∧ status.Answers 1) ∧
      ∃ edid ∈ requests, edid.code = some reqGetEdid ∧
        edid.outcome.complete edid.transfer = true ∧ edidBaseBlockValid edid.received = true
  /-- The table is read by the count, into a buffer of its size. -/
  table : ∀ request ∈ requests, request.code = some reqGetResTable →
    ∃ counted ∈ requests, ∃ count, counted.code = some reqGetResCount ∧ counted.Answers count ∧
      request.transfer.size = 32 * min (count - firstEntry params) 16 ∧
      request.target = request.transfer.size ∧
      32 ≤ request.transfer.size ∧ request.transfer.size ≤ 512

theorem queryTraffic_nil (params : Params) : QueryTraffic params [] := by
  refine ⟨inOrder_nil params, by decide, List.nodup_nil, ?_, ?_, ?_⟩ <;> intro request member
  all_goals exact absurd member List.not_mem_nil

theorem InOrder.traffic {params : Params} {requests : List Request} (querying : Querying params)
    (ordered : InOrder params requests) : QueryTraffic params requests where
  ordered := ordered
  atMostFive := ordered.length_le
  eachOnce := ordered.nodup
  admitted _ member := ordered.admitted querying member
  timing request member timing := by
    obtain ⟨earlier, later, rfl⟩ := List.append_of_mem member
    obtain ⟨ram, status, edid, rest, rfl, timings, asked, connected, read⟩ := ordered.timing timing
    exact ⟨timings, ⟨status, by simp, asked, connected⟩, edid, by simp, read⟩
  table request member table := by
    obtain ⟨counted, found, count, code, answers, more, asks⟩ := ordered.table member table
    have size : request.transfer.size = 32 * min (count - firstEntry params) 16 := by
      rw [asks.transfer]
      exact Nat.mul_comm _ 32
    refine ⟨counted, found, count, code, answers, size, asks.target.trans size.symm, ?_, ?_⟩
    · omega
    · omega

theorem usbProbe_ends {params : Params} (queryOnly : params.queryOnly = true)
    (interface : UsbInterface) (dev : Probing) :
    Ends exec (fun _ after => ∃ requests, Reached params dev requests after ∧
        QueryTraffic params requests) (usbProbe params interface).run dev := by
  have silent : Reached params dev [] dev := .refl params dev
  have nothing := queryTraffic_nil params
  unfold usbProbe
  refine Ends.guard (fun _ => ⟨[], silent, nothing⟩) fun _ => ?_
  refine Ends.guard (fun _ => ⟨[], silent, nothing⟩) fun _ => ?_
  by_cases manual : params.manualOnly = true
  · rw [if_pos manual]
    exact fun _ => ⟨_, _, rfl, [], silent.same rfl rfl, nothing⟩
  · rw [if_neg manual]
    refine Ends.guard (fun _ => ⟨[], silent, nothing⟩) fun accepted => ?_
    have querying := querying_of_admitted (eq_false_of_ne_true accepted)
    refine Ends.liftBind (Ends.perform fun _ => ⟨_, _, rfl, ?_⟩)
    refine Ends.guard (fun _ => ⟨[], silent.same rfl rfl, nothing⟩) fun _ => ?_
    refine (probeDevice_ends querying queryOnly _).mono ?_
    rintro result after ⟨requests, reached⟩
    exact ⟨requests, ⟨reached.traffic, reached.ordered, reached.refused⟩,
      reached.ordered.traffic querying⟩

/-- A query-only probe ends, whatever the firmware answers. Its requests are the query's, and the
gate refuses none. -/
theorem query_only_traffic (params : Params) (queryOnly : params.queryOnly = true)
    (interface : UsbInterface) (dev : Probing) (script : Nat → Env) :
    ∃ result after requests,
      (usbProbe params interface).run.eval exec dev script = some (result, after) ∧
      after.traffic = dev.traffic ++ requests ∧ QueryTraffic params requests ∧
      after.refused = dev.refused := by
  obtain ⟨result, after, ran, requests, reached, traffic⟩ :=
    (usbProbe_ends queryOnly interface dev).eval script
  exact ⟨result, after, requests, ran, reached.traffic, traffic, reached.refused⟩

/-- A timing query of the second page. -/
def timingParams : Params where
  devicePath := "1-2"
  outputMask := 1
  manualOnly := false
  queryOnly := true
  queryTimings := true
  queryTimingPage1 := true
  aquamarineEvdiName := false
  rawIdleRefresh := false
  finalMonitorOff := false
  serializeUsbBus := true
  experimentalSecondaryRaw := false
  secondaryUserspaceJpeg := false

def fresh : Probing where
  probeUsed := false
  ioFaulted := false
  ioLastError := none
  ramMb := 0
  heads := ProbedHead.defaults timingParams
  held _ := false
  traffic := []
  refused := []

def blankEdid : List Byte := edidHeader ++ List.replicate 119 0 ++ [6]

/-- A device that answers each request in full, with a count of thirty-six records. -/
def wellBehaved (index : Nat) : Env where
  actual := 512
  data :=
    match index with
    | 8 => [58]
    | 13 => [1]
    | 18 => blankEdid
    | 25 => [36]
    | _ => []

/-- The second page of the well-behaved device is read after four other requests. -/
theorem query_only_traffic_page : timingParams.queryOnly = true ∧
    ∃ result after, (usbProbe timingParams ⟨true, "1-2"⟩).run.eval exec fresh wellBehaved =
      some (result, after) ∧ after.traffic.map Request.code = queryCodes ∧
      QueryTraffic timingParams after.traffic ∧ after.refused = [] := by
  obtain ⟨result, after, requests, ran, traffic, asked, refused⟩ :=
    query_only_traffic timingParams rfl ⟨true, "1-2"⟩ fresh wellBehaved
  have codes : ((usbProbe timingParams ⟨true, "1-2"⟩).run.eval exec fresh wellBehaved).map
      (fun ended => ended.2.traffic.map Request.code) = some queryCodes := by decide +kernel
  rw [ran] at codes
  refine ⟨rfl, result, after, ran, Option.some.inj codes, ?_, refused⟩
  rw [traffic]
  exact asked

end Trigger6.Probe
