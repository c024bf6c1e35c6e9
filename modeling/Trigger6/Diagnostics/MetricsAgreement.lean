/-
This file proves that the controller reads out of the driver's metrics what the
driver has printed into them. The text is lines of fields, and everything the
controller looks for lies within one line: a required line fits its pattern, a
counter is captured from the only field of its name, and the fault expression
matches just in the fields whose keys end in a fault name.
-/

import Trigger6.Diagnostics.Metrics
import Trigger6.Diagnostics.MetricsSummary

namespace Trigger6.Diagnostics

open Driver Fields Regex Text

variable {numerals : Numerals}

/-! ### The lines of the text -/

def deviceLine (dev : MetricsDevice) : List Char := deviceWord ++ spaced (identity dev)

def bulkLine (dev : MetricsDevice) : List Char := "device".toList ++ spaced (bulkFields dev)

/-- The lines of a head, as words and fields. -/
def headRows (dev : MetricsDevice) (head : HeadId) : List (List Field) :=
  let state := dev.heads head
  [headFields (dev.rawIdleRefresh && head.outputIdx == 0) state, queueFields state,
    sentFields state, stageFields state, sendFields state, errorFields state]

def headLines (dev : MetricsDevice) (head : HeadId) : List (List Char) :=
  (headRows dev head).map fun fields => headWord head ++ spaced fields

def content (dev : MetricsDevice) : List (List Char) :=
  deviceLine dev :: bulkLine dev :: (headLines dev .primary ++ headLines dev .secondary)

theorem allLines_eq (dev : MetricsDevice) : allLines dev = unlines (content dev) := rfl

theorem headWord_primary : headWord .primary = "head0".toList := by decide

theorem headWord_secondary : headWord .secondary = "head1".toList := by decide

theorem feed_not_mem_content {dev : MetricsDevice} {line : List Char} (member : line ∈ content dev) :
    '\n' ∉ line := by
  have row : ∀ first fields, '\n' ∉ first → '\n' ∉ first ++ spaced fields := by
    intro first fields absent inside
    rcases List.mem_append.mp inside with left | right
    · exact absent left
    · exact feed_not_mem_spaced fields right
  have word : ∀ head, '\n' ∉ headWord head := by
    intro head
    cases head <;> decide
  rcases List.mem_cons.mp member with rfl | member
  · exact row _ _ (by decide)
  rcases List.mem_cons.mp member with rfl | member
  · exact row _ _ (by decide)
  rcases List.mem_append.mp member with primary | secondary
  · obtain ⟨fields, _, rfl⟩ := List.mem_map.mp primary
    exact row _ _ (word _)
  · obtain ⟨fields, _, rfl⟩ := List.mem_map.mp secondary
    exact row _ _ (word _)

/-! ### Fault words -/

/-- The key ends in a name that the fault expression looks for. -/
def isFaultKey (key : List Char) : Bool :=
  faultNames.any fun name => decide (name <:+ key)

theorem isFaultKey_iff {key : List Char} :
    isFaultKey key = true ↔ ∃ name ∈ faultNames, name <:+ key := by
  rw [isFaultKey, List.any_eq_true]
  exact exists_congr fun name => and_congr_right fun _ => decide_eq_true_iff

theorem equals_not_mem_faultNames : ∀ name ∈ faultNames, '=' ∉ name := by decide

/-- Where the fault expression matches, a name and an equals sign stand in front. -/
theorem exists_name_of_fault {text : List Char} (matched : (faultPattern numerals).run text ≠ []) :
    ∃ name ∈ faultNames, ∃ rest, text = name ++ '=' :: rest := by
  obtain ⟨way, others, ways⟩ := List.exists_cons_of_ne_nil matched
  have member : way ∈ (faultPattern numerals).run text := by
    rw [ways]
    exact List.mem_cons_self
  unfold faultPattern at member
  rw [Pattern.run_anyOf_seq] at member
  obtain ⟨name, known, inside⟩ := List.mem_flatMap.mp member
  obtain ⟨middle, rfl, later⟩ := Pattern.mem_run_literal_seq.mp inside
  obtain ⟨_, rest, _, equals, _, _⟩ := Pattern.mem_run_seq.mp later
  obtain ⟨_, front, rfl, same⟩ := Pattern.mem_run_one.mp equals
  exact ⟨name, known, rest, by rw [beq_iff_eq.mp same]⟩

/-- A field whose key ends in no fault name has no match. -/
theorem findAll_innocent {field : Field} (innocent : isFaultKey field.key.1 = false) :
    findAll (faultPattern numerals) field.text = [] := by
  have misses : ∀ tail, tail ≠ [] → tail <:+ field.text →
      (faultPattern numerals).run (tail ++ []) = [] := by
    intro tail _ inside
    by_contra matched
    obtain ⟨name, known, rest, split⟩ := exists_name_of_fault matched
    obtain ⟨before, text⟩ := inside
    rw [List.append_nil] at split
    rw [split, ← List.append_assoc] at text
    have fault := isFaultKey_iff.mpr ⟨name, known, ⟨before, (Field.text_cut text.symm).1⟩⟩
    rw [innocent] at fault
    exact Bool.false_ne_true fault
  have skipped := findAll_append misses
  rwa [List.append_nil] at skipped

/-- The longest name that a key ends in. -/
theorem exists_longest_name {key : List Char} (fault : isFaultKey key = true) :
    ∃ before name, key = before ++ name ∧ name ∈ faultNames ∧
      ∀ tail, tail ≠ [] → tail <:+ before → tail ++ name ∉ faultNames := by
  obtain ⟨name, known, front, rfl⟩ := isFaultKey_iff.mp fault
  induction front with
  | nil =>
    exact ⟨[], name, rfl, known, fun tail nonempty inside =>
      absurd (List.suffix_nil.mp inside) nonempty⟩
  | cons symbol front inductionHypothesis =>
    by_cases whole : symbol :: (front ++ name) ∈ faultNames
    · exact ⟨[], symbol :: (front ++ name), rfl, whole, fun tail nonempty inside =>
        absurd (List.suffix_nil.mp inside) nonempty⟩
    · obtain ⟨before, longest, split, inNames, later⟩ :=
        inductionHypothesis (isFaultKey_iff.mpr ⟨name, known, List.suffix_append front name⟩)
      refine ⟨symbol :: before, longest, by rw [List.cons_append, split, List.cons_append],
        inNames, fun tail nonempty inside => ?_⟩
      rcases List.suffix_cons_iff.mp inside with rfl | deeper
      · rw [List.cons_append, ← split]
        exact whole
      · exact later tail nonempty deeper

/-- `-?\d+` takes a printed number whole, at first. -/
theorem run_signed (value : Int) :
    ∃ others, (signed numerals).run (integer value) = ([], []) :: others := by
  have stops : Pattern.Stops numerals.isDigit [] := fun _ impossible => nomatch impossible
  obtain ⟨others, first⟩ := Pattern.run_some_head (decimal_ne_nil value.natAbs)
    (fun _ member => numerals.isDigit_of_mem_decimal member) stops
  rw [List.append_nil] at first
  rw [signed, integer]
  by_cases negative : value < 0
  · rw [if_pos negative, Pattern.run_optional_seq, Pattern.run_symbol_seq, first]
    exact ⟨_, List.cons_append⟩
  · obtain ⟨front, rest, digits, digit⟩ := decimal_cons value.natAbs
    have unsigned : (Pattern.seq (.symbol '-') (.some numerals.isDigit)).run
        (decimal value.natAbs) = [] := by
      rw [digits]
      refine Pattern.run_symbol_seq_refused ?_
      rintro rfl
      cases digit
    rw [if_neg negative, Pattern.run_optional_seq, unsigned, first]
    exact ⟨_, rfl⟩

/-- Behind a name and an equals sign, the expression captures a printed number whole. -/
theorem run_fault {name : List Char} (known : name ∈ faultNames) (value : Int) :
    ∃ others, (faultPattern numerals).run (name ++ '=' :: integer value) =
      ([integer value], []) :: others := by
  obtain ⟨before, behind, names, fresh⟩ := List.eq_append_cons_of_mem known
  have refused : before.flatMap (fun word => (Pattern.seq (.literal word) (.seq (.symbol '=')
      (.group (signed numerals)))).run (name ++ '=' :: integer value)) = [] := by
    refine List.flatMap_eq_nil_iff.mpr fun word member => ?_
    have inNames : word ∈ faultNames := by
      rw [names]
      exact List.mem_append_left _ member
    by_contra matched
    obtain ⟨way, others, ways⟩ := List.exists_cons_of_ne_nil matched
    obtain ⟨middle, split, later⟩ := Pattern.mem_run_literal_seq.mp
      (by rw [ways]; exact List.mem_cons_self : (way.1, way.2) ∈ _)
    obtain ⟨_, rest, _, equals, _, _⟩ := Pattern.mem_run_seq.mp later
    obtain ⟨_, front, rfl, same⟩ := Pattern.mem_run_one.mp equals
    rw [beq_iff_eq.mp same] at split
    have words := (append_cons_inj (equals_not_mem_faultNames name known)
      (equals_not_mem_faultNames word inNames) split).1
    exact fresh (words ▸ member)
  obtain ⟨ways, first⟩ := @run_signed numerals value
  rw [← List.append_nil (integer value)] at first
  obtain ⟨later, captured⟩ := Pattern.run_group_head first
  rw [List.append_nil] at captured
  unfold faultPattern
  rw [Pattern.run_anyOf_seq, names, List.flatMap_append, refused, List.nil_append,
    List.flatMap_cons, Pattern.run_literal_seq, Pattern.run_symbol_seq, captured]
  exact ⟨_, List.cons_append⟩

/-- A field whose key ends in a fault name has one match, its value. -/
theorem findAll_fault {field : Field} (fault : isFaultKey field.key.1 = true) {value : Int}
    (number : field.value.1 = integer value) :
    findAll (faultPattern numerals) field.text = [[integer value]] := by
  obtain ⟨before, name, key, known, longest⟩ := exists_longest_name fault
  have text : field.text = before ++ (name ++ '=' :: integer value) := by
    rw [Field.text, key, number, List.append_assoc]
  have absent : '=' ∉ before ++ name := by
    rw [← key]
    exact field.key.2.notMem.2.1
  have misses : ∀ tail, tail ≠ [] → tail <:+ before →
      (faultPattern numerals).run (tail ++ (name ++ '=' :: integer value)) = [] := by
    intro tail nonempty inside
    by_contra matched
    obtain ⟨other, inNames, rest, split⟩ := exists_name_of_fault matched
    rw [← List.append_assoc] at split
    have free : '=' ∉ tail ++ name := by
      intro member
      rcases List.mem_append.mp member with left | right
      · exact absent (List.mem_append_left _ (inside.subset left))
      · exact absent (List.mem_append_right _ right)
    have same := (append_cons_inj free (equals_not_mem_faultNames other inNames) split).1
    exact longest tail nonempty inside (same ▸ inNames)
  obtain ⟨others, matched⟩ := @run_fault numerals _ known value
  obtain ⟨front, rest, cut⟩ : ∃ front rest, name ++ '=' :: integer value = front :: rest :=
    List.exists_cons_of_ne_nil (by simp)
  rw [text, findAll_append misses]
  rw [cut] at matched ⊢
  exact findAll_of_run matched

theorem isDigit_separators (numerals : Numerals) :
    numerals.isDigit ' ' = false ∧ numerals.isDigit '\n' = false :=
  ⟨numerals.isDigit_ascii (by decide), numerals.isDigit_ascii (by decide)⟩

theorem faultPattern_avoids {separator : Char} (digit : numerals.isDigit separator = false)
    (names : ∀ name ∈ faultNames, separator ∉ name) (equals : separator ≠ '=')
    (minus : separator ≠ '-') : (faultPattern numerals).Avoids separator := by
  refine ⟨Pattern.avoids_anyOf names, beq_eq_false_iff_ne.mpr equals, ?_, digit, digit⟩
  exact ⟨beq_eq_false_iff_ne.mpr minus, trivial⟩

theorem faultPattern_avoids_space : (faultPattern numerals).Avoids ' ' :=
  faultPattern_avoids (isDigit_separators numerals).1 (by decide) (by decide) (by decide)

theorem faultPattern_avoids_feed : (faultPattern numerals).Avoids '\n' :=
  faultPattern_avoids (isDigit_separators numerals).2 (by decide) (by decide) (by decide)

theorem run_fault_nil : (faultPattern numerals).run [] = [] := by
  by_contra matched
  obtain ⟨name, _, rest, split⟩ := exists_name_of_fault matched
  simp at split

/-- A text without an equals sign has no match. -/
theorem findAll_word {word : List Char} (absent : '=' ∉ word) :
    findAll (faultPattern numerals) word = [] := by
  have misses : ∀ tail, tail ≠ [] → tail <:+ word →
      (faultPattern numerals).run (tail ++ []) = [] := by
    intro tail _ inside
    by_contra matched
    obtain ⟨name, _, rest, split⟩ := exists_name_of_fault matched
    rw [List.append_nil] at split
    exact absent (inside.subset (by rw [split]; simp))
  have skipped := findAll_append misses
  rwa [List.append_nil] at skipped

/-! ### The faults of a line -/

/-- The fields that a mask picks. -/
def picked (mask : List Bool) (fields : List Field) : List (List Char) :=
  (mask.zip fields).filterMap fun (pick, field) => if pick then some field.value.1 else none

/-- The matches in some fields are the numbers under the fault keys. -/
theorem findAll_picked {mask : List Bool} {fields : List Field} {values : List Int}
    (keys : fields.map (fun field => isFaultKey field.key.1) = mask)
    (numbers : picked mask fields = values.map integer) :
    (fields.flatMap fun field => findAll (faultPattern numerals) field.text) =
      values.map fun value => [integer value] := by
  induction fields generalizing mask values with
  | nil =>
    subst keys
    rw [List.map_eq_nil_iff.mp numbers.symm]
    rfl
  | cons field fields inductionHypothesis =>
    subst keys
    rw [List.map_cons] at numbers
    rw [List.flatMap_cons]
    cases fault : isFaultKey field.key.1 with
    | false =>
      rw [fault] at numbers
      rw [findAll_innocent fault, List.nil_append]
      exact inductionHypothesis rfl numbers
    | true =>
      rw [fault] at numbers
      have first : field.value.1 :: picked _ fields = values.map integer := numbers
      obtain ⟨value, rest, rfl, number, later⟩ := List.map_eq_cons_iff.mp first.symm
      rw [findAll_fault fault number.symm, inductionHypothesis rfl later.symm]
      rfl

/-- The matches in a line are those in its fields. -/
theorem findAll_row {first : List Char} (plain : Plain first) {mask : List Bool}
    {fields : List Field} {values : List Int}
    (keys : fields.map (fun field => isFaultKey field.key.1) = mask)
    (numbers : picked mask fields = values.map integer) :
    findAll (faultPattern numerals) (first ++ spaced fields) =
      values.map fun value => [integer value] := by
  rw [findAll_spaced faultPattern_avoids_space run_fault_nil plain.notMem.1,
    findAll_word plain.notMem.2.1, List.nil_append, findAll_picked keys numbers]

/-! ### The faults of the text -/

/-- A head with nothing to report, whose keys are those of any head. -/
def MetricsHead.idle : MetricsHead where
  transport := .raw
  connected := true
  ioFaulted := false
  status := 1
  txPending := false
  width := 1920
  height := 1080
  frameSeq := 0
  scanoutActive := true
  queueAttempts := 0
  queuedFrames := 0
  coalescedOverwrites := 0
  skippedFrames := 0
  pacingDefers := 0
  transportFaults := 0
  jpegAdaptiveQuality := 0
  sentFrames := 0
  sentBytes := 0
  sendErrors := 0
  keepaliveSent := 0
  keepaliveErrors := 0
  lastPayloadBytes := 0
  stage := ⟨0, 0, 0, 0⟩
  queueWait := ⟨0, 0, 0, 0⟩
  encode := ⟨0, 0, 0, 0⟩
  usb := ⟨0, 0, 0, 0⟩
  send := ⟨0, 0, 0, 0⟩
  lastError := 0
  lastErrorSource := ⟨[], by decide⟩

def MetricsDevice.idle : MetricsDevice where
  busnum := 3
  devnum := 7
  devName := .named "3-1:1.0"
  manualOnly := false
  ioFaulted := false
  ioLastError := 0
  bulkCalls := 0
  bulkChunks := 0
  bulkBytes := 0
  bulkErrors := 0
  bulkShortWrites := 0
  txWorkRuns := 0
  txWorkEmpty := 0
  txAdapterDefers := 0
  lastBulkNs := 0
  maxBulkNs := 0
  lastBulkBytes := 0
  rawIdleRefresh := false
  heads := fun _ => .idle

/-- The numbers under the fault keys of a head's lines. -/
def headFaults (head : MetricsHead) : List Int :=
  [head.ioFaulted.toNat, head.transportFaults.val, head.sendErrors.val, head.keepaliveErrors.val,
    head.lastError.toInt]

/-- The numbers under the fault keys of the text. -/
def faults (dev : MetricsDevice) : List Int :=
  [(dev.ioFaulted.toNat : Int), dev.ioLastError.toInt, dev.bulkErrors.val,
    dev.bulkShortWrites.val] ++ headFaults (dev.heads .primary) ++ headFaults (dev.heads .secondary)

/-- Names by their characters, as a string literal stands for them. A check of these does not
decode the literals again for each name. -/
def spelled (texts : List (List Char)) : List (List Char) :=
  texts.map fun text => (String.ofList text).toList

theorem spelled_eq (texts : List (List Char)) : spelled texts = texts := by
  simp only [spelled, String.toList_ofList, List.map_id']

/-- The mask tells which keys end in a fault name. No key is longer than twenty characters. -/
structure Keyed (mask : List Bool) (fields : List Field) : Prop where
  faults : fields.map (fun field => isFaultKey field.key.1) = mask
  short : ∀ field ∈ fields, field.key.1.length ≤ 20

theorem keyed_spelled {mask : List Bool} {fields : List Field} {keys names : List (List Char)}
    (same : fields.map (fun field => field.key.1) = spelled keys)
    (known : faultNames = spelled names)
    (checked : (keys.map fun key => names.any fun name => decide (name <:+ key)) = mask ∧
      ∀ key ∈ keys, key.length ≤ 20) :
    Keyed mask fields := by
  rw [spelled_eq] at same known
  obtain ⟨faults, short⟩ := checked
  refine ⟨?_, fun field member => short _ (same ▸ List.mem_map_of_mem member)⟩
  rw [← faults, ← same, List.map_map, ← known]
  rfl

theorem identity_keys (dev : MetricsDevice) :
    Keyed [false, false, false, false, true, true] (identity dev) := by
  have keys : (identity dev).map (fun field => field.key.1) =
    spelled [_, _, _, _, _, _] := rfl
  have names : faultNames = spelled [_, _, _, _, _, _, _, _] := rfl
  exact keyed_spelled keys names (by decide)

theorem bulkFields_keys (dev : MetricsDevice) :
    Keyed ([false, false, false, true, true] ++ List.replicate 6 false) (bulkFields dev) := by
  have keys : (bulkFields dev).map (fun field => field.key.1) =
    spelled [_, _, _, _, _, _, _, _, _, _, _] := rfl
  have names : faultNames = spelled [_, _, _, _, _, _, _, _] := rfl
  exact keyed_spelled keys names (by decide)

theorem headFields_keys (refresh : Bool) (head : MetricsHead) :
    Keyed ([false, false, true] ++ List.replicate 7 false) (headFields refresh head) := by
  have keys : (headFields refresh head).map (fun field => field.key.1) =
    spelled [_, _, _, _, _, _, _, _, _, _] := rfl
  have names : faultNames = spelled [_, _, _, _, _, _, _, _] := rfl
  exact keyed_spelled keys names (by decide)

theorem queueFields_keys (head : MetricsHead) :
    Keyed [false, false, false, false, false, true, false] (queueFields head) := by
  have keys : (queueFields head).map (fun field => field.key.1) =
    spelled [_, _, _, _, _, _, _] := rfl
  have names : faultNames = spelled [_, _, _, _, _, _, _, _] := rfl
  exact keyed_spelled keys names (by decide)

theorem sentFields_keys (head : MetricsHead) :
    Keyed [false, false, true, false, true, false] (sentFields head) := by
  have keys : (sentFields head).map (fun field => field.key.1) =
    spelled [_, _, _, _, _, _] := rfl
  have names : faultNames = spelled [_, _, _, _, _, _, _, _] := rfl
  exact keyed_spelled keys names (by decide)

theorem stageFields_keys (head : MetricsHead) :
    Keyed (List.replicate 6 false) (stageFields head) := by
  have keys : (stageFields head).map (fun field => field.key.1) =
    spelled [_, _, _, _, _, _] := rfl
  have names : faultNames = spelled [_, _, _, _, _, _, _, _] := rfl
  exact keyed_spelled keys names (by decide)

theorem sendFields_keys (head : MetricsHead) :
    Keyed (List.replicate 9 false) (sendFields head) := by
  have keys : (sendFields head).map (fun field => field.key.1) =
    spelled [_, _, _, _, _, _, _, _, _] := rfl
  have names : faultNames = spelled [_, _, _, _, _, _, _, _] := rfl
  exact keyed_spelled keys names (by decide)

theorem errorFields_keys (head : MetricsHead) :
    Keyed [true, false] (errorFields head) := by
  have keys : (errorFields head).map (fun field => field.key.1) =
    spelled [_, _] := rfl
  have names : faultNames = spelled [_, _, _, _, _, _, _, _] := rfl
  exact keyed_spelled keys names (by decide)

theorem plain_headWord (head : HeadId) : Plain (headWord head) := by
  cases head <;> decide

/-- The fault expression finds in the text the numbers under its fault keys. -/
theorem findAll_allLines (dev : MetricsDevice) :
    findAll (faultPattern numerals) (allLines dev) =
      (faults dev).map fun value => [integer value] := by
  have device : findAll (faultPattern numerals) (deviceLine dev) =
      [(dev.ioFaulted.toNat : Int), dev.ioLastError.toInt].map fun value => [integer value] := by
    refine findAll_row (by decide) (identity_keys dev).faults ?_
    rw [List.map_cons, integer_natCast]
    rfl
  have bulk : findAll (faultPattern numerals) (bulkLine dev) =
      [(dev.bulkErrors.val : Int), dev.bulkShortWrites.val].map fun value => [integer value] := by
    refine findAll_row (by decide) (bulkFields_keys dev).faults ?_
    rw [List.map_cons, List.map_cons, integer_natCast, integer_natCast]
    rfl
  have head : ∀ head, (headLines dev head).flatMap (findAll (faultPattern numerals)) =
      (headFaults (dev.heads head)).map fun value => [integer value] := by
    intro head
    have word := plain_headWord head
    let state := dev.heads head
    have number : ∀ value : Nat, decimal value = integer (value : Int) := fun value =>
      (integer_natCast value).symm
    have active : findAll (faultPattern numerals) (headWord head ++
        spaced (headFields (dev.rawIdleRefresh && head.outputIdx == 0) state)) =
          [(state.ioFaulted.toNat : Int)].map fun value => [integer value] :=
      findAll_row word (headFields_keys _ state).faults (congrArg (· :: []) (number _))
    have queued : findAll (faultPattern numerals) (headWord head ++ spaced (queueFields state)) =
        [(state.transportFaults.val : Int)].map fun value => [integer value] :=
      findAll_row word (queueFields_keys state).faults (congrArg (· :: []) (number _))
    have sent : findAll (faultPattern numerals) (headWord head ++ spaced (sentFields state)) =
        [(state.sendErrors.val : Int), state.keepaliveErrors.val].map
          fun value => [integer value] :=
      findAll_row word (sentFields_keys state).faults
        (congrArg₂ (fun first second => [first, second]) (number _) (number _))
    have stage : findAll (faultPattern numerals) (headWord head ++ spaced (stageFields state)) =
        ([] : List Int).map fun value => [integer value] :=
      findAll_row word (stageFields_keys state).faults rfl
    have send : findAll (faultPattern numerals) (headWord head ++ spaced (sendFields state)) =
        ([] : List Int).map fun value => [integer value] :=
      findAll_row word (sendFields_keys state).faults rfl
    have error : findAll (faultPattern numerals) (headWord head ++ spaced (errorFields state)) =
        [state.lastError.toInt].map fun value => [integer value] :=
      findAll_row word (errorFields_keys state).faults rfl
    rw [headLines, headRows, List.flatMap_map]
    simp only [List.flatMap_cons, List.flatMap_nil]
    rw [active, queued, sent, stage, send, error]
    rfl
  rw [allLines_eq, findAll_unlines faultPattern_avoids_feed run_fault_nil
    fun line member => feed_not_mem_content member]
  rw [content, List.flatMap_cons, List.flatMap_cons, List.flatMap_append, device, bulk, head, head,
    faults, List.map_append, List.map_append, List.append_assoc]
  rfl

theorem anyNonzero_map {values : List Int}
    (short : ∀ value ∈ values, value.natAbs < 10 ^ 19) :
    anyNonzero numerals (values.map fun value => [integer value]) =
      some (values.any fun value => decide (value ≠ 0)) := by
  induction values with
  | nil => rfl
  | cons value values inductionHypothesis =>
    obtain ⟨small, later⟩ := List.forall_mem_cons.mp short
    have length : (decimal value.natAbs).length ≤ 640 :=
      (length_decimal_le (by omega) small).trans (by omega)
    rw [List.map_cons, anyNonzero, numerals.readInt_integer length, List.any_cons,
      inductionHypothesis later]
    by_cases nonzero : value ≠ 0
    · simp [nonzero]
    · simp [not_not.mp nonzero]

theorem faults_short (dev : MetricsDevice) : ∀ value ∈ faults dev, value.natAbs < 10 ^ 19 := by
  have flag : ∀ set : Bool, (set.toNat : Int).natAbs < 10 ^ 19 := by
    intro set
    cases set <;> decide
  have counter : ∀ count : Counter, (count.val : Int).natAbs < 10 ^ 19 := by
    intro count
    have := count.isLt
    omega
  have error : ∀ code : Int32, code.toInt.natAbs < 10 ^ 19 := by
    intro code
    have low := code.le_toInt
    have high := code.toInt_lt
    omega
  simp only [faults, headFaults, List.cons_append, List.nil_append, List.forall_mem_cons, flag,
    counter, error, true_and]
  exact fun _ member => nomatch member

/-- Some fault counter of the device or of a head is not zero. -/
def Faulty (dev : MetricsDevice) : Prop :=
  dev.ioFaulted = true ∨ dev.ioLastError ≠ 0 ∨ dev.bulkErrors ≠ 0 ∨ dev.bulkShortWrites ≠ 0 ∨
    ∃ head, (dev.heads head).ioFaulted = true ∨ (dev.heads head).transportFaults ≠ 0 ∨
      (dev.heads head).sendErrors ≠ 0 ∨ (dev.heads head).keepaliveErrors ≠ 0 ∨
      (dev.heads head).lastError ≠ 0

theorem flag_ne_zero (set : Bool) : (set.toNat : Int) ≠ 0 ↔ set = true := by
  cases set <;> decide

theorem counter_ne_zero (count : Counter) : (count.val : Int) ≠ 0 ↔ count ≠ 0 := by
  rw [Ne, Ne, Int.natCast_eq_zero, Fin.ext_iff]
  rfl

theorem code_ne_zero (code : Int32) : code.toInt ≠ 0 ↔ code ≠ 0 := by
  rw [Ne, Ne, ← Int32.toInt_inj]
  rfl

theorem any_headFaults (head : MetricsHead) :
    ((headFaults head).any fun value => decide (value ≠ 0)) = true ↔
      head.ioFaulted = true ∨ head.transportFaults ≠ 0 ∨ head.sendErrors ≠ 0 ∨
        head.keepaliveErrors ≠ 0 ∨ head.lastError ≠ 0 := by
  simp only [headFaults, List.any_cons, List.any_nil, Bool.or_eq_true, decide_eq_true_iff,
    Bool.or_false, flag_ne_zero, counter_ne_zero, code_ne_zero]

theorem any_faults (dev : MetricsDevice) :
    ((faults dev).any fun value => decide (value ≠ 0)) = true ↔ Faulty dev := by
  have heads : ∀ holds : HeadId → Prop, (∃ head, holds head) ↔ holds .primary ∨ holds .secondary := by
    intro holds
    constructor
    · rintro ⟨head, here⟩
      cases head with
      | primary => exact .inl here
      | secondary => exact .inr here
    · rintro (first | second)
      · exact ⟨_, first⟩
      · exact ⟨_, second⟩
  rw [faults, List.any_append, List.any_append, Bool.or_eq_true, Bool.or_eq_true, any_headFaults,
    any_headFaults, Faulty, heads]
  simp only [List.any_cons, List.any_nil, Bool.or_eq_true, decide_eq_true_iff, Bool.or_false,
    flag_ne_zero, counter_ne_zero, code_ne_zero, or_assoc]

/-! ### The page -/

def Emission.text : Emission → List Char
  | .line text => text
  | .leaveIfFull => []

theorem allLines_text (dev : MetricsDevice) :
    allLines dev = (emissions dev).flatMap Emission.text := rfl

/-- While 256 characters are left, nothing is cut off and no line is left out. -/
theorem emit_short {pageSize : Nat} {items : List Emission} {buf : List Char}
    (short : buf.length + (items.flatMap Emission.text).length < pageSize - 256) :
    emit pageSize buf items = buf ++ items.flatMap Emission.text := by
  induction items generalizing buf with
  | nil => exact (List.append_nil buf).symm
  | cons item items inductionHypothesis =>
    rw [List.flatMap_cons, List.length_append] at short
    cases item with
    | line text =>
      have fits : text.length ≤ pageSize - 1 - buf.length := by
        rw [Emission.text] at short
        omega
      rw [emit, List.take_of_length_le fits, inductionHypothesis, List.flatMap_cons,
        ← List.append_assoc]
      · rfl
      · rw [List.length_append, Nat.add_assoc]
        exact short
    | leaveIfFull =>
      rw [emit, if_neg (by omega)]
      exact inductionHypothesis (by rw [Emission.text] at short; omega)

theorem untruncated_of_short {pageSize : Nat} {dev : MetricsDevice}
    (short : (allLines dev).length < pageSize - 256) : Untruncated pageSize dev := by
  rw [allLines_text] at short
  exact emit_short (by rwa [List.length_nil, Nat.zero_add])

theorem length_spaced_le {width : Nat} {fields : List Field}
    (short : ∀ field ∈ fields, field.text.length ≤ width) :
    (spaced fields).length ≤ (width + 1) * fields.length := by
  induction fields with
  | nil => exact Nat.zero_le _
  | cons field fields inductionHypothesis =>
    obtain ⟨first, others⟩ := List.forall_mem_cons.mp short
    have behind := inductionHypothesis others
    rw [spaced, List.flatMap_cons, ← spaced, List.length_append, List.length_cons, List.length_cons,
      Nat.mul_succ]
    omega

/-- The words and fields of the lines. -/
def rows (dev : MetricsDevice) : List (List Char × List Field) :=
  (deviceWord, identity dev) :: ("device".toList, bulkFields dev) ::
    Driver.heads.flatMap fun head => (headRows dev head).map fun fields => (headWord head, fields)

theorem rows_keyed (dev : MetricsDevice) :
    ∀ row ∈ rows dev, row.1.length ≤ 8 ∧ ∃ mask, Keyed mask row.2 := by
  have word : ∀ head, (headWord head).length ≤ 8 := by
    intro head
    cases head <;> decide
  have device : deviceWord.length ≤ 8 ∧ "device".toList.length ≤ 8 := by decide
  refine List.forall_mem_cons.mpr ⟨⟨device.1, _, identity_keys dev⟩,
    List.forall_mem_cons.mpr ⟨⟨device.2, _, bulkFields_keys dev⟩, fun row member => ?_⟩⟩
  obtain ⟨head, -, inside⟩ := List.mem_flatMap.mp member
  obtain ⟨fields, among, rfl⟩ := List.mem_map.mp inside
  refine ⟨word head, ?_⟩
  simp only [headRows, List.mem_cons, List.not_mem_nil, or_false] at among
  rcases among with rfl | rfl | rfl | rfl | rfl | rfl
  · exact ⟨_, headFields_keys _ _⟩
  · exact ⟨_, queueFields_keys _⟩
  · exact ⟨_, sentFields_keys _⟩
  · exact ⟨_, stageFields_keys _⟩
  · exact ⟨_, sendFields_keys _⟩
  · exact ⟨_, errorFields_keys _⟩

theorem length_unlines_le {rows : List (List Char × List Field)} (short : ∀ row ∈ rows,
    row.1.length ≤ 8 ∧ ∀ field ∈ row.2, field.text.length ≤ 29) :
    (unlines (rows.map fun row => row.1 ++ spaced row.2)).length ≤
      ((rows.map fun row => row.2.length).map fun count => 30 * count + 9).sum := by
  induction rows with
  | nil => exact Nat.le_refl 0
  | cons row rows inductionHypothesis =>
    obtain ⟨⟨word, fields⟩, others⟩ := List.forall_mem_cons.mp short
    have first := length_spaced_le fields
    have behind := inductionHypothesis others
    rw [List.map_cons, List.map_cons, List.map_cons, List.sum_cons, unlines, List.flatMap_cons,
      List.length_append, List.length_append, List.length_append, List.length_singleton, ← unlines]
    omega

/-- A device whose values are short is printed whole. -/
theorem untruncated_of_brief {dev : MetricsDevice}
    (brief : ∀ row ∈ rows dev, ∀ field ∈ row.2, field.value.1.length ≤ 8) :
    Untruncated 4096 dev := by
  have lines : content dev = (rows dev).map fun row => row.1 ++ spaced row.2 := rfl
  have counts : ((rows dev).map fun row => row.2.length) =
      [6, 11, 10, 7, 6, 6, 9, 2, 10, 7, 6, 6, 9, 2] := rfl
  have short := @length_unlines_le (rows dev) fun row member => by
    obtain ⟨word, mask, keyed⟩ := rows_keyed dev row member
    refine ⟨word, fun field inside => ?_⟩
    have key := keyed.short field inside
    have value := brief row member field inside
    rw [Field.text, List.length_append, List.length_cons]
    omega
  rw [counts, ← lines, ← allLines_eq] at short
  exact untruncated_of_short (Nat.lt_of_le_of_lt short (by decide))

/-! ### The required lines -/

theorem all_dot {text : List Char} (absent : '\n' ∉ text) : ∀ symbol ∈ text, dot symbol = true := by
  intro symbol member
  exact bne_iff_ne.mpr fun same => absent (same ▸ member)

theorem fits_decimal {next : Pattern} {rest : List Char} (fits : next.Fits rest) (value : Nat) :
    (Pattern.seq (.some numerals.isDigit) next).Fits (decimal value ++ rest) :=
  fits.some_seq (decimal_ne_nil value) fun _ member => numerals.isDigit_of_mem_decimal member

theorem fits_integer {next : Pattern} {rest : List Char} (fits : next.Fits rest) (value : Int) :
    (Pattern.seq (.optional (.symbol '-')) (.seq (.some numerals.isDigit) next)).Fits
      (integer value ++ rest) := by
  have digits := @fits_decimal numerals _ _ fits value.natAbs
  rw [integer]
  split
  · exact digits.optional_symbol_seq '-'
  · exact digits.optional_seq

/-- What stands in front of a field's value. -/
def marker (key : Word) : List Char := ' ' :: (key.1 ++ ['='])

theorem spaced_marker (key value : Word) (fields : List Field) :
    spaced (⟨key, value⟩ :: fields) = marker key ++ (value.1 ++ spaced fields) := by
  rw [spaced_cons, marker, List.cons_append, List.append_assoc]
  rfl

theorem fits_field {next : Pattern} {key value : Word} {fields : List Field}
    (fits : next.Fits (value.1 ++ spaced fields)) :
    (Pattern.seq (.literal (marker key)) next).Fits (spaced (⟨key, value⟩ :: fields)) := by
  rw [spaced_marker]
  exact fits.literal_seq _

theorem spaced_split {skipped : List Field} (nonempty : skipped ≠ []) (first : List Char)
    (rest : List Field) :
    first ++ spaced (skipped ++ rest) =
      (first ++ [' ']) ++ ((spaced skipped).tail ++ spaced rest) := by
  obtain ⟨field, skipped, rfl⟩ := List.exists_cons_of_ne_nil nonempty
  have cut : spaced (field :: skipped) = ' ' :: (spaced (field :: skipped)).tail := by
    rw [spaced_cons, List.tail_cons]
  rw [spaced_append, List.append_assoc, List.singleton_append, ← List.cons_append, ← cut]

theorem feed_not_mem_tail (fields : List Field) : '\n' ∉ (spaced fields).tail :=
  fun member => feed_not_mem_spaced fields (List.mem_of_mem_tail member)

/-- A space and `.*` pass over some fields. -/
theorem fits_behind {next : Pattern} {first : List Char} {skipped rest : List Field}
    (nonempty : skipped ≠ []) (fits : next.Fits (spaced rest)) :
    (Pattern.seq (.literal (first ++ [' '])) (.seq (.many dot) next)).Fits
      (first ++ spaced (skipped ++ rest)) := by
  rw [spaced_split nonempty]
  exact (fits.many_seq (all_dot (feed_not_mem_tail skipped))).literal_seq _

theorem fits_between {next : Pattern} {skipped rest : List Field} (nonempty : skipped ≠ [])
    (fits : next.Fits (spaced rest)) :
    (Pattern.seq (.literal " ".toList) (.seq (.many dot) next)).Fits (spaced (skipped ++ rest)) := by
  have space : " ".toList = [] ++ [' '] := by decide
  rw [space, ← List.nil_append (spaced (skipped ++ rest))]
  exact fits_behind nonempty fits

theorem fits_space {field : Field} {fields : List Field} :
    (Pattern.literal " ".toList).Fits (spaced (field :: fields)) := by
  rw [spaced_cons]
  exact Pattern.Fits.literal [' '] _

theorem fits_requiredDevice (dev : MetricsDevice) :
    (requiredDevice numerals).Fits (deviceLine dev) := by
  have word : "trigger6 ".toList = deviceWord ++ [' '] := by decide
  have faulted : " io_faulted=".toList = marker (.named "io_faulted" (by decide)) := by decide
  have error : " io_last_error=".toList = marker (.named "io_last_error" (by decide)) := by decide
  have last := @fits_integer numerals _ _ Pattern.Fits.lineEnd dev.ioLastError.toInt
  unfold requiredDevice
  rw [word, faulted, error, deviceLine, ← List.take_append_drop 4 (identity dev)]
  refine fits_behind (List.cons_ne_nil _ _) ?_
  exact fits_field (fits_decimal (fits_field last) _)

theorem bulkLine_eq (dev : MetricsDevice) :
    bulkLine dev = "device".toList ++ spaced (bulkFields dev) := rfl

theorem fits_requiredBulk (dev : MetricsDevice) :
    (requiredBulk numerals).Fits (bulkLine dev) := by
  have word : "device ".toList = "device".toList ++ [' '] := by decide
  have errors : " bulk_errors=".toList = marker (.named "bulk_errors" (by decide)) := by decide
  have short : " bulk_short_writes=".toList = marker (.named "bulk_short_writes" (by decide)) := by
    decide
  unfold requiredBulk
  rw [word, errors, short, bulkLine_eq, ← List.take_append_drop 3 (bulkFields dev)]
  refine fits_behind (List.cons_ne_nil _ _) ?_
  exact fits_field (fits_decimal (fits_field (fits_decimal fits_space _)) _)

theorem fits_requiredHead {dev : MetricsDevice} (raw : (dev.heads .primary).transport = .raw)
    (refresh : Bool) :
    (requiredHead numerals).Fits
      (headWord .primary ++ spaced (headFields refresh (dev.heads .primary))) := by
  have word : "head0 transport=raw connected=".toList = headWord .primary ++
      (marker (.named "transport" (by decide)) ++
        ((transportName .raw).1 ++ marker (.named "connected" (by decide)))) := by
    decide
  have faulted : " io_faulted=".toList = marker (.named "io_faulted" (by decide)) := by decide
  have active : " scanout_active=".toList = marker (.named "scanout_active" (by decide)) := by decide
  have bit : ∀ set : Bool, ∃ symbol, (Word.flag set).1 = [symbol] ∧ binary symbol = true := by
    intro set
    cases set
    · exact ⟨'0', by decide, rfl⟩
    · exact ⟨'1', by decide, rfl⟩
  let fields := headFields refresh (dev.heads .primary)
  have split : headWord .primary ++ spaced fields =
      (headWord .primary ++ (marker (.named "transport" (by decide)) ++
        ((transportName .raw).1 ++ marker (.named "connected" (by decide))))) ++
        (decimal (dev.heads .primary).connected.toNat ++ spaced (fields.drop 2)) := by
    show headWord .primary ++ spaced
      (⟨.named "transport" (by decide), transportName (dev.heads .primary).transport⟩ ::
        ⟨.named "connected" (by decide), .flag (dev.heads .primary).connected⟩ :: fields.drop 2) = _
    rw [raw, spaced_marker, spaced_marker]
    simp only [List.append_assoc]
    rfl
  have later : (Pattern.seq (.literal " ".toList) (.seq (.many dot) (.seq
      (.literal (marker (.named "scanout_active" (by decide))))
        (.seq (.one binary) (.literal " ".toList))))).Fits
        (spaced (fields.drop 3)) := by
    rw [← List.take_append_drop 5 (fields.drop 3)]
    obtain ⟨symbol, value, bound⟩ := bit (dev.heads .primary).scanoutActive
    refine fits_between (List.cons_ne_nil _ _) (fits_field ?_)
    rw [value]
    exact fits_space.one_seq bound
  unfold requiredHead
  rw [word, faulted, active, split]
  exact (fits_decimal (fits_field (fits_decimal later _)) _).literal_seq _

theorem fits_requiredQueue (dev : MetricsDevice) :
    (requiredQueue numerals).Fits
      (headWord .primary ++ spaced (queueFields (dev.heads .primary))) := by
  have word : "head0 ".toList = headWord .primary ++ [' '] := by decide
  have faults : " transport_faults=".toList = marker (.named "transport_faults" (by decide)) := by
    decide
  unfold requiredQueue
  rw [word, faults, ← List.take_append_drop 5 (queueFields (dev.heads .primary))]
  refine fits_behind (List.cons_ne_nil _ _) ?_
  exact fits_field (fits_decimal fits_space _)

theorem plain_sentFrames : Plain "sent_frames".toList := by
  decide

theorem headWord_sent (head : MetricsHead) :
    headWord .primary ++ spaced (sentFields head) =
      (headWord .primary ++ marker (.named "sent_frames" plain_sentFrames)) ++
        (decimal head.sentFrames.val ++ spaced ((sentFields head).drop 1)) := by
  rw [List.append_assoc]
  exact congrArg _ (spaced_marker _ _ _)

theorem sent_word :
    "head0 sent_frames=".toList =
      headWord .primary ++ marker (.named "sent_frames" plain_sentFrames) := by
  decide

theorem fits_requiredSent (dev : MetricsDevice) :
    (requiredSent numerals).Fits
      (headWord .primary ++ spaced (sentFields (dev.heads .primary))) := by
  have send : " send_errors=".toList = marker (.named "send_errors" (by decide)) := by decide
  have keepalive : " keepalive_errors=".toList = marker (.named "keepalive_errors" (by decide)) := by
    decide
  let fields := sentFields (dev.heads .primary)
  have last : (Pattern.seq (.literal " ".toList) (.seq (.many dot) (.seq
      (.literal (marker (.named "keepalive_errors" (by decide)))) (.seq (.some numerals.isDigit)
        (.literal " ".toList))))).Fits (spaced (fields.drop 3)) := by
    rw [← List.take_append_drop 1 (fields.drop 3)]
    exact fits_between (List.cons_ne_nil _ _) (fits_field (fits_decimal fits_space _))
  have first : (Pattern.seq (.literal " ".toList) (.seq (.many dot) (.seq
      (.literal (marker (.named "send_errors" (by decide)))) (.seq (.some numerals.isDigit) (.seq
        (.literal " ".toList) (.seq (.many dot) (.seq
          (.literal (marker (.named "keepalive_errors" (by decide)))) (.seq (.some numerals.isDigit)
            (.literal " ".toList))))))))).Fits (spaced (fields.drop 1)) := by
    rw [← List.take_append_drop 1 (fields.drop 1)]
    exact fits_between (List.cons_ne_nil _ _) (fits_field (fits_decimal last _))
  unfold requiredSent
  rw [sent_word, send, keepalive, headWord_sent]
  exact (fits_decimal first _).literal_seq _

/-! ### The captured counters -/

theorem stops_spaced (fields : List Field) : Pattern.Stops numerals.isDigit (spaced fields) := by
  cases fields with
  | nil => exact fun _ impossible => nomatch impossible
  | cons field fields =>
    intro front same
    rw [spaced_cons] at same
    cases same
    exact (isDigit_separators numerals).1

/-- The last field of a name is the one a greedy pattern captures. -/
theorem matchFront_last {key : Word} {later : List Field}
    (fresh : ∀ field ∈ later, field.key.1 ≠ key.1) {block : List Char} (plain : '\n' ∉ block)
    (word : List Char) (value : Nat) :
    matchFront (.seq (.literal word) (.seq (.many dot)
        (.seq (.literal (marker key)) (.digits numerals))))
      (word ++ (block ++ spaced (⟨key, .decimal value⟩ :: later))) = some [decimal value] := by
  have last : ∀ tail, tail <:+ spaced (⟨key, .decimal value⟩ :: later) →
      tail ≠ spaced (⟨key, .decimal value⟩ :: later) →
      (Pattern.seq (.literal (marker key)) (.digits numerals)).run tail = [] := by
    intro tail inside apart
    refine Pattern.run_literal_seq_refused fun shared => ?_
    rw [spaced, List.flatMap_cons, ← spaced, List.cons_append] at inside apart
    rcases List.suffix_cons_iff.mp inside with whole | deeper
    · exact apart whole
    · obtain ⟨field, member, same⟩ := exists_key_of_isInfix key.2 (space_not_mem_text _)
        (shared.isInfix.trans deeper.isInfix)
      exact fresh field member same
  obtain ⟨others, ways⟩ := Pattern.run_many_seq_last (all_dot plain) last
  obtain ⟨rest, matched⟩ := @Pattern.run_digits_head _ numerals value (stops_spaced later)
  rw [spaced_marker, Pattern.run_literal_seq, Word.decimal, matched, ← Word.decimal, ← spaced_marker] at ways
  rw [matchFront, Pattern.run_literal_seq, ways]
  rfl

/-- A line that begins differently does not match. -/
theorem matchFront_apart {word known : List Char} (next : Pattern) (rest : List Char)
    (apart : ¬ word <+: known ∧ ¬ known <+: word) :
    matchFront (.seq (.literal word) next) (known ++ rest) = none := by
  refine Pattern.matchFront_eq_none (fun shared => ?_) next
  rcases List.prefix_or_prefix_of_prefix shared (List.prefix_append known rest) with left | right
  · exact apart.1 left
  · exact apart.2 right

theorem headRow_front (key value : Word) (fields : List Field) (head : HeadId) :
    headWord head ++ spaced (⟨key, value⟩ :: fields) =
      (headWord head ++ marker key) ++ (value.1 ++ spaced fields) := by
  rw [spaced_marker, List.append_assoc]

theorem dot_feed : dot '\n' = false := rfl

/-- The counter of the first line that begins with a word, if the lines before begin differently. -/
theorem search_content {word : List Char} {next : Pattern} {dev : MetricsDevice}
    (avoids : (Pattern.seq (.literal word) next).Avoids '\n') (nonempty : word ≠ []) :
    searchLines (.seq (.literal word) next) (allLines dev) =
      (content dev).findSome? (matchFront (.seq (.literal word) next)) := by
  rw [allLines_eq]
  exact searchLines_unlines avoids (Pattern.run_literal_seq_nil nonempty next)
    fun line member => feed_not_mem_content member

theorem search_bulk (dev : MetricsDevice) :
    searchLines (bulkPattern numerals) (allLines dev) = some [decimal dev.bulkBytes.val] := by
  have word : "device ".toList = "device".toList ++ [' '] := by decide
  have bytes : " bulk_bytes=".toList = marker (.named "bulk_bytes" (by decide)) := by decide
  have apart : ¬ "device ".toList <+: deviceWord ∧ ¬ deviceWord <+: "device ".toList := by
    decide
  have avoids : (bulkPattern numerals).Avoids '\n' :=
    ⟨Pattern.avoids_literal (by decide), dot_feed, Pattern.avoids_literal (by decide),
      (isDigit_separators numerals).2, (isDigit_separators numerals).2⟩
  have fresh : ∀ field ∈ (bulkFields dev).drop 3,
      field.key.1 ≠ (Word.named "bulk_bytes" (by decide)).1 := by
    have keys : ∀ key ∈ ((bulkFields .idle).drop 3).map fun field => field.key.1,
        key ≠ (Word.named "bulk_bytes" (by decide)).1 := by decide
    have same : ((bulkFields dev).drop 3).map (fun field => field.key.1) =
        ((bulkFields .idle).drop 3).map fun field => field.key.1 := rfl
    rw [← same] at keys
    exact fun field member => keys _ (List.mem_map_of_mem member)
  have device : matchFront (bulkPattern numerals) (deviceLine dev) = none :=
    matchFront_apart _ _ apart
  have found : matchFront (bulkPattern numerals) (bulkLine dev) = some [decimal dev.bulkBytes.val] := by
    have two : (bulkFields dev).take 2 ≠ [] := List.cons_ne_nil _ _
    unfold bulkPattern
    rw [word, bytes, bulkLine_eq, ← List.take_append_drop 2 (bulkFields dev), spaced_split two]
    exact matchFront_last fresh (feed_not_mem_tail _) _ _
  unfold bulkPattern at avoids device found ⊢
  rw [search_content avoids (by decide), content, List.findSome?_cons, device,
    List.findSome?_cons, found]

/-- The lines before the one of the sent frames begin differently. -/
theorem search_sent_row {next : Pattern} {dev : MetricsDevice} {captures : List (List Char)}
    (avoids : (Pattern.seq (.literal "head0 sent_frames=".toList) next).Avoids '\n')
    (found : matchFront (.seq (.literal "head0 sent_frames=".toList) next)
      (headWord .primary ++ spaced (sentFields (dev.heads .primary))) = some captures) :
    searchLines (.seq (.literal "head0 sent_frames=".toList) next) (allLines dev) =
      some captures := by
  let refresh := dev.rawIdleRefresh && HeadId.primary.outputIdx == 0
  let head := dev.heads .primary
  let pattern : Pattern := .seq (.literal "head0 sent_frames=".toList) next
  have device : matchFront pattern (deviceLine dev) = none :=
    matchFront_apart next _ (by decide)
  have bulk : matchFront pattern (bulkLine dev) = none :=
    matchFront_apart next _ (by decide)
  have transport : matchFront pattern (headWord .primary ++ spaced (headFields refresh head)) =
      none := by
    have front := headRow_front (.named "transport" (by decide)) (transportName head.transport)
      ((headFields refresh head).drop 1) .primary
    rw [show headFields refresh head = _ :: (headFields refresh head).drop 1 from rfl, front]
    exact matchFront_apart next _ (by decide)
  have queue : matchFront pattern (headWord .primary ++ spaced (queueFields head)) = none := by
    have front := headRow_front (.named "queue_attempts" (by decide)) (lld head.queueAttempts)
      ((queueFields head).drop 1) .primary
    rw [show queueFields head = _ :: (queueFields head).drop 1 from rfl, front]
    exact matchFront_apart next _ (by decide)
  rw [search_content avoids (by decide), content, headLines, headRows, List.findSome?_cons,
    device, List.findSome?_cons, bulk, List.map_cons, List.cons_append, List.findSome?_cons,
    transport, List.map_cons, List.cons_append, List.findSome?_cons, queue, List.map_cons,
    List.cons_append, List.findSome?_cons, found]

theorem search_sent (dev : MetricsDevice) :
    searchLines (sentPattern numerals) (allLines dev) =
      some [decimal (dev.heads .primary).sentFrames.val] := by
  refine search_sent_row ⟨Pattern.avoids_literal (by decide),
    (isDigit_separators numerals).2, (isDigit_separators numerals).2⟩ ?_
  obtain ⟨others, matched⟩ := @Pattern.run_digits_head _ numerals
    (dev.heads .primary).sentFrames.val (stops_spaced ((sentFields (dev.heads .primary)).drop 1))
  rw [headWord_sent, matchFront, ← sent_word, Pattern.run_literal_seq, matched]
  rfl

theorem search_keepalive (dev : MetricsDevice) :
    searchLines (keepalivePattern numerals) (allLines dev) =
      some [decimal (dev.heads .primary).keepaliveSent.val] := by
  let head := dev.heads .primary
  have sent : " keepalive_sent=".toList = marker (.named "keepalive_sent" (by decide)) := by decide
  have fresh : ∀ field ∈ (sentFields head).drop 4,
      field.key.1 ≠ (Word.named "keepalive_sent" (by decide)).1 := by
    have keys : ∀ key ∈ ((sentFields .idle).drop 4).map fun field => field.key.1,
        key ≠ (Word.named "keepalive_sent" (by decide)).1 := by decide
    have same : ((sentFields head).drop 4).map (fun field => field.key.1) =
        ((sentFields .idle).drop 4).map fun field => field.key.1 := rfl
    rw [← same] at keys
    exact fun field member => keys _ (List.mem_map_of_mem member)
  refine search_sent_row ⟨Pattern.avoids_literal (by decide), dot_feed,
    Pattern.avoids_literal (by decide), (isDigit_separators numerals).2,
    (isDigit_separators numerals).2⟩ ?_
  have plain : '\n' ∉ decimal head.sentFrames.val ++ spaced (((sentFields head).drop 1).take 2) := by
    intro member
    rcases List.mem_append.mp member with left | right
    · exact (plain_decimal _).notMem.2.2 left
    · exact feed_not_mem_spaced _ right
  rw [headWord_sent, ← sent_word, sent, ← List.take_append_drop 2 ((sentFields _).drop 1),
    spaced_append, ← List.append_assoc (decimal _)]
  exact matchFront_last fresh plain _ _

/-! ### The scanout flag -/

/-- What a line that shows active scanout contains. -/
theorem scanout_inside {line : List Char} (fits : scanoutPattern.Fits line) :
    "head0 ".toList <+: line ∧ "scanout_active=1".toList <:+: line := by
  obtain ⟨way, member⟩ := fits
  obtain ⟨middle, rfl, behind⟩ := Pattern.mem_run_literal_seq.mp member
  obtain ⟨_, rest, _, before, later, _⟩ := Pattern.mem_run_seq.mp behind
  obtain ⟨_, taken, rfl, _⟩ := Pattern.mem_run_many.mp before
  obtain ⟨last, rfl, _⟩ := Pattern.mem_run_literal_seq.mp later
  exact ⟨List.prefix_append _ _, ⟨"head0 ".toList ++ taken, last, by simp only [List.append_assoc]⟩⟩

/-- The fields of a head's lines but the scanout flag. -/
def otherFields (refresh : Bool) (head : MetricsHead) : List Field :=
  (headFields refresh head).take 8 ++ (headFields refresh head).drop 9 ++ queueFields head ++
    sentFields head ++ stageFields head ++ sendFields head ++ errorFields head

theorem otherFields_keys (refresh : Bool) (head : MetricsHead) :
    ∀ field ∈ otherFields refresh head, ¬ "scanout_active".toList <:+ field.key.1 := by
  have same : (otherFields refresh head).map (fun field => field.key.1) =
    spelled ([_, _, _, _, _, _, _, _] ++ [_] ++ [_, _, _, _, _, _, _] ++ [_, _, _, _, _, _] ++
      [_, _, _, _, _, _] ++ [_, _, _, _, _, _, _, _, _] ++ [_, _]) := rfl
  have flag : "scanout_active" = String.ofList _ := rfl
  have keys : ∀ key ∈ (otherFields refresh head).map fun field => field.key.1,
      ¬ "scanout_active".toList <:+ key := by
    rw [same, spelled_eq, flag, String.toList_ofList]
    decide
  exact fun field member => keys _ (List.mem_map_of_mem member)

theorem plain_scanoutActive : Plain "scanout_active".toList := by
  decide

theorem headFields_split (refresh : Bool) (head : MetricsHead) :
    headFields refresh head = (headFields refresh head).take 8 ++
      ⟨.named "scanout_active" plain_scanoutActive, .flag head.scanoutActive⟩ ::
        (headFields refresh head).drop 9 := rfl

/-- No field but the flag of an active head shows active scanout. -/
theorem shown_active {dev : MetricsDevice} {fields : List Field} (row : fields ∈ headRows dev .primary)
    {field : Field} (member : field ∈ fields) (key : "scanout_active".toList <:+ field.key.1)
    (value : "1".toList <+: field.value.1) : (dev.heads .primary).scanoutActive = true := by
  let refresh := dev.rawIdleRefresh && HeadId.primary.outputIdx == 0
  let head := dev.heads .primary
  have elsewhere : field ∉ otherFields refresh head := fun inside =>
    otherFields_keys refresh head field inside key
  simp only [otherFields, List.mem_append, not_or] at elsewhere
  obtain ⟨⟨⟨⟨⟨⟨early, late⟩, queue⟩, sent⟩, stage⟩, send⟩, error⟩ := elsewhere
  simp only [headRows, List.mem_cons, List.not_mem_nil, or_false] at row
  rcases row with rfl | rfl | rfl | rfl | rfl | rfl
  · rw [headFields_split] at member
    rcases List.mem_append.mp member with before | here
    · exact absurd before early
    · rcases List.mem_cons.mp here with rfl | behind
      · cases active : (dev.heads .primary).scanoutActive with
        | true => rfl
        | false =>
          rw [active] at value
          exact absurd value (by decide)
      · exact absurd behind late
  · exact absurd member queue
  · exact absurd member sent
  · exact absurd member stage
  · exact absurd member send
  · exact absurd member error

theorem fits_scanout {dev : MetricsDevice} (refresh : Bool)
    (active : (dev.heads .primary).scanoutActive = true) :
    scanoutPattern.Fits
      (headWord .primary ++ spaced (headFields refresh (dev.heads .primary))) := by
  let fields := headFields refresh (dev.heads .primary)
  have word : "head0 ".toList = headWord .primary ++ [' '] := by decide
  have flag : marker (.named "scanout_active" (by decide)) ++ (Word.flag true).1 =
      [' '] ++ "scanout_active=1".toList := by decide
  have eight : fields.take 8 ≠ [] := List.cons_ne_nil _ _
  have last : (Pattern.alt (.symbol ' ') .lineEnd).Fits (spaced (fields.drop 9)) :=
    ⟨([], _), List.mem_append_left _ (Pattern.mem_run_one.mpr ⟨rfl, ' ', spaced_cons _ _, rfl⟩)⟩
  have plain : '\n' ∉ (spaced (fields.take 8)).tail ++ [' '] := by
    intro member
    rcases List.mem_append.mp member with left | right
    · exact feed_not_mem_tail _ left
    · exact absurd right (by decide)
  unfold scanoutPattern
  rw [headFields_split, spaced_split eight, spaced_marker, active, ← List.append_assoc (marker _),
    flag, List.append_assoc [' '], ← List.append_assoc _ [' '], word]
  exact ((last.literal_seq _).many_seq (all_dot plain)).literal_seq _

theorem search_scanout (dev : MetricsDevice) :
    (searchLines scanoutPattern (allLines dev)).isSome = (dev.heads .primary).scanoutActive := by
  have avoids : scanoutPattern.Avoids '\n' :=
    ⟨Pattern.avoids_literal (by decide), dot_feed, Pattern.avoids_literal (by decide),
      rfl, rfl⟩
  have lines : searchLines scanoutPattern (allLines dev) =
      (content dev).findSome? (matchFront scanoutPattern) :=
    search_content avoids (by decide)
  rw [lines, Bool.eq_iff_iff, List.findSome?_isSome_iff]
  constructor
  · rintro ⟨line, member, matched⟩
    obtain ⟨front, inside⟩ := scanout_inside (Pattern.matchFront_isSome.mp matched)
    have apart : ∀ known rest, line = known ++ rest →
        ¬ ("head0 ".toList <+: known ∨ known <+: "head0 ".toList) → False := fun known rest split no =>
      no (List.prefix_or_prefix_of_prefix front ⟨rest, split.symm⟩)
    rcases List.mem_cons.mp member with device | member
    · exact absurd (by decide) (apart deviceWord _ device)
    rcases List.mem_cons.mp member with bulk | member
    · exact absurd (by decide) (apart "device".toList _ bulk)
    rcases List.mem_append.mp member with primary | secondary
    · obtain ⟨fields, row, rfl⟩ := List.mem_map.mp primary
      have cut : "scanout_active=1".toList = "scanout_active".toList ++ '=' :: "1".toList := by
        decide
      rw [cut] at inside
      obtain ⟨field, here, key, value⟩ := exists_field_of_isInfix (by decide)
        (by decide) (plain_headWord _).notMem.2.1 inside
      exact shown_active row here key value
    · obtain ⟨fields, _, split⟩ := List.mem_map.mp secondary
      exact absurd (by decide) (apart (headWord .secondary) _ split.symm)
  · intro active
    refine ⟨_, ?_, Pattern.matchFront_isSome.mpr (fits_scanout
      (dev.rawIdleRefresh && HeadId.primary.outputIdx == 0) active)⟩
    exact List.mem_cons_of_mem _ (List.mem_cons_of_mem _ (List.mem_append_left _
      (List.mem_map_of_mem List.mem_cons_self)))

/-! ### Agreement -/

theorem valid_allLines {dev : MetricsDevice} (raw : (dev.heads .primary).transport = .raw) :
    ((required numerals).all fun pattern => (searchLines pattern (allLines dev)).isSome) = true := by
  have feed := (isDigit_separators numerals).2
  have number : (Pattern.some numerals.isDigit).Avoids '\n' := ⟨feed, feed⟩
  have space : (Pattern.literal " ".toList).Avoids '\n' := Pattern.avoids_literal (by decide)
  have found : ∀ {word next line}, (Pattern.seq (.literal word) next).Avoids '\n' → word ≠ [] →
      line ∈ content dev → (Pattern.seq (.literal word) next).Fits line →
      (searchLines (.seq (.literal word) next) (allLines dev)).isSome = true := by
    intro word next line avoids nonempty member fits
    rw [search_content avoids nonempty, List.findSome?_isSome_iff]
    exact ⟨line, member, Pattern.matchFront_isSome.mpr fits⟩
  have row : ∀ {fields}, fields ∈ headRows dev .primary →
      headWord .primary ++ spaced fields ∈ content dev := fun member =>
    List.mem_cons_of_mem _ (List.mem_cons_of_mem _ (List.mem_append_left _
      (List.mem_map_of_mem member)))
  rw [List.all_eq_true]
  simp only [required, List.forall_mem_cons]
  refine ⟨found ?_ (by decide) List.mem_cons_self (fits_requiredDevice dev),
    found ?_ (by decide) (List.mem_cons_of_mem _ List.mem_cons_self)
      (fits_requiredBulk dev),
    found ?_ (by decide) (row List.mem_cons_self) (fits_requiredHead raw _),
    found ?_ (by decide) (row (List.mem_cons_of_mem _ List.mem_cons_self))
      (fits_requiredQueue dev),
    found ?_ (by decide)
      (row (List.mem_cons_of_mem _ (List.mem_cons_of_mem _ List.mem_cons_self)))
      (fits_requiredSent dev), fun _ member => nomatch member⟩
  · exact ⟨Pattern.avoids_literal (by decide), dot_feed,
      Pattern.avoids_literal (by decide), number, Pattern.avoids_literal (by decide),
      ⟨rfl, trivial⟩, number, rfl⟩
  · exact ⟨Pattern.avoids_literal (by decide), dot_feed,
      Pattern.avoids_literal (by decide), number, Pattern.avoids_literal (by decide),
      number, space⟩
  · exact ⟨Pattern.avoids_literal (by decide), number,
      Pattern.avoids_literal (by decide), number, space, dot_feed,
      Pattern.avoids_literal (by decide), rfl, space⟩
  · exact ⟨Pattern.avoids_literal (by decide), dot_feed,
      Pattern.avoids_literal (by decide), number, space⟩
  · exact ⟨Pattern.avoids_literal (by decide), number, space, dot_feed,
      Pattern.avoids_literal (by decide), number, space, dot_feed,
      Pattern.avoids_literal (by decide), number, space⟩

theorem captured_decimal (value : Counter) :
    captured numerals (some [decimal value.val]) = some value.val := by
  have small : value.val < 10 ^ 19 := value.isLt.trans (by decide)
  exact numerals.read_decimal ((length_decimal_le (by omega) small).trans (by omega))

/-- Of a device whose first head is raw, an untruncated text is read as it was printed: a fault is
reported exactly when some fault counter is not zero, and the flag and the counters are those of
the driver. -/
theorem metrics_agree (numerals : Numerals) {pageSize : Nat} {dev : MetricsDevice}
    (raw : (dev.heads .primary).transport = .raw) (whole : Untruncated pageSize dev) :
    ∃ summary, metricsSummary numerals (some (metricsShow pageSize (some dev))) = some summary ∧
      (summary.fault = true ↔ Faulty dev) ∧
      summary.scanoutActive = (dev.heads .primary).scanoutActive ∧
      summary.sentFrames = (dev.heads .primary).sentFrames.val ∧
      summary.keepaliveSent = (dev.heads .primary).keepaliveSent.val ∧
      summary.bulkBytes = dev.bulkBytes.val := by
  rw [metricsSummary, whole, Option.getD_some]
  simp only [valid_allLines raw, findAll_allLines, search_sent, search_keepalive, search_bulk,
    search_scanout, captured_decimal, anyNonzero_map (faults_short dev), if_true, Bool.true_and]
  exact ⟨_, rfl, any_faults dev, rfl, rfl, rfl, rfl⟩

/-- A device that has sent a frame, with one short write. -/
def sampleMetrics : MetricsDevice :=
  { MetricsDevice.idle with bulkBytes := 123456, bulkShortWrites := 1 }

theorem sampleMetrics_agree : ∃ summary,
    metricsSummary .asciiOnly (some (metricsShow 4096 (some sampleMetrics))) = some summary ∧
      summary.fault = true := by
  have whole : Untruncated 4096 sampleMetrics := untruncated_of_brief (by decide)
  obtain ⟨summary, read, fault, _⟩ := @metrics_agree .asciiOnly 4096 sampleMetrics rfl whole
  exact ⟨summary, read, fault.mpr (.inr (.inr (.inr (.inl (by decide)))))⟩

end Trigger6.Diagnostics
