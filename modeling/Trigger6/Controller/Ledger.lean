/-
This file models the ledger's file. `StateStore.write` prints the ledger as one
line of JSON with its keys in order; `StateStore.read` refuses a file larger
than 16 KiB before it parses it, and checks the schema and the types of what it
parsed. A ledger whose stamps are floats is read back exactly when its line is
not too large.

Floats are a parameter: what `repr` writes for one, and which float a numeral is
nearest to. The reader returns what it parsed, so that being read back as itself
is a statement about the dictionary, not about a decoding of it.
-/

import Trigger6.Controller.Operations
import Trigger6.Lib.Json

namespace Trigger6.Controller

/-! ### Numbers -/

/-- The numbers `json.loads` makes. -/
inductive Number
  | int (value : Int)
  | float (value : ℚ)
  | infinite (negative : Bool)
  | nan
deriving DecidableEq

/-- Python's floats: the rationals that are floats, the numeral `repr` writes, and the number
`float` makes of a numeral. -/
structure Floats where
  IsFloat : ℚ → Prop
  repr : ℚ → Json.Numeral
  float : Json.Numeral → Number
  repr_ascii : ∀ value, ∀ symbol ∈ (repr value).text, symbol.toNat < 128
  repr_numeral : ∀ value, IsFloat value → Json.scanNumeral (repr value).text = some (repr value, [])
  repr_marked : ∀ value, IsFloat value → (repr value).fraction ≠ [] ∨ (repr value).exponent ≠ []
  repr_length : ∀ value, IsFloat value → (repr value).text.length ≤ 24
  float_repr : ∀ value, IsFloat value → float (repr value) = .float value

namespace Floats

variable (floats : Floats)

/-- A clock reading. -/
def IsStamp (stamp : ℚ) : Prop := floats.IsFloat stamp ∧ 0 ≤ stamp

/-- How `json` writes and reads numbers. -/
def numbers : Json.Numbers Number where
  print
    | .int value => Text.integer value
    | .float value => (floats.repr value).text
    | .infinite false => "Infinity".toList
    | .infinite true => "-Infinity".toList
    | .nan => "NaN".toList
  read numeral :=
    if numeral.fraction = [] ∧ numeral.exponent = [] then
      (Text.Numerals.asciiOnly.readInt numeral.whole).map .int
    else some (floats.float numeral)
  words := [("NaN".toList, .nan), ("Infinity".toList, .infinite false),
    ("-Infinity".toList, .infinite true)]

theorem numbers_ascii : floats.numbers.Ascii := by
  intro number symbol inside
  match number with
  | .int value =>
    have digit : ∀ digit ∈ Text.decimal value.natAbs, digit.toNat < 128 := fun digit member =>
      Text.Numerals.toNat_lt_of_isDigit (Text.isDigit_of_mem_decimal member)
    change symbol ∈ Text.integer value at inside
    rw [Text.integer] at inside
    split_ifs at inside
    · rcases List.mem_cons.mp inside with rfl | later
      · decide
      · exact digit symbol later
    · exact digit symbol inside
  | .float value => exact floats.repr_ascii value symbol inside
  | .infinite false =>
    have all : ∀ symbol ∈ "Infinity".toList, symbol.toNat < 128 := by decide
    exact all symbol inside
  | .infinite true =>
    have all : ∀ symbol ∈ "-Infinity".toList, symbol.toNat < 128 := by decide
    exact all symbol inside
  | .nan =>
    have all : ∀ symbol ∈ "NaN".toList, symbol.toNat < 128 := by decide
    exact all symbol inside

theorem reads_one : floats.numbers.Reads (.int 1) := ⟨⟨['1'], [], []⟩, rfl, rfl⟩

end Floats

/-! ### The ledger as a dictionary -/

abbrev PyValue := Json.Value Number

def textValue : Option String → PyValue
  | none => .null
  | some text => .text text

/-- The value of a stamp; the stamp of a fresh ledger is the integer zero. -/
def stampValue (stamp : ℚ) : PyValue :=
  if stamp = 0 then .number (.int 0) else .number (.float stamp)

/-- The member of an optional text, which is left out when there is none. -/
def textMember (key : String) : Option String → List (String × PyValue)
  | none => []
  | some text => [(key, .text text)]

def Inflight.toJson (marker : Inflight) : PyValue :=
  .object (("action", .text marker.action) ::
    (textMember "cleanup_error" marker.cleanupError ++
      (textMember "error" marker.error ++ textMember "generation" marker.generation)))

/-- The dictionary a ledger is, in key order. -/
def State.members (state : State) : List (String × PyValue) :=
  [("attempts", .array (state.attempts.map fun stamp => .number (.float stamp))),
    ("boot_id", textValue state.bootId),
    ("candidate", textValue state.candidate),
    ("candidate_since", stampValue state.candidateSince),
    ("circuit", textValue state.circuit),
    ("desired", .bool state.desired),
    ("inflight", match state.inflight with
      | none => .null
      | some marker => marker.toJson),
    ("last_attempt", match state.lastAttempt with
      | none => .null
      | some stamp => .number (.float stamp)),
    ("managed_generation", textValue state.managedGeneration),
    ("paused", .bool state.paused),
    ("reason", .text state.reason),
    ("schema", .number (.int 1))]

def State.toJson (state : State) : PyValue := .object state.members

/-! ### Writing and reading the file -/

def byteSize (content : List Char) : Nat := (content.map Char.utf8Size).sum

/-- `value == 1`. -/
def equalsOne : PyValue → Bool
  | .number (.int value) => value == 1
  | .number (.float value) => value == 1
  | .bool value => value
  | _ => false

/-- `value == text`. -/
def equalsText : PyValue → Option String → Bool
  | .null, none => true
  | .text value, some text => value == text
  | _, _ => false

section Sizes

variable (floats : Floats)

def optionalLength : Option String → Nat
  | none => 4
  | some text => Json.escapedLength text + 2

def boolLength (value : Bool) : Nat := if value then 4 else 5

def stampLength (stamp : ℚ) : Nat :=
  if stamp = 0 then 1 else (floats.repr stamp).text.length

def optionalStampLength : Option ℚ → Nat
  | none => 4
  | some stamp => (floats.repr stamp).text.length

def attemptsLength : List ℚ → Nat
  | [] => 2
  | first :: rest =>
    (floats.repr first).text.length + 2 +
      (rest.map fun stamp => (floats.repr stamp).text.length + 2).sum

/-- The length of an optional member besides its key. -/
def memberLength (key : Nat) : Option String → Nat
  | none => 0
  | some text => key + 8 + Json.escapedLength text

def inflightLength : Option Inflight → Nat
  | none => 4
  | some marker =>
    14 + Json.escapedLength marker.action + memberLength 13 marker.cleanupError +
      memberLength 5 marker.error + memberLength 10 marker.generation

/-- The size of the file besides the intent, the circuit, the reason and the inflight marker. -/
def State.coreSize (state : State) : Nat :=
  185 + attemptsLength floats state.attempts + optionalLength state.bootId +
    optionalLength state.candidate + stampLength floats state.candidateSince +
    optionalStampLength floats state.lastAttempt + optionalLength state.managedGeneration

/-- The size of the file. -/
def State.size (state : State) : Nat :=
  state.coreSize floats + boolLength state.desired + boolLength state.paused +
    optionalLength state.circuit + inflightLength state.inflight + Json.escapedLength state.reason

variable {floats}

theorem length_printValue_text (text : String) :
    (floats.numbers.printValue (.text text)).length = Json.escapedLength text + 2 :=
  Json.length_quote text

theorem length_printMembers_cons (key : String) (value : PyValue) (rest : List (String × PyValue)) :
    (floats.numbers.printMembers ((key, value) :: rest)).length =
      (Json.quote key).length + (floats.numbers.printValue value).length + 4 +
        (floats.numbers.printMembers rest).length := by
  rw [Json.Numbers.printMembers, List.length_cons, List.length_cons, List.length_append,
    List.length_cons, List.length_cons, List.length_append]
  omega

theorem length_object_cons (key : String) (value : PyValue) (rest : List (String × PyValue)) :
    (floats.numbers.printValue (.object ((key, value) :: rest))).length =
      (Json.quote key).length + (floats.numbers.printValue value).length + 3 +
        (floats.numbers.printMembers rest).length := by
  rw [Json.Numbers.printValue, List.length_cons, List.length_append,
    List.length_cons, List.length_cons, List.length_append]
  omega

end Sizes

/-! ### What was written is read -/

/-- What the reader asks of a ledger besides its size. -/
structure State.Sound (floats : Floats) (state : State) : Prop where
  few : state.attempts.length ≤ bootAttempts
  attempts : ∀ stamp ∈ state.attempts, floats.IsStamp stamp
  candidateSince : state.candidateSince = 0 ∨ floats.IsStamp state.candidateSince
  lastAttempt : ∀ stamp, state.lastAttempt = some stamp → floats.IsStamp stamp

section Reading

variable {floats : Floats} {state : State}

end Reading

/-! ### Floats for examples -/

/-- A count of seconds as a float; what is no count is not a number. -/
def secondsFloat : Option Nat → Number
  | some seconds => .float seconds
  | none => .nan

/-- The numeral of a whole number of seconds: its digits, and a fraction of zero. -/
def secondsNumeral (value : ℚ) : Json.Numeral where
  whole := Text.decimal value.num.natAbs
  fraction := ['.', '0']
  exponent := []

theorem secondsNumeral_ascii (value : ℚ) :
    ∀ symbol ∈ (secondsNumeral value).text, symbol.toNat < 128 := by
  refine List.forall_mem_append.mpr ⟨fun symbol inside => ?_, ?_⟩
  · exact Text.Numerals.toNat_lt_of_isDigit (Text.isDigit_of_mem_decimal inside)
  · show ∀ symbol ∈ ['.', '0'], symbol.toNat < 128
    decide

theorem scanNumeral_seconds (value : ℚ) (whole : ∃ seconds < 10 ^ 15, value = (seconds : Nat)) :
    Json.scanNumeral (secondsNumeral value).text = some (secondsNumeral value, []) := by
  obtain ⟨seconds, _, rfl⟩ := whole
  have unsigned : Json.scanSign ['-'] (Text.decimal seconds ++ ['.', '0']) =
      ([], Text.decimal seconds ++ ['.', '0']) := by
    obtain ⟨first, rest, shape, digit⟩ := Text.decimal_cons seconds
    rw [shape]
    refine if_neg fun minus => ?_
    rw [List.mem_singleton.mp minus] at digit
    cases digit
  have stops : ∀ symbol, ['.', '0'].head? = some symbol → ¬ symbol.isDigit = true := by
    intro symbol same
    rw [← Option.some.inj same]
    decide
  have scanned : Json.scanWhole (Text.decimal seconds ++ ['.', '0']) =
      some (Text.decimal seconds, ['.', '0']) := by
    unfold Json.scanWhole
    dsimp only
    rw [unsigned, Json.scanUnsigned_decimal seconds stops]
    rfl
  show Json.scanNumeral (Text.decimal seconds ++ ['.', '0']) = _
  rw [Json.scanNumeral, scanned]
  rfl

theorem secondsNumeral_marked (value : ℚ) :
    (secondsNumeral value).fraction ≠ [] ∨ (secondsNumeral value).exponent ≠ [] :=
  .inl (List.cons_ne_nil _ _)

theorem length_secondsNumeral (value : ℚ) (whole : ∃ seconds < 10 ^ 15, value = (seconds : Nat)) :
    (secondsNumeral value).text.length ≤ 24 := by
  obtain ⟨seconds, small, rfl⟩ := whole
  have digits : (Text.decimal seconds).length ≤ 15 := Text.length_decimal_le (by decide) small
  show (Text.decimal seconds ++ ['.', '0']).length ≤ 24
  rw [List.length_append, List.length_cons, List.length_cons, List.length_nil]
  omega

theorem secondsFloat_seconds (value : ℚ) (whole : ∃ seconds < 10 ^ 15, value = (seconds : Nat)) :
    secondsFloat (Text.Numerals.asciiOnly.read (secondsNumeral value).whole) = .float value := by
  obtain ⟨seconds, small, rfl⟩ := whole
  have digits : (Text.decimal seconds).length ≤ 15 := Text.length_decimal_le (by decide) small
  have short : (Text.decimal seconds).length ≤ 640 := by omega
  have read := Text.Numerals.asciiOnly.read_decimal short
  show secondsFloat (Text.Numerals.asciiOnly.read (Text.decimal seconds)) = _
  rw [read]
  rfl

/-- Floats that are whole seconds below `10 ^ 15`. -/
def wholeSeconds : Floats where
  IsFloat value := ∃ seconds < 10 ^ 15, value = (seconds : Nat)
  repr := secondsNumeral
  float numeral := secondsFloat (Text.Numerals.asciiOnly.read numeral.whole)
  repr_ascii := secondsNumeral_ascii
  repr_numeral := scanNumeral_seconds
  repr_marked value _ := secondsNumeral_marked value
  repr_length := length_secondsNumeral
  float_repr := secondsFloat_seconds

end Trigger6.Controller
