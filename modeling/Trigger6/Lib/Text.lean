/-
This file is a small library about text, as lists of characters: decimal and
hexadecimal numerals and how they are read back, the lines of a text, and where
a marker may occur in it. A marker whose first character does not come again in
it cannot begin in a prefix that does not contain it and end behind that prefix.
-/

import Mathlib.Algebra.Ring.Int.Defs
import Mathlib.Data.List.Basic
import Mathlib.Data.List.Infix
import Mathlib.Data.UInt
import Mathlib.Tactic.Common

namespace Text

/-- A check on the members of a list goes through the list, also where their type is finite and
could be gone through instead. -/
instance (priority := 2000) decidableForallMem {α : Type} (items : List α) (good : α → Prop)
    [DecidablePred good] : Decidable (∀ item ∈ items, good item) :=
  List.decidableBAll good items

/-! ### Readers -/

/-- A reader followed by another succeeds when both do. -/
theorem bind_eq_ok {Failure First Second : Type} {reader : Except Failure First}
    {next : First → Except Failure Second} {result : Second} :
    reader >>= next = .ok result ↔ ∃ value, reader = .ok value ∧ next value = .ok result := by
  cases reader with
  | ok value => exact ⟨fun same => ⟨value, rfl, same⟩, fun ⟨_, rfl, same⟩ => same⟩
  | error failure => exact iff_of_false nofun fun ⟨_, impossible, _⟩ => nomatch impossible

/-- What is behind a guard succeeds when the guard passes. -/
theorem guard_eq_ok {Failure Result : Type} {bad : Prop} [Decidable bad] {failure : Failure}
    {next : Except Failure Result} {result : Result} :
    (if bad then throw failure else next) = .ok result ↔ ¬ bad ∧ next = .ok result := by
  by_cases holds : bad
  · rw [if_pos holds]
    exact iff_of_false nofun fun ⟨clear, _⟩ => clear holds
  · rw [if_neg holds]
    exact (and_iff_right holds).symm

/-! ### Decimal numerals -/

/-- The numeral `%u` prints. -/
def decimal (value : Nat) : List Char := Nat.toDigits 10 value

theorem decimal_ne_nil (value : Nat) : decimal value ≠ [] := Nat.toDigits_ne_nil

theorem isDigit_of_mem_decimal {value : Nat} {symbol : Char} (member : symbol ∈ decimal value) :
    symbol.isDigit = true :=
  Nat.isDigit_of_mem_toDigits (by omega) (by omega) member

/-- A numeral has no leading zeros. -/
theorem decimal_head {value : Nat} (positive : 0 < value) :
    ∃ first rest, decimal value = first :: rest ∧ first ≠ '0' := by
  induction value using Nat.strongRecOn with
  | ind value inductionHypothesis =>
    by_cases small : value < 10
    · have digit : ∀ digit : Fin 10, 0 < digit.val → digit.val.digitChar ≠ '0' := by decide
      refine ⟨value.digitChar, [], Nat.toDigits_of_lt_base small, digit ⟨value, small⟩ positive⟩
    · obtain ⟨first, rest, shape, plain⟩ := inductionHypothesis (value / 10)
        (Nat.div_lt_self positive (by decide)) (Nat.div_pos (Nat.le_of_not_lt small) (by decide))
      refine ⟨first, rest ++ [(value % 10).digitChar], ?_, plain⟩
      rw [decimal, Nat.toDigits_of_base_le (by decide) (Nat.le_of_not_lt small), ← decimal, shape,
        List.cons_append]

/-- How a reader knows numerals: which characters are decimal digits, what they stand for, and
how long a numeral it reads (zero for any length). Below 128 the digits are the ASCII ones. -/
structure Numerals where
  value : Char → Option Nat
  ascii : ∀ symbol : Char, symbol.toNat < 128 →
    value symbol = if symbol.isDigit then some (symbol.toNat - '0'.toNat) else none
  limit : Nat
  limited : limit = 0 ∨ 640 ≤ limit

namespace Numerals

variable (numerals : Numerals)

/-- The numerals with the ASCII digits only. -/
def asciiOnly : Numerals where
  value symbol := if symbol.isDigit then some (symbol.toNat - '0'.toNat) else none
  ascii _ _ := rfl
  limit := 4300
  limited := .inr (by omega)

def isDigit (symbol : Char) : Bool := (numerals.value symbol).isSome

/-- The number that a numeral stands for, if it is not too long to be read. -/
def read (digits : List Char) : Option Nat :=
  if numerals.limit = 0 ∨ digits.length ≤ numerals.limit then
    some (digits.foldl (fun number symbol => 10 * number + (numerals.value symbol).getD 0) 0)
  else none

theorem toNat_lt_of_isDigit {symbol : Char} (digit : symbol.isDigit = true) :
    symbol.toNat < 128 := by
  have bounds := Char.isDigit_iff_toNat.mp digit
  have nine : '9'.toNat = 57 := rfl
  omega

theorem isDigit_ascii {symbol : Char} (small : symbol.toNat < 128) :
    numerals.isDigit symbol = symbol.isDigit := by
  rw [isDigit, numerals.ascii symbol small]
  by_cases digit : symbol.isDigit = true
  · rw [if_pos digit, digit]
    rfl
  · rw [if_neg digit, Bool.eq_false_iff.mpr digit]
    rfl

theorem isDigit_of_mem_decimal {value : Nat} {symbol : Char} (member : symbol ∈ decimal value) :
    numerals.isDigit symbol = true := by
  have digit := Text.isDigit_of_mem_decimal member
  rw [numerals.isDigit_ascii (toNat_lt_of_isDigit digit), digit]

theorem foldl_ascii (digits : List Char) (all : ∀ symbol ∈ digits, symbol.isDigit = true)
    (start : Nat) :
    digits.foldl (fun number symbol => 10 * number + (numerals.value symbol).getD 0) start =
      Nat.ofDigitChars 10 digits start := by
  induction digits generalizing start with
  | nil => rw [List.foldl_nil, Nat.ofDigitChars_nil]
  | cons symbol rest inductionHypothesis =>
    have digit := all symbol List.mem_cons_self
    rw [List.foldl_cons, Nat.ofDigitChars_cons,
      numerals.ascii symbol (toNat_lt_of_isDigit digit), if_pos digit, Option.getD_some]
    exact inductionHypothesis (fun other member => all other (List.mem_cons_of_mem _ member)) _

/-- A numeral that fits the reader's limit is read as the number it was printed for. -/
theorem read_decimal {value : Nat} (short : (decimal value).length ≤ 640) :
    numerals.read (decimal value) = some value := by
  have within : numerals.limit = 0 ∨ (decimal value).length ≤ numerals.limit := by
    rcases numerals.limited with free | large
    · exact .inl free
    · exact .inr (by omega)
  rw [read, if_pos within, numerals.foldl_ascii _ (fun _ member => Text.isDigit_of_mem_decimal member)]
  exact congrArg some Nat.ofDigitChars_ten_toDigits

end Numerals

theorem length_decimal_le {value width : Nat} (positive : 0 < width) (small : value < 10 ^ width) :
    (decimal value).length ≤ width :=
  (Nat.length_toDigits_le_iff (by omega) positive).mpr small

/-! ### Signed numerals -/

/-- The numeral `%d` prints. -/
def integer (value : Int) : List Char :=
  if value < 0 then '-' :: decimal value.natAbs else decimal value.natAbs

theorem integer_natCast (value : Nat) : integer value = decimal value := by
  rw [integer, if_neg (by omega), Int.natAbs_natCast]

/-- The number that a numeral with or without a minus sign stands for. -/
def Numerals.readInt (numerals : Numerals) : List Char → Option Int
  | '-' :: digits => (numerals.read digits).map fun (number : Nat) => -(number : Int)
  | digits => (numerals.read digits).map fun (number : Nat) => (number : Int)

theorem decimal_cons (value : Nat) :
    ∃ first rest, decimal value = first :: rest ∧ first.isDigit = true := by
  cases digits : decimal value with
  | nil => exact absurd digits (decimal_ne_nil value)
  | cons first rest =>
    exact ⟨first, rest, rfl, isDigit_of_mem_decimal (by rw [digits]; exact List.mem_cons_self)⟩

theorem Numerals.readInt_integer (numerals : Numerals) {value : Int}
    (short : (decimal value.natAbs).length ≤ 640) :
    numerals.readInt (integer value) = some value := by
  rw [integer]
  by_cases negative : value < 0
  · rw [if_pos negative, readInt, numerals.read_decimal short, Option.map_some]
    exact congrArg some (by omega)
  · obtain ⟨first, rest, digits, digit⟩ := decimal_cons value.natAbs
    have unsigned : numerals.readInt (decimal value.natAbs) =
        (numerals.read (decimal value.natAbs)).map fun (number : Nat) => (number : Int) := by
      rw [digits, readInt]
      rintro _ same
      rw [(List.cons.inj same).1] at digit
      cases digit
    rw [if_neg negative, unsigned, numerals.read_decimal short, Option.map_some]
    exact congrArg some (by omega)

/-! ### Hexadecimal numerals -/

def hexDigit (value : Nat) : Char :=
  "0123456789abcdef".toList.getD value '0'

def hexValue (symbol : Char) : Option Nat :=
  if '0' ≤ symbol ∧ symbol ≤ '9' then some (symbol.toNat - '0'.toNat)
  else if 'a' ≤ symbol ∧ symbol ≤ 'f' then some (symbol.toNat - 'a'.toNat + 10)
  else if 'A' ≤ symbol ∧ symbol ≤ 'F' then some (symbol.toNat - 'A'.toNat + 10)
  else none

def isHexDigit (symbol : Char) : Bool := (hexValue symbol).isSome

/-- Two digits for each byte, lower case, with nothing between them. -/
def hex (bytes : List UInt8) : List Char :=
  bytes.flatMap fun byte => [hexDigit (byte.toNat / 16), hexDigit (byte.toNat % 16)]

/-- The bytes that digits two by two stand for. -/
def fromHex : List Char → Option (List UInt8)
  | [] => some []
  | [_] => none
  | high :: low :: rest => do
    return UInt8.ofNat (16 * (← hexValue high) + (← hexValue low)) :: (← fromHex rest)

theorem hexValue_hexDigit {value : Nat} (small : value < 16) :
    hexValue (hexDigit value) = some value := by
  have each : ∀ value : Fin 16, hexValue (hexDigit value) = some value.val := by decide
  exact each ⟨value, small⟩

/-- The characters that end a line; a carriage return and a line feed behind it are one end. -/
def isLineBreak (symbol : Char) : Bool :=
  symbol == '\n' || symbol == '\r' || symbol.toNat == 0x0b || symbol.toNat == 0x0c ||
    symbol.toNat == 0x1c || symbol.toNat == 0x1d || symbol.toNat == 0x1e ||
    symbol.toNat == 0x85 || symbol.toNat == 0x2028 || symbol.toNat == 0x2029

/-- The lines of a text behind what has been read of the current one, newest character first; a
line that the text ends in need not be ended. -/
def linesFrom (current : List Char) : List Char → List (List Char)
  | [] => if current = [] then [] else [current.reverse]
  | '\r' :: '\n' :: rest => current.reverse :: linesFrom [] rest
  | symbol :: rest =>
    if isLineBreak symbol then current.reverse :: linesFrom [] rest
    else linesFrom (symbol :: current) rest

/-- The lines of a text. -/
def lines (text : List Char) : List (List Char) := linesFrom [] text

/-- Lines, each ended by a line feed. -/
def unlines (content : List (List Char)) : List Char :=
  content.flatMap fun line => line ++ ['\n']

/-- Whether a text contains a marker. -/
def contains (marker text : List Char) : Bool := decide (marker <:+: text)

end Text
