/-
This file is a small library about canonical prefix codes. Such a code is given
by the number of words of each length, from length one on, and by the symbols in
the order of their words. The words of one length are consecutive numbers, and
they start behind those of the length before.

The main theorem is that a word at the start of a bit string is read as its
symbol, and that nothing else is taken from the string.
-/

import Trigger6.Lib.BitString

namespace CanonicalCode

open BitString

variable {α : Type}

/-- A symbol, and the number and the length of its word. -/
structure Word (α : Type) where
  symbol : α
  code : Nat
  size : Nat

/-- Consecutive words of one length. -/
def level (code size : Nat) : (symbols : List α) → List (Word α)
  | [] => []
  | symbol :: rest => ⟨symbol, code, size⟩ :: level (code + 1) size rest

/-- The words from a length on. The shorter ones end before `base`. -/
def words : (counts : List Nat) → (base size : Nat) → (symbols : List α) → List (Word α)
  | [], _, _, _ => []
  | count :: counts, base, size, symbols =>
    level (2 * base) size (symbols.take count) ++
      words counts (2 * base + (symbols.take count).length) (size + 1) (symbols.drop count)

/-- Reads one symbol from a bit string. The bits read so far are `offset` above the last of the
shorter words. -/
def decode : (counts : List Nat) → (symbols : List α) → (offset : Nat) → (bits : List Bool) →
    Option (α × List Bool)
  | [], _, _, _ => none
  | _ :: _, _, _, [] => none
  | count :: counts, symbols, offset, bit :: bits =>
    let place := 2 * offset + bit.toNat
    if place < count then symbols[place]?.map fun symbol => (symbol, bits)
    else decode counts (symbols.drop count) (place - count) bits

theorem level_place {code size : Nat} {symbols : List α} {word : Word α}
    (member : word ∈ level code size symbols) :
    ∃ place, symbols[place]? = some word.symbol ∧ word.code = code + place ∧ word.size = size := by
  induction symbols generalizing code with
  | nil => cases member
  | cons symbol rest inductionHypothesis =>
    rcases List.mem_cons.mp member with rfl | later
    · exact ⟨0, rfl, rfl, rfl⟩
    · obtain ⟨place, found, number, length⟩ := inductionHypothesis later
      exact ⟨place + 1, found, by omega, length⟩

theorem words_nil {counts : List Nat} {base size : Nat} :
    words counts base size ([] : List α) = [] := by
  induction counts generalizing base size with
  | nil => rfl
  | cons count counts inductionHypothesis =>
    rw [words, List.take_nil, List.drop_nil, inductionHypothesis]
    rfl

/-- A word is read as its symbol, from any of its bits on. -/
theorem decode_from {counts : List Nat} {base size : Nat} {symbols : List α} {word : Word α}
    (member : word ∈ words counts base size symbols) (rest : List Bool) :
    ∃ depth, word.size = size + depth ∧ base ≤ word.code / 2 ^ (depth + 1) ∧
      decode counts symbols (word.code / 2 ^ (depth + 1) - base)
        (ofNat (depth + 1) word.code ++ rest) = some (word.symbol, rest) := by
  induction counts generalizing base size symbols with
  | nil => cases member
  | cons count counts inductionHypothesis =>
    rcases List.mem_append.mp member with here | later
    · obtain ⟨place, found, number, length⟩ := level_place here
      obtain ⟨within, inside⟩ := List.getElem?_eq_some_iff.mp found
      rw [List.length_take] at within
      rw [List.getElem?_take_of_lt (by omega)] at found
      refine ⟨0, length, by omega, ?_⟩
      have reached : 2 * (word.code / 2 ^ (0 + 1) - base) + (word.code.testBit 0).toNat = place := by
        rw [Nat.toNat_testBit]
        omega
      show (if _ < count then _ else _) = _
      rw [reached, if_pos (by omega), found]
      rfl
    · have more : symbols.drop count ≠ [] := fun none => by
        rw [none, words_nil] at later
        cases later
      have all : (symbols.take count).length = count := by
        rw [List.length_take]
        have := List.drop_eq_nil_iff.not.mp more
        omega
      obtain ⟨depth, length, above, decodes⟩ := inductionHypothesis later
      rw [all] at above decodes
      have halves : word.code / 2 ^ (depth + 1) =
          2 * (word.code / 2 ^ (depth + 1 + 1)) + word.code / 2 ^ (depth + 1) % 2 := by
        rw [Nat.pow_succ 2 (depth + 1), ← Nat.div_div_eq_div_mul]
        omega
      refine ⟨depth + 1, by omega, by omega, ?_⟩
      have reached : 2 * (word.code / 2 ^ (depth + 1 + 1) - base) +
          (word.code.testBit (depth + 1)).toNat = word.code / 2 ^ (depth + 1) - 2 * base := by
        rw [Nat.toNat_testBit]
        omega
      show (if _ < count then _ else _) = _
      rw [reached, if_neg (by omega), ← decodes, Nat.sub_sub]
      rfl

/-- A word that is no wider than its length is read back as its symbol. -/
theorem decode_word {counts : List Nat} {symbols : List α} {word : Word α}
    (member : word ∈ words counts 0 1 symbols) (fits : word.code < 2 ^ word.size) (rest : List Bool) :
    decode counts symbols 0 (ofNat word.size word.code ++ rest) = some (word.symbol, rest) := by
  obtain ⟨depth, length, -, decodes⟩ := decode_from member rest
  have same : word.size = depth + 1 := by rw [length, Nat.add_comm]
  rw [same] at fits ⊢
  rwa [Nat.div_eq_of_lt fits] at decodes

end CanonicalCode
