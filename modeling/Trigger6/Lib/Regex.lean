/-
This file is a small library of regular expressions as a backtracking matcher
runs them: the ways a pattern matches at the front of a text come in order of
preference, each with its captures and what it leaves, and a search takes the
first way at the first place that has one.

The rules follow a pattern from left to right over a text whose parts are known.
A greedy repetition is followed by a single way where what comes next refuses
every character it repeats.
-/

import Mathlib.Data.List.Basic
import Mathlib.Data.List.Infix
import Mathlib.Tactic.Common
import Trigger6.Lib.Text

namespace Regex

/-! ### Patterns -/

inductive Pattern
  /-- Matches the empty text. -/
  | empty
  | one (accepts : Char → Bool)
  | seq (first second : Pattern)
  | alt (preferred fallback : Pattern)
  /-- As many characters as possible, given back one at a time. -/
  | many (accepts : Char → Bool)
  /-- Captures what it matches. -/
  | group (inner : Pattern)
  /-- The end of the text or of a line of it. -/
  | lineEnd
  /-- The end of the text, or a line feed that ends it. -/
  | textEnd

/-- A way to match: the captures, in order, and the text left. -/
abbrev Match := List (List Char) × List Char

/-- The texts left when some of the accepted characters at the front are taken, fewest left
first. -/
def manyRests (accepts : Char → Bool) : List Char → List (List Char)
  | [] => [[]]
  | symbol :: rest =>
    if accepts symbol then manyRests accepts rest ++ [symbol :: rest] else [symbol :: rest]

namespace Pattern

/-- The ways a pattern matches at the front of a text, in order of preference. -/
def run : Pattern → List Char → List Match
  | empty, text => [([], text)]
  | one _, [] => []
  | one accepts, symbol :: rest => if accepts symbol then [([], rest)] else []
  | seq first second, text =>
    (first.run text).flatMap fun (captures, rest) =>
      (second.run rest).map fun (later, last) => (captures ++ later, last)
  | alt preferred fallback, text => preferred.run text ++ fallback.run text
  | many accepts, text => (manyRests accepts text).map fun rest => ([], rest)
  | group inner, text =>
    (inner.run text).map fun (captures, rest) =>
      (text.take (text.length - rest.length) :: captures, rest)
  | lineEnd, text => if text = [] ∨ text.head? = some '\n' then [([], text)] else []
  | textEnd, text => if text = [] ∨ text = ['\n'] then [([], text)] else []

/-! ### Derived patterns -/

def symbol (expected : Char) : Pattern := one (· == expected)

/-- A fixed text. -/
def literal : List Char → Pattern
  | [] => empty
  | expected :: rest => seq (symbol expected) (literal rest)

def some (accepts : Char → Bool) : Pattern := seq (one accepts) (many accepts)

def optional (inner : Pattern) : Pattern := alt inner empty

def times (accepts : Char → Bool) : Nat → Pattern
  | 0 => empty
  | count + 1 => seq (one accepts) (times accepts count)

/-- The first that matches of some fixed texts. -/
def anyOf : List (List Char) → Pattern
  | [] => one fun _ => false
  | [word] => literal word
  | word :: words => alt (literal word) (anyOf words)

end Pattern

/-! ### Searching -/

/-- The captures of the first match in a text. -/
def search (pattern : Pattern) : List Char → Option (List (List Char))
  | [] => (pattern.run []).head?.map Prod.fst
  | symbol :: rest =>
    match pattern.run (symbol :: rest) with
    | (captures, _) :: _ => some captures
    | [] => search pattern rest

/-- The captures of the first match that begins where a line does; the flag tells whether the
text does. -/
def searchLinesFrom (pattern : Pattern) : (fresh : Bool) → List Char → Option (List (List Char))
  | fresh, [] => if fresh then (pattern.run []).head?.map Prod.fst else none
  | fresh, symbol :: rest =>
    match if fresh then pattern.run (symbol :: rest) else [] with
    | (captures, _) :: _ => some captures
    | [] => searchLinesFrom pattern (symbol == '\n') rest

def searchLines (pattern : Pattern) (text : List Char) : Option (List (List Char)) :=
  searchLinesFrom pattern true text

/-- The captures of the matches from left to right, none of which overlap; the number tells how
many characters the last one still covers. A match of nothing is passed over. -/
def findAllFrom (pattern : Pattern) : (covered : Nat) → List Char → List (List (List Char))
  | _, [] => []
  | covered + 1, _ :: rest => findAllFrom pattern covered rest
  | 0, symbol :: rest =>
    match pattern.run (symbol :: rest) with
    | (captures, last) :: _ =>
      if last.length ≤ rest.length then
        captures :: findAllFrom pattern (rest.length - last.length) rest
      else findAllFrom pattern 0 rest
    | [] => findAllFrom pattern 0 rest

def findAll (pattern : Pattern) (text : List Char) : List (List (List Char)) :=
  findAllFrom pattern 0 text

namespace Pattern

/-! ### One pattern behind another -/

theorem run_empty (text : List Char) : empty.run text = [([], text)] := rfl

theorem run_one_nil (accepts : Char → Bool) : (one accepts).run [] = [] := rfl

theorem run_one (accepts : Char → Bool) (front : Char) (rest : List Char) :
    (one accepts).run (front :: rest) = if accepts front then [([], rest)] else [] := rfl

theorem run_seq (first second : Pattern) (text : List Char) :
    (seq first second).run text = (first.run text).flatMap fun (captures, rest) =>
      (second.run rest).map fun (later, last) => (captures ++ later, last) := rfl

theorem run_alt (preferred fallback : Pattern) (text : List Char) :
    (alt preferred fallback).run text = preferred.run text ++ fallback.run text := rfl

theorem run_many (accepts : Char → Bool) (text : List Char) :
    (many accepts).run text = (manyRests accepts text).map fun rest => ([], rest) := rfl

theorem run_group (inner : Pattern) (text : List Char) :
    (group inner).run text = (inner.run text).map fun (captures, rest) =>
      (text.take (text.length - rest.length) :: captures, rest) := rfl

theorem run_lineEnd (text : List Char) :
    lineEnd.run text = if text = [] ∨ text.head? = Option.some '\n' then [([], text)] else [] := rfl

theorem run_textEnd (text : List Char) :
    textEnd.run text = if text = [] ∨ text = ['\n'] then [([], text)] else [] := rfl

theorem literal_nil : literal [] = empty := rfl

theorem literal_cons (front : Char) (word : List Char) :
    literal (front :: word) = seq (symbol front) (literal word) := rfl

theorem map_nil_append (ways : List Match) :
    ways.map (fun (later, last) => (([] : List (List Char)) ++ later, last)) = ways := by
  show ways.map id = ways
  rw [List.map_id]

@[simp]
theorem run_empty_seq (next : Pattern) (text : List Char) : (seq empty next).run text = next.run text := by
  rw [run_seq, run_empty, List.flatMap_singleton]
  exact map_nil_append _

theorem run_seq_assoc (first second third : Pattern) (text : List Char) :
    (seq (seq first second) third).run text = (seq first (seq second third)).run text := by
  simp only [run_seq, List.flatMap_assoc, List.map_flatMap, List.flatMap_map, List.map_map]
  refine List.flatMap_congr fun way _ => List.flatMap_congr fun next _ => ?_
  exact List.map_congr_left fun last _ => by simp

theorem mem_run_seq {first second : Pattern} {captures : List (List Char)} {text last : List Char} :
    (captures, last) ∈ (seq first second).run text ↔ ∃ earlier middle later,
      (earlier, middle) ∈ first.run text ∧ (later, last) ∈ second.run middle ∧
        captures = earlier ++ later := by
  constructor
  · intro member
    obtain ⟨⟨earlier, middle⟩, before, inside⟩ := List.mem_flatMap.mp member
    obtain ⟨⟨later, end_⟩, behind, same⟩ := List.mem_map.mp inside
    obtain ⟨rfl, rfl⟩ := Prod.ext_iff.mp same
    exact ⟨earlier, middle, later, before, behind, rfl⟩
  · rintro ⟨earlier, middle, later, before, behind, rfl⟩
    exact List.mem_flatMap.mpr ⟨(earlier, middle), before,
      List.mem_map.mpr ⟨(later, last), behind, rfl⟩⟩

/-! ### Fixed characters and texts -/

section Fixed

variable {accepts : Char → Bool} {next : Pattern} {front : Char} {word text rest : List Char}

theorem run_one_seq (accepted : accepts front = true) :
    (seq (one accepts) next).run (front :: rest) = next.run rest := by
  rw [run_seq, run_one, if_pos accepted, List.flatMap_singleton]
  exact map_nil_append _

theorem run_one_seq_refused (refused : accepts front = false) :
    (seq (one accepts) next).run (front :: rest) = [] := by
  rw [run_seq, run_one, refused, if_neg Bool.false_ne_true, List.flatMap_nil]

@[simp]
theorem run_one_seq_nil : (seq (one accepts) next).run [] = [] := rfl

theorem run_symbol_seq : (seq (symbol front) next).run (front :: rest) = next.run rest :=
  run_one_seq (beq_self_eq_true front)

theorem run_symbol_seq_refused {other : Char} (apart : other ≠ front) :
    (seq (symbol front) next).run (other :: rest) = [] :=
  run_one_seq_refused (beq_eq_false_iff_ne.mpr apart)

theorem run_literal_seq (word rest : List Char) (next : Pattern) :
    (seq (literal word) next).run (word ++ rest) = next.run rest := by
  induction word with
  | nil => exact run_empty_seq next rest
  | cons front word inductionHypothesis =>
    rw [literal_cons, run_seq_assoc, List.cons_append, run_symbol_seq, inductionHypothesis]

theorem run_literal_seq_refused (apart : ¬ word <+: text) :
    (seq (literal word) next).run text = [] := by
  induction word generalizing text with
  | nil => exact absurd List.nil_prefix apart
  | cons front word inductionHypothesis =>
    rw [literal_cons, run_seq_assoc]
    cases text with
    | nil => exact run_one_seq_nil
    | cons other text =>
      by_cases same : other = front
      · rw [same] at apart ⊢
        rw [run_symbol_seq]
        exact inductionHypothesis fun inside =>
          apart (List.cons_prefix_cons.mpr ⟨rfl, inside⟩)
      · exact run_symbol_seq_refused same

theorem mem_run_one {captures : List (List Char)} {last : List Char} :
    (captures, last) ∈ (one accepts).run text ↔
      captures = [] ∧ ∃ front, text = front :: last ∧ accepts front = true := by
  cases text with
  | nil =>
    refine iff_of_false (fun member => nomatch member) ?_
    rintro ⟨_, _, ends, _⟩
    cases ends
  | cons front text =>
    rw [run_one]
    by_cases accepted : accepts front = true
    · rw [if_pos accepted, List.mem_singleton, Prod.mk.injEq]
      refine and_congr_right fun _ => ⟨?_, ?_⟩
      · rintro rfl
        exact ⟨front, rfl, accepted⟩
      · rintro ⟨other, split, _⟩
        exact (List.cons.inj split).2.symm
    · rw [if_neg accepted]
      refine iff_of_false (fun member => nomatch member) ?_
      rintro ⟨_, other, split, allowed⟩
      rw [← (List.cons.inj split).1] at allowed
      exact accepted allowed

theorem mem_run_literal {captures : List (List Char)} {last : List Char} :
    (captures, last) ∈ (literal word).run text ↔ captures = [] ∧ text = word ++ last := by
  induction word generalizing captures text with
  | nil =>
    rw [literal_nil, run_empty, List.mem_singleton, Prod.mk.injEq, List.nil_append]
    exact and_congr_right fun _ => eq_comm
  | cons front word inductionHypothesis =>
    rw [literal_cons, mem_run_seq]
    constructor
    · rintro ⟨earlier, middle, later, before, behind, rfl⟩
      obtain ⟨rfl, other, rfl, same⟩ := mem_run_one.mp before
      obtain ⟨rfl, rfl⟩ := inductionHypothesis.mp behind
      exact ⟨rfl, by rw [beq_iff_eq.mp same, List.cons_append]⟩
    · rintro ⟨rfl, rfl⟩
      exact ⟨[], word ++ last, [], mem_run_one.mpr ⟨rfl, front, rfl, beq_self_eq_true front⟩,
        inductionHypothesis.mpr ⟨rfl, rfl⟩, rfl⟩

theorem mem_run_literal_seq {captures : List (List Char)} {last : List Char} :
    (captures, last) ∈ (seq (literal word) next).run text ↔
      ∃ middle, text = word ++ middle ∧ (captures, last) ∈ next.run middle := by
  rw [mem_run_seq]
  constructor
  · rintro ⟨earlier, middle, later, before, behind, rfl⟩
    obtain ⟨rfl, rfl⟩ := mem_run_literal.mp before
    exact ⟨middle, rfl, behind⟩
  · rintro ⟨middle, rfl, behind⟩
    exact ⟨[], middle, captures, mem_run_literal.mpr ⟨rfl, rfl⟩, behind, rfl⟩

end Fixed

/-! ### Repetitions -/

section Repetitions

variable {accepts : Char → Bool} {next : Pattern} {block rest text : List Char}

/-- The pattern matches nowhere where an accepted character stands. -/
def Refuses (next : Pattern) (accepts : Char → Bool) : Prop :=
  ∀ front rest, accepts front = true → next.run (front :: rest) = []

/-- The text does not begin with an accepted character. -/
def Stops (accepts : Char → Bool) (text : List Char) : Prop :=
  ∀ front ∈ text.head?, accepts front = false

theorem refuses_textEnd (refused : accepts '\n' = false) : Refuses textEnd accepts := by
  intro front rest accepted
  rw [run_textEnd, if_neg]
  rintro (ends | feed)
  · cases ends
  · rw [(List.cons.inj feed).1, refused] at accepted
    exact Bool.false_ne_true accepted

theorem mem_manyRests : rest ∈ manyRests accepts text ↔
    ∃ taken, text = taken ++ rest ∧ ∀ symbol ∈ taken, accepts symbol = true := by
  induction text with
  | nil =>
    rw [manyRests, List.mem_singleton]
    constructor
    · rintro rfl
      exact ⟨[], rfl, fun symbol member => nomatch member⟩
    · rintro ⟨taken, split, _⟩
      exact (List.append_eq_nil_iff.mp split.symm).2
  | cons front text inductionHypothesis =>
    have stay : ∃ taken, front :: text = taken ++ front :: text ∧
        ∀ symbol ∈ taken, accepts symbol = true := ⟨[], rfl, fun symbol member => nomatch member⟩
    rw [manyRests]
    by_cases accepted : accepts front = true
    · rw [if_pos accepted, List.mem_append, inductionHypothesis, List.mem_singleton]
      constructor
      · rintro (⟨taken, rfl, all⟩ | rfl)
        · exact ⟨front :: taken, rfl, List.forall_mem_cons.mpr ⟨accepted, all⟩⟩
        · exact stay
      · rintro ⟨taken, split, all⟩
        cases taken with
        | nil => exact .inr split.symm
        | cons other taken =>
          obtain ⟨rfl, tails⟩ := List.cons.inj split
          exact .inl ⟨taken, tails, (List.forall_mem_cons.mp all).2⟩
    · rw [if_neg accepted, List.mem_singleton]
      constructor
      · rintro rfl
        exact stay
      · rintro ⟨taken, split, all⟩
        cases taken with
        | nil => exact split.symm
        | cons other taken =>
          obtain ⟨rfl, tails⟩ := List.cons.inj split
          exact absurd (all front List.mem_cons_self) accepted

/-- Behind accepted characters, the first text left is the one without them, and every other
begins with an accepted one. -/
theorem manyRests_append (all : ∀ symbol ∈ block, accepts symbol = true) (stops : Stops accepts rest) :
    ∃ others, manyRests accepts (block ++ rest) = rest :: others ∧
      ∀ other ∈ others, ∃ front last, other = front :: last ∧ accepts front = true := by
  induction block with
  | nil =>
    refine ⟨[], ?_, fun other member => nomatch member⟩
    rw [List.nil_append]
    cases rest with
    | nil => rfl
    | cons front rest => rw [manyRests, stops front rfl, if_neg Bool.false_ne_true]
  | cons front block inductionHypothesis =>
    obtain ⟨accepted, later⟩ := List.forall_mem_cons.mp all
    obtain ⟨others, ways, begins⟩ := inductionHypothesis later
    refine ⟨others ++ [front :: (block ++ rest)], ?_, fun other member => ?_⟩
    · rw [List.cons_append, manyRests, if_pos accepted, ways, List.cons_append]
    · rcases List.mem_append.mp member with old | new
      · exact begins other old
      · exact ⟨front, block ++ rest, List.mem_singleton.mp new, accepted⟩

theorem run_many_seq_eq (next : Pattern) (text : List Char) :
    (seq (many accepts) next).run text = (manyRests accepts text).flatMap next.run := by
  rw [run_seq, run_many, List.flatMap_map]
  exact List.flatMap_congr fun rest _ => map_nil_append _

/-- A greedy repetition takes all it can where what comes next refuses the rest. -/
theorem run_many_seq (refuses : Refuses next accepts) (all : ∀ symbol ∈ block, accepts symbol = true)
    (stops : Stops accepts rest) : (seq (many accepts) next).run (block ++ rest) = next.run rest := by
  obtain ⟨others, ways, begins⟩ := manyRests_append all stops
  have refused : others.flatMap next.run = [] := by
    refine List.flatMap_eq_nil_iff.mpr fun other member => ?_
    obtain ⟨front, last, rfl, accepted⟩ := begins other member
    exact refuses front last accepted
  rw [run_many_seq_eq, ways, List.flatMap_cons, refused, List.append_nil]

theorem mem_run_many {captures : List (List Char)} {last : List Char} :
    (captures, last) ∈ (many accepts).run text ↔
      captures = [] ∧ ∃ taken, text = taken ++ last ∧ ∀ symbol ∈ taken, accepts symbol = true := by
  rw [run_many, List.mem_map, ← mem_manyRests]
  constructor
  · rintro ⟨rest, member, same⟩
    obtain ⟨rfl, rfl⟩ := Prod.ext_iff.mp same
    exact ⟨rfl, member⟩
  · rintro ⟨rfl, member⟩
    exact ⟨last, member, rfl⟩

theorem mem_run_some {captures : List (List Char)} {last : List Char} :
    (captures, last) ∈ (some accepts).run text ↔ captures = [] ∧ ∃ taken, text = taken ++ last ∧
      taken ≠ [] ∧ ∀ symbol ∈ taken, accepts symbol = true := by
  rw [some, mem_run_seq]
  constructor
  · rintro ⟨earlier, middle, later, before, behind, rfl⟩
    obtain ⟨rfl, front, rfl, accepted⟩ := mem_run_one.mp before
    obtain ⟨rfl, taken, rfl, all⟩ := mem_run_many.mp behind
    exact ⟨rfl, front :: taken, rfl, List.cons_ne_nil _ _, List.forall_mem_cons.mpr ⟨accepted, all⟩⟩
  · rintro ⟨rfl, taken, rfl, nonempty, all⟩
    cases taken with
    | nil => exact absurd rfl nonempty
    | cons front taken =>
      obtain ⟨accepted, later⟩ := List.forall_mem_cons.mp all
      exact ⟨[], taken ++ last, [], mem_run_one.mpr ⟨rfl, front, rfl, accepted⟩,
        mem_run_many.mpr ⟨rfl, taken, rfl, later⟩, rfl⟩

theorem mem_run_textEnd {captures : List (List Char)} {last : List Char} :
    (captures, last) ∈ textEnd.run text ↔
      captures = [] ∧ last = text ∧ (text = [] ∨ text = ['\n']) := by
  rw [run_textEnd]
  by_cases ends : text = [] ∨ text = ['\n']
  · rw [if_pos ends, List.mem_singleton, Prod.mk.injEq]
    exact ⟨fun same => ⟨same.1, same.2, ends⟩, fun same => ⟨same.1, same.2.1⟩⟩
  · rw [if_neg ends]
    exact iff_of_false (fun member => nomatch member) fun same => ends same.2.2

end Repetitions

/-! ### Captured numerals -/

section CapturedNumerals

open Text

variable (numerals : Numerals)

/-- `(\d+)`. -/
def digits : Pattern := group (some numerals.isDigit)

end CapturedNumerals

end Pattern

/-! ### Where a search ends -/

variable {pattern : Pattern} {captures : List (List Char)} {last text : List Char}

namespace Pattern

/-- The pattern cannot match a separator, and looks for an end only where the separator is the
end of a line. -/
def Avoids (separator : Char) : Pattern → Prop
  | empty => True
  | one accepts => accepts separator = false
  | seq first second => first.Avoids separator ∧ second.Avoids separator
  | alt preferred fallback => preferred.Avoids separator ∧ fallback.Avoids separator
  | many accepts => accepts separator = false
  | group inner => inner.Avoids separator
  | lineEnd => separator = '\n'
  | textEnd => False

theorem avoids_literal {separator : Char} {word : List Char} (absent : separator ∉ word) :
    (literal word).Avoids separator := by
  induction word with
  | nil => exact trivial
  | cons front word inductionHypothesis =>
    exact ⟨beq_eq_false_iff_ne.mpr (List.ne_of_not_mem_cons absent),
      inductionHypothesis (List.not_mem_of_not_mem_cons absent)⟩

theorem avoids_anyOf {separator : Char} {words : List (List Char)}
    (absent : ∀ word ∈ words, separator ∉ word) : (anyOf words).Avoids separator := by
  induction words with
  | nil => exact rfl
  | cons word words inductionHypothesis =>
    obtain ⟨here, later⟩ := List.forall_mem_cons.mp absent
    cases words with
    | nil => exact avoids_literal here
    | cons other words => exact ⟨avoids_literal here, inductionHypothesis later⟩

theorem run_suffix {pattern : Pattern} {captures : List (List Char)} {text last : List Char}
    (member : (captures, last) ∈ pattern.run text) : last <:+ text := by
  induction pattern generalizing captures text last with
  | empty =>
    rw [run_empty, List.mem_singleton] at member
    cases member
    exact List.suffix_refl _
  | one accepts =>
    obtain ⟨_, front, rfl, _⟩ := mem_run_one.mp member
    exact List.suffix_cons _ _
  | seq first second firstHypothesis secondHypothesis =>
    obtain ⟨_, middle, _, before, behind, _⟩ := mem_run_seq.mp member
    exact (secondHypothesis behind).trans (firstHypothesis before)
  | alt preferred fallback preferredHypothesis fallbackHypothesis =>
    rcases List.mem_append.mp member with left | right
    · exact preferredHypothesis left
    · exact fallbackHypothesis right
  | many accepts =>
    obtain ⟨_, taken, rfl, _⟩ := mem_run_many.mp member
    exact List.suffix_append _ _
  | group inner inductionHypothesis =>
    obtain ⟨⟨inside, rest⟩, matched, same⟩ := List.mem_map.mp member
    obtain ⟨_, rfl⟩ := Prod.ext_iff.mp same
    exact inductionHypothesis matched
  | lineEnd =>
    rw [run_lineEnd] at member
    split at member
    · cases List.mem_singleton.mp member
      exact List.suffix_refl _
    · cases member
  | textEnd =>
    obtain ⟨_, rfl, _⟩ := mem_run_textEnd.mp member
    exact List.suffix_refl _

/-- What stands behind a separator is left alone. -/
def Behind (rest : List Char) (way : Match) : Match := (way.1, way.2 ++ rest)

theorem manyRests_separated {accepts : Char → Bool} {separator : Char}
    (refused : accepts separator = false) (text rest : List Char) :
    manyRests accepts (text ++ separator :: rest) =
      (manyRests accepts text).map (· ++ separator :: rest) := by
  induction text with
  | nil =>
    rw [List.nil_append, manyRests, manyRests, refused, if_neg Bool.false_ne_true]
    rfl
  | cons front text inductionHypothesis =>
    rw [List.cons_append, manyRests, manyRests]
    by_cases accepted : accepts front = true
    · rw [if_pos accepted, if_pos accepted, inductionHypothesis, List.map_append]
      rfl
    · rw [if_neg accepted, if_neg accepted]
      rfl

/-- Up to a separator, a pattern that avoids it matches as if the text ended there. -/
theorem run_separated {pattern : Pattern} {separator : Char} {text : List Char}
    (avoids : pattern.Avoids separator) (absent : separator ∉ text) (rest : List Char) :
    pattern.run (text ++ separator :: rest) =
      (pattern.run text).map (Behind (separator :: rest)) := by
  induction pattern generalizing text with
  | empty => rfl
  | one accepts =>
    cases text with
    | nil =>
      have refused : accepts separator = false := avoids
      rw [List.nil_append, run_one, run_one_nil, refused, if_neg Bool.false_ne_true]
      rfl
    | cons front text =>
      rw [List.cons_append, run_one, run_one]
      split <;> rfl
  | seq first second firstHypothesis secondHypothesis =>
    rw [run_seq, run_seq, firstHypothesis avoids.1 absent, List.flatMap_map, List.map_flatMap]
    refine List.flatMap_congr fun way member => ?_
    have later : separator ∉ way.2 := fun inside => absent ((run_suffix member).subset inside)
    show ((second.run (way.2 ++ separator :: rest)).map _) = _
    rw [secondHypothesis avoids.2 later, List.map_map, List.map_map]
    rfl
  | alt preferred fallback preferredHypothesis fallbackHypothesis =>
    rw [run_alt, run_alt, preferredHypothesis avoids.1 absent, fallbackHypothesis avoids.2 absent,
      List.map_append]
  | many accepts =>
    rw [run_many, run_many, manyRests_separated avoids, List.map_map, List.map_map]
    rfl
  | group inner inductionHypothesis =>
    rw [run_group, run_group, inductionHypothesis avoids absent, List.map_map, List.map_map]
    refine List.map_congr_left fun way member => ?_
    have shorter : way.2.length ≤ text.length := (run_suffix member).length_le
    have taken : (text ++ separator :: rest).take
        ((text ++ separator :: rest).length - (way.2 ++ separator :: rest).length) =
          text.take (text.length - way.2.length) := by
      rw [List.length_append, List.length_append, Nat.add_sub_add_right,
        List.take_append_of_le_length (Nat.sub_le _ _)]
    show ((text ++ separator :: rest).take _ :: way.1, way.2 ++ separator :: rest) =
      (text.take _ :: way.1, way.2 ++ separator :: rest)
    rw [← taken]
  | lineEnd =>
    have feed : separator = '\n' := avoids
    subst feed
    cases text with
    | nil => rfl
    | cons front text =>
      have apart : front ≠ '\n' := fun same => absent (same ▸ List.mem_cons_self)
      have inside : ¬ (front :: text = [] ∨ (front :: text).head? = Option.some '\n') := by
        rintro (none | feed)
        · cases none
        · exact apart (Option.some.inj feed)
      have outside : ¬ (front :: text ++ '\n' :: rest = [] ∨
          (front :: text ++ '\n' :: rest).head? = Option.some '\n') := by
        rintro (none | feed)
        · cases none
        · exact apart (Option.some.inj feed)
      rw [run_lineEnd, run_lineEnd, if_neg inside, if_neg outside]
      rfl
  | textEnd => exact absurd avoids id

end Pattern

/-- The captures of the first match at the front of a line. -/
def matchFront (pattern : Pattern) (line : List Char) : Option (List (List Char)) :=
  (pattern.run line).head?.map Prod.fst

theorem searchLinesFrom_stale {content : List Char} (absent : '\n' ∉ content) (rest : List Char) :
    searchLinesFrom pattern false (content ++ '\n' :: rest) = searchLinesFrom pattern true rest := by
  induction content with
  | nil => rfl
  | cons symbol content inductionHypothesis =>
    have stale : (symbol == '\n') = false :=
      beq_eq_false_iff_ne.mpr (List.ne_of_not_mem_cons absent).symm
    rw [List.cons_append, searchLinesFrom, stale]
    exact inductionHypothesis (List.not_mem_of_not_mem_cons absent)

/-- A search at the beginnings of lines takes the first line whose front matches. -/
theorem searchLines_unlines {content : List (List Char)} (avoids : pattern.Avoids '\n')
    (nonempty : pattern.run [] = []) (unbroken : ∀ line ∈ content, '\n' ∉ line) :
    searchLines pattern (Text.unlines content) = content.findSome? (matchFront pattern) := by
  induction content with
  | nil =>
    show (if true then (pattern.run []).head?.map Prod.fst else none) = none
    rw [nonempty]
    rfl
  | cons line content inductionHypothesis =>
    have absent := unbroken line List.mem_cons_self
    have front := Pattern.run_separated avoids absent (Text.unlines content)
    have rest := inductionHypothesis fun other member => unbroken other (List.mem_cons_of_mem _ member)
    have text : Text.unlines (line :: content) = line ++ '\n' :: Text.unlines content := by
      rw [Text.unlines, List.flatMap_cons, List.append_assoc]
      rfl
    rw [text, List.findSome?_cons, matchFront, ← rest]
    cases line with
    | nil =>
      rw [nonempty, List.map_nil] at front
      rw [nonempty, List.nil_append, searchLines, searchLinesFrom, if_pos rfl, ← List.nil_append ('\n' :: _),
        front]
      rfl
    | cons symbol line =>
      have stale : (symbol == '\n') = false :=
        beq_eq_false_iff_ne.mpr (List.ne_of_not_mem_cons absent).symm
      rw [List.cons_append] at front ⊢
      rw [searchLines, searchLinesFrom, if_pos rfl, front, stale,
        searchLinesFrom_stale (List.not_mem_of_not_mem_cons absent)]
      cases pattern.run (symbol :: line) with
      | nil => rfl
      | cons way ways => rfl

/-! ### All matches -/

theorem findAllFrom_covered {covered : Nat} (all : text.length ≤ covered) :
    findAllFrom pattern covered text = [] := by
  induction text generalizing covered with
  | nil => cases covered <;> rfl
  | cons symbol text inductionHypothesis =>
    cases covered with
    | zero => cases all
    | succ covered => exact inductionHypothesis (Nat.le_of_succ_le_succ all)

/-- A match that takes the whole text is the only one. -/
theorem findAll_of_run {others : List Match} {front : Char}
    (matched : pattern.run (front :: text) = (captures, []) :: others) :
    findAll pattern (front :: text) = [captures] := by
  rw [findAll, findAllFrom, matched]
  show (if 0 ≤ text.length then captures :: findAllFrom pattern (text.length - 0) text else _) = _
  rw [if_pos (Nat.zero_le _), findAllFrom_covered (Nat.le_of_eq (Nat.sub_zero _).symm)]

theorem findAll_append {skipped : List Char}
    (misses : ∀ tail, tail ≠ [] → tail <:+ skipped → pattern.run (tail ++ text) = []) :
    findAll pattern (skipped ++ text) = findAll pattern text := by
  induction skipped with
  | nil => rfl
  | cons symbol skipped inductionHypothesis =>
    have here := misses (symbol :: skipped) (List.cons_ne_nil _ _) (List.suffix_refl _)
    rw [List.cons_append] at here
    rw [List.cons_append, findAll, findAllFrom, here]
    exact inductionHypothesis fun tail nonempty inside =>
      misses tail nonempty (inside.trans (List.suffix_cons symbol skipped))

/-- No match goes over a separator that the pattern avoids. -/
theorem findAll_separated {separator : Char} (avoids : pattern.Avoids separator)
    (nonempty : pattern.run [] = []) (absent : separator ∉ text) (rest : List Char) :
    findAll pattern (text ++ separator :: rest) = findAll pattern text ++ findAll pattern rest := by
  have general : ∀ covered ≤ text.length, findAllFrom pattern covered (text ++ separator :: rest) =
      findAllFrom pattern covered text ++ findAll pattern rest := by
    induction text with
    | nil =>
      intro covered none
      have separated := Pattern.run_separated avoids absent rest
      rw [nonempty, List.map_nil, List.nil_append] at separated
      rw [Nat.le_zero.mp none, List.nil_append, findAllFrom, findAllFrom, separated]
      rfl
    | cons symbol text inductionHypothesis =>
      have later := inductionHypothesis (List.not_mem_of_not_mem_cons absent)
      intro covered within
      cases covered with
      | succ covered => exact later covered (Nat.le_of_succ_le_succ within)
      | zero =>
        have separated := Pattern.run_separated avoids absent rest
        rw [List.cons_append] at separated ⊢
        rw [findAllFrom, findAllFrom, separated]
        cases pattern.run (symbol :: text) with
        | nil => exact later 0 (Nat.zero_le _)
        | cons way ways =>
          have shorter : (way.2 ++ separator :: rest).length ≤ (text ++ separator :: rest).length ↔
              way.2.length ≤ text.length := by
            rw [List.length_append, List.length_append, Nat.add_le_add_iff_right]
          have still : (text ++ separator :: rest).length - (way.2 ++ separator :: rest).length =
              text.length - way.2.length := by
            rw [List.length_append, List.length_append, Nat.add_sub_add_right]
          show (if (way.2 ++ separator :: rest).length ≤ (text ++ separator :: rest).length then
              way.1 :: findAllFrom pattern _ _ else _) =
            (if way.2.length ≤ text.length then way.1 :: findAllFrom pattern _ _ else _) ++ _
          by_cases progress : way.2.length ≤ text.length
          · rw [if_pos (shorter.mpr progress), if_pos progress, still, List.cons_append,
              later _ (Nat.sub_le _ _)]
          · rw [if_neg (fun other => progress (shorter.mp other)), if_neg progress,
              later 0 (Nat.zero_le _)]
  exact general 0 (Nat.zero_le _)

/-! ### Texts that fit -/

namespace Pattern

/-- The pattern matches at the front of the text. -/
def Fits (pattern : Pattern) (text : List Char) : Prop := ∃ way, way ∈ pattern.run text

variable {next : Pattern} {accepts : Char → Bool} {word block rest : List Char}

theorem Fits.literal (word rest : List Char) : Fits (Pattern.literal word) (word ++ rest) :=
  ⟨([], rest), mem_run_literal.mpr ⟨rfl, rfl⟩⟩

theorem Fits.lineEnd : Fits lineEnd [] := ⟨([], []), List.mem_singleton_self _⟩

theorem Fits.literal_seq (fits : Fits next rest) (word : List Char) :
    Fits (seq (Pattern.literal word) next) (word ++ rest) := by
  obtain ⟨way, member⟩ := fits
  exact ⟨way, mem_run_literal_seq.mpr ⟨rest, rfl, member⟩⟩

theorem Fits.one_seq (fits : Fits next rest) {front : Char} (accepted : accepts front = true) :
    Fits (seq (one accepts) next) (front :: rest) := by
  obtain ⟨way, member⟩ := fits
  exact ⟨way, by rwa [run_one_seq accepted]⟩

theorem Fits.many_seq (fits : Fits next rest) (all : ∀ symbol ∈ block, accepts symbol = true) :
    Fits (seq (many accepts) next) (block ++ rest) := by
  obtain ⟨⟨captures, last⟩, member⟩ := fits
  exact ⟨(captures, last), mem_run_seq.mpr ⟨[], rest, captures,
    mem_run_many.mpr ⟨rfl, block, rfl, all⟩, member, rfl⟩⟩

theorem Fits.some_seq (fits : Fits next rest) (nonempty : block ≠ [])
    (all : ∀ symbol ∈ block, accepts symbol = true) :
    Fits (seq (some accepts) next) (block ++ rest) := by
  obtain ⟨⟨captures, last⟩, member⟩ := fits
  exact ⟨(captures, last), mem_run_seq.mpr ⟨[], rest, captures,
    mem_run_some.mpr ⟨rfl, block, rfl, nonempty, all⟩, member, rfl⟩⟩

theorem Fits.some (nonempty : block ≠ []) (all : ∀ symbol ∈ block, accepts symbol = true)
    (rest : List Char) : Fits (some accepts) (block ++ rest) :=
  ⟨([], rest), mem_run_some.mpr ⟨rfl, block, rfl, nonempty, all⟩⟩

theorem Fits.optional_seq {inner : Pattern} (fits : Fits next rest) :
    Fits (seq (optional inner) next) rest := by
  obtain ⟨⟨captures, last⟩, member⟩ := fits
  exact ⟨(captures, last), mem_run_seq.mpr ⟨[], rest, captures,
    List.mem_append_right _ (List.mem_singleton_self _), member, rfl⟩⟩

theorem Fits.optional_symbol_seq (fits : Fits next rest) (front : Char) :
    Fits (seq (optional (symbol front)) next) (front :: rest) := by
  obtain ⟨⟨captures, last⟩, member⟩ := fits
  exact ⟨(captures, last), mem_run_seq.mpr ⟨[], rest, captures,
    List.mem_append_left _ (mem_run_one.mpr ⟨rfl, front, rfl, beq_self_eq_true front⟩), member, rfl⟩⟩

theorem run_literal_seq_nil (nonempty : word ≠ []) (next : Pattern) :
    (seq (Pattern.literal word) next).run [] = [] :=
  run_literal_seq_refused fun shared => nonempty (List.prefix_nil.mp shared)

theorem matchFront_eq_none (apart : ¬ word <+: block) (next : Pattern) :
    matchFront (seq (Pattern.literal word) next) block = none := by
  rw [matchFront, run_literal_seq_refused apart]
  rfl

theorem run_some_head (nonempty : block ≠ []) (all : ∀ symbol ∈ block, accepts symbol = true)
    (stops : Stops accepts rest) :
    ∃ others, (some accepts).run (block ++ rest) = ([], rest) :: others := by
  cases block with
  | nil => exact absurd rfl nonempty
  | cons front block =>
    obtain ⟨accepted, later⟩ := List.forall_mem_cons.mp all
    obtain ⟨others, ways, _⟩ := manyRests_append later stops
    exact ⟨_, by rw [some, List.cons_append, run_one_seq accepted, run_many, ways, List.map_cons]⟩

theorem run_group_head {inner : Pattern} {others : List Match}
    (first : inner.run (block ++ rest) = ([], rest) :: others) :
    ∃ later, (group inner).run (block ++ rest) = ([block], rest) :: later := by
  have taken : (block ++ rest).take ((block ++ rest).length - rest.length) = block := by
    rw [List.length_append, Nat.add_sub_cancel, List.take_left]
  rw [run_group, first, List.map_cons]
  exact ⟨_, congrArg (fun block => ([block], rest) :: _) taken⟩

/-- A printed number at the end of a pattern is captured whole. -/
theorem run_digits_head {numerals : Text.Numerals} (value : Nat)
    (stops : Stops numerals.isDigit rest) :
    ∃ others, (digits numerals).run (Text.decimal value ++ rest) =
      ([Text.decimal value], rest) :: others := by
  obtain ⟨others, first⟩ := run_some_head (Text.decimal_ne_nil value)
    (fun _ member => numerals.isDigit_of_mem_decimal member) stops
  exact run_group_head first

theorem run_alt_seq (preferred fallback next : Pattern) (text : List Char) :
    (seq (alt preferred fallback) next).run text =
      (seq preferred next).run text ++ (seq fallback next).run text := by
  rw [run_seq, run_seq, run_seq, ← List.flatMap_append]
  rfl

theorem run_optional_seq (inner next : Pattern) (text : List Char) :
    (seq (optional inner) next).run text = (seq inner next).run text ++ next.run text := by
  rw [optional, run_alt_seq, run_empty_seq]

theorem run_anyOf_seq (words : List (List Char)) (next : Pattern) (text : List Char) :
    (seq (anyOf words) next).run text =
      words.flatMap fun word => (seq (Pattern.literal word) next).run text := by
  induction words with
  | nil => cases text <;> rfl
  | cons word words inductionHypothesis =>
    cases words with
    | nil => rw [List.flatMap_singleton, anyOf]
    | cons other words =>
      rw [List.flatMap_cons, ← inductionHypothesis, ← run_alt_seq]
      rfl

theorem matchFront_isSome {pattern : Pattern} {line : List Char} :
    (matchFront pattern line).isSome = true ↔ Fits pattern line := by
  rw [matchFront, Option.isSome_map, Fits]
  cases ways : pattern.run line with
  | nil => exact iff_of_false Bool.false_ne_true fun ⟨_, impossible⟩ => nomatch impossible
  | cons first others => exact iff_of_true rfl ⟨first, List.mem_cons_self⟩

/-- The texts left by a repetition are those left of its last part, and more. -/
theorem manyRests_eq (all : ∀ symbol ∈ block, accepts symbol = true) (rest : List Char) :
    ∃ shorter longer, manyRests accepts (block ++ rest) = shorter ++ rest :: longer ∧
      ∀ tail ∈ shorter, tail <:+ rest ∧ tail ≠ rest := by
  induction block with
  | nil =>
    rw [List.nil_append]
    cases rest with
    | nil => exact ⟨[], [], rfl, fun tail member => nomatch member⟩
    | cons front rest =>
      by_cases accepted : accepts front = true
      · refine ⟨manyRests accepts rest, [], by rw [manyRests, if_pos accepted], fun tail member => ?_⟩
        obtain ⟨taken, rfl, _⟩ := mem_manyRests.mp member
        refine ⟨(List.suffix_append taken tail).trans (List.suffix_cons _ _), fun same => ?_⟩
        have longer := congrArg List.length same
        rw [List.length_cons, List.length_append] at longer
        omega
      · exact ⟨[], [], by rw [manyRests, if_neg accepted]; rfl, fun tail member => nomatch member⟩
  | cons front block inductionHypothesis =>
    obtain ⟨accepted, later⟩ := List.forall_mem_cons.mp all
    obtain ⟨shorter, longer, rests, proper⟩ := inductionHypothesis later
    refine ⟨shorter, longer ++ [front :: (block ++ rest)], ?_, proper⟩
    rw [List.cons_append, manyRests, if_pos accepted, rests, List.append_assoc, List.cons_append]

/-- A greedy repetition ends at the last place where what comes next matches. -/
theorem run_many_seq_last (all : ∀ symbol ∈ block, accepts symbol = true)
    (last : ∀ tail, tail <:+ rest → tail ≠ rest → next.run tail = []) :
    ∃ others, (seq (many accepts) next).run (block ++ rest) = next.run rest ++ others := by
  obtain ⟨shorter, longer, rests, proper⟩ := manyRests_eq all rest
  have refused : shorter.flatMap next.run = [] := by
    refine List.flatMap_eq_nil_iff.mpr fun tail member => ?_
    exact last tail (proper tail member).1 (proper tail member).2
  refine ⟨longer.flatMap next.run, ?_⟩
  rw [run_many_seq_eq, rests, List.flatMap_append, refused, List.nil_append, List.flatMap_cons]

end Pattern

end Regex
