/-
This file is a small library of programs that write bytes to a buffer of fixed
size and stop at the first byte that does not fit. Besides the buffer a program
has a state of its own.

What such a program does is said once, for the case that there is always room:
the bytes it yields, its result and its state. That says what it does in every
buffer, and the rules below build it up along the program.
-/

import Mathlib.Data.List.Basic
import Mathlib.Logic.Function.Basic

namespace BoundedOutput

/-! ### The buffer -/

/-- A buffer at the start of a memory: its size, the number of bytes written, and whether a byte
did not fit. -/
structure Sink where
  memory : Nat → UInt8
  size : Nat
  pos : Nat
  overflow : Bool

namespace Sink

def put (sink : Sink) (byte : UInt8) : Sink :=
  { sink with memory := Function.update sink.memory sink.pos byte, pos := sink.pos + 1 }

/-- Writes bytes at the end. -/
def append (sink : Sink) (bytes : List UInt8) : Sink := bytes.foldl put sink

variable (sink : Sink) (bytes more : List UInt8) (byte : UInt8)

@[simp] theorem append_nil : sink.append [] = sink := rfl

@[simp] theorem append_cons : sink.append (byte :: bytes) = (sink.put byte).append bytes := rfl

@[simp] theorem append_append : sink.append (bytes ++ more) = (sink.append bytes).append more :=
  List.foldl_append

@[simp]
theorem append_pos : (sink.append bytes).pos = sink.pos + bytes.length := by
  induction bytes generalizing sink with
  | nil => rfl
  | cons byte rest inductionHypothesis =>
    rw [append_cons, inductionHypothesis, List.length_cons]
    exact Nat.succ_add_eq_add_succ sink.pos rest.length

@[simp]
theorem append_size : (sink.append bytes).size = sink.size := by
  induction bytes generalizing sink with
  | nil => rfl
  | cons byte rest inductionHypothesis => exact inductionHypothesis _

@[simp]
theorem append_overflow : (sink.append bytes).overflow = sink.overflow := by
  induction bytes generalizing sink with
  | nil => rfl
  | cons byte rest inductionHypothesis => exact inductionHypothesis _

/-- What was there before stays. -/
theorem append_memory_lt {place : Nat} (before : place < sink.pos) :
    (sink.append bytes).memory place = sink.memory place := by
  induction bytes generalizing sink with
  | nil => rfl
  | cons byte rest inductionHypothesis =>
    rw [append_cons, inductionHypothesis _ (Nat.lt_succ_of_lt before)]
    exact Function.update_of_ne (Nat.ne_of_lt before) _ _

/-- The bytes are where they were written. -/
theorem append_memory_add {index : Nat} (within : index < bytes.length) :
    (sink.append bytes).memory (sink.pos + index) = bytes[index] := by
  induction bytes generalizing sink index with
  | nil => exact absurd within (Nat.not_lt_zero _)
  | cons byte rest inductionHypothesis =>
    rw [append_cons]
    cases index with
    | zero =>
      rw [Nat.add_zero, append_memory_lt _ _ (Nat.lt_succ_self _)]
      exact Function.update_self ..
    | succ index =>
      have place : sink.pos + (index + 1) = (sink.put byte).pos + index :=
        (Nat.succ_add_eq_add_succ sink.pos index).symm
      rw [place, inductionHypothesis _ (Nat.lt_of_succ_lt_succ within)]
      rfl

/-- Nothing is written behind the bytes. -/
theorem append_memory_ge {place : Nat} (behind : sink.pos + bytes.length ≤ place) :
    (sink.append bytes).memory place = sink.memory place := by
  induction bytes generalizing sink with
  | nil => rfl
  | cons byte rest inductionHypothesis =>
    rw [List.length_cons] at behind
    have next : (sink.put byte).pos = sink.pos + 1 := rfl
    rw [append_cons, inductionHypothesis _ (by omega)]
    exact Function.update_of_ne (by omega) _ _

end Sink

/-! ### Programs -/

/-- A program with a state of type `σ`; it fails where a byte does not fit. -/
def Writer (σ α : Type) := σ → Sink → Option α × σ × Sink

variable {σ α β : Type}

/-- Runs a program. -/
def Writer.exec (writer : Writer σ α) (state : σ) (sink : Sink) : Option α × σ × Sink :=
  writer state sink

instance : Monad (Writer σ) where
  pure result := fun state sink => (some result, state, sink)
  bind writer rest := fun state sink =>
    match writer state sink with
    | (some result, next, after) => rest result next after
    | (none, next, after) => (none, next, after)

theorem exec_bind (writer : Writer σ α) (rest : α → Writer σ β) (state : σ) (sink : Sink) :
    (writer >>= rest).exec state sink = match writer.exec state sink with
      | (some result, next, after) => (rest result).exec next after
      | (none, next, after) => (none, next, after) := rfl

instance : LawfulMonad (Writer σ) :=
  LawfulMonad.mk' _
    (fun writer => by
      funext state sink
      show (writer >>= pure).exec state sink = writer.exec state sink
      rw [exec_bind]
      rcases writer.exec state sink with ⟨_ | _, _, _⟩ <;> rfl)
    (fun _ _ => rfl)
    (fun writer second third => by
      funext state sink
      show (writer >>= second >>= third).exec state sink =
        (writer >>= fun result => second result >>= third).exec state sink
      rw [exec_bind, exec_bind, exec_bind]
      rcases writer.exec state sink with ⟨_ | _, _, _⟩ <;> rfl)

def putByte (byte : UInt8) : Writer σ Unit := fun state sink =>
  if sink.size ≤ sink.pos then (none, state, { sink with overflow := true })
  else (some (), state, sink.put byte)

/-- Reads the program's own state. -/
def getState : Writer σ σ := fun state sink => (some state, state, sink)

/-- Replaces it. -/
def setState (state : σ) : Writer σ Unit := fun _ sink => (some (), state, sink)

/-! ### What a program yields -/

/-- From `state` the program yields `bytes`, the result and a new state; where they do not fit it
fails, with as many of them in the buffer as there is room for. -/
structure Yields (writer : Writer σ α) (state : σ) (bytes : List UInt8) (result : α) (next : σ) :
    Prop where
  fits : ∀ sink : Sink, sink.pos + bytes.length ≤ sink.size →
    writer.exec state sink = (some result, next, sink.append bytes)
  full : ∀ sink : Sink, sink.pos ≤ sink.size → sink.size < sink.pos + bytes.length →
    ∃ last, writer.exec state sink = (none, last,
      { sink.append (bytes.take (sink.size - sink.pos)) with overflow := true })

theorem yields_pure (result : α) (state : σ) :
    Yields (pure result : Writer σ α) state [] result state where
  fits _ _ := rfl
  full _ within beyond := absurd beyond (Nat.not_lt_of_le within)

theorem yields_getState (state : σ) : Yields getState state [] state state where
  fits _ _ := rfl
  full _ within beyond := absurd beyond (Nat.not_lt_of_le within)

theorem yields_setState (state next : σ) : Yields (setState next) state [] () next where
  fits _ _ := rfl
  full _ within beyond := absurd beyond (Nat.not_lt_of_le within)

theorem yields_putByte (byte : UInt8) (state : σ) : Yields (putByte byte) state [byte] () state where
  fits sink room := if_neg (Nat.not_le_of_lt room)
  full sink within beyond := by
    have filled : sink.size = sink.pos := Nat.le_antisymm (Nat.le_of_lt_succ beyond) within
    refine ⟨state, ?_⟩
    rw [filled, Nat.sub_self, List.take_zero, Sink.append_nil]
    exact if_pos (Nat.le_of_eq filled)

/-- One program after the other. -/
theorem Yields.bind {writer : Writer σ α} {rest : α → Writer σ β} {state next last : σ}
    {bytes more : List UInt8} {middle : α} {result : β}
    (first : Yields writer state bytes middle next) (second : Yields (rest middle) next more result last) :
    Yields (writer >>= rest) state (bytes ++ more) result last where
  fits sink room := by
    rw [List.length_append] at room
    rw [exec_bind, first.fits sink (by omega), Sink.append_append]
    exact second.fits _ (by rw [Sink.append_pos, Sink.append_size]; omega)
  full sink within beyond := by
    rw [List.length_append] at beyond
    rw [exec_bind]
    by_cases room : sink.pos + bytes.length ≤ sink.size
    · rw [first.fits sink room]
      obtain ⟨stopped, ended⟩ := second.full (sink.append bytes)
        (by rw [Sink.append_pos, Sink.append_size]; exact room)
        (by rw [Sink.append_pos, Sink.append_size]; omega)
      refine ⟨stopped, ended.trans ?_⟩
      have whole : bytes.take (sink.size - sink.pos) = bytes := List.take_of_length_le (by omega)
      rw [Sink.append_pos, Sink.append_size, List.take_append, Sink.append_append, whole,
        Nat.sub_add_eq]
    · obtain ⟨stopped, ended⟩ := first.full sink within (Nat.lt_of_not_le room)
      refine ⟨stopped, ?_⟩
      rw [ended, List.take_append_of_le_length (by omega)]

theorem Yields.seq {writer : Writer σ Unit} {rest : Writer σ β} {state next last : σ}
    {bytes more : List UInt8} {result : β} (first : Yields writer state bytes () next)
    (second : Yields rest next more result last) :
    Yields (writer >>= fun _ => rest) state (bytes ++ more) result last :=
  first.bind second

/-- Writing the elements of a list, one after the other. -/
theorem yields_forM {items : List α} {write : α → Writer σ Unit} {state : σ}
    {bytes : α → List UInt8} (each : ∀ item ∈ items, Yields (write item) state (bytes item) () state) :
    Yields (items.forM write) state (items.flatMap bytes) () state := by
  induction items with
  | nil => exact yields_pure () state
  | cons item rest inductionHypothesis =>
    rw [List.flatMap_cons]
    exact (each item List.mem_cons_self).seq
      (inductionHypothesis fun other member => each other (List.mem_cons_of_mem _ member))

theorem yields_bytes (bytes : List UInt8) (state : σ) :
    Yields (bytes.forM putByte) state bytes () state := by
  have each : Yields (bytes.forM putByte) state (bytes.flatMap fun byte => [byte]) () state :=
    yields_forM fun byte _ => yields_putByte byte state
  rwa [List.flatMap_singleton'] at each

end BoundedOutput
