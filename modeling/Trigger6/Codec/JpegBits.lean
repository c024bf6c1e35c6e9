/-
This file embeds the byte and bit writers of the JPEG encoder. Codes go into a
32-bit buffer from its top end; whole bytes leave it at the top, and a zero byte
follows each byte 0xff of the scan.

The main theorem is that nothing is lost or altered on the way: without the
zero bytes, what has been written and what is left in the buffer spell the codes
one after the other, and at the end the string is padded with ones.
-/

import Trigger6.Lib.BitString
import Trigger6.Lib.BoundedOutput

namespace Trigger6.Codec

open BoundedOutput BitString

/-! ### The writers -/

/-- What `t6_jpeg_ctx` holds besides the destination. -/
structure BitState where
  bitbuf : BitVec 32
  bitcnt : Nat

abbrev JpegWriter := BoundedOutput.Writer BitState

def putMarker (marker : UInt8) : JpegWriter Unit := do
  putByte 0xff
  putByte marker

def putBe16 (value : BitVec 16) : JpegWriter Unit := do
  putByte (UInt8.ofNat (value >>> 8).toNat)
  putByte (UInt8.ofNat (value &&& 0xff).toNat)

def putScanByte (value : UInt8) : JpegWriter Unit := do
  putByte value
  if value = 0xff then putByte 0x00

/-- The byte at the top of the buffer. -/
def topByte (bitbuf : BitVec 32) : UInt8 := UInt8.ofNat (bitbuf >>> 24).toNat

/-- The loop of `t6_jpeg_put_bits`. The first argument bounds the number of rounds; the number of
bits in the buffer is always enough, since each round takes eight. -/
def drainBits : (bound : Nat) → JpegWriter Unit
  | 0 => pure ()
  | bound + 1 => do
    let ctx ← getState
    if 8 ≤ ctx.bitcnt then
      putScanByte (topByte ctx.bitbuf)
      setState { bitbuf := ctx.bitbuf <<< 8, bitcnt := ctx.bitcnt - 8 }
      drainBits bound

def putBits (code : BitVec 16) (size : Nat) : JpegWriter Unit := do
  if size = 0 then pure ()
  else
    let ctx ← getState
    setState
      { bitbuf := ctx.bitbuf ||| code.setWidth 32 <<< (32 - ctx.bitcnt - size)
        bitcnt := ctx.bitcnt + size }
    drainBits (ctx.bitcnt + size)

def flushBits : JpegWriter Unit := do
  let ctx ← getState
  if ctx.bitcnt = 0 then pure ()
  else
    let padded := ctx.bitbuf ||| (1#32 <<< (32 - ctx.bitcnt) - 1#32)
    setState { ctx with bitbuf := padded }
    putScanByte (topByte padded)

/-! ### The bit buffer -/

/-- The buffer holds some bits at its top, and zeros below them. -/
structure Pending (ctx : BitState) (bits : List Bool) : Prop where
  count : ctx.bitcnt = bits.length
  fits : bits.length ≤ 32
  value : ctx.bitbuf.toNat = toNat bits * 2 ^ (32 - bits.length)

section Pending

variable {ctx : BitState} {bits : List Bool}

theorem pending_empty : Pending { bitbuf := 0, bitcnt := 0 } [] := ⟨rfl, by decide, rfl⟩

/-- A code goes in behind the bits that are there. -/
theorem Pending.append (pending : Pending ctx bits) {code : BitVec 16} {size : Nat}
    (room : bits.length + size ≤ 32) (small : code.toNat < 2 ^ size) :
    Pending
      { bitbuf := ctx.bitbuf ||| code.setWidth 32 <<< (32 - ctx.bitcnt - size)
        bitcnt := ctx.bitcnt + size }
      (bits ++ ofNat size code.toNat) where
  count := by rw [List.length_append, length_ofNat, pending.count]
  fits := by
    rw [List.length_append, length_ofNat]
    exact room
  value := by
    rw [List.length_append, length_ofNat, toNat_append, length_ofNat, toNat_ofNat_of_lt small,
      BitVec.toNat_or, BitVec.toNat_shiftLeft, BitVec.toNat_setWidth, pending.count, pending.value,
      ← Nat.sub_add_eq]
    have wide : code.toNat % 2 ^ 32 = code.toNat :=
      Nat.mod_eq_of_lt (Nat.lt_of_lt_of_le code.isLt (by decide))
    have split : 2 ^ (32 - bits.length) = 2 ^ size * 2 ^ (32 - (bits.length + size)) := by
      rw [← Nat.pow_add]
      congr 1
      omega
    have placed : code.toNat <<< (32 - (bits.length + size)) < 2 ^ (32 - bits.length) := by
      rw [Nat.shiftLeft_eq, split]
      exact Nat.mul_lt_mul_of_pos_right small (Nat.two_pow_pos _)
    have within : code.toNat <<< (32 - (bits.length + size)) < 2 ^ 32 :=
      Nat.lt_of_lt_of_le placed (Nat.pow_le_pow_right (by decide) (Nat.sub_le _ _))
    rw [wide, Nat.mod_eq_of_lt within, ← Nat.shiftLeft_eq, ← Nat.shiftLeft_add_eq_or_of_lt placed,
      Nat.shiftLeft_eq, Nat.shiftLeft_eq, split]
    ring

/-- The byte at the top is that of the first eight bits. -/
theorem Pending.top {octet rest : List Bool} (pending : Pending ctx (octet ++ rest))
    (eight : octet.length = 8) : topByte ctx.bitbuf = UInt8.ofNat (toNat octet) := by
  have fits := pending.fits
  rw [List.length_append, eight] at fits
  rw [topByte, BitVec.toNat_ushiftRight, pending.value, Nat.shiftRight_eq_div_pow,
    List.length_append, eight, toNat_append]
  congr 1
  have small : toNat rest * 2 ^ (32 - (8 + rest.length)) < 2 ^ 24 := by
    rw [show 2 ^ 24 = 2 ^ rest.length * 2 ^ (32 - (8 + rest.length)) by
      rw [← Nat.pow_add]; congr 1; omega]
    exact Nat.mul_lt_mul_of_pos_right (toNat_lt rest) (Nat.two_pow_pos _)
  rw [Nat.add_mul, Nat.mul_assoc, ← Nat.pow_add,
    show rest.length + (32 - (8 + rest.length)) = 24 by omega, Nat.add_comm,
    Nat.add_mul_div_right _ _ (Nat.two_pow_pos _), Nat.div_eq_of_lt small, Nat.zero_add]

/-- When the first eight bits have left, the others move up. -/
theorem Pending.drain {octet rest : List Bool} (pending : Pending ctx (octet ++ rest))
    (eight : octet.length = 8) :
    Pending { bitbuf := ctx.bitbuf <<< 8, bitcnt := ctx.bitcnt - 8 } rest where
  count := by
    show ctx.bitcnt - 8 = rest.length
    rw [pending.count, List.length_append, eight, Nat.add_sub_cancel_left]
  fits := Nat.le_trans (by rw [List.length_append]; omega) pending.fits
  value := by
    have fits := pending.fits
    rw [List.length_append, eight] at fits
    have small : toNat rest * 2 ^ (32 - rest.length) < 2 ^ 32 := by
      rw [show 2 ^ 32 = 2 ^ rest.length * 2 ^ (32 - rest.length) by
        rw [← Nat.pow_add]; congr 1; omega]
      exact Nat.mul_lt_mul_of_pos_right (toNat_lt rest) (Nat.two_pow_pos _)
    rw [BitVec.toNat_shiftLeft, Nat.shiftLeft_eq, pending.value, List.length_append, eight,
      toNat_append, Nat.mul_assoc, ← Nat.pow_add,
      show 32 - (8 + rest.length) + 8 = 32 - rest.length by omega, Nat.add_mul, Nat.mul_assoc,
      ← Nat.pow_add, show rest.length + (32 - rest.length) = 32 by omega,
      Nat.add_comm, Nat.add_mul_mod_self_right, Nat.mod_eq_of_lt small]

/-- Fewer than eight bits are padded with ones to a byte. -/
theorem Pending.pad (pending : Pending ctx bits) (some_ : bits ≠ []) (few : bits.length < 8) :
    topByte (ctx.bitbuf ||| (1#32 <<< (32 - ctx.bitcnt) - 1#32)) =
      UInt8.ofNat (toNat (bits ++ List.replicate (8 - bits.length) true)) := by
  have positive : 0 < bits.length := List.length_pos_iff.mpr some_
  have ones : (1#32 <<< (32 - ctx.bitcnt) - 1#32).toNat = 2 ^ (32 - bits.length) - 1 := by
    rw [pending.count, BitVec.toNat_sub, BitVec.toNat_shiftLeft, BitVec.toNat_ofNat,
      Nat.mod_eq_of_lt (show 1 < 2 ^ 32 by decide), Nat.shiftLeft_eq, Nat.one_mul]
    have below : 2 ^ (32 - bits.length) < 2 ^ 32 :=
      Nat.pow_lt_pow_right (by decide) (by omega)
    have above := Nat.two_pow_pos (32 - bits.length)
    rw [Nat.mod_eq_of_lt below]
    omega
  have small : 2 ^ (32 - bits.length) - 1 < 2 ^ (32 - bits.length) :=
    Nat.sub_one_lt (Nat.two_pow_pos _).ne'
  rw [topByte, BitVec.toNat_ushiftRight, BitVec.toNat_or, ones, pending.value, ← Nat.shiftLeft_eq,
    ← Nat.shiftLeft_add_eq_or_of_lt small, Nat.shiftLeft_eq, Nat.shiftRight_eq_div_pow, toNat_append,
    toNat_replicate_true, List.length_replicate]
  congr 1
  have split : 2 ^ (32 - bits.length) = 2 ^ (8 - bits.length) * 2 ^ 24 := by
    rw [← Nat.pow_add]
    congr 1
    omega
  have above := Nat.two_pow_pos (8 - bits.length)
  have lead : toNat bits * 2 ^ (32 - bits.length) =
      toNat bits * 2 ^ (8 - bits.length) * 2 ^ 24 := by rw [split]; ring
  rw [lead, Nat.add_comm, Nat.add_mul_div_right _ _ (Nat.two_pow_pos _), split]
  omega

end Pending

/-! ### What the writers yield -/

/-- The bytes of a scan as they are written. -/
abbrev stuffed (bytes : List UInt8) : List UInt8 := stuff 0xff 0x00 bytes

/-- The bytes of a scan as they are read. -/
abbrev unstuffed (bytes : List UInt8) : List UInt8 := unstuff 0xff 0x00 bytes

theorem yields_putScanByte (value : UInt8) (ctx : BitState) :
    Yields (putScanByte value) ctx (stuffed [value]) () ctx := by
  have written : stuffed [value] = [value] ++ if value = 0xff then [0x00] else [] := by
    rw [stuffed, stuff_cons, stuff_nil, List.append_nil]
    split <;> rfl
  rw [written, putScanByte]
  refine (yields_putByte value ctx).seq ?_
  split
  · exact yields_putByte 0x00 ctx
  · exact yields_pure () ctx

/-- What is left after some bits went through the buffer: whole bytes were written, and fewer than
eight bits are pending. -/
def Written (writer : JpegWriter Unit) (ctx : BitState) (bits : List Bool) : Prop :=
  ∃ bytes rest next, Yields writer ctx (stuffed bytes) () next ∧ Pending next rest ∧
    rest.length < 8 ∧ bits = ofBytes bytes ++ rest

theorem written_drainBits (bound : Nat) {ctx : BitState} {bits : List Bool}
    (pending : Pending ctx bits) (enough : bits.length ≤ bound) :
    Written (drainBits bound) ctx bits := by
  induction bound generalizing ctx bits with
  | zero =>
    obtain rfl := List.length_eq_zero_iff.mp (Nat.le_zero.mp enough)
    exact ⟨[], [], ctx, yields_pure () ctx, pending, by decide, rfl⟩
  | succ bound inductionHypothesis =>
    have started := yields_getState ctx
    by_cases full : 8 ≤ ctx.bitcnt
    · have eight : (bits.take 8).length = 8 := by
        rw [List.length_take, ← pending.count]
        omega
      have parts : Pending ctx (bits.take 8 ++ bits.drop 8) := by
        rw [List.take_append_drop]
        exact pending
      obtain ⟨bytes, rest, next, yields, left, few, spelt⟩ :=
        inductionHypothesis (parts.drain eight) (by rw [List.length_drop]; omega)
      refine ⟨topByte ctx.bitbuf :: bytes, rest, next, ?_, left, few, ?_⟩
      · have chunk := (yields_putScanByte (topByte ctx.bitbuf) ctx).seq
          ((yields_setState ctx _).seq yields)
        rw [List.nil_append, ← stuff_append] at chunk
        refine started.bind ?_
        rw [if_pos full]
        exact chunk
      · rw [ofBytes_cons, parts.top eight, ofNat_byte eight, List.append_assoc, ← spelt,
          List.take_append_drop]
    · refine ⟨[], bits, ctx, ?_, pending, by rw [← pending.count]; omega, rfl⟩
      refine started.bind ?_
      rw [if_neg full]
      exact yields_pure () ctx

/-- A code and its size, as they are given to `t6_jpeg_put_bits`. -/
structure Call where
  code : BitVec 16
  size : Nat

/-- A code of at most 16 bits, and no wider than its size. -/
structure Call.Fits (call : Call) : Prop where
  size : call.size ≤ 16
  code : call.code.toNat < 2 ^ call.size

/-- The bits of a code. -/
def Call.bits (call : Call) : List Bool := ofNat call.size call.code.toNat

def putCall (call : Call) : JpegWriter Unit := putBits call.code call.size

theorem written_putCall {call : Call} (fits : call.Fits) {ctx : BitState} {bits : List Bool}
    (pending : Pending ctx bits) (few : bits.length < 8) :
    Written (putCall call) ctx (bits ++ call.bits) := by
  unfold putCall putBits
  by_cases empty : call.size = 0
  · have nothing : call.bits = [] := by rw [Call.bits, empty]; rfl
    refine ⟨[], bits, ctx, ?_, pending, few, by rw [nothing, List.append_nil]; rfl⟩
    rw [if_pos empty]
    exact yields_pure () ctx
  · have room : bits.length + call.size ≤ 32 := by
      have := fits.size
      omega
    have entered := pending.append room fits.code
    obtain ⟨bytes, rest, next, yields, left, fewer, spelt⟩ :=
      written_drainBits (ctx.bitcnt + call.size) entered (by
        rw [List.length_append, length_ofNat, pending.count])
    refine ⟨bytes, rest, next, ?_, left, fewer, spelt⟩
    rw [if_neg empty]
    exact (yields_getState ctx).bind ((yields_setState ctx _).seq yields)

/-- All codes of a scan, one after the other. -/
def putCalls (calls : List Call) : JpegWriter Unit := calls.forM putCall

theorem written_putCalls {calls : List Call} (fit : ∀ call ∈ calls, call.Fits) {ctx : BitState}
    {bits : List Bool} (pending : Pending ctx bits) (few : bits.length < 8) :
    Written (putCalls calls) ctx (bits ++ calls.flatMap Call.bits) := by
  induction calls generalizing ctx bits with
  | nil =>
    rw [List.flatMap_nil, List.append_nil]
    exact ⟨[], bits, ctx, yields_pure () ctx, pending, few, rfl⟩
  | cons call rest inductionHypothesis =>
    obtain ⟨bytes, left, next, yields, held, fewer, spelt⟩ :=
      written_putCall (fit call List.mem_cons_self) pending few
    obtain ⟨others, last, final, goes, ends, least, spells⟩ :=
      inductionHypothesis (fun other member => fit other (List.mem_cons_of_mem _ member)) held fewer
    refine ⟨bytes ++ others, last, final, ?_, ends, least, ?_⟩
    · rw [stuffed, stuff_append]
      exact yields.seq goes
    · rw [List.flatMap_cons, ← List.append_assoc, spelt, List.append_assoc, spells, ofBytes_append,
        List.append_assoc]

/-- The ones that pad a bit string to whole bytes. -/
def padding (bits : List Bool) : List Bool := List.replicate ((8 - bits.length % 8) % 8) true

/-- The last bits are padded to a byte. -/
theorem yields_flushBits {ctx : BitState} {bits : List Bool} (pending : Pending ctx bits)
    (few : bits.length < 8) : ∃ bytes next, Yields flushBits ctx (stuffed bytes) () next ∧
      ofBytes bytes = bits ++ padding bits := by
  unfold flushBits
  by_cases empty : bits = []
  · refine ⟨[], ctx, ?_, by rw [empty]; rfl⟩
    refine (yields_getState ctx).bind ?_
    rw [if_pos (by rw [pending.count, empty]; rfl)]
    exact yields_pure () ctx
  · have positive : 0 < bits.length := List.length_pos_iff.mpr empty
    refine ⟨[topByte (ctx.bitbuf ||| (1#32 <<< (32 - ctx.bitcnt) - 1#32))],
      { ctx with bitbuf := ctx.bitbuf ||| (1#32 <<< (32 - ctx.bitcnt) - 1#32) },
      (yields_getState ctx).bind ?_, ?_⟩
    · rw [if_neg (by rw [pending.count]; omega)]
      exact (yields_setState ctx _).seq (yields_putScanByte _ _)
    · have missing : (8 - bits.length % 8) % 8 = 8 - bits.length := by omega
      rw [pending.pad empty few, ofBytes_cons, ofBytes_nil, List.append_nil, padding, missing]
      exact ofNat_byte (by rw [List.length_append, List.length_replicate]; omega)

/-! ### The bit writer -/

/-- The bits at the top of the buffer that have not been written yet. -/
def BitState.topBits (ctx : BitState) : List Bool := (ofNat 32 ctx.bitbuf.toNat).take ctx.bitcnt

theorem Pending.topBits {ctx : BitState} {bits : List Bool} (pending : Pending ctx bits) :
    ctx.topBits = bits := by
  have whole : ofNat 32 ctx.bitbuf.toNat = bits ++ ofNat (32 - bits.length) 0 := by
    refine eq_of_toNat_eq ?_ ?_
    · rw [length_ofNat, List.length_append, length_ofNat, Nat.add_sub_cancel' pending.fits]
    · rw [toNat_ofNat_of_lt ctx.bitbuf.isLt, toNat_append, toNat_ofNat, length_ofNat, Nat.zero_mod,
        Nat.add_zero, pending.value]
  rw [BitState.topBits, whole, pending.count, List.take_left]

theorem Pending.low {ctx : BitState} {bits : List Bool} (pending : Pending ctx bits) :
    ctx.bitbuf.toNat % 2 ^ (32 - ctx.bitcnt) = 0 := by
  rw [pending.count, pending.value, Nat.mul_mod_left]

/-- The state at the start of a scan. -/
def BitState.empty : BitState where
  bitbuf := 0
  bitcnt := 0

/-- What the bit writer does with any sequence of codes of at most 16 bits. It writes bytes, the
same into every destination with room for them. Afterwards fewer than eight bits are in the
buffer, with zeros below them; no shift, by the next code or by the padding, is by less than 0
or more than 31; and the bytes, read without the zeros that follow each 0xff, and the bits in the
buffer spell the codes. The flush adds the bytes that pad this string with ones, and no 0xff is
ever left without a zero after it. -/
theorem bit_writer (calls : List Call) (fit : ∀ call ∈ calls, call.Fits) :
    ∃ emitted ctx, (∀ sink : Sink, sink.pos + emitted.length ≤ sink.size →
        (putCalls calls).exec .empty sink = (some (), ctx, sink.append emitted)) ∧
      ctx.bitcnt < 8 ∧ ctx.bitbuf.toNat % 2 ^ (32 - ctx.bitcnt) = 0 ∧
      (∀ next : Call, next.Fits → next.size ≠ 0 →
        0 ≤ (32 : Int) - ctx.bitcnt - next.size ∧ (32 : Int) - ctx.bitcnt - next.size ≤ 31) ∧
      (ctx.bitcnt ≠ 0 → 0 ≤ (32 : Int) - ctx.bitcnt ∧ (32 : Int) - ctx.bitcnt ≤ 31) ∧
      ofBytes (unstuffed emitted) ++ ctx.topBits = calls.flatMap Call.bits ∧
      Escaped 0xff 0x00 emitted ∧
      ∃ last final, (∀ sink : Sink, sink.pos + (emitted ++ last).length ≤ sink.size →
          (putCalls calls >>= fun _ => flushBits).exec .empty sink =
            (some (), final, sink.append (emitted ++ last))) ∧
        ofBytes (unstuffed (emitted ++ last)) =
          calls.flatMap Call.bits ++ padding (calls.flatMap Call.bits) ∧
        Escaped 0xff 0x00 (emitted ++ last) := by
  obtain ⟨bytes, rest, ctx, yields, pending, few, spelt⟩ :=
    written_putCalls fit pending_empty (by decide)
  obtain ⟨last, final, flushes, padded⟩ := yields_flushBits pending few
  rw [List.nil_append] at spelt
  have count := pending.count
  refine ⟨stuffed bytes, ctx, yields.fits, by omega, pending.low, ?_, by omega, ?_,
    escaped_stuff (by decide) bytes, stuffed last, final, (yields.seq flushes).fits, ?_, ?_⟩
  · intro next fits nonempty
    have size := fits.size
    omega
  · rw [unstuffed, unstuff_stuff, pending.topBits, spelt]
  · have same : padding (ofBytes bytes ++ rest) = padding rest := by
      rw [padding, padding, List.length_append, length_ofBytes, Nat.mul_add_mod]
    rw [stuffed, stuffed, ← stuff_append, unstuffed, unstuff_stuff, ofBytes_append, padded, spelt,
      same, List.append_assoc]
  · rw [stuffed, stuffed, ← stuff_append]
    exact escaped_stuff (by decide) _

/-- Two codes, of three and of sixteen bits. -/
theorem bit_writer_two : ∃ emitted ctx,
    (∀ sink : Sink, sink.pos + emitted.length ≤ sink.size →
      (putCalls [⟨5, 3⟩, ⟨0xffff, 16⟩]).exec .empty sink = (some (), ctx, sink.append emitted)) ∧
    ctx.bitcnt < 8 := by
  have fit : ∀ call ∈ [Call.mk 5 3, Call.mk 0xffff 16], call.Fits := by
    intro call member
    simp only [List.mem_cons, List.not_mem_nil, or_false] at member
    obtain rfl | rfl := member <;> exact ⟨by decide, by decide⟩
  obtain ⟨emitted, ctx, runs, few, -⟩ := bit_writer _ fit
  exact ⟨emitted, ctx, runs, few⟩

end Trigger6.Codec
