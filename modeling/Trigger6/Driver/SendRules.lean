/-
This file gives the protocol of the senders. A thread that holds `io_lock` writes
records: a header chunk, then chunks of the payload the header announces, with
nothing else between them. A transfer that fails leaves its record torn, and
after it the thread latches the fault; a record is also left torn when the fault
is found latched between two chunks.

Which records and requests may go out, what holds of a sender's bookkeeping and
which heads have keepalives are a parameter, so that one walk through the driver
serves several results.
-/

import Trigger6.Driver.LatchProtocol
import Trigger6.Lib.Framing

namespace Trigger6.Driver

open Bytes Interaction Framing

variable {c : Config}

/-! ### Records -/

/-- The records of the bulk pipe: the payload length is the header's second field. -/
def bulkFormat : Format Byte where
  headerSize := sizeofBulkHeader
  positive := by decide
  payloadLength := fun header => fromLittleEndian ((header.drop 4).take 4)

/-- Both lengths a header announces are that of the payload, which 32 bits can hold. -/
structure BulkHeader.Announces (header : BulkHeader) (payload : List Byte) : Prop where
  payloadLength : header.payloadLength = payload.length
  packetLength : header.packetLength = payload.length
  small : payload.length < 2 ^ 32

theorem payloadLength_bytes (header : BulkHeader) :
    bulkFormat.payloadLength header.bytes = header.payloadLength % 2 ^ 32 := by
  show fromLittleEndian ((header.bytes.drop 4).take 4) = _
  have field : (header.bytes.drop 4).take 4 = littleEndian 4 header.payloadLength := by
    unfold BulkHeader.bytes
    simp only [List.append_assoc]
    rw [List.drop_left' (length_littleEndian 4 0), List.take_left' (length_littleEndian 4 _)]
  rw [field, fromLittleEndian_littleEndian]
  rfl

theorem BulkHeader.Announces.announced {header : BulkHeader} {payload : List Byte}
    (announces : header.Announces payload) :
    bulkFormat.payloadLength header.bytes = payload.length := by
  rw [payloadLength_bytes, announces.payloadLength, Nat.mod_eq_of_lt announces.small]

/-- A header and the payload it announces, as a record. -/
def BulkHeader.record (header : BulkHeader) (payload : List Byte)
    (announces : header.Announces payload) : Record bulkFormat where
  header := header.bytes
  payload := payload
  sized := header.length_bytes
  announced := announces.announced

/-! ### Rules -/

/-- The part of a sender's bookkeeping that decides what it sends next, and how often it sent
again. -/
structure Place where
  slot : Nat
  cursor : Nat
  cache : KeepaliveCache
  keepaliveSent : Nat

def Sender.place (sender : Sender c) : Place where
  slot := sender.fbSlotIndex
  cursor := sender.cmdCursorAddr
  cache := sender.cache
  keepaliveSent := sender.metrics.keepaliveSent

/-- What the senders keep to: what holds of each head's bookkeeping, which heads may have
keepalives, and which records and requests may go out. -/
structure SendRules (c : Config) where
  fits : HeadId → Place → Prop
  replays : HeadId → Prop
  record : BulkHeader → List Byte → Prop
  request : Transfer → Prop

/-- A record that may go out. -/
structure SendRules.Accepts (rules : SendRules c) (header : BulkHeader) (payload : List Byte) :
    Prop where
  announces : header.Announces payload
  record : rules.record header payload

/-- A change of a sender that keeps its bookkeeping as it has to be. -/
def SendRules.Keeps (rules : SendRules c) (head : HeadId) (change : Sender c → Sender c) : Prop :=
  ∀ sender, rules.fits head sender.place → rules.fits head (change sender).place

/-! ### The protocol -/

/-- Where a thread stands: in a section that the unplugging waits for or not, and how far it has
come in unplugging the device itself. -/
structure Standing where
  inside : Bool
  unplugged : Bool
  gone : Bool

/-- What a thread does with the bulk pipe: nothing, nothing at the moment under the lock, a
record of which header and payload are under way, a transfer that has failed, or nothing more,
because it has seen the latch. -/
inductive LockPhase
  | free
  | ready
  | owing (header payload : List Byte)
  | failing
  | halted

abbrev SendPhase := Standing × LockPhase

/-- The lock is held and no record is under way. -/
def LockPhase.Settled : LockPhase → Prop
  | .ready => True
  | .halted => True
  | _ => False

/-- The phase after a complete chunk: the record goes on, or is complete. -/
def LockPhase.sent (header payload : List Byte) : LockPhase :=
  if bulkFormat.payloadLength header ≤ payload.length then .ready else .owing header payload

/-- The phase after a chunk of a record: `header` and `payload` are what is out if it was
complete. -/
def LockPhase.afterChunk (header payload chunk : List Byte) : Submission → LockPhase
  | .refused => .halted
  | .noMemory => .failing
  | .returned outcome _ =>
    if outcome.complete (.bulk chunk) then .sent header payload else .failing

/-- The phase after a request that is not a bulk transfer. -/
def LockPhase.afterRequest (transfer : Transfer) (submission : Submission) : LockPhase :=
  if submission.failed transfer then .failing else .ready

/-- The requests that may go out under the lock. -/
def SendRules.Permits (rules : SendRules c) (check : Dev c → Bool) :
    LockPhase → Transfer → Prop
  | .ready, .bulk chunk => (∀ dev, check dev = dev.ioFaulted) ∧ ∃ header payload,
      chunk = BulkHeader.bytes header ∧ rules.Accepts header payload
  | .ready, transfer => Guards check ∧ rules.request transfer
  | .owing header payload, .bulk chunk => (∀ dev, check dev = dev.ioFaulted) ∧ chunk ≠ [] ∧
      ∃ announced rest, header = BulkHeader.bytes announced ∧
        rules.Accepts announced (payload ++ chunk ++ rest)
  | .halted, _ => Guards check
  | _, _ => False

/-- The protocol of the senders, for one thread. In a section the thread may count on the bulk
buffer. Nothing arms the boot keepalive, which sends outside of any section. -/
def sending (rules : SendRules c) : Protocol (calls c) SendPhase where
  allowed phase
    | .tune head change => rules.Keeps head change
    | .setKeepaliveDue head due => due = true → rules.replays head
    | .requeue head popped => popped.keepaliveDue = true → rules.replays head
    | .yieldTurn head popped => popped.keepaliveDue = true → rules.replays head
    | .arm _ work => work ≠ .bootKeepaliveWork
    | .lockIo => phase.2 = .free
    | .unlockIo => phase.2.Settled
    | .devEnter => phase.1.inside = false ∧ (phase.2 = .free ∨ phase.2.Settled)
    | .devExit => phase.1.inside = true ∧ (phase.2 = .free ∨ phase.2.Settled)
    | .awaitSections => phase.1.unplugged = true
    | .setIoFaulted => ∀ header payload, phase.2 ≠ .owing header payload
    | .submit check _ transfer => rules.Permits check phase.2 transfer
    | .freeBulkChunk => phase.1.gone = true
    | _ => True
  possible phase op answer := op.Possible answer ∧
    match op, answer with
    | .read, dev =>
      (∀ head, rules.fits head (Sender.place (dev.heads head).sender)) ∧
        (phase.1.inside = true → dev.bulkChunk = true)
    | .take head, some popped => popped.keepaliveDue = true → rules.replays head
    | .submit _ allocates _, .noMemory => allocates = true
    | .submit _ _ _, .returned _ _ => phase.2 ≠ .halted
    | _, _ => True
  move phase op answer :=
    match phase, op, answer with
    | (standing, .free), .lockIo, _ => (standing, .ready)
    | (standing, _), .unlockIo, _ => (standing, .free)
    | (standing, lock), .devEnter, entered => ({ standing with inside := entered }, lock)
    | (standing, lock), .devExit, _ => ({ standing with inside := false }, lock)
    | (standing, lock), .setUnplugged, _ => ({ standing with unplugged := true }, lock)
    | (standing, lock), .awaitSections, _ => ({ standing with gone := true }, lock)
    | (standing, .owing header payload), .read, dev =>
      (standing, if (dev : Dev c).ioFaulted then .halted else .owing header payload)
    | (standing, .failing), .setIoFaulted, _ => (standing, .halted)
    | (standing, .ready), .submit _ _ (.bulk chunk), submission =>
      (standing, .afterChunk chunk [] chunk submission)
    | (standing, .owing header payload), .submit _ _ (.bulk chunk), submission =>
      (standing, .afterChunk header (payload ++ chunk) chunk submission)
    | (standing, .ready), .submit _ _ transfer, submission =>
      (standing, .afterRequest transfer submission)
    | phase, _, _ => phase

end Trigger6.Driver
