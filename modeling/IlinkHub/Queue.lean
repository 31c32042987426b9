/-
The in-memory message queue (`hub/queue.rs`): one slot per client with its
delivery-id allocator, and the map of slots.  A slot is shown to refine an
acknowledged log, and everything later says about slots goes through that.
-/
import Mathlib.Data.List.AList
import IlinkHub.AckLog
import IlinkHub.Message

namespace IlinkHub

open AckLog WeixinMessage

/-- `as i64` of an unsigned 64-bit value. -/
def asI64 (n : Nat) : Int :=
  Int.bmod n (2 ^ 64)

lemma asI64_of_lt {n : Nat} (hn : n < 2 ^ 63) : asI64 n = n := by
  apply Int.bmod_eq_of_le
  · omega
  · omega

structure PollBatch where
  msgs : List WeixinMessage := []
  cursor : Nat := 0
deriving Repr, DecidableEq, Inhabited

def PollBatch.isEmpty (batch : PollBatch) : Bool :=
  batch.msgs.isEmpty

/-- The buffer of one client, the next delivery id to hand out and the
capacity; the lock around the first two makes each operation one step. -/
structure PerClientSlot where
  messages : List WeixinMessage
  nextSeq : Nat
  maxQueueSize : Nat
deriving Repr, DecidableEq

namespace PerClientSlot

def new (maxQueueSize : Nat) : PerClientSlot :=
  ⟨[], 1, maxQueueSize⟩

/-- Enqueue unless the buffer is full; `true` reports the rejection. -/
def push (slot : PerClientSlot) (msg : WeixinMessage) : Bool × PerClientSlot :=
  if slot.messages.length ≥ slot.maxQueueSize then
    (true, slot)
  else
    (false, { slot with
      messages := slot.messages ++ [{ msg with seq := some (asI64 slot.nextSeq) }]
      nextSeq := (slot.nextSeq + 1) % 2 ^ 64 })

/-- The loop test of `poll`: the message at the front is acknowledged. -/
def acked (watermark : Nat) (msg : WeixinMessage) : Bool :=
  match msg.seq with
  | some seq => decide (0 ≤ seq) && decide (seq.toNat ≤ watermark)
  | none => false

/-- Retire the acknowledged prefix, then return everything still pending.  The
acknowledgement is clamped to the highest allocated id. -/
def poll (slot : PerClientSlot) (ack : Option Nat) : PollBatch × PerClientSlot :=
  let allocatedMax := slot.nextSeq - 1
  let watermark := ack.map fun a => min a allocatedMax
  let messages := match watermark with
    | some watermark => slot.messages.dropWhile (acked watermark)
    | none => slot.messages
  let cursor := (((messages.getLast?.bind seq).bind
    u64TryFrom).or watermark).getD allocatedMax
  (⟨messages, cursor⟩, { slot with messages := messages })

def len (slot : PerClientSlot) : Nat :=
  slot.messages.length

variable {slot : PerClientSlot} {msg : WeixinMessage} {log : AckLog WeixinMessage}

lemma push_of_full (hfull : slot.maxQueueSize ≤ slot.messages.length) (msg : WeixinMessage) :
    slot.push msg = (true, slot) := by
  rw [push, if_pos hfull]

lemma push_rejected (hrejected : (slot.push msg).1 = true) : (slot.push msg).2 = slot := by
  by_cases hfull : slot.messages.length ≥ slot.maxQueueSize
  · rw [push_of_full hfull]
  · simp [push, hfull] at hrejected

lemma push_rejected_iff : (slot.push msg).1 = true ↔ slot.maxQueueSize ≤ slot.messages.length := by
  by_cases hfull : slot.messages.length ≥ slot.maxQueueSize
  · simp [push, hfull]
  · simp [push, hfull]

lemma push_accepted_iff : (slot.push msg).1 = false ↔ slot.messages.length < slot.maxQueueSize := by
  rw [← Bool.not_eq_true, push_rejected_iff, not_le]

@[simp] lemma push_maxQueueSize (slot : PerClientSlot) (msg : WeixinMessage) :
    (slot.push msg).2.maxQueueSize = slot.maxQueueSize := by
  unfold push
  split <;> rfl

@[simp] lemma poll_maxQueueSize (slot : PerClientSlot) (ack : Option Nat) :
    (slot.poll ack).2.maxQueueSize = slot.maxQueueSize := rfl

@[simp] lemma poll_nextSeq (slot : PerClientSlot) (ack : Option Nat) :
    (slot.poll ack).2.nextSeq = slot.nextSeq := rfl

/-- The batch is exactly what the slot holds afterwards. -/
@[simp] lemma poll_msgs (slot : PerClientSlot) (ack : Option Nat) :
    (slot.poll ack).1.msgs = (slot.poll ack).2.messages := rfl

/-- The slot represents the log: same pending messages, and an allocator that
is one past the accepted messages. -/
structure Refines (slot : PerClientSlot) (log : AckLog WeixinMessage) :
    Prop where
  nextSeq : slot.nextSeq = log.accepted.length + 1
  messages : slot.messages = log.held
  numbered : log.Numbered seq
  bounded : slot.messages.length ≤ slot.maxQueueSize

/-- The message as the slot stores it. -/
def stamp (msg : WeixinMessage) (id : Nat) : WeixinMessage :=
  { msg with seq := some (id : Int) }

@[simp] lemma stamp_seq (msg : WeixinMessage) (id : Nat) :
    (stamp msg id).seq = some (id : Int) := rfl

lemma refines_new (maxQueueSize : Nat) : (new maxQueueSize).Refines empty where
  nextSeq := rfl
  messages := rfl
  numbered := numbered_empty
  bounded := Nat.zero_le _

lemma push_of_room (href : slot.Refines log) (hroom : slot.messages.length < slot.maxQueueSize)
    (hsmall : log.accepted.length + 1 < 2 ^ 63) (msg : WeixinMessage) :
    slot.push msg = (false, { slot with
      messages := slot.messages ++ [stamp msg slot.nextSeq]
      nextSeq := slot.nextSeq + 1 }) := by
  have hid : slot.nextSeq < 2 ^ 63 := by rw [href.nextSeq]; exact hsmall
  rw [push, if_neg (by omega), asI64_of_lt hid, Nat.mod_eq_of_lt (by omega)]
  rfl

lemma Refines.push_of_room (href : slot.Refines log)
    (hroom : slot.messages.length < slot.maxQueueSize) (hsmall : log.accepted.length + 1 < 2 ^ 63)
    (msg : WeixinMessage) : (slot.push msg).2.Refines (log.append (stamp msg slot.nextSeq)) := by
  rw [PerClientSlot.push_of_room href hroom hsmall msg]
  constructor
  · simp [href.nextSeq]
  · rw [held_append, ← href.messages]
  · apply href.numbered.append
    simp [href.nextSeq]
  · simpa [Nat.succ_le_iff] using hroom

/-- On consecutive ids the pop loop is a plain drop. -/
lemma dropWhile_acked {messages : List WeixinMessage} {retired : Nat}
    (hseq : ∀ (i : Nat) (msg : WeixinMessage), messages[i]? = some msg →
      msg.seq = some ((retired + i : Nat) + 1 : Int)) (watermark : Nat) :
    messages.dropWhile (acked watermark) = messages.drop (watermark - retired) := by
  induction messages generalizing retired with
  | nil => simp
  | cons msg rest ih =>
    have hmsg := hseq 0 msg rfl
    have hrest : ∀ (i : Nat) (next : WeixinMessage),
        rest[i]? = some next → next.seq = some ((retired + 1 + i) + 1) := by
      intro i next hnext
      have hnext' := hseq (i + 1) next (by simpa using hnext)
      rw [hnext']
      congr 2
      omega
    by_cases hle : retired + 1 ≤ watermark
    · have hacked : acked watermark msg = true := by
        simp only [acked, hmsg, Bool.and_eq_true, decide_eq_true_eq]
        omega
      have hsub : watermark - retired = watermark - (retired + 1) + 1 := by
        omega
      rw [List.dropWhile_cons_of_pos hacked, ih hrest, hsub, List.drop_succ_cons]
    · have hacked : ¬ acked watermark msg = true := by
        simp only [acked, hmsg, Bool.and_eq_true, decide_eq_true_eq]
        omega
      have hsub : watermark - retired = 0 := by omega
      rw [List.dropWhile_cons_of_neg hacked, hsub, List.drop_zero]

lemma Refines.poll_messages (href : slot.Refines log) (ack : Option Nat) :
    (slot.poll ack).2.messages = (log.acknowledge ack).held := by
  cases ack with
  | none => exact href.messages
  | some a =>
    change slot.messages.dropWhile (acked (min a (slot.nextSeq - 1))) = _
    have hseq : ∀ (i : Nat) (msg : WeixinMessage),
        slot.messages[i]? = some msg → msg.seq = some ((log.retired + i) + 1) := by
      intro i msg hmsg
      rw [href.messages] at hmsg
      exact href.numbered.held_seq hmsg
    rw [dropWhile_acked hseq, held_acknowledge, href.messages, href.nextSeq, Nat.add_sub_cancel]

lemma Refines.poll (href : slot.Refines log) (ack : Option Nat) :
    (slot.poll ack).2.Refines (log.acknowledge ack) where
  nextSeq := by simp [href.nextSeq]
  messages := href.poll_messages ack
  numbered := href.numbered.acknowledge ack
  bounded := by
    rw [href.poll_messages ack]
    have hlen : (log.acknowledge ack).held.length ≤ log.held.length := by
      cases ack with
      | none => exact Nat.le_refl _
      | some a =>
        rw [held_acknowledge, List.length_drop]
        exact Nat.sub_le _ _
    rw [← href.messages] at hlen
    exact Nat.le_trans hlen href.bounded

lemma poll_cursor (slot : PerClientSlot) (ack : Option Nat) :
    (slot.poll ack).1.cursor = ((((slot.poll ack).2.messages.getLast?.bind seq).bind
        u64TryFrom).or (ack.map fun a => min a (slot.nextSeq - 1))).getD (slot.nextSeq - 1) := rfl

/-- The cursor of a non-empty batch is the highest id handed out. -/
lemma Refines.poll_cursor_of_ne_nil (href : slot.Refines log)
    (hsmall : log.accepted.length < 2 ^ 63) {ack : Option Nat}
    (hne : (slot.poll ack).2.messages ≠ []) : (slot.poll ack).1.cursor = log.accepted.length := by
  have hpoll := href.poll ack
  have hlast := List.getLast?_eq_some_getLast hne
  have hseq : ((slot.poll ack).2.messages.getLast hne).seq = some (log.accepted.length : Int) := by
    have hget : (log.acknowledge ack).held[ (log.acknowledge ack).held.length - 1]? = some
        ((slot.poll ack).2.messages.getLast hne) := by
      rw [← hpoll.messages, ← List.getLast?_eq_getElem?, hlast]
    have hpos : 0 < (log.acknowledge ack).held.length := by
      rw [← hpoll.messages]
      exact List.length_pos_iff.mpr hne
    rw [hpoll.numbered.held_seq hget]
    rw [length_held, accepted_acknowledge] at hpos ⊢
    congr 1
    omega
  have hcast : u64TryFrom log.accepted.length =
      some log.accepted.length := u64TryFrom_natCast (by omega)
  rw [poll_cursor, hlast, Option.bind_some, hseq, Option.bind_some, hcast,
    Option.some_or, Option.getD_some]

/-- Whatever a poll returns, its cursor never exceeds the allocated ids. -/
lemma Refines.poll_cursor_le (href : slot.Refines log) (hsmall : log.accepted.length < 2 ^ 63)
    (ack : Option Nat) : (slot.poll ack).1.cursor ≤ log.accepted.length := by
  by_cases hne : (slot.poll ack).2.messages = []
  · rw [poll_cursor, hne, href.nextSeq]
    cases ack with
    | none => simp
    | some a => exact min_le_right _ _
  · rw [href.poll_cursor_of_ne_nil hsmall hne]

end PerClientSlot

/-- All slots, keyed by the hashed token of the client. -/
structure InMemoryQueue where
  slots : AList fun _ : String => PerClientSlot
  maxQueueSize : Nat

namespace InMemoryQueue

def withLimit (maxQueueSize : Nat) : InMemoryQueue :=
  ⟨∅, maxQueueSize⟩

def getOrCreate (queue : InMemoryQueue) (vtoken : String) : PerClientSlot :=
  (queue.slots.lookup vtoken).getD (PerClientSlot.new queue.maxQueueSize)

/-- Store the slot an operation worked on back into the map. -/
def withSlot (queue : InMemoryQueue) (vtoken : String) (slot : PerClientSlot) : InMemoryQueue :=
  { queue with slots := queue.slots.insert vtoken slot }

def push (queue : InMemoryQueue) (vtoken : String) (msg : WeixinMessage) : Bool × InMemoryQueue :=
  let result := (queue.getOrCreate vtoken).push msg
  (result.1, queue.withSlot vtoken result.2)

/-- Polling an unknown token creates no slot and returns the neutral cursor
zero. -/
def poll (queue : InMemoryQueue) (vtoken : String) (ack : Option Nat) : PollBatch × InMemoryQueue :=
  match queue.slots.lookup vtoken with
  | some slot => ((slot.poll ack).1, queue.withSlot vtoken (slot.poll ack).2)
  | none => ({}, queue)

/-- Entering `wait_notify` creates the slot it waits on. -/
def waitNotify (queue : InMemoryQueue) (vtoken : String) : InMemoryQueue :=
  queue.withSlot vtoken (queue.getOrCreate vtoken)

def removeClient (queue : InMemoryQueue) (vtoken : String) : InMemoryQueue :=
  { queue with slots := queue.slots.erase vtoken }

@[simp] lemma getOrCreate_withLimit (maxQueueSize : Nat) (vtoken : String) :
    (withLimit maxQueueSize).getOrCreate vtoken = .new maxQueueSize := rfl

@[simp] lemma getOrCreate_withSlot (queue : InMemoryQueue) (vtoken : String)
    (slot : PerClientSlot) : (queue.withSlot vtoken slot).getOrCreate vtoken = slot := by
  simp [getOrCreate, withSlot]

@[simp] lemma getOrCreate_push (queue : InMemoryQueue) (vtoken : String) (msg : WeixinMessage) :
    (queue.push vtoken msg).2.getOrCreate vtoken = ((queue.getOrCreate vtoken).push msg).2 :=
  getOrCreate_withSlot _ _ _

@[simp] lemma getOrCreate_waitNotify (queue : InMemoryQueue) (vtoken : String) :
    (queue.waitNotify vtoken).getOrCreate vtoken = queue.getOrCreate vtoken :=
  getOrCreate_withSlot _ _ _

@[simp] lemma getOrCreate_removeClient (queue : InMemoryQueue) (vtoken : String) :
    (queue.removeClient vtoken).getOrCreate vtoken = .new queue.maxQueueSize := by
  simp [getOrCreate, removeClient]

/-- A missing slot answers like an empty one. -/
lemma poll_eq (queue : InMemoryQueue) (vtoken : String) (ack : Option Nat) :
    (queue.poll vtoken ack).1 = ((queue.getOrCreate vtoken).poll ack).1 ∧
      (queue.poll vtoken ack).2.getOrCreate vtoken = ((queue.getOrCreate vtoken).poll ack).2 := by
  cases hslot : queue.slots.lookup vtoken with
  | some slot => simp [poll, getOrCreate, withSlot, hslot]
  | none =>
    have hcreate : queue.getOrCreate vtoken = .new queue.maxQueueSize := by
      rw [getOrCreate, hslot, Option.getD_none]
    have hpoll : queue.poll vtoken ack = ({}, queue) := by
      rw [poll, hslot]
    rw [hpoll, hcreate]
    cases ack with
    | none => exact ⟨rfl, rfl⟩
    | some a =>
      simp [PerClientSlot.poll, PerClientSlot.new]

end InMemoryQueue

end IlinkHub
