/-
Whole runs of one slot.  A run of pushes and polls is followed on the log the
slot refines; what a batch contains is then a comparison of ids.
-/
import IlinkHub.Queue
import IlinkHub.Transition

namespace IlinkHub

open AckLog Transition

inductive SlotOp where
  | push (msg : WeixinMessage)
  | poll (ack : Option Nat)
deriving Repr, DecidableEq

namespace PerClientSlot

def apply (slot : PerClientSlot) : SlotOp → PerClientSlot
  | .push msg => (slot.push msg).2
  | .poll ack => (slot.poll ack).2

abbrev after (slot : PerClientSlot) (ops : List SlotOp) : PerClientSlot :=
  run apply slot ops

/-- The messages a run accepts, as they are stored and in acceptance order. -/
def acceptedBy (slot : PerClientSlot) : List SlotOp → List WeixinMessage
  | [] => []
  | .push msg :: ops =>
    if (slot.push msg).1 then
      acceptedBy (slot.push msg).2 ops
    else
      { msg with seq := some (asI64 slot.nextSeq) } :: acceptedBy (slot.push msg).2 ops
  | .poll ack :: ops => acceptedBy (slot.poll ack).2 ops

/-- The same operations on the log. -/
def applyLog (maxQueueSize : Nat) (log : AckLog WeixinMessage) :
    SlotOp → AckLog WeixinMessage
  | .push msg =>
    if maxQueueSize ≤ log.held.length then
      log
    else
      log.append (stamp msg (log.accepted.length + 1))
  | .poll ack => log.acknowledge ack

lemma length_applyLog_le (maxQueueSize : Nat) (log : AckLog WeixinMessage) (op : SlotOp) :
    (applyLog maxQueueSize log op).accepted.length ≤ log.accepted.length + 1 := by
  cases op with
  | push msg =>
    rw [applyLog]
    split
    · exact Nat.le_succ _
    · simp
  | poll ack => simp [applyLog]

@[simp] lemma apply_maxQueueSize (slot : PerClientSlot) (op : SlotOp) :
    (slot.apply op).maxQueueSize = slot.maxQueueSize := by
  cases op with
  | push msg => exact push_maxQueueSize slot msg
  | poll ack => rfl

@[simp] lemma after_maxQueueSize (slot : PerClientSlot) (ops : List SlotOp) :
    (slot.after ops).maxQueueSize = slot.maxQueueSize := by
  have hstep : ∀ (state : PerClientSlot) (op : SlotOp), state.maxQueueSize = slot.maxQueueSize →
        (state.apply op).maxQueueSize = slot.maxQueueSize := by
    intro state op hstate
    rw [apply_maxQueueSize, hstate]
  exact run_invariant hstep rfl ops

variable {slot : PerClientSlot} {log : AckLog WeixinMessage} {ops : List SlotOp}
  {msg : WeixinMessage}

/-- One operation of the slot is the same operation of the log. -/
lemma Refines.apply (href : slot.Refines log) (hsmall : log.accepted.length + 1 < 2 ^ 63)
    (op : SlotOp) : (slot.apply op).Refines (applyLog slot.maxQueueSize log op) := by
  cases op with
  | push msg =>
    by_cases hfull : slot.maxQueueSize ≤ slot.messages.length
    · have hlog : applyLog slot.maxQueueSize log (.push msg) = log := by
        rw [applyLog, if_pos (by rwa [← href.messages])]
      rw [PerClientSlot.apply, push_of_full hfull msg, hlog]
      exact href
    · have hlog : applyLog slot.maxQueueSize log (.push msg) =
          log.append (stamp msg slot.nextSeq) := by
        rw [applyLog, if_neg (by rwa [← href.messages]), href.nextSeq]
      rw [hlog]
      exact href.push_of_room (Nat.lt_of_not_le hfull) hsmall msg
  | poll ack => exact href.poll ack

/-- A run of the slot is the same run of the log. -/
lemma Refines.after (href : slot.Refines log)
    (hsmall : log.accepted.length + ops.length < 2 ^ 63) :
    (slot.after ops).Refines (run (applyLog slot.maxQueueSize) log ops) := by
  induction ops generalizing slot log with
  | nil => exact href
  | cons op ops ih =>
    rw [List.length_cons] at hsmall
    have hstep := href.apply (by omega) op
    have hlen := length_applyLog_le slot.maxQueueSize log op
    rw [← apply_maxQueueSize slot op] at hstep hlen ⊢
    exact ih hstep (by omega)

lemma length_acceptedBy_le (slot : PerClientSlot) (ops : List SlotOp) :
    (slot.acceptedBy ops).length ≤ ops.length := by
  induction ops generalizing slot with
  | nil => exact le_refl 0
  | cons op ops ih =>
    cases op with
    | push msg =>
      have hrest := ih (slot.push msg).2
      unfold acceptedBy
      split
      · exact Nat.le_succ_of_le hrest
      · exact Nat.succ_le_succ hrest
    | poll ack => exact Nat.le_succ_of_le (ih (slot.poll ack).2)

/-- The log of a run grows by exactly what the run accepts. -/
lemma Refines.accepted_run (href : slot.Refines log)
    (hsmall : log.accepted.length + ops.length < 2 ^ 63) :
    (run (applyLog slot.maxQueueSize) log ops).accepted = log.accepted ++ slot.acceptedBy ops := by
  induction ops generalizing slot log with
  | nil => simp [acceptedBy]
  | cons op ops ih =>
    rw [List.length_cons] at hsmall
    have hstep := href.apply (by omega) op
    have hlen := length_applyLog_le slot.maxQueueSize log op
    have hrest := ih hstep (by omega)
    rw [apply_maxQueueSize] at hrest
    rw [run_cons, hrest]
    cases op with
    | push msg =>
      by_cases hfull : slot.maxQueueSize ≤ slot.messages.length
      · rw [applyLog, if_pos (by rwa [← href.messages]), acceptedBy,
          if_pos (push_rejected_iff.mpr hfull)]
        rfl
      · have hid : slot.nextSeq < 2 ^ 63 := by
          rw [href.nextSeq]
          omega
        have haccept : ¬ (slot.push msg).1 = true := by
          rwa [push_rejected_iff]
        rw [applyLog, if_neg (by rwa [← href.messages]), acceptedBy,
          if_neg haccept, accepted_append, List.append_assoc,
          asI64_of_lt hid, ← href.nextSeq]
        rfl
    | poll ack => simp [applyLog, acceptedBy, PerClientSlot.apply]

/-- An entry that is in the log survives a run exactly when every id that the
run acknowledges is smaller. -/
lemma retired_run_lt_iff {maxQueueSize : Nat}
    {id : Nat} (hid : id ≤ log.accepted.length) (ops : List SlotOp) :
    (run (applyLog maxQueueSize) log ops).retired < id ↔
      log.retired < id ∧ ∀ a, .poll (some a) ∈ ops → a < id := by
  induction ops generalizing log with
  | nil => simp
  | cons op ops ih =>
    rw [run_cons]
    cases op with
    | push msg =>
      by_cases hfull : maxQueueSize ≤ log.held.length
      · rw [applyLog, if_pos hfull, ih hid]
        simp
      · have hid' : id ≤ (log.append (stamp msg (log.accepted.length + 1))).accepted.length := by
          simp only [accepted_append, List.length_append]
          omega
        rw [applyLog, if_neg hfull, ih hid']
        simp
    | poll ack =>
      have hid' : id ≤ (log.acknowledge ack).accepted.length := by
        rwa [accepted_acknowledge]
      rw [applyLog, ih hid', retired_acknowledge_lt_iff log hid]
      simp only [List.mem_cons, SlotOp.poll.injEq]
      constructor
      · rintro ⟨⟨hlog, hack⟩, hrest⟩
        refine ⟨hlog, ?_⟩
        rintro a (ha | ha)
        · exact hack a ha.symm
        · exact hrest a ha
      · rintro ⟨hlog, hall⟩
        exact ⟨⟨hlog, fun a ha => hall a (.inl ha.symm)⟩, fun a ha => hall a (.inr ha)⟩

lemma retired_run_pushes (maxQueueSize : Nat) (log : AckLog WeixinMessage)
    (msgs : List WeixinMessage) :
    (run (applyLog maxQueueSize) log (msgs.map .push)).retired = log.retired := by
  induction msgs generalizing log with
  | nil => rfl
  | cons msg msgs ih =>
    rw [List.map_cons, run_cons, ih]
    rw [applyLog]
    split <;> rfl

/-- The log of a slot that started empty. -/
def logOf (maxQueueSize : Nat) (ops : List SlotOp) : AckLog WeixinMessage :=
  run (applyLog maxQueueSize) empty ops

lemma refines_logOf (maxQueueSize : Nat) (hsmall : ops.length < 2 ^ 63) :
    ((new maxQueueSize).after ops).Refines (logOf maxQueueSize ops) :=
  (refines_new maxQueueSize).after (by simpa [empty] using hsmall)

lemma accepted_logOf (maxQueueSize : Nat) (hsmall : ops.length < 2 ^ 63) :
    (logOf maxQueueSize ops).accepted = (new maxQueueSize).acceptedBy ops :=
  (refines_new maxQueueSize).accepted_run (by simpa [empty] using hsmall)

lemma length_accepted_logOf_le (maxQueueSize : Nat) (hsmall : ops.length < 2 ^ 63) :
    (logOf maxQueueSize ops).accepted.length ≤ ops.length := by
  rw [accepted_logOf maxQueueSize hsmall]
  exact length_acceptedBy_le _ ops

section Refined

variable (href : slot.Refines log)

include href

/-- The pending messages are the newest accepted ones and their ids end right
below the allocator. -/
lemma Refines.window :
    slot.messages.map WeixinMessage.seq = (List.range' (slot.nextSeq - slot.len) slot.len).map
          (fun id : Nat => some (id : Int)) ∧
      slot.messages <:+ log.accepted ∧ slot.len < slot.nextSeq := by
  have hlen : slot.len = log.accepted.length - log.retired := by
    rw [len, href.messages, length_held]
  have hle := log.retired_le
  refine ⟨?_, ?_, ?_⟩
  · have hfirst : slot.nextSeq - slot.len = log.retired + 1 := by
      rw [href.nextSeq]
      omega
    rw [hfirst, len, href.messages]
    exact href.numbered.map_held
  · rw [href.messages]
    exact List.drop_suffix _ _
  · rw [href.nextSeq]
    omega

/-- After an accepted push and any run, the log has the message, and it is past
the retired ones exactly when nothing the run acknowledges reaches its id. -/
lemma Refines.exists_log_after_push
    (haccept : (slot.push msg).1 = false) (hsmall : log.accepted.length + 1 + ops.length < 2 ^ 63) :
    ∃ final, ((slot.push msg).2.after ops).Refines final ∧ stamp msg slot.nextSeq ∈ final.accepted ∧
      (final.retired < slot.nextSeq ↔ ∀ a, .poll (some a) ∈ ops → a < slot.nextSeq) := by
  have hroom := push_accepted_iff.mp haccept
  have hpush := href.push_of_room hroom (by omega) msg
  have hlen : (log.append (stamp msg slot.nextSeq)).accepted.length = slot.nextSeq := by
    simp [href.nextSeq]
  have hsmall' : (log.append (stamp msg slot.nextSeq)).accepted.length + ops.length < 2 ^ 63 := by
    rw [hlen, href.nextSeq]
    omega
  refine ⟨_, hpush.after hsmall', ?_, ?_⟩
  · rw [hpush.accepted_run hsmall']
    simp
  · have hretired : log.retired < slot.nextSeq := by
      have hle := log.retired_le
      rw [href.nextSeq]
      omega
    rw [retired_run_lt_iff (le_of_eq hlen.symm)]
    simp [hretired]

/-- A message just accepted is held after a run exactly when nothing the run
acknowledges reaches its id. -/
lemma Refines.mem_after_push_iff (haccept : (slot.push msg).1 = false)
    (hsmall : log.accepted.length + 1 + ops.length < 2 ^ 63) :
    stamp msg slot.nextSeq ∈ ((slot.push msg).2.after ops).messages ↔
      ∀ a, .poll (some a) ∈ ops → a < slot.nextSeq := by
  obtain ⟨final, hfinal, hmem, hretired⟩ :=
    href.exists_log_after_push haccept hsmall
  rw [hfinal.messages, hfinal.numbered.mem_held_iff hmem (stamp_seq msg _), hretired]

/-- Its id is never given to another message. -/
lemma Refines.eq_stamp_of_mem_after_push
    (haccept : (slot.push msg).1 = false) (hsmall : log.accepted.length + 1 + ops.length < 2 ^ 63)
    {other : WeixinMessage} (hother : other ∈ ((slot.push msg).2.after ops).messages)
    (hseq : other.seq = some (slot.nextSeq : Int)) : other = stamp msg slot.nextSeq := by
  obtain ⟨final, hfinal, hmem, -⟩ :=
    href.exists_log_after_push haccept hsmall
  rw [hfinal.messages] at hother
  exact hfinal.numbered.eq_of_seq_eq (List.mem_of_mem_drop hother) hmem (by rw [hseq, stamp_seq])

/-- The cursor of a batch is exactly as far above the retired count as the batch
is long, whether or not the batch is empty. -/
lemma Refines.poll_cursor_sub (hsmall : log.accepted.length < 2 ^ 63) (ack : Option Nat) :
    (slot.poll ack).1.cursor - (log.acknowledge ack).retired =
      (log.acknowledge ack).held.length := by
  by_cases hne : (slot.poll ack).2.messages = []
  · have hlen : (log.acknowledge ack).held.length = 0 := by
      rw [← href.poll_messages ack, hne, List.length_nil]
    have hcursor := href.poll_cursor_le hsmall ack
    rw [hlen]
    rw [length_held, accepted_acknowledge] at hlen
    omega
  · rw [href.poll_cursor_of_ne_nil hsmall hne, length_held, accepted_acknowledge]

/-- Acknowledging the cursor of a batch after further pushes leaves exactly
what those pushes added. -/
lemma Refines.poll_cursor_after_pushes (ack : Option Nat)
    {msgs : List WeixinMessage} (hsmall : log.accepted.length + msgs.length < 2 ^ 63) :
    let polled := slot.poll ack
    let later := polled.2.after (msgs.map .push)
    later.messages = polled.1.msgs ++ polled.2.acceptedBy (msgs.map .push) ∧
      (later.poll (some polled.1.cursor)).1.msgs = polled.2.acceptedBy (msgs.map .push) := by
  intro polled later
  have hpolled := href.poll ack
  have hsmall' : (log.acknowledge ack).accepted.length +
      (msgs.map SlotOp.push).length < 2 ^ 63 := by
    simpa using hsmall
  have hlater := hpolled.after hsmall'
  have haccepted := hpolled.accepted_run hsmall'
  have hretired := retired_run_pushes polled.2.maxQueueSize (log.acknowledge ack) msgs
  set final := run (applyLog polled.2.maxQueueSize) (log.acknowledge ack) (msgs.map .push)
  have hheld : final.held = (log.acknowledge ack).held ++ polled.2.acceptedBy (msgs.map .push) := by
    rw [held, haccepted, hretired, List.drop_append_of_le_length (log.acknowledge ack).retired_le,
      held]
  have hbatch : polled.1.msgs = (log.acknowledge ack).held := hpolled.messages
  have hcursor : min polled.1.cursor final.accepted.length - final.retired =
      (log.acknowledge ack).held.length := by
    have hle := href.poll_cursor_le (by omega) ack
    have hsub := href.poll_cursor_sub (by omega) ack
    have hgrow : log.accepted.length ≤ final.accepted.length := by
      rw [haccepted, List.length_append, accepted_acknowledge]
      exact Nat.le_add_right _ _
    rw [min_eq_left (le_trans hle hgrow), hretired, hsub]
  constructor
  · rw [hlater.messages, hheld, hbatch]
  · rw [poll_msgs, hlater.poll_messages, held_acknowledge, hcursor, hheld, List.drop_left]

end Refined

/-- What one slot does over every run that starts empty.  The pending messages
are the newest accepted ones under consecutive ids; a rejected push is a no-op;
a message is in every batch after its acceptance until an acknowledgement made
since then reaches its id, and in none from there on; acknowledgements made
before its acceptance do not touch it; echoing the last cursor retires the last
batch and nothing else. -/
theorem slot_delivers_until_acknowledged (maxQueueSize : Nat) :
    (∀ ops : List SlotOp, ops.length < 2 ^ 63 →
      let slot := (new maxQueueSize).after ops
      slot.messages.map WeixinMessage.seq = (List.range' (slot.nextSeq - slot.len) slot.len).map
            (fun id : Nat => some (id : Int)) ∧
        slot.messages <:+ (new maxQueueSize).acceptedBy ops ∧
        slot.len < slot.nextSeq ∧ slot.len ≤ maxQueueSize) ∧
    (∀ (ops : List SlotOp) (msg : WeixinMessage),
      let slot := (new maxQueueSize).after ops
      (slot.push msg).1 = true → (slot.push msg).2 = slot) ∧
    (∀ (before since : List SlotOp) (msg : WeixinMessage) (ack : Option Nat),
      before.length + since.length + 2 < 2 ^ 63 →
      let slot := (new maxQueueSize).after before
      (slot.push msg).1 = false →
      let batch := (((slot.push msg).2.after since).poll ack).1
      (stamp msg slot.nextSeq ∈ batch.msgs ↔
        ∀ a, .poll (some a) ∈ since ++ [.poll ack] → a < slot.nextSeq) ∧
      ∀ other ∈ batch.msgs, other.seq = some (slot.nextSeq : Int) →
        other = stamp msg slot.nextSeq) ∧
    (∀ (before since : List SlotOp) (msg : WeixinMessage),
      before.length + since.length + 1 < 2 ^ 63 →
      let slot := (new maxQueueSize).after before
      (slot.push msg).1 = false →
      (∀ a, .poll (some a) ∉ since) →
      stamp msg slot.nextSeq ∈ ((slot.push msg).2.after since).messages) ∧
    (∀ (before : List SlotOp) (ack : Option Nat) (msgs : List WeixinMessage),
      before.length + msgs.length + 2 < 2 ^ 63 →
      let polled := ((new maxQueueSize).after before).poll ack
      let later := polled.2.after (msgs.map SlotOp.push)
      later.messages = polled.1.msgs ++ polled.2.acceptedBy (msgs.map SlotOp.push) ∧
        (later.poll (some polled.1.cursor)).1.msgs =
          polled.2.acceptedBy (msgs.map SlotOp.push)) := by
  refine ⟨?_, ?_, ?_, ?_, ?_⟩
  · intro ops hsmall slot
    have href := refines_logOf maxQueueSize hsmall
    obtain ⟨hids, hsuffix, hlt⟩ := href.window
    rw [accepted_logOf maxQueueSize hsmall] at hsuffix
    refine ⟨hids, hsuffix, hlt, ?_⟩
    have hbound := href.bounded
    rwa [after_maxQueueSize] at hbound
  · intro ops msg slot hrejected
    exact push_rejected hrejected
  · intro before since msg ack hsmall slot haccept batch
    have hbefore : before.length < 2 ^ 63 := by omega
    have href := refines_logOf maxQueueSize hbefore
    have hlen := length_accepted_logOf_le maxQueueSize hbefore
    have hbatch : batch.msgs = ((slot.push msg).2.after (since ++ [.poll ack])).messages := by
      rw [after, run_append]
      rfl
    have hbound : (logOf maxQueueSize before).accepted.length + 1 +
        (since ++ [SlotOp.poll ack]).length < 2 ^ 63 := by
      simp only [List.length_append, List.length_singleton]
      omega
    rw [hbatch]
    refine ⟨href.mem_after_push_iff haccept hbound, ?_⟩
    intro other hother hseq
    exact href.eq_stamp_of_mem_after_push haccept hbound hother hseq
  · intro before since msg hsmall slot haccept hnone
    have hbefore : before.length < 2 ^ 63 := by omega
    have href := refines_logOf maxQueueSize hbefore
    have hlen := length_accepted_logOf_le maxQueueSize hbefore
    rw [href.mem_after_push_iff haccept (by omega)]
    intro a ha
    exact absurd ha (hnone a)
  · intro before ack msgs hsmall
    have hbefore : before.length < 2 ^ 63 := by omega
    have href := refines_logOf maxQueueSize hbefore
    have hlen := length_accepted_logOf_le maxQueueSize hbefore
    exact href.poll_cursor_after_pushes ack (by omega)

theorem slot_delivers_first_message :
    stamp {} 1 ∈ ((((new 1).push {}).2.after [.poll none]).poll (some 0)).1.msgs ∧ stamp {} 1 ∉
        ((((new 1).push {}).2.after [.poll none]).poll (some 1)).1.msgs := by
  have hbatch := fun ack => ((slot_delivers_until_acknowledged 1).2.2.1 []
    [.poll none] {} ack (by simp) rfl).1
  constructor
  · exact (hbatch (some 0)).mpr (by simp [new])
  · intro hmem
    have hlt := (hbatch (some 1)).mp hmem 1 (by simp)
    simp [new] at hlt

end PerClientSlot

end IlinkHub
