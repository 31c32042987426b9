/-
At-least-once delivery to one client that echoes the last cursor it received,
over runs in which its slot is discarded and created again.  Ids start at one
in every slot, so a cursor that outlives its slot names other messages.
-/
import IlinkHub.QueueRuns

namespace IlinkHub

open PerClientSlot InMemoryQueue AckLog Transition

structure GetUpdatesResponse where
  ret : Option Int := none
  errcode : Option Int := none
  errmsg : Option String := none
  msgs : Option (List WeixinMessage) := none
  getUpdatesBuf : Option String := none
deriving Repr, DecidableEq

/-- The response `getupdates` builds from a batch. -/
def GetUpdatesResponse.ofBatch (batch : PollBatch) : GetUpdatesResponse where
  ret := some 0
  msgs := if batch.isEmpty then none else some batch.msgs
  getUpdatesBuf := some (toString batch.cursor)

/-- What the client reads as the returned batch. -/
def GetUpdatesResponse.batch (response : GetUpdatesResponse) : List WeixinMessage :=
  response.msgs.getD []

lemma GetUpdatesResponse.batch_ofBatch (batch : PollBatch) :
    (ofBatch batch).batch = batch.msgs := by
  unfold GetUpdatesResponse.batch ofBatch PollBatch.isEmpty
  cases batch.msgs <;> rfl

/-- The queue together with the client's side and two records of the current
slot: what it accepted, and what of it the client was given. -/
structure Delivery where
  queue : InMemoryQueue
  /-- the cursor the client sends with its next request -/
  getUpdatesBuf : String
  /-- the cursor was issued by the slot that is in the queue now -/
  current : Bool
  accepted : List WeixinMessage
  returned : List WeixinMessage

/-- `received` tells whether the response reaches the client.  The client has
one request at a time, so a request carries the last cursor received. -/
inductive DeliveryEvent where
  | push (msg : WeixinMessage)
  | waitNotify
  | poll (received : Bool)
  | removeClient
  | restart

namespace Delivery

/-- A Hub process that starts while the client may hold an older cursor. -/
def start (maxQueueSize : Nat) (getUpdatesBuf : String) : Delivery :=
  ⟨withLimit maxQueueSize, getUpdatesBuf, false, [], []⟩

variable (vtoken : String)

def slot (state : Delivery) : PerClientSlot :=
  state.queue.getOrCreate vtoken

def ack (state : Delivery) : Option Nat :=
  GetUpdatesRequest.ackWatermark { getUpdatesBuf := state.getUpdatesBuf }

/-- The slot is gone and the client keeps its cursor. -/
def discard (state : Delivery) (queue : InMemoryQueue) : Delivery :=
  ⟨queue, state.getUpdatesBuf, false, [], []⟩

def step (state : Delivery) : DeliveryEvent → Delivery
  | .push msg =>
    let result := state.queue.push vtoken msg
    let stored := { msg with seq := some (asI64 (state.slot vtoken).nextSeq) }
    { state with
      queue := result.2
      accepted := if result.1 then state.accepted
        else state.accepted ++ [stored] }
  | .waitNotify => { state with queue := state.queue.waitNotify vtoken }
  | .poll received =>
    let result := state.queue.poll vtoken state.ack
    let response := GetUpdatesResponse.ofBatch result.1
    if received then
      { state with
        queue := result.2
        getUpdatesBuf := response.getUpdatesBuf.getD ""
        current := true
        returned := state.returned ++ response.batch }
    else
      { state with queue := result.2 }
  | .removeClient => state.discard (state.queue.removeClient vtoken)
  | .restart => state.discard (withLimit state.queue.maxQueueSize)

/-- Nothing the current slot accepted is retired before it was in a batch
returned to the client. -/
def RetiredOnlyReturned (state : Delivery) : Prop :=
  ∀ msg ∈ state.accepted, msg ∉ (state.slot vtoken).messages → msg ∈ state.returned
deriving Decidable

/-- A poll is safe when its cursor comes from the current slot, or names no
message that is pending there. -/
def EchoSafe (state : Delivery) : DeliveryEvent → Prop
  | .poll _ =>
    state.current = true ∨ ∀ msg ∈ (state.slot vtoken).messages, ∀ a id : Nat,
        state.ack = some a → msg.seq = some (id : Int) → a < id
  | _ => True

/-- The invariant, with room for `n` further steps. -/
structure Inv (n : Nat) (state : Delivery) : Prop where
  refines : ∃ log : AckLog WeixinMessage,
    (state.slot vtoken).Refines log ∧ log.accepted = state.accepted
  room : state.accepted.length + n < 2 ^ 63
  stale : state.current = false → state.returned = []
  covered : state.current = true → ∃ cursor, state.ack = some cursor ∧
    cursor ≤ state.accepted.length ∧ ∀ msg ∈ state.accepted, ∀ id : Nat,
      msg.seq = some (id : Int) → id ≤ cursor → msg ∈ state.returned
  retired : state.RetiredOnlyReturned vtoken

variable {n : Nat} {state : Delivery}

lemma inv_start {maxQueueSize : Nat} (getUpdatesBuf : String)
    (hn : n < 2 ^ 63) : Inv vtoken n (start maxQueueSize getUpdatesBuf) where
  refines := ⟨empty, refines_new maxQueueSize, rfl⟩
  room := by simpa [start] using hn
  stale := fun _ => rfl
  covered := fun hcurrent => by simp [start] at hcurrent
  retired := by simp [RetiredOnlyReturned, start]

variable {vtoken} {log : AckLog WeixinMessage}

lemma Inv.discard (hinv : Inv vtoken (n + 1) state) {queue : InMemoryQueue} {maxQueueSize : Nat}
    (hslot : queue.getOrCreate vtoken = PerClientSlot.new maxQueueSize) :
    Inv vtoken n (state.discard queue) where
  refines := ⟨empty, by
    rw [slot, Delivery.discard, hslot]
    exact refines_new maxQueueSize, rfl⟩
  room := by
    have hroom := hinv.room
    simp only [Delivery.discard, List.length_nil]
    omega
  stale := fun _ => rfl
  covered := fun hcurrent => by simp [Delivery.discard] at hcurrent
  retired := by simp [RetiredOnlyReturned, Delivery.discard]

lemma Inv.waitNotify (hinv : Inv vtoken (n + 1) state) :
    Inv vtoken n (state.step vtoken .waitNotify) where
  refines := by
    simpa [step, slot] using hinv.refines
  room := Nat.lt_of_succ_lt hinv.room
  stale := hinv.stale
  covered := hinv.covered
  retired := by
    simpa [RetiredOnlyReturned, step, slot] using hinv.retired

lemma step_push_of_full (hfull : (state.slot vtoken).maxQueueSize ≤
      (state.slot vtoken).messages.length) (msg : WeixinMessage) :
    (state.step vtoken (.push msg)).accepted = state.accepted ∧
      (state.step vtoken (.push msg)).slot vtoken = state.slot vtoken := by
  have hpush := push_of_full hfull msg
  simp only [slot] at hpush
  simp [step, slot, InMemoryQueue.push, hpush]

lemma step_push_of_room (href : (state.slot vtoken).Refines log)
    (hroom : (state.slot vtoken).messages.length < (state.slot vtoken).maxQueueSize)
    (hsmall : log.accepted.length + 1 < 2 ^ 63) (msg : WeixinMessage) :
    (state.step vtoken (.push msg)).accepted = state.accepted ++
        [stamp msg (log.accepted.length + 1)] ∧
      (state.step vtoken (.push msg)).slot vtoken = ((state.slot vtoken).push msg).2 ∧
      ((state.slot vtoken).push msg).2.messages = (state.slot vtoken).messages ++
          [stamp msg (log.accepted.length + 1)] := by
  have hpush := push_of_room href hroom hsmall msg
  have hid : asI64 (state.slot vtoken).nextSeq = ((log.accepted.length + 1 : Nat)) := by
    rw [href.nextSeq, asI64_of_lt hsmall]
  have hresult : (state.queue.push vtoken msg).1 = false := by
    change ((state.slot vtoken).push msg).1 = false
    rw [hpush]
  refine ⟨?_, getOrCreate_push _ _ _, ?_⟩
  · simp only [step, hresult, hid]
    rfl
  · rw [hpush, href.nextSeq]

lemma Inv.push (hinv : Inv vtoken (n + 1) state) (msg : WeixinMessage) :
    Inv vtoken n (state.step vtoken (.push msg)) := by
  obtain ⟨log, href, hlog⟩ := hinv.refines
  have hroom := hinv.room
  by_cases hfull : (state.slot vtoken).maxQueueSize ≤ (state.slot vtoken).messages.length
  · obtain ⟨haccepted, hslot⟩ := step_push_of_full hfull msg
    refine ⟨⟨log, by rwa [hslot], by rw [haccepted, hlog]⟩, ?_, hinv.stale, ?_, ?_⟩
    · rw [haccepted]
      omega
    · rw [haccepted]
      exact hinv.covered
    · rw [RetiredOnlyReturned, haccepted, hslot]
      exact hinv.retired
  · have hlt := Nat.lt_of_not_le hfull
    have hsmall : log.accepted.length + 1 < 2 ^ 63 := by
      rw [hlog]
      omega
    obtain ⟨haccepted, hslot, hmessages⟩ :=
      step_push_of_room href hlt hsmall msg
    refine ⟨⟨_, by rw [hslot]; exact href.push_of_room hlt hsmall msg, ?_⟩, ?_, hinv.stale, ?_, ?_⟩
    · rw [haccepted, accepted_append, href.nextSeq, hlog]
    · rw [haccepted, List.length_append, List.length_singleton]
      omega
    · intro hcurrent
      obtain ⟨cursor, hack, hle, hcovered⟩ := hinv.covered hcurrent
      refine ⟨cursor, hack, ?_, ?_⟩
      · rw [haccepted, List.length_append]
        omega
      · rw [haccepted]
        intro found hfound id hid hidle
        rcases List.mem_append.mp hfound with hold | hnew
        · exact hcovered found hold id hid hidle
        · -- the new message has an id above everything allocated so far
          rw [List.mem_singleton.mp hnew, hlog] at hid
          have hid' := Option.some.inj hid
          omega
    · intro found hfound hgone
      rw [hslot, hmessages, List.mem_append, not_or] at hgone
      rw [haccepted, List.mem_append] at hfound
      exact hinv.retired found (hfound.resolve_right hgone.2) hgone.1

/-- What a poll retires: the pending messages the client's cursor reaches. -/
lemma not_mem_poll_iff (href : (state.slot vtoken).Refines log) {msg : WeixinMessage}
    (hmsg : msg ∈ (state.slot vtoken).messages) :
    msg ∉ ((state.slot vtoken).poll state.ack).2.messages ↔
      ∃ a id : Nat, state.ack = some a ∧ msg.seq = some (id : Int) ∧ id ≤ a := by
  rw [href.messages] at hmsg
  obtain ⟨id, hid, hlt, hle⟩ := href.numbered.seq_of_mem_held hmsg
  have hmem : msg ∈ (log.acknowledge state.ack).accepted := by
    rw [accepted_acknowledge]
    exact List.mem_of_mem_drop hmsg
  rw [href.poll_messages, (href.numbered.acknowledge _).mem_held_iff hmem hid,
    retired_acknowledge_lt_iff log hle]
  constructor
  · intro hnot
    by_contra hnone
    apply hnot
    refine ⟨hlt, ?_⟩
    intro a ha
    by_contra hge
    exact hnone ⟨a, id, ha, hid, Nat.le_of_not_lt hge⟩
  · rintro ⟨a, id', ha, hid', hle'⟩ ⟨-, hall⟩
    have hlt' := hall a ha
    rw [hid] at hid'
    have heq := Option.some.inj hid'
    omega

lemma step_poll_slot (vtoken : String) (state : Delivery) (received : Bool) :
    (state.step vtoken (.poll received)).slot vtoken = ((state.slot vtoken).poll state.ack).2 := by
  cases received with
  | true => exact (poll_eq state.queue vtoken state.ack).2
  | false => exact (poll_eq state.queue vtoken state.ack).2

lemma step_poll_accepted (vtoken : String) (state : Delivery) (received : Bool) :
    (state.step vtoken (.poll received)).accepted = state.accepted := by
  cases received <;> rfl

lemma step_poll_received (vtoken : String) (state : Delivery) :
    (state.step vtoken (.poll true)).returned =
        state.returned ++ ((state.slot vtoken).poll state.ack).2.messages ∧
      (state.step vtoken (.poll true)).getUpdatesBuf =
        toString ((state.slot vtoken).poll state.ack).1.cursor := by
  have hbatch := (poll_eq state.queue vtoken state.ack).1
  simp only [step, slot, if_true, GetUpdatesResponse.batch_ofBatch, hbatch, poll_msgs]
  simp [GetUpdatesResponse.ofBatch]

lemma retired_step_poll (hinv : Inv vtoken (n + 1) state) {received : Bool}
    (hsafe : state.EchoSafe vtoken (.poll received)) :
    ∀ msg ∈ state.accepted,
      msg ∉ ((state.slot vtoken).poll state.ack).2.messages → msg ∈ state.returned := by
  intro msg hmsg hgone
  obtain ⟨log, href, hlog⟩ := hinv.refines
  by_cases hheld : msg ∈ (state.slot vtoken).messages
  · obtain ⟨a, id, ha, hid, hle⟩ := (not_mem_poll_iff href hheld).mp hgone
    rcases hsafe with hcurrent | hbelow
    · obtain ⟨cursor, hack, -, hcovered⟩ := hinv.covered hcurrent
      rw [ha] at hack
      cases hack
      exact hcovered msg hmsg id hid hle
    · have hlt := hbelow msg hheld a id ha hid
      omega
  · exact hinv.retired msg hmsg hheld

lemma Inv.poll (hinv : Inv vtoken (n + 1) state) {received : Bool}
    (hsafe : state.EchoSafe vtoken (.poll received)) :
    Inv vtoken n (state.step vtoken (.poll received)) := by
  obtain ⟨log, href, hlog⟩ := hinv.refines
  have hretired := retired_step_poll hinv hsafe
  have hroom := hinv.room
  have hslot := step_poll_slot vtoken state received
  have haccepted := step_poll_accepted vtoken state received
  have hrefines : ∃ log', ((state.step vtoken (.poll received)).slot vtoken).Refines log' ∧
        log'.accepted = (state.step vtoken (.poll received)).accepted := by
    refine ⟨log.acknowledge state.ack, ?_, ?_⟩
    · rw [hslot]
      exact href.poll state.ack
    · rw [accepted_acknowledge, haccepted, hlog]
  cases received with
  | false =>
    refine ⟨hrefines, by rw [haccepted]; omega, hinv.stale, ?_, ?_⟩
    · exact hinv.covered
    · rw [RetiredOnlyReturned, hslot]
      exact hretired
  | true =>
    obtain ⟨hreturned, hbuf⟩ := step_poll_received vtoken state
    -- after a response that arrives, everything accepted has been returned
    have hall : ∀ msg ∈ state.accepted, msg ∈ (state.step vtoken (.poll true)).returned := by
      intro msg hmsg
      rw [hreturned, List.mem_append]
      by_cases hheld : msg ∈ ((state.slot vtoken).poll state.ack).2.messages
      · exact .inr hheld
      · exact .inl (hretired msg hmsg hheld)
    have hcursor : ((state.slot vtoken).poll state.ack).1.cursor ≤ state.accepted.length := by
      rw [← hlog]
      exact href.poll_cursor_le (by rw [hlog]; omega) state.ack
    refine ⟨hrefines, by rw [haccepted]; omega, ?_, ?_, ?_⟩
    · intro hstale
      simp [step] at hstale
    · intro _
      refine ⟨((state.slot vtoken).poll state.ack).1.cursor, ?_, ?_, ?_⟩
      · rw [ack, hbuf, ackWatermark_echo]
        omega
      · exact hcursor
      · intro msg hmsg _ _ _
        exact hall msg hmsg
    · intro msg hmsg _
      exact hall msg hmsg

/-- An unsafe poll retires a message of which the client never heard. -/
lemma not_retiredOnlyReturned_step (hinv : Inv vtoken (n + 1) state) {event : DeliveryEvent}
    (hstray : ¬ state.EchoSafe vtoken event) :
    ¬ (state.step vtoken event).RetiredOnlyReturned vtoken := by
  cases event with
  | poll received =>
    simp only [EchoSafe, not_or, not_forall, not_lt] at hstray
    obtain ⟨hstale, msg, hmsg, a, id, ha, hid, hle⟩ := hstray
    obtain ⟨log, href, hlog⟩ := hinv.refines
    have hgone := (not_mem_poll_iff href hmsg).mpr ⟨a, id, ha, hid, hle⟩
    have hnone := hinv.stale (by simpa using hstale)
    intro hretired
    have hreturned := hretired msg (by
        rw [step_poll_accepted, ← hlog]
        rw [href.messages] at hmsg
        exact List.mem_of_mem_drop hmsg)
      (by rwa [step_poll_slot])
    cases received with
    | true =>
      rw [(step_poll_received vtoken state).1, hnone, List.nil_append] at hreturned
      exact hgone hreturned
    | false =>
      change msg ∈ state.returned at hreturned
      rw [hnone] at hreturned
      simp at hreturned
  | push msg => exact absurd trivial hstray
  | waitNotify => exact absurd trivial hstray
  | removeClient => exact absurd trivial hstray
  | restart => exact absurd trivial hstray

lemma Inv.step (hinv : Inv vtoken (n + 1) state) {event : DeliveryEvent}
    (hsafe : state.EchoSafe vtoken event) : Inv vtoken n (state.step vtoken event) := by
  cases event with
  | push msg => exact hinv.push msg
  | waitNotify => exact hinv.waitNotify
  | poll received => exact hinv.poll hsafe
  | removeClient =>
    exact hinv.discard (getOrCreate_removeClient _ _)
  | restart => exact hinv.discard (getOrCreate_withLimit _ _)

/-- Delivery is at least once along a run exactly when no poll applies a cursor
of an earlier slot to messages the current one has pending. -/
theorem at_least_once_iff_echo_safe (vtoken : String) (maxQueueSize : Nat)
    (getUpdatesBuf : String) (events : List DeliveryEvent) (hlength : events.length < 2 ^ 63) :
    Throughout (step vtoken) (RetiredOnlyReturned vtoken)
        (start maxQueueSize getUpdatesBuf) events ↔
      EveryStep (step vtoken) (EchoSafe vtoken)
        (start maxQueueSize getUpdatesBuf) events :=
  throughout_iff_everyStep (fun _ _ hinv => hinv.retired)
    (fun _ _ _ hinv hsafe => hinv.step hsafe)
    (fun _ _ _ hinv hstray => not_retiredOnlyReturned_step hinv hstray)
    (inv_start vtoken getUpdatesBuf hlength)

theorem at_least_once_for_current_cursor :
    Throughout (step "bot") (RetiredOnlyReturned "bot")
      (start 2 "") [.push {}, .poll true, .push {}, .poll true] := by
  rw [at_least_once_iff_echo_safe "bot" 2 "" _ (by simp)]
  refine ⟨trivial, .inr ?_, trivial, .inl rfl, trivial⟩
  intro msg _ a _ ha
  cases ha

/-- The cursor `1` of the first slot retires the first message of the second. -/
theorem restart_retires_unseen_message :
    ¬ Throughout (step "bot") (RetiredOnlyReturned "bot")
      (start 2 "") [.push {}, .poll true, .restart, .push {}, .poll true] := by
  intro hall
  have hend := hall _ List.prefix_rfl
  revert hend
  decide

end Delivery

end IlinkHub
