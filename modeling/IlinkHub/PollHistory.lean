/-
What concurrent long-polls do to the messages of the slot over whole runs: how
far acknowledgements are applied, when a push is rejected, and which messages
still have a wake-up coming.
-/
import IlinkHub.LongPoll

namespace IlinkHub

open Transition AckLog PerClientSlot

universe u

namespace LongPoll

variable {ι : Type u} {log : AckLog WeixinMessage} {state : LongPoll ι} {n upTo : Nat}

/-- The slot follows the log, with room for `n` further steps. -/
structure Follows (n : Nat) (state : LongPoll ι)
    (log : AckLog WeixinMessage) : Prop where
  refines : state.slot.Refines log
  accepted : log.accepted = state.accepted
  room : state.accepted.length + n < 2 ^ 63

lemma follows_start (maxQueueSize : Nat) (hn : n < 2 ^ 63) :
    Follows n (start maxQueueSize : LongPoll ι) empty where
  refines := refines_new maxQueueSize
  accepted := rfl
  room := by simpa [start] using hn

section FollowsStep

variable {n : Nat} {state next : LongPoll ι} {log : AckLog WeixinMessage}

lemma Follows.same (hlog : Follows (n + 1) state log) (hslot : next.slot = state.slot)
    (haccepted : next.accepted = state.accepted) : Follows n next log where
  refines := by
    rw [hslot]
    exact hlog.refines
  accepted := by rw [haccepted, hlog.accepted]
  room := by
    have hroom := hlog.room
    rw [haccepted]
    omega

lemma Follows.poll (hlog : Follows (n + 1) state log) {ack : Option Nat}
    (hslot : next.slot = (state.slot.poll ack).2) (haccepted : next.accepted = state.accepted) :
    Follows n next (log.acknowledge ack) where
  refines := by
    rw [hslot]
    exact hlog.refines.poll ack
  accepted := by
    rw [haccepted, accepted_acknowledge, hlog.accepted]
  room := by
    have hroom := hlog.room
    rw [haccepted]
    omega

lemma Follows.push (hlog : Follows (n + 1) state log) {msg : WeixinMessage}
    (hresult : (state.slot.push msg).1 = false) (hslot : next.slot = (state.slot.push msg).2)
    (haccepted : next.accepted = state.accepted ++
      [{ msg with seq := some (asI64 state.slot.nextSeq) }]) :
    Follows n next (log.append (stamp msg (log.accepted.length + 1))) := by
  have hroom := hlog.room
  have hsmall : log.accepted.length + 1 < 2 ^ 63 := by
    rw [hlog.accepted]
    omega
  have hid : asI64 state.slot.nextSeq = ((log.accepted.length + 1 : Nat)) := by
    rw [hlog.refines.nextSeq, asI64_of_lt hsmall]
  refine ⟨?_, ?_, ?_⟩
  · rw [hslot, ← hlog.refines.nextSeq]
    exact hlog.refines.push_of_room (push_accepted_iff.mp hresult) hsmall msg
  · rw [haccepted, accepted_append, hid, hlog.accepted]
    rfl
  · rw [haccepted, List.length_append, List.length_singleton]
    omega

end FollowsStep

/-- The delivery id of the message is above `watermark`. -/
def idAbove (watermark : Nat) (msg : WeixinMessage) : Bool :=
  match msg.seq with
  | some seq => decide ((watermark : Int) < seq)
  | none => false

/-- When at least `watermark` messages are retired, everything pending has a
greater id. -/
lemma Follows.countP_idAbove (hlog : Follows n state log) {watermark : Nat}
    (hretired : watermark ≤ log.retired) : state.slot.messages.countP (idAbove watermark) =
      state.slot.messages.length := by
  rw [List.countP_eq_length]
  intro msg hmsg
  rw [hlog.refines.messages] at hmsg
  obtain ⟨id, hid, hlt, -⟩ := hlog.refines.numbered.seq_of_mem_held hmsg
  simp only [idAbove, hid, decide_eq_true_eq]
  omega

/-- The messages up to `upTo` are the ones that were returned, and only those
may be retired. -/
structure Returned (state : LongPoll ι) (log : AckLog WeixinMessage)
    (upTo : Nat) : Prop where
  retired_le : log.retired ≤ upTo
  le_length : upTo ≤ state.accepted.length
  returned : ∀ msg ∈ state.accepted, ∀ id : Nat,
    msg.seq = some (id : Int) → id ≤ upTo → msg ∈ state.returned
  id_le : ∀ msg ∈ state.returned, ∀ id : Nat, msg.seq = some (id : Int) → id ≤ upTo

section ReturnedStep

variable {n upTo : Nat} {state next : LongPoll ι} {log : AckLog WeixinMessage}

lemma Returned.same (hret : Returned state log upTo) (haccepted : next.accepted = state.accepted)
    (hreturned : next.returned = state.returned) : Returned next log upTo where
  retired_le := hret.retired_le
  le_length := by
    rw [haccepted]
    exact hret.le_length
  returned := by
    rw [haccepted, hreturned]
    exact hret.returned
  id_le := by
    rw [hreturned]
    exact hret.id_le

/-- A batch holds all that is not retired. -/
lemma Returned.poll (hret : Returned state log upTo) {ack : Option Nat}
    (hfollows : Follows n next (log.acknowledge ack)) (hold : (log.acknowledge ack).retired ≤ upTo)
    (hslot : next.slot = (state.slot.poll ack).2) (haccepted : next.accepted = state.accepted)
    (hreturned : next.returned = state.returned ++ (state.slot.poll ack).2.messages) : Returned next
    (log.acknowledge ack) state.accepted.length where
  retired_le := Nat.le_trans hold hret.le_length
  le_length := by rw [haccepted]
  returned := by
    -- A message that is not in this batch is retired, so it came before.
    rw [haccepted, hreturned]
    intro msg hmsg id hid _
    rw [List.mem_append]
    by_cases hlt : (log.acknowledge ack).retired < id
    · right
      rw [← hslot, hfollows.refines.messages]
      refine (hfollows.refines.numbered.mem_held_iff ?_ hid).mpr hlt
      rw [hfollows.accepted, haccepted]
      exact hmsg
    · left
      exact hret.returned msg hmsg id hid (by omega)
  id_le := by
    rw [hreturned]
    intro msg hmsg id hid
    rcases List.mem_append.mp hmsg with hbefore | hbatch
    · exact Nat.le_trans (hret.id_le msg hbefore id hid) hret.le_length
    · rw [← hslot, hfollows.refines.messages] at hbatch
      obtain ⟨id', hid', -, hle⟩ :=
        hfollows.refines.numbered.seq_of_mem_held hbatch
      rw [hid] at hid'
      have heq := Option.some.inj hid'
      rw [hfollows.accepted, haccepted] at hle
      omega

/-- The id of a new message is above all that were returned. -/
lemma Returned.push (hret : Returned state log upTo)
    (hlog : log.accepted = state.accepted) {msg : WeixinMessage}
    (haccepted : next.accepted = (log.append (stamp msg (log.accepted.length + 1))).accepted)
    (hreturned : next.returned = state.returned) :
    Returned next (log.append (stamp msg (log.accepted.length + 1))) upTo where
  retired_le := hret.retired_le
  le_length := by
    rw [haccepted, accepted_append, hlog, List.length_append]
    exact Nat.le_add_right_of_le hret.le_length
  returned := by
    rw [haccepted, hreturned, accepted_append, hlog]
    intro found hfound id hid hle
    rcases List.mem_append.mp hfound with hbefore | hlast
    · exact hret.returned found hbefore id hid hle
    · rw [List.mem_singleton.mp hlast, stamp_seq] at hid
      have heq := Option.some.inj hid
      have hlen := hret.le_length
      omega
  id_le := by
    rw [hreturned]
    exact hret.id_le

end ReturnedStep

/-- A poll acknowledges at most the highest id that was in some batch so far,
zero before the first. -/
def HonestAck (state : LongPoll ι) : LongPollEvent ι → Prop
  | .poll i => ∀ a, state.phase i = .ready (some a) →
      a = 0 ∨ ∃ msg ∈ state.returned, ∃ id : Nat, msg.seq = some (id : Int) ∧ a ≤ id
  | _ => True

lemma returned_start (maxQueueSize : Nat) : Returned (start maxQueueSize : LongPoll ι) empty 0 where
  retired_le := Nat.le_refl 0
  le_length := Nat.zero_le _
  returned := by simp [start]
  id_le := by simp [start]

/-- An honest poll retires only what was returned before. -/
lemma Returned.acknowledge_le (hret : Returned state log upTo) {i : ι} {ack : Option Nat}
    (hready : state.phase i = .ready ack) (hhonest : state.HonestAck (.poll i)) :
    (log.acknowledge ack).retired ≤ upTo := by
  have hretired := hret.retired_le
  cases ack with
  | none => exact hretired
  | some a =>
    have ha : a ≤ upTo := by
      rcases hhonest a hready with rfl | ⟨msg, hmsg, id, hid, hle⟩
      · exact Nat.zero_le _
      · exact le_trans hle (hret.id_le msg hmsg id hid)
    exact Nat.max_le.mpr ⟨hretired, le_trans (min_le_left _ _) ha⟩

/-- Under honest acknowledgements a message that was in no batch is still
pending. -/
lemma Returned.mem_messages
    (hlog : Follows n state log) (hret : Returned state log upTo) {msg : WeixinMessage}
    (hmsg : msg ∈ state.accepted) (hunseen : msg ∉ state.returned) : msg ∈ state.slot.messages := by
  rw [← hlog.accepted] at hmsg
  obtain ⟨i, hi⟩ := List.mem_iff_getElem?.mp hmsg
  have hid := hlog.refines.numbered i msg hi
  rw [hlog.refines.messages]
  have hid' : msg.seq = some ((i + 1)) := by simpa using hid
  refine (hlog.refines.numbered.mem_held_iff hmsg hid').mpr ?_
  by_contra hge
  have hle := hret.retired_le
  apply hunseen
  rw [hlog.accepted] at hmsg
  exact hret.returned msg hmsg (i + 1) hid' (by omega)

variable [DecidableEq ι] {events : List (LongPollEvent ι)}

/-- One event never lowers the retired count. -/
lemma Follows.step (hlog : Follows (n + 1) state log) (event : LongPollEvent ι) : ∃ log', Follows
    n (state.step event) log' ∧ log.retired ≤ log'.retired := by
  cases effect_step state event with
  | none hslot haccepted _ _ =>
    exact ⟨log, hlog.same hslot haccepted, le_refl _⟩
  | poll ack _ hslot haccepted _ =>
    exact ⟨_, hlog.poll hslot haccepted, log.retired_le_acknowledge ack⟩
  | push msg hresult hslot haccepted _ _ =>
    exact ⟨_, hlog.push hresult hslot haccepted, le_refl _⟩

lemma Follows.run_retired_le (hlog : Follows (events.length + n) state log) : ∃ log', Follows n
    (run LongPoll.step state events) log' ∧ log.retired ≤ log'.retired := by
  induction events generalizing state log with
  | nil => exact ⟨log, by simpa using hlog, le_refl _⟩
  | cons event events ih =>
    have hlog' : Follows (events.length + n + 1) state log := by
      rwa [List.length_cons, Nat.add_right_comm] at hlog
    obtain ⟨middle, hmiddle, hle⟩ := hlog'.step event
    obtain ⟨final, hfinal, hle'⟩ := ih hmiddle
    exact ⟨final, hfinal, le_trans hle hle'⟩

@[simp] lemma step_maxQueueSize (state : LongPoll ι) (event : LongPollEvent ι) :
    (state.step event).slot.maxQueueSize = state.slot.maxQueueSize := by
  cases effect_step state event with
  | none hslot _ _ _ => rw [hslot]
  | poll ack _ hslot _ _ => rw [hslot, poll_maxQueueSize]
  | push msg _ hslot _ _ _ => rw [hslot, push_maxQueueSize]

lemma run_maxQueueSize (state : LongPoll ι) (events : List (LongPollEvent ι)) :
    (run step state events).slot.maxQueueSize = state.slot.maxQueueSize := by
  induction events generalizing state with
  | nil => rfl
  | cons event events ih => rw [run_cons, ih, step_maxQueueSize]

/-- Once a request with the acknowledgement `a` has executed its poll, a later
push is rejected only when the slot is full of messages above `a`; an `a` that
was not allocated counts as the highest id that was. -/
theorem push_rejected_only_above_applied_ack (maxQueueSize : Nat)
    (before since : List (LongPollEvent ι)) (i : ι) (a : Nat) (msg : WeixinMessage)
    (hlength : before.length + since.length + 1 < 2 ^ 63)
    (hready : (run step (start maxQueueSize) before).phase i = .ready (some a))
    (hrejected : ((run step (start maxQueueSize)
      (before ++ .poll i :: since)).slot.push msg).1 = true) :
    maxQueueSize ≤ (run step (start maxQueueSize) (before ++ .poll i :: since)).slot.messages.countP
        (idAbove (min a ((run step (start maxQueueSize) before).slot.nextSeq - 1))) := by
  have hstart : Follows (before.length + (since.length + 0 + 1))
      (start maxQueueSize : LongPoll ι) empty :=
    follows_start maxQueueSize (by omega)
  obtain ⟨log, hlog, -⟩ := hstart.run_retired_le
  rw [run_append, run_cons] at hrejected ⊢
  set atPoll := run step (start maxQueueSize) before
  obtain ⟨applied, happlied, hwatermark⟩ : ∃ applied,
      Follows (since.length + 0) (atPoll.step (.poll i)) applied ∧
        min a (atPoll.slot.nextSeq - 1) ≤ applied.retired := by
    obtain ⟨hslot, haccepted, -⟩ := step_poll_of_ready hready
    refine ⟨_, hlog.poll hslot haccepted, ?_⟩
    rw [hlog.refines.nextSeq]
    exact Nat.le_max_right _ _
  obtain ⟨final, hfinal, hle⟩ := happlied.run_retired_le
  rw [hfinal.countP_idAbove (le_trans hwatermark hle)]
  have hfull := push_rejected_iff.mp hrejected
  rw [run_maxQueueSize, step_maxQueueSize, run_maxQueueSize] at hfull
  exact hfull

theorem push_rejected_with_one_unacked :
    1 ≤ (run step (start 1 : LongPoll Unit) ([.push {} (), .arrive () (some 1), .wait ()] ++
        .poll () :: [.push {} ()])).slot.messages.countP (idAbove 1) :=
  push_rejected_only_above_applied_ack 1 [.push {} (), .arrive () (some 1), .wait ()] [.push {} ()]
    () 1 {} (by simp) rfl rfl

/-- The queue is full of what the second request acknowledges, and the request
waits before it applies that. -/
def ackStillWaiting : List (LongPollEvent Unit) :=
  [.push {} (), .arrive () none, .wait (), .poll (), .arrive () (some 1), .wait ()]

/-- The request acknowledges an id that is allocated only after its poll. -/
def ackAheadOfIds : List (LongPollEvent Unit) :=
  [.arrive () (some 5), .skipWait (), .poll (), .push {} ()]

/-- In both runs a push is rejected although nothing pending is above the
acknowledgement of a request that was admitted. -/
theorem push_rejected_below_admitted_ack :
    ((run step (start 1) ackStillWaiting).phase () = .waiting (some 1) ∧
      ((run step (start 1) ackStillWaiting).slot.push {}).1 = true ∧
      (run step (start 1) ackStillWaiting).slot.messages.countP (idAbove 1) = 0) ∧
    ((run step (start 1) [.arrive () (some 5)]).phase () = .admitted (some 5) ∧
      ((run step (start 1) ackAheadOfIds).slot.push {}).1 = true ∧
      (run step (start 1) ackAheadOfIds).slot.messages.countP (idAbove 5) = 0) := by
  decide

lemma Returned.step (hlog : Follows (n + 1) state log) (hret : Returned state log upTo)
    {event : LongPollEvent ι} (hhonest : state.HonestAck event) :
    ∃ log' upTo', Follows n (state.step event) log' ∧ Returned (state.step event) log' upTo' := by
  cases effect_step state event with
  | none hslot haccepted hreturned _ =>
    exact ⟨log, upTo, hlog.same hslot haccepted, hret.same haccepted hreturned⟩
  | poll ack hready hslot haccepted hreturned =>
    have hfollows := hlog.poll hslot haccepted
    have hold := hret.acknowledge_le hready hhonest
    exact ⟨_, state.accepted.length, hfollows, hret.poll hfollows hold hslot haccepted hreturned⟩
  | push msg hresult hslot haccepted hreturned _ =>
    have hfollows := hlog.push hresult hslot haccepted
    exact ⟨_, upTo, hfollows, hret.push hlog.accepted hfollows.accepted.symm hreturned⟩

lemma Returned.run (hret : Returned state log upTo) (hlog : Follows (events.length + n) state log)
    (hhonest : EveryStep .step HonestAck state events) :
    ∃ log' upTo', Follows n (run LongPoll.step state events) log' ∧
      Returned (run LongPoll.step state events) log' upTo' := by
  induction events generalizing state log upTo with
  | nil => exact ⟨log, upTo, by simpa using hlog, hret⟩
  | cons event events ih =>
    have hlog' : Follows (events.length + n + 1) state log := by
      rwa [List.length_cons, Nat.add_right_comm] at hlog
    obtain ⟨middle, upTo', hmiddle, hret'⟩ := hret.step hlog' hhonest.1
    exact ih hret' hmiddle hhonest.2

/-- Every accepted message that was in no batch has a wake-up on its way. -/
def NoLostMessage (state : LongPoll ι) : Prop :=
  (∃ msg ∈ state.accepted, msg ∉ state.returned) → state.WakePending

/-- No wake-up is lost: a message that is pending and was in no batch has a
permit or a poller on its way.  When every poll acknowledges only what was
returned before, this covers every accepted message. -/
theorem no_lost_wake_up (maxQueueSize : Nat) (events : List (LongPollEvent ι)) :
    Throughout step NoLostWakeUp (start maxQueueSize) events ∧
    (events.length < 2 ^ 63 → EveryStep step HonestAck (start maxQueueSize) events →
      Throughout step NoLostMessage (start maxQueueSize) events) := by
  have hwake : ∀ past : List (LongPollEvent ι), (run step (start maxQueueSize) past).TasksWait ∧
        (run step (start maxQueueSize) past).NoLostWakeUp := by
    have hstep : ∀ (state : LongPoll ι) (event : LongPollEvent ι),
        state.TasksWait ∧ state.NoLostWakeUp →
          (state.step event).TasksWait ∧ (state.step event).NoLostWakeUp := by
      rintro state event ⟨htasks, hlost⟩
      exact ⟨htasks.step event, hlost.step htasks event⟩
    exact run_invariant hstep ⟨tasksWait_start maxQueueSize, noLostWakeUp_start maxQueueSize⟩
  refine ⟨fun past _ => (hwake past).2, ?_⟩
  rintro hlength hhonest past ⟨rest, rfl⟩ ⟨msg, hmsg, hunseen⟩
  rw [everyStep_append] at hhonest
  rw [List.length_append] at hlength
  have hstart : Follows (past.length + 0) (start maxQueueSize : LongPoll ι)
      empty := follows_start maxQueueSize (by omega)
  obtain ⟨log, upTo, hlog, hret⟩ :=
    (returned_start maxQueueSize).run hstart hhonest.1
  exact (hwake past).2 ⟨msg, hret.mem_messages hlog hmsg hunseen, hunseen⟩

theorem no_lost_wake_up_two_pollers :
    Throughout step NoLostMessage (start 2 : LongPoll Bool)
      [.arrive true none, .wait true, .arrive false none, .wait false,
        .push {} true, .cancel true false, .resume false, .poll false,
        .arrive true (some 1), .wait true, .stopWaiting true true,
        .poll true] := by
  refine (no_lost_wake_up 2 _).2 (by simp) ⟨trivial, trivial, trivial, trivial,
    trivial, trivial, trivial, ?_, trivial, trivial, trivial, ?_, trivial⟩
  · intro a ha
    cases ha
  · intro a ha
    cases ha
    exact .inr ⟨stamp {} 1, by decide +kernel, 1, rfl, le_refl 1⟩

/-- A poll that acknowledges a message no batch has carried retires it unseen,
and nothing is left to wake anyone for it. -/
theorem message_retired_before_return :
    ¬ Throughout step NoLostMessage (start 2 : LongPoll Unit)
      [.push {} (), .arrive () (some 1), .wait (), .poll ()] := by
  intro hall
  have hpending := hall _ List.prefix_rfl ⟨stamp {} 1, by decide +kernel, by decide +kernel⟩
  rcases hpending with hpermit | ⟨_, ack, hready | ⟨hwaiting, -⟩⟩
  · revert hpermit
    decide
  · cases hready
  · cases hwaiting

end LongPoll

end IlinkHub
