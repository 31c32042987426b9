/-
Concurrent long-polls on one slot that is never removed.  A `getupdates`
request passes the registry check, waits for a notification, a timeout or the
shutdown of the Hub, and only then polls the queue with the acknowledgement it
carries; dispatcher pushes come in between.
-/
import IlinkHub.Notify
import IlinkHub.QueueRuns

namespace IlinkHub

open Notify

universe u

/-- Where a request of one poller is; the acknowledgement is fixed with the
request. -/
inductive PollPhase where
  | idle
  | admitted (ack : Option Nat)
  | waiting (ack : Option Nat)
  | ready (ack : Option Nat)
deriving Repr, DecidableEq

/-- The slot with its `Notify`, the pollers, and two records: what the slot
accepted and what was in some returned batch. -/
structure LongPoll (ι : Type u) where
  slot : PerClientSlot
  notify : Notify ι
  phase : ι → PollPhase
  accepted : List WeixinMessage
  returned : List WeixinMessage

/-- The argument `choice` picks the waiter that a notification goes to.
`skipWait` is a request that finds the Hub shutting down, `stopWaiting` the
timeout or the shutdown during the wait, and `cancel` a client that goes away. -/
inductive LongPollEvent (ι : Type u) where
  | arrive (i : ι) (ack : Option Nat)
  | wait (i : ι)
  | skipWait (i : ι)
  | resume (i : ι)
  | stopWaiting (i choice : ι)
  | cancel (i choice : ι)
  | poll (i : ι)
  | push (msg : WeixinMessage) (choice : ι)

namespace LongPoll

variable {ι : Type u}

def start (maxQueueSize : Nat) : LongPoll ι :=
  ⟨PerClientSlot.new maxQueueSize, new, fun _ => .idle, [], []⟩

/-- A stored permit, or a poller that was woken or timed out and has not polled
yet. -/
def WakePending (state : LongPoll ι) : Prop :=
  state.notify.permit = true ∨ ∃ i ack, state.phase i = .ready ack ∨
      (state.phase i = .waiting ack ∧ i ∈ state.notify.woken)

/-- Who is inside the wait is recorded as waiting. -/
def TasksWait (state : LongPoll ι) : Prop :=
  ∀ i ∈ state.notify.tasks, ∃ ack, state.phase i = .waiting ack

/-- A pending message that was in no batch has a wake-up on its way. -/
def NoLostWakeUp (state : LongPoll ι) : Prop :=
  (∃ msg ∈ state.slot.messages, msg ∉ state.returned) → state.WakePending

lemma tasksWait_start (maxQueueSize : Nat) : (start maxQueueSize : LongPoll ι).TasksWait := by
  intro i hi
  simp [start, new, tasks] at hi

variable {state : LongPoll ι} {phase : PollPhase} {i : ι}

lemma TasksWait.not_mem_of_phase (hwait : state.TasksWait) {j : ι}
    (hphase : state.phase i = phase) (hnot : ∀ ack, phase ≠ .waiting ack)
    (hj : j ∈ state.notify.tasks) : j ≠ i := by
  rintro rfl
  obtain ⟨ack, hack⟩ := hwait j hj
  exact hnot ack (by rw [← hphase, hack])

lemma wakePending_iff (hwait : state.TasksWait) :
    state.WakePending ↔ state.notify.Signalled ∨ ∃ i ack, state.phase i = .ready ack := by
  constructor
  · rintro (hpermit | ⟨i, ack, hready | ⟨-, hwoken⟩⟩)
    · exact .inl (.inl hpermit)
    · exact .inr ⟨i, ack, hready⟩
    · exact .inl (.inr ⟨i, hwoken⟩)
  · rintro ((hpermit | ⟨i, hwoken⟩) | ⟨i, ack, hready⟩)
    · exact .inl hpermit
    · obtain ⟨ack, hack⟩ := hwait i (List.mem_append_right _ hwoken)
      exact .inr ⟨i, ack, .inr ⟨hack, hwoken⟩⟩
    · exact .inr ⟨i, ack, .inl hready⟩

lemma noLostWakeUp_start (maxQueueSize : Nat) : (start maxQueueSize : LongPoll ι).NoLostWakeUp := by
  rintro ⟨msg, hmsg, -⟩
  simp [start, PerClientSlot.new] at hmsg

variable [DecidableEq ι] {notify : Notify ι}

def setPhase (state : LongPoll ι) (i : ι) (phase : PollPhase) : LongPoll ι :=
  { state with phase := Function.update state.phase i phase }

/-- A request that is `ready` returned from its wait and is not cancelled before
its poll. -/
def step (state : LongPoll ι) : LongPollEvent ι → LongPoll ι
  | .arrive i ack =>
    match state.phase i with
    | .idle => state.setPhase i (.admitted ack)
    | _ => state
  | .wait i =>
    match state.phase i with
    | .admitted ack =>
      { state.setPhase i (if (state.notify.enter i).1 then .ready ack else .waiting ack)
        with notify := (state.notify.enter i).2 }
    | _ => state
  | .skipWait i =>
    match state.phase i with
    | .admitted ack => state.setPhase i (.ready ack)
    | _ => state
  | .resume i =>
    match state.phase i with
    | .waiting ack =>
      if i ∈ state.notify.woken then
        { state.setPhase i (.ready ack) with
          notify := state.notify.finish i }
      else state
    | _ => state
  | .stopWaiting i choice =>
    match state.phase i with
    | .waiting ack =>
      { state.setPhase i (.ready ack) with
        notify := state.notify.leave i choice }
    | _ => state
  | .cancel i choice =>
    match state.phase i with
    | .admitted _ => state.setPhase i .idle
    | .waiting _ =>
      { state.setPhase i .idle with notify := state.notify.leave i choice }
    | _ => state
  | .poll i =>
    match state.phase i with
    | .ready ack =>
      { state.setPhase i .idle with
        slot := (state.slot.poll ack).2
        returned := state.returned ++ (state.slot.poll ack).1.msgs }
    | _ => state
  | .push msg choice =>
    if (state.slot.push msg).1 then state
    else
      { state with
        slot := (state.slot.push msg).2
        accepted := state.accepted ++ [{ msg with seq := some (asI64 state.slot.nextSeq) }]
        notify := state.notify.notifyOne choice }

/-- Changing a poller that is not inside the wait, and shrinking the wait. -/
lemma TasksWait.setPhase (hwait : state.TasksWait)
    (hsub : ∀ j ∈ notify.tasks, (j ∈ state.notify.tasks ∧ j ≠ i) ∨
      (j = i ∧ ∃ ack, phase = .waiting ack)) :
    TasksWait { state.setPhase i phase with notify := notify } := by
  intro j hj
  rcases hsub j hj with ⟨hmem, hne⟩ | ⟨rfl, ack, rfl⟩
  · obtain ⟨ack, hack⟩ := hwait j hmem
    exact ⟨ack, by simp [LongPoll.setPhase, Function.update_of_ne hne, hack]⟩
  · exact ⟨ack, by simp [LongPoll.setPhase]⟩

lemma TasksWait.step (hwait : state.TasksWait)
    (event : LongPollEvent ι) : (state.step event).TasksWait := by
  cases event with
  | arrive i ack =>
    cases hphase : state.phase i <;> simp only [LongPoll.step, hphase] <;>
      try exact hwait
    exact hwait.setPhase fun j hj =>
      .inl ⟨hj, hwait.not_mem_of_phase hphase (by simp) hj⟩
  | wait i =>
    cases hphase : state.phase i <;> simp only [LongPoll.step, hphase] <;>
      try exact hwait
    next ack =>
      apply hwait.setPhase
      intro j hj
      rcases mem_tasks_of_mem_tasks_enter hj with hmem | ⟨rfl, henter⟩
      · exact .inl ⟨hmem, hwait.not_mem_of_phase hphase (by simp) hmem⟩
      · exact .inr ⟨rfl, ack, by simp [henter]⟩
  | skipWait i =>
    cases hphase : state.phase i <;> simp only [LongPoll.step, hphase] <;>
      try exact hwait
    exact hwait.setPhase fun j hj =>
      .inl ⟨hj, hwait.not_mem_of_phase hphase (by simp) hj⟩
  | resume i =>
    cases hphase : state.phase i <;> simp only [LongPoll.step, hphase] <;>
      try exact hwait
    split
    · next hi =>
      exact hwait.setPhase fun j hj =>
        .inl (mem_tasks_of_mem_tasks_finish hi hj)
    · exact hwait
  | stopWaiting i choice =>
    cases hphase : state.phase i <;> simp only [LongPoll.step, hphase] <;>
      try exact hwait
    exact hwait.setPhase fun j hj =>
      .inl (mem_tasks_of_mem_tasks_leave hj)
  | cancel i choice =>
    cases hphase : state.phase i <;> simp only [LongPoll.step, hphase] <;>
      try exact hwait
    · exact hwait.setPhase fun j hj =>
        .inl ⟨hj, hwait.not_mem_of_phase hphase (by simp) hj⟩
    · exact hwait.setPhase fun j hj =>
        .inl (mem_tasks_of_mem_tasks_leave hj)
  | poll i =>
    cases hphase : state.phase i <;> simp only [LongPoll.step, hphase] <;>
      try exact hwait
    exact hwait.setPhase fun j hj =>
      .inl ⟨hj, hwait.not_mem_of_phase hphase (by simp) hj⟩
  | push msg choice =>
    simp only [LongPoll.step]
    split
    · exact hwait
    · intro j hj
      exact hwait j (mem_tasks_notifyOne.mp hj)

/-- A wake-up on its way stays on its way when a poller that is not about to
poll moves on and the notification is handed over. -/
lemma WakePending.setPhase (hwait : state.TasksWait) (hpending : state.WakePending)
    (hafter : TasksWait { state.setPhase i phase with notify := notify })
    (hsignal : state.notify.Signalled → notify.Signalled)
    (hready : ∀ ack, state.phase i ≠ .ready ack) :
    WakePending { state.setPhase i phase with notify := notify } := by
  rw [wakePending_iff hafter]
  rcases (wakePending_iff hwait).mp hpending with hsig | ⟨j, ack, hj⟩
  · exact .inl (hsignal hsig)
  · have hne : j ≠ i := by
      rintro rfl
      exact hready ack hj
    refine .inr ⟨j, ack, ?_⟩
    simp [LongPoll.setPhase, Function.update_of_ne hne, hj]

lemma wakePending_of_ready {ack : Option Nat} :
    WakePending { state.setPhase i (.ready ack) with notify := notify } :=
  .inr ⟨i, ack, .inl (by simp [setPhase])⟩

/-- Only a poll uses a wake-up up. -/
lemma WakePending.step (hwait : state.TasksWait) (hpending : state.WakePending)
    {event : LongPollEvent ι} (hevent : ∀ i, event ≠ .poll i) : (state.step event).WakePending := by
  have hafter := hwait.step event
  cases event with
  | arrive i ack =>
    cases hphase : state.phase i <;>
      simp only [LongPoll.step, hphase] at hafter ⊢ <;>
      try exact hpending
    exact hpending.setPhase hwait hafter id (by simp [hphase])
  | wait i =>
    cases hphase : state.phase i <;>
      simp only [LongPoll.step, hphase] at hafter ⊢ <;>
      try exact hpending
    cases henter : (state.notify.enter i).1 with
    | true => exact wakePending_of_ready
    | false =>
      rw [henter] at hafter
      exact hpending.setPhase hwait hafter (signalled_enter henter) (by simp [hphase])
  | skipWait i =>
    cases hphase : state.phase i <;>
      simp only [LongPoll.step, hphase] at hafter ⊢ <;>
      try exact hpending
    exact wakePending_of_ready
  | resume i =>
    cases hphase : state.phase i <;>
      simp only [LongPoll.step, hphase] at hafter ⊢ <;>
      try exact hpending
    split
    · exact wakePending_of_ready
    · exact hpending
  | stopWaiting i choice =>
    cases hphase : state.phase i <;>
      simp only [LongPoll.step, hphase] at hafter ⊢ <;>
      try exact hpending
    exact wakePending_of_ready
  | cancel i choice =>
    cases hphase : state.phase i <;>
      simp only [LongPoll.step, hphase] at hafter ⊢ <;>
      try exact hpending
    · exact hpending.setPhase hwait hafter id (by simp [hphase])
    · exact hpending.setPhase hwait hafter signalled_leave (by simp [hphase])
  | poll i => exact absurd rfl (hevent i)
  | push msg choice =>
    simp only [LongPoll.step] at hafter ⊢
    split at hafter
    · next hrejected => rwa [if_pos hrejected]
    · next haccepted =>
      rw [if_neg haccepted]
      exact (wakePending_iff hafter).mpr (.inl (signalled_notifyOne _ _))

/-- What one event does to the slot and the records. -/
inductive Effect (state next : LongPoll ι) : LongPollEvent ι → Prop where
  | none {event : LongPollEvent ι} (slot : next.slot = state.slot)
      (accepted : next.accepted = state.accepted) (returned : next.returned = state.returned)
      (pending : state.TasksWait → state.WakePending → next.WakePending) : Effect state next event
  | poll {i : ι} (ack : Option Nat) (ready : state.phase i = .ready ack)
      (slot : next.slot = (state.slot.poll ack).2) (accepted : next.accepted = state.accepted)
      (returned : next.returned = state.returned ++ (state.slot.poll ack).2.messages) : Effect state
      next (.poll i)
  | push {choice : ι} (msg : WeixinMessage) (result : (state.slot.push msg).1 = false)
      (slot : next.slot = (state.slot.push msg).2)
      (accepted : next.accepted = state.accepted ++
        [{ msg with seq := some (asI64 state.slot.nextSeq) }])
      (returned : next.returned = state.returned)
      (signalled : next.notify.Signalled) :
      Effect state next (.push msg choice)

lemma step_poll_of_ready {ack : Option Nat} (hready : state.phase i = .ready ack) :
    (state.step (.poll i)).slot = (state.slot.poll ack).2 ∧
      (state.step (.poll i)).accepted = state.accepted ∧
      (state.step (.poll i)).returned = state.returned ++ (state.slot.poll ack).2.messages := by
  simp [step, hready, setPhase]

lemma effect_step (state : LongPoll ι) (event : LongPollEvent ι) :
    Effect state (state.step event) event := by
  have hpending : (∀ i, event ≠ .poll i) → state.TasksWait →
      state.WakePending → (state.step event).WakePending :=
    fun hevent hwait hpending => hpending.step hwait hevent
  cases event with
  | poll i =>
    cases hphase : state.phase i with
    | ready ack =>
      obtain ⟨hslot, haccepted, hreturned⟩ := step_poll_of_ready hphase
      exact .poll ack hphase hslot haccepted hreturned
    | _ =>
      have hsame : state.step (.poll i) = state := by
        simp [step, hphase]
      rw [hsame]
      exact .none rfl rfl rfl fun _ => id
  | push msg choice =>
    cases hresult : (state.slot.push msg).1 with
    | true =>
      have hsame : state.step (.push msg choice) = state := by
        simp [step, hresult]
      rw [hsame]
      exact .none rfl rfl rfl fun _ => id
    | false =>
      refine .push msg hresult ?_ ?_ ?_ ?_ <;>
        simp only [step, hresult, Bool.false_eq_true, if_false]
      exact signalled_notifyOne _ _
  | resume i =>
    refine .none ?_ ?_ ?_ (hpending (by simp)) <;>
      cases hphase : state.phase i <;>
      by_cases hi : i ∈ state.notify.woken <;>
      simp [step, hphase, hi, setPhase]
  | arrive i _ | wait i | skipWait i | stopWaiting i _ | cancel i _ =>
    refine .none ?_ ?_ ?_ (hpending (by simp)) <;>
      cases hphase : state.phase i <;> simp [step, hphase, setPhase]

lemma NoLostWakeUp.step (hwait : state.TasksWait) (hlost : state.NoLostWakeUp)
    (event : LongPollEvent ι) : (state.step event).NoLostWakeUp := by
  rintro ⟨msg, hmsg, hunseen⟩
  cases effect_step state event with
  | none hslot _ hreturned hpending =>
    rw [hslot] at hmsg
    rw [hreturned] at hunseen
    exact hpending hwait (hlost ⟨msg, hmsg, hunseen⟩)
  | poll ack _ hslot _ hreturned =>
    -- the poll returns everything that is still pending
    rw [hslot] at hmsg
    rw [hreturned, List.mem_append, not_or] at hunseen
    exact absurd hmsg hunseen.2
  | push _ _ _ _ _ hsignalled =>
    exact (wakePending_iff (hwait.step _)).mpr (.inl hsignalled)

end LongPoll

end IlinkHub
