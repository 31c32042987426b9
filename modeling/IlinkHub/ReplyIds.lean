/-
The ids under which replies go upstream (`ilink/types.rs`,
`server/routes/bot.rs`), over whole runs of the Hub: an id that the Hub draws is
unique, an id that a backend brings along is kept as it is.  Which reply a quote
by id is then resolved to (`hub/dispatch/quote.rs`, `store/messages.rs`).
-/
import Mathlib.Algebra.Order.BigOperators.Group.Finset
import IlinkHub.QuoteRouting
import IlinkHub.Stamps

namespace IlinkHub

open HubData Transition Text QuoteOrigin

/-- The milliseconds and the counter below them in an `u64`, read as an `i64`. -/
def newOutboundMsgId (millis counter : Nat) : Int :=
  (BitVec.ofNat 64 (Stamps.stamp 1000000 millis counter)).toInt

/-- A reply of a backend, and the message that goes upstream for it. -/
structure SentReply where
  reply : OwnedReply
  sent : WeixinMessage

namespace SentReply

variable (own : SentReply)

/-- The backend has brought the id along. -/
def Supplied : Prop :=
  own.reply.msg.messageId ≠ none

def origin : String × String :=
  (own.reply.pair.vtoken, own.reply.session)

/-- The row of the history; only a finished text reply has one. -/
def row : Option MessageRow :=
  own.reply.savedRow own.sent

/-- A finished text reply in the conversation, with this id. -/
structure Answers (peerUserId : String) (id : Int) : Prop where
  text : own.row.isSome = true
  peer : own.reply.peerUserId = peerUserId
  id : own.sent.messageId = some id

/-- The row is the one of the reply, up to the time of the save. -/
def Saved (saved : MessageRow) : Prop :=
  own.row = some { saved with createdAt := 0 }
deriving Decidable

end SentReply

/-- The reply that gets its id in the next step. -/
def Running.assigns : Running → Option OwnedReply
  | .send _ (.send (.forward reply)) => some reply
  | _ => none

/-- The reply that the next step hands to the history and to the upstream. -/
def Running.labels (config : HubConfig) (data : HubData) : Running → Option SentReply
  | .send _ (.tail (.label reply msg)) =>
    some ⟨reply, reply.labelled data.registry.toClientRegistry config.outboundOriginLabel msg⟩
  | _ => none

universe u

/-- The Hub with the clock readings at which ids were drawn; the counter stands
at their number.  The other fields are history: the ids of the replies, and the
replies that went upstream. -/
structure IdHub (τ : Type u) where
  hub : HubState τ
  readings : List Nat
  assigned : List (OwnedReply × Int)
  replies : List SentReply

/-- A step of the Hub at some reading of the clock; a message of the Hub itself
takes an id. -/
inductive IdEvent (τ : Type u) where
  | hub (event : HubEvent τ) (millis : Nat)
  | draw (millis : Nat)

variable {τ : Type u}

def HubEvent.withId (id : Int) : HubEvent τ → HubEvent τ
  | .run t env => .run t { env with newOutboundMsgId := id }
  | event => event

/-- The handler that makes a step. -/
def HubState.runs (state : HubState τ) : HubEvent τ → Option Running
  | .run t _ => some (state.tasks t)
  | .cancel _ | .save _ _ _ | .markOffline _ | .sweep _ _ => none

namespace IdHub

variable (config : HubConfig)

def start (hub : HubState τ) : IdHub τ :=
  ⟨hub, [], [], []⟩

/-- An id is drawn for a reply without one. -/
def step [DecidableEq τ] (state : IdHub τ) : IdEvent τ → IdHub τ
  | .hub event millis =>
    let id := newOutboundMsgId millis state.readings.length
    let running := state.hub.runs event
    let assigns := running.bind Running.assigns
    { hub := state.hub.step config (event.withId id)
      readings := state.readings ++
        if assigns.any fun reply => reply.msg.messageId.isNone then [millis] else []
      assigned := state.assigned ++ (assigns.map fun reply =>
        (reply, reply.msg.messageId.getD id)).toList
      replies := state.replies ++ (running.bind (Running.labels config state.hub.data)).toList }
  | .draw millis => { state with readings := state.readings ++ [millis] }

end IdHub

section Ids

/-- The ids of all draws. -/
def outboundMsgIds (readings : List Nat) : List Int :=
  (Stamps.stamps 1000000 0 readings).map fun number =>
    (BitVec.ofNat 64 number).toInt

/-- The clock never goes back, no millisecond has more than a million draws, and
the sum that makes an id does not overflow. -/
structure ClockedIds (readings : List Nat) : Prop where
  steady : Stamps.Steady 1000000 readings
  range : ∀ millis ∈ readings, (millis + 1) * 1000000 ≤ 2 ^ 64

lemma outboundMsgIds_concat (readings : List Nat) (millis : Nat) :
    outboundMsgIds (readings ++ [millis]) = outboundMsgIds readings ++
        [newOutboundMsgId millis readings.length] := by
  rw [outboundMsgIds, Stamps.stamps_concat, zero_add, List.map_append]
  rfl

variable {readings : List Nat}

lemma nodup_outboundMsgIds (hclocked : ClockedIds readings) : (outboundMsgIds readings).Nodup := by
  apply List.Nodup.map_on _ (Stamps.nodup_stamps (by decide) hclocked.steady 0)
  have hfits : ∀ number ∈ Stamps.stamps 1000000 0 readings, number < 2 ^ 64 := by
    intro number hnumber
    obtain ⟨n, millis, hmillis, rfl⟩ := Stamps.mem_stamps_iff.mp hnumber
    have hrange := hclocked.range millis (List.mem_of_getElem? hmillis)
    unfold Stamps.stamp
    omega
  intro number hnumber other hother heq
  have hbits := congrArg BitVec.toNat (BitVec.toInt_inj.mp heq)
  rw [BitVec.toNat_ofNat, BitVec.toNat_ofNat, Nat.mod_eq_of_lt (hfits number hnumber),
    Nat.mod_eq_of_lt (hfits other hother)] at hbits
  exact hbits

/-- The ids of calls one after the other; the counter is an `u64` that wraps. -/
def drawOutboundMsgIds : BitVec 64 → List Nat → List Int
  | _, [] => []
  | counter, millis :: later =>
    newOutboundMsgId millis counter.toNat :: drawOutboundMsgIds (counter + 1) later

/-- Readings below a bound, each of them few times, are few. -/
lemma length_le_of_few {bound most : Nat} (hrange : ∀ millis ∈ readings, millis < bound)
    (hfew : ∀ millis, readings.count millis ≤ most) : readings.length ≤ bound * most := by
  have hsub := fun millis hmem =>
    Finset.mem_range.mpr (hrange millis (List.mem_toFinset.mp hmem))
  calc readings.length = ∑ millis ∈ readings.toFinset, readings.count millis :=
        (List.sum_toFinset_count_eq_length readings).symm
    _ ≤ readings.toFinset.card * most :=
        Finset.sum_le_card_nsmul _ _ _ fun millis _ => hfew millis
    _ ≤ bound * most := by
        have hcard := Finset.card_le_card hsub
        rw [Finset.card_range] at hcard
        exact Nat.mul_le_mul_right most hcard

lemma newOutboundMsgId_eq {millis : Nat} (hmillis : millis < 9000000000000) (counter : Nat) :
    newOutboundMsgId millis counter = Stamps.stamp 1000000 millis counter := by
  have hfits : Stamps.stamp 1000000 millis counter < 2 ^ 63 := by
    unfold Stamps.stamp
    omega
  rw [newOutboundMsgId, BitVec.toInt_eq_toNat_of_lt] <;>
    rw [BitVec.toNat_ofNat, Nat.mod_eq_of_lt (by omega)]
  omega

lemma drawOutboundMsgIds_eq {counter : Nat} (hrange : ∀ millis ∈ readings, millis < 9000000000000)
    (hroom : counter + readings.length ≤ 2 ^ 64) :
    drawOutboundMsgIds (.ofNat 64 counter) readings =
      (Stamps.stamps 1000000 counter readings).map Int.ofNat := by
  induction readings generalizing counter with
  | nil => rfl
  | cons millis later ih =>
    obtain ⟨hmillis, hlater⟩ := List.forall_mem_cons.mp hrange
    rw [List.length_cons] at hroom
    have hnext : .ofNat 64 counter + 1 = BitVec.ofNat 64 (counter + 1) :=
      (BitVec.ofNat_add ..).symm
    rw [drawOutboundMsgIds, Stamps.stamps, hnext, ih hlater (by omega),
      BitVec.toNat_ofNat, Nat.mod_eq_of_lt (by omega), newOutboundMsgId_eq hmillis]
    rfl

/-- Below 9 · 10¹² milliseconds, with fewer than a million draws at each of them,
all ids are different, and each is what the sum is without bounds: neither the
sum nor the counter overflows. -/
theorem drawOutboundMsgIds_unique {readings : List Nat} (hordered : readings.Pairwise (· ≤ ·))
    (hrange : ∀ millis ∈ readings, millis < 9000000000000)
    (hfew : ∀ millis, readings.count millis < 1000000) :
    (drawOutboundMsgIds 0#64 readings).Nodup ∧ (∀ id ∈ drawOutboundMsgIds 0#64 readings, 0 ≤ id) ∧
      readings.length < 2 ^ 64 ∧ drawOutboundMsgIds 0#64 readings =
        (Stamps.stamps 1000000 0 readings).map Int.ofNat := by
  have hlength := length_le_of_few hrange fun millis => Nat.le_of_lt_succ (hfew millis)
  have hexact := @drawOutboundMsgIds_eq readings 0 hrange (by omega)
  refine ⟨?_, ?_, by omega, hexact⟩
  · rw [hexact]
    have hsteady : Stamps.Steady 1000000 readings := ⟨hordered, fun millis => (hfew millis).le⟩
    exact (Stamps.nodup_stamps (by decide) hsteady 0).map fun _ _ => Int.ofNat.inj
  · rw [hexact]
    intro id hid
    obtain ⟨number, -, rfl⟩ := List.mem_map.mp hid
    exact Int.natCast_nonneg number

theorem drawOutboundMsgIds_unique_thrice :
    (∀ millis, [5, 5, 7].count millis < 1000000) ∧ (drawOutboundMsgIds 0#64 [5, 5, 7]).Nodup := by
  have hfew : ∀ millis, [5, 5, 7].count millis < 1000000 := fun millis =>
    List.count_le_length.trans_lt (by decide)
  exact ⟨hfew, (drawOutboundMsgIds_unique (by decide) (by decide) hfew).1⟩

end Ids

/-- The rows of the history, and the ones on their way to it. -/
def HubData.history (data : HubData) : List MessageRow × List MessageRow :=
  (data.messages, data.saves)

section OtherHandlers

variable {config : HubConfig} {data : HubData} {env : HubEnv} {write : HubData → Option HubData}
  {after : HubData}

lemma HubData.history_upsertClient {vtoken name : String}
    (hafter : data.upsertClient vtoken name = some after) : after.history = data.history := by
  unfold upsertClient at hafter
  split at hafter
  · rw [← Option.some.inj hafter]
    rfl
  · cases hafter

lemma HubData.history_updateClientByVtoken {vtoken name : String}
    (hafter : data.updateClientByVtoken vtoken name = some after) :
    after.history = data.history := by
  unfold updateClientByVtoken at hafter
  repeat' split at hafter
  all_goals cases hafter
  all_goals rfl

lemma HubData.history_of_written {ok : Bool}
    (hwrite : ∀ after, write data = some after → after.history = data.history)
    (hafter : data.written ok write = some after) : after.history = data.history := by
  unfold written at hafter
  split at hafter
  · exact hwrite after hafter
  · cases hafter

lemma HubData.history_written {ok : Bool}
    (hwrite : ∀ after, write data = some after → after.history = data.history) :
    ((data.written ok write).getD data).history = data.history := by
  cases hafter : data.written ok write with
  | none => rfl
  | some after => exact history_of_written hwrite hafter

lemma AdminOp.history_step (admin : AdminOp) (phase : AdminPhase) :
    (admin.step data env phase).1.history = data.history := by
  cases phase with
  | start =>
    cases admin <;> simp only [step, begin] <;> repeat' split
    all_goals rfl
  | upsert hashed =>
    exact history_written fun _ => history_upsertClient
  | updateRow vtoken name =>
    exact history_written fun _ =>
      history_updateClientByVtoken
  | revoke rotation stage =>
    cases stage with
    | upsert =>
      simp only [step, revokeNext]
      split
      · next after hafter =>
        exact history_of_written (fun _ =>
          history_upsertClient) hafter
      · rfl
    | revokeRows =>
      simp only [step, revokeNext]
      split <;> rfl
    | _ => rfl
  | unregister vtoken newDefault stage =>
    cases stage <;> simp only [step, unregisterNext] <;> repeat' split
    all_goals rfl
  | persistDefault hashed =>
    simp only [step]
    split <;> rfl
  | remove vtoken =>
    simp only [step]
    split <;> rfl
  | _ => rfl

/-- A handler adds the row of the reply that it labels, and no other. -/
lemma Running.history_dataAfter (task : Running) :
    (task.dataAfter config data env).history = (data.messages, data.saves ++
        ((task.labels config data).bind SentReply.row).toList) := by
  have hnone : task.labels config data = none →
      (task.dataAfter config data env).history = data.history →
        (task.dataAfter config data env).history = (data.messages, data.saves ++
            ((task.labels config data).bind SentReply.row).toList) := by
    intro hlabels hsame
    rw [hlabels, hsame, Option.bind_none, Option.toList_none, List.append_nil]
    rfl
  cases task with
  | dispatch dispatch phase =>
    exact hnone rfl (congrArg Prod.snd (beside_dispatch dispatch phase))
  | getUpdates updates phase =>
    refine hnone rfl ?_
    cases phase <;> rfl
  | send send phase =>
    cases phase with
    | send phase => exact hnone rfl rfl
    | tail phase =>
      cases phase with
      | label reply msg => rfl
      | _ => exact hnone rfl rfl
  | call call phase => exact hnone rfl rfl
  | admin admin phase => exact hnone rfl (admin.history_step phase)
  | cancelled => exact hnone rfl rfl

end OtherHandlers

section Replies

variable {config : HubConfig} {data : HubData} {env : HubEnv}

lemma OwnedReply.messageId_labelled (reply : OwnedReply) (registry : ClientRegistry)
    (outboundOriginLabel : Option String) (msg : WeixinMessage) :
    (reply.labelled registry outboundOriginLabel msg).messageId = msg.messageId := by
  unfold labelled applyPersonaAndFooterToFirstTextItem
  repeat' split
  all_goals rfl

lemma SentReply.saved_of_row {own : SentReply} {row : MessageRow}
    (hrow : own.row = some row) : own.Saved row := by
  have htime : row.createdAt = 0 := by
    unfold SentReply.row OwnedReply.savedRow at hrow
    split at hrow
    · cases hrow
    · obtain ⟨content, -, rfl⟩ := Option.map_eq_some_iff.mp hrow
      rfl
  rw [Saved, hrow, ← htime]

/-- A reply waits for its label right after it has got its id. -/
lemma Running.assigns_of_next_label {task : Running} {send : SendMessage}
    {reply : OwnedReply} {msg : WeixinMessage}
    (hnext : task.next config data env = .send send (.tail (.label reply msg))) :
    task.assigns = some reply ∧
      msg.messageId = some (reply.msg.messageId.getD env.newOutboundMsgId) := by
  cases task with
  | send own phase =>
    obtain ⟨-, hphase⟩ := Running.send.inj hnext
    cases phase with
    | send phase =>
      cases phase with
      | forward reply =>
        simp only [SendMessage.replyNext, OwnedReply.afterPersist] at hphase
        split at hphase
        · cases hphase
        · cases hphase
          refine ⟨rfl, ?_⟩
          simp only [OwnedReply.outbound]
          cases reply.msg.messageId <;> rfl
      | _ => cases hphase
    | tail phase => cases phase <;> cases hphase
  | _ => cases hnext

lemma Running.of_labels {task : Running} {own : SentReply}
    (hlabels : task.labels config data = some own) :
    ∃ send msg, task = .send send (.tail (.label own.reply msg)) ∧
      own.sent.messageId = msg.messageId := by
  unfold labels at hlabels
  split at hlabels
  · next send reply msg =>
    cases hlabels
    exact ⟨send, msg, rfl, reply.messageId_labelled _ _ _⟩
  · cases hlabels

end Replies

/-- The id in the step is the one that is drawn for it. -/
lemma HubEvent.run_of_withId {event : HubEvent τ} {id : Int} {t : τ} {env : HubEnv}
    (hevent : event.withId id = .run t env) :
    (∃ own, event = .run t own) ∧ env.newOutboundMsgId = id := by
  cases event with
  | run s own =>
    obtain ⟨rfl, rfl⟩ := run.inj hevent
    exact ⟨⟨own, rfl⟩, rfl⟩
  | _ => cases hevent

lemma HubState.task_of_runs {state : HubState τ} {event : HubEvent τ} {task : Running}
    (hruns : state.runs event = some task) : ∃ t, task = state.tasks t := by
  cases event with
  | run t env => exact ⟨t, (Option.some.inj hruns).symm⟩
  | _ => cases hruns

lemma HubState.runs_withId (state : HubState τ) (event : HubEvent τ) (id : Int) :
    state.runs (event.withId id) = state.runs event := by
  cases event <;> rfl

namespace HubState

variable {config : HubConfig} [DecidableEq τ] {state : HubState τ}

/-- A row of the history, or on its way there, was there before, up to its time,
or belongs to the reply that the step labels. -/
lemma row_of_step {event : HubEvent τ} {saved : MessageRow}
    (hsaved : saved ∈ (state.step config event).data.saves ∨
      saved ∈ (state.step config event).data.messages) :
    (∃ old, (old ∈ state.data.saves ∨ old ∈ state.data.messages) ∧
        { saved with createdAt := 0 } = { old with createdAt := 0 }) ∨
      ∃ own, (state.runs event).bind (Running.labels config state.data) =
        some own ∧ own.Saved saved := by
  cases event with
  | run t env =>
    have hmessages : (state.step config (.run t env)).data.messages = state.data.messages :=
      congrArg Prod.fst (state.tasks t).history_dataAfter
    have hsaves : (state.step config (.run t env)).data.saves =
        state.data.saves ++ (((state.tasks t).labels config
          state.data).bind SentReply.row).toList :=
      congrArg Prod.snd (state.tasks t).history_dataAfter
    rw [hmessages, hsaves, List.mem_append] at hsaved
    rcases hsaved with (hold | hnew) | hold
    · exact .inl ⟨saved, .inl hold, rfl⟩
    · obtain ⟨own, hown, hrow⟩ :=
        Option.bind_eq_some_iff.mp (Option.mem_toList.mp hnew)
      exact .inr ⟨own, hown, SentReply.saved_of_row hrow⟩
    · exact .inl ⟨saved, .inr hold, rfl⟩
  | save index ok now =>
    left
    simp only [step, saveMessage] at hsaved
    split at hsaved
    · next row hrow =>
      rcases hsaved with hsaved | hsaved
      · exact ⟨saved, .inl (List.mem_of_mem_eraseIdx hsaved), rfl⟩
      · split at hsaved
        · rcases List.mem_cons.mp hsaved with rfl | hold
          · exact ⟨row, .inl (List.mem_of_getElem? hrow), rfl⟩
          · exact ⟨saved, .inr hold, rfl⟩
        · exact ⟨saved, .inr hsaved, rfl⟩
    · exact ⟨saved, hsaved, rfl⟩
  | sweep oldMessage oldGrant =>
    left
    refine ⟨saved, hsaved.imp_right ?_, rfl⟩
    exact List.mem_of_mem_filter
  | _ => exact .inl ⟨saved, hsaved, rfl⟩

end HubState

namespace IdHub

variable {config : HubConfig}

/-- The ids that the Hub has drawn for replies. -/
def drawnIds (assigned : List (OwnedReply × Int)) : List Int :=
  (assigned.filter fun entry => entry.1.msg.messageId.isNone).map Prod.snd

/-- Where ids and rows come from: a reply that waits for its label or has gone
upstream has got its id in an earlier step, a row belongs to a reply that has
gone upstream, and the drawn ids are those of the draws, in their order. -/
structure Traced (state : IdHub τ) : Prop where
  waiting : ∀ {t send reply msg},
    state.hub.tasks t = .send send (.tail (.label reply msg)) →
      ∃ id, (reply, id) ∈ state.assigned ∧ msg.messageId = some id
  replies : ∀ {own}, own ∈ state.replies →
    ∃ id, (own.reply, id) ∈ state.assigned ∧ own.sent.messageId = some id
  rows : ∀ {saved}, saved ∈ state.hub.data.saves ∨ saved ∈ state.hub.data.messages →
    ∃ own ∈ state.replies, own.Saved saved
  drawn : List.Sublist (drawnIds state.assigned) (outboundMsgIds state.readings)

lemma traced_start {tasks : τ → Task} {data : HubData} {removed : List String}
    (hmessages : data.messages = []) (hsaves : data.saves = []) :
    (start (.start tasks data removed)).Traced where
  waiting := by
    intro t send reply msg htask
    have hstart : (tasks t).start = .send send (.tail (.label reply msg)) := htask
    cases hown : tasks t <;> rw [hown] at hstart <;> cases hstart
  replies := by
    intro own hown
    cases hown
  rows := by
    intro saved hsaved
    simp [start, HubState.start, hmessages, hsaves] at hsaved
  drawn := List.Sublist.refl _

section Step

variable [DecidableEq τ] {state : IdHub τ}

lemma traced_draw (htraced : state.Traced) (millis : Nat) :
    (state.step config (.draw millis)).Traced where
  waiting := htraced.waiting
  replies := htraced.replies
  rows := htraced.rows
  drawn := by
    simp only [step, outboundMsgIds_concat]
    exact htraced.drawn.trans (List.sublist_append_left _ _)

lemma waiting_step (htraced : state.Traced) {event : HubEvent τ}
    {millis : Nat} {t : τ} {send : SendMessage} {reply : OwnedReply} {msg : WeixinMessage}
    (htask : (state.step config (.hub event millis)).hub.tasks t =
      .send send (.tail (.label reply msg))) :
    ∃ id, (reply, id) ∈ (state.step config (.hub event millis)).assigned ∧
      msg.messageId = some id := by
  rcases state.hub.task_step (event.withId (newOutboundMsgId millis state.readings.length)) t with
    ⟨env, hevent⟩ | hcancelled | ⟨hsame, -⟩
  · obtain ⟨⟨own, rfl⟩, hid⟩ := HubEvent.run_of_withId hevent
    simp only [step, hevent] at htask
    rw [HubState.tasks_step_run] at htask
    obtain ⟨hassigns, hmsg⟩ := Running.assigns_of_next_label htask
    refine ⟨_, List.mem_append_right _ ?_, hmsg⟩
    simp [HubState.runs, hassigns, hid]
  · simp [show (state.step config (.hub event millis)).hub.tasks t = .cancelled
      from hcancelled] at htask
  · obtain ⟨id, hid, hmsg⟩ := htraced.waiting (hsame.symm.trans htask)
    exact ⟨id, List.mem_append_left _ hid, hmsg⟩

lemma drawnIds_append (assigned new : List (OwnedReply × Int)) :
    drawnIds (assigned ++ new) = drawnIds assigned ++ drawnIds new := by
  rw [drawnIds, List.filter_append, List.map_append]
  rfl

lemma drawnIds_singleton (reply : OwnedReply) (id : Int) :
    drawnIds [(reply, id)] = if reply.msg.messageId.isNone then [id] else [] := by
  unfold drawnIds
  cases hid : reply.msg.messageId <;> simp [hid]

/-- A reply without an id takes the number that is drawn next. -/
lemma drawn_assign {assigned : List (OwnedReply × Int)}
    {readings : List Nat} {millis : Nat} {id : Int}
    (hdrawn : List.Sublist (drawnIds assigned) (outboundMsgIds readings))
    (hid : outboundMsgIds (readings ++ [millis]) =
      outboundMsgIds readings ++ [id]) (reply : OwnedReply) :
    List.Sublist (drawnIds (assigned ++ [(reply, reply.msg.messageId.getD id)]))
      (outboundMsgIds (readings ++
        if reply.msg.messageId.isNone then [millis] else [])) := by
  rw [drawnIds_append, drawnIds_singleton]
  cases reply.msg.messageId with
  | some own => simpa using hdrawn
  | none =>
    simp only [Option.isNone_none, if_true, hid]
    exact hdrawn.append (List.Sublist.refl _)

lemma drawn_step (htraced : state.Traced) (event : HubEvent τ) (millis : Nat) :
    List.Sublist (drawnIds (state.step config (.hub event millis)).assigned)
      (outboundMsgIds (state.step config (.hub event millis)).readings) := by
  simp only [step]
  cases (state.hub.runs event).bind Running.assigns with
  | none => simpa using htraced.drawn
  | some reply =>
    exact drawn_assign htraced.drawn (outboundMsgIds_concat _ _) reply

lemma traced_hub (htraced : state.Traced) (event : HubEvent τ)
    (millis : Nat) : (state.step config (.hub event millis)).Traced where
  waiting := waiting_step htraced
  replies := by
    intro own hown
    rcases List.mem_append.mp hown with hold | hnew
    · obtain ⟨id, hid, hsent⟩ := htraced.replies hold
      exact ⟨id, List.mem_append_left _ hid, hsent⟩
    · obtain ⟨task, htask, hlabels⟩ :=
        Option.bind_eq_some_iff.mp (Option.mem_toList.mp hnew)
      obtain ⟨t, rfl⟩ := HubState.task_of_runs htask
      obtain ⟨send, msg, hlabel, hsent⟩ := Running.of_labels hlabels
      obtain ⟨id, hid, hmsg⟩ := htraced.waiting hlabel
      exact ⟨id, List.mem_append_left _ hid, hsent.trans hmsg⟩
  rows := by
    intro saved hsaved
    rcases HubState.row_of_step hsaved with ⟨old, hold, hsame⟩ | hnew
    · obtain ⟨own, hown, hrow⟩ := htraced.rows hold
      refine ⟨own, List.mem_append_left _ hown, ?_⟩
      rw [SentReply.Saved, hsame]
      exact hrow
    · obtain ⟨own, hown, hrow⟩ := hnew
      rw [HubState.runs_withId] at hown
      exact ⟨own, List.mem_append_right _ (Option.mem_toList.mpr hown), hrow⟩
  drawn := drawn_step htraced event millis

lemma traced_run (htraced : state.Traced) (events : List (IdEvent τ)) :
    (run (step config) state events).Traced := by
  apply run_invariant _ htraced
  intro state event htraced
  cases event with
  | hub event millis => exact traced_hub htraced event millis
  | draw millis => exact traced_draw htraced millis

end Step

/-- Every finished text reply has its row in the history. -/
def AllSaved (state : IdHub τ) : Prop :=
  ∀ own ∈ state.replies, own.row.isSome = true → ∃ saved ∈ state.hub.data.messages, own.Saved saved
deriving Decidable

/-- A message that quotes this id from this conversation is resolved to every
reply that has the id there, whichever row the database picks. -/
def ResolvesExactly (state : IdHub τ) (dispatch : Dispatch)
    (peerUserId : String) (id : Int) : Prop :=
  ∀ own ∈ state.replies, own.Answers peerUserId id → ∀ env : HubEnv, env.ok = true →
      dispatch.resolveQuoteFromMsgId state.hub.data env =
        some (.ofVtoken state.hub.data.registry.toClientRegistry
          own.reply.pair.vtoken (some own.reply.session))

/-- No backend has brought along the id of a reply from elsewhere. -/
def SuppliedApart (state : IdHub τ) (peerUserId : String) (id : Int) : Prop :=
  ∀ own ∈ state.replies, ∀ other ∈ state.replies,
    own.Answers peerUserId id → other.Answers peerUserId id →
      own.Supplied → own.origin = other.origin

section Quotes

variable {state : IdHub τ} {dispatch : Dispatch} {peerUserId : String} {id : Int}

/-- Two replies with one drawn id are one reply. -/
lemma reply_eq_of_drawn (htraced : state.Traced) (hclocked : ClockedIds state.readings)
    {own other : SentReply} (hown : own ∈ state.replies) (hother : other ∈ state.replies)
    (hid : own.sent.messageId = other.sent.messageId) (hdrawn : ¬ own.Supplied)
    (hotherDrawn : ¬ other.Supplied) : own.reply = other.reply := by
  have hnodup := htraced.drawn.nodup (nodup_outboundMsgIds hclocked)
  obtain ⟨number, hmem, hnumber⟩ := htraced.replies hown
  obtain ⟨otherNumber, hotherMem, hotherNumber⟩ := htraced.replies hother
  have hsame := Option.some.inj (hnumber.symm.trans (hid.trans hotherNumber))
  have hmems : (own.reply, number) ∈ state.assigned.filter
      fun entry => entry.1.msg.messageId.isNone :=
    List.mem_filter.mpr ⟨hmem, Option.isNone_iff_eq_none.mpr (not_not.mp hdrawn)⟩
  have hotherMems : (other.reply, otherNumber) ∈ state.assigned.filter
      fun entry => entry.1.msg.messageId.isNone :=
    List.mem_filter.mpr ⟨hotherMem, Option.isNone_iff_eq_none.mpr (not_not.mp hotherDrawn)⟩
  exact congrArg Prod.fst (List.inj_on_of_nodup_map hnodup hmems hotherMems hsame)

lemma of_saved {own : SentReply} {saved : MessageRow} (hsaved : own.Saved saved) :
    saved.peerUserId = own.reply.peerUserId ∧
      saved.ilinkMsgId = own.sent.messageId ∧ saved.origin = own.origin := by
  unfold SentReply.Saved SentReply.row OwnedReply.savedRow at hsaved
  split at hsaved
  · cases hsaved
  · obtain ⟨content, -, hrow⟩ := Option.map_eq_some_iff.mp hsaved
    have horigin : ({ saved with createdAt := 0 }).origin =
        own.origin := by
      rw [← hrow]
      rfl
    have hpeer := congrArg MessageRow.peerUserId hrow
    have hid := congrArg MessageRow.ilinkMsgId hrow
    exact ⟨hpeer.symm, hid.symm, horigin⟩

lemma resolveQuoteFromMsgId_eq {data : HubData} {env : HubEnv} (hok : env.ok = true)
    (hquote : (collectQuotedMsgId dispatch.refs).bind (fun raw =>
      parseSigned 64 (trim raw)) = some id)
    (hscope : derivePeerScope dispatch.msg = some peerUserId) :
    dispatch.resolveQuoteFromMsgId data env = ofHistory data.registry.toClientRegistry
        (findAssistantMessageByMsgId data.messages peerUserId env.tie id) := by
  simp [Dispatch.resolveQuoteFromMsgId, Dispatch.findByMsgId, hquote, Dispatch.inScope, hscope, hok]

/-- The lookup answers with a reply that has the id in the conversation. -/
lemma find_of_answers (htraced : state.Traced) (hsaved : state.AllSaved)
    {own : SentReply} (hown : own ∈ state.replies)
    (hanswers : own.Answers peerUserId id) (tie : Nat) :
    ∃ other ∈ state.replies, other.Answers peerUserId id ∧
      findAssistantMessageByMsgId state.hub.data.messages peerUserId tie id =
        some other.origin := by
  obtain ⟨saved, hmem, hrow⟩ := hsaved own hown hanswers.text
  obtain ⟨hpeer, hid, -⟩ := of_saved hrow
  have hmatch : saved ∈ state.hub.data.messages.filter fun row =>
      row.peerUserId = peerUserId ∧ row.ilinkMsgId = some id :=
    List.mem_filter.mpr ⟨hmem, decide_eq_true ⟨hpeer.trans hanswers.peer, hid.trans hanswers.id⟩⟩
  obtain ⟨found, hfound⟩ := Option.isSome_iff_exists.mp (Query.limitOne_unordered_isSome tie hmatch)
  obtain ⟨hfoundMem, hwhere⟩ :=
    List.mem_filter.mp (Query.of_limitOne hfound).1
  obtain ⟨hfoundPeer, hfoundId⟩ := of_decide_eq_true hwhere
  obtain ⟨other, hother, hotherRow⟩ := htraced.rows (.inr hfoundMem)
  obtain ⟨hotherPeer, hotherId, horigin⟩ := of_saved hotherRow
  refine ⟨other, hother, ⟨?_, ?_, ?_⟩, ?_⟩
  · rw [show other.row = _ from hotherRow]
    rfl
  · exact hotherPeer.symm.trans hfoundPeer
  · exact hotherId.symm.trans hfoundId
  · rw [findAssistantMessageByMsgId, hfound, ← horigin]
    rfl

/-- A quote by id finds every reply with this id exactly if no two of them from
different sessions share an id that a backend has brought along. -/
lemma resolvesExactly_iff (htraced : state.Traced)
    (hclocked : ClockedIds state.readings) (hsaved : state.AllSaved)
    (hhashed : ∀ own ∈ state.replies, own.reply.pair.vtoken ≠ "")
    (hquote : (collectQuotedMsgId dispatch.refs).bind (fun raw =>
      parseSigned 64 (trim raw)) = some id)
    (hscope : derivePeerScope dispatch.msg = some peerUserId) :
    state.ResolvesExactly dispatch peerUserId id ↔
      state.SuppliedApart peerUserId id := by
  constructor
  · intro hexact own hown other hother hanswers hotherAnswers _
    have hfirst := hexact own hown hanswers {} rfl
    have hsecond := hexact other hother hotherAnswers {} rfl
    obtain ⟨hvtoken, hsession⟩ := ofVtoken_inj (Option.some.inj (hfirst.symm.trans hsecond))
    exact Prod.ext hvtoken (Option.some.inj hsession)
  · intro hapart own hown hanswers env hok
    obtain ⟨other, hother, hotherAnswers, hfind⟩ :=
      find_of_answers htraced hsaved hown hanswers env.tie
    have horigin : other.origin = own.origin := by
      by_cases hsupplied : own.Supplied
      · exact (hapart own hown other hother hanswers hotherAnswers hsupplied).symm
      · by_cases hotherSupplied : other.Supplied
        · exact hapart other hother own hown hotherAnswers hanswers hotherSupplied
        · have hreply := reply_eq_of_drawn htraced hclocked hown hother
            (hanswers.id.trans hotherAnswers.id.symm) hsupplied hotherSupplied
          rw [SentReply.origin, SentReply.origin, hreply]
    rw [resolveQuoteFromMsgId_eq hok hquote hscope, hfind, horigin,
      ofHistory, Option.filter_some_pos]
    · rfl
    · exact decide_eq_true (hhashed own hown)

end Quotes

section Runs

variable [DecidableEq τ] {config : HubConfig} {tasks : τ → Task}
  {data : HubData} {removed : List String} {events : List (IdEvent τ)}
  {dispatch : Dispatch} {peerUserId : String} {id : Int}

/-- The same after every run of the Hub that starts without a history.  The
tokens are hashes, which are never empty. -/
theorem resolvesExactly_run_iff (hmessages : data.messages = []) (hsaves : data.saves = [])
    (hclocked : ClockedIds (run (step config) (start (.start tasks data removed)) events).readings)
    (hsaved : (run (step config) (start (.start tasks data removed)) events).AllSaved)
    (hhashed : ∀ own ∈ (run (step config)
      (start (.start tasks data removed)) events).replies, own.reply.pair.vtoken ≠ "")
    (hquote : (collectQuotedMsgId dispatch.refs).bind (fun raw =>
      parseSigned 64 (trim raw)) = some id)
    (hscope : derivePeerScope dispatch.msg = some peerUserId) :
    (run (step config) (start (.start tasks data removed))
        events).ResolvesExactly dispatch peerUserId id ↔
      (run (step config) (start (.start tasks data removed)) events).SuppliedApart peerUserId id :=
  resolvesExactly_iff (traced_run (traced_start hmessages hsaves) events)
    hclocked hsaved hhashed hquote hscope

end Runs

end IdHub

namespace Sample

/-- A client is registered, gets a message and answers it twice. -/
inductive TwiceTask where
  | register
  | message
  | first
  | second
deriving DecidableEq

/-- The backend names the session of its answer, and perhaps the id. -/
def sessionAnswer (id : Option Int) (sessionName : String) : SendMessage :=
  ⟨some "h1", ⟨some { (inbound "" "done").msg with
    messageId := id
    contextToken := some "vctx_1"
    ilinkHubExt := some { sessionName := some sessionName } }⟩⟩

def twiceTasks (id : Option Int) : TwiceTask → Task
  | .register => .admin (.register "bot" none none)
  | .message => .dispatch { inbound := inbound "u" "hi" }
  | .first => .send (sessionAnswer id "a")
  | .second => .send (sessionAnswer id "b")

def twiceRun (t : TwiceTask) (n : Nat) (env : HubEnv) : List (IdEvent TwiceTask) :=
  List.replicate n (.hub (.run t env) 1700000000000)

def twiceEvents : List (IdEvent TwiceTask) :=
  twiceRun .register 4 { drawn := "h1" } ++ twiceRun .message 10 { now := 1 } ++
    twiceRun .first 6 { now := 2 } ++ twiceRun .second 6 { now := 2 } ++
    List.replicate 2 (.hub (.save 0 true 3) 1700000000000)

def answeredTwice (id : Option Int) : IdHub TwiceTask :=
  run (IdHub.step noAcl) (.start (.start (twiceTasks id) freshHub [])) twiceEvents

/-- A message that quotes the id. -/
def quotingId (id : String) : Dispatch :=
  { inbound := inbound "u" "more", refs := [{ msgId := some id }] }

end Sample

namespace IdHub

open Sample

theorem resolvesExactly_answered : (answeredTwice none).readings = [1700000000000, 1700000000000] ∧
      ((answeredTwice none).ResolvesExactly (quotingId "1700000000000000001")
          "peer:u" 1700000000000000001 ↔
        (answeredTwice none).SuppliedApart "peer:u" 1700000000000000001) := by
  have hreadings : (answeredTwice none).readings =
      [1700000000000, 1700000000000] := by decide +kernel
  refine ⟨hreadings, ?_⟩
  have hclocked : ClockedIds (answeredTwice none).readings := by
    rw [hreadings]
    refine ⟨⟨by decide, fun time => ?_⟩, by decide⟩
    exact List.count_le_length.trans (by decide)
  exact resolvesExactly_run_iff rfl rfl hclocked (by decide +kernel)
    (by decide +kernel) (by decide +kernel) (by decide +kernel)

/-- Two answers of one client in different sessions, with one id that the client
has brought along: a quote of the first one goes to the session of the second. -/
theorem supplied_id_misroutes :
    (answeredTwice (some 7)).readings = [] ∧ (answeredTwice (some 7)).AllSaved ∧
      ((answeredTwice (some 7)).replies.map fun own =>
        (own.origin, own.reply.peerUserId, own.sent.messageId)) =
          [(("h1", "a"), "peer:u", some 7), (("h1", "b"), "peer:u", some 7)] ∧
      (quotingId "7").resolveQuoteFromMsgId (answeredTwice (some 7)).hub.data {} =
        some (.client "h1" "bot" none (some "b")) :=
  ⟨by decide +kernel, by decide +kernel, by decide +kernel, by decide +kernel⟩

end IdHub

end IlinkHub
