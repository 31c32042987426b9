/-
The requests of a backend beside the registry: `getupdates`, the whole
`sendmessage` with the spawned save of the reply (`server/routes/bot.rs`), and
`call_agent`.  Which tokens they hold, and where they take them from.
-/
import IlinkHub.HubData
import IlinkHub.ReplyHub

namespace IlinkHub

open HubData KeyedRegistry

/-- One `getupdates`, with the hashed token of its `Authorization` header. -/
structure GetUpdates where
  vtoken : Option String
  req : GetUpdatesRequest
deriving Repr, DecidableEq

inductive UpdatesPhase where
  | enter
  | seen (vtoken : String) (alreadyOnline : Bool)
  | markOnline (vtoken : String)
  | wait (vtoken : String)
  | poll (vtoken : String)
  | finished
deriving Repr, DecidableEq

namespace GetUpdates

variable (updates : GetUpdates)

/-- The caps on long polls come before the registry. -/
def next (data : HubData) (env : HubEnv) : UpdatesPhase → UpdatesPhase
  | .enter =>
    match updates.vtoken with
    | none => .finished
    | some vtoken =>
      if env.admitted then
        match data.registry.getByVtoken vtoken with
        | none => .finished
        | some info => .seen vtoken info.online
      else .finished
  | .seen vtoken alreadyOnline =>
    if alreadyOnline then .wait vtoken else .markOnline vtoken
  | .markOnline vtoken => .wait vtoken
  | .wait vtoken => .poll vtoken
  | .poll _ | .finished => .finished

def dataAfter (data : HubData) (env : HubEnv) : UpdatesPhase → HubData
  | .seen vtoken _ =>
    { data with lastSeen := data.lastSeen.insert vtoken env.now }
  | .markOnline vtoken =>
    { data with registry := data.registry.markOnline vtoken }
  | .wait vtoken => data.withQueue (data.world.queue.waitNotify vtoken)
  | .poll vtoken =>
    data.withQueue (data.world.queue.poll vtoken updates.req.ackWatermark).2
  | .enter | .finished => data

end GetUpdates

/-- A poll that waits in its slot creates none any more. -/
def UpdatesPhase.tokens : UpdatesPhase → List String
  | .seen vtoken _ | .markOnline vtoken | .wait vtoken => [vtoken]
  | .enter | .poll _ | .finished => []

/-- The two halves of `sendmessage`. -/
inductive ReplyPhase where
  | send (phase : SendPhase)
  | tail (phase : TailPhase)
deriving Repr, DecidableEq

/-- The row of the history for a reply that is complete and has a text. -/
def OwnedReply.savedRow (reply : OwnedReply) (msg : WeixinMessage) : Option MessageRow :=
  if msg.messageState.any fun state => state ≠ 2 then none
  else msg.text.map fun content =>
    { vctx := reply.pair.vctx
      vtoken := some reply.pair.vtoken
      sessionName := reply.session
      peerUserId := reply.peerUserId
      content := content
      ilinkMsgId := msg.messageId }

def HubEnv.toTailEnv (env : HubEnv) (registry : ClientRegistry) : TailEnv :=
  { newClientId := env.newClientId
    newOutboundMsgId := env.newOutboundMsgId
    registry := registry }

namespace SendMessage

variable (config : HubConfig) (send : SendMessage)

def replyNext (data : HubData) (env : HubEnv) : ReplyPhase → ReplyPhase
  | .send (.forward reply) =>
    .tail (reply.afterPersist (env.toTailEnv data.registry.toClientRegistry))
  | .send phase =>
    .send (send.next data.world (env.toEnv data.registry.toClientRegistry) phase)
  | .tail (.label reply msg) =>
    .tail (.upstream (reply.labelled data.registry.toClientRegistry config.outboundOriginLabel msg))
  | .tail (.upstream _) =>
    .tail (.finished (env.toTailEnv data.registry.toClientRegistry).answer)
  | .tail phase => .tail phase

def replyAfter (data : HubData) (env : HubEnv) : ReplyPhase → HubData
  | .send phase =>
    { data with
      world := (send.step data.world phase (env.toEnv data.registry.toClientRegistry)).1 }
  | .tail (.label reply msg) =>
    { data with
      saves := data.saves ++ (reply.savedRow (reply.labelled data.registry.toClientRegistry
          config.outboundOriginLabel msg)).toList }
  | .tail _ => data

end SendMessage

def SendPhase.tokens : SendPhase → List String
  | .resolve pair _ => [pair.vtoken]
  | .persistSession reply _ | .persistUsage reply _ | .answer reply
  | .forward reply => [reply.pair.vtoken]
  | .authenticate | .finished _ => []

def ReplyPhase.tokens : ReplyPhase → List String
  | .send phase => phase.tokens
  | .tail (.label reply _) => [reply.pair.vtoken]
  | .tail .waiting | .tail (.upstream _) | .tail (.finished _) => []

/-- The target of a call, once it is found. -/
def CallPhase.tokens : CallPhase → List String
  | .resolveCaller target => [target.vtoken]
  | phase => (phase.parties.map fun parties => parties.target.vtoken).toList

namespace GetUpdates

variable {updates : GetUpdates} {data : HubData} {env : HubEnv}

lemma writes_dataAfter (phase : UpdatesPhase) :
    data.Writes (updates.dataAfter data env phase) phase.tokens := by
  cases phase with
  | seen vtoken alreadyOnline => exact writes_seen _ _
  | wait vtoken =>
    exact writes_queue (InMemoryQueue.within_withSlot _ _ _)
  | poll vtoken =>
    exact writes_queue (InMemoryQueue.within_poll _ _ _)
  | _ => exact writes_refl

lemma registered_dataAfter {phase : UpdatesPhase} {vtoken : String} :
    (updates.dataAfter data env phase).registry.Registered vtoken ↔
      data.registry.Registered vtoken := by
  cases phase with
  | markOnline own =>
    simp only [dataAfter]
    rw [markOnline, registered_adjust]
  | _ => rfl

/-- A long poll is held for a registered backend. -/
lemma source_next {phase : UpdatesPhase} {vtoken : String}
    (hmem : vtoken ∈ (updates.next data env phase).tokens) :
    vtoken ∈ phase.tokens ∨ data.registry.Registered vtoken := by
  cases phase with
  | enter =>
    simp only [next] at hmem
    split at hmem
    · cases hmem
    · split at hmem
      · split at hmem
        · cases hmem
        · next own info hinfo =>
          obtain rfl := List.mem_singleton.mp hmem
          exact .inr (Option.isSome_of_mem hinfo)
      · cases hmem
  | seen own alreadyOnline =>
    left
    cases alreadyOnline <;> exact hmem
  | markOnline own => exact .inl hmem
  | wait own => cases hmem
  | poll own => cases hmem
  | finished => cases hmem

end GetUpdates

namespace SendMessage

variable {config : HubConfig} {send : SendMessage} {data : HubData} {env : HubEnv}

lemma tokens_op (phase : SendPhase) : (op phase).tokens ⊆ phase.tokens := by
  cases phase <;> simp [op, StoreOp.tokens, SendPhase.tokens]

lemma writes_replyAfter (phase : ReplyPhase) :
    data.Writes (send.replyAfter config data env phase) phase.tokens := by
  cases phase with
  | send phase =>
    apply writes_world
    · intro pair hrow
      exact (Store.active_of_attempt hrow).imp_right fun h => tokens_op phase h
    · intro key hrow
      exact (Store.backend_of_attempt hrow).imp_right fun h => tokens_op phase h
    · exact fun _ hslot => .inl hslot
  | tail phase =>
    cases phase with
    | label reply msg =>
      intro place vtoken hat
      cases place with
      | saves =>
        obtain ⟨row, hrow, hvtoken⟩ := hat
        rcases List.mem_append.mp hrow with hold | hnew
        · exact .inl ⟨row, hold, hvtoken⟩
        · right
          have hsaved := Option.mem_toList.mp hnew
          unfold OwnedReply.savedRow at hsaved
          split at hsaved
          · cases hsaved
          · obtain ⟨content, -, rfl⟩ := Option.map_eq_some_iff.mp hsaved
            exact List.mem_singleton.mpr (Option.some.inj hvtoken).symm
      | _ => exact .inl hat
    | _ => exact writes_refl

lemma tokens_afterSession (reply : OwnedReply) :
    (afterSession reply).tokens = [reply.pair.vtoken] := by
  unfold afterSession
  split <;> rfl

lemma tokens_afterResolve (reply : OwnedReply) :
    (afterResolve reply).tokens = [reply.pair.vtoken] := by
  unfold afterResolve
  split
  · rfl
  · exact tokens_afterSession reply

lemma tokens_afterPersist (reply : OwnedReply) (tailEnv : TailEnv) :
    (ReplyPhase.tail (reply.afterPersist tailEnv)).tokens ⊆ [reply.pair.vtoken] := by
  unfold OwnedReply.afterPersist
  simp only
  split
  · exact List.nil_subset _
  · exact List.Subset.refl _

/-- A request holds its own token, after the registry knows it. -/
lemma source_admission {registry : ClientRegistry} {vtoken : String}
    (hmem : vtoken ∈ (send.admission (env.toEnv registry)).tokens) :
    (registry.getByVtoken vtoken).isSome = true := by
  unfold admission at hmem
  split at hmem
  · cases hmem
  · split at hmem
    · cases hmem
    · next own _ hknown =>
      have hsome : (registry.getByVtoken own).isSome = true := by
        rw [Bool.not_eq_true, Option.isNone_eq_false_iff] at hknown
        exact hknown
      repeat' split at hmem
      any_goals cases hmem
      · exact hsome
      all_goals contradiction

lemma source_replyNext {phase : ReplyPhase} {vtoken : String}
    (hmem : vtoken ∈ (send.replyNext config data env phase).tokens) :
    vtoken ∈ phase.tokens ∨ data.registry.Registered vtoken := by
  cases phase with
  | send phase =>
    cases phase with
    | authenticate => exact .inr (source_admission hmem)
    | resolve pair msg =>
      left
      simp only [replyNext, next, ReplyPhase.tokens] at hmem
      split at hmem
      · split at hmem
        · rw [tokens_afterResolve] at hmem
          exact hmem
        · cases hmem
      · cases hmem
    | persistSession reply id =>
      left
      simp only [replyNext, next, ReplyPhase.tokens, tokens_afterSession] at hmem
      exact hmem
    | persistUsage reply usage => exact .inl hmem
    | answer reply =>
      left
      simp only [replyNext, next] at hmem
      split at hmem
      · cases hmem
      · exact hmem
    | forward reply => exact .inl (tokens_afterPersist reply _ hmem)
    | finished response => cases hmem
  | tail phase =>
    cases phase with
    | _ => cases hmem

end SendMessage

namespace CallAgent

variable {call : CallAgent} {data : HubData} {env : HubEnv}

lemma tokens_op (phase : CallPhase) : (call.op phase).tokens ⊆ phase.tokens := by
  cases phase with
  | release parties snap outcome stage =>
    cases stage <;> simp [op, releaseOp, StoreOp.tokens, CallPhase.tokens, CallPhase.parties, pair]
  | grant parties snap =>
    simp [op, StoreOp.tokens, CallPhase.tokens, CallPhase.parties, pair]
  | _ => exact List.nil_subset _

lemma writes_step (phase : CallPhase) :
    data.Writes { data with world := (call.step data.world phase
        (env.toEnv data.registry.toClientRegistry)).1 } phase.tokens := by
  apply writes_world
  · intro pair hrow
    exact (Store.active_of_attempt hrow).imp_right fun h => tokens_op phase h
  · intro key hrow
    exact (Store.backend_of_attempt hrow).imp_right fun h => tokens_op phase h
  · cases phase with
    | push parties snap hubExt => exact InMemoryQueue.within_withSlot _ _ _
    | _ => exact fun _ hslot => .inl hslot

lemma tokens_of_parties {phase : CallPhase} {parties : CallParties}
    (hparties : phase.parties = some parties) : phase.tokens = [parties.target.vtoken] := by
  cases phase with
  | resolveTarget | resolveCaller _ | finished _ | dropped => cases hparties
  | _ =>
    cases hparties
    rfl

/-- The target of a call is registered when it is found. -/
lemma source_next {phase : CallPhase} {vtoken : String} (hmem : vtoken ∈ (call.next data.world
      (env.toEnv data.registry.toClientRegistry) phase).tokens) :
    vtoken ∈ phase.tokens ∨ data.registry.Registered vtoken := by
  cases hphase : phase.parties with
  | some parties =>
    left
    rw [tokens_of_parties hphase]
    rcases parties_next call data.world (env.toEnv data.registry.toClientRegistry) hphase with
      hnext | ⟨result, hnext⟩
    · rwa [tokens_of_parties hnext] at hmem
    · rw [hnext] at hmem
      cases hmem
  | none =>
    cases phase with
    | resolveTarget =>
      simp only [next] at hmem
      split at hmem
      · next target htarget =>
        obtain rfl := List.mem_singleton.mp hmem
        exact .inr (registered_of_mem_values (of_getByAliasIn htarget).1)
      · cases hmem
    | resolveCaller target =>
      left
      simp only [next, gate] at hmem
      split at hmem
      · exact hmem
      · cases hmem
    | finished result => cases hmem
    | dropped => cases hmem
    | _ => cases hphase

end CallAgent

end IlinkHub
