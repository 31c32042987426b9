/-
The peers of the virtual contexts: how a dispatch enters them into the table,
under which context it delivers a message, and how `sendmessage` takes the
receiver of a reply from them.
-/
import IlinkHub.DispatchTask
import IlinkHub.RequestTask

namespace IlinkHub

open Function

namespace Store

/-- The peer that a context is kept for, if the context is known. -/
def peerOf (store : Store) (vctx : String) : Option (Option String) :=
  (store.contexts.lookup vctx).map ContextRow.peerUserId

lemma peerOf_congr {left right : Store} (hcontexts : left.contexts = right.contexts) :
    left.peerOf = right.peerOf := by
  funext vctx
  rw [peerOf, peerOf, hcontexts]

lemma peerOf_insert (store : Store) (vctx : String) (row : ContextRow) :
    peerOf { store with contexts := store.contexts.insert vctx row } =
      update store.peerOf vctx (some row.peerUserId) := by
  funext other
  by_cases hother : other = vctx
  · subst hother
    rw [peerOf, AList.lookup_insert, update_self]
    rfl
  · rw [peerOf, AList.lookup_insert_ne hother, update_of_ne hother]
    rfl

lemma peerOf_of_findByPeer {store : Store} {key vctx : String}
    (hfind : store.findByPeer key = some vctx) : store.peerOf vctx = some (some key) := by
  obtain ⟨entry, hentry, rfl⟩ := Option.map_eq_some_iff.mp hfind
  have hrow := AList.mem_lookup_iff.mpr (List.mem_of_find?_eq_some hentry)
  have hpeer := List.find?_some hentry
  rw [peerOf, hrow, Option.map_some, of_decide_eq_true hpeer]

/-- The lookup of a conversation changes no peer; it may only add the
candidate, under the key of the conversation. -/
lemma peerOf_findOrCreateVctx {store next : Store} {peerUserId : String}
    {groupId : Option String} {realCtx candidate vctx : String}
    (hfind : store.findOrCreateVctx peerUserId groupId realCtx candidate = some (vctx, next)) :
    next.peerOf = store.peerOf ∧ (store.peerOf vctx = some (some (convKey peerUserId groupId)) ∨
          vctx = candidate ∧ (store.peerOf candidate).isSome = true) ∨
      store.peerOf candidate = none ∧ vctx = candidate ∧ next.peerOf = update store.peerOf candidate
          (some (some (convKey peerUserId groupId))) := by
  unfold findOrCreateVctx at hfind
  simp only at hfind
  split at hfind
  · next found hfound =>
    split at hfind
    · obtain ⟨rfl, rfl⟩ := Prod.mk.inj (Option.some.inj hfind)
      have hpeer : store.peerOf found = some (some (convKey peerUserId groupId)) := by
        split at hfound
        · cases hfound
        · exact peerOf_of_findByPeer hfound
      -- The row is written again with the peer that it had.
      obtain ⟨row, hrow, hkey⟩ := Option.map_eq_some_iff.mp hpeer
      refine .inl ⟨?_, .inl hpeer⟩
      rw [peerOf_insert, hrow, Option.bind_some, hkey, ← hpeer, update_eq_self]
    · cases hfind
  · split at hfind
    · next hknown =>
      obtain ⟨rfl, rfl⟩ := Prod.mk.inj (Option.some.inj hfind)
      refine .inl ⟨rfl, .inr ⟨rfl, ?_⟩⟩
      rw [peerOf, Option.isSome_map, hknown]
    · next hnew =>
      split at hfind
      · obtain ⟨rfl, rfl⟩ := Prod.mk.inj (Option.some.inj hfind)
        refine .inr ⟨?_, rfl, peerOf_insert _ _ _⟩
        rw [peerOf, Option.not_isSome_iff_eq_none.mp hnew]
        rfl
      · cases hfind

end Store

/-- The backend and the context under which it gets the message. -/
def DispatchPhase.context : DispatchPhase → Option (String × String)
  | .mention vtoken _ (.create vctx) | .mention vtoken _ (.readExt vctx)
  | .mention vtoken _ (.push vctx _) => some (vtoken, vctx)
  | .forward vtoken _ (.readExt vctx) | .forward vtoken _ (.grant vctx _)
  | .forward vtoken _ (.push vctx _) => some (vtoken, vctx)
  | .command (.castExt _ vtoken vctx _)
  | .command (.castPush _ vtoken vctx _ _) => some (vtoken, vctx)
  | _ => none

namespace Dispatch

variable {config : HubConfig} {dispatch : Dispatch} {data : HubData} {env : HubEnv}

/-- The key of the conversation that the message belongs to. -/
def convKey (dispatch : Dispatch) : String :=
  Store.convKey dispatch.fromUserId dispatch.msg.groupId

/-- The message that the next step puts into the queue of a backend. -/
def delivery (dispatch : Dispatch) :
    DispatchPhase → Option (String × WeixinMessage)
  | .mention vtoken payload (.push vctx hubExt) =>
    some (vtoken, { setFirstTextItem dispatch.msg payload with
      contextToken := some vctx, ilinkHubExt := hubExt })
  | .forward vtoken sessionOverride (.push vctx hubExt) =>
    some (vtoken, (dispatch.toForward vtoken sessionOverride).message vctx hubExt)
  | .command (.castPush text vtoken vctx hubExt _) =>
    some (vtoken, Inbound.replaceFirstText { dispatch.msg with
      contextToken := some vctx, ilinkHubExt := hubExt } text)
  | _ => none

variable {phase : DispatchPhase} {vtoken vctx : String}

/-- A message is delivered under the context that the dispatch holds. -/
lemma context_of_delivery {msg : WeixinMessage}
    (hdelivery : dispatch.delivery phase = some (vtoken, msg))
    (hvctx : msg.contextToken = some vctx) : phase.context = some (vtoken, vctx) := by
  revert hdelivery
  fun_cases delivery dispatch phase with
  | case1 own payload ctx hubExt | case2 own sessionOverride ctx hubExt
  | case3 text own ctx hubExt rest =>
    intro hdelivery
    obtain ⟨rfl, rfl⟩ := Prod.mk.inj (Option.some.inj hdelivery)
    obtain rfl := Option.some.inj hvctx
    rfl
  | case4 =>
    intro hdelivery
    cases hdelivery

/-- What a step of the dispatch does to the peers of the contexts: nothing, or
a candidate of its own comes in under the key of its conversation. -/
def Enters (dispatch : Dispatch) (before after : Store) : Prop :=
  after.peerOf = before.peerOf ∨
    ∃ vtoken, before.peerOf (dispatch.inbound.candidate vtoken) = none ∧
      after.peerOf = update before.peerOf
        (dispatch.inbound.candidate vtoken) (some (some dispatch.convKey))

lemma enters_of_contexts {before after : Store} (hcontexts : after.contexts = before.contexts) :
    dispatch.Enters before after :=
  .inl (Store.peerOf_congr hcontexts)

/-- The context of the message is one of its conversation, one that stands under
its own candidate, or the ephemeral one. -/
lemma of_resolved {store next : Store} {ok : Bool}
    (hresolved : dispatch.resolved store ok vtoken = some (vctx, next)) :
    dispatch.Enters store next ∧ (next.peerOf vctx = some (some dispatch.convKey) ∨
        vctx = dispatch.inbound.candidate vtoken ∧ (next.peerOf vctx).isSome = true ∨
        vctx = dispatch.inbound.ephemeral vtoken) := by
  obtain ⟨realCtx, -, hfound⟩ := Option.map_eq_some_iff.mp hresolved
  have hephemeral : (dispatch.inbound.ephemeral vtoken, store) = (vctx, next) →
      dispatch.Enters store next ∧ vctx = dispatch.inbound.ephemeral vtoken := by
    intro heq
    obtain ⟨rfl, rfl⟩ := Prod.mk.inj heq
    exact ⟨.inl rfl, rfl⟩
  split at hfound
  · simp only [Inbound.resolveVctx, resolveVctxForMessage] at hfound
    cases hfind : store.findOrCreateVctx dispatch.inbound.peerUserId dispatch.inbound.msg.groupId
        realCtx (dispatch.inbound.candidate vtoken) with
    | none =>
      have hboth := hephemeral (by simpa [toForward, hfind] using hfound)
      exact ⟨hboth.1, .inr (.inr hboth.2)⟩
    | some found =>
      have hpair : found = (vctx, next) := by
        simpa [toForward, hfind] using hfound
      rw [hpair] at hfind
      rcases Store.peerOf_findOrCreateVctx hfind with
        ⟨hsame, hknown | ⟨hname, hknown⟩⟩ | ⟨hnew, hname, hnext⟩
      · exact ⟨.inl hsame, .inl (by rw [hsame]; exact hknown)⟩
      · refine ⟨.inl hsame, .inr (.inl ⟨hname, ?_⟩)⟩
        rw [hsame, hname]
        exact hknown
      · refine ⟨.inr ⟨vtoken, hnew, hnext⟩, .inl ?_⟩
        rw [hnext, hname, update_self]
        rfl
  · have hboth := hephemeral hfound
    exact ⟨hboth.1, .inr (.inr hboth.2)⟩

lemma enters_resolvedStore (store : Store) (ok : Bool) (vtoken : String) :
    dispatch.Enters store (dispatch.resolvedStore store ok vtoken) := by
  unfold resolvedStore
  split
  · next vctx next hresolved => exact (of_resolved hresolved).1
  · exact .inl rfl

lemma enters_dataAfter (phase : DispatchPhase) :
    dispatch.Enters data.world.store (dispatch.dataAfter data env phase).world.store := by
  cases phase with
  | mention vtoken payload stage =>
    cases stage with
    | resolve => exact enters_resolvedStore _ _ _
    | create vctx =>
      exact enters_of_contexts (Store.contexts_attempt _ _ _ _)
    | _ => exact .inl rfl
  | forward vtoken sessionOverride phase =>
    cases phase with
    | resolve => exact enters_resolvedStore _ _ _
    | _ => exact enters_of_contexts (Store.contexts_attempt _ _ _ _)
  | command stage =>
    cases stage with
    | useStore vtoken =>
      simp only [dataAfter, commandAfter]
      split <;> exact .inl rfl
    | cast text recipients =>
      cases recipients with
      | nil => exact .inl rfl
      | cons vtoken rest => exact enters_resolvedStore _ _ _
    | sessionResolve cmd => exact enters_resolvedStore _ _ _
    | session _ _ | delete _ _ =>
      exact enters_of_contexts (Store.contexts_attempt _ _ _ _)
    | _ => exact .inl rfl
  | _ => exact .inl rfl

lemma context_decided (decision : RoutingDecision) :
    (dispatch.decided decision).context = none := by
  cases decision with
  | hubInternal cmd =>
    simp only [decided, handleHubCommand]
    split
    · rfl
    · split <;> rfl
  | _ => rfl

lemma context_quoteNext (base : RoutingDecision) (stage : QuoteStage) :
    (dispatch.quoteNext config data env base stage).context = none := by
  fun_cases quoteNext config dispatch data env base stage <;>
    first
    | exact context_decided _
    | (simp only [quoteFound]; split <;> rfl)
    | rfl

lemma resolvedStore_of_resolved {store next : Store} {ok : Bool}
    (hresolved : dispatch.resolved store ok vtoken = some (vctx, next)) :
    dispatch.resolvedStore store ok vtoken = next := by
  rw [resolvedStore, hresolved]

lemma context_sessionCommand (cmd : HubCommand) (pair : PairKey) :
    (sessionCommand cmd pair).context = none := by
  cases cmd <;> rfl

lemma context_mentionNext {payload own : String} {stage : MentionStage}
    (hcontext : (dispatch.mentionNext data env own payload stage).context = some (vtoken, vctx)) :
    (DispatchPhase.mention own payload stage).context = some (vtoken, vctx) ∨
      dispatch.resolved data.world.store env.ok vtoken = some (vctx,
        (dispatch.mentionAfter data env own payload stage).world.store) := by
  cases stage with
  | resolve =>
    right
    simp only [mentionNext] at hcontext
    split at hcontext
    · next found next hresolved =>
      obtain ⟨rfl, rfl⟩ := Prod.mk.inj (Option.some.inj hcontext)
      rw [mentionAfter, resolvedStore_of_resolved hresolved]
      exact hresolved
    · cases hcontext
  | push _ _ => cases hcontext
  | _ => exact .inl hcontext

lemma context_commandNext {stage : CommandStage}
    (hcontext : (dispatch.commandNext config data env stage).context = some (vtoken, vctx)) :
    (DispatchPhase.command stage).context = some (vtoken, vctx) ∨
      dispatch.resolved data.world.store env.ok vtoken = some (vctx,
        (dispatch.commandAfter data env stage).world.store) := by
  cases stage with
  | cast text recipients =>
    cases recipients with
    | nil => cases hcontext
    | cons own rest =>
      right
      simp only [commandNext] at hcontext
      split at hcontext
      · next found next hresolved =>
        obtain ⟨rfl, rfl⟩ := Prod.mk.inj (Option.some.inj hcontext)
        rw [commandAfter, resolvedStore_of_resolved hresolved]
        exact hresolved
      · cases hcontext
  | castExt text own found rest => exact .inl hcontext
  | sessionRoute cmd found =>
    simp only [commandNext] at hcontext
    split at hcontext
    · simp [context_sessionCommand] at hcontext
    · cases hcontext
  | useAlias _ _ | useStore _ | sessionResolve _ | session _ _
  | deleteLookup _ _ =>
    simp only [commandNext] at hcontext
    repeat' split at hcontext
    all_goals cases hcontext
  | _ => cases hcontext

lemma context_forwardNext {own : String} {sessionOverride : Option String} {phase : ForwardPhase}
    (hcontext : (dispatch.next config data env
      (.forward own sessionOverride phase)).context = some (vtoken, vctx)) :
    (DispatchPhase.forward own sessionOverride phase).context = some (vtoken, vctx) ∨
      dispatch.resolved data.world.store env.ok vtoken = some (vctx, (dispatch.dataAfter data env
          (.forward own sessionOverride phase)).world.store) := by
  cases phase with
  | resolve =>
    right
    have hstore : (dispatch.dataAfter data env
        (.forward own sessionOverride .resolve)).world.store =
        dispatch.resolvedStore data.world.store env.ok own := rfl
    -- The session that a quote pins has no part in the lookup.
    have hsame : (dispatch.toForward own sessionOverride).resolved data.world.store env.ok =
          dispatch.resolved data.world.store env.ok own := rfl
    simp only [next, Forward.next, hsame] at hcontext
    cases hresolved : dispatch.resolved data.world.store env.ok own with
    | none =>
      rw [hresolved] at hcontext
      cases hcontext
    | some found =>
      rw [hresolved] at hcontext
      obtain ⟨rfl, rfl⟩ := Prod.mk.inj (Option.some.inj hcontext)
      rw [hresolved, hstore, resolvedStore_of_resolved hresolved]
  | push _ _ | finished _ => cases hcontext
  | _ => exact .inl hcontext

lemma context_next
    (hcontext : (dispatch.next config data env phase).context = some (vtoken, vctx)) :
    phase.context = some (vtoken, vctx) ∨ dispatch.resolved data.world.store env.ok vtoken =
        some (vctx, (dispatch.dataAfter data env phase).world.store) := by
  cases phase with
  | mention own payload stage => exact context_mentionNext hcontext
  | forward own sessionOverride phase => exact context_forwardNext hcontext
  | command stage => exact context_commandNext hcontext
  | quote base stage =>
    simp [next, context_quoteNext] at hcontext
  | received =>
    simp only [next] at hcontext
    repeat' split at hcontext
    all_goals cases hcontext
  | mentionAlias name payload visible =>
    simp only [next] at hcontext
    split at hcontext <;> cases hcontext
  | _ => cases hcontext

end Dispatch

/-- The reply that a request has the ownership of. -/
def SendPhase.reply : SendPhase → Option OwnedReply
  | .persistSession reply _ | .persistUsage reply _ | .answer reply
  | .forward reply => some reply
  | .authenticate | .resolve _ _ | .finished _ => none

/-- The receiver that the request names, otherwise the peer of its context. -/
def WeixinMessage.receiver (msg : WeixinMessage) (peerUserId : String) : Option String :=
  msg.toUserId.or (if peerUserId ≠ "" then some peerUserId else none)

lemma OwnedReply.toUserId_outbound (reply : OwnedReply) (env : TailEnv) :
    (reply.outbound env).toUserId = reply.msg.receiver reply.peerUserId :=
  rfl

lemma toUserId_applyPersonaAndFooter (msg : WeixinMessage)
    (client : ClientInfo) (sessionName : Option String) :
    (applyPersonaAndFooterToFirstTextItem msg client sessionName).toUserId = msg.toUserId := by
  unfold applyPersonaAndFooterToFirstTextItem
  split
  · split <;> rfl
  · rfl

lemma OwnedReply.toUserId_labelled (reply : OwnedReply) (registry : ClientRegistry)
    (outboundOriginLabel : Option String) (msg : WeixinMessage) :
    (reply.labelled registry outboundOriginLabel msg).toUserId = msg.toUserId := by
  unfold labelled
  split
  · split
    · exact toUserId_applyPersonaAndFooter _ _ _
    · rfl
  · rfl

namespace SendMessage

variable {config : HubConfig} {send : SendMessage} {data : HubData}
  {env : HubEnv} {store after : Store}

/-- The receiver that the request gets from the peer of its context. -/
def Reaches (send : SendMessage) (store : Store) (receiver : Option String) : Prop :=
  ∃ pair msg peer, send.Addresses pair msg ∧
    store.peerOf pair.vctx = some peer ∧ receiver = msg.receiver (peer.getD "")

/-- A request has its peer from the table, and a message that goes upstream has
its receiver from there. -/
def Addressed (send : SendMessage) (store : Store) : ReplyPhase → Prop
  | .send phase => send.Carries phase ∧ ∀ reply, phase.reply = some reply →
      send.Addresses reply.pair reply.msg ∧
      ∃ peer, store.peerOf reply.pair.vctx = some peer ∧ reply.peerUserId = peer.getD ""
  | .tail (.label _ msg) | .tail (.upstream msg) =>
    send.Reaches store msg.toUserId
  | .tail .waiting | .tail (.finished _) => True

lemma Addressed.mono (hkeeps : ∀ vctx peer, store.peerOf vctx = some peer →
      after.peerOf vctx = some peer) {phase : ReplyPhase}
    (haddressed : send.Addressed store phase) : send.Addressed after phase := by
  have hreaches : ∀ {receiver : Option String}, send.Reaches store receiver →
      send.Reaches after receiver := by
    rintro receiver ⟨pair, msg, peer, haddresses, hpeer, hreceiver⟩
    exact ⟨pair, msg, peer, haddresses, hkeeps _ _ hpeer, hreceiver⟩
  cases phase with
  | send phase =>
    refine ⟨haddressed.1, fun reply hreply => ?_⟩
    obtain ⟨haddresses, peer, hpeer, heq⟩ := haddressed.2 reply hreply
    exact ⟨haddresses, peer, hkeeps _ _ hpeer, heq⟩
  | tail phase =>
    cases phase with
    | waiting | finished _ => trivial
    | _ => exact hreaches haddressed

lemma reply_afterSession (own : OwnedReply) : (afterSession own).reply = some own := by
  unfold afterSession
  split <;> rfl

lemma reply_afterResolve (own : OwnedReply) : (afterResolve own).reply = some own := by
  unfold afterResolve
  split
  · rfl
  · exact reply_afterSession own

/-- A request gets the ownership of a reply from the table of contexts. -/
lemma reply_next {phase : SendPhase} {reply : OwnedReply} {world : World} {senv : Env}
    (hcarries : send.Carries phase) (hreply : (send.next world senv phase).reply = some reply) :
    phase.reply = some reply ∨ send.Addresses reply.pair reply.msg ∧
      ∃ peer, world.store.peerOf reply.pair.vctx = some peer ∧ reply.peerUserId = peer.getD "" := by
  cases phase with
  | authenticate =>
    simp only [next, admission] at hreply
    repeat' split at hreply
    all_goals cases hreply
  | resolve pair msg =>
    right
    simp only [next] at hreply
    split at hreply
    · split at hreply
      · next realCtx peerUserId dbSessionName hresolve =>
        rw [reply_afterResolve] at hreply
        obtain rfl := Option.some.inj hreply
        refine ⟨hcarries, ?_⟩
        unfold Store.resolveSendContext at hresolve
        split at hresolve
        · next row hrow =>
          split at hresolve
          · obtain ⟨-, hrest⟩ := Prod.mk.inj (Option.some.inj hresolve)
            refine ⟨row.peerUserId, ?_, (Prod.mk.inj hrest).1.symm⟩
            rw [Store.peerOf, hrow]
            rfl
          · cases hresolve
        · cases hresolve
      · cases hreply
    · cases hreply
  | persistSession own cliSessionId =>
    left
    rw [next, reply_afterSession] at hreply
    exact hreply
  | persistUsage own usage => exact .inl hreply
  | answer own =>
    left
    simp only [next] at hreply
    split at hreply
    · cases hreply
    · exact hreply
  | forward own => exact .inl hreply
  | finished response => cases hreply

lemma Addressed.next {phase : ReplyPhase} (haddressed : send.Addressed data.world.store phase) :
    send.Addressed data.world.store (send.replyNext config data env phase) := by
  cases phase with
  | tail phase =>
    cases phase with
    | label reply msg =>
      change send.Reaches _ (reply.labelled _ _ msg).toUserId
      rw [OwnedReply.toUserId_labelled]
      exact haddressed
    | upstream _ => trivial
    | _ => exact haddressed
  | send phase =>
    have hkept : send.Addressed data.world.store (.send (send.next data.world
        (env.toEnv data.registry.toClientRegistry) phase)) := by
      refine ⟨haddressed.1.next _ _, fun reply hreply => ?_⟩
      rcases reply_next haddressed.1 hreply with hold | hnew
      · exact haddressed.2 reply hold
      · exact hnew
    cases phase with
    | forward reply =>
      obtain ⟨haddresses, peer, hpeer, heq⟩ := haddressed.2 reply rfl
      simp only [replyNext, OwnedReply.afterPersist]
      split
      · trivial
      · refine ⟨reply.pair, reply.msg, peer, haddresses, hpeer, ?_⟩
        rw [OwnedReply.toUserId_outbound, heq]
    | _ => exact hkept

end SendMessage

end IlinkHub
