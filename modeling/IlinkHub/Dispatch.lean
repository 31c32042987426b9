/-
The paths that enqueue a message for a backend (`hub/dispatch/pipeline.rs`,
`hub/dispatch/mention.rs`, `hub/commands.rs`, `mcp/tools.rs`), and whether the
backend owns the conversation at the moment of the push.
-/
import IlinkHub.CallAgent

namespace IlinkHub

open ClientInfo

/-- A push to a client, with the store and the clock at that moment. -/
structure Pushed where
  vtoken : String
  vctx : String
  msg : WeixinMessage
  store : Store
  now : Int

def Pushed.pair (pushed : Pushed) : PairKey :=
  ⟨pushed.vctx, pushed.vtoken⟩

/-- An inbound message and what its dispatch finds outside for each recipient:
the names drawn for a new and for an ephemeral context, whether the store
answers the read of the session, and the clock at the grant and at the push. -/
structure Inbound where
  msg : WeixinMessage
  candidate : String → String
  ephemeral : String → String
  readOk : String → Bool
  grantAt : String → Int
  pushAt : String → Int

namespace Inbound

variable (inbound : Inbound)

/-- The context token, when the message has one. -/
def realCtx : Option String :=
  inbound.msg.contextToken.filter fun token => token ≠ ""

def peerUserId : String :=
  inbound.msg.fromUserId.getD ""

def findVctx (store : Store) (vtoken realCtx : String) : Option (String × Store) :=
  store.findOrCreateVctx inbound.peerUserId inbound.msg.groupId realCtx (inbound.candidate vtoken)

def resolveVctx (store : Store) (vtoken realCtx : String) : String × Store :=
  resolveVctxForMessage store realCtx inbound.peerUserId inbound.msg.groupId
    (inbound.candidate vtoken) (inbound.ephemeral vtoken)

def sessionOf (hubExt : Option HubExt) : String :=
  (hubExt.bind HubExt.sessionName).getD "default"

/-- The `ForwardTo` arm of `dispatch_message`; a quote-reply pins the session. -/
def forwardTo (store : Store) (vtoken : String) (sessionOverride : Option String) : List Pushed :=
  match inbound.realCtx with
  | none => []
  | some realCtx =>
    let resolved := inbound.resolveVctx store vtoken realCtx
    let pair : PairKey := ⟨resolved.1, vtoken⟩
    let hubExt := buildHubExtForVctx resolved.2 pair sessionOverride (inbound.readOk vtoken)
    [{ vtoken := vtoken
       vctx := resolved.1
       msg := { inbound.msg with
         contextToken := some resolved.1, ilinkHubExt := hubExt }
       store := resolved.2.setActiveSessionWithDepth (inbound.grantAt vtoken)
         pair (sessionOf hubExt) 0
       now := inbound.pushAt vtoken }]

/-- `handle_at_mention`: a fresh named session, and no grant. -/
def handleAtMention (store : Store) (vtoken payload sessionName : String) : List Pushed :=
  match inbound.realCtx with
  | none => []
  | some realCtx =>
    let resolved := inbound.resolveVctx store vtoken realCtx
    let pair : PairKey := ⟨resolved.1, vtoken⟩
    let created := resolved.2.setBackendSession pair sessionName ""
    let hubExt := buildHubExtForVctx created pair (some sessionName) (inbound.readOk vtoken)
    [{ vtoken := vtoken
       vctx := resolved.1
       msg := { setFirstTextItem inbound.msg payload with
         contextToken := some resolved.1, ilinkHubExt := hubExt }
       store := created
       now := inbound.pushAt vtoken }]

/-- The loop of `handle_broadcast`: each recipient is granted, then pushed to. -/
def broadcastLoop (vctx : String) (hubExtData : PairKey → Option (String × Option String)) :
    Store → List String → List Pushed
  | _, [] => []
  | store, vtoken :: rest =>
    let pair : PairKey := ⟨vctx, vtoken⟩
    let hubExt := (hubExtData pair).map fun data : String × Option String =>
      ({ sessionId := data.2, sessionName := some data.1 } : HubExt)
    let granted := store.setActiveSessionWithDepth (inbound.grantAt vtoken)
      pair (sessionOf hubExt) 0
    { vtoken := vtoken
      vctx := vctx
      msg := { inbound.msg with
        contextToken := some vctx, ilinkHubExt := hubExt }
      store := granted
      now := inbound.pushAt vtoken } :: broadcastLoop vctx hubExtData granted rest

/-- `handle_broadcast`; its one context lookup is drawn under the name `""`. -/
def handleBroadcast (store : Store) (registry : ClientRegistry) : List Pushed :=
  let online := registry.onlineClients.map vtoken
  match inbound.realCtx with
  | none => []
  | some realCtx =>
    let resolved := inbound.resolveVctx store "" realCtx
    let pairs := online.map fun vtoken => (⟨resolved.1, vtoken⟩ : PairKey)
    let hubExtData := if inbound.readOk "" then
      resolved.2.getHubExtBatch pairs else fun _ => none
    inbound.broadcastLoop resolved.1 hubExtData resolved.2 online

/-- The text part of the first item is replaced, if it has one. -/
def replaceFirstText (msg : WeixinMessage) (text : String) : WeixinMessage :=
  { msg with itemList := msg.itemList.map fun
      | [] => []
      | item :: rest =>
        { item with textItem := item.textItem.map fun part =>
          { part with text := some text } } :: rest }

/-- The loop of `handle_cmd_broadcast`: no grant is written here. -/
def cmdBroadcastLoop (realCtx text : String) :
    Store → List String → List Pushed
  | _, [] => []
  | store, vtoken :: rest =>
    let resolved := inbound.resolveVctx store vtoken realCtx
    let hubExt := buildHubExtForVctx resolved.2 ⟨resolved.1, vtoken⟩ none (inbound.readOk vtoken)
    { vtoken := vtoken
      vctx := resolved.1
      msg := replaceFirstText { inbound.msg with
        contextToken := some resolved.1, ilinkHubExt := hubExt } text
      store := resolved.2
      now := inbound.pushAt vtoken } :: cmdBroadcastLoop realCtx text resolved.2 rest

/-- The clients that are online and visible to the sender. -/
def cmdRecipients (registry : ClientRegistry) (acl : AgentAcl) : List String :=
  let visible := acl.wechatVisible inbound.peerUserId (registry.values.map name)
  (registry.onlineClients.filter fun client =>
    visible.all fun names => client.name ∈ names).map vtoken

/-- `handle_cmd_broadcast`, behind `/broadcast` and `/all`. -/
def handleCmdBroadcast (store : Store) (registry : ClientRegistry)
    (acl : AgentAcl) (text : String) : List Pushed :=
  match inbound.realCtx with
  | none => []
  | some realCtx =>
    inbound.cmdBroadcastLoop realCtx text store (inbound.cmdRecipients registry acl)

/-- Every context lookup of that loop succeeds. -/
def CmdBroadcastFound (realCtx : String) : Store → List String → Prop
  | _, [] => True
  | store, vtoken :: rest =>
    (inbound.findVctx store vtoken realCtx).isSome = true ∧ CmdBroadcastFound realCtx
        (inbound.resolveVctx store vtoken realCtx).2 rest

/-- The grant and the push of `call_agent`. -/
def callAgentPush (store : Store) (call : CallAgent) (parties : CallParties)
    (snap : Snapshot) : List Pushed :=
  let vtoken := parties.target.vtoken
  let granted := store.attempt true (inbound.grantAt vtoken) (call.op (.grant parties snap))
  [{ vtoken := vtoken
     vctx := call.ctx.vctx
     msg := call.syntheticMessage (call.buildHubExtForA2a granted parties (inbound.readOk vtoken))
     store := granted
     now := inbound.pushAt vtoken }]

end Inbound

/-- The paths that enqueue; `forwardTo` is the routed one and the quote-reply. -/
inductive EnqueuePath where
  | forwardTo (vtoken : String) (sessionOverride : Option String)
  | atMention (vtoken payload sessionName : String)
  | broadcast (registry : ClientRegistry)
  | cmdBroadcast (registry : ClientRegistry) (acl : AgentAcl) (text : String)
  | callAgent (call : CallAgent) (parties : CallParties) (snap : Snapshot)

namespace EnqueuePath

def pushes (path : EnqueuePath) (store : Store) (inbound : Inbound) : List Pushed :=
  match path with
  | .forwardTo vtoken sessionOverride =>
    inbound.forwardTo store vtoken sessionOverride
  | .atMention vtoken payload sessionName =>
    inbound.handleAtMention store vtoken payload sessionName
  | .broadcast registry => inbound.handleBroadcast store registry
  | .cmdBroadcast registry acl text =>
    inbound.handleCmdBroadcast store registry acl text
  | .callAgent call parties snap =>
    inbound.callAgentPush store call parties snap

/-- The lookups of the context all succeed.  An agent call takes its context
from a join of the grants with the known contexts. -/
def WritesSucceed (path : EnqueuePath) (store : Store) (inbound : Inbound) : Prop :=
  match path with
  | .forwardTo vtoken _ | .atMention vtoken _ _ =>
    ∀ realCtx, inbound.realCtx = some realCtx →
      (inbound.findVctx store vtoken realCtx).isSome = true
  | .broadcast _ =>
    ∀ realCtx, inbound.realCtx = some realCtx → (inbound.findVctx store "" realCtx).isSome = true
  | .cmdBroadcast registry acl _ =>
    ∀ realCtx, inbound.realCtx = some realCtx → inbound.CmdBroadcastFound realCtx store
        (inbound.cmdRecipients registry acl)
  | .callAgent call _ _ =>
    (store.contexts.lookup call.ctx.vctx).isSome = true

/-- What the push needs, path by path.  The paths that write a grant need it to
be live or a named session beside it, the mention has just written a named
session, and the broadcast commands rely on what is there. -/
def Authorized (path : EnqueuePath) (store : Store) (inbound : Inbound) (pushed : Pushed) : Prop :=
  match path with
  | .forwardTo _ _ | .broadcast _ | .callAgent _ _ _ =>
    store.hasBackendSession pushed.pair = true ∨ inbound.pushAt pushed.vtoken <
        store.grantExpiresAt (inbound.grantAt pushed.vtoken)
  | .atMention _ _ _ => True
  | .cmdBroadcast _ _ _ =>
    store.vtokenOwnsVctx (inbound.pushAt pushed.vtoken) pushed.pair = true

end EnqueuePath

/-- Two stores with the same authorization rows. -/
structure Store.SameGrants (left right : Store) : Prop where
  active : left.active = right.active
  backend : left.backend = right.backend
  grantTtlSecs : left.grantTtlSecs = right.grantTtlSecs

lemma Store.SameGrants.vtokenOwnsVctx {left right : Store}
    (hsame : left.SameGrants right) (now : Int) (pair : PairKey) :
    left.vtokenOwnsVctx now pair = right.vtokenOwnsVctx now pair := by
  simp [Store.vtokenOwnsVctx, liveGrant, hasBackendSession, hsame.active, hsame.backend]

lemma Store.SameGrants.grantExpiresAt {left right : Store} (hsame : left.SameGrants right)
    (now : Int) : left.grantExpiresAt now = right.grantExpiresAt now := by
  rw [Store.grantExpiresAt, Store.grantExpiresAt, hsame.grantTtlSecs]

lemma Store.SameGrants.hasBackendSession {left right : Store} (hsame : left.SameGrants right)
    (pair : PairKey) : left.hasBackendSession pair = right.hasBackendSession pair := by
  rw [Store.hasBackendSession, Store.hasBackendSession, hsame.backend]

variable {store : Store} {pushed : Pushed} {inbound : Inbound}

/-- A lookup that succeeds gives a known context and leaves the grants. -/
lemma Inbound.resolveVctx_spec {vtoken realCtx : String}
    (hfound : (inbound.findVctx store vtoken realCtx).isSome = true) :
    ((inbound.resolveVctx store vtoken realCtx).2.contexts.lookup
        (inbound.resolveVctx store vtoken realCtx).1).isSome = true ∧
      (inbound.resolveVctx store vtoken realCtx).2.SameGrants store := by
  obtain ⟨⟨vctx, next⟩, hfind⟩ := Option.isSome_iff_exists.mp hfound
  have hresolve : inbound.resolveVctx store vtoken realCtx = (vctx, next) := by
    rw [findVctx] at hfind
    rw [resolveVctx, resolveVctxForMessage, hfind, Option.getD_some]
  obtain ⟨hknown, hactive, hbackend, httl⟩ := Store.findOrCreateVctx_spec hfind
  rw [hresolve]
  exact ⟨hknown, hactive, hbackend, httl⟩

/-- Right after a grant the backend owns the context while the grant lives, or
through a named session. -/
lemma Store.resolveSendContext_grant {pair : PairKey}
    (hknown : (store.contexts.lookup pair.vctx).isSome = true)
    (grantAt now : Int) (sessionName : String) (depth : UInt8) :
    ((store.setActiveSessionWithDepth grantAt pair sessionName
        depth).resolveSendContext now pair).isSome = true ↔
      store.hasBackendSession pair = true ∨ now < store.grantExpiresAt grantAt := by
  rw [resolveSendContext_isSome_iff, vtokenOwnsVctx_iff,
    lookup_setActiveSessionWithDepth, if_pos rfl]
  constructor
  · rintro ⟨-, ⟨row, hrow, hlive⟩ | hbackend⟩
    · cases hrow
      exact .inr hlive
    · exact .inl hbackend
  · rintro (hbackend | hlive)
    · exact ⟨hknown, .inr hbackend⟩
    · exact ⟨hknown, .inl ⟨_, rfl, hlive⟩⟩

/-- A named session just written is enough, whatever the clock says. -/
lemma Store.resolveSendContext_session {pair : PairKey}
    (hknown : (store.contexts.lookup pair.vctx).isSome = true) (now : Int)
    (sessionName id : String) :
    ((store.setBackendSession pair sessionName id).resolveSendContext now pair).isSome = true := by
  rw [resolveSendContext_isSome_iff, vtokenOwnsVctx_iff]
  refine ⟨hknown, .inr (hasBackendSession_iff.mpr ⟨sessionName, ?_⟩)⟩
  rw [lookup_setBackendSession, if_pos rfl]
  rfl

lemma Inbound.forwardTo_authorized {vtoken : String} {sessionOverride : Option String}
    (hfound : ∀ realCtx, inbound.realCtx = some realCtx →
      (inbound.findVctx store vtoken realCtx).isSome = true)
    (hpushed : pushed ∈ inbound.forwardTo store vtoken sessionOverride) :
    (pushed.store.resolveSendContext pushed.now pushed.pair).isSome = true ↔
      store.hasBackendSession pushed.pair = true ∨ inbound.pushAt pushed.vtoken <
          store.grantExpiresAt (inbound.grantAt pushed.vtoken) := by
  unfold forwardTo at hpushed
  cases hctx : inbound.realCtx with
  | none => simp [hctx] at hpushed
  | some realCtx =>
    obtain ⟨hknown, hsame⟩ := resolveVctx_spec (hfound realCtx hctx)
    rw [hctx] at hpushed
    rw [List.mem_singleton.mp hpushed, ← hsame.hasBackendSession, ← hsame.grantExpiresAt]
    exact Store.resolveSendContext_grant hknown _ _ _ _

lemma Inbound.handleAtMention_authorized {vtoken payload sessionName : String}
    (hfound : ∀ realCtx, inbound.realCtx = some realCtx →
      (inbound.findVctx store vtoken realCtx).isSome = true)
    (hpushed : pushed ∈ inbound.handleAtMention store vtoken payload sessionName) :
    (pushed.store.resolveSendContext pushed.now pushed.pair).isSome = true := by
  unfold handleAtMention at hpushed
  cases hctx : inbound.realCtx with
  | none => simp [hctx] at hpushed
  | some realCtx =>
    obtain ⟨hknown, -⟩ := resolveVctx_spec (hfound realCtx hctx)
    rw [hctx] at hpushed
    rw [List.mem_singleton.mp hpushed]
    exact Store.resolveSendContext_session hknown _ _ _

/-- Each recipient is granted right before its push, so the grants written for
the others do not matter. -/
lemma Inbound.broadcastLoop_authorized {vctx : String}
    {hubExtData : PairKey → Option (String × Option String)} {online : List String}
    (hknown : (store.contexts.lookup vctx).isSome = true)
    (hpushed : pushed ∈ inbound.broadcastLoop vctx hubExtData store online) :
    (pushed.store.resolveSendContext pushed.now pushed.pair).isSome = true ↔
      store.hasBackendSession pushed.pair = true ∨ inbound.pushAt pushed.vtoken <
          store.grantExpiresAt (inbound.grantAt pushed.vtoken) := by
  induction online generalizing store with
  | nil => simp [broadcastLoop] at hpushed
  | cons vtoken rest ih =>
    rcases List.mem_cons.mp hpushed with rfl | hrest
    · exact Store.resolveSendContext_grant hknown _ _ _ _
    · have hiff := ih (by exact hknown) hrest
      exact hiff

lemma Inbound.cmdBroadcastLoop_authorized
    {realCtx text : String} {initial : Store} {online : List String}
    (hsame : store.SameGrants initial) (hfound : inbound.CmdBroadcastFound realCtx store online)
    (hpushed : pushed ∈ inbound.cmdBroadcastLoop realCtx text store online) :
    (pushed.store.resolveSendContext pushed.now pushed.pair).isSome = true ↔
      initial.vtokenOwnsVctx (inbound.pushAt pushed.vtoken) pushed.pair = true := by
  induction online generalizing store with
  | nil => simp [cmdBroadcastLoop] at hpushed
  | cons vtoken rest ih =>
    obtain ⟨hfirst, hothers⟩ := hfound
    obtain ⟨hknown, hkept⟩ := resolveVctx_spec hfirst
    have hsame' : (inbound.resolveVctx store vtoken realCtx).2.SameGrants
        initial :=
      ⟨hkept.active.trans hsame.active, hkept.backend.trans hsame.backend,
        hkept.grantTtlSecs.trans hsame.grantTtlSecs⟩
    rcases List.mem_cons.mp hpushed with rfl | hrest
    · rw [Store.resolveSendContext_isSome_iff, hsame'.vtokenOwnsVctx]
      exact and_iff_right hknown
    · exact ih hsame' hothers hrest

/-- The backend can answer a message at the moment it is enqueued exactly under
the condition of its path. -/
theorem EnqueuePath.reply_authorized_iff (path : EnqueuePath) (store : Store)
    (inbound : Inbound) (hwrites : path.WritesSucceed store inbound)
    (pushed : Pushed) (hpushed : pushed ∈ path.pushes store inbound) :
    (pushed.store.resolveSendContext pushed.now pushed.pair).isSome = true ↔
      path.Authorized store inbound pushed := by
  cases path with
  | forwardTo vtoken sessionOverride =>
    exact Inbound.forwardTo_authorized hwrites hpushed
  | atMention vtoken payload sessionName =>
    exact iff_true_intro (Inbound.handleAtMention_authorized hwrites hpushed)
  | broadcast registry =>
    simp only [pushes, Inbound.handleBroadcast] at hpushed
    cases hctx : inbound.realCtx with
    | none => simp [hctx] at hpushed
    | some realCtx =>
      obtain ⟨hknown, hsame⟩ :=
        Inbound.resolveVctx_spec (hwrites realCtx hctx)
      rw [hctx] at hpushed
      have hiff := Inbound.broadcastLoop_authorized hknown hpushed
      rwa [hsame.hasBackendSession, hsame.grantExpiresAt] at hiff
  | cmdBroadcast registry acl text =>
    simp only [pushes, Inbound.handleCmdBroadcast] at hpushed
    cases hctx : inbound.realCtx with
    | none => simp [hctx] at hpushed
    | some realCtx =>
      rw [hctx] at hpushed
      exact Inbound.cmdBroadcastLoop_authorized ⟨rfl, rfl, rfl⟩ (hwrites realCtx hctx) hpushed
  | callAgent call parties snap =>
    have hknown : (store.contexts.lookup (call.pair parties).vctx).isSome =
        true := hwrites
    rw [List.mem_singleton.mp hpushed]
    exact Store.resolveSendContext_grant hknown _ _ _ _

/-- A store that knows one conversation and grants nothing. -/
def ungrantedStore : Store :=
  { contexts := (∅ : AList fun _ : String => ContextRow).insert "vctx_1" ⟨"ctx", some "peer:user"⟩
    active := ∅
    backend := ∅
    grantTtlSecs := 86400 }

/-- A message of that conversation, dispatched at second 100. -/
def inboundAt100 : Inbound where
  msg := { fromUserId := some "user", contextToken := some "ctx" }
  candidate := fun _ => "vctx_2"
  ephemeral := fun _ => "vctx_3"
  readOk := fun _ => true
  grantAt := fun _ => 100
  pushAt := fun _ => 100

def oneBotOnline : ClientRegistry :=
  ClientRegistry.ofClients [{ name := "bot", vtoken := "t", online := true }]

/-- A routed message is enqueued and its backend may answer at once. -/
theorem EnqueuePath.reply_authorized_forwardTo :
    ∃ pushed ∈ (EnqueuePath.forwardTo "t" none).pushes ungrantedStore inboundAt100,
      (EnqueuePath.forwardTo "t" none).WritesSucceed ungrantedStore inboundAt100 ∧
        (pushed.store.resolveSendContext pushed.now pushed.pair).isSome = true := by
  have hlive : 100 < ungrantedStore.grantExpiresAt 100 := by decide
  have hwrites : (forwardTo "t" none).WritesSucceed ungrantedStore
      inboundAt100 := by
    intro realCtx hctx
    obtain rfl := Option.some.inj hctx
    decide
  refine ⟨_, List.mem_cons_self, hwrites, ?_⟩
  exact (reply_authorized_iff _ ungrantedStore inboundAt100
    hwrites _ List.mem_cons_self).mpr (.inr hlive)

/-- The command `/broadcast` enqueues a message that its recipient may not
answer. -/
theorem EnqueuePath.cmdBroadcast_unauthorized :
    ∃ pushed ∈ (EnqueuePath.cmdBroadcast oneBotOnline ⟨∅, ∅, []⟩ "hi").pushes
        ungrantedStore inboundAt100,
      (EnqueuePath.cmdBroadcast oneBotOnline ⟨∅, ∅, []⟩ "hi").WritesSucceed
          ungrantedStore inboundAt100 ∧
        pushed.store.resolveSendContext pushed.now pushed.pair = none := by
  refine ⟨_, List.mem_cons_self, ?_, by decide⟩
  intro realCtx hctx
  obtain rfl := Option.some.inj hctx
  exact ⟨by decide, trivial⟩

end IlinkHub
