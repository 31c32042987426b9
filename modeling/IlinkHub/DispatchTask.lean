/-
`dispatch_message` (`hub/dispatch/pipeline.rs`) as a process that stops at every
await point: the mention, the route, the four layers of the quote lookup and the
commands of the user (`hub/dispatch/mention.rs`, `hub/dispatch/quote.rs`,
`hub/commands.rs`).
-/
import IlinkHub.HubData
import IlinkHub.UserDispatch

namespace IlinkHub

/-- An inbound message with what it quotes, and the names with the time in them
for a new session and for the session of a mention. -/
structure Dispatch where
  inbound : Inbound
  refs : List RefMessageItem := []
  freshName : String := ""
  atSession : String := ""

/-- The await points of `handle_at_mention`. -/
inductive MentionStage where
  | resolve
  | create (vctx : String)
  | readExt (vctx : String)
  | push (vctx : String) (hubExt : Option HubExt)
deriving Repr, DecidableEq

/-- The layers of the quote lookup; the footer needs up to three reads.  `origin`
reads the name of the backend that was found. -/
inductive QuoteStage where
  | msgId
  | timestamp
  | content
  | footer
  | scope (sessionKey : String)
  | session (sessionKey vctx : String)
  | origin (vtoken : String) (sessionName : Option String)
deriving Repr, DecidableEq

/-- The await points of the commands: `/use`, `/broadcast` with its loop, and the
session commands. -/
inductive CommandStage where
  | useVisible (name : String)
  | useAlias (name : String) (visible : Option (List String))
  | useStore (vtoken : String)
  | useRouter (vtoken : String)
  | castVisible (text : String)
  | castOnline (text : String) (visible : Option (List String))
  | cast (text : String) (recipients : List String)
  | castExt (text vtoken vctx : String) (rest : List String)
  | castPush (text vtoken vctx : String) (hubExt : Option HubExt) (rest : List String)
  | sessionResolve (cmd : HubCommand)
  | sessionRoute (cmd : HubCommand) (vctx : String)
  | session (user : UserOp) (phase : UserPhase)
  | deleteLookup (pair : PairKey) (sessionName : String)
  | delete (pair : PairKey) (sessionName : String)
deriving Repr, DecidableEq

inductive DispatchPhase where
  | received
  | mentionAlias (name payload : String) (visible : Option (List String))
  | mention (vtoken payload : String) (stage : MentionStage)
  | route
  | quote (base : RoutingDecision) (stage : QuoteStage)
  | forward (vtoken : String) (sessionOverride : Option String) (phase : ForwardPhase)
  | command (stage : CommandStage)
  | finished
deriving Repr, DecidableEq

/-- The backends that the sender may see. -/
def wechatVisible (acl : AgentAcl) (fromUserId : String)
    (registry : ClientRegistry) : Option (List String) :=
  acl.wechatVisible fromUserId (registry.values.map ClientInfo.name)

namespace Dispatch

variable (config : HubConfig) (dispatch : Dispatch)

def msg : WeixinMessage :=
  dispatch.inbound.msg

def fromUserId : String :=
  dispatch.inbound.peerUserId

def toForward (vtoken : String) (sessionOverride : Option String) : Forward :=
  ⟨dispatch.inbound, vtoken, sessionOverride⟩

/-- The context of the message, if it has a token for it. -/
def resolved (store : Store) (ok : Bool) (vtoken : String) : Option (String × Store) :=
  (dispatch.toForward vtoken none).resolved store ok

def visible (registry : ClientRegistry) : Option (List String) :=
  wechatVisible config.acl dispatch.fromUserId registry

/-- A command needs a context to answer in.  The commands that only answer are
through at once. -/
def handleHubCommand (cmd : HubCommand) : DispatchPhase :=
  if dispatch.inbound.realCtx.isNone then .finished
  else
    match cmd with
    | .useClient name => .command (.useVisible name)
    | .broadcast text => .command (.castVisible text)
    | .sessionList | .sessionNew _ _ | .sessionUse _ | .sessionDelete _ =>
      .command (.sessionResolve cmd)
    | .list | .status | .help => .finished

/-- The decision is carried out.  No route decides for a broadcast. -/
def decided : RoutingDecision → DispatchPhase
  | .hubInternal cmd => dispatch.handleHubCommand cmd
  | .forwardTo vtoken sessionOverride =>
    .forward vtoken sessionOverride Forward.start
  | .broadcast => .finished

/-- A lookup in the history, which counts when the row has a backend. -/
def quoteFound (base : RoutingDecision) (found : Option (String × String))
    (otherwise : DispatchPhase) : DispatchPhase :=
  match found.filter fun origin => origin.1 ≠ "" with
  | some (vtoken, sessionName) =>
    .quote base (.origin vtoken (some sessionName))
  | none => otherwise

/-- A query about the conversation of the message. -/
def inScope (env : HubEnv) (query : String → Option (String × String)) : Option (String × String) :=
  (derivePeerScope dispatch.msg).bind fun peerUserId =>
    if env.ok then query peerUserId else none

/-- The rows that the three lookups in the history answer with. -/
def findByMsgId (messages : List MessageRow) (env : HubEnv) : Option (String × String) :=
  ((collectQuotedMsgId dispatch.refs).bind fun raw =>
      Text.parseSigned 64 (Text.trim raw)).bind fun ilinkMsgId =>
    dispatch.inScope env fun peerUserId =>
      findAssistantMessageByMsgId messages peerUserId env.tie ilinkMsgId

def findByTimestamp (messages : List MessageRow) (env : HubEnv) : Option (String × String) :=
  (collectQuotedTimestamp dispatch.refs).bind fun refMs =>
    dispatch.inScope env fun peerUserId =>
      findAssistantMessageByTimestamp messages peerUserId env.tie (refMs.tdiv 1000) 10

def findByContent (messages : List MessageRow) (env : HubEnv) : Option (String × String) :=
  ((collectQuoted dispatch.refs).map fun quoted =>
      String.ofList ((Text.trim quoted.1).toList.take 48)).bind
    fun contentPrefix =>
      if Text.isBlank contentPrefix then none
      else dispatch.inScope env fun peerUserId =>
        findAssistantMessageByContent messages peerUserId env.tie config.kind contentPrefix

def quoteNext (data : HubData) (env : HubEnv) (base : RoutingDecision) :
    QuoteStage → DispatchPhase
  | .msgId => quoteFound base (dispatch.findByMsgId data.messages env)
      (.quote base .timestamp)
  | .timestamp => quoteFound base (dispatch.findByTimestamp data.messages env)
      (.quote base .content)
  | .content =>
    quoteFound base (dispatch.findByContent config data.messages env) (.quote base .footer)
  | .footer =>
    match footerFromUserQuote dispatch.refs with
    | none => dispatch.decided base
    | some (name, sessionName) =>
      match data.registry.getByName name with
      | some info => dispatch.decided (mergeRoutingWithQuote base
          (some (.client info.vtoken info.name info.label sessionName)))
      | none =>
        match if looksLikeSession name then some name
            else sessionName with
        | some sessionKey => .quote base (.scope sessionKey)
        | none => dispatch.decided base
  | .scope sessionKey =>
    match (derivePeerScope dispatch.msg).bind fun scope =>
        if env.ok then data.world.store.findByPeer scope else none with
    | some vctx => .quote base (.session sessionKey vctx)
    | none => dispatch.decided base
  | .session sessionKey vctx =>
    match if env.ok then data.world.store.findVtokenForSession vctx
        sessionKey env.tie else none with
    | some vtoken => .quote base (.origin vtoken (some sessionKey))
    | none => dispatch.decided base
  | .origin vtoken sessionName =>
    dispatch.decided (mergeRoutingWithQuote base
      (some (.ofVtoken data.registry.toClientRegistry vtoken sessionName)))

def mentionNext (data : HubData) (env : HubEnv) (vtoken payload : String) :
    MentionStage → DispatchPhase
  | .resolve =>
    match dispatch.resolved data.world.store env.ok vtoken with
    | some (vctx, _) => .mention vtoken payload (.create vctx)
    | none => .finished
  | .create vctx => .mention vtoken payload (.readExt vctx)
  | .readExt vctx =>
    .mention vtoken payload (.push vctx (buildHubExtForVctx
      data.world.store ⟨vctx, vtoken⟩ (some dispatch.atSession) env.ok))
  | .push _ _ => .finished

/-- The session command for the backend that the user is routed to. -/
def sessionCommand (cmd : HubCommand) (pair : PairKey) : DispatchPhase :=
  match cmd with
  | .sessionNew name initialUuid =>
    let user := UserOp.sessionNew pair name initialUuid
    .command (.session user user.start)
  | .sessionUse name =>
    let user := UserOp.sessionUse pair name
    .command (.session user user.start)
  | .sessionDelete name => .command (.deleteLookup pair name)
  | .sessionList | .list | .useClient _ | .broadcast _ | .status | .help =>
    .finished

def commandNext (data : HubData) (env : HubEnv) :
    CommandStage → DispatchPhase
  | .useVisible name =>
    .command (.useAlias name (dispatch.visible config data.registry.toClientRegistry))
  | .useAlias name visible =>
    match data.registry.getByAliasIn name visible with
    | some info => .command (.useStore info.vtoken)
    | none => .finished
  | .useStore vtoken =>
    if env.ok then .command (.useRouter vtoken) else .finished
  | .useRouter _ => .finished
  | .castVisible text =>
    .command (.castOnline text (dispatch.visible config data.registry.toClientRegistry))
  | .castOnline text visible =>
    .command (.cast text ((data.registry.onlineClients.filter fun info =>
      visible.all fun names => info.name ∈ names).map ClientInfo.vtoken))
  | .cast _ [] => .finished
  | .cast text (vtoken :: rest) =>
    match dispatch.resolved data.world.store env.ok vtoken with
    | some (vctx, _) => .command (.castExt text vtoken vctx rest)
    | none => .finished
  | .castExt text vtoken vctx rest =>
    .command (.castPush text vtoken vctx (buildHubExtForVctx
      data.world.store ⟨vctx, vtoken⟩ none env.ok) rest)
  | .castPush text _ _ _ rest => .command (.cast text rest)
  | .sessionResolve cmd =>
    match dispatch.resolved data.world.store env.ok "" with
    | some (vctx, _) => .command (.sessionRoute cmd vctx)
    | none => .finished
  | .sessionRoute cmd vctx =>
    match data.router.getRoute dispatch.fromUserId with
    | some vtoken => sessionCommand cmd ⟨vctx, vtoken⟩
    | none => .finished
  | .session user phase =>
    match UserOp.next data.world.store env.ok user phase with
    | .finished => .finished
    | next => .command (.session user next)
  | .deleteLookup pair sessionName =>
    let active := if env.ok then data.world.store.getActiveSessionName pair
      else "default"
    if sessionName = active then .finished
    else .command (.delete pair sessionName)
  | .delete _ _ => .finished

def next (data : HubData) (env : HubEnv) : DispatchPhase → DispatchPhase
  | .received =>
    -- A copy of a message of the bot itself.
    if dispatch.msg.messageType = some 2 then .finished
    else
      match dispatch.msg.text.bind parseAtMention with
      | some (name, payload) => .mentionAlias name payload
          (dispatch.visible config data.registry.toClientRegistry)
      | none => .route
  | .mentionAlias name payload visible =>
    match data.registry.getByAliasIn name visible with
    | some info => .mention info.vtoken payload .resolve
    | none => .route
  | .mention vtoken payload stage =>
    dispatch.mentionNext data env vtoken payload stage
  | .route =>
    .quote (data.router.route dispatch.freshName dispatch.msg) .msgId
  | .quote base stage => dispatch.quoteNext config data env base stage
  | .forward vtoken sessionOverride phase =>
    match (dispatch.toForward vtoken sessionOverride).next data.world.store env.ok phase with
    | .finished _ => .finished
    | next => .forward vtoken sessionOverride next
  | .command stage => dispatch.commandNext config data env stage
  | .finished => .finished

/-- The store after the lookup of a context. -/
def resolvedStore (store : Store) (ok : Bool) (vtoken : String) : Store :=
  match dispatch.resolved store ok vtoken with
  | some (_, next) => next
  | none => store

def mentionAfter (data : HubData) (env : HubEnv) (vtoken payload : String) :
    MentionStage → HubData
  | .resolve => data.withStore
      (dispatch.resolvedStore data.world.store env.ok vtoken)
  | .create vctx => data.withStore (data.world.store.attempt env.ok env.now
      (.setBackendSession ⟨vctx, vtoken⟩ dispatch.atSession ""))
  | .readExt _ => data
  | .push vctx hubExt => data.withQueue (data.world.queue.push vtoken
      { setFirstTextItem dispatch.msg payload with
        contextToken := some vctx, ilinkHubExt := hubExt }).2

def commandAfter (data : HubData) (env : HubEnv) : CommandStage → HubData
  | .useStore vtoken =>
    if env.ok then data.setRoute dispatch.fromUserId vtoken else data
  | .useRouter vtoken =>
    { data with router := data.router.setRoute dispatch.fromUserId vtoken }
  | .cast _ (vtoken :: _) => data.withStore
      (dispatch.resolvedStore data.world.store env.ok vtoken)
  | .castPush text vtoken vctx hubExt _ =>
    data.withQueue (data.world.queue.push vtoken (Inbound.replaceFirstText { dispatch.msg with
        contextToken := some vctx, ilinkHubExt := hubExt } text)).2
  | .sessionResolve _ => data.withStore
      (dispatch.resolvedStore data.world.store env.ok "")
  | .session user phase => data.withStore
      (data.world.store.attempt env.ok env.now (user.op phase))
  | .delete pair sessionName => data.withStore
      (data.world.store.attempt env.ok env.now (.deleteBackendSession pair sessionName))
  | .useVisible _ | .useAlias _ _ | .castVisible _ | .castOnline _ _
  | .cast _ [] | .castExt _ _ _ _ | .sessionRoute _ _
  | .deleteLookup _ _ => data

/-- What the step to the next await point writes. -/
def dataAfter (data : HubData) (env : HubEnv) : DispatchPhase → HubData
  | .mention vtoken payload stage =>
    dispatch.mentionAfter data env vtoken payload stage
  | .forward vtoken sessionOverride phase =>
    { data with
      world := ((dispatch.toForward vtoken sessionOverride).step data.world
        phase (env.toEnv data.registry.toClientRegistry)).1 }
  | .command stage => dispatch.commandAfter data env stage
  | .received | .mentionAlias _ _ _ | .route | .quote _ _ | .finished => data

end Dispatch

end IlinkHub
