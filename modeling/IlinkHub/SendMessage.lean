/-
The `sendmessage` route (`server/routes/bot.rs`) up to the point where it
hands the message on, and the session commands of the user
(`hub/commands.rs`, `hub/dispatch/mention.rs`).  Both write named sessions, a
request of a backend only after the ownership check.
-/
import IlinkHub.CallAgent

namespace IlinkHub

structure SendMessageRequest where
  msg : Option WeixinMessage
deriving Repr, DecidableEq

structure SendMessageResponse where
  ret : Option Int
  errmsg : Option String
deriving Repr, DecidableEq

def SendMessageResponse.ok : SendMessageResponse :=
  ⟨some 0, none⟩

def SendMessageResponse.err (code : Int) (msg : String) : SendMessageResponse :=
  ⟨some code, some msg⟩

def unknownVtokenMsg : String :=
  "Unknown or revoked virtual token; register via POST /hub/register or " ++
    "ilink-hub-bridge --force-register"

/-- One request, with the hashed token of its `Authorization` header. -/
structure SendMessage where
  vtoken : Option String
  req : SendMessageRequest
deriving Repr, DecidableEq

/-- A request that passed the ownership check, with the session its reply
belongs to. -/
structure OwnedReply where
  pair : PairKey
  msg : WeixinMessage
  session : String
  realCtx : String
  peerUserId : String
deriving Repr, DecidableEq

/-- The await points.  From `forward` on the request adds the footer, records
the history and goes upstream, and writes no authorization row. -/
inductive SendPhase where
  | authenticate
  | resolve (pair : PairKey) (msg : WeixinMessage)
  | persistSession (reply : OwnedReply) (cliSessionId : String)
  | persistUsage (reply : OwnedReply) (usage : String)
  | answer (reply : OwnedReply)
  | forward (reply : OwnedReply)
  | finished (response : SendMessageResponse)
deriving Repr, DecidableEq

namespace SendMessage

def start : SendPhase :=
  .authenticate

def op : SendPhase → StoreOp
  | .persistSession reply cliSessionId =>
    .setBackendSession reply.pair reply.session cliSessionId
  | .persistUsage reply usage =>
    .setBackendSessionUsage reply.pair reply.session usage
  | _ => .skip

/-- The session name that the bridge echoes, else the one of the store. -/
def replySession (msg : WeixinMessage) (dbSessionName : String) : String :=
  ((msg.ilinkHubExt.bind HubExt.sessionName).bind trimmedNonBlank).getD dbSessionName

def afterSession (reply : OwnedReply) : SendPhase :=
  match reply.msg.ilinkHubExt.bind HubExt.usage with
  | some usage => .persistUsage reply usage
  | none => .answer reply

def afterResolve (reply : OwnedReply) : SendPhase :=
  match (reply.msg.ilinkHubExt.bind HubExt.cliSessionId).bind trimmedNonBlank with
  | some cliSessionId => .persistSession reply cliSessionId
  | none => afterSession reply

variable (send : SendMessage) {send : SendMessage}

/-- Token, registry, rate limit and context token, in this order. -/
def admission (env : Env) : SendPhase :=
  match send.vtoken with
  | none => .finished (.err 401 "Missing Authorization header")
  | some vtoken =>
    if (env.registry.getByVtoken vtoken).isNone then
      .finished (.err 401 unknownVtokenMsg)
    else
      match env.retryAfterSecs, send.req.msg with
      | some secs, _ => .finished (.err 429
          ("rate limit exceeded; retry after " ++ toString secs ++ "s"))
      | none, none => .finished (.err 400 "Missing msg.context_token")
      | none, some msg =>
        match msg.contextToken with
        | none | some "" =>
          .finished (.err 400 "Missing msg.context_token")
        | some vctx => .resolve ⟨vctx, vtoken⟩ msg

def next (world : World) (env : Env) : SendPhase → SendPhase
  | .authenticate => send.admission env
  | .resolve pair msg =>
    if env.ok then
      match world.store.resolveSendContext env.now pair with
      | some (realCtx, peerUserId, dbSessionName) =>
        afterResolve ⟨pair, msg, replySession msg dbSessionName, realCtx, peerUserId⟩
      | none => .finished (.err 403
          "Unknown context_token or not authorized for this context")
    else .finished (.err 500 "context_token resolution error")
  | .persistSession reply _ => afterSession reply
  | .persistUsage reply _ => .answer reply
  | .answer reply =>
    if (reply.msg.ilinkHubExt.bind HubExt.a2aCallId).isSome then
      .finished .ok
    else .forward reply
  | .forward reply => .forward reply
  | .finished response => .finished response

/-- An answer to an agent call goes to its waiter. -/
def waiterAfter (waiter : A2aWaiter) : SendPhase → A2aWaiter
  | .answer reply =>
    match reply.msg.ilinkHubExt.bind HubExt.a2aCallId, reply.msg.text with
    | some callId, some text =>
      if callId ≠ "" ∧ text ≠ "" then (waiter.resolve callId text).2
      else waiter
    | _, _ => waiter
  | _ => waiter

def step (world : World) (phase : SendPhase) (env : Env) : World × SendPhase :=
  ({ world with
     store := world.store.attempt env.ok env.now (op phase)
     waiter := waiterAfter world.waiter phase },
    send.next world env phase)

/-- A request gets to write named sessions of a pair only through the ownership
check. -/
lemma next_backendKey {world : World} {env : Env} {phase : SendPhase} {key : SessionKey}
    (hkey : (op (send.next world env phase)).backendKey = some key) :
    (∃ name, (op phase).backendKey = some ⟨key.pair, name⟩) ∨
      (world.store.resolveSendContext env.now key.pair).isSome = true := by
  have hsession : ∀ {reply : OwnedReply},
      (op (afterSession reply)).backendKey = some key → key = ⟨reply.pair, reply.session⟩ := by
    intro reply hop
    unfold afterSession at hop
    split at hop
    · exact (Option.some.inj hop).symm
    · cases hop
  cases phase with
  | authenticate =>
    simp only [next, admission] at hkey
    repeat' split at hkey
    all_goals cases hkey
  | resolve pair msg =>
    right
    simp only [next] at hkey
    split at hkey
    · split at hkey
      · next realCtx peer dbName hresolve =>
        have hpair : key.pair = pair := by
          unfold afterResolve at hkey
          split at hkey
          · rw [← Option.some.inj hkey]
          · rw [hsession hkey]
        rw [hpair, hresolve]
        rfl
      · cases hkey
    · cases hkey
  | persistSession reply cliSessionId =>
    left
    rw [hsession hkey]
    exact ⟨reply.session, rfl⟩
  | answer reply =>
    simp only [next] at hkey
    split at hkey <;> cases hkey
  | _ => cases hkey

/-- The request is for this pair, with this message. -/
structure Addresses (send : SendMessage) (pair : PairKey)
    (msg : WeixinMessage) : Prop where
  token : send.vtoken = some pair.vtoken
  request : send.req.msg = some msg
  context : msg.contextToken = some pair.vctx

/-- The id that the backend reports for its session. -/
def cliSessionId (msg : WeixinMessage) : Option String :=
  (msg.ilinkHubExt.bind HubExt.cliSessionId).bind trimmedNonBlank

/-- What a phase carries along comes from the request; only the session name
may come from the store. -/
def Carries (send : SendMessage) : SendPhase → Prop
  | .authenticate | .finished _ => True
  | .resolve pair msg => send.Addresses pair msg
  | .persistSession reply id =>
    send.Addresses reply.pair reply.msg ∧
      (∃ dbName, reply.session = replySession reply.msg dbName) ∧ cliSessionId reply.msg = some id
  | .persistUsage reply _ | .answer reply | .forward reply =>
    send.Addresses reply.pair reply.msg ∧ ∃ dbName, reply.session = replySession reply.msg dbName

lemma carries_afterSession {reply : OwnedReply} (haddresses : send.Addresses reply.pair reply.msg)
    (hsession : ∃ dbName, reply.session = replySession reply.msg dbName) :
    send.Carries (afterSession reply) := by
  unfold afterSession
  split <;> exact ⟨haddresses, hsession⟩

lemma carries_admission (send : SendMessage) (env : Env) : send.Carries (send.admission env) := by
  unfold admission
  cases hvtoken : send.vtoken with
  | none => trivial
  | some vtoken =>
    simp only
    split
    · trivial
    · split
      · trivial
      · trivial
      · next msg _ hmsg =>
        split
        · trivial
        · trivial
        · next vctx _ hvctx => exact ⟨hvtoken, hmsg, hvctx⟩

lemma Carries.next {phase : SendPhase} (hcarries : send.Carries phase)
    (world : World) (env : Env) : send.Carries (send.next world env phase) := by
  cases phase with
  | authenticate => exact carries_admission send env
  | resolve pair msg =>
    simp only [SendMessage.next]
    split
    · split
      · next realCtx peer dbName _ =>
        unfold afterResolve
        split
        · next id hid => exact ⟨hcarries, ⟨dbName, rfl⟩, hid⟩
        · exact carries_afterSession hcarries ⟨dbName, rfl⟩
      · trivial
    · trivial
  | persistSession reply id => exact carries_afterSession hcarries.1 hcarries.2.1
  | persistUsage reply usage => exact hcarries
  | answer reply =>
    simp only [SendMessage.next]
    split
    · trivial
    · exact hcarries
  | forward reply => exact hcarries
  | finished response => trivial

end SendMessage

/-- The commands of the user that create a named session of a pair. -/
inductive UserOp where
  | sessionNew (pair : PairKey) (sessionName initialUuid : String)
  | sessionUse (pair : PairKey) (sessionName : String)
  | atMention (pair : PairKey) (sessionName : String)
deriving Repr, DecidableEq

/-- `create` writes the named session and `switch` makes it the active one. -/
inductive UserPhase where
  | lookup
  | create
  | switch
  | finished
deriving Repr, DecidableEq

namespace UserOp

def start : UserOp → UserPhase
  | .sessionUse _ _ => .lookup
  | .sessionNew _ _ _ | .atMention _ _ => .create

def op : UserOp → UserPhase → StoreOp
  | .sessionNew pair name uuid, .create => .setBackendSession pair name uuid
  | .sessionUse pair name, .create => .setBackendSession pair name ""
  | .atMention pair name, .create => .setBackendSession pair name ""
  | .sessionNew pair name _, .switch => .setActiveSessionName pair name
  | .sessionUse pair name, .switch => .setActiveSessionName pair name
  | _, _ => .skip

/-- A failed query or write ends the command; the mention does not switch. -/
def next (store : Store) (ok : Bool) : UserOp → UserPhase → UserPhase
  | .sessionUse pair name, .lookup =>
    if ok then
      match store.getBackendSession pair name with
      | none => .create
      | some _ => .switch
    else .finished
  | .sessionNew _ _ _, .create | .sessionUse _ _, .create =>
    if ok then .switch else .finished
  | _, _ => .finished

def step (user : UserOp) (world : World) (phase : UserPhase) (env : Env) : World × UserPhase :=
  ({ world with
     store := world.store.attempt env.ok env.now (user.op phase) },
    next world.store env.ok user phase)

end UserOp

end IlinkHub
