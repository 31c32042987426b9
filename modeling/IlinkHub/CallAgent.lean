/-
The MCP tool `call_agent` (`mcp/tools.rs`) with its reply waiter
(`mcp/waiter.rs`).  The future is a machine that stops at every await point;
one step runs it to the next one.
-/
import IlinkHub.HubExt
import IlinkHub.Queue
import IlinkHub.Registry
import IlinkHub.StoreOp

namespace IlinkHub

open ClientInfo

/-- The pending calls and the replies that were sent to them. -/
structure A2aWaiter where
  pending : List String
  delivered : AList fun _ : String => String

namespace A2aWaiter

def new : A2aWaiter :=
  ⟨[], ∅⟩

def register (waiter : A2aWaiter) (callId : String) : A2aWaiter :=
  { waiter with pending := callId :: waiter.pending }

def resolve (waiter : A2aWaiter) (callId reply : String) : Bool × A2aWaiter :=
  if callId ∈ waiter.pending then
    (true, ⟨waiter.pending.filter (· ≠ callId), waiter.delivered.insert callId reply⟩)
  else
    (false, waiter)

def cancel (waiter : A2aWaiter) (callId : String) : A2aWaiter :=
  { waiter with pending := waiter.pending.filter (· ≠ callId) }

end A2aWaiter

/-- A text sent to the user through the upstream connection. -/
structure OutboundText where
  contextToken : String
  toUserId : String
  text : String
deriving Repr, DecidableEq

/-- What the processes of the Hub share. -/
structure World where
  store : Store
  waiter : A2aWaiter
  queue : InMemoryQueue
  upstream : List OutboundText

/-- How the wait for a reply ends. -/
inductive Wake where
  | reply
  | disconnect
  | timeout
deriving Repr, DecidableEq

/-- What a step finds outside: the clock, whether the store (or the upstream)
answers, the registry as it is read, the verdict of the rate limiter and the end
of a wait. -/
structure Env where
  now : Int
  ok : Bool := true
  registry : ClientRegistry := ClientRegistry.empty
  retryAfterSecs : Option Nat := none
  wake : Wake := .reply

structure CallAgentParams where
  targetName : String
  message : String
  session : Option String := none
deriving Repr, DecidableEq

structure CallAgentContext where
  callerVtoken : String
  vctx : String
  realCtx : String
  peerUserId : String
  a2aDepth : UInt8
deriving Repr, DecidableEq

/-- One call: its arguments, the allowlist and the id that registration draws. -/
structure CallAgent where
  ctx : CallAgentContext
  params : CallAgentParams
  acl : AgentAcl
  callId : String

structure CallParties where
  target : ClientInfo
  callerName : String
  callerPersonaName : Option String
  callerPersonaEmoji : Option String
deriving Repr, DecidableEq

/-- The target's state before the call.  `none` sessions could not be read. -/
structure Snapshot where
  prevActive : Option (String × UInt8)
  preSessions : Option (List String)
deriving Repr, DecidableEq

inductive CallOutcome where
  | reply (text : String)
  | disconnected
  | timedOut
deriving Repr, DecidableEq

structure CallResult where
  text : String
  isError : Bool := false
  session : Option String := none
deriving Repr, DecidableEq

/-- The await points of `release_a2a_grant`. -/
inductive ReleaseStage where
  | deleteGrant
  | inspect
  | restore (name : String) (depth : UInt8)
  | listSessions
  | reclaim (name : String) (rest : List String)
deriving Repr, DecidableEq

/-- The await points of `call_agent`.  A dropped future stays where it is. -/
inductive CallPhase where
  | resolveTarget
  | resolveCaller (target : ClientInfo)
  | snapshotActive (parties : CallParties)
  | snapshotSessions (parties : CallParties) (prevActive : Option (String × UInt8))
  | grant (parties : CallParties) (snap : Snapshot)
  | buildExt (parties : CallParties) (snap : Snapshot)
  | push (parties : CallParties) (snap : Snapshot) (hubExt : Option HubExt)
  | notify (parties : CallParties) (snap : Snapshot)
  | awaitReply (parties : CallParties) (snap : Snapshot)
  | release (parties : CallParties) (snap : Snapshot) (outcome : CallOutcome) (stage : ReleaseStage)
  | notifyReply (parties : CallParties) (text : String)
  | finished (result : CallResult)
  | dropped
deriving Repr, DecidableEq

def callAgentTimeoutSecs : Nat :=
  120

def errorContent (text : String) : CallResult :=
  { text := text, isError := true }

/-- Display handle of an agent: its persona when set, else its name. -/
def personaHandle (backendName : String) (personaName personaEmoji : Option String) : String :=
  match personaEmoji, personaName with
  | some emoji, some name => emoji ++ " " ++ name
  | none, some name => name
  | _, none => backendName

def buildDisplayText (text senderName : String) (personaName personaEmoji :
    Option String) : String :=
  personaHandle senderName personaName personaEmoji ++ "\n" ++ text

/-- The synthetic message that the target sees as a user message. -/
def buildSyntheticMessage (vctx peerUserId text : String)
    (hubExt : Option HubExt) : WeixinMessage :=
  { contextToken := some vctx
    fromUserId := some peerUserId
    messageType := some 1
    itemList := some [{ itemType := some 1, textItem := some { text := some text } }]
    ilinkHubExt := hubExt }

namespace CallAgent

variable (call : CallAgent)

def grantKey : String :=
  "a2a-" ++ call.callId

def replySession : String :=
  call.params.session.getD call.grantKey

/-- Saturating increment. -/
def targetDepth : UInt8 :=
  if call.ctx.a2aDepth = 255 then 255 else call.ctx.a2aDepth + 1

def pair (parties : CallParties) : PairKey :=
  ⟨call.ctx.vctx, parties.target.vtoken⟩

def start : CallPhase :=
  .resolveTarget

/-- The extension block of the synthetic message: the reply session, with the
call id that routes the reply to the waiter. -/
def buildHubExtForA2a (store : Store) (parties : CallParties) (readOk : Bool) : Option HubExt :=
  (buildHubExtForVctx store (call.pair parties) (some call.replySession) readOk).map fun ext =>
      { ext with
        a2aCallId := some call.callId
        a2aDepth := some call.targetDepth }

def syntheticMessage (hubExt : Option HubExt) : WeixinMessage :=
  buildSyntheticMessage call.ctx.vctx call.ctx.peerUserId call.params.message hubExt

/-- The write that the call has in flight at an await point. -/
def releaseOp (parties : CallParties) : ReleaseStage → StoreOp
  | .deleteGrant =>
    .deleteActiveSessionIfName (call.pair parties) call.grantKey
  | .restore name depth =>
    .setActiveSessionWithDepth (call.pair parties) name depth
  | .reclaim name _ => .deleteBackendSession (call.pair parties) name
  | .inspect | .listSessions => .skip

def op : CallPhase → StoreOp
  | .grant parties _ =>
    .setActiveSessionWithDepth (call.pair parties) call.grantKey call.targetDepth
  | .release parties _ _ stage => call.releaseOp parties stage
  | _ => .skip

/-- What the call does once its authorization is released. -/
def afterRelease (parties : CallParties) : CallOutcome → CallPhase
  | .reply text => .notifyReply parties text
  | .disconnected => .finished (errorContent
      ("Agent '" ++ parties.target.name ++ "' disconnected before replying."))
  | .timedOut => .finished (errorContent
      ("Agent '" ++ parties.target.name ++ "' did not reply within " ++
        toString callAgentTimeoutSecs ++ " seconds."))

/-- Reclaim the sessions that are left, or end the release. -/
def reclaimNext (parties : CallParties) (snap : Snapshot)
    (outcome : CallOutcome) : List String → CallPhase
  | [] => afterRelease parties outcome
  | name :: rest => .release parties snap outcome (.reclaim name rest)

/-- The next await point of the release. -/
def releaseNext (store : Store) (ok : Bool) (parties : CallParties)
    (snap : Snapshot) (outcome : CallOutcome) : ReleaseStage → CallPhase
  | .deleteGrant => .release parties snap outcome .inspect
  | .inspect =>
    match ok, store.getActiveSessionRow (call.pair parties), snap.prevActive with
    | true, none, some (name, depth) =>
      .release parties snap outcome (.restore name depth)
    | _, _, _ => .release parties snap outcome .listSessions
  | .restore _ _ => .release parties snap outcome .listSessions
  | .listSessions =>
    match snap.preSessions, ok with
    | some names, true =>
      reclaimNext parties snap outcome (((store.listBackendSessions (call.pair parties)).map
          BackendSessionRow.sessionName).filter fun name => name ∉ names)
    | _, _ => afterRelease parties outcome
  | .reclaim _ rest => reclaimNext parties snap outcome rest

/-- The allowlist gate, and the parties of a call that passes it. -/
def gate (registry : ClientRegistry) (target : ClientInfo) : CallPhase :=
  let caller := registry.getByVtoken call.ctx.callerVtoken
  let callerName := (caller.map name).getD "unknown"
  if call.acl.allowsA2a callerName target.name then
    .snapshotActive ⟨target, callerName,
      caller.bind personaName, caller.bind personaEmoji⟩
  else
    .finished (errorContent ("403: agent '" ++ target.name ++
      "' is not authorized for A2A calls from '" ++ callerName ++ "'"))

def next (world : World) (env : Env) : CallPhase → CallPhase
  | .resolveTarget =>
    match env.registry.getByAlias call.params.targetName with
    | some target => .resolveCaller target
    | none => .finished (errorContent ("Agent '" ++ call.params.targetName ++
        "' not found or not registered."))
  | .resolveCaller target => call.gate env.registry target
  | .snapshotActive parties =>
    .snapshotSessions parties (if env.ok then world.store.getActiveSessionRow (call.pair parties)
        else none)
  | .snapshotSessions parties prevActive =>
    .grant parties ⟨prevActive,
      if env.ok then
        some ((world.store.listBackendSessions (call.pair parties)).map
          BackendSessionRow.sessionName)
      else none⟩
  | .grant parties snap => .buildExt parties snap
  | .buildExt parties snap =>
    .push parties snap (call.buildHubExtForA2a world.store parties env.ok)
  | .push parties snap _ => .notify parties snap
  | .notify parties snap => .awaitReply parties snap
  | .awaitReply parties snap =>
    match env.wake, world.waiter.delivered.lookup call.callId with
    | .reply, some text => .release parties snap (.reply text) .deleteGrant
    | .reply, none => .awaitReply parties snap
    | .disconnect, _ => .release parties snap .disconnected .deleteGrant
    | .timeout, _ => .release parties snap .timedOut .deleteGrant
  | .release parties snap outcome stage =>
    call.releaseNext world.store env.ok parties snap outcome stage
  | .notifyReply _ text =>
    .finished { text := text, session := some call.replySession }
  | .finished result => .finished result
  | .dropped => .dropped

/-- Registration happens in the same stretch as the gate; giving up removes the
entry. -/
def waiterAfter (world : World) (env : Env) : CallPhase → A2aWaiter
  | .resolveCaller target =>
    match call.gate env.registry target with
    | .snapshotActive _ => world.waiter.register call.callId
    | _ => world.waiter
  | .awaitReply _ _ =>
    match env.wake with
    | .reply => world.waiter
    | .disconnect | .timeout => world.waiter.cancel call.callId
  | _ => world.waiter

def queueAfter (queue : InMemoryQueue) : CallPhase → InMemoryQueue
  | .push parties _ hubExt =>
    (queue.push parties.target.vtoken (call.syntheticMessage hubExt)).2
  | _ => queue

/-- The two notifications: the question in the caller's name, the answer in the
target's. -/
def notification : CallPhase → Option OutboundText
  | .notify parties _ =>
    some ⟨call.ctx.realCtx, call.ctx.peerUserId, buildDisplayText
        ("@" ++ personaHandle parties.target.name parties.target.personaName
          parties.target.personaEmoji ++ "\n" ++ call.params.message)
        parties.callerName parties.callerPersonaName
        parties.callerPersonaEmoji⟩
  | .notifyReply parties text =>
    some ⟨call.ctx.realCtx, call.ctx.peerUserId, buildDisplayText
        ("@" ++ personaHandle parties.callerName parties.callerPersonaName
          parties.callerPersonaEmoji ++ "\n" ++ text)
        parties.target.name parties.target.personaName
        parties.target.personaEmoji⟩
  | _ => none

/-- Run the call from one await point to the next. -/
def step (world : World) (phase : CallPhase) (env : Env) : World × CallPhase :=
  ({ store := world.store.attempt env.ok env.now (call.op phase)
     waiter := call.waiterAfter world env phase
     queue := call.queueAfter world.queue phase
     upstream := world.upstream ++
       if env.ok then (call.notification phase).toList else [] },
    call.next world env phase)

/-- The future is dropped at an await point.  The write in flight there may
still reach the store; nothing else runs. -/
def drop (world : World) (phase : CallPhase) (applied : Bool) (now : Int) : World × CallPhase :=
  match phase with
  | .finished result => (world, .finished result)
  | phase =>
    ({ world with store := world.store.attempt applied now (call.op phase) }, .dropped)

end CallAgent

/-- The parties, once the gate is passed and until the result is ready. -/
def CallPhase.parties : CallPhase → Option CallParties
  | .snapshotActive parties | .snapshotSessions parties _ | .grant parties _
  | .buildExt parties _ | .push parties _ _ | .notify parties _
  | .awaitReply parties _ | .release parties _ _ _ | .notifyReply parties _ =>
    some parties
  | .resolveTarget | .resolveCaller _ | .finished _ | .dropped => none

end IlinkHub
