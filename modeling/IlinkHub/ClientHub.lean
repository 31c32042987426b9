/-
The operations on clients, each one run to its end (`server/pairing.rs`,
`POST /hub/register` in `server/routes/bot.rs` and `/use` in `hub/commands.rs`):
what it leaves in the registry, the router and the tables, and what it answers.
`ok` has the answers of the store to the writes of one operation in their order.
-/
import IlinkHub.ClientNames
import IlinkHub.ClientTables
import IlinkHub.DispatchTask

namespace IlinkHub

open KeyedRegistry

structure ClientHub where
  registry : KeyedRegistry
  router : Router
  tables : ClientTables

/-- A token that is drawn and its hash. -/
structure VtokenDraw where
  uuid : String
  hashed : String
deriving Repr, DecidableEq

def VtokenDraw.plaintext (draw : VtokenDraw) : String :=
  "vhub_" ++ draw.uuid

/-- The plaintext of a name that was registered before is not known. -/
structure RegisterClientOutcome where
  plaintext : String
  hashed : String
  isNew : Bool
deriving Repr, DecidableEq

inductive UnregisterClientError where
  | notFound
  | stillOnline
  | store
deriving Repr, DecidableEq

structure RevokeClientOutcome where
  name : String
  plaintext : String
  hashed : String
deriving Repr, DecidableEq

inductive RevokeClientError where
  | notFound
  | store
deriving Repr, DecidableEq

inductive UpdateInHubError where
  | notFound
  | nameTaken
  | invalidName
  | store
deriving Repr, DecidableEq

structure RegisterRequest where
  name : String
  label : Option String := none
  description : Option String := none
  personaName : Option String := none
  personaEmoji : Option String := none
deriving Repr, DecidableEq

structure RegisterResponse where
  status : Nat
  ret : Int
  vtoken : String := ""
  baseUrl : String := ""
  errmsg : Option String := none
deriving Repr, DecidableEq

def maxClientNameLen : Nat :=
  64

/-- What the route says about a request before it registers anything.  The bound
is one of bytes, and the name is trimmed for it alone. -/
def RegisterRequest.rejected (req : RegisterRequest) : Option RegisterResponse :=
  let name := Text.trim req.name
  if name = "" ∨ maxClientNameLen < name.utf8ByteSize then
    some
      { status := 400, ret := 400
        errmsg := some ("name must be 1–" ++ toString maxClientNameLen ++ " characters") }
  else if req.label.any fun label =>
      maxClientNameLen < label.utf8ByteSize then
    some
      { status := 400, ret := 400
        errmsg := some ("label must be at most " ++ toString maxClientNameLen ++ " characters") }
  else none

/-- The description of a client, given or taken away. -/
def KeyedRegistry.setDescription (registry : KeyedRegistry) (vtoken : String)
    (description : Option String) : KeyedRegistry :=
  registry.adjust vtoken (fun client => { client with description := description })
    (fun _ => rfl) (fun _ => rfl)

namespace ClientHub

def new : ClientHub :=
  ⟨.new, .new none, .empty⟩

variable (hub : ClientHub) (ok : Nat → Bool)

/-- A write whose failure is only logged. -/
def persist (ok : Bool) (write : ClientTables → Option ClientTables) : ClientHub :=
  { hub with
    tables := if ok then (write hub.tables).getD hub.tables else hub.tables }

def registerClientInHub (name : String) (label description : Option String) (draw : VtokenDraw)
    (hdrawn : hub.registry.byVtoken.lookup draw.hashed = none) :
    RegisterClientOutcome × ClientHub :=
  let result := hub.registry.register name label description draw.hashed hdrawn
  let hashed := result.1
  let isNew := result.2.1
  let joined : ClientHub :=
  { hub with registry := result.2.2 }
  let isFirst := isNew && joined.registry.values.length == 1
  let chosen :=
    if isFirst then
      { joined with router := joined.router.setDefault hashed }.persist (ok 0)
        fun tables => some (tables.setRoute hubDefaultSentinel hashed)
    else joined
  (⟨if isNew then draw.plaintext else "", hashed, isNew⟩,
    chosen.persist (ok 1) fun tables => tables.upsertClient hashed name label)

/-- `none` is a name that is taken.  The first client becomes the default, which
is not written down. -/
def registerConfirmedClientInHub (name : String)
    (label description : Option String) (draw : VtokenDraw)
    (hdrawn : hub.registry.byVtoken.lookup draw.hashed = none) :
    Option (RegisterClientOutcome × ClientHub) :=
  (hub.registry.registerConfirmed name label description draw.hashed hdrawn).map fun registry =>
    let joined : ClientHub :=
  { hub with registry := registry }
    let chosen :=
      if joined.registry.values.length = 1 then
        { joined with router := joined.router.setDefault draw.hashed }
      else joined
    (⟨draw.plaintext, draw.hashed, true⟩, chosen.persist (ok 0) fun tables =>
        tables.upsertClient draw.hashed name label)

def unregisterClientInHub (name : String) (force : Bool) (tie : Nat) :
    Except UnregisterClientError Unit × ClientHub :=
  match hub.registry.getByName name with
  | none => (.error .notFound, hub)
  | some client =>
    if client.online ∧ ¬ force then (.error .stillOnline, hub)
    else
      let result := hub.registry.remove name
      if result.1 then
        let removed : ClientHub :=
          { hub with
            registry := result.2
            router := hub.router.removeRoutesForVtoken client.vtoken
              (result.2.pickDefaultAfterRemove client.vtoken tie) }
        if ok 0 then
          let cleared := removed.tables.clearRoutesForVtoken client.vtoken
          if ok 1 then
            (.ok (), { removed with tables := cleared.deleteClientByName name })
          else (.error .store, { removed with tables := cleared })
        else (.error .store, removed)
      else (.error .notFound, hub)

def revokeClientInHub (name : String) (draw : VtokenDraw) (tie : Nat)
    (hdrawn : hub.registry.byVtoken.lookup draw.hashed = none) :
    Except RevokeClientError RevokeClientOutcome × ClientHub :=
  match hub.registry.getByName name, hub.registry.rotateVtoken name draw.hashed hdrawn with
  | some client, some (_, registry) =>
    let rotated : ClientHub :=
      { hub with
        registry := registry
        router := hub.router.removeRoutesForVtoken client.vtoken
          (registry.pickDefaultAfterRemove client.vtoken tie) }
    if ok 0 then
      let revoked := rotated.tables.clearRoutesForVtoken client.vtoken
      match if ok 1 then revoked.upsertClient draw.hashed name client.label
          else none with
      | some tables =>
        (.ok ⟨name, draw.plaintext, draw.hashed⟩, { rotated with tables := tables })
      | none => (.error .store, { rotated with tables := revoked })
    else (.error .store, rotated)
  | _, _ => (.error .notFound, hub)

def updateClientInHub (oldName newName : String) (label personaName personaEmoji : Option String) :
    Except UpdateInHubError String × ClientHub :=
  let newName := Text.trim newName
  if newName = "" then (.error .invalidName, hub)
  else
    match hub.registry.updateClient oldName newName label with
    | .error .notFound => (.error .notFound, hub)
    | .error .nameTaken => (.error .nameTaken, hub)
    | .ok (vtoken, registry) =>
      let updated : ClientHub :=
        { hub with
          registry := registry.setPersona vtoken personaName personaEmoji }
      match if ok 0 then
          updated.tables.updateClientByVtoken vtoken newName label
          else none with
      | none => (.error .store, updated)
      | some tables =>
        if ok 1 then
          (.ok vtoken,
            { updated with
              tables := tables.updateClientPersona vtoken personaName personaEmoji })
        else (.error .store, { updated with tables := tables })

/-- The persona of a request that gives a part of it. -/
def applyPersona (ok : Bool) (req : RegisterRequest) (hashed : String) : ClientHub :=
  if req.personaName.isSome ∨ req.personaEmoji.isSome then
    { hub with
      registry := hub.registry.setPersona hashed req.personaName
        req.personaEmoji }.persist ok fun tables =>
      some (tables.updateClientPersona hashed req.personaName req.personaEmoji)
  else hub

/-- The description of a request, unless it is empty. -/
def applyDescription (ok : Bool) (req : RegisterRequest) (hashed : String) : ClientHub :=
  match req.description with
  | some text =>
    if text = "" then hub
    else
      { hub with
        registry := hub.registry.setDescription hashed (some text) }.persist ok fun tables =>
        some (tables.updateClientDescription hashed text)
  | none => hub

/-- The route.  It learns from the outcome that the name was registered
before. -/
def register (req : RegisterRequest) (draw : VtokenDraw)
    (hdrawn : hub.registry.byVtoken.lookup draw.hashed = none) : RegisterResponse × ClientHub :=
  match req.rejected with
  | some response => (response, hub)
  | none =>
    let (outcome, joined) := hub.registerClientInHub ok req.name req.label
      req.description draw hdrawn
    if outcome.plaintext = "" then
      ({ status := 409, ret := 409
         errmsg := some ("client name '" ++ req.name ++
          "' is already registered; use --force-register to replace it") },
        joined)
    else
      ({ status := 200, ret := 0, vtoken := outcome.plaintext },
        (joined.applyPersona (ok 2) req outcome.hashed).applyDescription (ok 3) req outcome.hashed)

def handleCmdUse (acl : AgentAcl) (fromUserId name : String) : String × ClientHub :=
  let visible := wechatVisible acl fromUserId hub.registry.toClientRegistry
  match hub.registry.getByAliasIn name visible with
  | some client =>
    if ok 0 then
      ("✅ 已切换到 `" ++ client.name ++ "`",
        { hub with
          tables := hub.tables.setRoute fromUserId client.vtoken
          router := hub.router.setRoute fromUserId client.vtoken })
    else
      ("⚠️ 切换到 `" ++ client.name ++ "` 失败（数据库写入错误），请重试", hub)
  | none =>
    ("❌ 未找到名为 `" ++ name ++ "` 的后端。用 `/list`（或 `/ls`）" ++ "查看可用后端（支持用序号，如 `/use 1`）。", hub)

end ClientHub

/-- The operations that the routing and the data of clients come from. -/
inductive ClientOp where
  | register (req : RegisterRequest) (draw : VtokenDraw)
  | registerConfirmed (name : String) (label : Option String) (draw : VtokenDraw)
  | unregister (name : String) (force : Bool) (tie : Nat)
  | revoke (name : String) (draw : VtokenDraw) (tie : Nat)
  | update (oldName newName : String) (label personaName personaEmoji : Option String)
  | useClient (fromUserId name : String)
deriving Repr, DecidableEq

namespace ClientHub

/-- One operation with a store that answers.  A token that is drawn is never one
that is registered, and a pairing has no description. -/
def step (acl : AgentAcl) (hub : ClientHub) : ClientOp → ClientHub
  | .register req draw =>
    if hdrawn : hub.registry.byVtoken.lookup draw.hashed = none then
      (hub.register (fun _ => true) req draw hdrawn).2
    else hub
  | .registerConfirmed name label draw =>
    if hdrawn : hub.registry.byVtoken.lookup draw.hashed = none then
      match hub.registerConfirmedClientInHub (fun _ => true) name label none draw hdrawn with
      | some result => result.2
      | none => hub
    else hub
  | .unregister name force tie =>
    (hub.unregisterClientInHub (fun _ => true) name force tie).2
  | .revoke name draw tie =>
    if hdrawn : hub.registry.byVtoken.lookup draw.hashed = none then
      (hub.revokeClientInHub (fun _ => true) name draw tie hdrawn).2
    else hub
  | .update oldName newName label personaName personaEmoji =>
    (hub.updateClientInHub (fun _ => true) oldName newName label personaName personaEmoji).2
  | .useClient fromUserId name =>
    (hub.handleCmdUse (fun _ => true) acl fromUserId name).2

section Outcomes
variable {hub : ClientHub} (ok : Nat → Bool) {name : String}
  (label description : Option String) {draw : VtokenDraw} {info : ClientInfo}

/-- A name that is registered again keeps its token, and no default is chosen. -/
theorem registerClientInHub_known (hinfo : hub.registry.getByName name = some info)
    (hdrawn : hub.registry.byVtoken.lookup draw.hashed = none) :
    ∃ next,
      hub.registerClientInHub ok name label description draw hdrawn = (⟨"", info.vtoken, false⟩,
          { hub with registry := next }.persist (ok 1) fun tables =>
            tables.upsertClient info.vtoken name label) ∧
      next.getByName = Function.update hub.registry.getByName name
        (some (reregistered label description info)) := by
  obtain ⟨next, hnext, hfind⟩ := register_known hinfo hdrawn
  refine ⟨next, ?_, hfind⟩
  simp only [registerClientInHub, hnext]
  rfl

/-- A new name gets the token that was drawn; the first one is the default, and
this is written down. -/
theorem registerClientInHub_new (hnone : hub.registry.getByName name = none)
    (hdrawn : hub.registry.byVtoken.lookup draw.hashed = none) :
    ∃ next,
      hub.registerClientInHub ok name label description draw hdrawn =
        (⟨draw.plaintext, draw.hashed, true⟩, (if hub.registry.values = [] then
            { hub with
              registry := next
              router := hub.router.setDefault draw.hashed }.persist (ok 0)
              fun tables =>
                some (tables.setRoute hubDefaultSentinel draw.hashed)
          else
      { hub with registry := next }).persist (ok 1) fun tables =>
            tables.upsertClient draw.hashed name label) ∧
      next.getByName = Function.update hub.registry.getByName name
        (some (.withHashedVtoken name label description draw.hashed)) := by
  obtain ⟨next, hnext, hlength, hfind⟩ :=
    register_new hnone hdrawn
  refine ⟨next, ?_, hfind⟩
  simp only [registerClientInHub, hnext, hlength]
  by_cases hempty : hub.registry.values = []
  · simp
  · simp

end Outcomes

end ClientHub

end IlinkHub
