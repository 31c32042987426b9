/-
The client registry (`hub/registry.rs`) and the agent allowlist
(`hub/acl.rs`), as far as dispatch and agent calls read them.
-/
import Mathlib.Data.List.AList
import Mathlib.Data.List.Sort
import IlinkHub.Text

namespace IlinkHub

structure ClientInfo where
  name : String
  vtoken : String
  label : Option String := none
  description : Option String := none
  online : Bool := false
  personaName : Option String := none
  personaEmoji : Option String := none
deriving Repr, DecidableEq

structure ClientRegistry where
  byVtoken : AList fun _ : String => ClientInfo
  byName : AList fun _ : String => String

namespace ClientRegistry

def empty : ClientRegistry :=
  ⟨∅, ∅⟩

/-- A registry with these clients, each under its own token and name. -/
def ofClients (clients : List ClientInfo) : ClientRegistry :=
  clients.foldl (fun registry client =>
      ⟨registry.byVtoken.insert client.vtoken client,
        registry.byName.insert client.name client.vtoken⟩) empty

def getByVtoken (registry : ClientRegistry) (vtoken : String) : Option ClientInfo :=
  registry.byVtoken.lookup vtoken

def getByName (registry : ClientRegistry) (name : String) : Option ClientInfo :=
  (registry.byName.lookup name).bind registry.byVtoken.lookup

def values (registry : ClientRegistry) : List ClientInfo :=
  registry.byVtoken.entries.map fun entry => entry.2

/-- All clients, or those whose name is in the allowlist. -/
def allClientsIn (registry : ClientRegistry) (allowed : Option (List String)) : List ClientInfo :=
  match allowed with
  | none => registry.values
  | some names => registry.values.filter fun client => client.name ∈ names

def onlineClients (registry : ClientRegistry) : List ClientInfo :=
  registry.values.filter ClientInfo.online

/-- A client by its name, else by its position in the visible list ordered by
name. -/
def getByAliasIn (registry : ClientRegistry) (name : String)
    (allowed : Option (List String)) : Option ClientInfo :=
  match registry.getByName name with
  | some client =>
    if allowed.all fun names => client.name ∈ names then some client else none
  | none =>
    match Text.parseUnsigned 64 name with
    | none | some 0 => none
    | some (n + 1) =>
      ((registry.allClientsIn allowed).insertionSort fun left right => left.name ≤ right.name)[n]?

def getByAlias (registry : ClientRegistry) (name : String) : Option ClientInfo :=
  registry.getByAliasIn name none

end ClientRegistry

/-- The parsed allowlist: edges between agents, and the backends each user may
see. -/
structure AgentAcl where
  a2a : AList fun _ : String => List String
  wechatUsers : AList fun _ : String => List String
  wechatPublic : List String

namespace AgentAcl

def wildcard : String :=
  "*"

def allowsA2a (acl : AgentAcl) (caller target : String) : Bool :=
  let grants := fun targets : List String =>
    targets.contains target || targets.contains wildcard
  (acl.a2a.lookup caller).any grants || (acl.a2a.lookup wildcard).any grants

/-- The backends a user may select; `none` when no such entry is configured. -/
def wechatVisible (acl : AgentAcl) (userId : String)
    (registered : List String) : Option (List String) :=
  if acl.wechatPublic.isEmpty && acl.wechatUsers.entries.isEmpty then
    none
  else
    some ((acl.wechatPublic ++ (acl.wechatUsers.lookup userId).getD []).filter
      fun name => registered.contains name)

end AgentAcl

end IlinkHub
