/-
What the handlers of the Hub share (`hub/state.rs`), with the tables of the
store that hold tokens of backends, and the places where a token can stand.  Each
operation gets one lemma about the tokens that it leaves behind.
-/
import IlinkHub.Dispatch
import IlinkHub.KeyedRegistry
import IlinkHub.Quote

namespace IlinkHub

open Query

/-- `routingState` and `clients` are the tables of these names, `messages` the
replies in the history, and `saves` the replies whose save is spawned and not
done yet. -/
structure HubData where
  world : World
  registry : KeyedRegistry
  router : Router
  routingState : AList fun _ : String => String
  clients : AList fun _ : String => String
  messages : List MessageRow
  saves : List MessageRow
  lastSeen : AList fun _ : String => Int

/-- What does not change while the Hub runs: the allowlist, the database and the
switch of the footer. -/
structure HubConfig where
  acl : AgentAcl
  kind : DatabaseKind := .sqlite
  outboundOriginLabel : Option String := none

/-- What a step finds outside: the clock, whether the store answers, the choice
of an unordered query, the hash of a token that is drawn, the verdicts of the
limiters, the end of a wait and drawn ids. -/
structure HubEnv where
  now : Int := 0
  ok : Bool := true
  tie : Nat := 0
  drawn : String := ""
  retryAfterSecs : Option Nat := none
  admitted : Bool := true
  wake : Wake := .reply
  newClientId : String := ""
  newOutboundMsgId : Int := 0

def HubEnv.toEnv (env : HubEnv) (registry : ClientRegistry) : Env :=
  { now := env.now, ok := env.ok, registry := registry,
    retryAfterSecs := env.retryAfterSecs, wake := env.wake }

/-- Where the token of a backend can stand outside of the registry. -/
inductive Place where
  | router
  | routingState
  | activeSessions
  | backendSessions
  | queue
  | lastSeen
  | messages
  | saves
deriving Repr, DecidableEq

/-- The key under which the default client is kept among the routes. -/
def hubDefaultSentinel : String :=
  "__hub_default__"

namespace HubData

variable (data : HubData)

def At : Place → String → Prop
  | .router, vtoken => data.router.Mentions vtoken
  | .routingState, vtoken =>
    ∃ fromUser, data.routingState.lookup fromUser = some vtoken
  | .activeSessions, vtoken =>
    ∃ vctx, (data.world.store.active.lookup ⟨vctx, vtoken⟩).isSome = true
  | .backendSessions, vtoken => ∃ vctx sessionName,
      (data.world.store.backend.lookup ⟨⟨vctx, vtoken⟩, sessionName⟩).isSome = true
  | .queue, vtoken => (data.world.queue.slots.lookup vtoken).isSome = true
  | .lastSeen, vtoken => (data.lastSeen.lookup vtoken).isSome = true
  | .messages, vtoken => ∃ row ∈ data.messages, row.vtoken = some vtoken
  | .saves, vtoken => ∃ row ∈ data.saves, row.vtoken = some vtoken

def withStore (store : Store) : HubData :=
  { data with world := { data.world with store := store } }

def withQueue (queue : InMemoryQueue) : HubData :=
  { data with world := { data.world with queue := queue } }

def setRoute (fromUser vtoken : String) : HubData :=
  { data with routingState := data.routingState.insert fromUser vtoken }

/-- The routes of the token that the client had follow it to the new one.
`none` is a token that belongs to another client. -/
def upsertClient (vtoken name : String) : Option HubData :=
  if data.clients.entries.all fun row => row.1 = name ∨ row.2 ≠ vtoken then
    some { data with
      routingState :=
        match data.clients.lookup name with
        | some old => mapValues
            (fun own => if own = old then vtoken else own) data.routingState
        | none => data.routingState
      clients := data.clients.insert name vtoken }
  else none

def clearRoutesForVtoken (vtoken : String) : HubData :=
  { data with
    routingState := retain (fun _ own => own ≠ vtoken) data.routingState }

def deleteClientByName (name : String) : HubData :=
  { data with clients := data.clients.erase name }

/-- A new name for the row of the token; `none` is a name that is taken. -/
def updateClientByVtoken (vtoken name : String) : Option HubData :=
  match data.clients.entries.find? fun row => row.2 = vtoken with
  | none => some data
  | some row =>
    if row.1 ≠ name ∧ (data.clients.lookup name).isSome then none
    else some { data with
      clients := (data.clients.erase row.1).insert name vtoken }

/-- All three kinds of rows of the token go in one transaction. -/
def revokeAuthorizationsForVtoken (vtoken : String) : HubData :=
  { data.clearRoutesForVtoken vtoken with
    world := { data.world with
      store := { data.world.store with
        active := retain (fun pair _ => pair.vtoken ≠ vtoken) data.world.store.active
        backend := retain (fun key _ => key.pair.vtoken ≠ vtoken) data.world.store.backend } } }

/-- Every token that stands somewhere afterwards stood there before, or is one
of these. -/
def Writes (before after : HubData) (tokens : List String) : Prop :=
  ∀ place vtoken, after.At place vtoken → before.At place vtoken ∨ vtoken ∈ tokens

end HubData

/-- The token whose row an operation may create. -/
def StoreOp.tokens : StoreOp → List String
  | .setActiveSessionName pair _ | .setActiveSessionWithDepth pair _ _
  | .setBackendSession pair _ _ | .setBackendSessionUsage pair _ _ =>
    [pair.vtoken]
  | .skip | .deleteActiveSessionIfName _ _ | .deleteBackendSession _ _ => []

namespace Store

variable {store : Store} {ok : Bool} {now : Int} {op : StoreOp}

lemma active_of_attempt {pair : PairKey}
    (hrow : ((store.attempt ok now op).active.lookup pair).isSome = true) :
    (store.active.lookup pair).isSome = true ∨ pair.vtoken ∈ op.tokens := by
  by_cases hpair : op.activePair = some pair
  · cases op with
    | setActiveSessionName target name =>
      cases hpair
      exact .inr List.mem_cons_self
    | setActiveSessionWithDepth target name depth =>
      cases hpair
      exact .inr List.mem_cons_self
    | deleteActiveSessionIfName target name =>
      left
      cases ok with
      | false => exact hrow
      | true =>
        rw [attempt_ok, apply, lookup_deleteActiveSessionIfName] at hrow
        split at hrow
        · cases hrow
        · exact hrow
    | _ => cases hpair
  · rw [active_lookup_attempt_of_ne hpair] at hrow
    exact .inl hrow

lemma backend_of_attempt {key : SessionKey}
    (hrow : ((store.attempt ok now op).backend.lookup key).isSome = true) :
    (store.backend.lookup key).isSome = true ∨ key.pair.vtoken ∈ op.tokens := by
  by_cases hkey : op.backendKey = some key
  · cases op with
    | setBackendSession target name id =>
      cases hkey
      exact .inr List.mem_cons_self
    | setBackendSessionUsage target name usage =>
      cases hkey
      exact .inr List.mem_cons_self
    | deleteBackendSession target name =>
      left
      cases ok with
      | false => exact hrow
      | true =>
        rw [attempt_ok, apply, lookup_deleteBackendSession] at hrow
        split at hrow
        · cases hrow
        · exact hrow
    | _ => cases hkey
  · rw [backend_lookup_attempt_of_ne hkey] at hrow
    exact .inl hrow

end Store

/-- The slots of a queue afterwards, up to these tokens. -/
def InMemoryQueue.Within (before after : InMemoryQueue) (tokens : List String) : Prop :=
  ∀ vtoken, (after.slots.lookup vtoken).isSome = true →
    (before.slots.lookup vtoken).isSome = true ∨ vtoken ∈ tokens

namespace InMemoryQueue

variable (queue : InMemoryQueue) (own : String)

lemma within_withSlot (slot : PerClientSlot) : queue.Within (queue.withSlot own slot) [own] := by
  intro vtoken hslot
  rw [withSlot, lookup_insert] at hslot
  split at hslot
  · next hsame => exact .inr (List.mem_singleton.mpr hsame)
  · exact .inl hslot

lemma within_poll (ack : Option Nat) : queue.Within (queue.poll own ack).2 [] := by
  intro vtoken hslot
  left
  unfold poll at hslot
  split at hslot
  · next slot hown =>
    rw [withSlot, lookup_insert] at hslot
    split at hslot
    · next hsame =>
      subst hsame
      exact Option.isSome_of_mem hown
    · exact hslot
  · exact hslot

lemma lookup_removeClient (vtoken : String) : (queue.removeClient own).slots.lookup vtoken =
      if vtoken = own then none else queue.slots.lookup vtoken :=
  lookup_erase ..

end InMemoryQueue

namespace HubData

variable {data after : HubData} {tokens : List String}

lemma writes_refl : data.Writes data tokens :=
  fun _ _ hat => .inl hat

lemma Writes.mono (hwrites : data.Writes after tokens)
    {more : List String} (hsub : tokens ⊆ more) : data.Writes after more :=
  fun place vtoken hat => (hwrites place vtoken hat).imp_right fun h => hsub h

lemma writes_world {world : World}
    (hactive : ∀ pair, (world.store.active.lookup pair).isSome = true →
      (data.world.store.active.lookup pair).isSome = true ∨ pair.vtoken ∈ tokens)
    (hbackend : ∀ key, (world.store.backend.lookup key).isSome = true →
      (data.world.store.backend.lookup key).isSome = true ∨ key.pair.vtoken ∈ tokens)
    (hqueue : data.world.queue.Within world.queue tokens) :
    data.Writes { data with world := world } tokens := by
  intro place vtoken hat
  cases place with
  | activeSessions =>
    obtain ⟨vctx, hrow⟩ := hat
    exact (hactive _ hrow).imp_left fun h => ⟨vctx, h⟩
  | backendSessions =>
    obtain ⟨vctx, name, hrow⟩ := hat
    exact (hbackend _ hrow).imp_left fun h => ⟨vctx, name, h⟩
  | queue => exact hqueue vtoken hat
  | _ => exact .inl hat

lemma writes_attempt (ok : Bool) (now : Int) (op : StoreOp) :
    data.Writes (data.withStore (data.world.store.attempt ok now op)) op.tokens :=
  writes_world (fun _ => Store.active_of_attempt)
    (fun _ => Store.backend_of_attempt) (fun _ hslot => .inl hslot)

lemma writes_sameGrants {store : Store} (hsame : store.SameGrants data.world.store) :
    data.Writes (data.withStore store) [] := by
  apply writes_world
  · intro pair hrow
    rw [← hsame.active]
    exact .inl hrow
  · intro key hrow
    rw [← hsame.backend]
    exact .inl hrow
  · exact fun _ hslot => .inl hslot

lemma writes_queue {queue : InMemoryQueue} (hqueue : data.world.queue.Within queue tokens) :
    data.Writes (data.withQueue queue) tokens :=
  writes_world (fun _ => .inl) (fun _ => .inl) hqueue

lemma writes_registry (registry : KeyedRegistry) :
    data.Writes { data with registry := registry } tokens :=
  fun _ _ hat => .inl hat

lemma writes_router {router : Router}
    (hmentions : ∀ vtoken, router.Mentions vtoken → data.router.Mentions vtoken ∨ vtoken ∈ tokens) :
    data.Writes { data with router := router } tokens := by
  intro place vtoken hat
  cases place with
  | router => exact hmentions vtoken hat
  | _ => exact .inl hat

lemma writes_routingState {routes : AList fun _ => String}
    (hroutes : ∀ fromUser vtoken, routes.lookup fromUser = some vtoken →
      data.routingState.lookup fromUser = some vtoken ∨ vtoken ∈ tokens) :
    data.Writes { data with routingState := routes } tokens := by
  intro place vtoken hat
  cases place with
  | routingState =>
    obtain ⟨fromUser, hroute⟩ := hat
    exact (hroutes fromUser vtoken hroute).imp_left fun h => ⟨fromUser, h⟩
  | _ => exact .inl hat

lemma writes_setRoute (fromUser vtoken : String) :
    data.Writes (data.setRoute fromUser vtoken) [vtoken] := by
  apply writes_routingState
  intro user own hroute
  rw [lookup_insert] at hroute
  split at hroute
  · exact .inr (List.mem_singleton.mpr (Option.some.inj hroute).symm)
  · exact .inl hroute

variable {vtoken name : String}

lemma writes_upsertClient (hafter : data.upsertClient vtoken name = some after) :
    data.Writes after [vtoken] := by
  unfold upsertClient at hafter
  split at hafter
  · cases hafter
    have hroutes : ∀ fromUser own, (match data.clients.lookup name with
          | some old => mapValues
              (fun own => if own = old then vtoken else own) data.routingState
          | none => data.routingState).lookup fromUser = some own →
        data.routingState.lookup fromUser = some own ∨ own ∈ [vtoken] := by
      intro fromUser own hroute
      split at hroute
      · rw [lookup_mapValues] at hroute
        obtain ⟨old, hold, hown⟩ := Option.map_eq_some_iff.mp hroute
        split at hown
        · exact .inr (List.mem_singleton.mpr hown.symm)
        · exact .inl (hown ▸ hold)
      · exact .inl hroute
    exact writes_routingState hroutes
  · cases hafter

lemma writes_clearRoutes (vtoken : String) : data.Writes (data.clearRoutesForVtoken vtoken) [] := by
  apply writes_routingState
  intro user own hroute
  rw [lookup_retain, Option.filter_eq_some_iff] at hroute
  exact .inl hroute.1

lemma writes_updateClient (hafter : data.updateClientByVtoken vtoken name = some after) :
    data.Writes after [] := by
  unfold updateClientByVtoken at hafter
  split at hafter
  · cases hafter
    exact writes_refl
  · split at hafter
    · cases hafter
    · cases hafter
      exact fun _ _ hat => .inl hat

/-- Rows of clients and routes may differ, nothing else that a handler looks
at. -/
structure SameMemory (data after : HubData) : Prop where
  registry : after.registry = data.registry
  router : after.router = data.router
  world : after.world = data.world
  lastSeen : after.lastSeen = data.lastSeen

lemma sameMemory_upsertClient (hafter : data.upsertClient vtoken name = some after) :
    data.SameMemory after := by
  unfold upsertClient at hafter
  split at hafter
  · cases hafter
    exact ⟨rfl, rfl, rfl, rfl⟩
  · cases hafter

lemma sameMemory_updateClient (hafter : data.updateClientByVtoken vtoken name = some after) :
    data.SameMemory after := by
  unfold updateClientByVtoken at hafter
  split at hafter
  · cases hafter
    exact ⟨rfl, rfl, rfl, rfl⟩
  · split at hafter
    · cases hafter
    · cases hafter
      exact ⟨rfl, rfl, rfl, rfl⟩

lemma writes_seen (vtoken : String) (now : Int) :
    data.Writes { data with lastSeen := data.lastSeen.insert vtoken now } [vtoken] := by
  intro place own hat
  cases place with
  | lastSeen =>
    simp only [At, lookup_insert] at hat
    split at hat
    · next hsame => exact .inr (List.mem_singleton.mpr hsame)
    · exact .inl hat
  | _ => exact .inl hat

lemma writes_unseen (vtoken : String) :
    data.Writes { data with lastSeen := data.lastSeen.erase vtoken } [] := by
  intro place own hat
  cases place with
  | lastSeen =>
    simp only [At, lookup_erase] at hat
    split at hat
    · cases hat
    · exact .inl hat
  | _ => exact .inl hat

lemma writes_removeClient (vtoken : String) :
    data.Writes (data.withQueue (data.world.queue.removeClient vtoken)) [] := by
  apply writes_queue
  intro own hslot
  rw [InMemoryQueue.lookup_removeClient] at hslot
  split at hslot
  · cases hslot
  · exact .inl hslot

lemma writes_removeRoutes (vtoken : String) (newDefault : Option String) :
    data.Writes { data with router := data.router.removeRoutesForVtoken vtoken newDefault }
      newDefault.toList := by
  apply writes_router
  intro own hmentions
  rcases Router.mentions_of_removeRoutes hmentions with hdefault | ⟨-, hold⟩
  · exact .inr (Option.mem_toList.mpr hdefault)
  · exact .inl hold

lemma writes_revoke (vtoken : String) :
    data.Writes (data.revokeAuthorizationsForVtoken vtoken) [] := by
  intro place own hat
  cases place with
  | routingState => exact writes_clearRoutes vtoken .routingState own hat
  | activeSessions =>
    obtain ⟨vctx, hrow⟩ := hat
    obtain ⟨row, hlookup, -⟩ := isSome_lookup_retain.mp hrow
    exact .inl ⟨vctx, Option.isSome_of_mem hlookup⟩
  | backendSessions =>
    obtain ⟨vctx, name, hrow⟩ := hat
    obtain ⟨row, hlookup, -⟩ := isSome_lookup_retain.mp hrow
    exact .inl ⟨vctx, name, Option.isSome_of_mem hlookup⟩
  | _ => exact .inl hat

lemma not_at_unseen (vtoken : String) :
    ¬ ({ data with lastSeen := data.lastSeen.erase vtoken } : HubData).At
      .lastSeen vtoken := by
  intro hat
  simp [At] at hat

lemma not_at_removeClient (vtoken : String) :
    ¬ (data.withQueue (data.world.queue.removeClient vtoken)).At .queue vtoken := by
  intro hat
  simp only [withQueue, At] at hat
  simp [InMemoryQueue.lookup_removeClient] at hat

/-- A removed token can only come back as the new default. -/
lemma eq_of_at_removeRoutes {newDefault : Option String} (hat : ({ data with
      router := data.router.removeRoutesForVtoken vtoken
        newDefault } : HubData).At .router vtoken) :
    newDefault = some vtoken := by
  rcases Router.mentions_of_removeRoutes hat with hsame | ⟨hne, -⟩
  · exact hsame
  · exact absurd rfl hne

/-- The transaction leaves no row of the token. -/
lemma not_at_revoke (vtoken : String) {place : Place}
    (hplace : place ∈ [.routingState, .activeSessions, .backendSessions]) :
    ¬ (data.revokeAuthorizationsForVtoken vtoken).At place vtoken := by
  intro hat
  simp only [List.mem_cons, List.not_mem_nil, or_false] at hplace
  rcases hplace with rfl | rfl | rfl
  · obtain ⟨fromUser, hroute⟩ := hat
    rw [revokeAuthorizationsForVtoken, clearRoutesForVtoken,
      lookup_retain, Option.filter_eq_some_iff] at hroute
    exact of_decide_eq_true hroute.2 rfl
  · obtain ⟨vctx, hrow⟩ := hat
    obtain ⟨row, -, hother⟩ := isSome_lookup_retain.mp hrow
    exact of_decide_eq_true hother rfl
  · obtain ⟨vctx, name, hrow⟩ := hat
    obtain ⟨row, -, hother⟩ := isSome_lookup_retain.mp hrow
    exact of_decide_eq_true hother rfl

end HubData

end IlinkHub
