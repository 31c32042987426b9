/-
The tables that decide who may answer in a conversation (`store/context.rs`
and `store/sessions.rs`): the virtual contexts, the expiring grants of
`active_sessions` and the named sessions of `backend_sessions_v2`.  The clock
is an argument of every operation that reads it.
-/
import Mathlib.Data.List.AList
import Mathlib.Data.List.Sort
import IlinkHub.Text

namespace IlinkHub

open AList

/-- A conversation and a backend, the scope of every grant. -/
structure PairKey where
  vctx : String
  vtoken : String
deriving Repr, DecidableEq

structure SessionKey where
  pair : PairKey
  sessionName : String
deriving Repr, DecidableEq

structure ContextRow where
  realCtx : String
  peerUserId : Option String
deriving Repr, DecidableEq

/-- A row of `active_sessions`.  Its writers bind the depth from a `u8`. -/
structure ActiveRow where
  sessionName : String
  a2aDepth : UInt8
  expiresAt : Int
deriving Repr, DecidableEq

structure BackendRow where
  backendSessionId : String
  lastUsageJson : Option String
deriving Repr, DecidableEq

structure BackendSessionRow where
  sessionName : String
  backendSessionId : String
deriving Repr, DecidableEq

structure Store where
  contexts : AList fun _ : String => ContextRow
  active : AList fun _ : PairKey => ActiveRow
  backend : AList fun _ : SessionKey => BackendRow
  grantTtlSecs : Nat

/-- The largest `i64`. -/
def i64Max : Int :=
  2 ^ 63 - 1

namespace Store

/-- Expiry stamp for a grant written at `now`, saturating like the source. -/
def grantExpiresAt (store : Store) (now : Int) : Int :=
  min (now + min (store.grantTtlSecs : Int) i64Max) i64Max

def setBackendSession (store : Store) (pair : PairKey)
    (sessionName backendSessionId : String) : Store :=
  { store with
    backend := store.backend.insert ⟨pair, sessionName⟩ ⟨backendSessionId,
        (store.backend.lookup ⟨pair, sessionName⟩).bind BackendRow.lastUsageJson⟩ }

def setBackendSessionUsage (store : Store) (pair : PairKey)
    (sessionName usageJson : String) : Store :=
  { store with
    backend := store.backend.insert ⟨pair, sessionName⟩
      ⟨((store.backend.lookup ⟨pair, sessionName⟩).map
          BackendRow.backendSessionId).getD "", some usageJson⟩ }

def getBackendSession (store : Store) (pair : PairKey) (sessionName : String) : Option String :=
  (store.backend.lookup ⟨pair, sessionName⟩).map BackendRow.backendSessionId

/-- The rows of one pair, in the order of their names. -/
def listBackendSessions (store : Store) (pair : PairKey) : List BackendSessionRow :=
  (store.backend.entries.filterMap fun entry =>
    if entry.1.pair = pair then
      some ⟨entry.1.sessionName, entry.2.backendSessionId⟩
    else none).insertionSort fun left right =>
      left.sessionName ≤ right.sessionName

def deleteBackendSession (store : Store) (pair : PairKey) (sessionName : String) : Bool × Store :=
  ((store.backend.lookup ⟨pair, sessionName⟩).isSome,
    { store with backend := store.backend.erase ⟨pair, sessionName⟩ })

/-- A blank backend session id counts as none. -/
def nonBlank (id : String) : Option String :=
  if Text.isBlank id then none else some id

/-- The active session of the pair and its backend id, in one query. -/
def getHubExtSingle (store : Store) (pair : PairKey) : String × Option String :=
  let name := ((store.active.lookup pair).map ActiveRow.sessionName).getD "default"
  (name, (store.getBackendSession pair name).bind nonBlank)

def getActiveSessionName (store : Store) (pair : PairKey) : String :=
  (((store.active.lookup pair).map ActiveRow.sessionName).filter
    fun name => name ≠ "").getD "default"

/-- The same data for several pairs.  Unlike the single query an empty session
name counts as absent here. -/
def getHubExtBatch (store : Store) (pairs : List PairKey) (pair : PairKey) :
    Option (String × Option String) :=
  if pair ∈ pairs then
    let name := store.getActiveSessionName pair
    some (name, (store.getBackendSession pair name).bind nonBlank)
  else none

/-- The depth of an existing row is kept, a new row starts at depth zero. -/
def setActiveSessionName (store : Store) (now : Int) (pair : PairKey)
    (sessionName : String) : Store :=
  { store with
    active := store.active.insert pair ⟨sessionName,
        ((store.active.lookup pair).map ActiveRow.a2aDepth).getD 0,
        store.grantExpiresAt now⟩ }

def setActiveSessionWithDepth (store : Store) (now : Int) (pair : PairKey)
    (sessionName : String) (a2aDepth : UInt8) : Store :=
  { store with
    active := store.active.insert pair ⟨sessionName, a2aDepth, store.grantExpiresAt now⟩ }

def getActiveSessionRow (store : Store) (pair : PairKey) : Option (String × UInt8) :=
  (store.active.lookup pair).map fun row => (row.sessionName, row.a2aDepth)

def deleteActiveSessionIfName (store : Store) (pair : PairKey)
    (sessionName : String) : Bool × Store :=
  if (store.active.lookup pair).map ActiveRow.sessionName = some sessionName then
    (true, { store with active := store.active.erase pair })
  else
    (false, store)

/-- The grant of the pair, if it has not expired. -/
def liveGrant (store : Store) (now : Int) (pair : PairKey) : Option ActiveRow :=
  (store.active.lookup pair).filter fun row => decide (now < row.expiresAt)

/-- Some named session of the pair exists. -/
def hasBackendSession (store : Store) (pair : PairKey) : Bool :=
  store.backend.keys.any fun key => decide (key.pair = pair)

def vtokenOwnsVctx (store : Store) (now : Int) (pair : PairKey) : Bool :=
  (store.liveGrant now pair).isSome || store.hasBackendSession pair

/-- What `sendmessage` needs, for a context that exists and that the backend
owns: the real context, the peer and the session name. -/
def resolveSendContext (store : Store) (now : Int) (pair : PairKey) :
    Option (String × String × String) :=
  match store.contexts.lookup pair.vctx with
  | some row =>
    if store.vtokenOwnsVctx now pair then
      some (row.realCtx, row.peerUserId.getD "",
        ((store.liveGrant now pair).map ActiveRow.sessionName).getD "default")
    else none
  | none => none

/-- The key a conversation is stored under: its group, else its peer. -/
def convKey (peerUserId : String) (groupId : Option String) : String :=
  match groupId.filter fun group => group ≠ "" with
  | some group => "group:" ++ group
  | none => if peerUserId ≠ "" then "peer:" ++ peerUserId else ""

def findByPeer (store : Store) (key : String) : Option String :=
  (store.contexts.entries.find? fun entry =>
    entry.2.peerUserId = some key).map fun entry => entry.1

/-- The index on `real_ctx` is unique: no other context may hold it. -/
def realCtxFree (store : Store) (vctx realCtx : String) : Bool :=
  store.contexts.entries.all fun entry =>
    entry.1 = vctx ∨ entry.2.realCtx ≠ realCtx

/-- The virtual context of a conversation, created under the name `candidate`
when there is none.  `none` is a write refused by a unique index.  The upsert
that the source tries first targets a partial index and falls through to these
two steps, which give the same rows. -/
def findOrCreateVctx (store : Store) (peerUserId : String)
    (groupId : Option String) (realCtx candidate : String) : Option (String × Store) :=
  let key := convKey peerUserId groupId
  match if key = "" then none else store.findByPeer key with
  | some vctx =>
    if store.realCtxFree vctx realCtx then
      some (vctx, { store with
        contexts := store.contexts.insert vctx ⟨realCtx, ((store.contexts.lookup vctx).bind
            ContextRow.peerUserId)⟩ })
    else none
  | none =>
    if (store.contexts.lookup candidate).isSome then
      some (candidate, store)
    else if store.realCtxFree candidate realCtx then
      some (candidate, { store with
        contexts := store.contexts.insert candidate ⟨realCtx, some key⟩ })
    else none

lemma lookup_setBackendSession (store : Store) (pair : PairKey)
    (sessionName backendSessionId : String) (key : SessionKey) :
    (store.setBackendSession pair sessionName backendSessionId).backend.lookup key =
      if key = ⟨pair, sessionName⟩ then
        some ⟨backendSessionId, (store.backend.lookup ⟨pair, sessionName⟩).bind
          BackendRow.lastUsageJson⟩
      else store.backend.lookup key := by
  by_cases hkey : key = ⟨pair, sessionName⟩
  · rw [if_pos hkey, hkey]
    exact lookup_insert store.backend
  · rw [if_neg hkey]
    exact lookup_insert_ne hkey

lemma lookup_setBackendSessionUsage (store : Store) (pair : PairKey)
    (sessionName usageJson : String) (key : SessionKey) :
    (store.setBackendSessionUsage pair sessionName usageJson).backend.lookup key =
      if key = ⟨pair, sessionName⟩ then
        some ⟨(store.getBackendSession pair sessionName).getD "", some usageJson⟩
      else store.backend.lookup key := by
  by_cases hkey : key = ⟨pair, sessionName⟩
  · rw [if_pos hkey, hkey]
    exact lookup_insert store.backend
  · rw [if_neg hkey]
    exact lookup_insert_ne hkey

lemma lookup_deleteBackendSession (store : Store) (pair : PairKey) (sessionName : String)
    (key : SessionKey) : (store.deleteBackendSession pair sessionName).2.backend.lookup key =
      if key = ⟨pair, sessionName⟩ then none
      else store.backend.lookup key := by
  by_cases hkey : key = ⟨pair, sessionName⟩
  · rw [if_pos hkey, hkey]
    exact lookup_erase _ store.backend
  · rw [if_neg hkey]
    exact lookup_erase_ne hkey

lemma lookup_setActiveSessionName (store : Store) (now : Int)
    (pair : PairKey) (sessionName : String) (key : PairKey) :
    (store.setActiveSessionName now pair sessionName).active.lookup key =
      if key = pair then
        some ⟨sessionName, ((store.active.lookup pair).map ActiveRow.a2aDepth).getD 0,
          store.grantExpiresAt now⟩
      else store.active.lookup key := by
  by_cases hkey : key = pair
  · rw [if_pos hkey, hkey]
    exact lookup_insert store.active
  · rw [if_neg hkey]
    exact lookup_insert_ne hkey

lemma lookup_setActiveSessionWithDepth (store : Store) (now : Int) (pair : PairKey)
    (sessionName : String) (a2aDepth : UInt8) (key : PairKey) :
    (store.setActiveSessionWithDepth now pair sessionName a2aDepth).active.lookup key =
      if key = pair then
        some ⟨sessionName, a2aDepth, store.grantExpiresAt now⟩
      else store.active.lookup key := by
  by_cases hkey : key = pair
  · rw [if_pos hkey, hkey]
    exact lookup_insert store.active
  · rw [if_neg hkey]
    exact lookup_insert_ne hkey

lemma lookup_deleteActiveSessionIfName (store : Store) (pair : PairKey) (sessionName : String)
    (key : PairKey) : (store.deleteActiveSessionIfName pair sessionName).2.active.lookup key =
      if key = pair ∧ (store.active.lookup pair).map ActiveRow.sessionName =
          some sessionName then none
      else store.active.lookup key := by
  unfold deleteActiveSessionIfName
  by_cases hname : (store.active.lookup pair).map ActiveRow.sessionName = some sessionName
  · rw [if_pos hname]
    by_cases hkey : key = pair
    · rw [if_pos ⟨hkey, hname⟩, hkey]
      exact lookup_erase _ store.active
    · rw [if_neg fun h => hkey h.1]
      exact lookup_erase_ne hkey
  · rw [if_neg hname, if_neg fun h => hname h.2]

@[simp] lemma deleteActiveSessionIfName_backend (store : Store) (pair : PairKey)
    (sessionName : String) :
    (store.deleteActiveSessionIfName pair sessionName).2.backend = store.backend := by
  unfold deleteActiveSessionIfName
  split <;> rfl

@[simp] lemma deleteActiveSessionIfName_grantTtlSecs (store : Store) (pair : PairKey)
    (sessionName : String) :
    (store.deleteActiveSessionIfName pair sessionName).2.grantTtlSecs = store.grantTtlSecs := by
  unfold deleteActiveSessionIfName
  split <;> rfl

variable {store : Store} {pair : PairKey}

lemma hasBackendSession_iff :
    store.hasBackendSession pair = true ↔
      ∃ name, (store.backend.lookup ⟨pair, name⟩).isSome = true := by
  simp only [hasBackendSession, List.any_eq_true, decide_eq_true_eq, lookup_isSome]
  constructor
  · rintro ⟨⟨pair', name⟩, hmem, rfl⟩
    exact ⟨name, hmem⟩
  · rintro ⟨name, hmem⟩
    exact ⟨⟨pair, name⟩, hmem, rfl⟩

lemma mem_listBackendSessions {name : String} :
    name ∈ (store.listBackendSessions pair).map BackendSessionRow.sessionName ↔
      (store.backend.lookup ⟨pair, name⟩).isSome = true := by
  rw [lookup_isSome, mem_keys, keys, List.keys]
  simp only [listBackendSessions, List.mem_map, List.mem_insertionSort, List.mem_filterMap]
  constructor
  · rintro ⟨row, ⟨⟨⟨pair', name'⟩, value⟩, hmem, hrow⟩, rfl⟩
    by_cases hpair : pair' = pair
    · rw [if_pos hpair] at hrow
      cases hrow
      exact ⟨_, hmem, by rw [hpair]⟩
    · simp [if_neg hpair] at hrow
  · rintro ⟨⟨key, value⟩, hmem, rfl⟩
    exact ⟨⟨name, value.backendSessionId⟩, ⟨_, hmem, if_pos rfl⟩, rfl⟩

lemma vtokenOwnsVctx_iff {now : Int} :
    store.vtokenOwnsVctx now pair = true ↔
      (∃ row, store.active.lookup pair = some row ∧ now < row.expiresAt) ∨
        store.hasBackendSession pair = true := by
  cases hrow : store.active.lookup pair with
  | none => simp [vtokenOwnsVctx, liveGrant, hrow]
  | some row => simp [vtokenOwnsVctx, liveGrant, hrow]

/-- Resolution succeeds exactly for a known context that the backend owns. -/
lemma resolveSendContext_isSome_iff {now : Int} :
    (store.resolveSendContext now pair).isSome = true ↔
      (store.contexts.lookup pair.vctx).isSome = true ∧ store.vtokenOwnsVctx now pair = true := by
  unfold resolveSendContext
  cases store.contexts.lookup pair.vctx with
  | none => simp
  | some row =>
    by_cases howns : store.vtokenOwnsVctx now pair = true
    · simp
    · simp

/-- The context a conversation resolves to exists, and the other tables are
untouched. -/
lemma findOrCreateVctx_spec {next : Store} {peerUserId : String}
    {groupId : Option String} {realCtx candidate vctx : String}
    (hfind : store.findOrCreateVctx peerUserId groupId realCtx candidate = some (vctx, next)) :
    (next.contexts.lookup vctx).isSome = true ∧ next.active = store.active ∧ next.backend =
      store.backend ∧ next.grantTtlSecs = store.grantTtlSecs := by
  unfold findOrCreateVctx at hfind
  simp only at hfind
  split at hfind
  · split at hfind
    · cases hfind
      simp
    · cases hfind
  · split at hfind
    · next hknown =>
      cases hfind
      exact ⟨hknown, rfl, rfl, rfl⟩
    · split at hfind
      · cases hfind
        simp
      · cases hfind

end Store

end IlinkHub
