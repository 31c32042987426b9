/-
The operations on clients with all that they touch in memory (`server/pairing.rs`):
the slots of the queue and the times of the last polls beside the registry and
the router.  What an operation leaves behind that reports an error of the store.
-/
import IlinkHub.ClientHub
import IlinkHub.Restart

namespace IlinkHub

open Sample Function KeyedRegistry Text ClientTables ClientHub

structure AdminHub extends ClientHub where
  queue : InMemoryQueue
  lastSeen : AList fun _ : String => Int

/-- The three operations that report errors of the store. -/
inductive AdminCall where
  | unregister (name : String) (force : Bool) (tie : Nat)
  | revoke (name : String) (draw : VtokenDraw) (tie : Nat)
  | update (oldName newName : String) (label personaName personaEmoji : Option String)
deriving Repr, DecidableEq

/-- The name that the client has before the call. -/
def AdminCall.name : AdminCall → String
  | .unregister name _ _ | .revoke name _ _ | .update name _ _ _ _ => name

/-- A token that is drawn is never one that is registered. -/
def AdminCall.Fresh (registry : KeyedRegistry) : AdminCall → Prop
  | .revoke _ draw _ => registry.byVtoken.lookup draw.hashed = none
  | .unregister _ _ _ | .update _ _ _ _ _ => True

namespace AdminHub

variable (hub : AdminHub) (ok : Nat → Bool)

/-- The token loses its slot and its time. -/
def dropClient (after : ClientHub) (vtoken : String) : AdminHub where
  toClientHub := after
  queue := hub.queue.removeClient vtoken
  lastSeen := hub.lastSeen.erase vtoken

/-- Slot and time go once the client has left the registry, before the store is
asked. -/
def unregisterClientInHub (name : String) (force : Bool) (tie : Nat) :
    Except UnregisterClientError Unit × AdminHub :=
  let result := hub.toClientHub.unregisterClientInHub ok name force tie
  match result.1, hub.registry.getByName name with
  | .ok _, some client | .error .store, some client =>
    (result.1, hub.dropClient result.2 client.vtoken)
  | _, _ => (result.1, hub)

/-- They go here once the token is rotated. -/
def revokeClientInHub (name : String) (draw : VtokenDraw) (tie : Nat)
    (hdrawn : hub.registry.byVtoken.lookup draw.hashed = none) :
    Except RevokeClientError RevokeClientOutcome × AdminHub :=
  let result := hub.toClientHub.revokeClientInHub ok name draw tie hdrawn
  match result.1, hub.registry.getByName name with
  | .ok _, some client | .error .store, some client =>
    (result.1, hub.dropClient result.2 client.vtoken)
  | _, _ => (result.1, hub)

def updateClientInHub (oldName newName : String) (label personaName personaEmoji : Option String) :
    Except UpdateInHubError String × AdminHub :=
  let result := hub.toClientHub.updateClientInHub ok oldName newName label personaName personaEmoji
  (result.1, { hub with toClientHub := result.2 })

/-- One operation, and whether it reports an error of the store. -/
def call : AdminCall → Bool × AdminHub
  | .unregister name force tie =>
    let result := hub.unregisterClientInHub ok name force tie
    (match result.1 with
      | .error .store => true
      | _ => false, result.2)
  | .revoke name draw tie =>
    if hdrawn : hub.registry.byVtoken.lookup draw.hashed = none then
      let result := hub.revokeClientInHub ok name draw tie hdrawn
      (match result.1 with
        | .error .store => true
        | _ => false, result.2)
    else (false, hub)
  | .update oldName newName label personaName personaEmoji =>
    let result := hub.updateClientInHub ok oldName newName label personaName personaEmoji
    (match result.1 with
      | .error .store => true
      | _ => false, result.2)

/-- The memory is as it was. -/
structure Unchanged (after : AdminHub) : Prop where
  registry : after.registry.toClientRegistry.Same hub.registry.toClientRegistry
  router : after.router = hub.router
  queue : after.queue = hub.queue
  lastSeen : after.lastSeen = hub.lastSeen

/-- A restart finds the token of the name that is registered now. -/
def RestartsAs (name : String) : Prop :=
  ((loadClientsFromDb {} hub.tables).registry.getByName name).map
    ClientInfo.vtoken = hub.registry.tokens name

/-- A call that reports an error of the store has changed nothing: the old
credential is still good, and a restart that found it before finds it now. -/
def Atomic (call : AdminCall) : Prop :=
  (hub.call ok call).1 = true → hub.Unchanged (hub.call ok call).2 ∧
    (∀ vtoken, hub.registry.tokens call.name = some vtoken →
      (hub.call ok call).2.registry.Registered vtoken) ∧
    (hub.RestartsAs call.name → (hub.call ok call).2.RestartsAs call.name)

end AdminHub

/-- The data of an update are those that the client has. -/
def ClientInfo.Keeps (client : ClientInfo)
    (label personaName personaEmoji : Option String) : Prop :=
  label.or client.label = client.label ∧ personaName.or client.personaName = client.personaName ∧
    personaEmoji.or client.personaEmoji = client.personaEmoji

/-- No other row has the name that the row of the token is to get. -/
def ClientTables.Renamable (tables : ClientTables) (vtoken name : String) : Prop :=
  ∀ own row, tables.row own = some row → row.vtoken = vtoken → own ≠ name → tables.row name = none

/-- The call does not get to the store, or its statements all succeed, or it is
an update that changes nothing. -/
def AdminHub.Harmless (hub : AdminHub) (ok : Nat → Bool) : AdminCall → Prop
  | .unregister name force _ =>
    ∀ client, hub.registry.getByName name = some client →
      client.online = true ∧ force = false ∨ ok 0 = true ∧ ok 1 = true
  | .revoke name draw _ =>
    ∀ client, hub.registry.getByName name = some client →
      ok 0 = true ∧ ok 1 = true ∧ hub.tables.Unused draw.hashed name
  | .update oldName newName label personaName personaEmoji =>
    ∀ client, hub.registry.getByName oldName = some client → trim newName = "" ∨
      trim newName ≠ oldName ∧ hub.registry.getByName (trim newName) ≠ none ∨
      ok 0 = true ∧ ok 1 = true ∧ hub.tables.Renamable client.vtoken (trim newName) ∨
      trim newName = oldName ∧ client.Keeps label personaName personaEmoji

namespace KeyedRegistry

variable {left right : KeyedRegistry}

lemma lookup_byVtoken_iff {vtoken : String} {client : ClientInfo} :
    left.byVtoken.lookup vtoken = some client ↔
      left.getByName client.name = some client ∧ client.vtoken = vtoken := by
  rw [getByName_eq_some_iff, and_iff_left rfl, mem_values_iff]
  constructor
  · intro hclient
    obtain rfl := left.keyed hclient
    exact ⟨hclient, rfl⟩
  · rintro ⟨hclient, rfl⟩
    exact hclient

/-- The clients under their names are all that a registry has. -/
lemma same_of_getByName (heq : left.getByName = right.getByName) :
    left.toClientRegistry.Same right.toClientRegistry := by
  have hlookup : ∀ vtoken client,
      left.byVtoken.lookup vtoken = some client ↔ right.byVtoken.lookup vtoken = some client := by
    intro vtoken client
    rw [lookup_byVtoken_iff, lookup_byVtoken_iff, heq]
  constructor
  · intro vtoken
    ext client
    exact hlookup vtoken client
  · intro name
    ext vtoken
    rw [left.named, right.named]
    simp [hlookup]

lemma getByName_of_same (hsame : left.toClientRegistry.Same right.toClientRegistry) :
    left.getByName = right.getByName := by
  funext name
  rw [ClientRegistry.getByName, ClientRegistry.getByName, hsame.byName name]
  cases right.byName.lookup name with
  | none => rfl
  | some vtoken => exact hsame.byVtoken vtoken

end KeyedRegistry

namespace ClientTables

variable {tables after : ClientTables} {vtoken name : String} {row changed : ClientRow}

lemma updateClientByVtoken_isSome_iff (label : Option String) (hdistinct : tables.Distinct) :
    (tables.updateClientByVtoken vtoken name label).isSome = true ↔
      tables.Renamable vtoken name := by
  unfold updateClientByVtoken
  cases hfind : tables.clients.entries.find? fun row => row.2.vtoken = vtoken with
  | none =>
    refine iff_of_true rfl ?_
    intro own row hrow hvtoken
    have hno := List.find?_eq_none.mp hfind _ (Query.lookup_eq_some_iff.mp hrow)
    exact absurd (decide_eq_true hvtoken) hno
  | some found =>
    obtain ⟨own, row⟩ := found
    have hrow := Query.lookup_eq_some_iff.mpr (List.mem_of_find?_eq_some hfind)
    have hvtoken : row.vtoken = vtoken := by
      have hfound := List.find?_some hfind
      exact of_decide_eq_true hfound
    simp only
    split
    · next htaken =>
      refine iff_of_false (by simp) fun hrenamable => ?_
      have hnone := hrenamable own row hrow hvtoken htaken.1
      rw [ClientTables.row] at hnone
      rw [hnone] at htaken
      cases htaken.2
    · next hfree =>
      refine iff_of_true rfl ?_
      intro other otherRow hother hsame hne
      have hown := hdistinct own row hrow other otherRow hother (hsame.trans hvtoken.symm)
      subst hown
      rw [← Option.not_isSome_iff_eq_none]
      exact fun hsome => hfree ⟨hne, hsome⟩

lemma Distinct.of_update (hdistinct : tables.Distinct) (hrow : tables.row name = some row)
    (hafter : after.row = update tables.row name (some changed))
    (hvtoken : changed.vtoken = row.vtoken) : after.Distinct := by
  have hold : ∀ {own own'}, after.row own = some own' → ∃ before, tables.row own = some before ∧
        before.vtoken = own'.vtoken := by
    intro own own' hown
    rw [hafter, update_apply] at hown
    split at hown
    · next hsame =>
      rw [hsame, ← Option.some.inj hown, hvtoken]
      exact ⟨row, hrow, rfl⟩
    · exact ⟨own', hown, rfl⟩
  intro own ownRow hown other otherRow hother hsame
  obtain ⟨left, hleft, hleftToken⟩ := hold hown
  obtain ⟨right, hright, hrightToken⟩ := hold hother
  apply hdistinct own left hleft other right hright
  rw [hrightToken, hsame, hleftToken]

end ClientTables

namespace ClientHub

variable {hub : ClientHub} (ok : Nat → Bool) {name : String} {client : ClientInfo}

/-- A deletion takes the client out of the registry whatever the store says. -/
lemma unregisterClientInHub_known {force : Bool} (tie : Nat)
    (hclient : hub.registry.getByName name = some client)
    (hallowed : ¬ (client.online = true ∧ ¬ force = true)) :
    (hub.unregisterClientInHub ok name force tie).1 =
        (if ok 0 = true ∧ ok 1 = true then .ok () else .error .store) ∧
      (hub.unregisterClientInHub ok name force tie).2.registry.getByName =
        update hub.registry.getByName name none := by
  obtain ⟨hremoved, hfind⟩ := remove_known hclient
  simp only [unregisterClientInHub, hclient, if_neg hallowed, hremoved]
  cases ok 0 <;> cases ok 1 <;> exact ⟨by simp, hfind⟩

lemma revokeClientInHub_known {draw : VtokenDraw} (tie : Nat)
    (hdrawn : hub.registry.byVtoken.lookup draw.hashed = none)
    (hclient : hub.registry.getByName name = some client) :
    ((hub.revokeClientInHub ok name draw tie hdrawn).1 = .ok ⟨name, draw.plaintext, draw.hashed⟩ ∧
        ok 0 = true ∧ ok 1 = true ∧ hub.tables.Unused draw.hashed name ∨
      (hub.revokeClientInHub ok name draw tie hdrawn).1 = .error .store ∧
        ¬ (ok 0 = true ∧ ok 1 = true ∧ hub.tables.Unused draw.hashed name)) ∧
      (hub.revokeClientInHub ok name draw tie hdrawn).2.registry.getByName =
        update hub.registry.getByName name
          (some { client with vtoken := draw.hashed, online := false }) := by
  obtain ⟨next, hnext, hfind⟩ :=
    rotateVtoken_known hclient hdrawn
  have hupsert : ((hub.tables.clearRoutesForVtoken client.vtoken).upsertClient
      draw.hashed name client.label).isSome = true ↔
        hub.tables.Unused draw.hashed name := by
    rw [Option.isSome_iff_exists]
    simp only [upsertClient_eq_some_iff]
    constructor
    · rintro ⟨after, hunused, -⟩
      exact hunused
    · intro hunused
      exact ⟨_, hunused, rfl⟩
  simp only [revokeClientInHub, hclient, hnext]
  cases ok 0 with
  | false => exact ⟨.inr ⟨by simp, by simp⟩, hfind⟩
  | true =>
    cases ok 1 with
    | false => exact ⟨.inr ⟨by simp, by simp⟩, hfind⟩
    | true =>
      cases hafter : (hub.tables.clearRoutesForVtoken
          client.vtoken).upsertClient draw.hashed name client.label with
      | none =>
        rw [hafter] at hupsert
        refine ⟨.inr ⟨by simp, ?_⟩, hfind⟩
        rintro ⟨-, -, hunused⟩
        cases hupsert.mpr hunused
      | some after =>
        rw [hafter] at hupsert
        exact ⟨.inl ⟨by simp, by simp, by simp, hupsert.mp rfl⟩, hfind⟩

section Update
variable {newName : String} {label personaName personaEmoji : Option String}

/-- The client after an update. -/
def updated (newName : String) (label personaName personaEmoji : Option String)
    (client : ClientInfo) : ClientInfo :=
  { renamed newName label client with
    personaName := personaName.or client.personaName
    personaEmoji := personaEmoji.or client.personaEmoji }

lemma registry_updateClientInHub (hclient : hub.registry.getByName name = some client)
    (hvalid : trim newName ≠ "")
    (hfree : trim newName = name ∨ hub.registry.getByName (trim newName) = none) :
    (hub.updateClientInHub ok name newName label personaName personaEmoji).2.router = hub.router ∧
      (hub.updateClientInHub ok name newName label personaName personaEmoji).2.registry.getByName =
        update (update hub.registry.getByName name none)
          (trim newName) (some (updated (trim newName) label personaName personaEmoji client)) := by
  obtain ⟨next, hnext, hfind⟩ :=
    updateClient_known label hclient hfree
  have hinfo : next.getByName (trim newName) = some (renamed (trim newName) label client) := by
    rw [hfind, update_self]
  have hpersona : (next.setPersona client.vtoken personaName
      personaEmoji).getByName = update (update hub.registry.getByName name none)
          (trim newName) (some (updated (trim newName) label personaName personaEmoji client)) := by
    have hvtoken : client.vtoken = (renamed (trim newName) label client).vtoken := rfl
    rw [setPersona, hvtoken, getByName_adjust hinfo, hfind, update_idem]
    rfl
  simp only [updateClientInHub, if_neg hvalid, hnext]
  split
  · exact ⟨rfl, hpersona⟩
  · split
    · exact ⟨rfl, hpersona⟩
    · exact ⟨rfl, hpersona⟩

/-- An update that is allowed fails exactly if one of its statements does; the
first one may have been carried out. -/
lemma failed_updateClientInHub_iff (hdistinct : hub.tables.Distinct)
    (hclient : hub.registry.getByName name = some client) (hvalid : trim newName ≠ "")
    (hfree : trim newName = name ∨ hub.registry.getByName (trim newName) = none) :
    ((hub.updateClientInHub ok name newName label personaName personaEmoji).1 = .error .store ↔
      ¬ (ok 0 = true ∧ ok 1 = true ∧ hub.tables.Renamable client.vtoken (trim newName))) ∧
    ((hub.updateClientInHub ok name newName label personaName personaEmoji).1 = .error .store →
      (hub.updateClientInHub ok name newName label personaName personaEmoji).2.tables = hub.tables ∨
        hub.tables.updateClientByVtoken client.vtoken (trim newName) label =
          some (hub.updateClientInHub ok name newName label personaName
            personaEmoji).2.tables) := by
  obtain ⟨next, hnext, -⟩ :=
    updateClient_known label hclient hfree
  rw [← updateClientByVtoken_isSome_iff label hdistinct]
  simp only [updateClientInHub, if_neg hvalid, hnext]
  cases ok 0 with
  | false => simp
  | true =>
    cases hafter : hub.tables.updateClientByVtoken client.vtoken (trim newName) label with
    | none => simp
    | some after =>
      cases ok 1 with
      | false => simp
      | true => simp

lemma updateClientInHub_refused (hrefused : hub.registry.getByName name = none ∨ trim newName = "" ∨
      trim newName ≠ name ∧ hub.registry.getByName (trim newName) ≠ none) :
    (hub.updateClientInHub ok name newName label personaName personaEmoji).1 ≠ .error .store := by
  by_cases hvalid : trim newName = ""
  · simp [updateClientInHub, hvalid]
  · have hno := hrefused.imp_right fun h => h.resolve_left hvalid
    obtain ⟨error, herror⟩ := updateClient_error label hno
    simp only [updateClientInHub, if_neg hvalid, herror]
    cases error <;> simp

end Update

end ClientHub

namespace AdminHub

variable {hub : AdminHub} {ok : Nat → Bool} {name : String} {call : AdminCall}

lemma Unchanged.getByName {after : AdminHub} (hsame : hub.Unchanged after) :
    after.registry.getByName = hub.registry.getByName :=
  getByName_of_same hsame.registry

lemma not_atomic_of_changed (hfailed : (hub.call ok call).1 = true)
    (hchanged : (hub.call ok call).2.registry.getByName ≠
      hub.registry.getByName) : ¬ hub.Atomic ok call :=
  fun hatomic => hchanged (hatomic hfailed).1.getByName

lemma atomic_of_succeeds (hsucceeds : (hub.call ok call).1 = false) : hub.Atomic ok call := by
  intro hfailed
  simp [hsucceeds] at hfailed

/-- A call that changes the registry in any case is atomic exactly if it
succeeds. -/
lemma atomic_iff_of_changed {succeeds : Prop} (hfailed : (hub.call ok call).1 = true ↔ ¬ succeeds)
    (hchanged : (hub.call ok call).2.registry.getByName ≠
      hub.registry.getByName) : hub.Atomic ok call ↔ succeeds := by
  by_cases hok : succeeds
  · refine iff_of_true (atomic_of_succeeds ?_) hok
    rw [← Bool.not_eq_true, hfailed, not_not]
    exact hok
  · exact iff_of_false (not_atomic_of_changed (hfailed.mpr hok) hchanged) hok

section Unregister
variable {force : Bool} (tie : Nat) {client : ClientInfo}

lemma call_unregister_refused (hrefused : ∀ client, hub.registry.getByName name = some client →
      client.online = true ∧ force = false) :
    (hub.call ok (.unregister name force tie)).1 = false := by
  cases hclient : hub.registry.getByName name with
  | none =>
    simp [call, unregisterClientInHub, ClientHub.unregisterClientInHub, hclient]
  | some client =>
    obtain ⟨honline, hforce⟩ := hrefused client hclient
    simp [call, unregisterClientInHub, ClientHub.unregisterClientInHub, hclient, honline, hforce]

lemma call_unregister_allowed (ok : Nat → Bool)
    (hclient : hub.registry.getByName name = some client)
    (hallowed : ¬ (client.online = true ∧ ¬ force = true)) :
    ((hub.call ok (.unregister name force tie)).1 = true ↔ ¬ (ok 0 = true ∧ ok 1 = true)) ∧
      (hub.call ok (.unregister name force tie)).2.registry.getByName =
        update hub.registry.getByName name none := by
  obtain ⟨houtcome, hfind⟩ :=
    unregisterClientInHub_known ok tie hclient hallowed
  by_cases hok : ok 0 = true ∧ ok 1 = true
  · rw [if_pos hok] at houtcome
    simp only [call, unregisterClientInHub, houtcome, hclient]
    exact ⟨by simp [hok], hfind⟩
  · rw [if_neg hok] at houtcome
    simp only [call, unregisterClientInHub, houtcome, hclient]
    exact ⟨by simp [hok], hfind⟩

lemma atomic_unregister_iff (name : String) (force : Bool) :
    hub.Atomic ok (.unregister name force tie) ↔ hub.Harmless ok (.unregister name force tie) := by
  cases hclient : hub.registry.getByName name with
  | none =>
    refine iff_of_true (atomic_of_succeeds (call_unregister_refused tie ?_)) ?_
    · simp [hclient]
    · simp [Harmless, hclient]
  | some client =>
    have hharmless : hub.Harmless ok (.unregister name force tie) ↔
        client.online = true ∧ force = false ∨ ok 0 = true ∧ ok 1 = true := by
      simp [Harmless, hclient]
    rw [hharmless]
    by_cases hrefused : client.online = true ∧ force = false
    · refine iff_of_true (atomic_of_succeeds (call_unregister_refused tie ?_)) (.inl hrefused)
      simpa [hclient] using hrefused
    · obtain ⟨hfailed, hfind⟩ := call_unregister_allowed tie ok hclient
        (show ¬ (client.online = true ∧ ¬ force = true) by simpa using hrefused)
      rw [or_iff_right hrefused]
      apply atomic_iff_of_changed hfailed
      intro hsame
      have hname := congrFun (hfind.symm.trans hsame) name
      simp [hclient] at hname

end Unregister

section Revoke
variable {draw : VtokenDraw} (tie : Nat) {client : ClientInfo}

lemma call_revoke (ok : Nat → Bool) (hdrawn : hub.registry.byVtoken.lookup draw.hashed = none)
    (hclient : hub.registry.getByName name = some client) :
    ((hub.call ok (.revoke name draw tie)).1 = true ↔
        ¬ (ok 0 = true ∧ ok 1 = true ∧ hub.tables.Unused draw.hashed name)) ∧
      (hub.call ok (.revoke name draw tie)).2.registry.getByName =
        update hub.registry.getByName name
          (some { client with vtoken := draw.hashed, online := false }) ∧
      (hub.call ok (.revoke name draw tie)).2.lastSeen =
        hub.lastSeen.erase client.vtoken := by
  obtain ⟨⟨houtcome, hok⟩ | ⟨houtcome, hno⟩, hfind⟩ :=
    revokeClientInHub_known ok tie hdrawn hclient
  · simp only [call, dif_pos hdrawn, revokeClientInHub, houtcome, hclient]
    exact ⟨by simp [hok], hfind, rfl⟩
  · simp only [call, dif_pos hdrawn, revokeClientInHub, houtcome, hclient]
    exact ⟨by simp [hno], hfind, rfl⟩

lemma atomic_revoke_iff (name : String) (hdrawn : hub.registry.byVtoken.lookup draw.hashed = none) :
    hub.Atomic ok (.revoke name draw tie) ↔ hub.Harmless ok (.revoke name draw tie) := by
  cases hclient : hub.registry.getByName name with
  | none =>
    refine iff_of_true (atomic_of_succeeds ?_) ?_
    · simp [call, revokeClientInHub, ClientHub.revokeClientInHub, hclient]
    · simp [Harmless, hclient]
  | some client =>
    have hharmless : hub.Harmless ok (.revoke name draw tie) ↔ ok 0 = true ∧ ok 1 = true ∧
          hub.tables.Unused draw.hashed name := by
      simp [Harmless, hclient]
    obtain ⟨hfailed, hfind, -⟩ := call_revoke tie ok hdrawn hclient
    rw [hharmless]
    apply atomic_iff_of_changed hfailed
    intro hsame
    have hname := congrFun (hfind.symm.trans hsame) name
    rw [update_self, hclient] at hname
    -- The new token was not registered.
    have hvtoken := (congrArg ClientInfo.vtoken (Option.some.inj hname)).symm
    obtain ⟨hmem, -⟩ := getByName_eq_some_iff.mp hclient
    have hlookup := mem_values_iff.mp hmem
    rw [hvtoken, hdrawn] at hlookup
    cases hlookup

end Revoke

section Update
variable {newName : String} {label personaName personaEmoji : Option String} {client : ClientInfo}

lemma updated_eq_iff (hclient : hub.registry.getByName name = some client) :
    updated name label personaName personaEmoji client = client ↔
      client.Keeps label personaName personaEmoji := by
  obtain ⟨-, hname⟩ := getByName_eq_some_iff.mp hclient
  subst hname
  obtain ⟨_, _, _, _, _, _, _⟩ := client
  simp [updated, renamed, ClientInfo.Keeps]

lemma call_update_iff :
    (hub.call ok (.update name newName label personaName personaEmoji)).1 = true ↔
      (hub.toClientHub.updateClientInHub ok name newName label personaName
        personaEmoji).1 = .error .store := by
  simp only [call, updateClientInHub]
  split
  · next houtcome => simp [houtcome]
  · next houtcome =>
    simp only [Bool.false_eq_true, false_iff]
    exact houtcome

lemma toClientHub_call_update :
    (hub.call ok (.update name newName label personaName personaEmoji)).2.toClientHub =
      (hub.toClientHub.updateClientInHub ok name newName label personaName personaEmoji).2 := rfl

section Distinct

variable (hdistinct : hub.tables.Distinct)

include hdistinct

/-- The registered tokens and the tables say all about a restart. -/
lemma restartsAs_iff :
    hub.RestartsAs name ↔ (hub.tables.row name).map ClientRow.vtoken =
        hub.registry.tokens name := by
  rw [RestartsAs, registry_loadClientsFromDb, getByName_loadedRegistry hdistinct, Option.map_map]
  rfl

/-- A restart finds the token of an update that changes no name, though its first
statement may have been carried out. -/
lemma restartsAs_update {after : AdminHub} (hclient : hub.registry.getByName name = some client)
    (hregistry : after.registry.getByName = hub.registry.getByName)
    (htables : after.tables = hub.tables ∨
      hub.tables.updateClientByVtoken client.vtoken name label = some after.tables)
    (hrestarts : hub.RestartsAs name) : after.RestartsAs name := by
  have htokens : after.registry.tokens name = hub.registry.tokens name := by
    rw [tokens, tokens, hregistry]
  rcases htables with hsame | hwritten
  · rw [RestartsAs, hsame, htokens]
    exact hrestarts
  · rw [restartsAs_iff hdistinct] at hrestarts
    obtain ⟨row, hrow, hvtoken⟩ := Option.map_eq_some_iff.mp
      (hrestarts.trans (tokens_of_getByName hclient))
    obtain ⟨found, hfound, hrows, -⟩ :=
      updateClientByVtoken_of_free label hrow (hdistinct name row hrow) (.inl rfl)
    rw [hvtoken, hwritten] at hfound
    cases hfound
    rw [update_idem] at hrows
    rw [restartsAs_iff (hdistinct.of_update hrow hrows rfl), htokens,
      ← hrestarts, hrows, update_self, hrow]
    rfl

/-- An update that fails has changed the registry, unless there was nothing to
change. -/
lemma atomic_allowed_update_iff
    (hclient : hub.registry.getByName name = some client) (hvalid : trim newName ≠ "")
    (hfree : trim newName = name ∨ hub.registry.getByName (trim newName) = none) :
    hub.Atomic ok (.update name newName label personaName personaEmoji) ↔
      ok 0 = true ∧ ok 1 = true ∧ hub.tables.Renamable client.vtoken (trim newName) ∨
        trim newName = name ∧
          client.Keeps label personaName personaEmoji := by
  obtain ⟨hfailed, htables⟩ := failed_updateClientInHub_iff ok hdistinct hclient hvalid hfree
  rw [← call_update_iff] at hfailed htables
  obtain ⟨hrouter, hfind⟩ :=
    registry_updateClientInHub ok hclient hvalid hfree
  rw [← toClientHub_call_update] at hrouter hfind htables
  by_cases hok : ok 0 = true ∧ ok 1 = true ∧ hub.tables.Renamable client.vtoken (trim newName)
  · refine iff_of_true (atomic_of_succeeds ?_) (.inl hok)
    rw [← Bool.not_eq_true, hfailed, not_not]
    exact hok
  · rw [or_iff_right hok]
    constructor
    · intro hatomic
      have hsame := hfind.symm.trans (hatomic (hfailed.mpr hok)).1.getByName
      have hname : trim newName = name := by
        by_contra hother
        have hold := congrFun hsame name
        simp [update_of_ne (symm hother), hclient] at hold
      refine ⟨hname, (updated_eq_iff hclient).mp ?_⟩
      rw [hname] at hsame
      have hold := congrFun hsame name
      rw [update_self, hclient] at hold
      exact Option.some.inj hold
    · rintro ⟨hname, hkeeps⟩ hcall
      rw [hname, update_idem, (updated_eq_iff hclient).mpr hkeeps,
        ← hclient, update_eq_self] at hfind
      have hsame := same_of_getByName hfind
      refine ⟨⟨hsame, hrouter, rfl, rfl⟩, ?_, ?_⟩
      · intro vtoken hvtoken
        rw [registered_iff_tokens]
        refine ⟨name, ?_⟩
        exact (congrArg (Option.map ClientInfo.vtoken) (congrFun hfind name)).trans hvtoken
      · rw [hname] at htables
        exact restartsAs_update hdistinct hclient hfind (htables hcall)

lemma atomic_update_iff :
    hub.Atomic ok (.update name newName label personaName personaEmoji) ↔
      hub.Harmless ok (.update name newName label personaName personaEmoji) := by
  cases hclient : hub.registry.getByName name with
  | none =>
    refine iff_of_true (atomic_of_succeeds ?_) ?_
    · rw [← Bool.not_eq_true, call_update_iff]
      exact updateClientInHub_refused ok (.inl hclient)
    · simp [Harmless, hclient]
  | some client =>
    have hharmless : hub.Harmless ok (.update name newName label personaName
        personaEmoji) ↔ (trim newName = "" ∨ trim newName ≠ name ∧
          hub.registry.getByName (trim newName) ≠ none) ∨
        ok 0 = true ∧ ok 1 = true ∧ hub.tables.Renamable client.vtoken (trim newName) ∨
        trim newName = name ∧
          client.Keeps label personaName personaEmoji := by
      simp [Harmless, hclient, or_assoc]
    rw [hharmless]
    by_cases hrefused : trim newName = "" ∨ trim newName ≠ name ∧
        hub.registry.getByName (trim newName) ≠ none
    · refine iff_of_true (atomic_of_succeeds ?_) (.inl hrefused)
      rw [← Bool.not_eq_true, call_update_iff]
      exact updateClientInHub_refused ok (.inr hrefused)
    · rw [or_iff_right hrefused]
      obtain ⟨hvalid, hfree⟩ := not_or.mp hrefused
      rw [not_and_not_right, ← or_iff_not_imp_left] at hfree
      exact atomic_allowed_update_iff hdistinct hclient hvalid hfree

end Distinct

end Update

/-- A failed operation leaves the memory as it was exactly if it cannot fail at
the store, or changes nothing at all. -/
theorem atomic_iff_harmless (hdistinct : hub.tables.Distinct) {call : AdminCall}
    (hfresh : call.Fresh hub.registry) : hub.Atomic ok call ↔ hub.Harmless ok call := by
  cases call with
  | unregister name force tie => exact atomic_unregister_iff tie name force
  | revoke name draw tie => exact atomic_revoke_iff tie name hfresh
  | update oldName newName label personaName personaEmoji =>
    exact atomic_update_iff hdistinct

end AdminHub

/-- One client that was registered and has polled. -/
def Sample.botHub : AdminHub where
  toClientHub := ClientHub.new.step ⟨∅, ∅, []⟩ (.register { name := "bot" } ⟨"1", "h1"⟩)
  queue := ((InMemoryQueue.withLimit 10).push "h1" {}).2
  lastSeen := AList.insert "h1" 5 ∅

def Sample.storeDown : Nat → Bool :=
  fun _ => false

lemma Sample.distinct_botHub : botHub.tables.Distinct := by
  have hrow : ∀ name row, botHub.tables.row name = some row → name = "bot" := by
    intro name row hrow
    have hmem := Query.lookup_eq_some_iff.mp hrow
    have hentries : botHub.tables.clients.entries =
        [⟨"bot", { vtoken := "h1" }⟩] := by decide +kernel
    rw [hentries, List.mem_singleton] at hmem
    exact congrArg Sigma.fst hmem
  intro name row hname other otherRow hother _
  rw [hrow name row hname, hrow other otherRow hother]

theorem AdminHub.atomic_iff_harmless_botHub :
    (botHub.call storeDown (.update "bot" "bot" none none none)).1 = true ∧
      botHub.Atomic storeDown (.update "bot" "bot" none none none) := by
  have hfresh : AdminCall.Fresh botHub.registry (.update "bot" "bot" none none none) := trivial
  refine ⟨by decide +kernel, (atomic_iff_harmless distinct_botHub hfresh).mpr ?_⟩
  intro client hclient
  have hbot : botHub.registry.getByName "bot" =
      some { name := "bot", vtoken := "h1" } := by decide +kernel
  cases hbot.symm.trans hclient
  exact .inr (.inr (.inr ⟨by decide, rfl, rfl, rfl⟩))

/-- With a store that is down, a revocation fails and the old credential is
refused; after a restart it is the one that is registered. -/
theorem AdminHub.failed_revoke_rotates :
    (botHub.call storeDown (.revoke "bot" ⟨"2", "h2"⟩ 0)).1 = true ∧
      botHub.registry.tokens "bot" = some "h1" ∧
      (botHub.call storeDown (.revoke "bot" ⟨"2", "h2"⟩ 0)).2.registry.tokens "bot" = some "h2" ∧
      ¬ (botHub.call storeDown (.revoke "bot" ⟨"2", "h2"⟩ 0)).2.registry.Registered "h1" ∧
      botHub.RestartsAs "bot" ∧
      ¬ (botHub.call storeDown (.revoke "bot" ⟨"2", "h2"⟩ 0)).2.RestartsAs "bot" ∧
      ¬ botHub.Atomic storeDown (.revoke "bot" ⟨"2", "h2"⟩ 0) := by
  have hfailed : (botHub.call storeDown (.revoke "bot" ⟨"2", "h2"⟩ 0)).1 = true := by decide +kernel
  have hbefore : botHub.registry.tokens "bot" = some "h1" := by
    decide +kernel
  have hafter : (botHub.call storeDown
      (.revoke "bot" ⟨"2", "h2"⟩ 0)).2.registry.tokens "bot" = some "h2" := by decide +kernel
  refine ⟨hfailed, hbefore, hafter, ?_, ?_, ?_, ?_⟩
  · decide +kernel
  · unfold RestartsAs
    decide +kernel
  · unfold RestartsAs
    decide +kernel
  · apply not_atomic_of_changed hfailed
    intro hsame
    rw [tokens, hsame] at hafter
    rw [tokens, hafter] at hbefore
    exact absurd hbefore (by decide)

end IlinkHub
