/-
The operations on clients (`server/pairing.rs`): registration, deletion,
revocation and renaming.  Each one releases every lock before it waits, so it is
a process that other handlers can run in between.
-/
import IlinkHub.HubData

namespace IlinkHub

open KeyedRegistry HubData

inductive AdminOp where
  | register (name : String) (label description : Option String)
  | registerConfirmed (name : String) (label description : Option String)
  | unregister (name : String) (force : Bool)
  | revoke (name : String)
  | update (oldName newName : String) (label personaName personaEmoji : Option String)
deriving Repr, DecidableEq

/-- The await points of `unregister_client_in_hub` after the removal. -/
inductive UnregisterStage where
  | removeRoutes
  | unseen
  | removeSlot
  | clearRoutes
  | deleteClient
deriving Repr, DecidableEq

/-- The await points of `revoke_client_in_hub` after the rotation; `done` has
returned the new token. -/
inductive RevokeStage where
  | unseen
  | removeSlot
  | removeRoutes
  | revokeRows
  | upsert
  | done
deriving Repr, DecidableEq

/-- What the rotation of a token hands on. -/
structure Rotation where
  oldHash : String
  newHash : String
  newDefault : Option String
deriving Repr, DecidableEq

inductive AdminPhase where
  | start
  | setDefault (hashed : String) (persist : Bool)
  | persistDefault (hashed : String)
  | upsert (hashed : String)
  | remove (vtoken : String)
  | unregister (vtoken : String) (newDefault : Option String) (stage : UnregisterStage)
  | revoke (rotation : Rotation) (stage : RevokeStage)
  | updateRow (vtoken name : String)
  | finished
deriving Repr, DecidableEq

/-- The write succeeds when the store answers and no constraint is in its
way. -/
def HubData.written (data : HubData) (ok : Bool)
    (write : HubData → Option HubData) : Option HubData :=
  if ok then write data else none

namespace AdminOp

/-- The name that the rows of the client are kept under. -/
def name : AdminOp → String
  | .register name _ _ | .registerConfirmed name _ _ | .unregister name _
  | .revoke name => name
  | .update _ newName _ _ _ => newName

/-- The first client is the default for everyone who has not chosen. -/
def afterRegistration (registry : KeyedRegistry) (hashed : String)
    (isNew persist : Bool) : AdminPhase :=
  if isNew ∧ registry.values.length = 1 then .setDefault hashed persist
  else .upsert hashed

/-- The first step works on the registry alone.  A token that is drawn is never
one that is registered. -/
def begin (admin : AdminOp) (data : HubData) (env : HubEnv) : HubData × AdminPhase :=
  match admin with
  | .register name label description =>
    if hdrawn : data.registry.byVtoken.lookup env.drawn = none then
      let result := data.registry.register name label description env.drawn hdrawn
      ({ data with registry := result.2.2 }, afterRegistration result.2.2 result.1 result.2.1 true)
    else (data, .start)
  | .registerConfirmed name label description =>
    if hdrawn : data.registry.byVtoken.lookup env.drawn = none then
      match data.registry.registerConfirmed name label description env.drawn hdrawn with
      | some registry => ({ data with registry := registry },
          afterRegistration registry env.drawn true false)
      | none => (data, .finished)
    else (data, .start)
  | .unregister name force =>
    match data.registry.getByName name with
    | some info =>
      if info.online ∧ ¬ force then (data, .finished)
      else (data, .remove info.vtoken)
    | none => (data, .finished)
  | .revoke name =>
    if hdrawn : data.registry.byVtoken.lookup env.drawn = none then
      match data.registry.rotateVtoken name env.drawn hdrawn with
      | some (oldHash, registry) =>
        ({ data with registry := registry }, .revoke ⟨oldHash, env.drawn,
            registry.pickDefaultAfterRemove oldHash env.tie⟩ .unseen)
      | none => (data, .finished)
    else (data, .start)
  | .update oldName newName label personaName personaEmoji =>
    let newName := Text.trim newName
    if newName = "" then (data, .finished)
    else
      match data.registry.updateClient oldName newName label with
      | .ok (vtoken, registry) =>
        ({ data with
            registry := registry.setPersona vtoken personaName
              personaEmoji }, .updateRow vtoken newName)
      | .error _ => (data, .finished)

def unregisterNext (admin : AdminOp) (data : HubData) (env : HubEnv)
    (vtoken : String) (newDefault : Option String) :
    UnregisterStage → HubData × AdminPhase
  | .removeRoutes =>
    ({ data with
        router := data.router.removeRoutesForVtoken vtoken newDefault },
      .unregister vtoken newDefault .unseen)
  | .unseen => ({ data with lastSeen := data.lastSeen.erase vtoken },
      .unregister vtoken newDefault .removeSlot)
  | .removeSlot => (data.withQueue (data.world.queue.removeClient vtoken),
      .unregister vtoken newDefault .clearRoutes)
  | .clearRoutes =>
    if env.ok then (data.clearRoutesForVtoken vtoken, .unregister vtoken newDefault .deleteClient)
    else (data, .finished)
  | .deleteClient =>
    (if env.ok then data.deleteClientByName admin.name else data, .finished)

def revokeNext (admin : AdminOp) (data : HubData) (env : HubEnv)
    (rotation : Rotation) : RevokeStage → HubData × AdminPhase
  | .unseen =>
    ({ data with lastSeen := data.lastSeen.erase rotation.oldHash }, .revoke rotation .removeSlot)
  | .removeSlot =>
    (data.withQueue (data.world.queue.removeClient rotation.oldHash),
      .revoke rotation .removeRoutes)
  | .removeRoutes =>
    ({ data with
        router := data.router.removeRoutesForVtoken rotation.oldHash
          rotation.newDefault }, .revoke rotation .revokeRows)
  | .revokeRows =>
    -- The rows go before the client gets its new token, so that no route is
    -- carried along.
    if env.ok then (data.revokeAuthorizationsForVtoken rotation.oldHash, .revoke rotation .upsert)
    else (data, .finished)
  | .upsert =>
    match data.written env.ok fun data =>
        data.upsertClient rotation.newHash admin.name with
    | some after => (after, .revoke rotation .done)
    | none => (data, .finished)
  | .done => (data, .revoke rotation .done)

def step (admin : AdminOp) (data : HubData) (env : HubEnv) :
    AdminPhase → HubData × AdminPhase
  | .start => admin.begin data env
  | .setDefault hashed persist =>
    ({ data with router := data.router.setDefault hashed },
      if persist then .persistDefault hashed else .upsert hashed)
  | .persistDefault hashed =>
    (if env.ok then data.setRoute hubDefaultSentinel hashed else data, .upsert hashed)
  | .upsert hashed =>
    ((data.written env.ok fun data =>
      data.upsertClient hashed admin.name).getD data, .finished)
  | .remove vtoken =>
    let result := data.registry.remove admin.name
    if result.1 then
      ({ data with registry := result.2 },
        .unregister vtoken (result.2.pickDefaultAfterRemove vtoken env.tie) .removeRoutes)
    else (data, .finished)
  | .unregister vtoken newDefault stage =>
    admin.unregisterNext data env vtoken newDefault stage
  | .revoke rotation stage => admin.revokeNext data env rotation stage
  | .updateRow vtoken name =>
    ((data.written env.ok fun data =>
      data.updateClientByVtoken vtoken name).getD data, .finished)
  | .finished => (data, .finished)

end AdminOp

/-- The tokens that an operation may still write. -/
def AdminPhase.tokens : AdminPhase → List String
  | .setDefault hashed _ | .persistDefault hashed | .upsert hashed => [hashed]
  | .unregister _ newDefault _ => newDefault.toList
  | .revoke rotation _ => rotation.newHash :: rotation.newDefault.toList
  | .start | .remove _ | .updateRow _ _ | .finished => []

/-- The token that the step draws. -/
def AdminOp.drawn (admin : AdminOp) (env : HubEnv) : AdminPhase → List String
  | .start =>
    match admin with
    | .register _ _ _ | .registerConfirmed _ _ _ | .revoke _ => [env.drawn]
    | .unregister _ _ | .update _ _ _ _ _ => []
  | _ => []

namespace AdminOp

variable {admin : AdminOp} {data : HubData} {env : HubEnv}

lemma tokens_afterRegistration (registry : KeyedRegistry) (hashed : String) (isNew persist : Bool) :
    (afterRegistration registry hashed isNew persist).tokens = [hashed] := by
  unfold afterRegistration
  split <;> rfl

variable {vtoken : String} {write : HubData → Option HubData} {phase : AdminPhase}

lemma registered_of_begin (hregistered : (admin.begin data env).1.registry.Registered vtoken) :
    data.registry.Registered vtoken ∨ vtoken ∈ admin.drawn env .start := by
  cases admin with
  | register name label description =>
    simp only [begin] at hregistered
    split at hregistered
    · next hdrawn =>
      rcases registered_of_register hdrawn hregistered with
        rfl | hold
      · exact .inr List.mem_cons_self
      · exact .inl hold
    · exact .inl hregistered
  | registerConfirmed name label description =>
    simp only [begin] at hregistered
    split at hregistered
    · split at hregistered
      · next registry hnext =>
        rcases (registered_registerConfirmed hnext).mp hregistered with rfl | hold
        · exact .inr List.mem_cons_self
        · exact .inl hold
      · exact .inl hregistered
    · exact .inl hregistered
  | unregister name force =>
    simp only [begin] at hregistered
    repeat' split at hregistered
    all_goals exact .inl hregistered
  | revoke name =>
    simp only [begin] at hregistered
    split at hregistered
    · split at hregistered
      · next oldHash registry hnext =>
        rcases (registered_rotateVtoken hnext).2.mp hregistered with rfl | ⟨-, hold⟩
        · exact .inr List.mem_cons_self
        · exact .inl hold
      · exact .inl hregistered
    · exact .inl hregistered
  | update oldName newName label personaName personaEmoji =>
    left
    simp only [begin] at hregistered
    split at hregistered
    · exact hregistered
    · split at hregistered
      · next own registry hnext =>
        rw [setPersona, registered_adjust, registered_updateClient hnext] at hregistered
        exact hregistered
      · exact hregistered

lemma registered_of_mem_begin (hmem : vtoken ∈ (admin.begin data env).2.tokens) :
    (admin.begin data env).1.registry.Registered vtoken := by
  cases admin with
  | register name label description =>
    simp only [begin] at hmem ⊢
    split at hmem
    · next hdrawn =>
      rw [tokens_afterRegistration] at hmem
      obtain rfl := List.mem_singleton.mp hmem
      rw [dif_pos hdrawn]
      exact registered_register_self hdrawn
    · cases hmem
  | registerConfirmed name label description =>
    simp only [begin] at hmem ⊢
    split at hmem
    · next hdrawn =>
      rw [dif_pos hdrawn]
      split at hmem
      · next registry hnext =>
        rw [tokens_afterRegistration] at hmem
        obtain rfl := List.mem_singleton.mp hmem
        exact (registered_registerConfirmed hnext).mpr (.inl rfl)
      · cases hmem
    · cases hmem
  | unregister name force =>
    simp only [begin] at hmem
    repeat' split at hmem
    all_goals cases hmem
  | revoke name =>
    simp only [begin] at hmem ⊢
    split at hmem
    · next hdrawn =>
      rw [dif_pos hdrawn]
      split at hmem
      · next oldHash registry hnext =>
        rcases List.mem_cons.mp hmem with rfl | hdefault
        · exact (registered_rotateVtoken hnext).2.mpr (.inl rfl)
        · exact (of_pickDefaultAfterRemove (Option.mem_toList.mp hdefault)).2
      · cases hmem
    · cases hmem
  | update oldName newName label personaName personaEmoji =>
    simp only [begin] at hmem
    repeat' split at hmem
    all_goals cases hmem

lemma writes_begin {tokens : List String} : data.Writes (admin.begin data env).1 tokens := by
  have hdata : (admin.begin data env).1 =
      { data with registry := (admin.begin data env).1.registry } := by
    cases admin <;> simp only [begin] <;> repeat' split
    all_goals rfl
  rw [hdata]
  exact writes_registry _

lemma writes_written {tokens : List String} (ok : Bool)
    (hwrite : ∀ after, write data = some after → data.Writes after tokens) :
    data.Writes ((data.written ok write).getD data) tokens := by
  unfold written
  split
  · cases hafter : write data with
    | none => exact writes_refl
    | some after => exact hwrite after hafter
  · exact writes_refl

lemma writes_unregisterNext (vtoken : String) (newDefault : Option String)
    (stage : UnregisterStage) :
    data.Writes (admin.unregisterNext data env vtoken newDefault stage).1 newDefault.toList := by
  cases stage with
  | removeRoutes => exact writes_removeRoutes _ _
  | unseen => exact (writes_unseen _).mono (List.nil_subset _)
  | removeSlot => exact (writes_removeClient _).mono (List.nil_subset _)
  | clearRoutes =>
    simp only [unregisterNext]
    split
    · exact (writes_clearRoutes _).mono (List.nil_subset _)
    · exact writes_refl
  | deleteClient =>
    simp only [unregisterNext]
    split
    · exact fun _ _ hat => .inl hat
    · exact writes_refl

lemma writes_revokeNext (rotation : Rotation) (stage : RevokeStage) :
    data.Writes (admin.revokeNext data env rotation stage).1
      (rotation.newHash :: rotation.newDefault.toList) := by
  cases stage with
  | unseen => exact (writes_unseen _).mono (List.nil_subset _)
  | removeSlot => exact (writes_removeClient _).mono (List.nil_subset _)
  | removeRoutes =>
    exact (writes_removeRoutes _ _).mono (List.subset_cons_self _ _)
  | revokeRows =>
    simp only [revokeNext]
    split
    · exact (writes_revoke _).mono (List.nil_subset _)
    · exact writes_refl
  | upsert =>
    simp only [revokeNext, written]
    split
    · next after hafter =>
      split at hafter
      · refine (writes_upsertClient hafter).mono ?_
        exact List.cons_subset_cons _ (List.nil_subset _)
      · cases hafter
    · exact writes_refl
  | done => exact writes_refl

lemma writes_step (phase : AdminPhase) :
    data.Writes (admin.step data env phase).1 phase.tokens := by
  cases phase with
  | start => exact writes_begin
  | setDefault hashed persist =>
    apply writes_router
    intro own hmentions
    rcases Router.mentions_of_setDefault hmentions with rfl | hold
    · exact .inr List.mem_cons_self
    · exact .inl hold
  | persistDefault hashed =>
    simp only [step]
    split
    · exact writes_setRoute _ _
    · exact writes_refl
  | upsert hashed =>
    exact writes_written env.ok fun _ => writes_upsertClient
  | remove vtoken =>
    simp only [step]
    split
    · exact writes_registry _
    · exact writes_refl
  | unregister vtoken newDefault stage =>
    exact writes_unregisterNext vtoken newDefault stage
  | revoke rotation stage =>
    exact writes_revokeNext rotation stage
  | updateRow vtoken name =>
    exact writes_written env.ok fun _ => writes_updateClient
  | finished => exact writes_refl

lemma sameMemory_of_written {after : HubData} {ok : Bool}
    (hwrite : ∀ after, write data = some after → data.SameMemory after)
    (hafter : data.written ok write = some after) : data.SameMemory after := by
  unfold written at hafter
  split at hafter
  · exact hwrite after hafter
  · cases hafter

lemma sameMemory_written {ok : Bool}
    (hwrite : ∀ after, write data = some after → data.SameMemory after) :
    data.SameMemory ((data.written ok write).getD data) := by
  cases hafter : data.written ok write with
  | none => exact ⟨rfl, rfl, rfl, rfl⟩
  | some after => exact sameMemory_of_written hwrite hafter

/-- After the first step only a removal changes the registry. -/
lemma registry_step (hstart : phase ≠ .start) (hremove : ∀ vtoken, phase ≠ .remove vtoken) :
    (admin.step data env phase).1.registry = data.registry := by
  cases phase with
  | start => exact absurd rfl hstart
  | remove vtoken => exact absurd rfl (hremove vtoken)
  | setDefault hashed persist => rfl
  | persistDefault hashed =>
    simp only [step]
    split <;> rfl
  | upsert hashed =>
    exact (sameMemory_written fun _ =>
      sameMemory_upsertClient).registry
  | unregister vtoken newDefault stage =>
    cases stage <;> simp only [step, unregisterNext] <;> repeat' split
    all_goals rfl
  | revoke rotation stage =>
    cases stage with
    | upsert =>
      simp only [step, revokeNext]
      split
      · next after hafter =>
        exact (sameMemory_of_written (fun _ =>
          sameMemory_upsertClient) hafter).registry
      · rfl
    | revokeRows =>
      simp only [step, revokeNext]
      split <;> rfl
    | _ => rfl
  | updateRow vtoken name =>
    exact (sameMemory_written fun _ =>
      sameMemory_updateClient).registry
  | finished => rfl

/-- No operation registers another token than the one that it draws. -/
lemma registered_of_step
    (hregistered : (admin.step data env phase).1.registry.Registered vtoken) :
    data.registry.Registered vtoken ∨ vtoken ∈ admin.drawn env phase := by
  cases phase with
  | start => exact registered_of_begin hregistered
  | remove own =>
    left
    simp only [step] at hregistered
    split at hregistered
    · exact registered_of_remove hregistered
    · exact hregistered
  | _ =>
    rw [registry_step (by simp) (by simp)] at hregistered
    exact .inl hregistered

/-- The tokens that it holds next are registered, or it held them. -/
lemma source_step (hmem : vtoken ∈ (admin.step data env phase).2.tokens) :
    vtoken ∈ phase.tokens ∨ (admin.step data env phase).1.registry.Registered vtoken := by
  cases phase with
  | start => exact .inr (registered_of_mem_begin hmem)
  | setDefault hashed persist =>
    left
    cases persist <;> exact hmem
  | persistDefault hashed => exact .inl hmem
  | remove own =>
    simp only [step] at hmem ⊢
    split at hmem
    · next hremoved =>
      rw [if_pos hremoved]
      exact .inr (of_pickDefaultAfterRemove (Option.mem_toList.mp hmem)).2
    · cases hmem
  | unregister own newDefault stage =>
    left
    cases stage with
    | clearRoutes =>
      simp only [step, unregisterNext] at hmem
      split at hmem
      · exact hmem
      · cases hmem
    | deleteClient => cases hmem
    | _ => exact hmem
  | revoke rotation stage =>
    left
    cases stage with
    | revokeRows =>
      simp only [step, revokeNext] at hmem
      split at hmem
      · exact hmem
      · cases hmem
    | upsert =>
      simp only [step, revokeNext] at hmem
      split at hmem
      · exact hmem
      · cases hmem
    | _ => exact hmem
  | _ => cases hmem

end AdminOp

end IlinkHub
