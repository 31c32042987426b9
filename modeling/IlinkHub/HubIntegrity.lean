/-
Which tokens the router, the slots and the times of the last polls are left with
when every handler has returned.  A deletion or revocation takes the token out of
the registry first and cleans these places one after the other, so until it has
returned it owes the places that it has not cleaned.
-/
import IlinkHub.HubRevocation

namespace IlinkHub

open Sample KeyedRegistry HubData Transition Running

universe u

/-- The places that refer to clients by their tokens. -/
def Place.refers : List Place :=
  [.router, .queue, .lastSeen]

/-- The places that the deletion has still to clean. -/
def UnregisterStage.pending : UnregisterStage → List Place
  | .removeRoutes => [.router, .lastSeen, .queue]
  | .unseen => [.lastSeen, .queue]
  | .removeSlot => [.queue]
  | .clearRoutes | .deleteClient => []

/-- The places that the revocation has still to clean. -/
def RevokeStage.pending : RevokeStage → List Place
  | .unseen => [.lastSeen, .queue, .router]
  | .removeSlot => [.queue, .router]
  | .removeRoutes => [.router]
  | .revokeRows | .upsert | .done => []

/-- What the operation will still take away: a token, and where. -/
def AdminPhase.pending : AdminPhase → List (Place × String)
  | .unregister vtoken _ stage => stage.pending.map (·, vtoken)
  | .revoke rotation stage => stage.pending.map (·, rotation.oldHash)
  | _ => []

/-- The tokens that the operation may still write to one of these places. -/
def AdminPhase.carried : AdminPhase → List String
  | .setDefault hashed _ => [hashed]
  | .unregister _ newDefault .removeRoutes => newDefault.toList
  | .revoke rotation .unseen | .revoke rotation .removeSlot
  | .revoke rotation .removeRoutes => rotation.newDefault.toList
  | _ => []

/-- A call writes to the slot of its target until it has enqueued its
message. -/
def CallPhase.carried : CallPhase → List String
  | .notify _ _ | .awaitReply _ _ | .release _ _ _ _ | .notifyReply _ _ => []
  | phase => phase.tokens

/-- A deletion is about to remove the client whose token it has read. -/
def AdminOp.Current (admin : AdminOp) (registry : KeyedRegistry) :
    AdminPhase → Prop
  | .remove vtoken => ∀ own ∈ registry.byName.lookup admin.name, own = vtoken
  | _ => True

instance (admin : AdminOp) (registry : KeyedRegistry) :
    ∀ phase, Decidable (admin.Current registry phase)
  | .remove _ => inferInstanceAs (Decidable (∀ own ∈ _, _))
  | .start | .setDefault _ _ | .persistDefault _ | .upsert _
  | .unregister _ _ _ | .revoke _ _ | .updateRow _ _ | .finished =>
    inferInstanceAs (Decidable True)

/-- Nothing has changed in these places. -/
structure HubData.SameRefers (before after : HubData) : Prop where
  router : after.router = before.router
  queue : after.world.queue = before.world.queue
  lastSeen : after.lastSeen = before.lastSeen

namespace HubData

variable {data after : HubData} {place : Place} {vtoken name : String}

lemma SameRefers.at_iff (hsame : data.SameRefers after) (hplace : place ∈ Place.refers) :
    after.At place vtoken ↔ data.At place vtoken := by
  simp only [Place.refers, List.mem_cons, List.not_mem_nil, or_false] at hplace
  rcases hplace with rfl | rfl | rfl
  · rw [At, At, hsame.router]
  · rw [At, At, hsame.queue]
  · rw [At, At, hsame.lastSeen]

lemma sameRefers_upsertClient (hafter : data.upsertClient vtoken name = some after) :
    data.SameRefers after := by
  unfold upsertClient at hafter
  split at hafter
  · cases hafter
    exact ⟨rfl, rfl, rfl⟩
  · cases hafter

end HubData

namespace AdminOp

variable {admin : AdminOp} {data : HubData} {env : HubEnv} {vtoken : String} {place : Place}

/-- Only a rotation loses a token in the first step, and the revocation then owes
every place. -/
lemma pending_of_begin (hplace : place ∈ Place.refers) (hbefore : data.registry.Registered vtoken)
    (hafter : ¬ (admin.begin data env).1.registry.Registered vtoken) :
    (place, vtoken) ∈ (admin.begin data env).2.pending := by
  cases admin with
  | register name label description =>
    exfalso
    apply hafter
    simp only [begin]
    split
    · exact registered_register_of_registered _ hbefore
    · exact hbefore
  | registerConfirmed name label description =>
    exfalso
    apply hafter
    simp only [begin]
    repeat' split
    · next registry hnext =>
      exact (registered_registerConfirmed hnext).mpr (.inr hbefore)
    · exact hbefore
    · exact hbefore
  | unregister name force =>
    exfalso
    apply hafter
    simp only [begin]
    repeat' split
    all_goals exact hbefore
  | revoke name =>
    by_cases hdrawn : data.registry.byVtoken.lookup env.drawn = none
    · simp only [begin, dif_pos hdrawn] at hafter ⊢
      cases hnext : data.registry.rotateVtoken name env.drawn hdrawn with
      | none =>
        simp only [hnext] at hafter
        exact absurd hbefore hafter
      | some result =>
        obtain ⟨oldHash, registry⟩ := result
        simp only [hnext] at hafter ⊢
        rw [(registered_rotateVtoken hnext).2] at hafter
        have hold : vtoken = oldHash := by
          by_contra hne
          exact hafter (.inr ⟨hne, hbefore⟩)
        subst hold
        simp only [Place.refers, List.mem_cons, List.not_mem_nil, or_false] at hplace
        rcases hplace with rfl | rfl | rfl <;>
          simp [AdminPhase.pending, RevokeStage.pending]
    · simp only [begin, dif_neg hdrawn] at hafter
      exact absurd hbefore hafter
  | update oldName newName label personaName personaEmoji =>
    exfalso
    apply hafter
    simp only [begin]
    repeat' split
    · exact hbefore
    · next own registry hnext =>
      rw [setPersona, registered_adjust, registered_updateClient hnext]
      exact hbefore
    · exact hbefore

variable {phase : AdminPhase}

/-- A token leaves the registry with an operation that will clean the places
behind it. -/
lemma pending_of_step (hplace : place ∈ Place.refers)
    (hcurrent : admin.Current data.registry phase) (hbefore : data.registry.Registered vtoken)
    (hafter : ¬ (admin.step data env phase).1.registry.Registered vtoken) :
    (place, vtoken) ∈ (admin.step data env phase).2.pending := by
  cases phase with
  | start => exact pending_of_begin hplace hbefore hafter
  | remove own =>
    simp only [step] at hafter ⊢
    split at hafter
    · next hremoved =>
      rw [registered_remove] at hafter
      have hname : data.registry.byName.lookup admin.name = some vtoken := by
        by_contra hne
        exact hafter ⟨hne, hbefore⟩
      obtain rfl := hcurrent vtoken hname
      rw [if_pos hremoved]
      simp only [Place.refers, List.mem_cons, List.not_mem_nil, or_false] at hplace
      rcases hplace with rfl | rfl | rfl <;>
        simp [AdminPhase.pending, UnregisterStage.pending]
    · exact absurd hbefore hafter
  | _ =>
    rw [registry_step (by simp) (by simp)] at hafter
    exact absurd hbefore hafter

/-- A step of a deletion keeps what it owes, or has just done it. -/
lemma pending_unregisterNext {own : String} {newDefault : Option String}
    {stage : UnregisterStage} (hplace : place ∈ stage.pending) :
    (place, own) ∈ (admin.unregisterNext data env own newDefault stage).2.pending ∨
      own ∈ (AdminPhase.unregister own newDefault stage).carried ∨
      ¬ (admin.unregisterNext data env own newDefault stage).1.At place own := by
  cases stage with
  | removeRoutes =>
    rcases List.mem_cons.mp hplace with rfl | hrest
    · by_cases hdefault : newDefault = some own
      · exact .inr (.inl (Option.mem_toList.mpr hdefault))
      · exact .inr (.inr fun hat =>
          hdefault (eq_of_at_removeRoutes hat))
    · exact .inl (List.mem_map_of_mem hrest)
  | unseen =>
    rcases List.mem_cons.mp hplace with rfl | hrest
    · exact .inr (.inr (not_at_unseen _))
    · exact .inl (List.mem_map_of_mem hrest)
  | removeSlot =>
    obtain rfl := List.mem_singleton.mp hplace
    exact .inr (.inr (not_at_removeClient _))
  | clearRoutes => cases hplace
  | deleteClient => cases hplace

lemma pending_revokeNext {rotation : Rotation} {stage : RevokeStage}
    (hplace : place ∈ stage.pending) :
    (place, rotation.oldHash) ∈ (admin.revokeNext data env rotation stage).2.pending ∨
      rotation.oldHash ∈ (AdminPhase.revoke rotation stage).carried ∨
      ¬ (admin.revokeNext data env rotation stage).1.At place rotation.oldHash := by
  cases stage with
  | unseen =>
    rcases List.mem_cons.mp hplace with rfl | hrest
    · exact .inr (.inr (not_at_unseen _))
    · exact .inl (List.mem_map_of_mem hrest)
  | removeSlot =>
    rcases List.mem_cons.mp hplace with rfl | hrest
    · exact .inr (.inr (not_at_removeClient _))
    · exact .inl (List.mem_map_of_mem hrest)
  | removeRoutes =>
    obtain rfl := List.mem_singleton.mp hplace
    by_cases hdefault : rotation.newDefault = some rotation.oldHash
    · exact .inr (.inl (Option.mem_toList.mpr hdefault))
    · exact .inr (.inr fun hat =>
        hdefault (eq_of_at_removeRoutes hat))
  | revokeRows => cases hplace
  | upsert => cases hplace
  | done => cases hplace

/-- What an operation owes it owes after a step too, or the place is clean. -/
lemma pending_step (hpending : (place, vtoken) ∈ phase.pending) :
    (place, vtoken) ∈ (admin.step data env phase).2.pending ∨ vtoken ∈ phase.carried ∨
      ¬ (admin.step data env phase).1.At place vtoken := by
  cases phase with
  | unregister own newDefault stage =>
    obtain ⟨found, hplace, heq⟩ := List.mem_map.mp hpending
    cases heq
    exact pending_unregisterNext hplace
  | revoke rotation stage =>
    obtain ⟨found, hplace, heq⟩ := List.mem_map.mp hpending
    cases heq
    exact pending_revokeNext hplace
  | _ => cases hpending

lemma tokens_of_carried (hmem : vtoken ∈ phase.carried) : vtoken ∈ phase.tokens := by
  unfold AdminPhase.carried at hmem
  split at hmem
  · exact hmem
  · exact hmem
  · exact List.mem_cons_of_mem _ hmem
  · exact List.mem_cons_of_mem _ hmem
  · exact List.mem_cons_of_mem _ hmem
  · cases hmem

/-- An operation carries tokens on that it carried, or takes up registered
ones. -/
lemma carried_step (hmem : vtoken ∈ (admin.step data env phase).2.carried) :
    vtoken ∈ phase.carried ∨ (admin.step data env phase).1.registry.Registered vtoken := by
  cases phase with
  | start => exact .inr (registered_of_mem_begin (tokens_of_carried hmem))
  | remove own =>
    exact (source_step (tokens_of_carried hmem)).imp_left fun h => by cases h
  | setDefault hashed persist => cases persist <;> cases hmem
  | unregister own newDefault stage =>
    cases stage with
    | clearRoutes =>
      simp only [step, unregisterNext] at hmem
      split at hmem <;> cases hmem
    | _ => cases hmem
  | revoke rotation stage =>
    cases stage with
    | revokeRows | upsert =>
      simp only [step, revokeNext] at hmem
      split at hmem <;> cases hmem
    | removeRoutes | done => cases hmem
    | _ => exact .inl hmem
  | _ => cases hmem

lemma sameRefers_written {write : HubData → Option HubData} {ok : Bool}
    (hwrite : ∀ after, write data = some after → data.SameRefers after) :
    data.SameRefers ((data.written ok write).getD data) := by
  unfold written
  split
  · cases hafter : write data with
    | none => exact ⟨rfl, rfl, rfl⟩
    | some after => exact hwrite after hafter
  · exact ⟨rfl, rfl, rfl⟩

/-- The operation leaves behind what it carries. -/
lemma at_of_step (hplace : place ∈ Place.refers)
    (hat : (admin.step data env phase).1.At place vtoken) :
    data.At place vtoken ∨ vtoken ∈ phase.carried := by
  -- The steps that write to the database change none of the places.
  have hsame : data.SameRefers (admin.step data env phase).1 →
      data.At place vtoken ∨ vtoken ∈ phase.carried := fun hsame =>
    .inl ((hsame.at_iff hplace).mp hat)
  cases phase with
  | unregister own newDefault stage =>
    cases stage with
    | removeRoutes => exact writes_step _ place vtoken hat
    | unseen => exact writes_unseen own place vtoken hat
    | removeSlot => exact writes_removeClient own place vtoken hat
    | _ =>
      apply hsame
      simp only [step, unregisterNext]
      split <;> exact ⟨rfl, rfl, rfl⟩
  | revoke rotation stage =>
    cases stage with
    | unseen =>
      exact (writes_unseen _ place vtoken hat).imp_right fun h => by cases h
    | removeSlot =>
      exact (writes_removeClient _ place vtoken hat).imp_right fun h => by cases h
    | removeRoutes => exact writes_removeRoutes _ _ place vtoken hat
    | revokeRows =>
      apply hsame
      simp only [step, revokeNext]
      split <;> exact ⟨rfl, rfl, rfl⟩
    | upsert =>
      apply hsame
      simp only [step, revokeNext, written]
      split
      · next after hafter =>
        split at hafter
        · exact sameRefers_upsertClient hafter
        · cases hafter
      · exact ⟨rfl, rfl, rfl⟩
    | done => exact .inl hat
  | persistDefault hashed =>
    apply hsame
    simp only [step]
    split <;> exact ⟨rfl, rfl, rfl⟩
  | upsert hashed =>
    exact hsame (sameRefers_written fun _ => sameRefers_upsertClient)
  | _ => exact writes_step _ place vtoken hat

end AdminOp

namespace CallAgent

variable {call : CallAgent} {data : HubData} {env : HubEnv} {vtoken : String} {phase : CallPhase}

lemma tokens_of_carried (hmem : vtoken ∈ phase.carried) : vtoken ∈ phase.tokens := by
  cases phase with
  | notify _ _ | awaitReply _ _ | release _ _ _ _ | notifyReply _ _ =>
    cases hmem
  | _ => exact hmem

lemma carried_reclaimNext (parties : CallParties) (snap : Snapshot) (outcome : CallOutcome)
    (names : List String) : (reclaimNext parties snap outcome names).carried = [] := by
  cases names with
  | nil => cases outcome <;> rfl
  | cons name rest => rfl

lemma carried_releaseNext (store : Store) (ok : Bool) (parties : CallParties)
    (snap : Snapshot) (outcome : CallOutcome) (stage : ReleaseStage) :
    (call.releaseNext store ok parties snap outcome stage).carried = [] := by
  cases stage with
  | inspect =>
    simp only [releaseNext]
    split <;> rfl
  | listSessions =>
    simp only [releaseNext]
    split
    · exact carried_reclaimNext ..
    · exact carried_reclaimNext parties snap outcome []
  | reclaim name rest => exact carried_reclaimNext ..
  | _ => rfl

lemma carried_next (hmem : vtoken ∈ (call.next data.world
      (env.toEnv data.registry.toClientRegistry) phase).carried) :
    vtoken ∈ phase.carried ∨ data.registry.Registered vtoken := by
  cases phase with
  | push _ _ _ | notify _ _ | notifyReply _ _ => cases hmem
  | awaitReply _ _ =>
    simp only [next] at hmem
    split at hmem <;> cases hmem
  | release parties snap outcome stage =>
    simp [next, carried_releaseNext] at hmem
  | _ => exact source_next (tokens_of_carried hmem)

lemma at_of_step {place : Place} (hplace : place ∈ Place.refers)
    (hat : At { data with world := (call.step data.world phase
      (env.toEnv data.registry.toClientRegistry)).1 } place vtoken) :
    data.At place vtoken ∨ vtoken ∈ phase.carried := by
  cases phase with
  | push _ _ _ => exact writes_step _ place vtoken hat
  | _ =>
    left
    refine (SameRefers.at_iff ?_ hplace).mp hat
    exact ⟨rfl, rfl, rfl⟩

end CallAgent

namespace Running

/-- What the handler will still take away. -/
def pending : Running → List (Place × String)
  | .admin _ phase => phase.pending
  | .dispatch _ _ | .getUpdates _ _ | .send _ _ | .call _ _ | .cancelled => []

/-- The tokens that the handler may still write to the router, the slots or the
last polls. -/
def carried : Running → List String
  | .dispatch _ phase => phase.tokens
  | .getUpdates _ phase => phase.tokens
  | .call _ phase => phase.carried
  | .admin _ phase => phase.carried
  | .send _ _ | .cancelled => []

def Current (registry : KeyedRegistry) : Running → Prop
  | .admin own phase => own.Current registry phase
  | .dispatch _ _ | .getUpdates _ _ | .send _ _ | .call _ _ | .cancelled => True

instance (registry : KeyedRegistry) :
    ∀ task : Running, Decidable (task.Current registry) := by
  intro task
  cases task <;> dsimp only [Current] <;> infer_instance

/-- The handler has returned, or its caller has gone. -/
def isFinished : Running → Bool
  | .dispatch _ .finished | .getUpdates _ .finished
  | .send _ (.send (.finished _)) | .send _ (.tail (.finished _))
  | .call _ (.finished _) | .call _ .dropped | .admin _ .finished
  | .admin _ (.revoke _ .done) | .cancelled => true
  | _ => false

variable {config : HubConfig} {data : HubData} {env : HubEnv} {task : Running}
  {vtoken : String} {place : Place}

lemma pending_of_isFinished (hfinished : task.isFinished = true) : task.pending = [] := by
  unfold isFinished at hfinished
  split at hfinished
  all_goals first | rfl | cases hfinished

lemma registered_dataAfter (htask : ∀ admin phase, task ≠ .admin admin phase) :
    (task.dataAfter config data env).registry.Registered vtoken ↔
      data.registry.Registered vtoken := by
  cases task with
  | dispatch dispatch phase => rw [dataAfter, registry_dispatch]
  | getUpdates updates phase => exact GetUpdates.registered_dataAfter
  | send send phase => rw [dataAfter, registry_reply]
  | call call phase => rfl
  | admin admin phase => exact absurd rfl (htask admin phase)
  | cancelled => rfl

lemma pending_of_lost (hplace : place ∈ Place.refers) (hcurrent : task.Current data.registry)
    (hbefore : data.registry.Registered vtoken)
    (hafter : ¬ (task.dataAfter config data env).registry.Registered vtoken) :
    (place, vtoken) ∈ (task.next config data env).pending := by
  cases task with
  | admin admin phase =>
    exact AdminOp.pending_of_step hplace hcurrent hbefore hafter
  | _ =>
    rw [registered_dataAfter (by simp)] at hafter
    exact absurd hbefore hafter

lemma pending_next (hpending : (place, vtoken) ∈ task.pending) :
    (place, vtoken) ∈ (task.next config data env).pending ∨ vtoken ∈ task.carried ∨
      ¬ (task.dataAfter config data env).At place vtoken := by
  cases task with
  | admin admin phase => exact AdminOp.pending_step hpending
  | _ => cases hpending

lemma tokens_of_carried (hmem : vtoken ∈ task.carried) : vtoken ∈ task.tokens := by
  cases task with
  | call call phase => exact CallAgent.tokens_of_carried hmem
  | admin admin phase => exact AdminOp.tokens_of_carried hmem
  | send _ _ | cancelled => cases hmem
  | _ => exact hmem

/-- A handler carries tokens on, takes up registered ones or recalls them. -/
lemma carried_next (hmem : vtoken ∈ (task.next config data env).carried) :
    vtoken ∈ task.carried ∨ (task.dataAfter config data env).registry.Registered vtoken ∨
      task.recalls.isSome = true := by
  cases task with
  | dispatch dispatch phase =>
    rcases source_next (tokens_of_carried hmem) with
      hheld | hregistered | ⟨place, hrecalls, -⟩
    · exact .inl hheld
    · exact .inr (.inl hregistered)
    · exact .inr (.inr (Option.isSome_of_mem hrecalls))
  | getUpdates updates phase =>
    rcases source_next (tokens_of_carried hmem) with
      hheld | hregistered | ⟨place, hrecalls, -⟩
    · exact .inl hheld
    · exact .inr (.inl hregistered)
    · cases hrecalls
  | call call phase => exact (CallAgent.carried_next hmem).imp_right .inl
  | admin admin phase => exact (AdminOp.carried_step hmem).imp_right .inl
  | _ => cases hmem

lemma at_of_dataAfter (hplace : place ∈ Place.refers)
    (hat : (task.dataAfter config data env).At place vtoken) :
    data.At place vtoken ∨ vtoken ∈ task.carried := by
  cases task with
  | call call phase => exact CallAgent.at_of_step hplace hat
  | admin admin phase => exact AdminOp.at_of_step hplace hat
  | send send phase =>
    left
    refine (SameRefers.at_iff ?_ hplace).mp hat
    cases phase with
    | send phase => exact ⟨rfl, rfl, rfl⟩
    | tail phase => cases phase <;> exact ⟨rfl, rfl, rfl⟩
  | _ => exact writes_dataAfter place vtoken hat

end Running

namespace HubState

variable {τ : Type u} (config : HubConfig)

/-- A token leaves the registry when no handler carries it, a deletion removes
the client that it has read, a dispatch recalls registered tokens only, and no
operation is given up while it owes something. -/
def OrderlyStep (state : HubState τ) : HubEvent τ → Prop
  | .run t env =>
    let task := state.tasks t
    (∀ vtoken ∈ state.data.registry.lost (task.dataAfter config state.data env).registry,
      ∀ s, vtoken ∉ (state.tasks s).carried) ∧
    task.Current state.data.registry ∧
    (task.recalls.isSome = true → ∀ vtoken ∈ (task.next config state.data env).carried,
        vtoken ∈ task.carried ∨ state.data.registry.Registered vtoken)
  | .cancel t => (state.tasks t).pending = []
  | .save _ _ _ | .markOffline _ | .sweep _ _ => True

instance [Fintype τ] (state : HubState τ) :
    ∀ event, Decidable (OrderlyStep config state event)
  | .run _ _ => inferInstanceAs (Decidable (_ ∧ _ ∧ _))
  | .cancel _ => inferInstanceAs (Decidable (_ = _))
  | .save _ _ _ | .markOffline _ | .sweep _ _ =>
    inferInstanceAs (Decidable True)

/-- Handlers carry registered tokens, and a token that stands somewhere is
registered or on its way out. -/
structure Integral (state : HubState τ) : Prop where
  carried : ∀ t, ∀ vtoken ∈ (state.tasks t).carried, state.data.registry.Registered vtoken
  placed : ∀ place ∈ Place.refers, ∀ vtoken, state.data.At place vtoken →
    state.data.registry.Registered vtoken ∨ ∃ t, (place, vtoken) ∈ (state.tasks t).pending

variable {config} {state : HubState τ} {vtoken : String}

lemma integral_start {tasks : τ → Task} {data : HubData} {removed : List String}
    (hdata : ∀ place ∈ Place.refers, ∀ vtoken, data.At place vtoken →
      data.registry.Registered vtoken) : Integral (start tasks data removed) where
  carried := by
    intro t vtoken hmem
    have htokens := tokens_of_carried hmem
    rw [start, tokens_start] at htokens
    cases htokens
  placed := fun place hplace vtoken hat =>
    Or.inl (hdata place hplace vtoken hat)

variable [DecidableEq τ]

variable {event : HubEvent τ}

/-- A token that leaves the registry in a step leaves it through a handler. -/
lemma lost_of_step (hbefore : state.data.registry.Registered vtoken)
    (hafter : ¬ (state.step config event).data.registry.Registered vtoken) :
    ∃ t env, event = .run t env ∧ vtoken ∈ state.data.registry.lost
        ((state.tasks t).dataAfter config state.data env).registry := by
  cases event with
  | run t env =>
    exact ⟨t, env, rfl, mem_lost_iff.mpr ⟨hbefore, hafter⟩⟩
  | cancel t => exact absurd hbefore hafter
  | save index ok now =>
    rw [step, registry_saveMessage] at hafter
    exact absurd hbefore hafter
  | markOffline own =>
    simp only [step] at hafter
    rw [markOffline, registered_adjust] at hafter
    exact absurd hbefore hafter
  | sweep oldMessage oldGrant => exact absurd hbefore hafter

/-- A token that a handler carries stays registered. -/
lemma registered_step_of_carried {s : τ} (hinv : Integral state)
    (horderly : OrderlyStep config state event) (hcarried : vtoken ∈ (state.tasks s).carried) :
    (state.step config event).data.registry.Registered vtoken := by
  by_contra hafter
  obtain ⟨t, env, rfl, hlost⟩ :=
    lost_of_step (hinv.carried s vtoken hcarried) hafter
  exact horderly.1 vtoken hlost s hcarried

lemma carried_step (hinv : Integral state) (horderly : OrderlyStep config state event) (s : τ)
    (hmem : vtoken ∈ ((state.step config event).tasks s).carried) :
    (state.step config event).data.registry.Registered vtoken := by
  rcases state.task_step event s with ⟨env, rfl⟩ | hcancelled | ⟨hsame, -⟩
  · rw [tasks_step_run] at hmem
    rcases carried_next hmem with hold | hregistered | hrecalls
    · exact registered_step_of_carried hinv horderly hold
    · exact hregistered
    · rcases horderly.2.2 hrecalls vtoken hmem with hold | hregistered
      · exact registered_step_of_carried hinv horderly hold
      · rw [step, registry_of_recalls hrecalls]
        exact hregistered
  · rw [hcancelled] at hmem
    cases hmem
  · rw [hsame] at hmem
    exact registered_step_of_carried hinv horderly hmem

/-- What a handler owes, some handler owes after the step, or the token has left
the place. -/
lemma pending_step {place : Place} {s : τ} (horderly : OrderlyStep config state event)
    (hpending : (place, vtoken) ∈ (state.tasks s).pending) :
    (∃ t, (place, vtoken) ∈ ((state.step config event).tasks t).pending) ∨ vtoken ∈
      (state.tasks s).carried ∨ ¬ (state.step config event).data.At place vtoken := by
  have hkept : (state.step config event).tasks s = state.tasks s → ∃ t, (place, vtoken) ∈
        ((state.step config event).tasks t).pending := by
    intro hsame
    refine ⟨s, ?_⟩
    rw [hsame]
    exact hpending
  cases event with
  | run t env =>
    by_cases hst : s = t
    · subst hst
      rcases pending_next hpending with hnext | hcarried | hclean
      · refine .inl ⟨s, ?_⟩
        rw [tasks_step_run]
        exact hnext
      · exact .inr (.inl hcarried)
      · exact .inr (.inr hclean)
    · exact .inl (hkept (Function.update_of_ne hst ..))
  | cancel t =>
    by_cases hst : s = t
    · subst hst
      rw [horderly] at hpending
      cases hpending
    · exact .inl (hkept (Function.update_of_ne hst ..))
  | _ => exact .inl (hkept rfl)

/-- A token gets to one of the places through a handler that carries it. -/
lemma at_refers_of_step {place : Place} (hplace : place ∈ Place.refers)
    (hat : (state.step config event).data.At place vtoken) :
    state.data.At place vtoken ∨ ∃ t, vtoken ∈ (state.tasks t).carried := by
  cases event with
  | run t env =>
    exact (at_of_dataAfter hplace hat).imp_right fun h => ⟨t, h⟩
  | _ =>
    rcases at_of_step hat with hold | ⟨t, env, heq, -⟩ | ⟨rfl, -⟩
    · exact .inl hold
    · cases heq
    · simp [Place.refers] at hplace

lemma placed_step {place : Place}
    (hinv : Integral state) (horderly : OrderlyStep config state event)
    (hplace : place ∈ Place.refers) (hat : (state.step config event).data.At place vtoken) :
    (state.step config event).data.registry.Registered vtoken ∨
      ∃ t, (place, vtoken) ∈ ((state.step config event).tasks t).pending := by
  rcases at_refers_of_step hplace hat with hold | ⟨t, hcarried⟩
  · rcases hinv.placed place hplace vtoken hold with hbefore | ⟨s, hpending⟩
    · by_cases hafter : (state.step config event).data.registry.Registered vtoken
      · exact .inl hafter
      · obtain ⟨t, env, rfl, -⟩ := lost_of_step hbefore hafter
        refine .inr ⟨t, ?_⟩
        rw [tasks_step_run]
        exact pending_of_lost hplace horderly.2.1 hbefore hafter
    · rcases pending_step horderly hpending with hkept | hcarried | hclean
      · exact .inr hkept
      · exact .inl (registered_step_of_carried hinv horderly hcarried)
      · exact absurd hat hclean
  · exact .inl (registered_step_of_carried hinv horderly hcarried)

lemma integral_step (state : HubState τ) (event : HubEvent τ) (hinv : Integral state)
    (horderly : OrderlyStep config state event) : Integral (state.step config event) where
  carried := fun s _ hmem => carried_step hinv horderly s hmem
  placed := fun _ hplace _ hat => placed_step hinv horderly hplace hat

end HubState

namespace Sample

/-- A client is registered, polls and is deleted. -/
def polledTasks : Fin 3 → Task
  | 0 => .admin (.register "bot" none none)
  | 1 => .getUpdates ⟨some "h1", {}⟩
  | 2 => .admin (.unregister "bot" true)

def polledRun (t : Fin 3) (n : Nat) : List (HubEvent (Fin 3)) :=
  List.replicate n (.run t { drawn := "h1" })

def polledThenDeleted : List (HubEvent (Fin 3)) :=
  polledRun 0 4 ++ polledRun 1 5 ++ polledRun 2 7

/-- The poll is authenticated before the deletion and goes on after it. -/
def polledAcrossDeletion : List (HubEvent (Fin 3)) :=
  polledRun 0 4 ++ polledRun 1 1 ++ polledRun 2 7 ++ polledRun 1 4

end Sample

namespace HubState

variable {τ : Type u} {config : HubConfig} [DecidableEq τ]

/-- Once every handler has returned, the tokens in the router, the slots and the
last polls are registered, if every step was orderly. -/
theorem integrity_of_orderly {tasks : τ → Task} {data : HubData}
    {events : List (HubEvent τ)} {state : HubState τ}
    (hdata : ∀ place ∈ Place.refers, ∀ vtoken, data.At place vtoken →
      data.registry.Registered vtoken) (horderly : EveryStep (step config) (OrderlyStep config)
      (start tasks data []) events) (hrun : run (step config) (start tasks data []) events = state)
    (hfinished : ∀ t, (state.tasks t).isFinished = true) :
    ∀ place ∈ [Place.router, .queue, .lastSeen], ∀ vtoken,
      state.data.At place vtoken → state.data.registry.Registered vtoken := by
  have hinv := run_invariant_of_everyStep integral_step (integral_start hdata) horderly
  rw [hrun] at hinv
  intro place hplace vtoken hat
  rcases hinv.placed place hplace vtoken hat with hregistered | ⟨t, hpending⟩
  · exact hregistered
  · simp [pending_of_isFinished (hfinished t)] at hpending

theorem integrity_of_orderly_polled :
    (∀ t, ((run (step noAcl) (start polledTasks freshHub [])
        polledThenDeleted).tasks t).isFinished = true) ∧
      ∀ place ∈ [Place.router, .queue, .lastSeen], ∀ vtoken, (run (step noAcl)
          (start polledTasks freshHub []) polledThenDeleted).data.At place vtoken →
        (run (step noAcl) (start polledTasks freshHub [])
          polledThenDeleted).data.registry.Registered vtoken := by
  have hfinished : ∀ t, ((run (step noAcl) (start polledTasks freshHub [])
      polledThenDeleted).tasks t).isFinished = true := by decide +kernel
  refine ⟨hfinished, integrity_of_orderly ?_ (by decide +kernel) rfl hfinished⟩
  intro place _ vtoken hat
  exact absurd hat (not_at_freshHub place vtoken)

/-- The last poll and the slot of the deleted client stay. -/
theorem poll_across_deletion :
    (∀ t, ((run (step noAcl) (start polledTasks freshHub [])
        polledAcrossDeletion).tasks t).isFinished = true) ∧
      (run (step noAcl) (start polledTasks freshHub [])
        polledAcrossDeletion).data.At .lastSeen "h1" ∧
      (run (step noAcl) (start polledTasks freshHub []) polledAcrossDeletion).data.At .queue "h1" ∧
      ¬ (run (step noAcl) (start polledTasks freshHub [])
        polledAcrossDeletion).data.registry.Registered "h1" := by
  refine ⟨by decide +kernel, ?_, ?_, ?_⟩
  · show (AList.lookup "h1" _).isSome = true
    decide +kernel
  · show (AList.lookup "h1" _).isSome = true
    decide +kernel
  · decide +kernel

end HubState

end IlinkHub
