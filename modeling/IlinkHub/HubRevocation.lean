/-
What a revocation leaves of the old token.  Its steps clean one place after the
other, and nothing stops the handlers that hold the token already, or that take
it from the history later, from writing it again.
-/
import IlinkHub.HubRuns

namespace IlinkHub

open Sample Transition KeyedRegistry HubData

universe u

/-- The places that the revocation has cleaned when it gets to the stage. -/
def RevokeStage.cleaned : RevokeStage → List Place
  | .unseen => []
  | .removeSlot => [.lastSeen]
  | .removeRoutes => [.lastSeen, .queue]
  | .revokeRows => [.lastSeen, .queue, .router]
  | .upsert | .done => [.lastSeen, .queue, .router, .routingState,
      .activeSessions, .backendSessions]

lemma RevokeStage.ne_messages_of_mem_cleaned {stage : RevokeStage}
    {place : Place} (hplace : place ∈ stage.cleaned) : place ≠ .messages := by
  rintro rfl
  cases stage <;> simp [cleaned] at hplace

namespace AdminOp

variable {admin : AdminOp} {data : HubData} {env : HubEnv}

variable {rotation : Rotation} {stage : RevokeStage}

/-- Each step of the revocation cleans the places by which the stages differ. -/
lemma cleaned_revokeNext {after : RevokeStage}
    (hdefault : rotation.newDefault ≠ some rotation.oldHash)
    (hnext : (admin.revokeNext data env rotation stage).2 =
      .revoke rotation after) {place : Place} (hplace : place ∈ after.cleaned) :
    place ∈ stage.cleaned ∨ ¬ (admin.revokeNext data env rotation stage).1.At place
        rotation.oldHash := by
  cases stage with
  | unseen =>
    cases hnext
    obtain rfl := List.mem_singleton.mp hplace
    exact .inr (not_at_unseen _)
  | removeSlot =>
    cases hnext
    rcases List.mem_cons.mp hplace with rfl | hplace
    · exact .inl List.mem_cons_self
    · obtain rfl := List.mem_singleton.mp hplace
      exact .inr (not_at_removeClient _)
  | removeRoutes =>
    cases hnext
    by_cases hrouter : place = .router
    · subst hrouter
      exact .inr fun hat => hdefault (eq_of_at_removeRoutes hat)
    · simp only [RevokeStage.cleaned, List.mem_cons] at hplace ⊢
      tauto
  | revokeRows =>
    simp only [revokeNext] at hnext ⊢
    split at hnext
    · next hok =>
      cases hnext
      rw [if_pos hok]
      rcases List.mem_append.mp (show place ∈ [.lastSeen, .queue, .router] ++
          [.routingState, .activeSessions, .backendSessions] from hplace)
        with hearlier | hrows
      · exact .inl hearlier
      · exact .inr (not_at_revoke _ hrows)
    · cases hnext
  | upsert =>
    simp only [revokeNext] at hnext
    split at hnext
    · cases hnext
      exact .inl hplace
    · cases hnext
  | done =>
    cases hnext
    exact .inl hplace

/-- The first step of a revocation takes the old token out of the registry. -/
lemma rotated_of_begin (hnext : (admin.begin data env).2 = .revoke rotation stage) :
    stage = .unseen ∧ data.registry.Registered rotation.oldHash ∧
      ¬ (admin.begin data env).1.registry.Registered rotation.oldHash := by
  cases admin with
  | revoke name =>
    simp only [begin] at hnext ⊢
    split at hnext
    · next hdrawn =>
      rw [dif_pos hdrawn]
      split at hnext
      · next oldHash registry hrotate =>
        cases hnext
        have hrotated : _ ∧ (registry.Registered oldHash ↔ _) :=
          registered_rotateVtoken hrotate
        obtain ⟨hold, hiff⟩ := hrotated
        refine ⟨rfl, hold, fun hafter => ?_⟩
        rcases hiff.mp hafter with rfl | ⟨hne, -⟩
        · simp [KeyedRegistry.Registered, hdrawn] at hold
        · exact hne rfl
      · cases hnext
    · cases hnext
  | register name label description =>
    simp only [begin, afterRegistration] at hnext
    repeat' split at hnext
    all_goals cases hnext
  | registerConfirmed name label description =>
    simp only [begin, afterRegistration] at hnext
    repeat' split at hnext
    all_goals cases hnext
  | unregister name force =>
    simp only [begin] at hnext
    repeat' split at hnext
    all_goals cases hnext
  | update oldName newName label personaName personaEmoji =>
    simp only [begin] at hnext
    repeat' split at hnext
    all_goals cases hnext

/-- How an operation gets to a stage of a revocation. -/
lemma revoke_of_step {phase : AdminPhase}
    (hnext : (admin.step data env phase).2 = .revoke rotation stage) :
    phase = .start ∨ ∃ before, phase = .revoke rotation before := by
  cases phase with
  | start => exact .inl rfl
  | revoke own before =>
    refine .inr ⟨before, ?_⟩
    simp only [step] at hnext
    cases before <;> simp only [revokeNext] at hnext <;> repeat' split at hnext
    all_goals cases hnext
    all_goals rfl
  | setDefault hashed persist => cases persist <;> cases hnext
  | remove vtoken =>
    simp only [step] at hnext
    split at hnext <;> cases hnext
  | unregister vtoken newDefault stage =>
    cases stage <;> simp only [step, unregisterNext] at hnext <;>
      repeat' split at hnext
    all_goals cases hnext
  | _ => cases hnext

end AdminOp

/-- What a revocation has returned with. -/
def Running.revoked : Running → Option Rotation
  | .admin _ (.revoke rotation .done) => some rotation
  | _ => none

lemma Running.revoked_eq_some_iff {task : Running} {rotation : Rotation} :
    task.revoked = some rotation ↔ ∃ admin, task = .admin admin (.revoke rotation .done) := by
  constructor
  · intro hrevoked
    unfold revoked at hrevoked
    split at hrevoked
    · next admin own =>
      cases hrevoked
      exact ⟨admin, rfl⟩
    · cases hrevoked
  · rintro ⟨admin, rfl⟩
    rfl

/-- A step that recalls a token leaves the registry alone. -/
lemma Running.registry_of_recalls {config : HubConfig} {data : HubData}
    {env : HubEnv} {task : Running} (hrecalls : task.recalls.isSome = true) :
    (task.dataAfter config data env).registry = data.registry := by
  cases task with
  | dispatch dispatch phase => exact registry_dispatch dispatch phase
  | _ => cases hrecalls

namespace HubState

variable {τ : Type u} (config : HubConfig) (vtoken : String)

/-- Nothing brings the token back: no handler holds it when it leaves the
registry, and afterwards none draws it again or takes it from the router, the
history or the named sessions. -/
def QuietStep (state : HubState τ) : HubEvent τ → Prop
  | .run t env =>
    let task := state.tasks t
    (state.data.registry.Registered vtoken →
      ¬ (task.dataAfter config state.data env).registry.Registered vtoken →
      ∀ s, vtoken ∉ (state.tasks s).tokens) ∧
    (vtoken ∈ state.removed → vtoken ∉ task.drawn env ∧ (task.recalls.isSome = true →
        vtoken ∉ (task.next config state.data env).tokens))
  | .cancel _ | .save _ _ _ | .markOffline _ | .sweep _ _ => True

instance [Fintype τ] (state : HubState τ) :
    ∀ event, Decidable (QuietStep config vtoken state event)
  | .run _ _ => inferInstanceAs (Decidable (_ ∧ _))
  | .cancel _ | .save _ _ _ | .markOffline _ | .sweep _ _ =>
    inferInstanceAs (Decidable True)

variable {config vtoken} {state : HubState τ}

/-- The token has left the registry and the places of the stage. -/
structure Cleaned (vtoken : String) (stage : RevokeStage)
    (state : HubState τ) : Prop where
  removed : vtoken ∈ state.removed
  clean : ∀ place ∈ stage.cleaned, ¬ state.data.At place vtoken

/-- Once the token has left the registry nobody has it, and a revocation has
cleaned the places of the stages behind it. -/
structure Revoking (vtoken : String) (state : HubState τ) : Prop where
  gone : vtoken ∈ state.removed → ¬ state.data.registry.Registered vtoken ∧
      ∀ t, vtoken ∉ (state.tasks t).tokens
  cleaned : ∀ t admin rotation stage, state.tasks t = .admin admin (.revoke rotation stage) →
    rotation.oldHash = vtoken → Cleaned vtoken stage state

lemma revoking_start (tasks : τ → Task) (data : HubData) :
    Revoking vtoken (start tasks data []) where
  gone := fun hremoved => absurd hremoved List.not_mem_nil
  cleaned := by
    intro t admin rotation stage htask
    simp only [start] at htask
    cases hstart : tasks t <;> rw [hstart] at htask <;> cases htask

variable [DecidableEq τ]

lemma removed_step (event : HubEvent τ) (hremoved : vtoken ∈ state.removed) :
    vtoken ∈ (state.step config event).removed := by
  cases event with
  | run t env => exact List.mem_append_left _ hremoved
  | _ => exact hremoved

variable {stage : RevokeStage}

/-- A token that nobody holds gets to no place but the history. -/
lemma cleaned_step (event : HubEvent τ) (hinv : Revoking vtoken state)
    (hcleaned : Cleaned vtoken stage state) : Cleaned vtoken stage (state.step config event) where
  removed := removed_step event hcleaned.removed
  clean := by
    intro place hplace hat
    rcases at_of_step hat with hold | ⟨t, _, _, hmem⟩ | ⟨hmessages, _⟩
    · exact hcleaned.clean place hplace hold
    · exact (hinv.gone hcleaned.removed).2 t hmem
    · exact RevokeStage.ne_messages_of_mem_cleaned hplace hmessages

lemma not_registered_step {event : HubEvent τ} (hquiet : QuietStep config vtoken state event)
    (hinv : Revoking vtoken state) (hremoved : vtoken ∈ state.removed) :
    ¬ (state.step config event).data.registry.Registered vtoken := by
  intro hregistered
  rcases registered_of_step hregistered with hold | ⟨t, env, rfl, hdrawn⟩
  · exact (hinv.gone hremoved).1 hold
  · exact (hquiet.2 hremoved).1 hdrawn

lemma gone_step {event : HubEvent τ}
    (hquiet : QuietStep config vtoken state event) (hinv : Revoking vtoken state)
    (hremoved : vtoken ∈ (state.step config event).removed) :
    ¬ (state.step config event).data.registry.Registered vtoken ∧
      ∀ t, vtoken ∉ ((state.step config event).tasks t).tokens := by
  by_cases hearlier : vtoken ∈ state.removed
  · have hout := not_registered_step hquiet hinv hearlier
    refine ⟨hout, fun t hmem => ?_⟩
    rcases tokens_of_step hmem with
      hheld | hregistered | ⟨env, place, rfl, hrecalls, _⟩
    · exact (hinv.gone hearlier).2 t hheld
    · exact hout hregistered
    · rw [tasks_step_run] at hmem
      exact (hquiet.2 hearlier).2 (Option.isSome_of_mem hrecalls) hmem
  · cases event with
    | run t env =>
      -- This step takes the token out of the registry.
      have hlost := (List.mem_append.mp hremoved).resolve_left hearlier
      obtain ⟨hbefore, hout⟩ := mem_lost_iff.mp hlost
      refine ⟨hout, fun s hmem => ?_⟩
      rcases tokens_of_step hmem with
        hheld | hregistered | ⟨_, place, heq, hrecalls, _⟩
      · exact hquiet.1 hbefore hout s hheld
      · exact hout hregistered
      · cases heq
        rw [Running.registry_of_recalls (Option.isSome_of_mem hrecalls)] at hout
        exact hout hbefore
    | _ => exact absurd hremoved hearlier

lemma cleaned_step_run {t : τ} {env : HubEnv} (hinv : Revoking vtoken state) {admin : AdminOp}
    {rotation : Rotation}
    (hnext : (state.tasks t).next config state.data env = .admin admin (.revoke rotation stage))
    (hold : rotation.oldHash = vtoken) : Cleaned vtoken stage (state.step config (.run t env)) := by
  subst hold
  cases htask : state.tasks t with
  | admin own phase =>
    rw [htask] at hnext
    obtain ⟨rfl, hphase⟩ := Running.admin.inj hnext
    rcases AdminOp.revoke_of_step hphase with rfl | ⟨before, rfl⟩
    · obtain ⟨rfl, hbefore, hafter⟩ := AdminOp.rotated_of_begin hphase
      refine ⟨List.mem_append_right _ (mem_lost_iff.mpr ?_),
        fun place hplace => absurd hplace List.not_mem_nil⟩
      rw [htask]
      exact ⟨hbefore, hafter⟩
    · have hcleaned := hinv.cleaned t own rotation before htask rfl
      have hkept : Cleaned _ before (state.step config (.run t env)) :=
        cleaned_step _ hinv hcleaned
      have hdefault : rotation.newDefault ≠ some rotation.oldHash := by
        intro hsame
        apply (hinv.gone hcleaned.removed).2 t
        rw [htask]
        exact List.mem_cons_of_mem _ (Option.mem_toList.mpr hsame)
      refine ⟨hkept.removed, fun place hplace => ?_⟩
      rcases AdminOp.cleaned_revokeNext hdefault hphase hplace with
        hearlier | hnow
      · exact hkept.clean place hearlier
      · rw [step, htask]
        exact hnow
  | _ =>
    rw [htask] at hnext
    cases hnext

lemma revoking_step (state : HubState τ) (event : HubEvent τ) (hinv : Revoking vtoken state)
    (hquiet : QuietStep config vtoken state event) : Revoking vtoken (state.step config event) where
  gone := gone_step hquiet hinv
  cleaned := by
    intro t admin rotation stage htask hold
    rcases state.task_step event t with ⟨env, rfl⟩ | hcancelled | ⟨hsame, -⟩
    · rw [tasks_step_run] at htask
      exact cleaned_step_run hinv htask hold
    · rw [hcancelled] at htask
      cases htask
    · rw [hsame] at htask
      exact cleaned_step event hinv (hinv.cleaned t admin rotation stage htask hold)

lemma cleaned_run {events : List (HubEvent τ)}
    (hinv : Revoking vtoken state) (hcleaned : Cleaned vtoken stage state)
    (hquiet : EveryStep (step config) (QuietStep config vtoken) state events) :
    Cleaned vtoken stage (run (step config) state events) := by
  induction events generalizing state with
  | nil => exact hcleaned
  | cons event events ih =>
    exact ih (revoking_step state event hinv hquiet.1) (cleaned_step event hinv hcleaned) hquiet.2

/-- A revocation that has returned is permanent if nothing brings the old token
back. -/
theorem revoked_of_quiet {tasks : τ → Task} {data : HubData}
    {events later : List (HubEvent τ)} {t : τ} {rotation : Rotation}
    (hrevoked : ((run (step config) (start tasks data []) events).tasks t).revoked = some rotation)
    (hquiet : EveryStep (step config) (QuietStep config rotation.oldHash) (start tasks data [])
      (events ++ later)) :
    ∀ place ∈ [Place.lastSeen, .queue, .router, .routingState, .activeSessions, .backendSessions],
      ¬ (run (step config) (start tasks data [])
        (events ++ later)).data.At place rotation.oldHash := by
  obtain ⟨hbefore, hafter⟩ := everyStep_append.mp hquiet
  obtain ⟨admin, hdone⟩ := Running.revoked_eq_some_iff.mp hrevoked
  have hinv :=
    run_invariant_of_everyStep revoking_step (revoking_start tasks data) hbefore
  rw [run_append]
  exact (cleaned_run hinv (hinv.cleaned t admin rotation .done hdone rfl) hafter).clean

/-- The client that has answered its user is revoked, and the sweep comes
later. -/
theorem revoked_of_quiet_bot : ((run (step noAcl) (start botTasks freshHub [])
        botRevoked).tasks 3).revoked = some ⟨"h1", "h2", some "h2"⟩ ∧
      ∀ place ∈ [Place.lastSeen, .queue, .router, .routingState, .activeSessions, .backendSessions],
        ¬ (run (step noAcl) (start botTasks freshHub [])
          (botRevoked ++ [.sweep (fun _ => true) fun _ => true])).data.At place "h1" := by
  have hrevoked : ((run (step noAcl) (start botTasks freshHub [])
      botRevoked).tasks 3).revoked = some ⟨"h1", "h2", some "h2"⟩ := by decide +kernel
  exact ⟨hrevoked, revoked_of_quiet hrevoked (by decide +kernel)⟩

/-- The user quotes an answer of the revoked client, and the message gets a slot
and a grant for the old token. -/
theorem revoked_token_returns : ((run (step noAcl) (start botTasks freshHub [])
        botRevoked).tasks 3).revoked = some ⟨"h1", "h2", some "h2"⟩ ∧
      (run (step noAcl) (start botTasks freshHub [])
        (botRevoked ++ botQuotes)).data.At .queue "h1" ∧
      (run (step noAcl) (start botTasks freshHub [])
        (botRevoked ++ botQuotes)).data.At .activeSessions "h1" := by
  refine ⟨by decide +kernel, ?_, "vctx_1", ?_⟩
  · show (AList.lookup "h1" _).isSome = true
    decide +kernel
  · decide +kernel

end HubState

end IlinkHub
