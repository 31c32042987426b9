/-
A deletion without force beside the other handlers (`unregister_client_in_hub`
in `server/pairing.rs`): it inspects the client of a name under one lock and
removes the client of that name under another.  Which steps in between keep the
removal to the client that was inspected, while it is offline.
-/
import IlinkHub.ClientNames
import IlinkHub.HubRuns

namespace IlinkHub

open Function KeyedRegistry Transition

namespace KeyedRegistry

variable {registry next : KeyedRegistry} {name vtoken own drawn : String}
  {label description : Option String} {hdrawn : registry.byVtoken.lookup drawn = none}

/-- The name has no client, or the client of the token, which is offline. -/
def Guards (registry : KeyedRegistry) (name vtoken : String) : Prop :=
  ∀ client, registry.getByName name = some client → client.vtoken = vtoken ∧ client.online = false

lemma Guards.of_getByName (hguards : registry.Guards name vtoken)
    (hsame : next.getByName name = registry.getByName name) : next.Guards name vtoken := by
  intro client hclient
  rw [hsame] at hclient
  exact hguards client hclient

lemma Guards.of_none (hnone : registry.getByName name = none) : registry.Guards name vtoken := by
  intro client hclient
  simp [hnone] at hclient

section Guarded

variable (hguards : registry.Guards name vtoken)

include hguards

/-- A change of one client in place, which keeps the mark of the guarded one. -/
lemma Guards.adjust {f : ClientInfo → ClientInfo}
    {hvtoken : ∀ client, (f client).vtoken = client.vtoken}
    {hname : ∀ client, (f client).name = client.name}
    (hkeeps : own = vtoken → ∀ client, client.online = false → (f client).online = false) :
    (registry.adjust own f hvtoken hname).Guards name vtoken := by
  intro client hclient
  obtain ⟨hmem, hnamed⟩ := getByName_eq_some_iff.mp hclient
  obtain ⟨before, hbefore, rfl⟩ := mem_values_adjust.mp hmem
  split at hnamed
  · next hown =>
    rw [hname] at hnamed
    obtain ⟨htoken, hoffline⟩ := hguards before (getByName_eq_some_iff.mpr ⟨hbefore, hnamed⟩)
    rw [if_pos hown]
    exact ⟨(hvtoken before).trans htoken, hkeeps (hown.symm.trans htoken) before hoffline⟩
  · next hother =>
    rw [if_neg hother]
    exact hguards before (getByName_eq_some_iff.mpr ⟨hbefore, hnamed⟩)

lemma Guards.markOnline (hother : own ≠ vtoken) : (registry.markOnline own).Guards name vtoken :=
  hguards.adjust fun hown => absurd hown hother

lemma Guards.markOffline : (registry.markOffline own).Guards name vtoken :=
  hguards.adjust fun _ _ _ => rfl

lemma Guards.remove : (registry.remove own).2.Guards name vtoken := by
  cases hinfo : registry.getByName own with
  | none =>
    rw [remove_unknown hinfo]
    exact hguards
  | some info =>
    obtain ⟨-, hfind⟩ := remove_known hinfo
    by_cases hown : name = own
    · subst hown
      apply of_none
      rw [hfind, update_self]
    · apply hguards.of_getByName
      rw [hfind, update_of_ne hown]

lemma Guards.register (hother : own ≠ name) (hdrawn : registry.byVtoken.lookup drawn = none) :
    (registry.register own label description drawn hdrawn).2.2.Guards name vtoken := by
  apply hguards.of_getByName
  cases hinfo : registry.getByName own with
  | none =>
    obtain ⟨after, hafter, -, hfind⟩ := register_new hinfo hdrawn
    rw [hafter, hfind, update_of_ne (symm hother)]
  | some info =>
    obtain ⟨after, hafter, hfind⟩ := register_known hinfo hdrawn
    rw [hafter, hfind, update_of_ne (symm hother)]

/-- A confirmed pairing takes no name that is taken. -/
lemma Guards.registerConfirmed (hother : ¬ (own = name ∧ registry.getByName name = none))
    (hnext : registry.registerConfirmed own label description drawn hdrawn =
      some next) : next.Guards name vtoken := by
  cases hinfo : registry.getByName own with
  | some info =>
    simp [registerConfirmed_known label description hinfo hdrawn] at hnext
  | none =>
    obtain ⟨after, hafter, -, hfind⟩ :=
      registerConfirmed_new label description hinfo hdrawn
    rw [hafter] at hnext
    cases hnext
    have hne : name ≠ own := by
      rintro rfl
      exact hother ⟨rfl, hinfo⟩
    apply hguards.of_getByName
    rw [hfind, update_of_ne hne]

lemma Guards.rotateVtoken (hother : own ≠ name)
    {oldHash : String} (hnext : registry.rotateVtoken own drawn hdrawn = some (oldHash, next)) :
    next.Guards name vtoken := by
  cases hinfo : registry.getByName own with
  | none =>
    simp [rotateVtoken_none hinfo hdrawn] at hnext
  | some info =>
    obtain ⟨after, hafter, hfind⟩ := rotateVtoken_known hinfo hdrawn
    rw [hafter] at hnext
    obtain rfl := (Prod.mk.inj (Option.some.inj hnext)).2
    apply hguards.of_getByName
    rw [hfind, update_of_ne (symm hother)]

/-- A rename takes no name that is taken, and a client that keeps its name keeps
its token and its mark. -/
lemma Guards.updateClient {oldName newName : String}
    (hother : ¬ (newName = name ∧ oldName ≠ name ∧ registry.getByName name = none))
    (hnext : registry.updateClient oldName newName label = .ok (own, next)) :
    next.Guards name vtoken := by
  by_cases hno : registry.getByName oldName = none ∨
      newName ≠ oldName ∧ registry.getByName newName ≠ none
  · obtain ⟨error, herror⟩ := updateClient_error label hno
    simp [herror] at hnext
  · obtain ⟨hknown, hfree⟩ := not_or.mp hno
    rw [not_and_not_right, ← or_iff_not_imp_left] at hfree
    obtain ⟨info, hinfo⟩ := Option.ne_none_iff_exists'.mp hknown
    obtain ⟨after, hafter, hfind⟩ := updateClient_known label hinfo hfree
    rw [hafter] at hnext
    obtain rfl := (Prod.mk.inj (Except.ok.inj hnext)).2
    by_cases hnew : name = newName
    · subst hnew
      have hold : oldName = name := by
        by_contra hold
        exact hother ⟨rfl, hold, hfree.resolve_left (Ne.symm hold)⟩
      intro client hclient
      rw [hfind, update_self] at hclient
      cases hclient
      rw [hold] at hinfo
      exact hguards info hinfo
    · by_cases hold : name = oldName
      · apply of_none
        rw [hfind, update_of_ne hnew, hold, update_self]
      · apply hguards.of_getByName
        rw [hfind, update_of_ne hnew, update_of_ne hold]

lemma Guards.setPersona {personaName personaEmoji : Option String} :
    (registry.setPersona own personaName personaEmoji).Guards name vtoken :=
  hguards.adjust fun _ _ hoffline => hoffline

end Guarded

lemma name_of_remove {client : ClientInfo} (hclient : client ∈ registry.values)
    (hgone : ¬ (registry.remove own).2.Registered client.vtoken) : client.name = own := by
  have hnamed : registry.byName.lookup own = some client.vtoken := by
    by_contra hunnamed
    exact hgone (registered_remove.mpr ⟨hunnamed, registered_of_mem_values hclient⟩)
  exact registry.name_of_lookup hnamed (mem_values_iff.mp hclient)

end KeyedRegistry

namespace AdminOp

variable {admin : AdminOp} {data : HubData} {env : HubEnv} {name vtoken : String}

/-- The operation binds the name to a token that it draws, or to a client of
another name. -/
def Binds (registry : KeyedRegistry) (name : String) : AdminOp → Prop
  | .register own _ _ | .revoke own => own = name
  | .registerConfirmed own _ _ =>
    own = name ∧ registry.getByName name = none
  | .update oldName newName _ _ _ =>
    Text.trim newName = name ∧ oldName ≠ name ∧ registry.getByName name = none
  | .unregister _ _ => False

instance (registry : KeyedRegistry) (name : String) (admin : AdminOp) :
    Decidable (admin.Binds registry name) := by
  cases admin <;> dsimp only [Binds] <;> infer_instance

lemma guards_begin (hguards : data.registry.Guards name vtoken)
    (hbinds : ¬ admin.Binds data.registry name) :
    (admin.begin data env).1.registry.Guards name vtoken := by
  cases admin with
  | register own label description =>
    simp only [begin]
    split
    · next hdrawn => exact hguards.register hbinds hdrawn
    · exact hguards
  | registerConfirmed own label description =>
    simp only [begin]
    split
    · split
      · next registry hnext => exact hguards.registerConfirmed hbinds hnext
      · exact hguards
    · exact hguards
  | unregister own force =>
    simp only [begin]
    repeat' split
    all_goals exact hguards
  | revoke own =>
    simp only [begin]
    split
    · split
      · next oldHash registry hnext =>
        exact hguards.rotateVtoken hbinds hnext
      · exact hguards
    · exact hguards
  | update oldName newName label personaName personaEmoji =>
    simp only [begin]
    split
    · exact hguards
    · split
      · next own registry hnext =>
        exact (hguards.updateClient hbinds hnext).setPersona
      · exact hguards

lemma registry_remove :
    (admin.step data env (.remove vtoken)).1.registry = (data.registry.remove admin.name).2 := by
  cases hinfo : data.registry.getByName admin.name with
  | none =>
    simp [step, remove_unknown hinfo]
  | some info =>
    simp [step, (remove_known hinfo).1]

lemma guards_step {phase : AdminPhase} (hguards : data.registry.Guards name vtoken)
    (hbinds : phase = .start → ¬ admin.Binds data.registry name) :
    (admin.step data env phase).1.registry.Guards name vtoken := by
  by_cases hstart : phase = .start
  · subst hstart
    exact guards_begin hguards (hbinds rfl)
  · by_cases hremove : ∃ own, phase = .remove own
    · obtain ⟨own, rfl⟩ := hremove
      rw [registry_remove]
      exact hguards.remove
    · rw [registry_step hstart (not_exists.mp hremove)]
      exact hguards

lemma guards_of_inspected {phase : AdminPhase}
    (hnext : (step (.unregister name false) data env phase).2 = .remove vtoken) :
    (step (.unregister name false) data env phase).1.registry.Guards name vtoken := by
  cases phase with
  | start =>
    simp only [step, begin] at hnext ⊢
    split at hnext
    · next info hinfo =>
      split at hnext
      · cases hnext
      · next hoffline =>
        obtain rfl := AdminPhase.remove.inj hnext
        rw [if_neg hoffline]
        intro client hclient
        obtain rfl := Option.some.inj (hinfo.symm.trans hclient)
        exact ⟨rfl, by simpa using hoffline⟩
    · cases hnext
  | remove own =>
    simp only [step] at hnext
    split at hnext <;> cases hnext
  | unregister own newDefault stage =>
    cases stage with
    | clearRoutes =>
      simp only [step, unregisterNext] at hnext
      split at hnext <;> cases hnext
    | _ => cases hnext
  | revoke rotation stage =>
    cases stage with
    | revokeRows | upsert =>
      simp only [step, revokeNext] at hnext
      split at hnext <;> cases hnext
    | _ => cases hnext
  | setDefault hashed persist =>
    simp only [step] at hnext
    split at hnext <;> cases hnext
  | _ => cases hnext

end AdminOp

namespace Running

variable {config : HubConfig} {data : HubData} {env : HubEnv} {task : Running}
  {name vtoken : String}

/-- The name and the inspected token of a deletion without force that is about
to remove the client of the name. -/
def deletes : Running → Option (String × String)
  | .admin (.unregister name false) (.remove vtoken) => some (name, vtoken)
  | _ => none

/-- A deletion without force, wherever it is. -/
def isUnforced : Running → Bool
  | .admin (.unregister _ false) _ => true
  | _ => false

/-- The next step marks the token online or binds the name. -/
def Disturbs (registry : KeyedRegistry) (name vtoken : String) :
    Running → Prop
  | .getUpdates _ (.markOnline own) => own = vtoken
  | .admin own .start => own.Binds registry name
  | _ => False

instance (registry : KeyedRegistry) (name vtoken : String) (task : Running) :
    Decidable (task.Disturbs registry name vtoken) := by
  unfold Disturbs
  split <;> infer_instance

lemma eq_of_deletes (hdeletes : task.deletes = some (name, vtoken)) :
    task = .admin (.unregister name false) (.remove vtoken) := by
  revert hdeletes
  fun_cases deletes task with
  | case1 own token =>
    intro hdeletes
    cases hdeletes
    rfl
  | case2 =>
    intro hdeletes
    cases hdeletes

lemma guards_dataAfter (hguards : data.registry.Guards name vtoken)
    (hfair : ¬ task.Disturbs data.registry name vtoken) :
    (task.dataAfter config data env).registry.Guards name vtoken := by
  cases task with
  | dispatch dispatch phase =>
    rw [dataAfter, registry_dispatch]
    exact hguards
  | getUpdates updates phase =>
    cases phase with
    | markOnline own => exact hguards.markOnline hfair
    | _ => exact hguards
  | send send phase =>
    rw [dataAfter, registry_reply]
    exact hguards
  | admin admin phase =>
    apply AdminOp.guards_step hguards
    rintro rfl
    exact hfair
  | _ => exact hguards

lemma guards_of_next (hnext : (task.next config data env).deletes = some (name, vtoken)) :
    (task.dataAfter config data env).registry.Guards name vtoken := by
  have hafter := eq_of_deletes hnext
  cases task with
  | admin admin phase =>
    obtain ⟨rfl, hphase⟩ := Running.admin.inj hafter
    exact AdminOp.guards_of_inspected hphase
  | _ => cases hafter

/-- A deletion takes a client out of the registry in one of its steps alone. -/
lemma deletes_of_lost {client : ClientInfo} (hunforced : task.isUnforced = true)
    (hclient : client ∈ data.registry.values)
    (hgone : ¬ (task.dataAfter config data env).registry.Registered client.vtoken) :
    ∃ own, task.deletes = some (client.name, own) := by
  revert hunforced hgone
  fun_cases isUnforced task with
  | case1 name phase =>
    rintro - hgone
    by_cases hstart : phase = .start
    · subst hstart
      exfalso
      apply hgone
      apply registered_of_mem_values
      simp only [dataAfter, AdminOp.step, AdminOp.begin]
      repeat' split
      all_goals exact hclient
    · by_cases hremove : ∃ own, phase = .remove own
      · obtain ⟨own, rfl⟩ := hremove
        refine ⟨own, ?_⟩
        rw [dataAfter, AdminOp.registry_remove] at hgone
        rw [name_of_remove hclient hgone]
        rfl
      · rw [dataAfter, AdminOp.registry_step hstart (not_exists.mp hremove)] at hgone
        exact absurd (registered_of_mem_values hclient) hgone
  | case2 =>
    intro hunforced
    cases hunforced

end Running

namespace HubState

universe u

variable {τ : Type u} (config : HubConfig) (state : HubState τ)

/-- No handler disturbs a deletion between its check and its removal. -/
def Undisturbed : HubEvent τ → Prop
  | .run s _ => ∀ t, ∀ deletion ∈ (state.tasks t).deletes,
      ¬ (state.tasks s).Disturbs state.data.registry deletion.1 deletion.2
  | .cancel _ | .save _ _ _ | .markOffline _ | .sweep _ _ => True

/-- A client that a deletion without force takes out is offline, and it is the
one that the deletion has inspected. -/
def SafeRemoval : HubEvent τ → Prop
  | .run t env => (state.tasks t).isUnforced = true →
      ∀ client ∈ state.data.registry.values,
        ¬ ((state.tasks t).dataAfter config state.data env).registry.Registered client.vtoken →
        client.online = false ∧ (state.tasks t).deletes = some (client.name, client.vtoken)
  | .cancel _ | .save _ _ _ | .markOffline _ | .sweep _ _ => True

instance [Fintype τ] (event : HubEvent τ) :
    Decidable (state.Undisturbed event) := by
  cases event <;> dsimp only [Undisturbed] <;> infer_instance

instance (event : HubEvent τ) : Decidable (state.SafeRemoval config event) := by
  cases event <;> dsimp only [SafeRemoval] <;> infer_instance

/-- Every deletion that is about to remove still finds what it has inspected. -/
def Guarded : Prop :=
  ∀ t name vtoken, (state.tasks t).deletes = some (name, vtoken) →
    state.data.registry.Guards name vtoken

variable {config state}

lemma guarded_start (tasks : τ → Task) (data : HubData)
    (removed : List String) : (start tasks data removed).Guarded := by
  intro t name vtoken hdeletes
  have hstart := Running.eq_of_deletes hdeletes
  simp only [start] at hstart
  cases htask : tasks t <;> rw [htask] at hstart <;> cases hstart

variable {event : HubEvent τ}

lemma safeRemoval_of_guarded (hguarded : state.Guarded) : state.SafeRemoval config event := by
  cases event with
  | run t env =>
    intro hunforced client hclient hgone
    obtain ⟨own, hdeletes⟩ :=
      Running.deletes_of_lost hunforced hclient hgone
    obtain ⟨rfl, hoffline⟩ := hguarded t client.name own hdeletes client
      (getByName_eq_some_iff.mpr ⟨hclient, rfl⟩)
    exact ⟨hoffline, hdeletes⟩
  | _ => trivial

variable [DecidableEq τ]

lemma guards_step_event {name vtoken : String} (hguards : state.data.registry.Guards name vtoken)
    (hfair : ∀ s env, event = .run s env →
      ¬ (state.tasks s).Disturbs state.data.registry name vtoken) :
    (state.step config event).data.registry.Guards name vtoken := by
  cases event with
  | run s env => exact Running.guards_dataAfter hguards (hfair s env rfl)
  | save index ok now =>
    rw [step, HubData.registry_saveMessage]
    exact hguards
  | markOffline own => exact hguards.markOffline
  | _ => exact hguards

lemma guarded_step (hguarded : state.Guarded) (hfair : state.Undisturbed event) :
    (state.step config event).Guarded := by
  intro t name vtoken hdeletes
  rcases state.task_step event t with ⟨env, rfl⟩ | hcancelled | ⟨hsame, -⟩
  · -- The step is the check itself.
    rw [tasks_step_run] at hdeletes
    exact Running.guards_of_next hdeletes
  · rw [hcancelled] at hdeletes
    cases hdeletes
  · rw [hsame] at hdeletes
    apply guards_step_event (hguarded t name vtoken hdeletes)
    rintro s env rfl
    exact hfair t (name, vtoken) hdeletes

/-- Deletions without force remove offline clients alone, and only the ones that
they have inspected, as long as nothing marks the token or binds the name between
a check and its removal. -/
theorem safe_removal_of_undisturbed (tasks : τ → Task) (data : HubData)
    (removed : List String) (events : List (HubEvent τ))
    (hfair : EveryStep (step config) Undisturbed (start tasks data removed) events) :
    EveryStep (step config) (SafeRemoval config) (start tasks data removed) events := by
  have hsafe : ∀ (state : HubState τ) (event : HubEvent τ), state.Guarded →
      state.Undisturbed event → state.SafeRemoval config event :=
    fun _ _ hguarded _ => safeRemoval_of_guarded hguarded
  have hstep : ∀ (state : HubState τ) (event : HubEvent τ), state.Guarded →
      state.Undisturbed event → (state.step config event).Guarded :=
    fun _ _ => guarded_step
  exact .imp_of_invariant hsafe hstep (guarded_start tasks data removed) hfair

end HubState

namespace Sample

inductive DeleteHandler where
  | registration
  | deletion
  | poll
deriving DecidableEq

instance : Fintype DeleteHandler where
  elems := {.registration, .deletion, .poll}
  complete handler := by cases handler <;> decide

/-- A registration, a deletion without force and a poll of the one client. -/
def deleteTasks : DeleteHandler → Task
  | .registration => .admin (.register "bot" none none)
  | .deletion => .admin (.unregister "bot" false)
  | .poll => .getUpdates { vtoken := some "h1", req := {} }

/-- The poll marks the client online after the check of the deletion, which then
removes it. -/
def deletePolled : List (HubEvent DeleteHandler) :=
  List.replicate 4 (.run .registration { drawn := "h1" }) ++
    .run .deletion {} :: List.replicate 3 (.run .poll {}) ++
    [.run .deletion {}]

/-- The poll comes after the removal. -/
def deleteFirst : List (HubEvent DeleteHandler) :=
  List.replicate 4 (.run .registration { drawn := "h1" }) ++
    List.replicate 2 (.run .deletion {}) ++ List.replicate 3 (.run .poll {})

end Sample

open Sample

theorem HubState.online_client_deleted :
    ¬ EveryStep (step noAcl) (SafeRemoval noAcl)
      (start deleteTasks freshHub []) deletePolled := by
  decide +kernel

theorem HubState.safe_removal_deleteFirst :
    EveryStep (step noAcl) (SafeRemoval noAcl)
      (start deleteTasks freshHub []) deleteFirst :=
  safe_removal_of_undisturbed deleteTasks freshHub [] deleteFirst (by decide +kernel)

end IlinkHub
