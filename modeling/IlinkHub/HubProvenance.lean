/-
Where the backends of enqueued messages come from.  Along every run, each token
in the data, in a handler and in a routing decision is registered or was
registered before; nothing asks which of the two it is when a quote, a stored
route or a named session brings it back.
-/
import IlinkHub.HubRuns

namespace IlinkHub

open Sample Transition Running

universe u

namespace Dispatch

variable {config : HubConfig} {dispatch : Dispatch} {data : HubData} {env : HubEnv}

/-- Once the routing is decided, no further backend comes in. -/
lemma tokens_next_of_isDecided {phase : DispatchPhase} (hdecided : phase.isDecided = true) :
    (dispatch.next config data env phase).tokens ⊆ phase.tokens := by
  cases phase with
  | mention vtoken payload stage =>
    cases stage with
    | resolve =>
      simp only [next, mentionNext]
      split
      · exact List.Subset.refl _
      · exact List.nil_subset _
    | create vctx => exact List.Subset.refl _
    | readExt vctx => exact List.Subset.refl _
    | push vctx hubExt => exact List.nil_subset _
  | forward vtoken sessionOverride phase =>
    simp only [next]
    split
    · exact List.nil_subset _
    · exact List.Subset.refl _
  | command stage =>
    cases stage with
    | cast text recipients =>
      cases recipients with
      | nil => exact List.nil_subset _
      | cons vtoken rest =>
        simp only [next, commandNext]
        split
        · exact List.Subset.refl _
        · exact List.nil_subset _
    | castExt text vtoken vctx rest => exact List.Subset.refl _
    | castPush text vtoken vctx hubExt rest =>
      exact List.subset_cons_self _ _
    | _ => cases hdecided
  | _ => cases hdecided

end Dispatch

/-- Only a decided dispatch enqueues, and for a backend that it holds. -/
lemma DispatchPhase.mem_tokens_of_pushes {phase : DispatchPhase} {vtoken : String}
    {forwarded : Bool} (hpushes : phase.pushes = some (vtoken, forwarded)) :
    phase.isDecided = true ∧ vtoken ∈ phase.tokens := by
  unfold pushes at hpushes
  split at hpushes
  all_goals cases hpushes
  all_goals exact ⟨rfl, List.mem_cons_self⟩

namespace Running

variable {config : HubConfig} {data : HubData} {env : HubEnv} {task : Running} {vtoken : String}

lemma tokens_next_of_isDecided (hdecided : task.isDecided = true) :
    (task.next config data env).tokens ⊆ task.tokens := by
  cases task with
  | dispatch dispatch phase =>
    exact Dispatch.tokens_next_of_isDecided hdecided
  | _ => cases hdecided

lemma mem_tokens_of_pushes {sender : String} {forwarded : Bool}
    (hpushes : task.pushes = some (sender, vtoken, forwarded)) :
    task.isDecided = true ∧ vtoken ∈ task.tokens := by
  cases task with
  | dispatch dispatch phase =>
    obtain ⟨push, hphase, heq⟩ := Option.map_eq_some_iff.mp hpushes
    obtain ⟨_, rfl⟩ := Prod.mk.inj heq
    exact DispatchPhase.mem_tokens_of_pushes hphase
  | _ => cases hpushes

/-- The step that decides leaves the registry alone. -/
lemma source_of_decides (hdecided : (task.next config data env).isDecided = true)
    (hmem : vtoken ∈ (task.next config data env).tokens) :
    vtoken ∈ task.tokens ∨ data.registry.Registered vtoken ∨ ∃ place, data.At place vtoken := by
  cases task with
  | dispatch dispatch phase =>
    rcases Dispatch.source_next hmem with hheld | hregistered | hrecalled
    · exact .inl hheld
    · exact .inr (.inl hregistered)
    · obtain ⟨place, _, hat⟩ := hrecalled
      exact .inr (.inr ⟨place, hat⟩)
  | _ => cases hdecided

end Running

namespace HubState

variable {τ : Type u} {config : HubConfig}

/-- Every token in the data, in a handler and in a routing decision was once
registered. -/
structure Traced (state : HubState τ) : Prop where
  places : ∀ place vtoken, state.data.At place vtoken → state.moment.Known vtoken
  tasks : ∀ t vtoken, vtoken ∈ (state.tasks t).tokens → state.moment.Known vtoken
  decided : ∀ t, (state.tasks t).isDecided = true → ∃ decision, state.decisions t = some decision ∧
      ∀ vtoken ∈ (state.tasks t).tokens, decision.Known vtoken
  enqueued : ∀ entry ∈ state.enqueued, entry.decision.Known entry.vtoken

lemma isDecided_start (task : Task) : task.start.isDecided = false := by
  cases task <;> rfl

lemma traced_start {tasks : τ → Task} {data : HubData} {removed : List String}
    (hdata : ∀ place vtoken, data.At place vtoken →
      (Moment.mk data.registry removed).Known vtoken) : Traced (start tasks data removed) where
  places := hdata
  tasks := by
    intro t vtoken hmem
    rw [start, tokens_start] at hmem
    cases hmem
  decided := by
    intro t hdecided
    rw [start, isDecided_start] at hdecided
    cases hdecided
  enqueued := by
    intro entry hmem
    cases hmem

variable {state : HubState τ}

/-- What is decided by a step is known at the moment of the decision. -/
lemma decided_step_run (hinv : state.Traced) (t : τ) (env : HubEnv)
    (hdecided : ((state.tasks t).next config state.data env).isDecided = true) :
    ∃ decision, state.moment.decision (state.decisions t) (state.tasks t).isDecided
        ((state.tasks t).next config state.data env).isDecided = some decision ∧
      ∀ vtoken ∈ ((state.tasks t).next config state.data env).tokens,
        decision.Known vtoken := by
  cases hbefore : (state.tasks t).isDecided with
  | true =>
    -- The decision stands, and the step brings no new backend.
    obtain ⟨decision, hsome, hknown⟩ := hinv.decided t hbefore
    refine ⟨decision, ?_, ?_⟩
    · rw [Moment.decision, if_neg (by simp), hsome]
    · intro vtoken hmem
      exact hknown vtoken (tokens_next_of_isDecided hbefore hmem)
  | false =>
    refine ⟨state.moment, ?_, ?_⟩
    · rw [Moment.decision, if_pos ⟨rfl, hdecided⟩]
    · intro vtoken hmem
      rcases source_of_decides hdecided hmem with
        hheld | hregistered | ⟨place, hat⟩
      · exact hinv.tasks t vtoken hheld
      · exact .inl hregistered
      · exact hinv.places place vtoken hat

lemma known_of_enqueues (hinv : state.Traced) {t : τ} {entry : Enqueued}
    (henqueues : state.enqueues t = some entry) : entry.decision.Known entry.vtoken := by
  unfold enqueues at henqueues
  split at henqueues
  · next sender vtoken forwarded decision hpushes hdecision =>
    obtain ⟨hdecided, hmem⟩ := mem_tokens_of_pushes hpushes
    obtain ⟨own, hsome, hknown⟩ := hinv.decided t hdecided
    rw [hdecision] at hsome
    cases hsome
    cases henqueues
    exact hknown vtoken hmem
  · cases henqueues

variable [DecidableEq τ]

lemma decided_step (hinv : state.Traced) (event : HubEvent τ) (s : τ)
    (hdecided : ((state.step config event).tasks s).isDecided = true) :
    ∃ decision, (state.step config event).decisions s = some decision ∧
      ∀ vtoken ∈ ((state.step config event).tasks s).tokens,
        decision.Known vtoken := by
  rcases state.task_step event s with
    ⟨env, rfl⟩ | hcancelled | ⟨htask, hdecision⟩
  · rw [tasks_step_run] at hdecided ⊢
    obtain ⟨decision, hsome, hknown⟩ := decided_step_run hinv s env hdecided
    exact ⟨decision, (Function.update_self ..).trans hsome, hknown⟩
  · rw [hcancelled] at hdecided
    cases hdecided
  · rw [htask] at hdecided ⊢
    rw [hdecision]
    exact hinv.decided s hdecided

lemma traced_step (event : HubEvent τ) (hinv : state.Traced) :
    (state.step config event).Traced where
  places := by
    intro place vtoken hat
    apply known_step
    rcases at_of_step hat with hold | ⟨t, _, _, hheld⟩ | ⟨_, hsaved⟩
    · exact hinv.places place vtoken hold
    · exact hinv.tasks t vtoken hheld
    · exact hinv.places .saves vtoken hsaved
  tasks := by
    intro t vtoken hmem
    rcases tokens_of_step hmem with
      hheld | hregistered | ⟨_, place, _, _, hat⟩
    · exact known_step event (hinv.tasks t vtoken hheld)
    · exact Or.inl hregistered
    · exact known_step event (hinv.places place vtoken hat)
  decided := decided_step hinv event
  enqueued := by
    intro entry hmem
    rcases mem_enqueued_of_step hmem with hold | ⟨t, hnew⟩
    · exact hinv.enqueued entry hold
    · exact known_of_enqueues hinv hnew

lemma traced_run (events : List (HubEvent τ)) (hinv : state.Traced) :
    (run (step config) state events).Traced :=
  run_invariant (fun _ event h => traced_step event h) hinv events

/-- Whatever chose the backend of a message, it is registered when the routing
is decided, unless it was revoked or deleted before.  The start may be any data
whose tokens are registered or listed as removed. -/
theorem registered_of_enqueued {tasks : τ → Task} {data : HubData} {removed : List String}
    (hdata : ∀ place vtoken, data.At place vtoken → (Moment.mk data.registry removed).Known vtoken)
    {events : List (HubEvent τ)} {entry : Enqueued}
    (hentry : entry ∈ (run (step config) (start tasks data removed) events).enqueued)
    (hkept : entry.vtoken ∉ entry.decision.removed) :
    entry.decision.registry.Registered entry.vtoken := by
  have hstart : Traced (start tasks data removed) := traced_start hdata
  have htraced : Traced (run (step config) _ events) :=
    traced_run events hstart
  rcases htraced.enqueued entry hentry with hregistered | hremoved
  · exact hregistered
  · exact absurd hremoved hkept

theorem registered_of_enqueued_default :
    ∃ entry ∈ (run (step noAcl) (start botTasks freshHub []) botMessaged).enqueued,
      entry.vtoken = "h1" ∧ entry.decision.registry.Registered "h1" := by
  have hone : ∃ entry ∈ (run (step noAcl) (start botTasks freshHub []) botMessaged).enqueued,
      entry.vtoken = "h1" ∧ entry.decision.removed = [] := by decide +kernel
  obtain ⟨entry, hentry, hvtoken, hremoved⟩ := hone
  refine ⟨entry, hentry, hvtoken, hvtoken ▸ ?_⟩
  refine registered_of_enqueued ?_ hentry ?_
  · intro place vtoken hat
    exact absurd hat (not_at_freshHub place vtoken)
  · rw [hremoved]
    exact List.not_mem_nil

/-- The quoted answer names the old token of a revoked client, and the message
goes to its queue. -/
theorem enqueued_to_revoked :
    ∃ entry ∈ (run (step noAcl) (start botTasks freshHub []) (botRevoked ++ botQuotes)).enqueued,
      ¬ entry.decision.registry.Registered entry.vtoken := by
  decide +kernel

end HubState

end IlinkHub
