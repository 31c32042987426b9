/-
Whether the requests that a target makes under the grant of one agent call
leave it with lasting authority over the conversation.
-/
import IlinkHub.A2aSessions

namespace IlinkHub

open Transition Store

universe u v w

variable {ι : Type u} {κ : Type v} {υ : Type w}

namespace Store

variable {store : Store} {pair : PairKey}

lemma hasBackendSession_iff_sessionNames :
    store.hasBackendSession pair = true ↔ (store.sessionNames pair).Nonempty := by
  rw [hasBackendSession_iff]
  rfl

/-- Who does not own the conversation at `t` has no named session of it, and
its grant is over for good. -/
lemma vtokenOwnsVctx_eq_false_iff {t : Int} :
    store.vtokenOwnsVctx t pair = false ↔ store.sessionNames pair = ∅ ∧
        ∀ row, store.active.lookup pair = some row → row.expiresAt ≤ t := by
  rw [← Bool.not_eq_true, vtokenOwnsVctx_iff,
    hasBackendSession_iff_sessionNames, Set.nonempty_iff_ne_empty, not_or,
    not_not, and_comm]
  simp [not_lt]

end Store

namespace A2aHub

/-- The condition on one step: the call finds the store when it lists and
deletes sessions, the target writes no session of the pair that the release
does not delete any more, and nobody else writes rows of the pair. -/
def TimelyStep [DecidableEq ι] (procs : Processes ι κ υ) (i : ι)
    (pair : PairKey) (state : A2aHub ι κ υ) : A2aEvent ι κ υ → Prop
  | .call j env =>
    if j = i then (state.calls i).accessesSessions = true → env.ok = true
    else ((procs.call j).op (state.calls j)).touches pair = false
  | .send k _ =>
    ∀ key ∈ (SendMessage.op (state.sends k)).backendKey, key.pair = pair →
      (state.reclaimOf procs i pair).late key.sessionName = false
  | .user x _ => ((procs.user x).op (state.users x)).touches pair = false
  | .drop j _ _ =>
    j ≠ i ∧ ((procs.call j).op (state.calls j)).touches pair = false

/-- As long as the call has not listed the sessions the target owns nothing,
and no request of it is past the check. -/
structure Unowned (procs : Processes ι κ υ) (i : ι) (pair : PairKey) (t : Int)
    (state : A2aHub ι κ υ) : Prop where
  sessions : DiffReclaim.Inv ∅ (state.world.store.sessionNames pair) (state.reclaimOf procs i pair)
  expired : state.reclaimOf procs i pair = .untaken →
    ∀ row, state.world.store.active.lookup pair = some row → row.expiresAt ≤ t
  waiting : state.reclaimOf procs i pair = .untaken →
    ∀ k name, (SendMessage.op (state.sends k)).backendKey ≠ some ⟨pair, name⟩

variable {procs : Processes ι κ υ} {i : ι} {pair : PairKey} {t : Int} {state : A2aHub ι κ υ}

lemma Unowned.resolveSendContext (hunowned : state.Unowned procs i pair t)
    (huntaken : state.reclaimOf procs i pair = .untaken) {now : Int} (hnow : t ≤ now) :
    state.world.store.resolveSendContext now pair = none := by
  have hsessions := hunowned.sessions
  rw [huntaken] at hsessions
  have howns : state.world.store.vtokenOwnsVctx now pair = false := by
    rw [vtokenOwnsVctx_eq_false_iff]
    refine ⟨hsessions, ?_⟩
    intro row hrow
    exact (hunowned.expired huntaken row hrow).trans hnow
  rw [← Option.not_isSome_iff_eq_none, resolveSendContext_isSome_iff, howns]
  rintro ⟨-, hfalse⟩
  cases hfalse

variable [DecidableEq ι] [DecidableEq κ] [DecidableEq υ]

/-- A write of the target that is not late is taken away again. -/
lemma Unowned.step_send (hunowned : state.Unowned procs i pair t) {k : κ} {env : Env}
    (hclock : t ≤ env.now) (htimely : state.TimelyStep procs i pair (.send k env)) :
    (state.step procs (.send k env)).Unowned procs i pair t := by
  refine ⟨reclaim_inv_step hunowned.sessions (fun h => nomatch h) ?_, ?_, ?_⟩
  · intro _
    refine ⟨SendMessage.op_ne_deleteBackendSession _ pair, ?_⟩
    · intro name hkey
      refine DiffReclaim.Stage.absorbs_of_not_late ?_ (htimely _ hkey rfl)
      intro huntaken
      exact hunowned.waiting huntaken k name hkey
  · intro huntaken row hrow
    rw [store_step, active_lookup_attempt_of_ne (by simp [op])] at hrow
    exact hunowned.expired huntaken row hrow
  · intro huntaken l name hkey
    by_cases hlk : l = k
    · subst hlk
      rw [sends_step_send] at hkey
      rcases SendMessage.next_backendKey hkey with ⟨other, hother⟩ | hresolve
      · exact hunowned.waiting huntaken l other hother
      · simp [hunowned.resolveSendContext huntaken hclock] at hresolve
    · rw [sends_step_send_of_ne hlk] at hkey
      exact hunowned.waiting huntaken l name hkey

/-- An event of another process that leaves the rows of the pair alone. -/
lemma Unowned.step_untouched (hunowned : state.Unowned procs i pair t)
    {event : A2aEvent ι κ υ} (hother : event.ofCall i = false)
    (hsends : (state.step procs event).sends = state.sends)
    (htouches : (state.op procs event).touches pair = false) :
    (state.step procs event).Unowned procs i pair t := by
  have hkey := StoreOp.backendKey_of_not_touches htouches
  have hstage : (state.step procs event).reclaimOf procs i pair =
      state.reclaimOf procs i pair := reclaimOf_step_of_other hother
  refine ⟨?_, ?_, ?_⟩
  · rw [hstage, store_step, sessionNames_attempt_of_ne hkey]
    exact hunowned.sessions
  · rw [hstage, store_step, active_lookup_attempt_of_ne
      (StoreOp.activePair_of_not_touches htouches)]
    exact hunowned.expired
  · rw [hstage, hsends]
    exact hunowned.waiting

lemma Unowned.step_own (hunowned : state.Unowned procs i pair t) {env : Env}
    (hok : (state.calls i).accessesSessions = true → env.ok = true) :
    (state.step procs (.call i env)).Unowned procs i pair t := by
  have hstep := (procs.call i).reclaimAt_step pair (state.calls i) state.world hok
  have hback : (state.step procs (.call i env)).reclaimOf procs i pair =
      .untaken → state.reclaimOf procs i pair = .untaken := by
    rw [reclaimOf, calls_step_call]
    intro huntaken
    rw [huntaken] at hstep
    exact hstep.untaken
  refine ⟨?_, ?_, ?_⟩
  · rw [reclaimOf, calls_step_call]
    exact hunowned.sessions.step hstep
  · intro huntaken
    have hop : state.op procs (.call i env) = .skip :=
      CallAgent.op_of_untaken (hback huntaken)
    rw [store_step, hop, attempt_skip]
    exact hunowned.expired (hback huntaken)
  · intro huntaken
    exact hunowned.waiting (hback huntaken)

lemma Unowned.step (state : A2aHub ι κ υ) (event : A2aEvent ι κ υ)
    (hunowned : state.Unowned procs i pair t)
    (hcond : t ≤ event.now ∧ state.TimelyStep procs i pair event) :
    (state.step procs event).Unowned procs i pair t := by
  obtain ⟨hclock, htimely⟩ := hcond
  cases event with
  | send k env => exact hunowned.step_send hclock htimely
  | user x env => exact hunowned.step_untouched rfl rfl htimely
  | drop j applied now =>
    exact hunowned.step_untouched (decide_eq_false htimely.1) rfl htimely.2
  | call j env =>
    by_cases hji : j = i
    · subst hji
      rw [TimelyStep, if_pos rfl] at htimely
      exact hunowned.step_own htimely
    · rw [TimelyStep, if_neg hji] at htimely
      exact hunowned.step_untouched (decide_eq_false hji) rfl htimely

/-- In every run whose steps all meet the condition, a target that did not own
the conversation has no named session of it once the call is over. -/
theorem no_lasting_authority {start : A2aHub ι κ υ} (hcall : start.calls i = CallAgent.start)
    (hsends : ∀ k, start.sends k = SendMessage.start)
    (hunowned : start.world.store.vtokenOwnsVctx t pair = false) {events : List (A2aEvent ι κ υ)}
    (htimely : EveryStep (step procs)
      (fun state event => t ≤ event.now ∧ state.TimelyStep procs i pair event) start events) :
    Throughout (step procs) (fun state => (∃ result, state.calls i = .finished result) →
        ∀ name, state.world.store.backend.lookup ⟨pair, name⟩ = none) start events := by
  obtain ⟨hsessions, hexpired⟩ := vtokenOwnsVctx_eq_false_iff.mp hunowned
  have huntaken : start.reclaimOf procs i pair = .untaken := by
    rw [reclaimOf, hcall]
    rfl
  refine throughout_of_everyStep ?_ Unowned.step ⟨?_, ?_, ?_⟩ htimely
  · rintro state hinv ⟨result, hresult⟩ name
    have hover := hinv.sessions
    rw [reclaimOf, hresult] at hover
    have hempty := hover.present_eq
    have hname : name ∉ state.world.store.sessionNames pair := by
      rw [hempty]
      exact Set.notMem_empty name
    exact Option.not_isSome_iff_eq_none.mp hname
  · rw [huntaken]
    exact hsessions
  · intro _
    exact hexpired
  · intro _ k name hkey
    rw [hsends k] at hkey
    cases hkey

instance (state : A2aHub ι κ υ) :
    ∀ event, Decidable (state.TimelyStep procs i pair event)
  | .call _ _ => inferInstanceAs (Decidable (ite _ _ _))
  | .send k _ => inferInstanceAs (Decidable (∀ key ∈
      (SendMessage.op (state.sends k)).backendKey, key.pair = pair → _ = _))
  | .user _ _ => inferInstanceAs (Decidable (_ = _))
  | .drop _ _ _ => inferInstanceAs (Decidable (_ ∧ _))

end A2aHub

namespace Sample

/-- The answer of the target names a session of its own choosing. -/
def answer : WeixinMessage where
  contextToken := some "vctx_1"
  itemList := some [{ itemType := some 1, textItem := some { text := some "done" } }]
  ilinkHubExt := some
    { sessionName := some "mine"
      cliSessionId := some "uuid"
      a2aCallId := some "1" }

/-- One call on the pair and its answer. -/
def callAndAnswer : Processes Unit Unit Empty where
  call := fun _ => call "1"
  send := fun _ => ⟨some "t", ⟨some answer⟩⟩
  user := Empty.elim

def callEvents (n : Nat) : List (A2aEvent Unit Unit Empty) :=
  List.replicate n (.call () (tick 100))

def answerEvents (n : Nat) : List (A2aEvent Unit Unit Empty) :=
  List.replicate n (.send () (tick 100))

def beforeAnswer (row : Option ActiveRow) : A2aHub Unit Unit Empty :=
  .start callAndAnswer (world row)

/-- The whole answer comes while the call waits. -/
def answeredCall : List (A2aEvent Unit Unit Empty) :=
  callEvents 8 ++ answerEvents 4 ++ callEvents 5

/-- The answer is checked while the call waits and written after its release. -/
def overtakenAnswer : List (A2aEvent Unit Unit Empty) :=
  callEvents 8 ++ answerEvents 2 ++ callEvents 4 ++ answerEvents 2

end Sample

open Sample

namespace A2aHub

set_option maxRecDepth 4000 in
theorem no_lasting_authority_answered :
    (run (step callAndAnswer) (beforeAnswer none) answeredCall).calls () = .finished (errorContent
        "Agent 'bot' did not reply within 120 seconds.") ∧
      ∀ name, (run (step callAndAnswer) (beforeAnswer none)
        answeredCall).world.store.backend.lookup ⟨pair, name⟩ = none := by
  have hfinished : (run (step callAndAnswer) (beforeAnswer none) answeredCall).calls () =
      .finished (errorContent "Agent 'bot' did not reply within 120 seconds.") := by
    decide
  have hrun := no_lasting_authority rfl (fun _ => rfl)
    (by decide) (by decide : EveryStep (step callAndAnswer)
      (fun state event => 100 ≤ event.now ∧
        state.TimelyStep callAndAnswer () pair event)
      (beforeAnswer none) answeredCall)
  exact ⟨hfinished, hrun _ (List.prefix_refl _) ⟨_, hfinished⟩⟩

set_option maxRecDepth 4000 in
/-- A request that passed the check before the release writes a session after
it, and the target owns the conversation from then on. -/
theorem overtaken_answer_keeps_authority :
    (beforeAnswer none).world.store.vtokenOwnsVctx 100 pair = false ∧
      (run (step callAndAnswer) (beforeAnswer none)
        overtakenAnswer).calls () = .finished (errorContent
        "Agent 'bot' did not reply within 120 seconds.") ∧
      (run (step callAndAnswer) (beforeAnswer none) overtakenAnswer).sends () = .finished .ok ∧
      (run (step callAndAnswer) (beforeAnswer none)
        overtakenAnswer).world.store.getBackendSession pair "mine" = some "uuid" :=
  ⟨by decide, by decide, by decide, by decide⟩

end A2aHub

end IlinkHub
