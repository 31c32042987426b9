/-
The named sessions of a pair while an agent call runs: which of them the
release takes away, and which of them stay.
-/
import IlinkHub.A2aRelease

namespace IlinkHub

open Transition Sample Store

universe u v w

variable {ι : Type u} {κ : Type v} {υ : Type w}

namespace CallAgent

variable {call : CallAgent} {pair : PairKey} {phase : CallPhase}

lemma op_of_untaken (huntaken : call.reclaimAt pair phase = .untaken) : call.op phase = .skip := by
  have hdone : ¬ call.Done pair phase := by
    rintro ⟨-, hended⟩
    simp [hended] at huntaken
  obtain ⟨-, hview, -⟩ := views_of_not_done hdone
  rw [hview] at huntaken
  cases phase with
  | resolveTarget | resolveCaller _ | snapshotActive _
  | snapshotSessions _ _ => rfl
  | release own snap outcome stage => cases stage <;> cases huntaken
  | _ => cases huntaken

/-- The session that the call writes is the next one it deletes. -/
lemma deleting_of_backendKey {name : String}
    (hop : (call.op phase).backendKey = some ⟨pair, name⟩) :
    ∃ rest, call.reclaimAt pair phase = .deleting (name :: rest) := by
  obtain ⟨parties, snap, outcome, rest, rfl, rfl⟩ := op_backendKey hop
  rw [reclaimAt, elsewhere_eq_false rfl]
  exact ⟨rest, rfl⟩

/-- A spared session is not the one that the call is deleting. -/
lemma op_of_spares {name : String} (hspares : (call.reclaimAt pair phase).Spares name) :
    (call.op phase).backendKey ≠ some ⟨pair, name⟩ := by
  intro hop
  obtain ⟨rest, hdeleting⟩ := deleting_of_backendKey hop
  rw [hdeleting] at hspares
  exact hspares List.mem_cons_self

end CallAgent

namespace A2aHub

variable {procs : Processes ι κ υ} {i : ι} {pair : PairKey}
  {state : A2aHub ι κ υ} {event : A2aEvent ι κ υ}

variable [DecidableEq ι] [DecidableEq κ] [DecidableEq υ]

/-- Steps of the call reclaim, steps of others may add what is absorbed. -/
lemma reclaim_inv_step {initial : Set String}
    (hinv : DiffReclaim.Inv initial (state.world.store.sessionNames pair)
      (state.reclaimOf procs i pair)) (hown : event.ofCall i = true → ∃ env, event = .call i env ∧
      ((state.calls i).accessesSessions = true → env.ok = true)) (hother : event.ofCall i = false →
      (∀ name, state.op procs event ≠ .deleteBackendSession pair name) ∧
        ∀ name, (state.op procs event).backendKey = some ⟨pair, name⟩ →
          (state.reclaimOf procs i pair).Absorbs initial name) :
    DiffReclaim.Inv initial ((state.step procs event).world.store.sessionNames pair)
      ((state.step procs event).reclaimOf procs i pair) := by
  cases hcall : event.ofCall i with
  | true =>
    obtain ⟨env, rfl, hok⟩ := hown hcall
    rw [reclaimOf, calls_step_call]
    exact hinv.step ((procs.call i).reclaimAt_step pair (state.calls i) state.world hok)
  | false =>
    obtain ⟨hdelete, habsorbs⟩ := hother hcall
    rw [reclaimOf_step_of_other hcall, store_step]
    rcases sessionNames_attempt_write hdelete with
      hsame | ⟨name, hname, hinsert⟩
    · rw [hsame]
      exact hinv
    · rw [hinsert]
      exact hinv.add (habsorbs name hname)

end A2aHub

/-- The request answers an agent call, not a message of the user. -/
def SendMessage.answersCall (send : SendMessage) : Bool :=
  ((send.req.msg.bind WeixinMessage.ilinkHubExt).bind HubExt.a2aCallId).isSome

/-- The event is an operation of the user: a session command, a mention, or a
reply to one of the user's messages. -/
def A2aEvent.byUser (procs : Processes ι κ υ) : A2aEvent ι κ υ → Bool
  | .user _ _ => true
  | .send k _ => !(procs.send k).answersCall
  | .call _ _ | .drop _ _ _ => false

namespace A2aHub

/-- An operation of the user gives the session `name` of the pair the id. -/
structure UserWrites (procs : Processes ι κ υ) (pair : PairKey)
    (state : A2aHub ι κ υ) (event : A2aEvent ι κ υ) (name id : String) :
    Prop where
  byUser : event.byUser procs = true
  ok : event.ok = true
  op : state.op procs event = .setBackendSession pair name id

/-- The user writes a session only where the release of call `i` spares it:
before the call lists the sessions, under a name of that listing, or once the
release has listed the sessions again. -/
def SparedStep (procs : Processes ι κ υ) (i : ι) (pair : PairKey)
    (state : A2aHub ι κ υ) (event : A2aEvent ι κ υ) : Prop :=
  event.byUser procs = true → ∀ written ∈ (state.op procs event).written, written.1.pair = pair →
      (state.reclaimOf procs i pair).Spares written.1.sessionName
deriving Decidable

/-- No process but call `i` gives the session another id. -/
def KeepsId [DecidableEq ι] (procs : Processes ι κ υ) (i : ι)
    (pair : PairKey) (name : String) (state : A2aHub ι κ υ) (event : A2aEvent ι κ υ) : Prop :=
  event.ofCall i = false → (state.op procs event).rewrites ⟨pair, name⟩ = false
deriving Decidable

variable {procs : Processes ι κ υ} {i : ι} {pair : PairKey} {name id : String}

lemma UserWrites.ofCall_eq_false [DecidableEq ι] {state : A2aHub ι κ υ} {event : A2aEvent ι κ υ}
    (hwrites : state.UserWrites procs pair event name id) (i : ι) : event.ofCall i = false := by
  have huser := hwrites.byUser
  cases event with
  | user x env => rfl
  | send k env => rfl
  | call j env => cases huser
  | drop j applied now => cases huser

/-- The session has the id and the release will leave it alone. -/
structure Survives (procs : Processes ι κ υ) (i : ι) (pair : PairKey)
    (name id : String) (state : A2aHub ι κ υ) : Prop where
  id_eq : state.world.store.getBackendSession pair name = some id
  spared : (state.reclaimOf procs i pair).Spares name

variable [DecidableEq ι] [DecidableEq κ] [DecidableEq υ]

lemma Survives.step (state : A2aHub ι κ υ) (event : A2aEvent ι κ υ)
    (hsurvives : state.Survives procs i pair name id)
    (hkeeps : state.KeepsId procs i pair name event) :
    (state.step procs event).Survives procs i pair name id := by
  have hmem : name ∈ state.world.store.sessionNames pair := by
    have hid := hsurvives.id_eq
    rw [getBackendSession, Option.map_eq_some_iff] at hid
    obtain ⟨row, hrow, -⟩ := hid
    exact Option.isSome_of_eq_some hrow
  have hspared := hsurvives.spared
  cases hcall : event.ofCall i with
  | false =>
    refine ⟨?_, ?_⟩
    · rw [store_step]
      exact getBackendSession_attempt hsurvives.id_eq (hkeeps hcall)
    · rw [reclaimOf_step_of_other hcall]
      exact hspared
  | true =>
    -- The call itself writes no id and does not delete a spared session.
    have hop := StoreOp.rewrites_eq_false (CallAgent.op_of_spares hspared)
    rcases A2aEvent.of_ofCall hcall with ⟨env, rfl⟩ | ⟨applied, now, rfl⟩
    · refine ⟨?_, ?_⟩
      · exact getBackendSession_attempt hsurvives.id_eq hop
      · rw [reclaimOf, calls_step_call]
        exact (hspared.step hmem ((procs.call i).reclaimAt_step pair
          (state.calls i) state.world fun _ => rfl)).1
    · refine ⟨?_, ?_⟩
      · rw [store_step]
        exact getBackendSession_attempt hsurvives.id_eq hop
      · rw [reclaimOf_step_drop]
        exact List.not_mem_nil

/-- In every run whose user operations all write where they are spared, a
session that the user wrote is there with its id for as long as no other
process gives it a new one. -/
theorem user_session_survives {start : A2aHub ι κ υ}
    {past later : List (A2aEvent ι κ υ)} {event : A2aEvent ι κ υ}
    (hspared : EveryStep (step procs) (SparedStep procs i pair) start (past ++ event :: later))
    (hwrites : (run (step procs) start past).UserWrites procs pair event name id)
    (hkeeps : EveryStep (step procs) (KeepsId procs i pair name)
      (run (step procs) start (past ++ [event])) later) :
    (run (step procs) start (past ++ event :: later)).world.store.getBackendSession pair name =
      some id := by
  obtain ⟨-, hevent, -⟩ := everyStep_append.mp hspared
  have hafter : ((run (step procs) start past).step procs event).Survives procs i pair name id := by
    refine ⟨?_, ?_⟩
    · rw [store_step, hwrites.op, hwrites.ok, attempt_ok, apply,
        getBackendSession, lookup_setBackendSession, if_pos rfl]
      rfl
    · rw [reclaimOf_step_of_other (hwrites.ofCall_eq_false i)]
      refine hevent hwrites.byUser (⟨pair, name⟩, id) ?_ rfl
      rw [hwrites.op]
      rfl
  rw [run_append] at hkeeps
  rw [run_append]
  exact (run_invariant_of_everyStep Survives.step hafter hkeeps).id_eq

end A2aHub

namespace Sample

/-- One call on the pair, and the command that opens the session `work`. -/
def callAndUser : Processes Unit Empty Unit where
  call := fun _ => call "1"
  send := Empty.elim
  user := fun _ => .sessionNew pair "work" "uuid"

def callSteps (n : Nat) : List (A2aEvent Unit Empty Unit) :=
  List.replicate n (.call () (tick 100))

def sessionNewStep : A2aEvent Unit Empty Unit :=
  .user () (tick 100)

def beforeUser : A2aHub Unit Empty Unit :=
  .start callAndUser (world none)

end Sample

namespace A2aHub

set_option maxRecDepth 4000 in
theorem user_session_survives_early_write :
    (run (step callAndUser) beforeUser (callSteps 3 ++ sessionNewStep ::
          callSteps 10)).calls () = .finished (errorContent
        "Agent 'bot' did not reply within 120 seconds.") ∧
      (run (step callAndUser) beforeUser (callSteps 3 ++ sessionNewStep ::
          callSteps 10)).world.store.getBackendSession Sample.pair "work" = some "uuid" :=
  ⟨by decide, user_session_survives (i := ()) (by decide)
    ⟨by decide, by decide, by decide⟩ (by decide)⟩

set_option maxRecDepth 4000 in
/-- A session that the user opens after the call has listed the sessions is
gone when the call is over. -/
theorem release_deletes_user_session :
    (run (step callAndUser) beforeUser (callSteps 4)).UserWrites callAndUser Sample.pair
        sessionNewStep "work" "uuid" ∧
      (run (step callAndUser) beforeUser (callSteps 4 ++ sessionNewStep ::
          callSteps 9)).calls () = .finished (errorContent
        "Agent 'bot' did not reply within 120 seconds.") ∧
      (run (step callAndUser) beforeUser (callSteps 4 ++ sessionNewStep ::
          callSteps 9)).world.store.getBackendSession Sample.pair "work" = none :=
  ⟨⟨by decide, by decide, by decide⟩, by decide, by decide⟩

end A2aHub

end IlinkHub
