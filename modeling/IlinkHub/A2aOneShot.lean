/-
One agent call that nobody disturbs: whether its target owns the conversation
afterwards just as it would have without the call.
-/
import IlinkHub.A2aAuthority

namespace IlinkHub

open Transition Store

universe u v w

variable {ι : Type u} {κ : Type v} {υ : Type w}

/-- Ownership in terms of the grant cell and the session names. -/
lemma Store.vtokenOwnsVctx_iff_cell {store : Store} {pair : PairKey} {now : Int} :
    store.vtokenOwnsVctx now pair = true ↔ (∃ row, store.cell pair = some row ∧ now < row.stamp) ∨
        (store.sessionNames pair).Nonempty := by
  rw [vtokenOwnsVctx_iff, hasBackendSession_iff_sessionNames]
  simp only [cell, Option.map_eq_some_iff]
  constructor
  · rintro (⟨row, hrow, hlive⟩ | hsessions)
    · exact .inl ⟨row.toRow, ⟨row, hrow, rfl⟩, hlive⟩
    · exact .inr hsessions
  · rintro (⟨-, ⟨row, hrow, rfl⟩, hlive⟩ | hsessions)
    · exact .inl ⟨row, hrow, hlive⟩
    · exact .inr hsessions

/-- The call is about to write its old grant back. -/
def CallPhase.restores : CallPhase → Bool
  | .release _ _ _ (.restore _ _) => true
  | _ => false

lemma CallAgent.restores_of_restoring {call : CallAgent} {pair : PairKey} {phase : CallPhase}
    {name : String} {depth : UInt8}
    (hrestoring : call.overlayAt pair phase = .restoring name depth) : phase.restores = true := by
  have hdone : ¬ call.Done pair phase := by
    rintro ⟨hended, -⟩
    simp [hended] at hrestoring
  obtain ⟨hview, -⟩ := views_of_not_done hdone
  rw [hview] at hrestoring
  cases phase with
  | release own snap outcome stage =>
    cases stage with
    | restore _ _ => rfl
    | _ => cases hrestoring
  | _ => cases hrestoring

/-- While the grant is in place the sessions are listed and not reclaimed. -/
lemma CallAgent.taken_of_holds {call : CallAgent} {pair : PairKey}
    {phase : CallPhase} (hholds : (call.overlayAt pair phase).holds = true) :
    ∃ pre, call.reclaimAt pair phase = .taken pre := by
  have hdone : ¬ call.Done pair phase := by
    rintro ⟨hended, -⟩
    rw [hended] at hholds
    cases hholds
  obtain ⟨hview, hreclaim, -⟩ := views_of_not_done hdone
  rw [hview] at hholds
  rw [hreclaim]
  cases phase with
  | release own snap outcome stage =>
    cases stage with
    | deleteGrant => exact ⟨_, rfl⟩
    | _ => cases hholds
  | buildExt _ _ | push _ _ _ | notify _ _ | awaitReply _ _ => exact ⟨_, rfl⟩
  | _ => cases hholds

namespace A2aHub

/-- Nothing but the call, and its target while the grant is in place, writes
rows of the pair; the store answers the call and the restore, if there is one,
happens at second `restoredAt`. -/
def UndisturbedStep [DecidableEq ι] (procs : Processes ι κ υ) (i : ι)
    (pair : PairKey) (restoredAt : Int) (state : A2aHub ι κ υ) :
    A2aEvent ι κ υ → Prop
  | .call j env =>
    if j = i then
      env.ok = true ∧ ((state.calls i).restores = true → env.now = restoredAt)
    else ((procs.call j).op (state.calls j)).touches pair = false
  | .send k _ =>
    (SendMessage.op (state.sends k)).touches pair = true →
      (state.overlays procs pair i).holds = true
  | .user x _ => ((procs.user x).op (state.users x)).touches pair = false
  | .drop j _ _ =>
    j ≠ i ∧ ((procs.call j).op (state.calls j)).touches pair = false

/-- Where the rows of the pair stand, compared with the store at the start. -/
structure OneShot (procs : Processes ι κ υ) (i : ι) (pair : PairKey)
    (initial : Store) (restoredAt : Int) (state : A2aHub ι κ υ) : Prop where
  ttl : state.world.store.grantTtlSecs = initial.grantTtlSecs
  row : Overlay.Alone (procs.call i).grantKey (initial.cell pair)
    (initial.grantExpiresAt restoredAt) (state.world.store.cell pair) (state.overlays procs pair i)
  sessions : DiffReclaim.Inv (initial.sessionNames pair)
    (state.world.store.sessionNames pair) (state.reclaimOf procs i pair)

variable {procs : Processes ι κ υ} {i : ι} {pair : PairKey} {initial : Store}
  {restoredAt : Int} {state : A2aHub ι κ υ}

/-- The rows of the pair after a whole call: the same sessions, and the same
grant with a new expiry. -/
lemma OneShot.rows_eq (hinv : state.OneShot procs i pair initial restoredAt)
    {result : CallResult} (hfinished : state.calls i = .finished result) :
    state.world.store.cell pair = (initial.cell pair).map (fun row =>
        { row with stamp := initial.grantExpiresAt restoredAt }) ∧
      state.world.store.sessionNames pair = initial.sessionNames pair := by
  have hrow := hinv.row
  have hsessions := hinv.sessions
  rw [overlays, hfinished] at hrow
  rw [reclaimOf, hfinished] at hsessions
  exact ⟨hrow, hsessions.present_eq⟩

variable [DecidableEq ι] [DecidableEq κ] [DecidableEq υ] {event : A2aEvent ι κ υ}

section Steps

variable (hinv : state.OneShot procs i pair initial restoredAt)

include hinv

lemma OneShot.step_own {env : Env}
    (hok : env.ok = true) (hclock : (state.calls i).restores = true → env.now = restoredAt) :
    (state.step procs (.call i env)).OneShot procs i pair initial restoredAt := by
  refine ⟨?_, ?_, ?_⟩
  · rw [store_step, grantTtlSecs_attempt]
    exact hinv.ttl
  · rw [overlays_step_call, Function.update_self]
    refine hinv.row.step ((procs.call i).overlayAt_step pair (state.calls i) state.world hok) ?_
    intro name depth hrestoring
    rw [hclock (CallAgent.restores_of_restoring hrestoring), grantExpiresAt, hinv.ttl]
    rfl
  · rw [reclaimOf, calls_step_call]
    exact hinv.sessions.step ((procs.call i).reclaimAt_step pair
      (state.calls i) state.world fun _ => hok)

/-- An event of another process that leaves the grant row alone. -/
lemma OneShot.step_other
    (hother : event.ofCall i = false) (hactive : (state.op procs event).activePair ≠ some pair)
    (hdelete : ∀ name, state.op procs event ≠ .deleteBackendSession pair name)
    (habsorbs : ∀ name, (state.op procs event).backendKey =
      some ⟨pair, name⟩ → (state.reclaimOf procs i pair).Absorbs (initial.sessionNames pair) name) :
    (state.step procs event).OneShot procs i pair initial restoredAt := by
  refine ⟨?_, ?_, ?_⟩
  · rw [store_step, grantTtlSecs_attempt]
    exact hinv.ttl
  · rw [overlays_step_of_other hother, store_step, cell_attempt_of_ne hactive]
    exact hinv.row
  · refine reclaim_inv_step hinv.sessions ?_ fun _ => ⟨hdelete, habsorbs⟩
    intro hcall
    simp [hother] at hcall

lemma OneShot.step_untouched
    (hother : event.ofCall i = false) (htouches : (state.op procs event).touches pair = false) :
    (state.step procs event).OneShot procs i pair initial restoredAt := by
  have hkey := StoreOp.backendKey_of_not_touches htouches
  refine hinv.step_other hother (StoreOp.activePair_of_not_touches htouches) ?_ ?_
  · intro name hop
    rw [hop] at hkey
    exact hkey name rfl
  · intro name hname
    exact absurd hname (hkey name)

end Steps

lemma OneShot.step (state : A2aHub ι κ υ) (event : A2aEvent ι κ υ)
    (hinv : state.OneShot procs i pair initial restoredAt)
    (hcond : state.UndisturbedStep procs i pair restoredAt event) :
    (state.step procs event).OneShot procs i pair initial restoredAt := by
  cases event with
  | send k env =>
    refine hinv.step_other rfl (by simp [op]) (SendMessage.op_ne_deleteBackendSession _ pair) ?_
    intro name (hname : (SendMessage.op (state.sends k)).backendKey = _)
    have htouches : (SendMessage.op (state.sends k)).touches pair = true := by
      simp [StoreOp.touches, hname]
    obtain ⟨pre, hpre⟩ := CallAgent.taken_of_holds (hcond htouches)
    rw [reclaimOf, hpre]
    trivial
  | user x env => exact hinv.step_untouched rfl hcond
  | drop j applied now =>
    exact hinv.step_untouched (decide_eq_false hcond.1) hcond.2
  | call j env =>
    by_cases hji : j = i
    · subst hji
      rw [UndisturbedStep, if_pos rfl] at hcond
      exact hinv.step_own hcond.1 hcond.2
    · rw [UndisturbedStep, if_neg hji] at hcond
      exact hinv.step_untouched (decide_eq_false hji) hcond

/-- After an undisturbed call the target owns the conversation at a time `now`
just as it would without the call, exactly if it had a named session anyway, or
`now` is on the same side of the expiry of its old grant and of the expiry that
the restore gives it. -/
theorem owns_after_call_iff {start : A2aHub ι κ υ} {parties : CallParties}
    (hgate : start.calls i = .snapshotActive parties) {events : List (A2aEvent ι κ υ)}
    (hundisturbed : EveryStep (step procs)
      (UndisturbedStep procs i ((procs.call i).pair parties) restoredAt) start events)
    {result : CallResult} (hfinished : (run (step procs) start events).calls i =
      .finished result) (now : Int) :
    (run (step procs) start events).world.store.vtokenOwnsVctx now ((procs.call i).pair parties) =
      start.world.store.vtokenOwnsVctx now ((procs.call i).pair parties) ↔
    start.world.store.hasBackendSession ((procs.call i).pair parties) = true ∨
      ∀ row, start.world.store.active.lookup ((procs.call i).pair parties) = some row →
        (now < row.expiresAt ↔ now < start.world.store.grantExpiresAt restoredAt) := by
  have hstart : start.OneShot procs i ((procs.call i).pair parties)
      start.world.store restoredAt := by
    have hhere : (procs.call i).elsewhere ((procs.call i).pair parties)
        (start.calls i) = false := by
      rw [hgate]
      exact CallAgent.elsewhere_eq_false rfl
    refine ⟨rfl, ?_, ?_⟩
    · rw [overlays, CallAgent.overlayAt, hhere, hgate]
      exact rfl
    · rw [reclaimOf, CallAgent.reclaimAt, hhere, hgate]
      exact rfl
  obtain ⟨hcell, hnames⟩ := (run_invariant_of_everyStep .step hstart hundisturbed).rows_eq hfinished
  rw [Bool.eq_iff_iff, vtokenOwnsVctx_iff_cell, vtokenOwnsVctx_iff_cell, hcell, hnames,
    hasBackendSession_iff_sessionNames]
  by_cases hsessions : (start.world.store.sessionNames ((procs.call i).pair parties)).Nonempty
  · exact iff_of_true (iff_of_true (.inr hsessions) (.inr hsessions)) (.inl hsessions)
  · simp only [hsessions, cell]
    cases start.world.store.active.lookup ((procs.call i).pair parties) with
    | none => simp
    | some row => simp [ActiveRow.toRow, iff_comm]

instance (state : A2aHub ι κ υ) :
    ∀ event, Decidable (state.UndisturbedStep procs i pair restoredAt event)
  | .call _ _ => inferInstanceAs (Decidable (ite _ _ _))
  | .send _ _ => inferInstanceAs (Decidable (_ → _))
  | .user _ _ => inferInstanceAs (Decidable (_ = _))
  | .drop _ _ _ => inferInstanceAs (Decidable (_ ∧ _))

end A2aHub

/-- The parties of the sample call. -/
def Sample.parties : CallParties :=
  ⟨bot, "unknown", none, none⟩

/-- The call has passed the gate; the pair has an old grant. -/
def Sample.pastGate (expiresAt : Int) : A2aHub Unit Unit Empty :=
  run (A2aHub.step callAndAnswer)
    (beforeAnswer (some ⟨"work", 0, expiresAt⟩)) (callEvents 2)

/-- The call from the gate on, with its answer. -/
def Sample.wholeCall : List (A2aEvent Unit Unit Empty) :=
  callEvents 6 ++ answerEvents 4 ++ callEvents 6

open Sample

namespace A2aHub

set_option maxRecDepth 4000 in
theorem owns_after_call_live_grant :
    (run (step callAndAnswer) (pastGate 1000) wholeCall).world.store.vtokenOwnsVctx 100 pair =
      (pastGate 1000).world.store.vtokenOwnsVctx 100 pair := by
  have hgate : (pastGate 1000).calls () = .snapshotActive parties := by decide
  have hundisturbed : EveryStep (step callAndAnswer)
      (UndisturbedStep callAndAnswer () pair 100) (pastGate 1000) wholeCall := by decide
  have hfinished : (run (step callAndAnswer) (pastGate 1000) wholeCall).calls () =
      .finished (errorContent "Agent 'bot' did not reply within 120 seconds.") := by decide
  have hlookup : (pastGate 1000).world.store.active.lookup pair =
      some ⟨"work", 0, 1000⟩ := by decide
  refine (owns_after_call_iff hgate hundisturbed hfinished 100).mpr (.inr ?_)
  intro row hrow
  obtain rfl := Option.some.inj (hlookup.symm.trans hrow)
  decide

set_option maxRecDepth 4000 in
/-- A grant that has expired before the call is live after it. -/
theorem call_revives_expired_grant :
    EveryStep (step callAndAnswer) (UndisturbedStep callAndAnswer () pair 100)
        (pastGate 50) wholeCall ∧
      (run (step callAndAnswer) (pastGate 50) wholeCall).calls () = .finished (errorContent
        "Agent 'bot' did not reply within 120 seconds.") ∧
      (pastGate 50).world.store.vtokenOwnsVctx 100 pair = false ∧
      (run (step callAndAnswer) (pastGate 50)
        wholeCall).world.store.vtokenOwnsVctx 100 pair = true :=
  ⟨by decide, by decide, by decide, by decide⟩

end A2aHub

end IlinkHub
