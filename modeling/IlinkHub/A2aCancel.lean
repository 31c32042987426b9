/-
Dropping the future of an agent call: when nothing of the call is left in the
waiter map and in the grant rows.
-/
import IlinkHub.A2aRelease

namespace IlinkHub

open Sample CallAgent Transition CallPhase

universe u v w

variable {ι : Type u} {κ : Type v} {υ : Type w}

/-- What another process can do to the entry of a call: take it out, and then
only a reply makes a difference. -/
structure A2aWaiter.Advances (callId : String) (before after : A2aWaiter) :
    Prop where
  pending : callId ∈ after.pending → callId ∈ before.pending
  delivered : after.delivered.lookup callId = before.delivered.lookup callId ∨
    callId ∈ before.pending ∧ callId ∉ after.pending

namespace A2aWaiter

variable {callId other reply : String} {waiter : A2aWaiter}

lemma not_mem_pending_cancel : callId ∉ (waiter.cancel callId).pending := by
  simp [cancel]

lemma advances_refl : waiter.Advances callId waiter :=
  ⟨id, .inl rfl⟩

lemma advances_cancel : waiter.Advances callId (waiter.cancel other) :=
  ⟨fun hmem => (List.mem_filter.mp hmem).1, .inl rfl⟩

lemma advances_resolve : waiter.Advances callId (waiter.resolve other reply).2 := by
  unfold resolve
  by_cases hother : other ∈ waiter.pending
  · rw [if_pos hother]
    refine ⟨fun hmem => (List.mem_filter.mp hmem).1, ?_⟩
    by_cases hid : callId = other
    · subst hid
      exact .inr ⟨hother, by simp⟩
    · exact .inl (AList.lookup_insert_ne hid)
  · rw [if_neg hother]
    exact advances_refl

end A2aWaiter

namespace CallPhase

/-- The call is registered and has neither a reply nor given up. -/
def waits : CallPhase → Bool
  | .snapshotActive _ | .snapshotSessions _ _ | .grant _ _ | .buildExt _ _
  | .push _ _ _ | .notify _ _ | .awaitReply _ _ => true
  | .resolveTarget | .resolveCaller _ | .release _ _ _ _ | .notifyReply _ _
  | .finished _ | .dropped => false

/-- The call is not registered yet. -/
def resolves : CallPhase → Bool
  | .resolveTarget | .resolveCaller _ => true
  | _ => false

/-- Where the future may be dropped: before the registration, and from the
deletion of the grant on.  At the deletion itself the statement in flight has to
reach the store. -/
def dropsClean (applied : Bool) : CallPhase → Bool
  | .release _ _ _ .deleteGrant => applied
  | phase => !phase.waits

variable {phase : CallPhase}

lemma parties_of_resolves (hresolves : phase.resolves = true) : phase.parties = none := by
  cases phase <;> first | rfl | cases hresolves

lemma waits_of_resolves (hresolves : phase.resolves = true) : phase.waits = false := by
  cases phase <;> first | rfl | cases hresolves

def deletesGrant : CallPhase → Bool
  | .release _ _ _ .deleteGrant => true
  | _ => false

lemma waits_of_dropsClean {applied : Bool}
    (hclean : phase.dropsClean applied = true) : phase.waits = false := by
  cases phase <;> first | rfl | cases hclean

/-- A call that is dropped while its grant is in place deletes it. -/
lemma deletesGrant_of_dropsClean {applied : Bool} (hholds : phase.overlay.holds = true)
    (hclean : phase.dropsClean applied = true) : phase.deletesGrant = true ∧ applied = true := by
  cases phase with
  | release own snap outcome stage =>
    cases stage with
    | deleteGrant => exact ⟨rfl, hclean⟩
    | _ => cases hholds
  | buildExt _ _ | push _ _ _ | notify _ _ | awaitReply _ _ => cases hclean
  | _ => cases hholds

end CallPhase

namespace CallAgent

variable {call : CallAgent} {phase : CallPhase} {world : World} {env : Env} {name : String}

/-- Only the deletion ends the time of the grant. -/
lemma next_of_holds (hholds : phase.overlay.holds = true) (hdelete : phase.deletesGrant = false) :
    (call.next world env phase).overlay.holds = true ∧
      (call.next world env phase).parties = phase.parties := by
  cases phase with
  | buildExt _ _ | push _ _ _ | notify _ _ => exact ⟨rfl, rfl⟩
  | awaitReply own snap =>
    rcases next_awaitReply with hnext | ⟨outcome, hnext⟩
    · rw [hnext]
      exact ⟨rfl, rfl⟩
    · rw [hnext]
      exact ⟨rfl, rfl⟩
  | release own snap outcome stage =>
    cases stage with
    | deleteGrant => cases hdelete
    | _ => cases hholds
  | _ => cases hholds

/-- The grant and the restore are the writes of grant rows. -/
lemma op_grants {pair : PairKey} (hop : (call.op phase).grants = some (pair, name)) :
    (∃ parties snap, phase = .grant parties snap ∧ call.pair parties = pair) ∨
      phase.overlay.remembers name = true := by
  cases phase with
  | grant parties snap =>
    obtain ⟨rfl, -⟩ := Prod.mk.inj (Option.some.inj hop)
    exact .inl ⟨parties, snap, rfl, rfl⟩
  | release own snap outcome stage =>
    cases stage with
    | restore written depth =>
      obtain ⟨-, rfl⟩ := Prod.mk.inj (Option.some.inj hop)
      exact .inr (decide_eq_true rfl)
    | _ => cases hop
  | _ => cases hop

lemma op_of_deletesGrant {pair : PairKey} (hdelete : phase.deletesGrant = true)
    (hpair : phase.parties.map call.pair = some pair) :
    call.op phase = .deleteActiveSessionIfName pair call.grantKey := by
  cases phase with
  | release parties snap outcome stage =>
    cases stage with
    | deleteGrant =>
      cases hpair
      rfl
    | _ => cases hdelete
  | _ => cases hdelete

lemma remembers_releaseNext {store : Store} {ok : Bool} {parties : CallParties} {snap : Snapshot}
    {outcome : CallOutcome} {stage : ReleaseStage}
    (hnext : (call.releaseNext store ok parties snap outcome stage).overlay.remembers name = true) :
    (release parties snap outcome stage).overlay.remembers name = true := by
  cases stage with
  | deleteGrant => exact hnext
  | inspect =>
    simp only [releaseNext] at hnext
    split at hnext
    · next hprev =>
      simp only [overlay, hprev]
      exact hnext
    · cases hnext
  | restore _ _ => cases hnext
  | listSessions =>
    simp only [releaseNext] at hnext
    split at hnext
    · rw [overlay_reclaimNext] at hnext
      cases hnext
    · rw [overlay_afterRelease] at hnext
      cases hnext
  | reclaim written rest =>
    simp only [releaseNext, overlay_reclaimNext] at hnext
    cases hnext

/-- A call remembers what it read from the grant row. -/
lemma remembers_next (hnext : (call.next world env phase).overlay.remembers name = true) :
    phase.overlay.remembers name = true ∨ ∃ parties, phase = .snapshotActive parties ∧
        world.store.GrantNamed (call.pair parties) name := by
  cases phase with
  | resolveTarget =>
    simp only [next] at hnext
    split at hnext <;> cases hnext
  | resolveCaller target =>
    simp only [next, gate] at hnext
    split at hnext <;> cases hnext
  | snapshotActive parties =>
    refine .inr ⟨parties, rfl, ?_⟩
    simp only [next, Store.getActiveSessionRow] at hnext
    cases hrow : world.store.active.lookup (call.pair parties) with
    | none =>
      rw [hrow] at hnext
      cases hok : env.ok <;> rw [hok] at hnext <;> cases hnext
    | some row =>
      rw [hrow] at hnext
      rw [Store.GrantNamed, hrow]
      cases hok : env.ok with
      | false =>
        rw [hok] at hnext
        cases hnext
      | true =>
        rw [hok] at hnext
        exact congrArg some (of_decide_eq_true hnext)
  | awaitReply own snap =>
    left
    rcases next_awaitReply with hwait | ⟨outcome, hwait⟩
    · rwa [hwait] at hnext
    · rwa [hwait] at hnext
  | release own snap outcome stage =>
    exact .inl (remembers_releaseNext hnext)
  | _ => exact .inl hnext

lemma waiterAfter_pending (hanswered : (world.waiter.delivered.lookup call.callId).isSome = true →
      call.callId ∉ world.waiter.pending)
    (hpending : phase.waits = false → call.callId ∉ world.waiter.pending)
    (hnext : (call.next world env phase).waits = false) :
    call.callId ∉ (call.waiterAfter world env phase).pending := by
  cases phase with
  | resolveCaller target =>
    simp only [next] at hnext
    simp only [waiterAfter]
    split
    · next parties hgate =>
      rw [hgate] at hnext
      cases hnext
    · exact hpending rfl
  | awaitReply own snap =>
    simp only [next] at hnext
    simp only [waiterAfter]
    split at hnext
    · next hwake hreply =>
      rw [hwake]
      exact hanswered (Option.isSome_of_eq_some hreply)
    · cases hnext
    · next hwake =>
      rw [hwake]
      exact A2aWaiter.not_mem_pending_cancel
    · next hwake =>
      rw [hwake]
      exact A2aWaiter.not_mem_pending_cancel
  | resolveTarget | release _ _ _ _ | notifyReply _ _ | finished _
  | dropped => exact hpending rfl
  | _ => cases hnext

lemma waiterAfter_delivered :
    (call.waiterAfter world env phase).delivered = world.waiter.delivered := by
  cases phase with
  | resolveCaller target =>
    simp only [waiterAfter]
    split <;> rfl
  | awaitReply own snap =>
    simp only [waiterAfter]
    split <;> rfl
  | _ => rfl

/-- Only the registration puts a call into the waiter map. -/
lemma mem_pending_waiterAfter {callId : String}
    (hmem : callId ∈ (call.waiterAfter world env phase).pending) :
    callId ∈ world.waiter.pending ∨ callId = call.callId ∧ phase.resolves = true := by
  cases phase with
  | resolveCaller target =>
    simp only [waiterAfter] at hmem
    split at hmem
    · rcases List.mem_cons.mp hmem with rfl | hmem
      · exact .inr ⟨rfl, rfl⟩
      · exact .inl hmem
    · exact .inl hmem
  | awaitReply own snap =>
    simp only [waiterAfter] at hmem
    left
    split at hmem
    · exact hmem
    · exact A2aWaiter.advances_cancel.pending hmem
    · exact A2aWaiter.advances_cancel.pending hmem
  | _ => exact .inl hmem

lemma resolves_of_next (hnext : (call.next world env phase).resolves = true) :
    phase.resolves = true := by
  cases hparties : phase.parties with
  | some parties =>
    -- Past the gate there are parties up to the result.
    rcases parties_next call world env hparties with hkept | ⟨result, hresult⟩
    · simp [parties_of_resolves hnext] at hkept
    · rw [hresult] at hnext
      cases hnext
  | none =>
    cases phase with
    | resolveTarget | resolveCaller _ => rfl
    | finished _ | dropped => cases hnext
    | _ => cases hparties

end CallAgent

namespace A2aHub

/-- The condition on one step.  The call is dropped where nothing of it is left
behind, its deletion of the grant succeeds, and nobody else writes a grant row
under its key. -/
def CancelSafeStep [DecidableEq ι] (procs : Processes ι κ υ) (i : ι)
    (state : A2aHub ι κ υ) : A2aEvent ι κ υ → Prop
  | .call j env =>
    if j = i then (state.calls i).deletesGrant = true → env.ok = true
    else ((procs.call j).op (state.calls j)).grants.map Prod.snd ≠ some (procs.call i).grantKey
  | .drop j applied _ =>
    if j = i then (state.calls i).dropsClean applied = true
    else ((procs.call j).op (state.calls j)).grants.map Prod.snd ≠ some (procs.call i).grantKey
  | .user x _ =>
    ((procs.user x).op (state.users x)).grants.map Prod.snd ≠ some (procs.call i).grantKey
  | .send _ _ => True

/-- Where the traces of the call can be. -/
structure Traced (procs : Processes ι κ υ) (i : ι) (state : A2aHub ι κ υ) :
    Prop where
  unregistered : (state.calls i).resolves = true →
    state.world.waiter.delivered.lookup (procs.call i).callId = none
  answered : (state.world.waiter.delivered.lookup
      (procs.call i).callId).isSome = true →
    (procs.call i).callId ∉ state.world.waiter.pending
  pending : (state.calls i).waits = false → (procs.call i).callId ∉ state.world.waiter.pending
  rows : ∀ pair, state.world.store.GrantNamed pair (procs.call i).grantKey →
    (state.calls i).overlay.holds = true ∧
      (state.calls i).parties.map (procs.call i).pair = some pair
  memory : (state.calls i).overlay.remembers (procs.call i).grantKey = false

variable {procs : Processes ι κ υ} {i : ι} {state : A2aHub ι κ υ}

variable [DecidableEq ι] [DecidableEq κ] [DecidableEq υ] {event : A2aEvent ι κ υ}

lemma Traced.step_own (htraced : state.Traced procs i) {env : Env}
    (hok : (state.calls i).deletesGrant = true → env.ok = true) :
    (state.step procs (.call i env)).Traced procs i := by
  have hcalls : (state.step procs (.call i env)).calls i =
      (procs.call i).next state.world env (state.calls i) :=
    calls_step_call state i env
  have hwaiter : (state.step procs (.call i env)).world.waiter =
      (procs.call i).waiterAfter state.world env (state.calls i) := rfl
  refine ⟨?_, ?_, ?_, ?_, ?_⟩
  · rw [hcalls, hwaiter, waiterAfter_delivered]
    intro hnext
    exact htraced.unregistered (resolves_of_next hnext)
  · rw [hwaiter, waiterAfter_delivered]
    intro hreply hmem
    rcases mem_pending_waiterAfter hmem with hmem | ⟨-, hresolves⟩
    · exact htraced.answered hreply hmem
    · simp [htraced.unregistered hresolves] at hreply
  · rw [hcalls]
    exact waiterAfter_pending htraced.answered htraced.pending
  · intro pair hnamed
    rw [hcalls]
    rcases Store.grantNamed_attempt hnamed with hgrants | ⟨hbefore, hkept⟩
    · rcases op_grants hgrants with
        ⟨parties, snap, hphase, rfl⟩ | hremembers
      · rw [hphase]
        exact ⟨rfl, rfl⟩
      · simp [htraced.memory] at hremembers
    · obtain ⟨hholds, hpair⟩ := htraced.rows pair hbefore
      cases hdelete : (state.calls i).deletesGrant with
      | false =>
        obtain ⟨hnext, hparties⟩ := next_of_holds hholds hdelete
        rw [hparties]
        exact ⟨hnext, hpair⟩
      | true =>
        refine absurd ⟨hok hdelete, ?_⟩ hkept
        exact op_of_deletesGrant hdelete hpair
  · rw [hcalls, ← Bool.not_eq_true]
    intro hnext
    rcases remembers_next hnext with
      hremembers | ⟨parties, hphase, hnamed⟩
    · simp [htraced.memory] at hremembers
    · have hholds := (htraced.rows _ hnamed).1
      rw [hphase] at hholds
      cases hholds

/-- No other process touches the entry of the call but to take it out. -/
lemma waiter_advances (hids : ∀ j, j ≠ i → (procs.call j).callId ≠ (procs.call i).callId)
    (hother : event.ofCall i = false) :
    state.world.waiter.Advances (procs.call i).callId (state.step procs event).world.waiter := by
  cases event with
  | call j env =>
    refine ⟨?_, .inl ?_⟩
    · intro hmem
      rcases mem_pending_waiterAfter hmem with hmem | ⟨hid, -⟩
      · exact hmem
      · exact absurd hid.symm (hids j (of_decide_eq_false hother))
    · exact congrArg (fun delivered => delivered.lookup (procs.call i).callId) waiterAfter_delivered
  | send k env =>
    have hwaiter : (state.step procs (.send k env)).world.waiter =
        SendMessage.waiterAfter state.world.waiter (state.sends k) := rfl
    rw [hwaiter]
    unfold SendMessage.waiterAfter
    split
    · split
      · split
        · exact A2aWaiter.advances_resolve
        · exact A2aWaiter.advances_refl
      · exact A2aWaiter.advances_refl
    · exact A2aWaiter.advances_refl
  | user x env => exact A2aWaiter.advances_refl
  | drop j applied now =>
    rw [waiter_step_drop]
    exact A2aWaiter.advances_refl

lemma Traced.step_other (hids : ∀ j, j ≠ i → (procs.call j).callId ≠ (procs.call i).callId)
    (htraced : state.Traced procs i) (hother : event.ofCall i = false)
    (hgrants : (state.op procs event).grants.map Prod.snd ≠ some (procs.call i).grantKey) :
    (state.step procs event).Traced procs i := by
  have hadvances : state.world.waiter.Advances (procs.call i).callId
      (state.step procs event).world.waiter := waiter_advances hids hother
  have hcalls : (state.step procs event).calls i = state.calls i :=
    calls_step_of_other hother
  refine ⟨?_, ?_, ?_, ?_, ?_⟩
  · rw [hcalls]
    intro hresolves
    rcases hadvances.delivered with hsame | ⟨hmem, -⟩
    · rw [hsame]
      exact htraced.unregistered hresolves
    · refine absurd hmem (htraced.pending ?_)
      exact waits_of_resolves hresolves
  · intro hreply hmem
    rcases hadvances.delivered with hsame | ⟨-, hout⟩
    · rw [hsame] at hreply
      exact htraced.answered hreply (hadvances.pending hmem)
    · exact hout hmem
  · rw [hcalls]
    intro hwaits hmem
    exact htraced.pending hwaits (hadvances.pending hmem)
  · intro pair hnamed
    rw [store_step] at hnamed
    rw [hcalls]
    rcases Store.grantNamed_attempt hnamed with hwrites | ⟨hbefore, -⟩
    · rw [hwrites] at hgrants
      exact absurd rfl hgrants
    · exact htraced.rows pair hbefore
  · rw [hcalls]
    exact htraced.memory

lemma Traced.step_drop (htraced : state.Traced procs i) {applied : Bool}
    {now : Int} (hclean : (state.calls i).dropsClean applied = true) :
    (state.step procs (.drop i applied now)).Traced procs i := by
  have hwaits := waits_of_dropsClean hclean
  have hpending := htraced.pending hwaits
  have hrows : ∀ pair, ¬ (state.step procs (.drop i applied now)).world.store.GrantNamed pair
        (procs.call i).grantKey := by
    intro pair hnamed
    rw [store_step] at hnamed
    rcases Store.grantNamed_attempt hnamed with hwrites | ⟨hbefore, hkept⟩
    · rcases op_grants hwrites with
        ⟨parties, snap, hphase, -⟩ | hremembers
      · rw [hphase] at hwaits
        cases hwaits
      · simp [htraced.memory] at hremembers
    · obtain ⟨hholds, hpair⟩ := htraced.rows pair hbefore
      obtain ⟨hdelete, happlied⟩ :=
        deletesGrant_of_dropsClean hholds hclean
      exact hkept ⟨happlied, op_of_deletesGrant hdelete hpair⟩
  have hended : ((state.step procs (.drop i applied now)).calls i).resolves = false ∧
      ((state.step procs (.drop i applied now)).calls i).overlay = .ended := by
    rcases calls_step_drop state i applied now with ⟨result, -, hcall⟩ | hcall
    · rw [hcall]
      exact ⟨rfl, rfl⟩
    · rw [hcall]
      exact ⟨rfl, rfl⟩
  refine ⟨?_, ?_, ?_, ?_, ?_⟩
  · rw [hended.1]
    intro hresolves
    cases hresolves
  · rw [waiter_step_drop]
    exact htraced.answered
  · rw [waiter_step_drop]
    intro _
    exact hpending
  · intro pair hnamed
    exact absurd hnamed (hrows pair)
  · rw [hended.2]
    rfl

lemma Traced.step (hids : ∀ j, j ≠ i → (procs.call j).callId ≠ (procs.call i).callId)
    (state : A2aHub ι κ υ) (event : A2aEvent ι κ υ) (htraced : state.Traced procs i)
    (hsafe : state.CancelSafeStep procs i event) : (state.step procs event).Traced procs i := by
  cases event with
  | call j env =>
    by_cases hji : j = i
    · subst hji
      rw [CancelSafeStep, if_pos rfl] at hsafe
      exact htraced.step_own hsafe
    · rw [CancelSafeStep, if_neg hji] at hsafe
      exact htraced.step_other hids (decide_eq_false hji) hsafe
  | drop j applied now =>
    by_cases hji : j = i
    · subst hji
      rw [CancelSafeStep, if_pos rfl] at hsafe
      exact htraced.step_drop hsafe
    · rw [CancelSafeStep, if_neg hji] at hsafe
      exact htraced.step_other hids (decide_eq_false hji) hsafe
  | user x env => exact htraced.step_other hids rfl hsafe
  | send k env =>
    exact htraced.step_other hids rfl (by simp [op])

/-- In every run whose steps all meet the condition, a dropped call has left
nothing in the waiter map and no grant row. -/
theorem dropped_call_leaves_nothing
    (hids : ∀ j, j ≠ i → (procs.call j).callId ≠ (procs.call i).callId)
    {start : A2aHub ι κ υ} (hcall : start.calls i = CallAgent.start)
    (hpending : (procs.call i).callId ∉ start.world.waiter.pending)
    (hdelivered : start.world.waiter.delivered.lookup (procs.call i).callId = none)
    (hfresh : ∀ pair, ¬ start.world.store.GrantNamed pair (procs.call i).grantKey)
    {events : List (A2aEvent ι κ υ)}
    (hsafe : EveryStep (step procs) (CancelSafeStep procs i) start events) :
    Throughout (step procs)
      (fun state => state.calls i = .dropped → (procs.call i).callId ∉ state.world.waiter.pending ∧
          ∀ pair row, state.world.store.active.lookup pair = some row →
            row.sessionName ≠ (procs.call i).grantKey) start events := by
  refine throughout_of_everyStep ?_ (Traced.step hids) ⟨?_, ?_, ?_, ?_, ?_⟩ hsafe
  · intro state htraced hdropped
    refine ⟨htraced.pending (by rw [hdropped]; rfl), ?_⟩
    intro pair row hrow hname
    have hnamed : state.world.store.GrantNamed pair (procs.call i).grantKey := by
      rw [Store.GrantNamed, hrow, ← hname]
      rfl
    have hholds := (htraced.rows pair hnamed).1
    rw [hdropped] at hholds
    cases hholds
  · intro _
    exact hdelivered
  · intro hreply
    simp [hdelivered] at hreply
  · intro _
    exact hpending
  · intro pair hnamed
    exact absurd hnamed (hfresh pair)
  · rw [hcall]
    rfl

instance (state : A2aHub ι κ υ) :
    ∀ event, Decidable (state.CancelSafeStep procs i event) := by
  intro event
  cases event <;> dsimp only [CancelSafeStep] <;> infer_instance

end A2aHub

/-- One call and nobody else. -/
def Sample.oneCall : Processes Unit Empty Empty where
  call := fun _ => call "1"
  send := Empty.elim
  user := Empty.elim

/-- The call is dropped after so many steps. -/
def Sample.droppedAfter (n : Nat) : List (A2aEvent Unit Empty Empty) :=
  List.replicate n (.call () (tick 100)) ++ [.drop () false 100]

namespace A2aHub

set_option maxRecDepth 4000 in
theorem dropped_call_after_deletion :
    (run (step oneCall) (start oneCall (Sample.world none)) (droppedAfter 10)).calls () = .dropped ∧
      "1" ∉ (run (step oneCall) (start oneCall (Sample.world none))
        (droppedAfter 10)).world.waiter.pending := by
  have hdropped : (run (step oneCall) (start oneCall (Sample.world none))
      (droppedAfter 10)).calls () = .dropped := by
    decide
  have hids : ∀ j, j ≠ () → (oneCall.call j).callId ≠ (oneCall.call ()).callId := by
    intro j hj
    exact absurd rfl hj
  have hcall : (start oneCall (Sample.world none)).calls () = CallAgent.start := rfl
  have hrun := dropped_call_leaves_nothing hids hcall (by decide) (by decide)
    (fun pair h => nomatch h) (by decide : EveryStep _ _ _ (droppedAfter 10))
  exact ⟨hdropped, (hrun _ (List.prefix_refl _) hdropped).1⟩

set_option maxRecDepth 4000 in
/-- A call that is dropped while it waits for its reply stays in the waiter map
and keeps its grant row. -/
theorem dropped_call_keeps_grant :
    (run (step oneCall) (start oneCall (Sample.world none)) (droppedAfter 8)).calls () = .dropped ∧
      "1" ∈ (run (step oneCall) (start oneCall (Sample.world none))
        (droppedAfter 8)).world.waiter.pending ∧
      (run (step oneCall) (start oneCall (Sample.world none))
        (droppedAfter 8)).world.store.getActiveSessionRow Sample.pair =
        some ((oneCall.call ()).grantKey, 1) :=
  ⟨by decide, by decide, by decide⟩

end A2aHub

end IlinkHub
