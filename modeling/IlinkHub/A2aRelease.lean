/-
What an agent call does to the rows of a pair: its grant is an overlay of the
one row of `active_sessions`, and its release removes named sessions by the
difference of two listings.
-/
import IlinkHub.A2aHub
import IlinkHub.DiffReclaim
import IlinkHub.Overlay

namespace IlinkHub

open Store CallPhase

def ActiveRow.toRow (row : ActiveRow) : Overlay.Row String UInt8 Int :=
  ⟨row.sessionName, row.a2aDepth, row.expiresAt⟩

namespace Store

variable {store : Store} {pair : PairKey} {op : StoreOp}

/-- The grant row of a pair as a shared cell. -/
def cell (store : Store) (pair : PairKey) : Option (Overlay.Row String UInt8 Int) :=
  (store.active.lookup pair).map ActiveRow.toRow

/-- The names of the sessions of a pair. -/
def sessionNames (store : Store) (pair : PairKey) : Set String :=
  { name | (store.backend.lookup ⟨pair, name⟩).isSome = true }

lemma getActiveSessionRow_eq :
    store.getActiveSessionRow pair = (store.cell pair).map Overlay.Row.content := by
  rw [cell, Option.map_map]
  rfl

lemma cell_attempt_of_ne {ok : Bool} {now : Int} (hpair : op.activePair ≠ some pair) :
    (store.attempt ok now op).cell pair = store.cell pair := by
  rw [cell, cell, active_lookup_attempt_of_ne hpair]

lemma cell_setActiveSessionWithDepth (now : Int) (name : String) (depth : UInt8) :
    (store.attempt true now (.setActiveSessionWithDepth pair name depth)).cell pair =
      some ⟨name, depth, store.grantExpiresAt now⟩ := by
  rw [cell, attempt_ok, apply, lookup_setActiveSessionWithDepth, if_pos rfl]
  rfl

lemma cell_deleteActiveSessionIfName (now : Int) (name : String) :
    (store.attempt true now (.deleteActiveSessionIfName pair name)).cell pair =
      if (store.cell pair).map Overlay.Row.tag = some name then none
      else store.cell pair := by
  have htag : (store.cell pair).map Overlay.Row.tag =
      (store.active.lookup pair).map ActiveRow.sessionName := by
    rw [cell, Option.map_map]
    rfl
  rw [cell, attempt_ok, apply, lookup_deleteActiveSessionIfName, htag]
  by_cases hname : (store.active.lookup pair).map ActiveRow.sessionName = some name
  · rw [if_pos ⟨rfl, hname⟩, if_pos hname]
    rfl
  · rw [if_neg fun h => hname h.2, if_neg hname]
    rfl

lemma sessionNames_attempt_of_ne {ok : Bool} {now : Int}
    (hkey : ∀ name, op.backendKey ≠ some ⟨pair, name⟩) :
    (store.attempt ok now op).sessionNames pair = store.sessionNames pair := by
  ext name
  simp [sessionNames, backend_lookup_attempt_of_ne (hkey name)]

lemma sessionNames_deleteBackendSession (now : Int) (name : String) :
    (store.attempt true now (.deleteBackendSession pair name)).sessionNames pair =
      store.sessionNames pair \ {name} := by
  ext other
  simp only [sessionNames, attempt_ok, apply, lookup_deleteBackendSession]
  by_cases hother : other = name
  · simp [hother]
  · simp [hother]

/-- An operation that deletes no session adds at most the one it writes. -/
lemma sessionNames_attempt_write {ok : Bool} {now : Int}
    (hdelete : ∀ name, op ≠ .deleteBackendSession pair name) :
    (store.attempt ok now op).sessionNames pair = store.sessionNames pair ∨
      ∃ name, op.backendKey = some ⟨pair, name⟩ ∧ (store.attempt ok now op).sessionNames pair =
          insert name (store.sessionNames pair) := by
  by_cases hkey : ∀ name, op.backendKey ≠ some ⟨pair, name⟩
  · exact .inl (sessionNames_attempt_of_ne hkey)
  · obtain ⟨name, hname⟩ := not_forall_not.mp hkey
    cases ok with
    | false => exact .inl rfl
    | true =>
      refine .inr ⟨name, hname, ?_⟩
      ext other
      rw [attempt_ok]
      cases op with
      | setBackendSession target own id =>
        obtain ⟨rfl, rfl⟩ := SessionKey.mk.inj (Option.some.inj hname)
        by_cases hother : other = own <;>
          simp [sessionNames, apply, lookup_setBackendSession, hother]
      | setBackendSessionUsage target own usage =>
        obtain ⟨rfl, rfl⟩ := SessionKey.mk.inj (Option.some.inj hname)
        by_cases hother : other = own <;>
          simp [sessionNames, apply, lookup_setBackendSessionUsage, hother]
      | deleteBackendSession target own =>
        obtain ⟨rfl, rfl⟩ := SessionKey.mk.inj (Option.some.inj hname)
        exact absurd rfl (hdelete own)
      | _ => cases hname

lemma mem_sessionNames_iff {name : String} :
    name ∈ (store.listBackendSessions pair).map
        BackendSessionRow.sessionName ↔ name ∈ store.sessionNames pair :=
  mem_listBackendSessions

end Store

namespace CallPhase

/-- The call as a process of the shared grant row. -/
def overlay : CallPhase → Overlay.Stage String UInt8
  | .resolveTarget | .resolveCaller _ => .outside
  | .snapshotActive _ => .entering
  | .snapshotSessions _ prevActive => .saved prevActive
  | .grant _ snap => .saved snap.prevActive
  | .buildExt _ snap | .push _ snap _ | .notify _ snap | .awaitReply _ snap
  | .release _ snap _ .deleteGrant => .holding snap.prevActive
  | .release _ snap _ .inspect => .inspecting snap.prevActive
  | .release _ _ _ (.restore name depth) => .restoring name depth
  | .release _ _ _ .listSessions | .release _ _ _ (.reclaim _ _)
  | .notifyReply _ _ | .finished _ | .dropped => .ended

/-- The call as a process that reclaims sessions. -/
def reclaim : CallPhase → DiffReclaim.Stage String
  | .resolveTarget | .resolveCaller _ | .snapshotActive _
  | .snapshotSessions _ _ => .untaken
  | .release _ _ _ (.reclaim name rest) => .deleting (name :: rest)
  | .grant _ snap | .buildExt _ snap | .push _ snap _ | .notify _ snap
  | .awaitReply _ snap | .release _ snap _ .deleteGrant
  | .release _ snap _ .inspect | .release _ snap _ (.restore _ _)
  | .release _ snap _ .listSessions => .taken snap.preSessions
  | .notifyReply _ _ | .finished _ | .dropped => .deleting []

/-- The steps that read or delete named sessions. -/
def accessesSessions : CallPhase → Bool
  | .snapshotSessions _ _ | .release _ _ _ .listSessions
  | .release _ _ _ (.reclaim _ _) => true
  | _ => false

end CallPhase

namespace CallAgent

variable {call : CallAgent} {parties : CallParties} {snap : Snapshot}
  {outcome : CallOutcome} {world : World} {env : Env} {phase : CallPhase}

@[simp] lemma overlay_afterRelease : (afterRelease parties outcome).overlay = .ended := by
  cases outcome <;> rfl

@[simp] lemma overlay_reclaimNext (names : List String) :
    (reclaimNext parties snap outcome names).overlay = .ended := by
  cases names with
  | nil => exact overlay_afterRelease
  | cons name rest => rfl

@[simp] lemma reclaim_afterRelease : (afterRelease parties outcome).reclaim = .deleting [] := by
  cases outcome <;> rfl

@[simp] lemma reclaim_reclaimNext (names : List String) :
    (reclaimNext parties snap outcome names).reclaim = .deleting names := by
  cases names with
  | nil => exact reclaim_afterRelease
  | cons name rest => rfl

lemma next_awaitReply :
    call.next world env (.awaitReply parties snap) = .awaitReply parties snap ∨
      ∃ outcome, call.next world env (.awaitReply parties snap) =
        .release parties snap outcome .deleteGrant := by
  simp only [next]
  split
  · exact .inr ⟨_, rfl⟩
  · exact .inl rfl
  · exact .inr ⟨_, rfl⟩
  · exact .inr ⟨_, rfl⟩

/-- The release as steps of the overlay. -/
lemma overlay_release_step {stage : ReleaseStage} (hok : env.ok = true) :
    Overlay.Step call.grantKey (world.store.grantExpiresAt env.now)
      (world.store.cell (call.pair parties)) (release parties snap outcome stage).overlay
      (call.releaseNext world.store env.ok parties snap outcome stage).overlay
      ((world.store.attempt env.ok env.now
        (call.releaseOp parties stage)).cell (call.pair parties)) := by
  cases stage with
  | deleteGrant =>
    simp only [releaseOp, hok, cell_deleteActiveSessionIfName]
    exact .delete snap.prevActive
  | inspect =>
    simp only [releaseNext, releaseOp, overlay, hok, attempt_skip, getActiveSessionRow_eq]
    cases hcell : world.store.cell (call.pair parties) with
    | some row =>
      refine .keep snap.prevActive ?_
      intro hnone
      cases hnone
    | none =>
      cases hprev : snap.prevActive with
      | none => exact .keep none fun _ => rfl
      | some prev => exact .retrieve prev.1 prev.2 rfl
  | restore name depth =>
    simp only [releaseOp, hok, cell_setActiveSessionWithDepth]
    exact .restore name depth
  | listSessions =>
    have hoverlay : (call.releaseNext world.store env.ok parties snap outcome
        .listSessions).overlay = .ended := by
      simp only [releaseNext]
      split
      · exact overlay_reclaimNext _
      · exact overlay_afterRelease
    rw [hoverlay]
    simp only [releaseOp, attempt_skip]
    exact .rest
  | reclaim name rest =>
    rw [cell_attempt_of_ne (by simp [releaseOp, StoreOp.activePair])]
    simp only [releaseNext, overlay_reclaimNext]
    exact .rest

/-- Simulation: on its own pair, a step of the call is a step of the overlay. -/
lemma overlay_step_of_pair (hparties : phase.parties = some parties) (hok : env.ok = true) :
    Overlay.Step call.grantKey (world.store.grantExpiresAt env.now)
      (world.store.cell (call.pair parties)) phase.overlay (call.next world env phase).overlay
      ((world.store.attempt env.ok env.now (call.op phase)).cell (call.pair parties)) := by
  cases phase with
  | snapshotActive own =>
    cases hparties
    simp only [next, hok, getActiveSessionRow_eq]
    exact .save
  | snapshotSessions own prevActive =>
    simp only [op, attempt_skip]
    exact .wait prevActive
  | grant own snap =>
    cases hparties
    simp only [op, hok, cell_setActiveSessionWithDepth]
    exact .write snap.prevActive call.targetDepth
  | buildExt own snap | push own snap _ | notify own snap =>
    simp only [op, attempt_skip]
    exact .hold snap.prevActive
  | awaitReply own snap =>
    have hoverlay : (call.next world env (.awaitReply own snap)).overlay =
        .holding snap.prevActive := by
      rcases next_awaitReply with hnext | ⟨outcome, hnext⟩ <;> rw [hnext] <;> rfl
    rw [hoverlay]
    simp only [op, attempt_skip]
    exact .hold snap.prevActive
  | release own snap outcome stage =>
    cases hparties
    exact overlay_release_step hok
  | notifyReply own text =>
    simp only [op, attempt_skip]
    exact .rest
  | _ => cases hparties

/-- The release as steps of the reclaim. -/
lemma reclaim_release_step {stage : ReleaseStage} {ok : Bool}
    (hok : (release parties snap outcome stage).accessesSessions = true → env.ok = ok) :
    DiffReclaim.Step ok (world.store.sessionNames (call.pair parties))
      (release parties snap outcome stage).reclaim
      (call.releaseNext world.store env.ok parties snap outcome stage).reclaim
      ((world.store.attempt env.ok env.now
        (call.releaseOp parties stage)).sessionNames (call.pair parties)) := by
  cases stage with
  | inspect =>
    have hreclaim : (call.releaseNext world.store env.ok parties snap outcome
        .inspect).reclaim = .taken snap.preSessions := by
      simp only [releaseNext]
      split <;> rfl
    rw [hreclaim]
    simp only [releaseOp, attempt_skip]
    exact .hold snap.preSessions
  | listSessions =>
    have hreclaim : (release parties snap outcome
        .listSessions).reclaim = .taken snap.preSessions := rfl
    simp only [releaseNext, releaseOp, hreclaim, attempt_skip, hok rfl]
    cases hpre : snap.preSessions with
    | none =>
      rw [reclaim_afterRelease]
      exact .skip none fun _ => rfl
    | some names =>
      cases ok with
      | false =>
        rw [reclaim_afterRelease]
        refine .skip (some names) ?_
        intro htrue
        cases htrue
      | true =>
        rw [reclaim_reclaimNext]
        refine .compare names _ ?_
        intro name
        rw [List.mem_filter, mem_sessionNames_iff, decide_eq_true_eq]
  | reclaim name rest =>
    have hreclaim : (release parties snap outcome
        (.reclaim name rest)).reclaim = .deleting (name :: rest) := rfl
    simp only [releaseNext, releaseOp, reclaim_reclaimNext, hok rfl]
    cases ok with
    | true =>
      rw [sessionNames_deleteBackendSession]
      exact .delete name rest
    | false =>
      exact .deleteFailed name rest rfl
  | _ =>
    rw [sessionNames_attempt_of_ne (by simp [releaseOp, StoreOp.backendKey])]
    exact .hold snap.preSessions

/-- Simulation: on its own pair, a step of the call is a step of the reclaim.
Only the accesses to the sessions have to succeed for it to succeed. -/
lemma reclaim_step_of_pair {ok : Bool} (hparties : phase.parties = some parties)
    (hok : phase.accessesSessions = true → env.ok = ok) :
    DiffReclaim.Step ok (world.store.sessionNames (call.pair parties))
      phase.reclaim (call.next world env phase).reclaim
      ((world.store.attempt env.ok env.now (call.op phase)).sessionNames (call.pair parties)) := by
  cases phase with
  | snapshotActive own =>
    simp only [op, attempt_skip]
    exact .idle
  | snapshotSessions own prevActive =>
    cases hparties
    simp only [next, hok rfl]
    cases ok with
    | true => exact .list _ fun name => mem_sessionNames_iff
    | false => exact .listFailed rfl
  | grant own snap =>
    rw [sessionNames_attempt_of_ne (by simp [op, StoreOp.backendKey])]
    exact .hold snap.preSessions
  | buildExt own snap | push own snap _ | notify own snap =>
    simp only [op, attempt_skip]
    exact .hold snap.preSessions
  | awaitReply own snap =>
    have hreclaim : (call.next world env (.awaitReply own snap)).reclaim =
        .taken snap.preSessions := by
      rcases next_awaitReply with hnext | ⟨outcome, hnext⟩ <;> rw [hnext] <;> rfl
    rw [hreclaim]
    simp only [op, attempt_skip]
    exact .hold snap.preSessions
  | release own snap outcome stage =>
    cases hparties
    exact reclaim_release_step hok
  | notifyReply own text =>
    simp only [op, attempt_skip]
    exact .rest
  | _ => cases hparties

variable (call world env) in
lemma parties_next (hparties : phase.parties = some parties) :
    (call.next world env phase).parties = some parties ∨
      ∃ result, call.next world env phase = .finished result := by
  have hafter : ∀ outcome, (afterRelease parties outcome).parties = some parties ∨
      ∃ result, afterRelease parties outcome = .finished result := by
    intro outcome
    cases outcome with
    | reply text => exact .inl rfl
    | _ => exact .inr ⟨_, rfl⟩
  have hreclaim : ∀ snap outcome names,
      (reclaimNext parties snap outcome names).parties = some parties ∨
        ∃ result, reclaimNext parties snap outcome names =
          .finished result := by
    intro snap outcome names
    cases names with
    | nil => exact hafter outcome
    | cons name rest => exact .inl rfl
  cases phase with
  | snapshotActive own | snapshotSessions own _ | grant own _
  | buildExt own _ | push own _ _ | notify own _ => exact .inl hparties
  | awaitReply own snap =>
    left
    rcases next_awaitReply with hnext | ⟨outcome, hnext⟩ <;> rw [hnext] <;>
      exact hparties
  | release own snap outcome stage =>
    cases hparties
    cases stage with
    | inspect =>
      left
      simp only [next, releaseNext]
      split <;> rfl
    | listSessions =>
      simp only [next, releaseNext]
      split
      · exact hreclaim snap outcome _
      · exact hafter outcome
    | reclaim name rest => exact hreclaim snap outcome rest
    | _ => exact .inl rfl
  | notifyReply own text => exact .inr ⟨_, rfl⟩
  | _ => cases hparties

/-- The call is about another pair. -/
def elsewhere (call : CallAgent) (pair : PairKey) (phase : CallPhase) : Bool :=
  match phase.parties with
  | some parties => decide (call.pair parties ≠ pair)
  | none => false

/-- The two views of a call, seen from one pair. -/
def overlayAt (call : CallAgent) (pair : PairKey) (phase : CallPhase) :
    Overlay.Stage String UInt8 :=
  if call.elsewhere pair phase then .ended else phase.overlay

def reclaimAt (call : CallAgent) (pair : PairKey) (phase : CallPhase) : DiffReclaim.Stage String :=
  if call.elsewhere pair phase then .deleting [] else phase.reclaim

variable {pair : PairKey} {phase : CallPhase}

lemma elsewhere_eq_false (hparties : phase.parties = some parties) :
    call.elsewhere (call.pair parties) phase = false := by
  simp [elsewhere, hparties]

lemma elsewhere_eq_true (hparties : phase.parties = some parties)
    (hpair : call.pair parties ≠ pair) : call.elsewhere pair phase = true := by
  simp [elsewhere, hparties, hpair]

/-- On its own pair a call is seen as it is, up to the result. -/
lemma views_next_of_pair (hparties : phase.parties = some parties) :
    call.overlayAt (call.pair parties) (call.next world env phase) =
        (call.next world env phase).overlay ∧
      call.reclaimAt (call.pair parties) (call.next world env phase) =
        (call.next world env phase).reclaim := by
  rcases parties_next call world env hparties with hnext | ⟨result, hnext⟩
  · rw [overlayAt, reclaimAt, elsewhere_eq_false hnext]
    exact ⟨rfl, rfl⟩
  · rw [hnext]
    exact ⟨rfl, rfl⟩

/-- Seen from the pair the call has not begun, begins, or has ended. -/
def Idle (call : CallAgent) (pair : PairKey) (phase : CallPhase) : Prop :=
  call.overlayAt pair phase = .outside ∧ call.reclaimAt pair phase = .untaken

def Begins (call : CallAgent) (pair : PairKey) (phase : CallPhase) : Prop :=
  call.overlayAt pair phase = .entering ∧ call.reclaimAt pair phase = .untaken

def Done (call : CallAgent) (pair : PairKey) (phase : CallPhase) : Prop :=
  call.overlayAt pair phase = .ended ∧ call.reclaimAt pair phase = .deleting []

lemma done_of_elsewhere (hparties : phase.parties = some parties)
    (hpair : call.pair parties ≠ pair) : call.Done pair phase := by
  rw [Done, overlayAt, reclaimAt, elsewhere_eq_true hparties hpair]
  exact ⟨rfl, rfl⟩

lemma views_of_not_done (hdone : ¬ call.Done pair phase) :
    call.overlayAt pair phase = phase.overlay ∧ call.reclaimAt pair phase = phase.reclaim ∧
      ∀ parties, phase.parties = some parties → call.pair parties = pair := by
  have hhere : call.elsewhere pair phase = false := by
    rw [← Bool.not_eq_true]
    intro helsewhere
    apply hdone
    rw [Done, overlayAt, reclaimAt, helsewhere]
    exact ⟨rfl, rfl⟩
  refine ⟨by rw [overlayAt, hhere]; rfl, by rw [reclaimAt, hhere]; rfl, ?_⟩
  intro parties hparties
  by_contra hpair
  simp [elsewhere_eq_true hparties hpair] at hhere

/-- A call about another pair stays out of sight. -/
lemma done_next_of_elsewhere (hparties : phase.parties = some parties)
    (hpair : call.pair parties ≠ pair) : call.Done pair (call.next world env phase) := by
  rcases parties_next call world env hparties with hnext | ⟨result, hnext⟩
  · exact done_of_elsewhere hnext hpair
  · rw [hnext]
    exact ⟨rfl, rfl⟩

lemma op_eq_skip (hparties : phase.parties = none) : call.op phase = .skip := by
  cases phase with
  | resolveTarget | resolveCaller _ | finished _ | dropped => rfl
  | _ => cases hparties

lemma pending_overlayAt (hparties : phase.parties = none) :
    (call.overlayAt pair phase).pending = none := by
  cases phase with
  | resolveTarget | resolveCaller _ | finished _ | dropped => rfl
  | _ => cases hparties

/-- What such a call can become. -/
lemma idle_or_done (hparties : phase.parties = none) :
    call.Done pair phase ∧ call.Done pair (call.next world env phase) ∨ call.Idle pair phase ∧
        (call.Idle pair (call.next world env phase) ∨ call.Begins pair (call.next world env phase) ∨
          call.Done pair (call.next world env phase)) := by
  cases phase with
  | resolveTarget =>
    refine .inr ⟨⟨rfl, rfl⟩, ?_⟩
    simp only [next]
    split
    · exact .inl ⟨rfl, rfl⟩
    · exact .inr (.inr ⟨rfl, rfl⟩)
  | resolveCaller target =>
    refine .inr ⟨⟨rfl, rfl⟩, ?_⟩
    simp only [next, gate]
    right
    split
    · -- The gate is passed: the pair of the call is known from here on.
      generalize hown : CallParties.mk target _ _ _ = own
      by_cases hpair : call.pair own = pair
      · subst hpair
        left
        rw [Begins, overlayAt, reclaimAt, elsewhere_eq_false rfl]
        exact ⟨rfl, rfl⟩
      · exact .inr (done_of_elsewhere rfl hpair)
    · exact .inr ⟨rfl, rfl⟩
  | finished result => exact .inl ⟨⟨rfl, rfl⟩, rfl, rfl⟩
  | dropped => exact .inl ⟨⟨rfl, rfl⟩, rfl, rfl⟩
  | _ => cases hparties

lemma rows_of_elsewhere (hparties : phase.parties = some parties)
    (hpair : call.pair parties ≠ pair) (store : Store) (ok : Bool) (now : Int) :
    (store.attempt ok now (call.op phase)).cell pair = store.cell pair ∧
      (store.attempt ok now (call.op phase)).sessionNames pair = store.sessionNames pair := by
  constructor
  · refine cell_attempt_of_ne ?_
    intro hop
    obtain ⟨own, hown, rfl⟩ := op_activePair hop
    rw [hparties] at hown
    exact hpair (congrArg call.pair (Option.some.inj hown))
  · refine sessionNames_attempt_of_ne ?_
    intro name hop
    obtain ⟨own, snap, outcome, rest, rfl, hown⟩ := op_backendKey hop
    cases hparties
    exact hpair hown

/-- Simulation, seen from any pair. -/
lemma overlayAt_step (call : CallAgent) (pair : PairKey) (phase : CallPhase)
    (world : World) {env : Env} (hok : env.ok = true) :
    Overlay.Step call.grantKey (world.store.grantExpiresAt env.now) (world.store.cell pair)
      (call.overlayAt pair phase) (call.overlayAt pair (call.next world env phase))
      ((world.store.attempt env.ok env.now (call.op phase)).cell pair) := by
  cases hparties : phase.parties with
  | none =>
    rw [op_eq_skip hparties, attempt_skip]
    rcases idle_or_done hparties with
      ⟨hdone, hnext⟩ | ⟨hidle, hnext | hnext | hnext⟩
    · rw [hdone.1, hnext.1]
      exact .rest
    · rw [hidle.1, hnext.1]
      exact .idle
    · rw [hidle.1, hnext.1]
      exact .enter
    · rw [hidle.1, hnext.1]
      exact .reject
  | some parties =>
    by_cases hpair : call.pair parties = pair
    · subst hpair
      rw [(views_next_of_pair hparties).1, overlayAt, elsewhere_eq_false hparties]
      exact overlay_step_of_pair hparties hok
    · rw [(done_of_elsewhere hparties hpair).1, (done_next_of_elsewhere hparties hpair).1,
        (rows_of_elsewhere hparties hpair _ _ _).1]
      exact .rest

lemma reclaimAt_step (call : CallAgent) (pair : PairKey) (phase : CallPhase)
    (world : World) {env : Env} {ok : Bool} (hok : phase.accessesSessions = true → env.ok = ok) :
    DiffReclaim.Step ok (world.store.sessionNames pair) (call.reclaimAt pair phase)
      (call.reclaimAt pair (call.next world env phase))
      ((world.store.attempt env.ok env.now (call.op phase)).sessionNames pair) := by
  cases hparties : phase.parties with
  | none =>
    rw [op_eq_skip hparties, attempt_skip]
    rcases idle_or_done hparties with
      ⟨hdone, hnext⟩ | ⟨hidle, hnext | hnext | hnext⟩
    · rw [hdone.2, hnext.2]
      exact .rest
    · rw [hidle.2, hnext.2]
      exact .idle
    · rw [hidle.2, hnext.2]
      exact .idle
    · rw [hidle.2, hnext.2]
      exact .reject
  | some parties =>
    by_cases hpair : call.pair parties = pair
    · subst hpair
      rw [(views_next_of_pair hparties).2, reclaimAt, elsewhere_eq_false hparties]
      exact reclaim_step_of_pair hparties hok
    · rw [(done_of_elsewhere hparties hpair).2, (done_next_of_elsewhere hparties hpair).2,
        (rows_of_elsewhere hparties hpair _ _ _).2]
      exact .rest

end CallAgent

namespace A2aHub

universe u v w

variable {ι : Type u} {κ : Type v} {υ : Type w}

/-- The calls as processes of the grant row of a pair. -/
def overlays (procs : Processes ι κ υ) (pair : PairKey)
    (state : A2aHub ι κ υ) (i : ι) : Overlay.Stage String UInt8 :=
  (procs.call i).overlayAt pair (state.calls i)

/-- The reclaim of call `i`, seen from a pair. -/
def reclaimOf (procs : Processes ι κ υ) (i : ι) (pair : PairKey)
    (state : A2aHub ι κ υ) : DiffReclaim.Stage String :=
  (procs.call i).reclaimAt pair (state.calls i)

variable {procs : Processes ι κ υ} {i : ι} {pair : PairKey}
  {state : A2aHub ι κ υ} {event : A2aEvent ι κ υ}

variable [DecidableEq ι] [DecidableEq κ] [DecidableEq υ]

lemma overlays_step_call (state : A2aHub ι κ υ) (i : ι) (env : Env) :
    (state.step procs (.call i env)).overlays procs pair =
      Function.update (state.overlays procs pair) i ((procs.call i).overlayAt pair
          ((procs.call i).next state.world env (state.calls i))) := by
  funext j
  by_cases hji : j = i
  · subst hji
    rw [Function.update_self, overlays, calls_step_call]
  · rw [Function.update_of_ne hji, overlays, calls_step_call_of_ne hji]
    rfl

lemma overlays_step_of_other (hother : event.ofCall i = false) :
    (state.step procs event).overlays procs pair i = state.overlays procs pair i := by
  rw [overlays, overlays, calls_step_of_other hother]

lemma reclaimOf_step_of_other (hother : event.ofCall i = false) :
    (state.step procs event).reclaimOf procs i pair = state.reclaimOf procs i pair := by
  rw [reclaimOf, reclaimOf, calls_step_of_other hother]

lemma reclaimOf_step_drop (state : A2aHub ι κ υ) (i : ι) (applied : Bool) (now : Int) :
    (state.step procs (.drop i applied now)).reclaimOf procs i pair = .deleting [] := by
  rw [reclaimOf]
  rcases calls_step_drop state i applied now with ⟨result, -, hcall⟩ | hcall
  · rw [hcall]
    rfl
  · rw [hcall]
    rfl

end A2aHub

end IlinkHub
