/-
Concurrent agent calls on one pair: when the grant row is back to what it was
before the first of them.
-/
import Mathlib.Data.Fintype.Defs
import IlinkHub.A2aRelease

namespace IlinkHub

open Transition Store

universe u v w

variable {ι : Type u} {κ : Type v} {υ : Type w}

lemma CallAgent.grantKey_injective {left right : CallAgent}
    (hkeys : left.grantKey = right.grantKey) : left.callId = right.callId := by
  have hlists := congrArg String.toList hkeys
  rw [grantKey, grantKey, String.toList_append, String.toList_append] at hlists
  exact String.toList_injective (List.append_cancel_left hlists)

lemma CallAgent.snapshotActive_of_entering {call : CallAgent} {pair : PairKey} {phase : CallPhase}
    (hentering : call.overlayAt pair phase = .entering) :
    ∃ parties, phase = .snapshotActive parties ∧ call.pair parties = pair := by
  have hdone : ¬ call.Done pair phase := by
    rintro ⟨hended, -⟩
    simp [hended] at hentering
  obtain ⟨hview, -, hpair⟩ := views_of_not_done hdone
  rw [hview] at hentering
  cases phase with
  | snapshotActive parties => exact ⟨parties, rfl, hpair parties rfl⟩
  | release own snap outcome stage => cases stage <;> cases hentering
  | _ => cases hentering

/-- Only the deletion makes a call give its row up. -/
lemma CallAgent.deleteGrant_of_holds {call : CallAgent}
    {pair : PairKey} {phase : CallPhase} {world : World} {env : Env}
    (hholds : (call.overlayAt pair phase).holds = true)
    (hnext : (call.overlayAt pair (call.next world env phase)).holds = false) :
    ∃ parties snap outcome,
      phase = .release parties snap outcome .deleteGrant ∧ call.pair parties = pair := by
  cases hparties : phase.parties with
  | none =>
    exact absurd (pending_overlayAt hparties) (Overlay.Stage.pending_of_holds hholds)
  | some parties =>
    by_cases hpair : call.pair parties = pair
    · subst hpair
      rw [overlayAt, elsewhere_eq_false hparties] at hholds
      rw [(views_next_of_pair hparties).1] at hnext
      cases phase with
      | release own snap outcome stage =>
        obtain rfl := Option.some.inj hparties
        cases stage with
        | deleteGrant => exact ⟨own, snap, outcome, rfl, rfl⟩
        | _ => cases hholds
      | buildExt _ _ | push _ _ _ | notify _ _ => cases hnext
      | awaitReply own snap =>
        rcases next_awaitReply with hwait | ⟨outcome, hwait⟩
        · rw [hwait] at hnext
          cases hnext
        · rw [hwait] at hnext
          cases hnext
      | _ => cases hholds
    · rw [(done_of_elsewhere hparties hpair).1] at hholds
      cases hholds

namespace A2aHub

/-- No call is past the gate and unfinished. -/
def Quiet (state : A2aHub ι κ υ) : Prop :=
  ∀ i, (state.calls i).parties = none

/-- What a step of call `i` has to meet.  It reads its snapshot when the pair has
a row, unless the pair had none before the first call, and it deletes its grant
when no other call has that grant in its snapshot. -/
def NestedCall (procs : Processes ι κ υ) (pair : PairKey)
    (original : Option (String × UInt8)) (state : A2aHub ι κ υ) (i : ι) :
    CallPhase → Prop
  | .snapshotActive parties =>
    (procs.call i).pair parties = pair →
      state.world.store.getActiveSessionRow pair = none → original = none
  | .release parties _ _ .deleteGrant =>
    (procs.call i).pair parties = pair → ∀ j, j ≠ i →
      (state.overlays procs pair j).remembers (procs.call i).grantKey = false
  | _ => True

/-- The condition on one step.  Nobody but calls writes the row, the store
answers, and no call is dropped. -/
def NestedStep (procs : Processes ι κ υ) (pair : PairKey)
    (original : Option (String × UInt8)) (state : A2aHub ι κ υ) :
    A2aEvent ι κ υ → Prop
  | .call i env =>
    env.ok = true ∧ state.NestedCall procs pair original i (state.calls i)
  | .user x _ => ((procs.user x).op (state.users x)).activePair ≠ some pair
  | .send _ _ => True
  | .drop _ _ _ => False

variable {procs : Processes ι κ υ} {pair : PairKey} {state : A2aHub ι κ υ}

variable [DecidableEq ι] [DecidableEq κ] [DecidableEq υ] {original : Option (String × UInt8)}

/-- A step of a call keeps the invariant of the shared row. -/
lemma inv_step_call (hids : Function.Injective fun j => (procs.call j).callId)
    (hfresh : ∀ j depth, original ≠ some ((procs.call j).grantKey, depth))
    (hinv : Overlay.Inv (fun j => (procs.call j).grantKey) original
      (state.overlays procs pair) (state.world.store.cell pair)) {i : ι} {env : Env}
    (hnested : state.NestedStep procs pair original (.call i env)) :
    Overlay.Inv (fun j => (procs.call j).grantKey) original
      ((state.step procs (.call i env)).overlays procs pair)
      ((state.step procs (.call i env)).world.store.cell pair) := by
  obtain ⟨hok, hphase⟩ := hnested
  rw [overlays_step_call]
  refine hinv.step (fun j k hkeys => hids (CallAgent.grantKey_injective hkeys)) hfresh
    ((procs.call i).overlayAt_step pair (state.calls i) state.world hok) ?_ ?_
  · intro hentering hcell
    obtain ⟨parties, hactive, hpair⟩ :=
      CallAgent.snapshotActive_of_entering hentering
    rw [hactive] at hphase
    refine hphase hpair ?_
    rw [getActiveSessionRow_eq, hcell]
    rfl
  · intro hholds hnext
    obtain ⟨parties, snap, outcome, hdelete, hpair⟩ :=
      CallAgent.deleteGrant_of_holds hholds hnext
    rw [hdelete] at hphase
    exact hphase hpair

/-- A step that meets the condition keeps the invariant of the shared row. -/
lemma inv_step (hids : Function.Injective fun j => (procs.call j).callId)
    (hfresh : ∀ j depth, original ≠ some ((procs.call j).grantKey, depth))
    (state : A2aHub ι κ υ) (event : A2aEvent ι κ υ)
    (hinv : Overlay.Inv (fun j => (procs.call j).grantKey) original
      (state.overlays procs pair) (state.world.store.cell pair))
    (hnested : state.NestedStep procs pair original event) :
    Overlay.Inv (fun j => (procs.call j).grantKey) original
      ((state.step procs event).overlays procs pair)
      ((state.step procs event).world.store.cell pair) := by
  cases event with
  | call i env => exact inv_step_call hids hfresh hinv hnested
  | send k env =>
    rw [store_step, cell_attempt_of_ne]
    · exact hinv
    · simp [op]
  | user x env =>
    rw [store_step, cell_attempt_of_ne]
    · exact hinv
    · exact hnested
  | drop i applied now => exact hnested.elim

/-- In every run whose steps all meet the condition, the pair has its old
session name and depth back whenever no call is under way, and no row of a call
is left. -/
theorem rollback_of_nested (pair : PairKey)
    (hids : Function.Injective fun j => (procs.call j).callId)
    {start : A2aHub ι κ υ} (hstart : ∀ i, start.calls i = CallAgent.start)
    (hfresh : ∀ j depth, start.world.store.getActiveSessionRow pair ≠
      some ((procs.call j).grantKey, depth)) {events : List (A2aEvent ι κ υ)}
    (hnested : EveryStep (step procs)
      (NestedStep procs pair (start.world.store.getActiveSessionRow pair)) start events) :
    Throughout (step procs) (fun state => state.Quiet → state.world.store.getActiveSessionRow pair =
            start.world.store.getActiveSessionRow pair ∧
          ∀ i row, state.world.store.active.lookup pair = some row →
            row.sessionName ≠ (procs.call i).grantKey) start events := by
  refine throughout_of_everyStep ?_ (inv_step hids hfresh) ?_ hnested
  · intro state hinv hquiet
    have hrow : state.world.store.getActiveSessionRow pair =
        start.world.store.getActiveSessionRow pair := by
      rw [getActiveSessionRow_eq]
      exact hinv.content_eq fun i => CallAgent.pending_overlayAt (hquiet i)
    refine ⟨hrow, ?_⟩
    rintro i row hlookup hname
    refine hfresh i row.a2aDepth ?_
    rw [← hrow, getActiveSessionRow, hlookup, ← hname]
    rfl
  · refine Overlay.inv_of_pending_none ?_ getActiveSessionRow_eq.symm
    intro i
    rw [overlays, hstart i]
    rfl

instance [Fintype ι] (original : Option (String × UInt8)) (i : ι) :
    ∀ phase, Decidable (state.NestedCall procs pair original i phase)
  | .snapshotActive _ => inferInstanceAs (Decidable (_ → _ → _))
  | .release parties _ _ .deleteGrant =>
    inferInstanceAs (Decidable ((procs.call i).pair parties = pair →
      ∀ j, j ≠ i → (state.overlays procs pair j).remembers (procs.call i).grantKey = false))
  | .release _ _ _ .inspect | .release _ _ _ (.restore _ _)
  | .release _ _ _ .listSessions | .release _ _ _ (.reclaim _ _)
  | .resolveTarget | .resolveCaller _ | .snapshotSessions _ _ | .grant _ _
  | .buildExt _ _ | .push _ _ _ | .notify _ _ | .awaitReply _ _
  | .notifyReply _ _ | .finished _ | .dropped => isTrue trivial

instance [Fintype ι] (original : Option (String × UInt8)) :
    ∀ event, Decidable (state.NestedStep procs pair original event)
  | .call _ _ => inferInstanceAs (Decidable (_ ∧ _))
  | .user _ _ => inferInstanceAs (Decidable (_ ≠ _))
  | .send _ _ => isTrue trivial
  | .drop _ _ _ => isFalse id

end A2aHub

namespace Sample

/-- Two calls on the pair, which has the session `work` active. -/
def twoCalls : Processes Bool Empty Empty where
  call := fun i => call (if i then "1" else "2")
  send := Empty.elim
  user := Empty.elim

def beforeCalls : A2aHub Bool Empty Empty :=
  .start twoCalls (world (some ⟨"work", 0, 1000⟩))

def steps (i : Bool) (n : Nat) : List (A2aEvent Bool Empty Empty) :=
  List.replicate n (.call i (tick 100))

/-- The second call runs while the first one waits for its reply. -/
def nestedCalls : List (A2aEvent Bool Empty Empty) :=
  steps true 5 ++ steps false 13 ++ steps true 8

/-- The second call starts after the grant of the first and ends after its
release. -/
def crossedCalls : List (A2aEvent Bool Empty Empty) :=
  steps true 5 ++ steps false 5 ++ steps true 9 ++ steps false 9

end Sample

open Sample

namespace A2aHub

set_option maxRecDepth 4000 in
theorem rollback_of_nested_two_calls :
    (run (step twoCalls) beforeCalls nestedCalls).Quiet ∧
      (run (step twoCalls) beforeCalls nestedCalls).world.store.getActiveSessionRow pair =
        some ("work", 0) := by
  have hquiet : (run (step twoCalls) beforeCalls nestedCalls).Quiet := by
    intro i
    cases i <;> decide
  have hids : Function.Injective fun j => (twoCalls.call j).callId := by
    intro i j
    cases i <;> cases j <;> decide
  have hfresh : ∀ i depth, beforeCalls.world.store.getActiveSessionRow pair ≠
        some ((twoCalls.call i).grantKey, depth) := by
    intro i depth hrow
    have hname : (beforeCalls.world.store.getActiveSessionRow
        pair).map Prod.fst = some (twoCalls.call i).grantKey := by
      rw [hrow]
      rfl
    revert hname
    cases i <;> decide
  refine ⟨hquiet, ?_⟩
  have hrun := rollback_of_nested pair hids (fun _ => rfl) hfresh
    (by decide : EveryStep _ _ _ nestedCalls)
  exact (hrun _ (List.prefix_refl _) hquiet).1

set_option maxRecDepth 4000 in
/-- Calls that overlap without nesting leave the row of the first one. -/
theorem crossed_calls_leave_grant :
    (∀ event ∈ crossedCalls, event.ok = true) ∧ (∀ i, ∃ result, (run (step twoCalls)
        beforeCalls crossedCalls).calls i = .finished result) ∧
      (run (step twoCalls) beforeCalls crossedCalls).world.store.getActiveSessionRow
        pair = some ((twoCalls.call true).grantKey, 1) := by
  refine ⟨by decide, ?_, by decide⟩
  intro i
  cases i <;> exact ⟨_, rfl⟩

end A2aHub

end IlinkHub
