/-
A routed user message that is dispatched while an agent call to the same pair
holds its grant: whether the grant of the message survives the release.
-/
import IlinkHub.A2aOneShot
import IlinkHub.A2aShadow

namespace IlinkHub

open Store Transition

universe u v w x

variable {ι : Type u} {κ : Type v} {υ : Type w} {δ : Type x}

/-- The session of a message that is dispatched while the row of the pair has
the name `key`. -/
def Forward.guestName (forward : Forward) (key : String) : String :=
  (forward.sessionOverride.filter fun name => name ≠ "").getD key

lemma Forward.sessionOf_hubExt (forward : Forward) {store : Store}
    {pair : PairKey} {key : String} (hname : store.grantName pair = some key) :
    Inbound.sessionOf (buildHubExtForVctx store pair forward.sessionOverride
      true) = forward.guestName key := by
  unfold buildHubExtForVctx guestName
  cases forward.sessionOverride.filter fun name => decide (name ≠ "") with
  | none =>
    simp [Inbound.sessionOf, getHubExtSingle, ← grantName.eq_1, hname]
  | some name => rfl

/-- Where the grant row of the pair stands, by the progress of the message: the
call is alone with it until the message writes its own grant. -/
def Forward.Hosting (pair : PairKey) (key guest : String) (own : Option String)
    (Fresh : Int → Prop) (cell : Option (Overlay.Row String UInt8 Int))
    (stage : Overlay.Stage String UInt8) : ForwardPhase → Prop
  | .resolve | .readExt _ => Overlay.Shows key own cell stage
  | .grant vctx hubExt =>
    Overlay.Shows key own cell stage ∧ (vctx = pair.vctx → Inbound.sessionOf hubExt = guest)
  | .push vctx _ =>
    vctx = pair.vctx → Overlay.Hosted key guest own Fresh cell stage
  | .finished none => True
  | .finished (some msg) =>
    msg.contextToken = some pair.vctx → Overlay.Hosted key guest own Fresh cell stage

/-- A step of the call, wherever the message stands. -/
lemma Forward.Hosting.step {pair : PairKey} {key guest : String} {own : Option String}
    {Fresh : Int → Prop} {stamp : Int} {cell cell' : Option (Overlay.Row String UInt8 Int)}
    {stage next : Overlay.Stage String UInt8} {phase : ForwardPhase}
    (hhosting : Hosting pair key guest own Fresh cell stage phase)
    (hstep : Overlay.Step key stamp cell stage next cell') (hstamp : Fresh stamp) :
    Hosting pair key guest own Fresh cell' next phase := by
  cases phase with
  | grant vctx hubExt => exact ⟨hhosting.1.step hstep, hhosting.2⟩
  | push vctx hubExt => exact fun hvctx => (hhosting hvctx).step hstep hstamp
  | finished pushed =>
    cases pushed with
    | none => trivial
    | some msg => exact fun hctx => (hhosting hctx).step hstep hstamp
  | _ => exact Overlay.Shows.step hhosting hstep

namespace DispatchHub

/-- The message is dispatched while the grant of call `i` is in place, the store
answers both of them, and nobody else writes the grant row of the pair. -/
def DispatchedWhileHeld [DecidableEq ι] [DecidableEq δ]
    (procs : DispatchProcesses ι κ υ δ) (i : ι) (d : δ) (pair : PairKey)
    (state : DispatchHub ι κ υ δ) : DispatchEvent ι κ υ δ → Prop
  | .hub (.call j env) =>
    if j = i then env.ok = true
    else ((procs.call j).op (state.hub.calls j)).activePair ≠ some pair
  | .hub (.send _ _) => True
  | .hub (.user x _) =>
    ((procs.user x).op (state.hub.users x)).activePair ≠ some pair
  | .hub (.drop j _ _) =>
    j ≠ i ∧ ((procs.call j).op (state.hub.calls j)).activePair ≠ some pair
  | .forward e env =>
    if e = d then
      env.ok = true ∧ (state.hub.overlays procs.toProcesses pair i).holds = true
    else ((procs.forward e).op (state.forwards e)).activePair ≠ some pair

/-- Besides, a grant written at this step is still live at `now`. -/
def HostedStep [DecidableEq ι] [DecidableEq δ]
    (procs : DispatchProcesses ι κ υ δ) (i : ι) (d : δ) (pair : PairKey)
    (now : Int) (state : DispatchHub ι κ υ δ) (event : DispatchEvent ι κ υ δ) : Prop :=
  now < state.store.grantExpiresAt event.now ∧ state.DispatchedWhileHeld procs i d pair event

/-- The grant row of the pair beside the call and the message. -/
def Hosting (procs : DispatchProcesses ι κ υ δ) (i : ι) (d : δ)
    (pair : PairKey) (initial : Store) (now : Int) (state : DispatchHub ι κ υ δ) : Prop :=
  Forward.Hosting pair (procs.call i).grantKey ((procs.forward d).guestName (procs.call i).grantKey)
    (initial.grantName pair) (now < ·) (state.store.cell pair)
    (state.hub.overlays procs.toProcesses pair i) (state.forwards d)

variable {procs : DispatchProcesses ι κ υ δ} {i : ι} {d : δ} {pair : PairKey}
  {initial : Store} {now : Int} {state : DispatchHub ι κ υ δ}

variable [DecidableEq ι] [DecidableEq κ] [DecidableEq υ] [DecidableEq δ]

section Steps

variable (hhosting : Hosting procs i d pair initial now state)

include hhosting

/-- An event of somebody else. -/
lemma Hosting.step_other
    {event : DispatchEvent ι κ υ δ} (hactive : (state.op procs event).activePair ≠ some pair)
    (hcalls : (state.step procs event).hub.calls i = state.hub.calls i)
    (hforward : (state.step procs event).forwards d = state.forwards d) :
    Hosting procs i d pair initial now (state.step procs event) := by
  rw [Hosting, (sameGrants_step state event).cell, cell_attempt_of_ne hactive,
    A2aHub.overlays, hcalls, hforward]
  exact hhosting

lemma Hosting.step_call {env : Env}
    (hok : env.ok = true) (hlive : now < state.store.grantExpiresAt env.now) :
    Hosting procs i d pair initial now (state.step procs (.hub (.call i env))) := by
  have hstage : (state.step procs (.hub (.call i env))).hub.overlays
      procs.toProcesses pair i = (procs.call i).overlayAt pair
        ((procs.call i).next state.hub.world env (state.hub.calls i)) := by
    rw [step, A2aHub.overlays_step_call, Function.update_self]
  rw [Hosting, hstage]
  exact .step hhosting ((procs.call i).overlayAt_step pair _ state.hub.world hok) hlive

/-- The message takes the row as the call left it for its session, and puts its
own grant in its place. -/
lemma Hosting.step_message
    (hvtoken : (procs.forward d).vtoken = pair.vtoken) {env : Env} (hok : env.ok = true)
    (hholds : (state.hub.overlays procs.toProcesses pair i).holds = true)
    (hlive : now < state.store.grantExpiresAt env.now) :
    Hosting procs i d pair initial now (state.step procs (.forward d env)) := by
  have hrow := hhosting
  have hcell : (state.step procs (.forward d env)).store.cell pair =
      (state.store.attempt env.ok env.now ((procs.forward d).op (state.forwards d))).cell pair :=
    (sameGrants_step state _).cell pair
  have hpair : ∀ vctx, vctx = pair.vctx → (procs.forward d).pair vctx = pair := by
    rintro vctx rfl
    rw [Forward.pair, hvtoken]
  obtain ⟨prev, hstage⟩ : ∃ prev, state.hub.overlays procs.toProcesses pair i = .holding prev := by
    revert hholds
    cases state.hub.overlays procs.toProcesses pair i with
    | holding prev => exact fun _ => ⟨prev, rfl⟩
    | _ =>
      intro h
      cases h
  have hoverlay : (state.step procs (.forward d env)).hub.overlays
      procs.toProcesses pair i = .holding prev := hstage
  rw [Hosting, forwards_step_forward, hoverlay, hcell]
  rw [Hosting, hstage] at hrow
  cases hphase : state.forwards d with
  | resolve =>
    rw [hphase] at hrow
    simp only [Forward.op, attempt_skip, Forward.next]
    split
    · exact hrow
    · trivial
  | readExt vctx =>
    rw [hphase] at hrow
    simp only [Forward.op, attempt_skip]
    refine ⟨hrow, ?_⟩
    intro hvctx
    rw [hpair vctx hvctx, hok]
    refine (procs.forward d).sessionOf_hubExt ?_
    rw [← map_tag_cell]
    exact hrow.tag
  | grant vctx hubExt =>
    rw [hphase] at hrow
    intro hvctx
    simp only [Forward.op, hpair vctx hvctx, hok, cell_setActiveSessionWithDepth]
    refine ⟨hrow.1.saved prev rfl, ?_, ?_⟩
    · exact congrArg some (hrow.2 hvctx)
    · exact ⟨fun _ => ⟨_, rfl, hlive⟩, absurd trivial⟩
  | push vctx hubExt =>
    rw [hphase] at hrow
    simp only [Forward.op, attempt_skip]
    intro hctx
    exact hrow (Option.some.inj hctx)
  | finished pushed =>
    rw [hphase] at hrow
    simp only [Forward.op, attempt_skip]
    exact hrow

end Steps

lemma Hosting.step (hvtoken : (procs.forward d).vtoken = pair.vtoken)
    (state : DispatchHub ι κ υ δ) (event : DispatchEvent ι κ υ δ)
    (hhosting : Hosting procs i d pair initial now state)
    (hstep : state.HostedStep procs i d pair now event) :
    Hosting procs i d pair initial now (state.step procs event) := by
  obtain ⟨hlive, hcond⟩ := hstep
  cases event with
  | hub event =>
    cases event with
    | call j env =>
      by_cases hji : j = i
      · subst hji
        rw [DispatchedWhileHeld, if_pos rfl] at hcond
        exact hhosting.step_call hcond hlive
      · rw [DispatchedWhileHeld, if_neg hji] at hcond
        refine hhosting.step_other hcond (calls_step_of_other ?_) rfl
        exact decide_eq_false hji
    | send k env => exact hhosting.step_other (by simp [op, A2aHub.op]) rfl rfl
    | user x env => exact hhosting.step_other hcond rfl rfl
    | drop j applied now' =>
      refine hhosting.step_other hcond.2 (calls_step_of_other ?_) rfl
      exact decide_eq_false hcond.1
  | forward e env =>
    by_cases hed : e = d
    · subst hed
      rw [DispatchedWhileHeld, if_pos rfl] at hcond
      exact hhosting.step_message hvtoken hcond.1 hcond.2 hlive
    · rw [DispatchedWhileHeld, if_neg hed] at hcond
      exact hhosting.step_other hcond rfl (forwards_step_forward_of_ne (.symm hed) env)

/-- The grant of a message that is dispatched under the grant of a call survives
the release, and so does the ownership, exactly if there was a grant before the
call, the message was pinned to a session of its own, or the pair has a named
session anyway. -/
theorem owns_after_release_iff {start : DispatchHub ι κ υ δ}
    (hcall : start.hub.calls i = CallAgent.start) (hforward : start.forwards d = Forward.start)
    (hvtoken : (procs.forward d).vtoken = pair.vtoken) {events : List (DispatchEvent ι κ υ δ)}
    (hhosted : EveryStep (step procs) (HostedStep procs i d pair now) start events)
    {msg : WeixinMessage}
    (hdone : (run (step procs) start events).forwards d = .finished (some msg))
    (hvctx : msg.contextToken = some pair.vctx)
    (hreleased : (run (step procs) start events).hub.overlays procs.toProcesses pair i = .ended) :
    (run (step procs) start events).store.vtokenOwnsVctx now pair = true ↔
      (start.store.active.lookup pair).isSome = true ∨
        (procs.forward d).guestName (procs.call i).grantKey ≠ (procs.call i).grantKey ∨
        (run (step procs) start events).store.hasBackendSession pair = true := by
  have hstart : Hosting procs i d pair start.store now start := by
    rw [Hosting, hforward, A2aHub.overlays, hcall]
    refine ⟨?_, map_tag_cell⟩
    intro prev hprev
    cases hprev
  have hrow := run_invariant_of_everyStep (.step hvtoken) hstart hhosted
  rw [Hosting, hdone, hreleased] at hrow
  have hown : start.store.grantName pair ≠ none ↔
      (start.store.active.lookup pair).isSome = true := by
    rw [grantName, ne_eq, Option.map_eq_none_iff, Option.isSome_iff_ne_none]
  have hcell := hrow hvctx
  rw [vtokenOwnsVctx_iff_cell, hasBackendSession_iff_sessionNames,
    ← or_assoc, ← hown, or_comm (a := start.store.grantName pair ≠ none)]
  refine or_congr_left ?_
  by_cases hkept : (procs.forward d).guestName (procs.call i).grantKey ≠
      (procs.call i).grantKey ∨ start.store.grantName pair ≠ none
  · exact iff_of_true (hcell.1 hkept) hkept
  · refine iff_of_false ?_ hkept
    rintro ⟨row, hsome, -⟩
    simp [hcell.2 hkept] at hsome

instance (state : DispatchHub ι κ υ δ) :
    ∀ event, Decidable (state.DispatchedWhileHeld procs i d pair event)
  | .hub (.call _ _) => inferInstanceAs (Decidable (ite _ _ _))
  | .hub (.send _ _) => inferInstanceAs (Decidable True)
  | .hub (.user _ _) => inferInstanceAs (Decidable (_ ≠ _))
  | .hub (.drop _ _ _) => inferInstanceAs (Decidable (_ ∧ _))
  | .forward _ _ => inferInstanceAs (Decidable (ite _ _ _))

instance (state : DispatchHub ι κ υ δ) (event : DispatchEvent ι κ υ δ) :
    Decidable (state.HostedStep procs i d pair now event) :=
  inferInstanceAs (Decidable (_ ∧ _))

end DispatchHub

/-- The message comes while the call waits for its answer. -/
def Sample.messageMeanwhile : List (DispatchEvent Unit Empty Empty Unit) :=
  callPart 8 ++ messagePart ++ callPart 5

open Sample

namespace DispatchHub

set_option maxRecDepth 4000 in
theorem owns_after_release_of_old_grant :
    (run (step callAndMessage) (beforeMessage (some ⟨"work", 0, 1000⟩))
        messageMeanwhile).store.vtokenOwnsVctx 120 pair = true := by
  have hhosted : EveryStep (step callAndMessage) (HostedStep callAndMessage () () pair 120)
      (beforeMessage (some ⟨"work", 0, 1000⟩))
      messageMeanwhile := by decide
  have hdone : (run (step callAndMessage) (beforeMessage (some ⟨"work", 0, 1000⟩))
      messageMeanwhile).forwards () =
    .finished (some (messageIn "a2a-1")) := by decide
  have hreleased : (run (step callAndMessage) (beforeMessage (some ⟨"work", 0, 1000⟩))
      messageMeanwhile).hub.calls () =
    .finished (errorContent "Agent 'bot' did not reply within 120 seconds.") := by decide
  refine (owns_after_release_iff rfl rfl rfl hhosted hdone rfl ?_).mpr (.inl (by decide))
  rfl

set_option maxRecDepth 4000 in
/-- Without an old grant the release takes the grant of the message away. -/
theorem release_takes_grant_of_message :
    EveryStep (step callAndMessage) (HostedStep callAndMessage () () pair 120)
        (beforeMessage none) messageMeanwhile ∧
      (run (step callAndMessage) (beforeMessage none) messageMeanwhile).forwards () =
        .finished (some (messageIn "a2a-1")) ∧
      (run (step callAndMessage) (beforeMessage none) messageMeanwhile).hub.calls () =
        .finished (errorContent "Agent 'bot' did not reply within 120 seconds.") ∧
      (run (step callAndMessage) (beforeMessage none)
        messageMeanwhile).store.vtokenOwnsVctx 120 pair = false :=
  ⟨by decide, by decide, by decide, by decide⟩

end DispatchHub

end IlinkHub
