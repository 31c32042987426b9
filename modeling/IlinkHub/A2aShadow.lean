/-
A routed user message beside an agent call to the same backend: which session
the message is given while the grant of the call is in place.
-/
import IlinkHub.A2aSessions
import IlinkHub.UserDispatch

namespace IlinkHub

open Transition DispatchEvent

open Sample

universe u v w x

variable {ι : Type u} {κ : Type v} {υ : Type w} {δ : Type x}

namespace Store

variable {store left right : Store} {pair : PairKey}

lemma SameGrants.cell (hsame : left.SameGrants right) (pair : PairKey) :
    left.cell pair = right.cell pair := by
  rw [Store.cell, Store.cell, hsame.active]

lemma SameGrants.sessionNames (hsame : left.SameGrants right)
    (pair : PairKey) : left.sessionNames pair = right.sessionNames pair := by
  rw [Store.sessionNames, Store.sessionNames, hsame.backend]

/-- The session name that the grant row of the pair carries. -/
def grantName (store : Store) (pair : PairKey) : Option String :=
  (store.active.lookup pair).map ActiveRow.sessionName

lemma map_tag_cell : (store.cell pair).map Overlay.Row.tag = store.grantName pair := by
  rw [cell, Option.map_map]
  rfl

end Store

/-- Stores with the same named sessions give a message the same extension block
exactly if their grant rows name the same session. -/
lemma buildHubExtForVctx_eq_iff {left right : Store} {pair : PairKey}
    (hbackend : ∀ key, left.backend.lookup key = right.backend.lookup key) (ok : Bool) :
    buildHubExtForVctx left pair none ok = buildHubExtForVctx right pair none ok ↔
      (ok = true → (left.grantName pair).getD "default" =
        (right.grantName pair).getD "default") := by
  have hid : ∀ name, left.getBackendSession pair name = right.getBackendSession pair name := by
    intro name
    rw [Store.getBackendSession, hbackend, Store.getBackendSession]
  cases ok with
  | false => simp [buildHubExtForVctx]
  | true =>
    simp only [buildHubExtForVctx, Store.getHubExtSingle, ← Store.grantName.eq_1, hid]
    constructor
    · intro heq _
      exact Option.some.inj (HubExt.mk.inj (Option.some.inj heq)).2.1
    · intro heq
      rw [heq trivial]

/-- The context whose session the message is about to read. -/
def ForwardPhase.reads : ForwardPhase → Option String
  | .readExt vctx => some vctx
  | _ => none

/-- The session is not chosen yet. -/
def ForwardPhase.undecided : ForwardPhase → Bool
  | .resolve | .readExt _ => true
  | .grant _ _ | .push _ _ | .finished _ => false

namespace DispatchEvent

variable [DecidableEq ι] [DecidableEq δ]

def ofForward (d : δ) : DispatchEvent ι κ υ δ → Bool
  | .forward e _ => decide (e = d)
  | .hub _ => false

/-- A step of call `i` that the store answers, or a step of message `d`. -/
def involves (i : ι) (d : δ) : DispatchEvent ι κ υ δ → Bool
  | .hub (.call j env) => decide (j = i) && env.ok
  | .forward e _ => decide (e = d)
  | .hub (.send _ _) | .hub (.user _ _) | .hub (.drop _ _ _) => false

lemma of_involves {i : ι} {d : δ} {event : DispatchEvent ι κ υ δ}
    (hevent : event.involves i d = true) :
    (∃ env, env.ok = true ∧ event = .hub (.call i env)) ∨ ∃ env, event = .forward d env := by
  cases event with
  | hub event =>
    cases event with
    | call j env =>
      obtain ⟨hj, hok⟩ := Bool.and_eq_true_iff.mp hevent
      obtain rfl := of_decide_eq_true hj
      exact .inl ⟨env, hok, rfl⟩
    | _ => cases hevent
  | forward e env =>
    obtain rfl := of_decide_eq_true hevent
    exact .inr ⟨env, rfl⟩

end DispatchEvent

namespace DispatchHub

/-- When the message reads its session, the grant row of its pair names the
session that it named before the call, whatever the call has made of the row. -/
def UnshadowedStep [DecidableEq δ] (procs : DispatchProcesses ι κ υ δ) (i : ι)
    (d : δ) (initial : Store) (state : DispatchHub ι κ υ δ) :
    DispatchEvent ι κ υ δ → Prop
  | .hub _ => True
  | .forward e env =>
    e = d → env.ok = true → ∀ vctx ∈ (state.forwards d).reads,
      ((state.hub.overlays procs.toProcesses ((procs.forward d).pair vctx)
          i).shown (procs.call i).grantKey (initial.grantName ((procs.forward d).pair vctx))).getD
          "default" =
        (initial.grantName ((procs.forward d).pair vctx)).getD "default"

/-- The run with the call and the run without it, up to the moment when the
message reads its session. -/
structure Shadowed (procs : DispatchProcesses ι κ υ δ) (i : ι) (d : δ)
    (initial : Store) (state erased : DispatchHub ι κ υ δ) : Prop where
  phase : erased.forwards d = state.forwards d
  contexts : erased.store.contexts = state.store.contexts
  grant : ∀ pair, erased.store.grantName pair = initial.grantName pair
  erasedSessions : ∀ key, erased.store.backend.lookup key = initial.backend.lookup key
  sessions : ∀ key, state.store.backend.lookup key = initial.backend.lookup key
  shows : ∀ pair, Overlay.Shows (procs.call i).grantKey (initial.grantName pair)
    (state.store.cell pair) (state.hub.overlays procs.toProcesses pair i)
  spares : ∀ pair, ∀ name ∈ state.store.sessionNames pair,
    (state.hub.reclaimOf procs.toProcesses i pair).Spares name

/-- Both runs have chosen a session and go on in step. -/
inductive InStep (forward : Forward) (vctx : String)
    (hubExt hubExt' : Option HubExt) : ForwardPhase → ForwardPhase → Prop where
  | grant : InStep forward vctx hubExt hubExt' (.grant vctx hubExt) (.grant vctx hubExt')
  | push : InStep forward vctx hubExt hubExt' (.push vctx hubExt) (.push vctx hubExt')
  | finished : InStep forward vctx hubExt hubExt' (.finished (some (forward.message vctx hubExt)))
      (.finished (some (forward.message vctx hubExt')))

variable {procs : DispatchProcesses ι κ υ δ} {i : ι} {d : δ} {initial : Store}
  {state erased : DispatchHub ι κ υ δ}

variable {vctx : String} {hubExt hubExt' : Option HubExt} {msg : WeixinMessage}
  {events : List (DispatchEvent ι κ υ δ)}

lemma InStep.next {forward : Forward} {phase phase' : ForwardPhase}
    (hstep : InStep forward vctx hubExt hubExt' phase phase') (store store' : Store) (ok : Bool) :
    InStep forward vctx hubExt hubExt' (forward.next store ok phase)
      (forward.next store' ok phase') := by
  cases hstep with
  | grant => exact .push
  | push => exact .finished
  | finished => exact .finished

lemma InStep.of_finished {forward : Forward} {phase' : ForwardPhase}
    (hstep : InStep forward vctx hubExt hubExt' (.finished (some msg)) phase') :
    msg = forward.message vctx hubExt ∧
      phase' = .finished (some (forward.message vctx hubExt')) := by
  cases hstep
  exact ⟨rfl, rfl⟩

/-- What the message finds, compared with the run without the call. -/
lemma Shadowed.hubExt_eq_iff (hshadowed : Shadowed procs i d initial state
    erased) (pair : PairKey) (ok : Bool) :
    buildHubExtForVctx state.store pair none ok = buildHubExtForVctx erased.store pair none ok ↔
      (ok = true → ((state.hub.overlays procs.toProcesses pair i).shown
            (procs.call i).grantKey (initial.grantName pair)).getD "default" =
          (initial.grantName pair).getD "default") := by
  rw [buildHubExtForVctx_eq_iff fun key =>
      (hshadowed.sessions key).trans (hshadowed.erasedSessions key).symm,
    ← Store.map_tag_cell, (hshadowed.shows pair).tag, hshadowed.grant]

variable [DecidableEq ι] [DecidableEq κ] [DecidableEq υ] [DecidableEq δ]

/-- A step of the call moves the first run alone.  It takes no session away,
since nobody adds one. -/
lemma Shadowed.step_call (hshadowed : Shadowed procs i d initial state erased) {env : Env}
    (hok : env.ok = true) :
    Shadowed procs i d initial (state.step procs (.hub (.call i env))) erased := by
  have hstore : (state.step procs (.hub (.call i env))).store = state.store.attempt env.ok env.now
        ((procs.call i).op (state.hub.calls i)) :=
    A2aHub.store_step state.hub (.call i env)
  have hspares : ∀ pair, ∀ name ∈ state.store.sessionNames pair,
      ((procs.call i).op (state.hub.calls i)).backendKey ≠ some ⟨pair, name⟩ := by
    intro pair name hname
    exact CallAgent.op_of_spares (hshadowed.spares pair name hname)
  have hsessions : ∀ key, (state.step procs (.hub (.call i env))).store.backend.lookup key =
        state.store.backend.lookup key := by
    intro key
    rw [hstore]
    by_cases hkey : ((procs.call i).op (state.hub.calls i)).backendKey = some key
    · -- A deletion of a session that is not there.
      have hnone : state.store.backend.lookup key = none := by
        rw [← Option.not_isSome_iff_eq_none]
        intro hname
        exact hspares key.pair key.sessionName hname hkey
      obtain ⟨parties, snap, outcome, rest, hphase, hpair⟩ :=
        CallAgent.op_backendKey hkey
      rw [hphase, hnone, hok, Store.attempt_ok, CallAgent.op,
        CallAgent.releaseOp, hpair, Store.apply,
        Store.lookup_deleteBackendSession, if_pos rfl]
    · exact Store.backend_lookup_attempt_of_ne hkey
  refine ⟨hshadowed.phase, ?_, hshadowed.grant, hshadowed.erasedSessions,
    fun key => (hsessions key).trans (hshadowed.sessions key), ?_, ?_⟩
  · rw [hstore, Store.contexts_attempt]
    exact hshadowed.contexts
  · intro pair
    have hcall : (state.step procs (.hub (.call i env))).hub.overlays
        procs.toProcesses pair i = (procs.call i).overlayAt pair
          ((procs.call i).next state.hub.world env (state.hub.calls i)) := by
      rw [step, A2aHub.overlays_step_call, Function.update_self]
    rw [hcall]
    exact (hshadowed.shows pair).step ((procs.call i).overlayAt_step pair _ state.hub.world hok)
  · intro pair name hname
    have hbefore : name ∈ state.store.sessionNames pair := by
      rw [Store.sessionNames, Set.mem_ofPred_eq, hsessions] at hname
      exact hname
    have hcall : (state.step procs (.hub (.call i env))).hub.reclaimOf
        procs.toProcesses i pair = (procs.call i).reclaimAt pair
          ((procs.call i).next state.hub.world env (state.hub.calls i)) := by
      rw [step, A2aHub.reclaimOf, A2aHub.calls_step_call]
    rw [hcall]
    exact ((hshadowed.spares pair name hbefore).step hbefore
      ((procs.call i).reclaimAt_step pair _ state.hub.world fun _ => hok)).1

lemma Shadowed.step_resolve (hshadowed : Shadowed procs i d initial state
    erased) (hphase : state.forwards d = .resolve) (env : Env) :
    Shadowed procs i d initial (state.step procs (.forward d env))
      (erased.step procs (.forward d env)) := by
  have hphase' := hshadowed.phase.trans hphase
  have hsame : (state.step procs (.forward d env)).store.SameGrants state.store := by
    apply sameGrants_of_skip
    rw [op, hphase]
    rfl
  have hsame' : (erased.step procs (.forward d env)).store.SameGrants erased.store := by
    apply sameGrants_of_skip
    rw [op, hphase']
    rfl
  obtain ⟨hnext, hcontexts⟩ :=
    (procs.forward d).resolve_congr hshadowed.contexts env
  refine ⟨?_, ?_, ?_, ?_, ?_, ?_, ?_⟩
  · rw [forwards_step_forward, forwards_step_forward, hphase, hphase', hnext]
  · rw [store_step_forward, store_step_forward, hphase, hphase']
    exact hcontexts
  · intro pair
    rw [Store.grantName, hsame'.active]
    exact hshadowed.grant pair
  · intro key
    rw [hsame'.backend]
    exact hshadowed.erasedSessions key
  · intro key
    rw [hsame.backend]
    exact hshadowed.sessions key
  · intro pair
    rw [hsame.cell]
    exact hshadowed.shows pair
  · intro pair
    rw [hsame.sessionNames]
    exact hshadowed.spares pair

/-- Once the session is chosen the two messages differ in nothing else. -/
lemma run_of_inStep
    (hinStep : InStep (procs.forward d) vctx hubExt hubExt' (state.forwards d) (erased.forwards d))
    (hevents : ∀ event ∈ events, event.involves i d = true) :
    InStep (procs.forward d) vctx hubExt hubExt' ((run (step procs) state events).forwards d)
      ((run (step procs) erased (events.filter (ofForward d))).forwards d) := by
  have hkept : ∀ (state erased : DispatchHub ι κ υ δ) (event : DispatchEvent ι κ υ δ),
      InStep (procs.forward d) vctx hubExt hubExt' (state.forwards d)
        (erased.forwards d) → event.involves i d = true →
      event.ofForward d = true →
      InStep (procs.forward d) vctx hubExt hubExt' ((state.step procs event).forwards d)
        ((erased.step procs event).forwards d) := by
    intro state erased event hrelated hinvolves hforward
    rcases of_involves hinvolves with
      ⟨env, -, rfl⟩ | ⟨env, rfl⟩
    · cases hforward
    · rw [forwards_step_forward, forwards_step_forward]
      exact hrelated.next _ _ _
  have herased : ∀ (state erased : DispatchHub ι κ υ δ) (event : DispatchEvent ι κ υ δ),
      InStep (procs.forward d) vctx hubExt hubExt' (state.forwards d)
        (erased.forwards d) → event.involves i d = true →
      event.ofForward d = false →
      InStep (procs.forward d) vctx hubExt hubExt'
        ((state.step procs event).forwards d) (erased.forwards d) := by
    intro state erased event hrelated hinvolves hforward
    rcases of_involves hinvolves with
      ⟨env, -, rfl⟩ | ⟨env, rfl⟩
    · exact hrelated
    · rw [ofForward, decide_eq_false_iff_not] at hforward
      exact absurd rfl hforward
  exact run_filter_related hkept herased hinStep hevents

/-- A message reads its session once. -/
lemma unshadowed_of_decided (hdecided : (state.forwards d).undecided = false)
    (hevents : ∀ event ∈ events, event.involves i d = true) :
    EveryStep (step procs) (UnshadowedStep procs i d initial) state events := by
  have hcond : ∀ (state : DispatchHub ι κ υ δ) (event : DispatchEvent ι κ υ δ),
      (state.forwards d).undecided = false → event.involves i d = true →
        state.UnshadowedStep procs i d initial event := by
    intro state event hstate hinvolves
    rcases of_involves hinvolves with
      ⟨env, -, rfl⟩ | ⟨env, rfl⟩
    · trivial
    · intro _ _ vctx hreads
      revert hstate hreads
      cases state.forwards d with
      | readExt vctx => exact fun h => nomatch h
      | _ => exact fun _ h => nomatch h
  have hstep : ∀ (state : DispatchHub ι κ υ δ) (event : DispatchEvent ι κ υ δ),
      (state.forwards d).undecided = false → event.involves i d = true →
        ((state.step procs event).forwards d).undecided = false := by
    intro state event hstate hinvolves
    rcases of_involves hinvolves with
      ⟨env, -, rfl⟩ | ⟨env, rfl⟩
    · exact hstate
    · rw [forwards_step_forward]
      revert hstate
      cases state.forwards d with
      | resolve | readExt _ => exact fun h => nomatch h
      | _ => exact id
  exact everyStep_of_invariant hcond hstep hdecided hevents

/-- From the step that reads the session on, the two runs differ in what was
read only. -/
lemma Shadowed.run_readExt (hshadowed : Shadowed procs i d initial state erased)
    (hrouted : (procs.forward d).sessionOverride = none)
    (hphase : state.forwards d = .readExt vctx) {env : Env}
    (hevents : ∀ event ∈ events, event.involves i d = true) (hdone : (run (step procs) state
      (.forward d env :: events)).forwards d = .finished (some msg)) :
    ∃ msg', (run (step procs) erased (.forward d env :: events.filter (ofForward d))).forwards
          d = .finished (some msg') ∧
      (msg.ilinkHubExt = msg'.ilinkHubExt ↔
        EveryStep (step procs) (UnshadowedStep procs i d initial)
          state (.forward d env :: events)) := by
  have hinStep : InStep (procs.forward d) vctx
      (buildHubExtForVctx state.store ((procs.forward d).pair vctx) none env.ok)
      (buildHubExtForVctx erased.store ((procs.forward d).pair vctx) none env.ok)
      ((state.step procs (.forward d env)).forwards d)
      ((erased.step procs (.forward d env)).forwards d) := by
    rw [forwards_step_forward, forwards_step_forward, hshadowed.phase, hphase,
      Forward.next, Forward.next, hrouted]
    exact .grant
  have hfinal := run_of_inStep hinStep hevents
  rw [run_cons] at hdone
  rw [hdone] at hfinal
  obtain ⟨rfl, hdone'⟩ := hfinal.of_finished
  refine ⟨_, hdone', (hshadowed.hubExt_eq_iff _ _).trans ?_⟩
  have hdecided : ((state.step procs (.forward d env)).forwards d).undecided = false := by
    rw [forwards_step_forward, hphase]
    rfl
  have htail : EveryStep (step procs)
      (UnshadowedStep procs i d initial) (state.step procs (.forward d env))
      events :=
    unshadowed_of_decided hdecided hevents
  rw [EveryStep, and_iff_left htail, UnshadowedStep, hphase]
  simp [ForwardPhase.reads]

/-- The comparison of the two runs, from any moment before the session is
read. -/
lemma Shadowed.run_iff (hrouted : (procs.forward d).sessionOverride = none)
    (hevents : ∀ event ∈ events, event.involves i d = true)
    (hshadowed : Shadowed procs i d initial state erased)
    (hundecided : (state.forwards d).undecided = true)
    (hdone : (run (step procs) state events).forwards d = .finished (some msg)) :
    ∃ msg', (run (step procs) erased
        (events.filter (ofForward d))).forwards d = .finished (some msg') ∧
      (msg.ilinkHubExt = msg'.ilinkHubExt ↔ EveryStep (step procs)
          (UnshadowedStep procs i d initial) state events) := by
  induction events generalizing state erased with
  | nil =>
    rw [run_nil] at hdone
    rw [hdone] at hundecided
    cases hundecided
  | cons event events ih =>
    have hrest := fun other hother => hevents other (List.mem_cons_of_mem event hother)
    rcases of_involves (hevents event List.mem_cons_self) with
      ⟨env, hok, rfl⟩ | ⟨env, rfl⟩
    · -- A step of the call is erased from the second run.
      obtain ⟨msg', hdone', hiff⟩ :=
        ih hrest (hshadowed.step_call hok) hundecided hdone
      exact ⟨msg', hdone', hiff.trans (and_iff_right trivial).symm⟩
    · rw [List.filter_cons_of_pos (by simp [ofForward])]
      cases hphase : state.forwards d with
      | resolve =>
        have hhead : state.UnshadowedStep procs i d initial (.forward d env) := by
          intro _ _ vctx hreads
          rw [hphase] at hreads
          cases hreads
        have hnext : (state.step procs (.forward d env)).forwards d = _ :=
          forwards_step_forward state d env
        rw [hphase, Forward.next] at hnext
        split at hnext
        · obtain ⟨msg', hdone', hiff⟩ := ih hrest
            (hshadowed.step_resolve hphase env) (by rw [hnext]; rfl) hdone
          exact ⟨msg', hdone', hiff.trans (and_iff_right hhead).symm⟩
        · simp [forwards_run_finished hnext] at hdone
      | readExt vctx => exact hshadowed.run_readExt hrouted hphase hrest hdone
      | _ =>
        rw [hphase] at hundecided
        cases hundecided

/-- The session of a routed message is the one it would have without the call
exactly if the message does not read it while the call shows another name in the
grant row: its own grant key, or no name between the deletion of the grant and
the restore. -/
theorem message_session_unchanged_iff {start : DispatchHub ι κ υ δ}
    (hcall : start.hub.calls i = CallAgent.start) (hforward : start.forwards d = Forward.start)
    (hrouted : (procs.forward d).sessionOverride = none) {events : List (DispatchEvent ι κ υ δ)}
    (hevents : ∀ event ∈ events, event.involves i d = true) {msg : WeixinMessage}
    (hdone : (run (step procs) start events).forwards d = .finished (some msg)) :
    ∃ msg', (run (step procs) start
        (events.filter (ofForward d))).forwards d = .finished (some msg') ∧
      (msg.ilinkHubExt = msg'.ilinkHubExt ↔ EveryStep (step procs)
          (UnshadowedStep procs i d start.store) start events) := by
  have hview : ∀ pair, start.hub.overlays procs.toProcesses pair i = .outside ∧
        start.hub.reclaimOf procs.toProcesses i pair = .untaken := by
    intro pair
    rw [A2aHub.overlays, A2aHub.reclaimOf, hcall]
    exact ⟨rfl, rfl⟩
  have hshadowed : Shadowed procs i d start.store start start := by
    refine ⟨rfl, rfl, fun _ => rfl, fun _ => rfl, fun _ => rfl, ?_, ?_⟩
    · intro pair
      rw [(hview pair).1]
      refine ⟨?_, Store.map_tag_cell⟩
      intro prev hprev
      cases hprev
    · intro pair name _
      rw [(hview pair).2]
      trivial
  exact hshadowed.run_iff hrouted hevents (by rw [hforward]; rfl) hdone

instance (state : DispatchHub ι κ υ δ) :
    ∀ event, Decidable (state.UnshadowedStep procs i d initial event) := by
  intro event
  cases event <;> dsimp only [UnshadowedStep] <;> infer_instance

end DispatchHub

namespace Sample

/-- A call to the bot and a message of the user that is routed to it. -/
def callAndMessage : DispatchProcesses Unit Empty Empty Unit where
  call := fun _ => call "1"
  send := fun k => nomatch k
  user := fun x => nomatch x
  forward := fun _ => { inbound := inboundAt100, vtoken := "t" }

def callPart (n : Nat) : List (DispatchEvent Unit Empty Empty Unit) :=
  List.replicate n (.hub (.call () (tick 100)))

def messagePart : List (DispatchEvent Unit Empty Empty Unit) :=
  List.replicate 4 (.forward () { now := 100 })

def beforeMessage (row : Option ActiveRow) : DispatchHub Unit Empty Empty Unit :=
  .start callAndMessage (world row)

/-- The message as the bot gets it in a given session. -/
def messageIn (sessionName : String) : WeixinMessage :=
  { fromUserId := some "user"
    contextToken := some "vctx_1"
    ilinkHubExt := some { sessionName := some sessionName } }

end Sample

namespace DispatchHub

set_option maxRecDepth 4000 in
/-- A message that comes after the release is in its session again. -/
theorem message_session_unchanged_after_release :
    (run (step callAndMessage) (beforeMessage (some ⟨"work", 0, 1000⟩))
        (callPart 13 ++ messagePart)).forwards () = .finished (some (messageIn "work")) ∧
    ∃ msg', (run (step callAndMessage) (beforeMessage (some ⟨"work", 0, 1000⟩))
        ((callPart 13 ++ messagePart).filter (ofForward ()))).forwards () = .finished (some msg') ∧
      (messageIn "work").ilinkHubExt = msg'.ilinkHubExt := by
  have hdone : (run (step callAndMessage) (beforeMessage (some ⟨"work", 0, 1000⟩))
      (callPart 13 ++ messagePart)).forwards () =
    .finished (some (messageIn "work")) := by decide
  have hevents : ∀ event ∈ callPart 13 ++ messagePart, event.involves () () = true := by
    intro event hevent
    rcases List.mem_append.mp hevent with hcall | hmessage
    · rw [List.eq_of_mem_replicate hcall]
      rfl
    · rw [List.eq_of_mem_replicate hmessage]
      rfl
  obtain ⟨msg', hdone', hiff⟩ :=
    message_session_unchanged_iff rfl rfl rfl hevents hdone
  exact ⟨hdone, msg', hdone', hiff.mpr (by decide)⟩

set_option maxRecDepth 4000 in
/-- A message that comes while the call waits runs in the session of the call;
without the call it would run in the default session. -/
theorem message_session_shadowed :
    (run (step callAndMessage) (beforeMessage none) (callPart 5 ++ messagePart)).forwards () =
      .finished (some (messageIn "a2a-1")) ∧
    (run (step callAndMessage) (beforeMessage none) ((callPart 5 ++ messagePart).filter
          (ofForward ()))).forwards () = .finished (some (messageIn "default")) ∧
    (callPart 5 ++ messagePart).all (involves () ()) = true :=
  ⟨by decide, by decide, by decide⟩

end DispatchHub

end IlinkHub
