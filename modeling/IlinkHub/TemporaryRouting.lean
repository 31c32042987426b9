/-
What the dispatch of one message leaves of the routing of the next
(`hub/dispatch/pipeline.rs`, `hub/dispatch/mention.rs`): the routes and the
active session of every pair.  A mention leaves them alone; a quote makes its
session the active one.
-/
import IlinkHub.QuoteRouting

namespace IlinkHub

open Store Forward Inbound

/-- The session to which a message without a quote goes. -/
def Store.activeName (store : Store) (pair : PairKey) : String :=
  (store.getHubExtSingle pair).1

lemma Store.activeName_congr {left right : Store} (hactive : left.active = right.active)
    (pair : PairKey) : left.activeName pair = right.activeName pair := by
  rw [activeName, activeName, getHubExtSingle, getHubExtSingle, hactive]

lemma Store.activeName_setActiveSessionWithDepth (store : Store) (now : Int)
    (pair own : PairKey) (sessionName : String) (depth : UInt8) :
    (store.setActiveSessionWithDepth now own sessionName depth).activeName pair =
      if pair = own then sessionName else store.activeName pair := by
  simp only [activeName, getHubExtSingle, lookup_setActiveSessionWithDepth]
  split <;> rfl

/-- The session of a forwarded message: the one that the quote names, else the
active one, if it can be read. -/
def pinnedSession (sessionOverride : Option String) (readOk : Bool) (active : String) : String :=
  (sessionOverride.filter fun name => name ≠ "").getD (if readOk then active else "default")

lemma sessionOf_buildHubExtForVctx (store : Store) (pair : PairKey)
    (sessionOverride : Option String) (readOk : Bool) :
    sessionOf (buildHubExtForVctx store pair sessionOverride readOk) =
      pinnedSession sessionOverride readOk (store.activeName pair) := by
  unfold buildHubExtForVctx pinnedSession
  split
  · next name hname => rw [hname]; rfl
  · next hnone =>
    rw [hnone]
    cases readOk <;> rfl

namespace HubData

/-- An ordinary message is routed to the same backend, and goes to the same
session of it, in both. -/
structure SameRouting (before after : HubData) : Prop where
  router : after.router = before.router
  routingState : after.routingState = before.routingState
  sessions : ∀ pair, after.world.store.activeName pair = before.world.store.activeName pair

namespace SameRouting

variable {before after later : HubData}

lemma refl (data : HubData) : data.SameRouting data :=
  ⟨rfl, rfl, fun _ => rfl⟩

lemma symm (hsame : before.SameRouting after) : after.SameRouting before :=
  ⟨hsame.router.symm, hsame.routingState.symm, fun pair => (hsame.sessions pair).symm⟩

lemma trans (hsame : before.SameRouting after)
    (hlater : after.SameRouting later) : before.SameRouting later :=
  ⟨hlater.router.trans hsame.router, hlater.routingState.trans hsame.routingState,
    fun pair => (hlater.sessions pair).trans (hsame.sessions pair)⟩

lemma of_active (hrouter : after.router = before.router)
    (hstate : after.routingState = before.routingState)
    (hactive : after.world.store.active = before.world.store.active) : before.SameRouting after :=
  ⟨hrouter, hstate, activeName_congr hactive⟩

/-- The next message of the conversation, whatever it says: its base route and
the session for a backend, when no quote pins it. -/
lemma next_message (hsame : before.SameRouting after) (dispatch : Dispatch)
    (pair : PairKey) (readOk : Bool) :
    dispatch.baseRoute after = dispatch.baseRoute before ∧
      sessionOf (buildHubExtForVctx after.world.store pair none readOk) =
        sessionOf (buildHubExtForVctx before.world.store pair none readOk) := by
  constructor
  · rw [Dispatch.baseRoute, Dispatch.baseRoute, hsame.router]
  · rw [sessionOf_buildHubExtForVctx, sessionOf_buildHubExtForVctx, hsame.sessions]

end SameRouting

end HubData

namespace Dispatch

section Alone

variable (config : HubConfig) (dispatch : Dispatch) (env : DispatchPhase → HubEnv)

/-- Further steps that nobody interrupts. -/
def alone : Nat → HubData × DispatchPhase → HubData × DispatchPhase
  | 0, state => state
  | n + 1, state => alone n
      (dispatch.dataAfter state.1 (env state.2) state.2,
        dispatch.next config state.1 (env state.2) state.2)

/-- From here on the dispatch leaves the routing as it is. -/
def KeepsRouting (state : HubData × DispatchPhase) : Prop :=
  ∀ n, state.1.SameRouting (dispatch.alone config env n state).1

variable {config dispatch env} {data : HubData}

lemma keepsRouting_step (phase : DispatchPhase) :
    dispatch.KeepsRouting config env (data, phase) ↔
      data.SameRouting (dispatch.dataAfter data (env phase) phase) ∧
        dispatch.KeepsRouting config env (dispatch.dataAfter data (env phase) phase,
            dispatch.next config data (env phase) phase) := by
  constructor
  · intro hkeeps
    have hfirst := hkeeps 1
    exact ⟨hfirst, fun n => hfirst.symm.trans (hkeeps (n + 1))⟩
  · rintro ⟨hfirst, hrest⟩ n
    cases n with
    | zero => exact .refl data
    | succ n => exact hfirst.trans (hrest n)

lemma keepsRouting_leads {phase last : DispatchPhase}
    (hleads : Relation.ReflTransGen (dispatch.Quiet config data env) phase last) :
    dispatch.KeepsRouting config env (data, phase) ↔
      dispatch.KeepsRouting config env (data, last) := by
  induction hleads using Relation.ReflTransGen.head_induction_on with
  | refl => rfl
  | head hquiet _ ih =>
    rw [keepsRouting_step, hquiet.1, hquiet.2.1, ih, and_iff_right (HubData.SameRouting.refl data)]

lemma keepsRouting_finished : dispatch.KeepsRouting config env (data, .finished) := by
  have hfixed : ∀ n, dispatch.alone config env n (data, .finished) = (data, .finished) := by
    intro n
    induction n with
    | zero => rfl
    | succ n ih => exact ih
  intro n
  rw [hfixed]
  exact .refl data

end Alone

section Steps

variable {config : HubConfig} {dispatch : Dispatch} {data : HubData}
  {env : HubEnv} {vtoken payload : String} {sessionOverride : Option String}

lemma sameRouting_resolvedStore :
    data.SameRouting (data.withStore (dispatch.resolvedStore data.world.store env.ok vtoken)) := by
  refine .of_active rfl rfl ?_
  simp only [resolvedStore]
  split
  · next vctx store hresolved =>
    exact (sameGrants_of_resolved hresolved).active
  · rfl

/-- A mention creates a session, and writes no active one. -/
lemma sameRouting_mention (stage : MentionStage) :
    data.SameRouting (dispatch.dataAfter data env (.mention vtoken payload stage)) := by
  cases stage with
  | resolve => exact sameRouting_resolvedStore
  | create vctx =>
    refine .of_active rfl rfl ?_
    simp only [dataAfter, mentionAfter]
    cases env.ok <;> rfl
  | readExt vctx => exact .refl data
  | push vctx hubExt => exact .of_active rfl rfl rfl

lemma sameRouting_forward {phase : ForwardPhase}
    (hgrant : ∀ vctx hubExt, phase ≠ .grant vctx hubExt) :
    data.SameRouting (dispatch.dataAfter data env (.forward vtoken sessionOverride phase)) := by
  refine .of_active rfl rfl ?_
  have hsame := @sameGrants_storeAfter (dispatch.toForward vtoken sessionOverride)
    data.world.store (env.toEnv data.registry.toClientRegistry) phase
  rw [op.eq_def] at hsame
  cases phase with
  | grant vctx hubExt => exact absurd rfl (hgrant vctx hubExt)
  | _ =>
    rw [attempt_skip] at hsame
    exact hsame.active

/-- The grant keeps the routing when it writes the name that is active. -/
lemma sameRouting_grant {vctx : String} {hubExt : Option HubExt} :
    data.SameRouting (dispatch.dataAfter data env
        (.forward vtoken sessionOverride (.grant vctx hubExt))) ↔
      (env.ok = true → data.world.store.activeName ⟨vctx, vtoken⟩ = sessionOf hubExt) := by
  have hstore : (dispatch.dataAfter data env (.forward vtoken sessionOverride
      (.grant vctx hubExt))).world.store = data.world.store.attempt env.ok env.now
          (.setActiveSessionWithDepth ⟨vctx, vtoken⟩ (sessionOf hubExt) 0) := rfl
  constructor
  · intro hsame hok
    have hname := hsame.sessions ⟨vctx, vtoken⟩
    rw [hstore, hok, attempt_ok, apply, activeName_setActiveSessionWithDepth, if_pos rfl] at hname
    exact hname.symm
  · intro hname
    refine ⟨rfl, rfl, fun pair => ?_⟩
    rw [hstore]
    cases hok : env.ok with
    | false => rfl
    | true =>
      rw [attempt_ok, apply, activeName_setActiveSessionWithDepth]
      split
      · next hpair => rw [hpair, hname hok]
      · rfl

end Steps

section Whole

variable {config : HubConfig} {dispatch : Dispatch} {data : HubData} {env : DispatchPhase → HubEnv}
  {vtoken payload : String} {sessionOverride : Option String}

lemma keepsRouting_mention (stage : MentionStage) :
    dispatch.KeepsRouting config env (data, .mention vtoken payload stage) := by
  have hpush : ∀ (data : HubData) vctx hubExt, dispatch.KeepsRouting config env
        (data, .mention vtoken payload (.push vctx hubExt)) :=
    fun _ _ _ => (keepsRouting_step _).mpr ⟨sameRouting_mention _, keepsRouting_finished⟩
  have hread : ∀ (data : HubData) vctx, dispatch.KeepsRouting config env
      (data, .mention vtoken payload (.readExt vctx)) :=
    fun _ _ => (keepsRouting_step _).mpr ⟨sameRouting_mention _, hpush _ _ _⟩
  have hcreate : ∀ (data : HubData) vctx, dispatch.KeepsRouting config env
      (data, .mention vtoken payload (.create vctx)) :=
    fun _ _ => (keepsRouting_step _).mpr ⟨sameRouting_mention _, hread _ _⟩
  cases stage with
  | resolve =>
    refine (keepsRouting_step _).mpr ⟨sameRouting_mention _, ?_⟩
    simp only [next, mentionNext]
    split
    · exact hcreate _ _
    · exact keepsRouting_finished
  | create vctx => exact hcreate data vctx
  | readExt vctx => exact hread data vctx
  | push vctx hubExt => exact hpush data vctx hubExt

lemma keepsRouting_push (vctx : String) (hubExt : Option HubExt) :
    dispatch.KeepsRouting config env (data, .forward vtoken sessionOverride (.push vctx hubExt)) :=
  (keepsRouting_step _).mpr ⟨sameRouting_forward (by simp), keepsRouting_finished⟩

lemma keepsRouting_grant_iff {vctx : String} {hubExt : Option HubExt} :
    dispatch.KeepsRouting config env (data, .forward vtoken sessionOverride (.grant vctx hubExt)) ↔
      ((env (.forward vtoken sessionOverride (.grant vctx hubExt))).ok = true →
        data.world.store.activeName ⟨vctx, vtoken⟩ = sessionOf hubExt) := by
  rw [keepsRouting_step, sameRouting_grant]
  exact and_iff_left (keepsRouting_push vctx hubExt)

lemma keepsRouting_readExt_iff {vctx : String} :
    dispatch.KeepsRouting config env (data, .forward vtoken sessionOverride (.readExt vctx)) ↔
      let readOk := (env (.forward vtoken sessionOverride (.readExt vctx))).ok
      let hubExt := buildHubExtForVctx data.world.store ⟨vctx, vtoken⟩ sessionOverride readOk
      let active := data.world.store.activeName ⟨vctx, vtoken⟩
      (env (.forward vtoken sessionOverride (.grant vctx hubExt))).ok = true →
        active = pinnedSession sessionOverride readOk active := by
  have hread : dispatch.dataAfter data (env (.forward vtoken sessionOverride (.readExt vctx)))
      (.forward vtoken sessionOverride (.readExt vctx)) = data := by
    simp [dataAfter, step, storeAfter, op, queueAfter]
  simp only [← sessionOf_buildHubExtForVctx]
  rw [keepsRouting_step, hread, and_iff_right (HubData.SameRouting.refl data)]
  exact keepsRouting_grant_iff

variable (dispatch data env vtoken sessionOverride) in
/-- The session that the message pins is the active one already, unless the
store refuses the grant.  A message without a context is not forwarded. -/
def PinsActive : Prop :=
  ∀ found ∈ dispatch.resolved data.world.store
      (env (.forward vtoken sessionOverride .resolve)).ok vtoken,
    let readOk := (env (.forward vtoken sessionOverride (.readExt found.1))).ok
    let hubExt := buildHubExtForVctx found.2 ⟨found.1, vtoken⟩ sessionOverride readOk
    let active := data.world.store.activeName ⟨found.1, vtoken⟩
    (env (.forward vtoken sessionOverride (.grant found.1 hubExt))).ok = true →
      active = pinnedSession sessionOverride readOk active

lemma keepsRouting_forward_iff :
    dispatch.KeepsRouting config env (data, .forward vtoken sessionOverride start) ↔
      dispatch.PinsActive data env vtoken sessionOverride := by
  rw [keepsRouting_step, start, and_iff_right (sameRouting_forward (by simp))]
  have hforward : (dispatch.toForward vtoken sessionOverride).resolved
      data.world.store (env (.forward vtoken sessionOverride .resolve)).ok =
        dispatch.resolved data.world.store
          (env (.forward vtoken sessionOverride .resolve)).ok vtoken := rfl
  unfold PinsActive
  cases hresolved : dispatch.resolved data.world.store
      (env (.forward vtoken sessionOverride .resolve)).ok vtoken with
  | none =>
    simp only [next, Forward.next, hforward, hresolved]
    exact iff_of_true keepsRouting_finished (by simp)
  | some found =>
    have hstore : (dispatch.dataAfter data (env (.forward vtoken sessionOverride .resolve))
        (.forward vtoken sessionOverride .resolve)).world.store =
          found.2 := by
      simp [dataAfter, step, storeAfter, HubEnv.toEnv, hforward, hresolved]
    have hactive := activeName_congr (sameGrants_of_resolved hresolved).active
    simp only [next, Forward.next, hforward, hresolved]
    rw [keepsRouting_readExt_iff, hstore, hactive]
    simp [forall_eq']

lemma start_of_chosen {phase : ForwardPhase} (hchosen : dispatch.chosen config data env =
      .forward vtoken sessionOverride phase) : phase = start := by
  have hdecided : ∀ decision,
      dispatch.decided decision = .forward vtoken sessionOverride phase → phase = start := by
    intro decision hphase
    cases decision with
    | forwardTo own ownOverride =>
      cases hphase
      rfl
    | hubInternal cmd =>
      simp only [decided, handleHubCommand] at hphase
      split at hphase
      · cases hphase
      · cases cmd <;> cases hphase
    | broadcast => cases hphase
  unfold chosen at hchosen
  split at hchosen
  · cases hchosen
  · split at hchosen
    · cases hchosen
    · exact hdecided _ hchosen

end Whole

end Dispatch

/-- The backend to which the message is on its way. -/
def DispatchPhase.sendsTo : DispatchPhase → Option String
  | .mention vtoken _ _ | .forward vtoken _ _ => some vtoken
  | .received | .mentionAlias _ _ _ | .route | .quote _ _ | .command _
  | .finished => none

/-- A message that goes to a backend leaves the routes and the active sessions
as they are, at every point of its dispatch, exactly if it is a mention or pins
the session that is active. -/
theorem Dispatch.keepsRouting_iff {config : HubConfig} {dispatch : Dispatch}
    {data : HubData} {env : DispatchPhase → HubEnv} {vtoken : String}
    (hsends : (dispatch.chosen config data env).sendsTo = some vtoken) :
    dispatch.KeepsRouting config env (data, .received) ↔
      ∀ sessionOverride, dispatch.chosen config data env = .forward vtoken sessionOverride start →
        dispatch.PinsActive data env vtoken sessionOverride := by
  rw [keepsRouting_leads leads_chosen]
  cases hchosen : dispatch.chosen config data env with
  | mention own payload stage =>
    refine iff_of_true (keepsRouting_mention stage) ?_
    intro sessionOverride hforward
    cases hforward
  | forward own ownOverride phase =>
    rw [hchosen] at hsends
    cases hsends
    obtain rfl := start_of_chosen hchosen
    rw [keepsRouting_forward_iff]
    simp
  | _ =>
    rw [hchosen] at hsends
    cases hsends

/-- The default client is the one whose reply is quoted. -/
def Sample.routedHub : HubData :=
  quotedHub (some "h1")

def Sample.afterQuote : HubData :=
  (quoting.alone noAcl (fun _ => {}) 13 (routedHub, .received)).1

namespace Dispatch

open Sample

theorem keepsRouting_iff_quoting :
    quoting.chosen noAcl afterQuote (fun _ => {}) = .forward "h1" (some "b") start ∧
      quoting.KeepsRouting noAcl (fun _ => {}) (afterQuote, .received) := by
  have hchosen : quoting.chosen noAcl afterQuote (fun _ => {}) =
      .forward "h1" (some "b") start := by decide +kernel
  refine ⟨hchosen, (keepsRouting_iff (by rw [hchosen]; rfl)).mpr fun sessionOverride hforward => ?_⟩
  cases hchosen.symm.trans hforward
  unfold PinsActive
  decide +kernel

/-- The active session is the default one; a quote of session `b` makes `b` the
active one, and the next message without a quote goes there. -/
theorem quote_switches_session :
    quoting.chosen noAcl routedHub (fun _ => {}) = .forward "h1" (some "b") start ∧
      sessionOf (buildHubExtForVctx routedHub.world.store ⟨"vctx_1", "h1"⟩ none true) = "default" ∧
      sessionOf (buildHubExtForVctx afterQuote.world.store ⟨"vctx_1", "h1"⟩ none true) = "b" ∧
      ¬ quoting.KeepsRouting noAcl (fun _ => {}) (routedHub, .received) := by
  have hbefore : sessionOf (buildHubExtForVctx routedHub.world.store
      ⟨"vctx_1", "h1"⟩ none true) = "default" := by decide +kernel
  have hafter : sessionOf (buildHubExtForVctx afterQuote.world.store
      ⟨"vctx_1", "h1"⟩ none true) = "b" := by decide +kernel
  refine ⟨by decide +kernel, hbefore, hafter, fun hkeeps => ?_⟩
  have hsame := ((hkeeps 13).next_message quoting ⟨"vctx_1", "h1"⟩ true).2
  rw [← afterQuote, hafter] at hsame
  exact absurd hsame (by decide)

end Dispatch

end IlinkHub
