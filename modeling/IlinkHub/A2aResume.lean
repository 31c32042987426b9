/-
Two agent calls of one conversation: whether the second one finds the session
that the answer to the first one reported.
-/
import IlinkHub.A2aCancel
import IlinkHub.A2aOneShot

namespace IlinkHub

open Transition Sample Store CallAgent CallPhase

universe u v w

variable {ι : Type u} {κ : Type v} {υ : Type w}

/-- How the wait for the answer stands. -/
inductive Outlook where
  | waiting
  | replied
  | givenUp
deriving Repr, DecidableEq

namespace CallPhase

def outlook : CallPhase → Outlook
  | .release _ _ (.reply _) _ | .notifyReply _ _ => .replied
  | .release _ _ .disconnected _ | .release _ _ .timedOut _ | .dropped =>
    .givenUp
  | .finished result => if result.session.isSome then .replied else .givenUp
  | .resolveTarget | .resolveCaller _ | .snapshotActive _
  | .snapshotSessions _ _ | .grant _ _ | .buildExt _ _ | .push _ _ _
  | .notify _ _ | .awaitReply _ _ => .waiting

/-- The message of the call is in the queue of its target. -/
def pushed : CallPhase → Bool
  | .notify _ _ | .awaitReply _ _ | .release _ _ _ _ | .notifyReply _ _
  | .finished _ => true
  | .resolveTarget | .resolveCaller _ | .snapshotActive _
  | .snapshotSessions _ _ | .grant _ _ | .buildExt _ _ | .push _ _ _
  | .dropped => false

lemma taken_of_pushed {phase : CallPhase} (hpushed : phase.pushed = true)
    (hwaiting : phase.outlook = .waiting) : ∃ pre, phase.reclaim = .taken pre := by
  cases phase with
  | notify _ snap | awaitReply _ snap => exact ⟨snap.preSessions, rfl⟩
  | release _ _ outcome _ => cases outcome <;> cases hwaiting
  | notifyReply _ _ => cases hwaiting
  | finished result =>
    rw [outlook] at hwaiting
    split at hwaiting <;> cases hwaiting
  | _ => cases hpushed

lemma pushed_of_untaken {phase : CallPhase}
    (huntaken : phase.reclaim = .untaken) : phase.pushed = false := by
  cases phase with
  | release _ _ _ stage => cases stage <;> cases huntaken
  | notify _ _ | awaitReply _ _ | notifyReply _ _ | finished _ =>
    cases huntaken
  | _ => rfl

end CallPhase

namespace CallAgent

variable {call : CallAgent} {phase : CallPhase} {world : World} {env : Env}

lemma outlook_reclaimNext (parties : CallParties) (snap : Snapshot)
    (outcome : CallOutcome) (stage : ReleaseStage) (names : List String) :
    (afterRelease parties outcome).outlook = (release parties snap outcome stage).outlook ∧
      (reclaimNext parties snap outcome names).outlook =
        (release parties snap outcome stage).outlook := by
  cases outcome <;> cases names <;> exact ⟨rfl, rfl⟩

/-- The release does not change how the wait ended. -/
lemma outlook_release_next (parties : CallParties) (snap : Snapshot)
    (outcome : CallOutcome) (stage : ReleaseStage) :
    (call.next world env (.release parties snap outcome stage)).outlook =
      (release parties snap outcome stage).outlook := by
  have hreclaim := outlook_reclaimNext parties snap outcome stage
  cases stage with
  | inspect =>
    simp only [next, releaseNext]
    split <;> cases outcome <;> rfl
  | listSessions =>
    simp only [next, releaseNext]
    split
    · exact (hreclaim _).2
    · exact (hreclaim []).1
  | reclaim name rest => exact (hreclaim rest).2
  | _ => cases outcome <;> rfl

lemma replied_of_next (hnext : (call.next world env phase).outlook = .replied) :
    phase.outlook = .replied ∨ (world.waiter.delivered.lookup call.callId).isSome = true := by
  cases phase with
  | release parties snap outcome stage =>
    rw [outlook_release_next] at hnext
    exact .inl hnext
  | awaitReply parties snap =>
    simp only [next] at hnext
    split at hnext
    · next hdelivered => exact .inr (Option.isSome_of_eq_some hdelivered)
    · cases hnext
    · cases hnext
    · cases hnext
  | resolveTarget =>
    simp only [next] at hnext
    split at hnext <;> cases hnext
  | resolveCaller target =>
    simp only [next, gate] at hnext
    split at hnext <;> cases hnext
  | notifyReply _ _ => exact .inl rfl
  | finished result => exact .inl hnext
  | _ => cases hnext

lemma givenUp_next (hgivenUp : phase.outlook = .givenUp) :
    (call.next world env phase).outlook = .givenUp := by
  cases phase with
  | release parties snap outcome stage =>
    rw [outlook_release_next]
    exact hgivenUp
  | finished _ | dropped => exact hgivenUp
  | _ => cases hgivenUp

end CallAgent

/-- A call that names a session gets the id that is stored for it. -/
lemma CallAgent.sessionId_buildHubExtForA2a {call : CallAgent}
    {name : String} (hsession : call.params.session = some name)
    (hname : name ≠ "") (store : Store) (parties : CallParties) :
    (call.buildHubExtForA2a store parties true).bind HubExt.sessionId =
      (store.getBackendSession (call.pair parties) name).bind trimmedNonBlank := by
  have hfilter : (some name).filter (fun name => decide (name ≠ "")) =
      some name := by
    rw [Option.filter_some, if_pos (decide_eq_true hname)]
  simp only [buildHubExtForA2a, buildHubExtForVctx, replySession, hsession,
    Option.getD_some, hfilter, if_true, Option.map_some, Option.bind_some]

/-- The request has written the session that it reports. -/
def SendPhase.persisted : SendPhase → Bool
  | .persistUsage _ _ | .answer _ => true
  | .finished response => response = .ok
  | .authenticate | .resolve _ _ | .persistSession _ _ | .forward _ => false

/-- The request answers a call and reports an id for a session of the pair; both
count without the white space around them. -/
def SendMessage.Reports (send : SendMessage) (callId : String)
    (pair : PairKey) (name id : String) : Prop :=
  ∃ msg, send.Addresses pair msg ∧ msg.ilinkHubExt.bind HubExt.a2aCallId = some callId ∧
    (msg.ilinkHubExt.bind HubExt.sessionName).bind trimmedNonBlank = some name ∧
    SendMessage.cliSessionId msg = some id

/-- The request does not carry the call id. -/
def SendMessage.carriesCallId (send : SendMessage) (callId : String) : Bool :=
  (send.req.msg.bind WeixinMessage.ilinkHubExt).bind HubExt.a2aCallId = some callId

namespace SendMessage

variable {send : SendMessage} {callId : String} {pair : PairKey} {name id : String}

lemma Reports.of_addresses (hreports : send.Reports callId pair name id)
    {own : PairKey} {msg : WeixinMessage} (haddresses : send.Addresses own msg) :
    own = pair ∧ msg.ilinkHubExt.bind HubExt.a2aCallId = some callId ∧
      (∀ dbName, replySession msg dbName = name) ∧ cliSessionId msg = some id := by
  obtain ⟨msg', hown, hcallId, hname, hid⟩ := hreports
  obtain rfl := Option.some.inj (haddresses.request.symm.trans hown.request)
  refine ⟨?_, hcallId, ?_, hid⟩
  · have hvtoken := Option.some.inj (haddresses.token.symm.trans hown.token)
    have hvctx := Option.some.inj (haddresses.context.symm.trans hown.context)
    exact congrArg₂ PairKey.mk hvctx hvtoken
  · intro dbName
    rw [replySession, hname, Option.getD_some]

lemma Reports.normal (hreports : send.Reports callId pair name id) :
    name ≠ "" ∧ trimmedNonBlank id = some id := by
  obtain ⟨msg, -, -, hname, hid⟩ := hreports
  obtain ⟨rawName, -, hname⟩ := Option.bind_eq_some_iff.mp hname
  obtain ⟨rawId, -, hid⟩ := Option.bind_eq_some_iff.mp hid
  exact ⟨(trimmedNonBlank_of_eq_some hname).2, (trimmedNonBlank_of_eq_some hid).1⟩

lemma persisted_admission (send : SendMessage) (env : Env) :
    (send.admission env).persisted = false := by
  unfold admission
  repeat' split
  all_goals rfl

/-- A request that reports an id writes it before it goes on. -/
lemma persisted_next_resolve {msg : WeixinMessage} {world : World}
    {env : Env} (hid : cliSessionId msg = some id) :
    (send.next world env (.resolve pair msg)).persisted = false := by
  rw [cliSessionId] at hid
  simp only [next, afterResolve, hid]
  repeat' split
  all_goals rfl

end SendMessage

namespace A2aHub

/-- The store answers the call and its answer, the answer comes after the message
was pushed, and nobody else writes the session. -/
def ReportedStep [DecidableEq ι] [DecidableEq κ] (procs : Processes ι κ υ)
    (i : ι) (k : κ) (key : SessionKey) (state : A2aHub ι κ υ) :
    A2aEvent ι κ υ → Prop
  | .call j env =>
    if j = i then env.ok = true
    else ((procs.call j).op (state.calls j)).backendKey ≠ some key
  | .send l env =>
    if l = k then env.ok = true ∧ (state.calls i).pushed = true
    else (SendMessage.op (state.sends l)).backendKey ≠ some key
  | .user x _ => ((procs.user x).op (state.users x)).backendKey ≠ some key
  | .drop j _ _ =>
    j ≠ i ∧ ((procs.call j).op (state.calls j)).backendKey ≠ some key

/-- The reported session up to the end of call `i`.  It `was` there before the
call, or its release takes it away. -/
structure Reported (procs : Processes ι κ υ) (i : ι) (k : κ)
    (parties : CallParties) (name id : String) (was : Prop)
    (state : A2aHub ι κ υ) : Prop where
  here : (state.calls i).parties = some parties ∨ ∃ result, state.calls i = .finished result
  carries : ∀ l, (procs.send l).Carries (state.sends l)
  delivered :
    (state.world.waiter.delivered.lookup (procs.call i).callId).isSome = true →
      state.sends k = .finished .ok
  replied : (state.calls i).outlook = .replied → state.sends k = .finished .ok
  before : state.reclaimOf procs i ((procs.call i).pair parties) = .untaken →
    state.sends k = .authenticate
  tracks : (state.calls i).outlook ≠ .givenUp → DiffReclaim.Tracks name was
      (state.world.store.sessionNames ((procs.call i).pair parties))
      (state.reclaimOf procs i ((procs.call i).pair parties))
  stored : (state.calls i).outlook ≠ .givenUp → (state.sends k).persisted = true →
    (was ∨ ∃ pre, state.reclaimOf procs i ((procs.call i).pair parties) = .taken pre) →
    state.world.store.getBackendSession ((procs.call i).pair parties) name = some id

variable {procs : Processes ι κ υ} {i : ι} {k : κ} {parties : CallParties}
  {name id : String} {was : Prop} {state : A2aHub ι κ υ}

section Reported

variable (hreported : state.Reported procs i k parties name id was)

include hreported

lemma Reported.reclaimOf_eq :
    state.reclaimOf procs i ((procs.call i).pair parties) = (state.calls i).reclaim := by
  rw [reclaimOf, reclaimAt]
  rcases hreported.here with hparties | ⟨result, hfinished⟩
  · rw [elsewhere_eq_false hparties]
    rfl
  · rw [hfinished]
    rfl

/-- What the answer has written once it counts as persisted. -/
lemma Reported.stored_step_send (hreports : (procs.send k).Reports (procs.call i).callId
      ((procs.call i).pair parties) name id) {env : Env}
    (hok : env.ok = true) (hopen : (state.calls i).outlook ≠ .givenUp)
    (hkept : was ∨ ∃ pre, state.reclaimOf procs i ((procs.call i).pair parties) = .taken pre)
    (hpersisted : ((procs.send k).next state.world env (state.sends k)).persisted = true) :
    (state.world.store.attempt env.ok env.now (SendMessage.op (state.sends k))).getBackendSession
      ((procs.call i).pair parties) name = some id := by
  have hcarries := hreported.carries k
  have hstored := hreported.stored hopen
  cases hphase : state.sends k with
  | authenticate =>
    simp [hphase, SendMessage.next, SendMessage.persisted_admission] at hpersisted
  | resolve pair msg =>
    rw [hphase] at hpersisted hcarries
    have hid := (hreports.of_addresses hcarries).2.2.2
    simp [SendMessage.persisted_next_resolve hid] at hpersisted
  | persistSession reply cliSessionId =>
    rw [hphase] at hcarries
    obtain ⟨haddresses, ⟨dbName, hsession⟩, hcli⟩ := hcarries
    obtain ⟨hpair, -, hname, hid⟩ := hreports.of_addresses haddresses
    obtain rfl := Option.some.inj (hid.symm.trans hcli)
    rw [SendMessage.op, hok, attempt_ok, apply, getBackendSession, lookup_setBackendSession, hpair,
      hsession, hname, if_pos rfl]
    rfl
  | persistUsage reply usage =>
    rw [hphase] at hstored
    exact getBackendSession_attempt (hstored rfl hkept) rfl
  | answer reply =>
    rw [hphase] at hstored
    simp only [SendMessage.op, attempt_skip]
    exact hstored rfl hkept
  | forward reply =>
    rw [hphase] at hpersisted
    cases hpersisted
  | finished response =>
    rw [hphase] at hstored hpersisted
    simp only [SendMessage.op, attempt_skip]
    exact hstored hpersisted hkept

/-- At the end of an answered call the session is there with the reported id, or
it is gone. -/
lemma Reported.getBackendSession_eq
    {result : CallResult} (hfinished : state.calls i = .finished result)
    (hanswered : result.session.isSome = true) :
    (was → state.world.store.getBackendSession ((procs.call i).pair parties) name = some id) ∧
      (¬ was → state.world.store.getBackendSession ((procs.call i).pair parties) name = none) := by
  have houtlook : (state.calls i).outlook = .replied := by
    rw [hfinished, outlook, if_pos hanswered]
  have hopen : (state.calls i).outlook ≠ .givenUp := by
    rw [houtlook]
    exact fun h => nomatch h
  constructor
  · intro hwas
    refine hreported.stored hopen ?_ (.inl hwas)
    rw [hreported.replied houtlook]
    rfl
  · intro hnew
    have htracks := hreported.tracks hopen
    rw [hreported.reclaimOf_eq, hfinished] at htracks
    have hgone : name ∉ state.world.store.sessionNames ((procs.call i).pair parties) := by
      intro hname
      exact List.not_mem_nil (htracks.2 hnew hname)
    rw [sessionNames, Set.mem_ofPred_eq, Bool.not_eq_true,
      Option.isSome_eq_false_iff, Option.isNone_iff_eq_none] at hgone
    rw [getBackendSession, hgone]
    rfl

/-- A listing that is still good after a step of the call was good before it,
once the answer has written the session. -/
lemma Reported.kept_before {before after : Set String} {next : DiffReclaim.Stage String}
    (hstep : DiffReclaim.Step true before
      (state.reclaimOf procs i ((procs.call i).pair parties)) next after)
    (hpersisted : (state.sends k).persisted = true) (hkept : was ∨ ∃ pre, next = .taken pre) :
    was ∨ ∃ pre, state.reclaimOf procs i ((procs.call i).pair parties) = .taken pre := by
  rcases hkept with hwas | ⟨pre, rfl⟩
  · exact .inl hwas
  · right
    cases hstage : state.reclaimOf procs i ((procs.call i).pair parties) with
    | taken pre => exact ⟨pre, rfl⟩
    | untaken =>
      rw [hreported.before hstage] at hpersisted
      cases hpersisted
    | deleting left =>
      rw [hstage] at hstep
      cases hstep

/-- The call does not delete a session that it has to keep. -/
lemma Reported.backendKey_ne (hopen : (state.calls i).outlook ≠ .givenUp)
    (hkept : was ∨ ∃ pre, state.reclaimOf procs i ((procs.call i).pair parties) = .taken pre) :
    ((procs.call i).op (state.calls i)).backendKey ≠ some ⟨(procs.call i).pair parties, name⟩ := by
  intro hkey
  have htracks := hreported.tracks hopen
  obtain ⟨rest, hdeleting⟩ := deleting_of_backendKey hkey
  rw [reclaimOf, hdeleting] at htracks hkept
  rcases hkept with hwas | ⟨pre, hpre⟩
  · exact htracks.1 hwas List.mem_cons_self
  · cases hpre

end Reported

lemma reported_start (hgate : state.calls i = .snapshotActive parties)
    (hrequests : ∀ l, (procs.send l).Carries (state.sends l))
    (hsend : state.sends k = SendMessage.start)
    (hnew : state.world.waiter.delivered.lookup (procs.call i).callId = none) :
    state.Reported procs i k parties name id
      ((state.world.store.getBackendSession ((procs.call i).pair parties) name).isSome = true) := by
  have hreclaim : state.reclaimOf procs i ((procs.call i).pair parties) = .untaken := by
    rw [reclaimOf, reclaimAt, hgate, elsewhere_eq_false rfl]
    rfl
  have hwas : name ∈ state.world.store.sessionNames ((procs.call i).pair parties) ↔
        (state.world.store.getBackendSession ((procs.call i).pair parties) name).isSome = true := by
    rw [getBackendSession, Option.isSome_map]
    rfl
  refine ⟨?_, hrequests, ?_, ?_, fun _ => hsend, ?_, ?_⟩
  · rw [hgate]
    exact .inl rfl
  · rw [hnew]
    intro h
    cases h
  · rw [hgate]
    intro h
    cases h
  · rw [hreclaim]
    exact fun _ => hwas
  · rw [hsend]
    intro reply hreply
    cases hreply

variable [DecidableEq ι] [DecidableEq κ] [DecidableEq υ]

section Steps

variable (hreported : state.Reported procs i k parties name id was)

include hreported

/-- A step of the call.  It deletes the session only if it was not there before,
and then only after the answer is in. -/
lemma Reported.step_call {env : Env} (hok : env.ok = true) :
    (state.step procs (.call i env)).Reported procs i k parties name id was := by
  have hcalls : (state.step procs (.call i env)).calls i = _ :=
    calls_step_call state i env
  have hreclaim : (state.step procs (.call i env)).reclaimOf procs i
      ((procs.call i).pair parties) = (procs.call i).reclaimAt ((procs.call i).pair parties)
        ((procs.call i).next state.world env (state.calls i)) := by
    rw [reclaimOf, hcalls]
  have hstep : DiffReclaim.Step true (state.world.store.sessionNames ((procs.call i).pair parties))
      (state.reclaimOf procs i ((procs.call i).pair parties))
      ((state.step procs (.call i env)).reclaimOf procs i ((procs.call i).pair parties))
      ((state.step procs (.call i env)).world.store.sessionNames
        ((procs.call i).pair parties)) := by
    rw [hreclaim]
    exact (procs.call i).reclaimAt_step _ (state.calls i) state.world fun _ => hok
  have hopen : ((state.step procs (.call i env)).calls i).outlook ≠
      .givenUp → (state.calls i).outlook ≠ .givenUp := by
    intro hnext hgivenUp
    rw [hcalls] at hnext
    exact hnext (givenUp_next hgivenUp)
  refine ⟨?_, fun l => carries_step (hreported.carries l) _, ?_, ?_, ?_, ?_, ?_⟩
  · rw [hcalls]
    rcases hreported.here with hparties | ⟨result, hfinished⟩
    · exact parties_next _ _ _ hparties
    · rw [hfinished]
      exact .inr ⟨result, rfl⟩
  · intro hdelivered
    rw [show (state.step procs (.call i env)).world.waiter.delivered = _ from
      waiterAfter_delivered] at hdelivered
    exact hreported.delivered hdelivered
  · intro hreplied
    rw [hcalls] at hreplied
    rcases replied_of_next hreplied with hreplied | hdelivered
    · exact hreported.replied hreplied
    · exact hreported.delivered hdelivered
  · intro huntaken
    rw [huntaken] at hstep
    exact hreported.before hstep.untaken
  · intro hnext
    exact (hreported.tracks (hopen hnext)).step hstep
  · intro hnext hpersisted hkept
    have hbefore := hreported.kept_before hstep hpersisted hkept
    rw [store_step, getBackendSession, op, backend_lookup_attempt_of_ne
        (hreported.backendKey_ne (hopen hnext) hbefore)]
    exact hreported.stored (hopen hnext) hpersisted hbefore

/-- An event of somebody else, who leaves the session and the waiter entry of the
call alone. -/
lemma Reported.step_other {event : A2aEvent ι κ υ} (hcalls : event.ofCall i = false)
    (hsends : (state.step procs event).sends k = state.sends k)
    (hkey : (state.op procs event).backendKey ≠ some ⟨(procs.call i).pair parties, name⟩)
    (hdelivered :
      (state.step procs event).world.waiter.delivered.lookup (procs.call i).callId =
        state.world.waiter.delivered.lookup (procs.call i).callId) :
    (state.step procs event).Reported procs i k parties name id was := by
  have hphase : (state.step procs event).calls i = state.calls i :=
    calls_step_of_other hcalls
  have hlookup : (state.step procs event).world.store.backend.lookup
      ⟨(procs.call i).pair parties, name⟩ = state.world.store.backend.lookup
          ⟨(procs.call i).pair parties, name⟩ := by
    rw [store_step, backend_lookup_attempt_of_ne hkey]
  refine ⟨?_, fun l => carries_step (hreported.carries l) _, ?_, ?_, ?_, ?_, ?_⟩
  · rw [hphase]
    exact hreported.here
  · rw [hdelivered, hsends]
    exact hreported.delivered
  · rw [hphase, hsends]
    exact hreported.replied
  · rw [reclaimOf_step_of_other hcalls, hsends]
    exact hreported.before
  · rw [hphase, reclaimOf_step_of_other hcalls]
    intro hopen
    refine (hreported.tracks hopen).congr ?_
    rw [sessionNames, Set.mem_ofPred_eq, hlookup]
    rfl
  · rw [hphase, hsends, reclaimOf_step_of_other hcalls, getBackendSession, hlookup]
    exact hreported.stored

lemma Reported.step_send (hreports : (procs.send k).Reports (procs.call i).callId
      ((procs.call i).pair parties) name id) {env : Env}
    (hok : env.ok = true) (hpushed : (state.calls i).pushed = true) :
    (state.step procs (.send k env)).Reported procs i k parties name id was := by
  have hsends : (state.step procs (.send k env)).sends k = _ :=
    sends_step_send state k env
  have hsent : state.sends k = .finished .ok →
      (state.step procs (.send k env)).sends k = .finished .ok := by
    intro hfinished
    rw [hsends, hfinished]
    rfl
  refine ⟨hreported.here, fun l => carries_step (hreported.carries l) _, ?_,
    fun h => hsent (hreported.replied h), ?_, ?_, ?_⟩
  · intro hdelivered
    by_cases hbefore : (state.world.waiter.delivered.lookup (procs.call i).callId).isSome = true
    · exact hsent (hreported.delivered hbefore)
    · -- Only the answer itself can have put the reply there.
      cases hphase : state.sends k with
      | answer reply =>
        have hcarries := hreported.carries k
        rw [hphase] at hcarries
        obtain ⟨-, hcallId, -⟩ := hreports.of_addresses hcarries.1
        rw [hsends, hphase, SendMessage.next, hcallId]
        rfl
      | _ =>
        simp only [step, hphase] at hdelivered
        exact absurd hdelivered hbefore
  · intro huntaken
    have hreclaim : (state.calls i).reclaim = .untaken := by
      rw [← hreported.reclaimOf_eq]
      exact huntaken
    simp [pushed_of_untaken hreclaim] at hpushed
  · intro hopen
    have htracks := hreported.tracks hopen
    cases houtlook : (state.calls i).outlook with
    | givenUp => exact absurd houtlook hopen
    | waiting =>
      -- While the call waits the names may change.
      obtain ⟨pre, hpre⟩ := taken_of_pushed hpushed houtlook
      rw [hreported.reclaimOf_eq, hpre] at htracks
      have hreclaim : (state.step procs (.send k env)).reclaimOf procs i
          ((procs.call i).pair parties) = .taken pre :=
        hreported.reclaimOf_eq.trans hpre
      rw [hreclaim]
      exact htracks
    | replied =>
      have hstore : (state.step procs (.send k env)).world.store = state.world.store := by
        rw [store_step, op, hreported.replied houtlook]
        exact attempt_skip
      rw [hstore]
      exact htracks
  · intro hopen hpersisted hkept
    rw [hsends] at hpersisted
    exact hreported.stored_step_send hreports hok hopen hkept hpersisted

end Steps

/-- A request that does not carry the call id leaves the reply of the call
alone. -/
lemma delivered_waiterAfter {send : SendMessage} {phase : SendPhase}
    (hcarries : send.Carries phase) {callId : String} (hother : send.carriesCallId callId = false)
    (waiter : A2aWaiter) :
    (SendMessage.waiterAfter waiter phase).delivered.lookup callId =
      waiter.delivered.lookup callId := by
  cases phase with
  | answer reply =>
    simp only [SendMessage.waiterAfter]
    split
    · next other text hcallId _ =>
      have hne : callId ≠ other := by
        rintro rfl
        rw [SendMessage.carriesCallId, hcarries.1.request] at hother
        exact of_decide_eq_false hother hcallId
      split
      · unfold A2aWaiter.resolve
        split
        · exact AList.lookup_insert_ne hne
        · rfl
      · rfl
    · rfl
  | _ => rfl

lemma Reported.step (hreports : (procs.send k).Reports (procs.call i).callId
      ((procs.call i).pair parties) name id)
    (honly : ∀ l, l ≠ k → (procs.send l).carriesCallId (procs.call i).callId = false)
    (state : A2aHub ι κ υ) (event : A2aEvent ι κ υ)
    (hreported : state.Reported procs i k parties name id was)
    (hcond : state.ReportedStep procs i k ⟨(procs.call i).pair parties, name⟩ event) :
    (state.step procs event).Reported procs i k parties name id was := by
  cases event with
  | call j env =>
    by_cases hji : j = i
    · subst hji
      rw [ReportedStep, if_pos rfl] at hcond
      exact hreported.step_call hcond
    · rw [ReportedStep, if_neg hji] at hcond
      refine hreported.step_other (decide_eq_false hji) rfl hcond ?_
      exact congrArg (AList.lookup _) waiterAfter_delivered
  | send l env =>
    by_cases hlk : l = k
    · subst hlk
      rw [ReportedStep, if_pos rfl] at hcond
      exact hreported.step_send hreports hcond.1 hcond.2
    · rw [ReportedStep, if_neg hlk] at hcond
      exact hreported.step_other rfl (sends_step_send_of_ne (.symm hlk) env) hcond
        (delivered_waiterAfter (hreported.carries l) (honly l hlk) _)
  | user x env => exact hreported.step_other rfl rfl hcond rfl
  | drop j applied now =>
    refine hreported.step_other (decide_eq_false hcond.1) rfl hcond.2 ?_
    rw [waiter_step_drop]

/-- A call that names the session of an earlier, answered call gets the id that
the answer reported exactly if the session was there before the earlier call:
otherwise the release of that call has taken it away. -/
theorem session_resumed_iff {start : A2aHub ι κ υ} (hgate : start.calls i = .snapshotActive parties)
    (hrequests : ∀ l, (procs.send l).Carries (start.sends l))
    (hsend : start.sends k = SendMessage.start)
    (hnew : start.world.waiter.delivered.lookup (procs.call i).callId = none)
    (hreports : (procs.send k).Reports (procs.call i).callId ((procs.call i).pair parties) name id)
    (honly : ∀ l, l ≠ k → (procs.send l).carriesCallId (procs.call i).callId = false)
    {events : List (A2aEvent ι κ υ)} (hsteps : EveryStep (step procs)
      (ReportedStep procs i k ⟨(procs.call i).pair parties, name⟩) start events) {text : String}
    (hfirst : (run (step procs) start events).calls i =
      .finished { text := text, session := some name })
    {j : ι} {parties' : CallParties} {snap : Snapshot}
    (hsecond : (run (step procs) start events).calls j = .buildExt parties' snap)
    (hpair : (procs.call j).pair parties' = (procs.call i).pair parties)
    (hsession : (procs.call j).params.session = some name)
    {env : Env} (hok : env.ok = true) :
    ∃ hubExt,
      (run (step procs) start (events ++ [.call j env])).calls j =
          .push parties' snap hubExt ∧
        (hubExt.bind HubExt.sessionId = some id ↔
          (start.world.store.getBackendSession ((procs.call i).pair parties)
            name).isSome = true) := by
  have hstart : start.Reported procs i k parties name id _ :=
    reported_start hgate hrequests hsend hnew
  obtain ⟨hthere, hgone⟩ := (run_invariant_of_everyStep
    (.step hreports honly) hstart hsteps).getBackendSession_eq hfirst rfl
  obtain ⟨hname, hid⟩ := hreports.normal
  refine ⟨(procs.call j).buildHubExtForA2a
    (run (step procs) start events).world.store parties' env.ok,
    ?_, ?_⟩
  · rw [run_append, run_cons, run_nil, calls_step_call, hsecond]
    rfl
  · rw [hok, sessionId_buildHubExtForA2a hsession hname, hpair]
    by_cases hexisted : (start.world.store.getBackendSession
        ((procs.call i).pair parties) name).isSome = true
    · rw [hthere hexisted, Option.bind_some]
      exact iff_of_true hid hexisted
    · rw [hgone hexisted]
      exact iff_of_false (Option.some_ne_none id).symm hexisted

instance (state : A2aHub ι κ υ) (key : SessionKey) :
    ∀ event, Decidable (state.ReportedStep procs i k key event)
  | .call _ _ => inferInstanceAs (Decidable (ite _ _ _))
  | .send _ _ => inferInstanceAs (Decidable (ite _ _ _))
  | .user _ _ => inferInstanceAs (Decidable (_ ≠ _))
  | .drop _ _ _ => inferInstanceAs (Decidable (_ ∧ _))

end A2aHub

namespace Sample

/-- The answer to the first call reports the id `uuid` for the session. -/
def report (name : String) : WeixinMessage where
  contextToken := some "vctx_1"
  itemList := some [{ itemType := some 1, textItem := some { text := some "done" } }]
  ilinkHubExt := some
    { sessionName := some name
      cliSessionId := some "uuid"
      a2aCallId := some "1" }

/-- A call and a second one that names the session of the first one. -/
def callAndResume (session : Option String) : Processes Bool Unit Empty where
  call := fun
    | false => { call "1" with
        params :=
          { targetName := "bot", message := "hi", session := session } }
    | true => { call "2" with
        params :=
          { targetName := "bot"
            message := "go on"
            session := some (session.getD "a2a-1") } }
  send := fun _ => ⟨some "t", ⟨some (report (session.getD "a2a-1"))⟩⟩
  user := Empty.elim

def answered (now : Int) : Env :=
  { tick now with wake := .reply }

def callSeq (i : Bool) (n : Nat) : List (A2aEvent Bool Unit Empty) :=
  List.replicate n (.call i (answered 100))

/-- The first call from the gate to its end, with its answer, and the second one
up to the extension block of its message. -/
def resumed (reclaimed : Nat) : List (A2aEvent Bool Unit Empty) :=
  callSeq false 6 ++ List.replicate 4 (.send () (answered 100)) ++
    callSeq false (5 + reclaimed) ++ callSeq true 5

/-- The first call is past the gate; the session `work` exists. -/
def beforeResume (session : Option String) : A2aHub Bool Unit Empty :=
  let world := world none
  run (A2aHub.step (callAndResume session)) (.start (callAndResume session) { world with
      store := world.store.setBackendSession pair "work" "" })
    (callSeq false 2)

end Sample

namespace A2aHub

set_option maxRecDepth 8000 in
theorem session_resumed_of_existing :
    ∃ hubExt, (run (step (callAndResume (some "work"))) (beforeResume (some "work"))
          (resumed 0 ++ [.call true (answered 100)])).calls true =
        .push Sample.parties ⟨none, some ["work"]⟩ hubExt ∧
      hubExt.bind HubExt.sessionId = some "uuid" := by
  have hreports : ((callAndResume (some "work")).send ()).Reports "1" pair "work" "uuid" :=
    ⟨report "work", ⟨rfl, rfl, rfl⟩, rfl, by decide, by decide⟩
  have hgate : (beforeResume (some "work")).calls false = .snapshotActive parties := by decide
  have hrequests : ∀ l, ((callAndResume (some "work")).send l).Carries
      ((beforeResume (some "work")).sends l) := fun _ => trivial
  have hsteps : EveryStep (step (callAndResume (some "work")))
      (ReportedStep (callAndResume (some "work")) false ()
        ⟨pair, "work"⟩) (beforeResume (some "work"))
      (resumed 0) := by decide
  have hfirst : (run (step (callAndResume (some "work")))
      (beforeResume (some "work")) (resumed 0)).calls false =
      .finished { text := "done", session := some "work" } := by decide
  have hsecond : (run (step (callAndResume (some "work")))
      (beforeResume (some "work")) (resumed 0)).calls true =
      .buildExt parties ⟨none, some ["work"]⟩ := by decide
  have hok : (answered 100).ok = true := rfl
  obtain ⟨hubExt, hpush, hiff⟩ := session_resumed_iff hgate hrequests rfl (by decide) hreports
    (fun l hl => absurd rfl hl) hsteps hfirst hsecond rfl rfl hok
  have hexisted : ((beforeResume (some "work")).world.store.getBackendSession pair
        "work").isSome = true := by decide
  exact ⟨hubExt, hpush, hiff.mpr hexisted⟩

set_option maxRecDepth 8000 in
/-- Without a session argument the session of the call is new.  Its id is gone
when the second call asks for it. -/
theorem new_session_not_resumed :
    EveryStep (step (callAndResume none))
        (ReportedStep (callAndResume none) false () ⟨Sample.pair, "a2a-1"⟩)
        (beforeResume none) (resumed 1) ∧
      (run (step (callAndResume none)) (beforeResume none) (resumed 1)).calls false =
        .finished { text := "done", session := some "a2a-1" } ∧
      (run (step (callAndResume none)) (beforeResume none)
        (resumed 1 ++ [.call true (answered 100)])).calls true =
        .push Sample.parties ⟨none, some ["work"]⟩
          (some { sessionName := some "a2a-1", a2aCallId := some "2",
                  a2aDepth := some 1 }) :=
  ⟨by decide, by decide, by decide⟩

end A2aHub

end IlinkHub
