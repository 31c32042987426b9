/-
Who can answer a pending agent call, and how often.
-/
import IlinkHub.A2aResume

namespace IlinkHub

open SendMessage

universe u v w

variable {ι : Type u} {κ : Type v} {υ : Type w}

namespace SendMessage

/-- The call id and the text that a request in this phase gives to the waiter. -/
def handsOver : SendPhase → Option (String × String)
  | .answer reply =>
    match reply.msg.ilinkHubExt.bind HubExt.a2aCallId, reply.msg.text with
    | some callId, some text =>
      if callId ≠ "" ∧ text ≠ "" then some (callId, text) else none
    | _, _ => none
  | _ => none

variable {phase : SendPhase}

lemma of_handsOver {callId text : String} (hhands : handsOver phase = some (callId, text)) : ∃
    reply, phase = .answer reply ∧ reply.msg.ilinkHubExt.bind HubExt.a2aCallId = some callId ∧
      reply.msg.text = some text ∧ callId ≠ "" ∧ text ≠ "" := by
  cases phase with
  | answer reply =>
    simp only [handsOver] at hhands
    split at hhands
    · next hcallId htext =>
      split at hhands
      · next hnonempty =>
        obtain ⟨rfl, rfl⟩ := Prod.mk.inj (Option.some.inj hhands)
        exact ⟨reply, rfl, hcallId, htext, hnonempty⟩
      · cases hhands
    · cases hhands
  | _ => cases hhands

lemma waiterAfter_of_handsOver {callId text : String}
    (hhands : handsOver phase = some (callId, text)) (waiter : A2aWaiter) :
    waiterAfter waiter phase = (waiter.resolve callId text).2 := by
  obtain ⟨reply, rfl, hcallId, htext, hnonempty⟩ := of_handsOver hhands
  simp only [waiterAfter, hcallId, htext]
  rw [if_pos hnonempty]

/-- A request hands over the call id that it was sent with. -/
lemma carriesCallId_of_handsOver {send : SendMessage}
    (hcarries : send.Carries phase) {callId text : String}
    (hhands : handsOver phase = some (callId, text)) : send.carriesCallId callId = true := by
  obtain ⟨reply, rfl, hcallId, -⟩ := of_handsOver hhands
  rw [carriesCallId, hcarries.1.request]
  exact decide_eq_true hcallId

end SendMessage

namespace A2aHub

/-- The request that resolves the pending call at this event. -/
def resolvedBy (callId : String) (state : A2aHub ι κ υ) :
    A2aEvent ι κ υ → Option κ
  | .send k _ =>
    if (handsOver (state.sends k)).map Prod.fst = some callId ∧
        callId ∈ state.world.waiter.pending then some k
    else none
  | .call _ _ | .user _ _ | .drop _ _ _ => none

variable (procs : Processes ι κ υ)

variable [DecidableEq ι] [DecidableEq κ] [DecidableEq υ]

/-- The requests that resolve the call in the course of a run. -/
def resolutions (callId : String) :
    A2aHub ι κ υ → List (A2aEvent ι κ υ) → List κ
  | _, [] => []
  | state, event :: events =>
    (state.resolvedBy callId event).toList ++ resolutions callId (state.step procs event) events

variable {procs} {i : ι} {callId : String} {state : A2aHub ι κ υ} {event : A2aEvent ι κ υ}

variable (procs) in
lemma of_resolvedBy {k : κ} (hresolved : state.resolvedBy callId event = some k) :
    (∃ text, handsOver (state.sends k) = some (callId, text)) ∧ callId ∈
      state.world.waiter.pending ∧ callId ∉ (state.step procs event).world.waiter.pending := by
  cases event with
  | send l env =>
    simp only [resolvedBy] at hresolved
    split at hresolved
    · next hboth =>
      obtain rfl := Option.some.inj hresolved
      obtain ⟨⟨own, text⟩, hhands, rfl⟩ :=
        Option.map_eq_some_iff.mp hboth.1
      refine ⟨⟨text, hhands⟩, hboth.2, ?_⟩
      have hwaiter : (state.step procs (.send l env)).world.waiter =
          (state.world.waiter.resolve own text).2 :=
        waiterAfter_of_handsOver hhands _
      rw [hwaiter, A2aWaiter.resolve, if_pos hboth.2]
      simp
    · cases hresolved
  | _ => cases hresolved

/-- A call that is past the gate is not registered again. -/
lemma mem_pending_of_step (hids : ∀ j, j ≠ i → (procs.call j).callId ≠ (procs.call i).callId)
    (hgate : (state.calls i).resolves = false)
    (hmem : (procs.call i).callId ∈ (state.step procs event).world.waiter.pending) :
    (procs.call i).callId ∈ state.world.waiter.pending := by
  cases hcall : event.ofCall i with
  | false => exact (waiter_advances hids hcall).pending hmem
  | true =>
    rcases A2aEvent.of_ofCall hcall with ⟨env, rfl⟩ | ⟨applied, now, rfl⟩
    · rcases CallAgent.mem_pending_waiterAfter hmem with
        hmem | ⟨-, hresolves⟩
      · exact hmem
      · simp [hgate] at hresolves
    · rwa [waiter_step_drop] at hmem

variable (procs event) in
lemma resolves_step (hgate : (state.calls i).resolves = false) :
    ((state.step procs event).calls i).resolves = false := by
  cases hcall : event.ofCall i with
  | false =>
    rw [calls_step_of_other hcall]
    exact hgate
  | true =>
    rcases A2aEvent.of_ofCall hcall with ⟨env, rfl⟩ | ⟨applied, now, rfl⟩
    · rw [calls_step_call, ← Bool.not_eq_true]
      intro hnext
      simp [CallAgent.resolves_of_next hnext] at hgate
    · rcases calls_step_drop state i applied now with
        ⟨result, -, hnext⟩ | hnext <;>
      · rw [hnext]
        rfl

/-- A pending call is resolved at most once, and one that is not pending any
more never. -/
lemma length_resolutions_le (hids : ∀ j, j ≠ i → (procs.call j).callId ≠ (procs.call i).callId)
    (hgate : (state.calls i).resolves = false) (events : List (A2aEvent ι κ υ)) :
    (resolutions procs (procs.call i).callId state events).length ≤
      if (procs.call i).callId ∈ state.world.waiter.pending then 1 else 0 := by
  induction events generalizing state with
  | nil => exact Nat.zero_le _
  | cons event events ih =>
    have hrest := ih (resolves_step procs event hgate)
    rw [resolutions, List.length_append]
    cases hresolved : state.resolvedBy (procs.call i).callId event with
    | none =>
      rw [Option.toList_none, List.length_nil, zero_add]
      refine hrest.trans ?_
      by_cases hmem : (procs.call i).callId ∈ (state.step procs event).world.waiter.pending
      · rw [if_pos hmem, if_pos (mem_pending_of_step hids hgate hmem)]
      · rw [if_neg hmem]
        exact Nat.zero_le _
    | some k =>
      obtain ⟨-, hbefore, hafter⟩ := of_resolvedBy procs hresolved
      rw [if_neg hafter, Nat.le_zero] at hrest
      rw [if_pos hbefore, hrest]
      rfl

/-- Whoever resolves a call was given its id. -/
lemma carriesCallId_of_mem_resolutions (hrequests : ∀ k, (procs.send k).Carries (state.sends k))
    {events : List (A2aEvent ι κ υ)} {k : κ} (hmem : k ∈ resolutions procs callId state events) :
    (procs.send k).carriesCallId callId = true := by
  induction events generalizing state with
  | nil => cases hmem
  | cons event events ih =>
    rcases List.mem_append.mp hmem with hfirst | hrest
    · obtain ⟨⟨text, hhands⟩, -⟩ :=
        of_resolvedBy procs (Option.mem_toList.mp hfirst)
      exact carriesCallId_of_handsOver (hrequests k) hhands
    · exact ih (fun l => carries_step (hrequests l) event) hrest

/-- A pending call is resolved at most once in every run, and only by requests
that carry its id.  So only its target resolves it if nobody else sends a request
with that id: the waiter does not look at the token. -/
theorem call_resolved_once_by_target {start : A2aHub ι κ υ} {parties : CallParties}
    (hgate : start.calls i = .snapshotActive parties)
    (hrequests : ∀ k, (procs.send k).Carries (start.sends k))
    (hids : ∀ j, j ≠ i → (procs.call j).callId ≠ (procs.call i).callId) (hsecret : ∀ k,
      (procs.send k).carriesCallId (procs.call i).callId = true →
        (procs.send k).vtoken = some parties.target.vtoken) (events : List (A2aEvent ι κ υ)) :
    (resolutions procs (procs.call i).callId start events).length ≤ 1 ∧
      ∀ k ∈ resolutions procs (procs.call i).callId start events,
        (procs.send k).vtoken = some parties.target.vtoken := by
  constructor
  · have hpast : (start.calls i).resolves = false := by
      rw [hgate]
      rfl
    have hlength := length_resolutions_le hids hpast events
    split at hlength
    · exact hlength
    · exact hlength.trans (Nat.zero_le 1)
  · intro k hmem
    exact hsecret k (carriesCallId_of_mem_resolutions hrequests hmem)

end A2aHub

namespace Sample

/-- A client `o` that serves another conversation knows the call id. -/
def forged : WeixinMessage where
  contextToken := some "vctx_2"
  itemList := some [{ itemType := some 1, textItem := some { text := some "forged" } }]
  ilinkHubExt := some { a2aCallId := some "1" }

def callAndForger : Processes Unit Unit Empty where
  call := fun _ => call "1"
  send := fun _ => ⟨some "o", ⟨some forged⟩⟩
  user := Empty.elim

def bothOnline (now : Int) : Env :=
  { now := now
    registry := .ofClients [bot, { name := "other", vtoken := "o", online := true }] }

/-- The call is past the gate; `o` holds a grant for its own conversation. -/
def beforeForgery : A2aHub Unit Unit Empty :=
  let world := world none
  Transition.run (A2aHub.step callAndForger) (.start callAndForger { world with
      store := { world.store with
        contexts := world.store.contexts.insert "vctx_2" ⟨"ctx2", some "peer:other"⟩
        active := world.store.active.insert ⟨"vctx_2", "o"⟩ ⟨"default", 0, 1000⟩ } })
    (List.replicate 2 (.call () (bothOnline 100)))

def forgery : List (A2aEvent Unit Unit Empty) :=
  List.replicate 6 (.call () (bothOnline 100)) ++ List.replicate 3 (.send () (bothOnline 100)) ++
    List.replicate 5 (.call () (bothOnline 100))

end Sample

open Sample

namespace A2aHub

set_option maxRecDepth 4000 in
theorem call_resolved_once_by_target_answer :
    resolutions callAndAnswer "1" (pastGate 1000) wholeCall = [()] ∧
      (callAndAnswer.send ()).vtoken = some parties.target.vtoken := by
  have hgate : (pastGate 1000).calls () = .snapshotActive parties := by decide
  have hresolved : resolutions callAndAnswer "1" (pastGate 1000) wholeCall = [()] := by decide
  have hsecret : ∀ k, (callAndAnswer.send k).carriesCallId "1" = true →
      (callAndAnswer.send k).vtoken =
        some parties.target.vtoken := fun _ _ => rfl
  have honce := call_resolved_once_by_target hgate (fun _ => trivial)
    (fun j hj => absurd rfl hj) hsecret wholeCall
  refine ⟨hresolved, honce.2 () ?_⟩
  exact hresolved ▸ List.mem_singleton_self ()

set_option maxRecDepth 4000 in
/-- The call to the bot returns what the other client sent. -/
theorem forger_resolves_call :
    beforeForgery.calls () = .snapshotActive parties ∧ resolutions callAndForger "1" beforeForgery
        forgery = [()] ∧
      (callAndForger.send ()).vtoken ≠ some parties.target.vtoken ∧
      (Transition.run (step callAndForger) beforeForgery forgery).calls () =
        .finished { text := "forged", session := some "a2a-1" } :=
  ⟨by decide, by decide, by decide, by decide⟩

end A2aHub

end IlinkHub
