/-
The `ForwardTo` arm of `dispatch_message` (`hub/dispatch/pipeline.rs`) as a
process that stops at every await point, and the hub in which routed user
messages run beside agent calls, requests and session commands.
-/
import IlinkHub.A2aHub
import IlinkHub.Dispatch

namespace IlinkHub

open Inbound

/-- A user message whose backend is decided; a quote-reply pins the session. -/
structure Forward where
  inbound : Inbound
  vtoken : String
  sessionOverride : Option String := none

/-- `finished` keeps the message that was handed to the queue. -/
inductive ForwardPhase where
  | resolve
  | readExt (vctx : String)
  | grant (vctx : String) (hubExt : Option HubExt)
  | push (vctx : String) (hubExt : Option HubExt)
  | finished (pushed : Option WeixinMessage)
deriving Repr, DecidableEq

namespace Forward

def start : ForwardPhase :=
  .resolve

variable (forward : Forward)

def pair (vctx : String) : PairKey :=
  ⟨vctx, forward.vtoken⟩

def message (vctx : String) (hubExt : Option HubExt) : WeixinMessage :=
  { forward.inbound.msg with
    contextToken := some vctx, ilinkHubExt := hubExt }

/-- The virtual context of a message that has a context token. -/
def resolved (store : Store) (ok : Bool) : Option (String × Store) :=
  forward.inbound.realCtx.map fun realCtx =>
    if ok then forward.inbound.resolveVctx store forward.vtoken realCtx
    else (forward.inbound.ephemeral forward.vtoken, store)

def op : ForwardPhase → StoreOp
  | .grant vctx hubExt =>
    .setActiveSessionWithDepth (forward.pair vctx) (sessionOf hubExt) 0
  | _ => .skip

def next (store : Store) (ok : Bool) : ForwardPhase → ForwardPhase
  | .resolve =>
    match forward.resolved store ok with
    | some (vctx, _) => .readExt vctx
    | none => .finished none
  | .readExt vctx =>
    .grant vctx (buildHubExtForVctx store (forward.pair vctx) forward.sessionOverride ok)
  | .grant vctx hubExt => .push vctx hubExt
  | .push vctx hubExt => .finished (some (forward.message vctx hubExt))
  | .finished pushed => .finished pushed

def storeAfter (store : Store) (env : Env) : ForwardPhase → Store
  | .resolve =>
    match forward.resolved store env.ok with
    | some (_, next) => next
    | none => store
  | phase => store.attempt env.ok env.now (forward.op phase)

def queueAfter (queue : InMemoryQueue) : ForwardPhase → InMemoryQueue
  | .push vctx hubExt =>
    (queue.push forward.vtoken (forward.message vctx hubExt)).2
  | _ => queue

def step (world : World) (phase : ForwardPhase) (env : Env) : World × ForwardPhase :=
  ({ world with
     store := forward.storeAfter world.store env phase
     queue := forward.queueAfter world.queue phase },
    forward.next world.store env.ok phase)

end Forward

@[simp] lemma Store.contexts_attempt (store : Store) (ok : Bool) (now : Int)
    (op : StoreOp) : (store.attempt ok now op).contexts = store.contexts := by
  cases ok with
  | false => rfl
  | true =>
    cases op with
    | deleteActiveSessionIfName pair name =>
      simp only [attempt_ok, apply, deleteActiveSessionIfName]
      split <;> rfl
    | _ => rfl

lemma Store.findOrCreateVctx_congr {left right : Store}
    (hcontexts : left.contexts = right.contexts) (peerUserId : String)
    (groupId : Option String) (realCtx candidate : String) :
    (left.findOrCreateVctx peerUserId groupId realCtx candidate).map
        (fun found => (found.1, found.2.contexts)) =
      (right.findOrCreateVctx peerUserId groupId realCtx candidate).map
        (fun found => (found.1, found.2.contexts)) := by
  have hpeer : left.findByPeer = right.findByPeer := by
    funext key
    rw [findByPeer, findByPeer, hcontexts]
  have hfree : left.realCtxFree = right.realCtxFree := by
    funext vctx ctx
    rw [realCtxFree, realCtxFree, hcontexts]
  simp only [findOrCreateVctx, hpeer, hfree, hcontexts]
  split
  · next vctx _ => cases right.realCtxFree vctx realCtx <;> rfl
  · cases (right.contexts.lookup candidate).isSome with
    | true => simp [hcontexts]
    | false => cases right.realCtxFree candidate realCtx <;> rfl

namespace Forward

variable {forward : Forward}

lemma sameGrants_of_resolved {store next : Store} {ok : Bool} {vctx : String}
    (hresolved : forward.resolved store ok = some (vctx, next)) : next.SameGrants store := by
  obtain ⟨realCtx, -, hfound⟩ := Option.map_eq_some_iff.mp hresolved
  split at hfound
  · by_cases hsome : (forward.inbound.findVctx store forward.vtoken realCtx).isSome = true
    · have hspec := resolveVctx_spec hsome
      rw [hfound] at hspec
      exact hspec.2
    · rw [Bool.not_eq_true, Option.isSome_eq_false_iff,
        Option.isNone_iff_eq_none, findVctx] at hsome
      rw [resolveVctx, resolveVctxForMessage, hsome] at hfound
      rw [← (Prod.mk.inj hfound).2]
      exact ⟨rfl, rfl, rfl⟩
  · rw [← (Prod.mk.inj hfound).2]
    exact ⟨rfl, rfl, rfl⟩

lemma sameGrants_storeAfter (store : Store) (env : Env) (phase : ForwardPhase) :
    (forward.storeAfter store env phase).SameGrants
      (store.attempt env.ok env.now (forward.op phase)) := by
  cases phase with
  | resolve =>
    simp only [op, Store.attempt_skip, storeAfter]
    split
    · next vctx next hresolved => exact sameGrants_of_resolved hresolved
    · exact ⟨rfl, rfl, rfl⟩
  | _ => exact ⟨rfl, rfl, rfl⟩

variable (forward) in
lemma resolved_congr {left right : Store}
    (hcontexts : left.contexts = right.contexts) (ok : Bool) :
    (forward.resolved left ok).map (fun found => (found.1, found.2.contexts)) =
      (forward.resolved right ok).map (fun found => (found.1, found.2.contexts)) := by
  simp only [resolved, Option.map_map]
  congr 1
  funext realCtx
  cases ok with
  | false => exact congrArg _ hcontexts
  | true =>
    have hfind := Store.findOrCreateVctx_congr hcontexts forward.inbound.peerUserId
      forward.inbound.msg.groupId realCtx (forward.inbound.candidate forward.vtoken)
    simp only [Function.comp_apply, resolveVctx, resolveVctxForMessage]
    revert hfind
    cases left.findOrCreateVctx _ _ _ _ with
    | none =>
      cases right.findOrCreateVctx _ _ _ _ with
      | none =>
        intro
        exact congrArg _ hcontexts
      | some found =>
        intro h
        cases h
    | some found =>
      cases right.findOrCreateVctx _ _ _ _ with
      | none =>
        intro h
        cases h
      | some found' => exact Option.some.inj

variable (forward) in
lemma resolve_congr {left right : Store}
    (hcontexts : left.contexts = right.contexts) (env : Env) :
    forward.next left env.ok .resolve = forward.next right env.ok .resolve ∧
      (forward.storeAfter left env .resolve).contexts =
        (forward.storeAfter right env .resolve).contexts := by
  have hcongr := forward.resolved_congr hcontexts env.ok
  simp only [next, storeAfter]
  cases hleft : forward.resolved left env.ok with
  | none =>
    rw [hleft] at hcongr
    rw [Option.map_eq_none_iff.mp hcongr.symm]
    exact ⟨rfl, hcontexts⟩
  | some found =>
    rw [hleft] at hcongr
    obtain ⟨found', hright, heq⟩ := Option.map_eq_some_iff.mp hcongr.symm
    obtain ⟨hvctx, hnext⟩ := Prod.mk.inj heq
    rw [hright]
    exact ⟨congrArg ForwardPhase.readExt hvctx.symm, hnext.symm⟩

end Forward

universe u v w x

structure DispatchProcesses (ι : Type u) (κ : Type v) (υ : Type w)
    (δ : Type x) extends Processes ι κ υ where
  forward : δ → Forward

structure DispatchHub (ι : Type u) (κ : Type v) (υ : Type w)
    (δ : Type x) where
  hub : A2aHub ι κ υ
  forwards : δ → ForwardPhase

inductive DispatchEvent (ι : Type u) (κ : Type v) (υ : Type w)
    (δ : Type x) where
  | hub (event : A2aEvent ι κ υ)
  | forward (d : δ) (env : Env)

variable {ι : Type u} {κ : Type v} {υ : Type w} {δ : Type x}

def DispatchEvent.ok : DispatchEvent ι κ υ δ → Bool
  | .hub event => event.ok
  | .forward _ env => env.ok

def DispatchEvent.now : DispatchEvent ι κ υ δ → Int
  | .hub event => event.now
  | .forward _ env => env.now

namespace DispatchHub

def store (state : DispatchHub ι κ υ δ) : Store :=
  state.hub.world.store

variable (procs : DispatchProcesses ι κ υ δ)

def start (world : World) : DispatchHub ι κ υ δ :=
  ⟨.start procs.toProcesses world, fun _ => Forward.start⟩

/-- The write an event makes to the authorization tables. -/
def op (state : DispatchHub ι κ υ δ) : DispatchEvent ι κ υ δ → StoreOp
  | .hub event => state.hub.op procs.toProcesses event
  | .forward d _ => (procs.forward d).op (state.forwards d)

variable [DecidableEq ι] [DecidableEq κ] [DecidableEq υ] [DecidableEq δ]

def step (state : DispatchHub ι κ υ δ) :
    DispatchEvent ι κ υ δ → DispatchHub ι κ υ δ
  | .hub event => { state with hub := state.hub.step procs.toProcesses event }
  | .forward d env =>
    let result := (procs.forward d).step state.hub.world (state.forwards d) env
    { hub := { state.hub with world := result.1 }
      forwards := Function.update state.forwards d result.2 }

variable {procs}

/-- Up to the known contexts, every event is one attempted write. -/
lemma sameGrants_step (state : DispatchHub ι κ υ δ) (event : DispatchEvent ι κ υ δ) :
    (state.step procs event).store.SameGrants
      (state.store.attempt event.ok event.now (state.op procs event)) := by
  cases event with
  | hub event =>
    have hstore : (state.step procs (.hub event)).store = state.store.attempt event.ok event.now
          (state.hub.op procs.toProcesses event) :=
      A2aHub.store_step state.hub event
    rw [hstore]
    exact ⟨rfl, rfl, rfl⟩
  | forward d env =>
    exact Forward.sameGrants_storeAfter state.store env (state.forwards d)

variable {state : DispatchHub ι κ υ δ}

lemma sameGrants_of_skip {event : DispatchEvent ι κ υ δ} (hop : state.op procs event = .skip) :
    (state.step procs event).store.SameGrants state.store := by
  have hsame : (state.step procs event).store.SameGrants
      (state.store.attempt event.ok event.now (state.op procs event)) :=
    sameGrants_step state event
  rwa [hop, Store.attempt_skip] at hsame

lemma calls_step_of_other {event : A2aEvent ι κ υ} {i : ι} (hother : event.ofCall i = false) :
    (state.step procs (.hub event)).hub.calls i = state.hub.calls i :=
  A2aHub.calls_step_of_other hother

lemma store_step_forward (state : DispatchHub ι κ υ δ) (d : δ) (env : Env) :
    (state.step procs (.forward d env)).store =
      (procs.forward d).storeAfter state.store env (state.forwards d) := rfl

lemma forwards_step_forward (state : DispatchHub ι κ υ δ) (d : δ) (env : Env) :
    (state.step procs (.forward d env)).forwards d =
      (procs.forward d).next state.store env.ok (state.forwards d) := by
  simp [step, Forward.step, store]

lemma forwards_step_forward_of_ne {d e : δ} (hne : e ≠ d) (env : Env) :
    (state.step procs (.forward d env)).forwards e = state.forwards e := by
  simp [step, Function.update_of_ne hne]

lemma forwards_run_finished {d : δ} {pushed : Option WeixinMessage}
    (hfinished : state.forwards d = .finished pushed) (events : List (DispatchEvent ι κ υ δ)) :
    (Transition.run (step procs) state events).forwards d = .finished pushed := by
  have hstep : ∀ (state : DispatchHub ι κ υ δ) event, state.forwards d = .finished pushed →
        (state.step procs event).forwards d = .finished pushed := by
    intro state event hstate
    cases event with
    | hub event => exact hstate
    | forward e env =>
      by_cases hed : d = e
      · subst hed
        rw [forwards_step_forward, hstate]
        rfl
      · rw [forwards_step_forward_of_ne hed]
        exact hstate
  exact Transition.run_invariant hstep hfinished events

end DispatchHub

end IlinkHub
