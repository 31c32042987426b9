/-
Agent calls, `sendmessage` requests and session commands that run against one
store, in any interleaving of their steps.
-/
import IlinkHub.SendMessage
import IlinkHub.Transition

namespace IlinkHub

open Function

universe u v w

/-- The processes by their indices, with what does not change while they run. -/
structure Processes (ι : Type u) (κ : Type v) (υ : Type w) where
  call : ι → CallAgent
  send : κ → SendMessage
  user : υ → UserOp

structure A2aHub (ι : Type u) (κ : Type v) (υ : Type w) where
  world : World
  calls : ι → CallPhase
  sends : κ → SendPhase
  users : υ → UserPhase

/-- One process runs to its next await point, or the future of a call is
dropped. -/
inductive A2aEvent (ι : Type u) (κ : Type v) (υ : Type w) where
  | call (i : ι) (env : Env)
  | send (k : κ) (env : Env)
  | user (x : υ) (env : Env)
  | drop (i : ι) (applied : Bool) (now : Int)

variable {ι : Type u} {κ : Type v} {υ : Type w}

namespace A2aEvent

/-- The write of the event reaches the store. -/
def ok : A2aEvent ι κ υ → Bool
  | .call _ env | .send _ env | .user _ env => env.ok
  | .drop _ applied _ => applied

def now : A2aEvent ι κ υ → Int
  | .call _ env | .send _ env | .user _ env => env.now
  | .drop _ _ now => now

/-- The event belongs to call `i`. -/
def ofCall [DecidableEq ι] (i : ι) : A2aEvent ι κ υ → Bool
  | .call j _ | .drop j _ _ => decide (j = i)
  | .send _ _ | .user _ _ => false

lemma of_ofCall [DecidableEq ι] {i : ι} {event : A2aEvent ι κ υ} (hcall : event.ofCall i = true) :
    (∃ env, event = .call i env) ∨ ∃ applied now, event = .drop i applied now := by
  cases event with
  | call j env =>
    obtain rfl := of_decide_eq_true hcall
    exact .inl ⟨env, rfl⟩
  | drop j applied now =>
    obtain rfl := of_decide_eq_true hcall
    exact .inr ⟨applied, now, rfl⟩
  | send k env => cases hcall
  | user x env => cases hcall

end A2aEvent

namespace A2aHub

variable (procs : Processes ι κ υ)

def start (world : World) : A2aHub ι κ υ :=
  ⟨world, fun _ => CallAgent.start, fun _ => SendMessage.start, fun x => (procs.user x).start⟩

/-- The write an event makes. -/
def op (state : A2aHub ι κ υ) : A2aEvent ι κ υ → StoreOp
  | .call i _ => (procs.call i).op (state.calls i)
  | .send k _ => SendMessage.op (state.sends k)
  | .user x _ => (procs.user x).op (state.users x)
  | .drop i _ _ => (procs.call i).op (state.calls i)

variable [DecidableEq ι] [DecidableEq κ] [DecidableEq υ]

def step (state : A2aHub ι κ υ) : A2aEvent ι κ υ → A2aHub ι κ υ
  | .call i env =>
    let result := (procs.call i).step state.world (state.calls i) env
    { state with
      world := result.1
      calls := update state.calls i result.2 }
  | .send k env =>
    let result := (procs.send k).step state.world (state.sends k) env
    { state with
      world := result.1
      sends := update state.sends k result.2 }
  | .user x env =>
    let result := (procs.user x).step state.world (state.users x) env
    { state with
      world := result.1
      users := update state.users x result.2 }
  | .drop i applied now =>
    let result := (procs.call i).drop state.world (state.calls i) applied now
    { state with
      world := result.1
      calls := update state.calls i result.2 }

variable {procs}

lemma store_step (state : A2aHub ι κ υ) (event : A2aEvent ι κ υ) :
    (state.step procs event).world.store =
      state.world.store.attempt event.ok event.now (state.op procs event) := by
  cases event with
  | call i env => rfl
  | send k env => rfl
  | user x env => rfl
  | drop i applied now =>
    simp only [step, CallAgent.drop, op, A2aEvent.ok, A2aEvent.now]
    cases hphase : state.calls i <;> simp [CallAgent.op]

lemma calls_step_call (state : A2aHub ι κ υ) (i : ι) (env : Env) :
    (state.step procs (.call i env)).calls i =
      (procs.call i).next state.world env (state.calls i) := by
  simp [step, CallAgent.step]

variable {state : A2aHub ι κ υ}

lemma calls_step_call_of_ne {i j : ι} (hne : j ≠ i) (env : Env) :
    (state.step procs (.call i env)).calls j = state.calls j := by
  simp [step, update_of_ne hne]

/-- A dropped call has ended before, or ends here. -/
lemma calls_step_drop (state : A2aHub ι κ υ) (i : ι) (applied : Bool) (now : Int) :
    (∃ result, state.calls i = .finished result ∧
        (state.step procs (.drop i applied now)).calls i = .finished result) ∨
      (state.step procs (.drop i applied now)).calls i = .dropped := by
  simp only [step, update_self]
  cases hphase : state.calls i with
  | finished result => exact .inl ⟨result, rfl, rfl⟩
  | _ => exact .inr rfl

lemma waiter_step_drop (state : A2aHub ι κ υ) (i : ι) (applied : Bool) (now : Int) :
    (state.step procs (.drop i applied now)).world.waiter = state.world.waiter := by
  simp only [step]
  cases state.calls i <;> rfl

lemma calls_step_of_other {event : A2aEvent ι κ υ} {i : ι} (hother : event.ofCall i = false) :
    (state.step procs event).calls i = state.calls i := by
  cases event with
  | call j env =>
    exact calls_step_call_of_ne (.symm (of_decide_eq_false hother)) env
  | drop j applied now =>
    exact update_of_ne (.symm (of_decide_eq_false hother)) _ _
  | send k env => rfl
  | user x env => rfl

lemma sends_step_send (state : A2aHub ι κ υ) (k : κ) (env : Env) :
    (state.step procs (.send k env)).sends k =
      (procs.send k).next state.world env (state.sends k) := by
  simp [step, SendMessage.step]

lemma sends_step_send_of_ne {k l : κ} (hne : l ≠ k) (env : Env) :
    (state.step procs (.send k env)).sends l = state.sends l := by
  simp [step, update_of_ne hne]

/-- In every run a request keeps to what it was sent with. -/
lemma carries_step {k : κ} (hcarries : (procs.send k).Carries (state.sends k))
    (event : A2aEvent ι κ υ) : (procs.send k).Carries ((state.step procs event).sends k) := by
  cases event with
  | send l env =>
    by_cases hkl : k = l
    · subst hkl
      rw [sends_step_send]
      exact hcarries.next _ _
    · rw [sends_step_send_of_ne hkl]
      exact hcarries
  | _ => exact hcarries

end A2aHub

@[simp] lemma SendMessage.op_activePair (phase : SendPhase) : (op phase).activePair = none := by
  cases phase <;> rfl

@[simp] lemma SendMessage.op_grants (phase : SendPhase) : (op phase).grants = none := by
  cases phase <;> rfl

lemma SendMessage.op_ne_deleteBackendSession (phase : SendPhase) (pair : PairKey)
    (name : String) : op phase ≠ .deleteBackendSession pair name := by
  cases phase <;> exact fun h => nomatch h

lemma CallAgent.op_activePair {call : CallAgent} {phase : CallPhase}
    {pair : PairKey} (hop : (call.op phase).activePair = some pair) :
    ∃ parties, phase.parties = some parties ∧ call.pair parties = pair := by
  cases phase with
  | grant parties snap => exact ⟨parties, rfl, Option.some.inj hop⟩
  | release parties snap outcome stage =>
    refine ⟨parties, rfl, ?_⟩
    cases stage <;> first | exact Option.some.inj hop | cases hop
  | _ => cases hop

/-- A call deletes named sessions of its own pair and writes none. -/
lemma CallAgent.op_backendKey {call : CallAgent} {phase : CallPhase}
    {key : SessionKey} (hop : (call.op phase).backendKey = some key) :
    ∃ parties snap outcome rest, phase = .release parties snap outcome
        (.reclaim key.sessionName rest) ∧ call.pair parties = key.pair := by
  cases phase with
  | release parties snap outcome stage =>
    cases stage with
    | reclaim name rest =>
      cases hop
      exact ⟨parties, snap, outcome, rest, rfl, rfl⟩
    | _ => cases hop
  | _ => cases hop

/-
A small hub for concrete runs: one agent that everybody may call, one
conversation, and grants that live for a minute.
-/
namespace Sample

def bot : ClientInfo :=
  { name := "bot", vtoken := "t", online := true }

def pair : PairKey :=
  ⟨"vctx_1", "t"⟩

def call (callId : String) : CallAgent where
  ctx := ⟨"c", "vctx_1", "ctx", "user", 0⟩
  params := { targetName := "bot", message := "hi" }
  acl := ⟨(∅ : AList fun _ : String => List String).insert "*" ["*"], ∅, []⟩
  callId := callId

/-- The conversation is known; the pair has the given grant row. -/
def world (row : Option ActiveRow) : World where
  store :=
    { contexts := (∅ : AList fun _ : String => ContextRow).insert "vctx_1" ⟨"ctx", some "peer:user"⟩
      active := match row with
        | some row => (∅ : AList fun _ : PairKey => ActiveRow).insert pair row
        | none => ∅
      backend := ∅
      grantTtlSecs := 60 }
  waiter := .new
  queue := .withLimit 10
  upstream := []

/-- A step at second `now`; a wait ends by timeout. -/
def tick (now : Int) : Env :=
  { now := now, registry := .ofClients [bot], wake := .timeout }

end Sample

end IlinkHub
