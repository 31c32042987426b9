/-
What the grant rows say about an agent that issues a call: how deep the call is
nested, and to which conversation it belongs.
-/
import IlinkHub.Tools

namespace IlinkHub

open Sample Transition Store

universe u v w x

variable {ι : Type u} {κ : Type v} {υ : Type w} {δ : Type x}

/-- Within the bound the depth does not saturate. -/
lemma CallAgent.targetDepth_toNat {call : CallAgent} (hdepth : call.ctx.a2aDepth < maxA2aDepth) :
    call.targetDepth.toNat = call.ctx.a2aDepth.toNat + 1 := by
  have hlt := UInt8.lt_iff_toNat_lt.mp hdepth
  have hne : call.ctx.a2aDepth ≠ 255 := by
    intro heq
    rw [heq] at hlt
    exact absurd hlt (by decide)
  rw [targetDepth, if_neg hne, UInt8.toNat_add, Nat.mod_eq_of_lt]
  · rfl
  · exact lt_trans (Nat.add_lt_add_right hlt 1) (by decide)

namespace ToolsHub

variable {procs : ToolProcesses ι κ υ δ} {state : ToolsHub ι κ υ δ} {i : ι}

variable {ctx : CallAgentContext} {cause : Cause ι δ} {event : DispatchEvent ι κ υ δ}

lemma running_call_of_admitted (hadmitted : state.requests i = .admitted ctx) :
    (state.running procs).call i = { procs.call i with ctx := ctx } := by
  simp [running, hadmitted]

/-- The row that a process writes for its own message: a call passes the depth of
its context on. -/
def Wrote (procs : ToolProcesses ι κ υ δ) (state : ToolsHub ι κ υ δ)
    (depth : UInt8) : Cause ι δ → Prop
  | .user _ => True
  | .a2a j => ∃ ctx, state.requests j = .admitted ctx ∧
      depth = CallAgent.targetDepth { procs.call j with ctx := ctx }

variable (procs) in
lemma op_of_grantedBy (hgranted : state.grantedBy event = some cause)
    (henabled : state.enabled event = true) :
    ∃ pair name depth, state.hub.op (state.running procs) event =
        .setActiveSessionWithDepth pair name depth ∧
      state.Wrote procs depth cause := by
  cases event with
  | forward d env =>
    simp only [grantedBy] at hgranted
    split at hgranted
    · next vctx hubExt hphase =>
      cases hgranted
      simp only [DispatchHub.op, hphase]
      exact ⟨_, _, _, rfl, trivial⟩
    · cases hgranted
  | hub event =>
    cases event with
    | call j env =>
      simp only [grantedBy] at hgranted
      split at hgranted
      · next parties snap hphase =>
        cases hgranted
        obtain ⟨ctx, hctx⟩ : ∃ ctx, state.requests j = .admitted ctx := by
          simp only [enabled] at henabled
          cases hrequest : state.requests j with
          | admitted ctx => exact ⟨ctx, rfl⟩
          | _ =>
            rw [hrequest] at henabled
            cases henabled
        simp only [DispatchHub.op, A2aHub.op, hphase, running_call_of_admitted hctx]
        exact ⟨_, _, _, rfl, ctx, hctx, rfl⟩
      · cases hgranted
    | _ => cases hgranted

/-- What admits a request: the lookup, and a depth below the bound. -/
lemma of_toolNext_admitted {env : ToolEnv} (hnext : state.toolNext procs i env = .admitted ctx)
    (hbefore : ¬ state.requests i = .admitted ctx) :
    state.requests i = .lookup ∧ ∃ info,
      state.hub.store.getActiveCtxForVtoken state.updatedAt env.now
          (callerVtoken procs i) env.tie = some info ∧
      info.a2aDepth < maxA2aDepth ∧
      ctx = ⟨callerVtoken procs i, info.vctx, info.realCtx, info.peerUserId, info.a2aDepth⟩ := by
  unfold toolNext at hnext
  split at hnext
  · split at hnext
    · cases hnext
    · split at hnext
      · cases hnext
      · split at hnext <;> cases hnext
  · next hphase =>
    refine ⟨hphase, ?_⟩
    split at hnext
    · split at hnext
      · next info hinfo =>
        refine ⟨info, hinfo, ?_⟩
        unfold guardDepth at hnext
        split at hnext
        · cases hnext
        · next hdepth =>
          exact ⟨UInt8.not_le.mp hdepth, (ToolPhase.admitted.inj hnext).symm⟩
      · cases hnext
    · cases hnext
  · cases hnext
  · next own hphase =>
    obtain rfl := ToolPhase.admitted.inj hnext
    exact absurd hphase hbefore

/-- The last grant of a backend is the one just written, or it is older and the
event leaves its row alone. -/
lemma of_lastGrantAfter {vtoken vctx : String} (henabled : state.enabled event = true)
    (hlast : state.lastGrantAfter procs event vtoken = some (cause, vctx)) :
    (∃ row, (state.hub.store.attempt event.ok event.now
          (state.hub.op (state.running procs) event)).active.lookup ⟨vctx, vtoken⟩ = some row ∧
        state.Wrote procs row.a2aDepth cause) ∨
      state.lastGrant vtoken = some (cause, vctx) ∧ (state.hub.store.attempt event.ok event.now
          (state.hub.op (state.running procs) event)).active.lookup ⟨vctx, vtoken⟩ =
          state.hub.store.active.lookup ⟨vctx, vtoken⟩ := by
  unfold lastGrantAfter at hlast
  split at hlast
  · next pair hok hpair =>
    split at hlast
    · next htoken =>
      left
      obtain ⟨own, hgranted, heq⟩ := Option.map_eq_some_iff.mp hlast
      cases heq
      obtain ⟨target, name, depth, hop, hwrote⟩ :=
        op_of_grantedBy procs hgranted henabled
      rw [hop] at hpair
      cases hpair
      subst htoken
      rw [hok, hop, attempt_ok, apply, lookup_setActiveSessionWithDepth, if_pos rfl]
      exact ⟨_, rfl, hwrote⟩
    · next htoken =>
      refine .inr ⟨hlast, active_lookup_attempt_of_ne ?_⟩
      rw [hpair]
      intro heq
      exact htoken (congrArg PairKey.vtoken (Option.some.inj heq))
  · next hnone =>
    refine .inr ⟨hlast, ?_⟩
    cases hok : event.ok with
    | false => rfl
    | true =>
      cases hpair : (state.hub.op (state.running procs) event).activePair with
      | some pair => exact absurd hpair (hnone pair hok)
      | none =>
        apply active_lookup_attempt_of_ne
        rw [hpair]
        exact (Option.some_ne_none _).symm

/-- A request that got past the authentication belongs to a message of its
caller. -/
def Issued (procs : ToolProcesses ι κ υ δ) (i : ι) (state : ToolsHub ι κ υ δ) : Prop :=
  state.requests i ≠ .authenticate → ∃ pair,
    state.pushed (procs.cause i) = some pair ∧ pair.vtoken = callerVtoken procs i

/-- When a request looks its conversation up, the last write of a grant row of
its caller was the grant for the message that the caller handles, in a later
second than all others. -/
def UndisturbedStep (procs : ToolProcesses ι κ υ δ)
    (state : ToolsHub ι κ υ δ) : ToolsEvent ι κ υ δ → Prop
  | .tool i env => state.requests i = .lookup →
      ∀ pair ∈ state.pushed (procs.cause i),
        state.lastGrant pair.vtoken = some (procs.cause i, pair.vctx) ∧
          state.hub.store.NewestGrant state.updatedAt env.now pair
  | .hub _ => True

/-- The row behind the last grant tells the depth of the message, and the level
of an admitted call is within the depth of its context. -/
structure Nested (procs : ToolProcesses ι κ υ δ) (state : ToolsHub ι κ υ δ) :
    Prop where
  issued : ∀ i, state.Issued procs i
  granted : ∀ vtoken cause vctx,
    state.lastGrant vtoken = some (cause, vctx) →
      ∃ row, state.hub.store.active.lookup ⟨vctx, vtoken⟩ = some row ∧
        state.Wrote procs row.a2aDepth cause
  level : ∀ i ctx, state.requests i = .admitted ctx → ctx.a2aDepth < maxA2aDepth ∧
      ∀ n, procs.Level i n → n ≤ ctx.a2aDepth.toNat + 1

/-- A call that is admitted in the course of an undisturbed run has a level
within its depth. -/
lemma Nested.level_of_lookup (hnested : state.Nested procs) {env : ToolEnv}
    {info : ActiveCtxInfo} (hlookup : state.requests i = .lookup)
    (hundisturbed : state.UndisturbedStep procs (.tool i env))
    (hinfo : state.hub.store.getActiveCtxForVtoken state.updatedAt env.now
      (callerVtoken procs i) env.tie = some info)
    {n : Nat} (hlevel : procs.Level i n) : n ≤ info.a2aDepth.toNat + 1 := by
  obtain ⟨pair, hpushed, hcaller⟩ := hnested.issued i (by
    rw [hlookup]
    exact fun h => nomatch h)
  obtain ⟨hlast, hnewest⟩ := hundisturbed hlookup pair hpushed
  rw [← hcaller] at hinfo
  obtain ⟨grant, context, hgrant, -, rfl⟩ :=
    hnewest.eq_of_getActiveCtxForVtoken hinfo
  obtain ⟨row, hrow, hwrote⟩ := hnested.granted _ _ _ hlast
  have hsame := Option.some.inj ((Option.filter_eq_some_iff.mp hgrant).1.symm.trans hrow)
  subst hsame
  cases hlevel with
  | user hcause => exact Nat.le_add_left 1 _
  | @a2a _ j m hcause hinner =>
    rw [hcause] at hwrote
    obtain ⟨ctx, hctx, hdepth⟩ := hwrote
    obtain ⟨hbound, hinside⟩ := hnested.level j ctx hctx
    have hnext : grant.a2aDepth.toNat = ctx.a2aDepth.toNat + 1 := by
      rw [hdepth]
      exact CallAgent.targetDepth_toNat hbound
    rw [hnext]
    exact Nat.add_le_add_right (hinside m hinner) 1

variable (procs) in
lemma nested_start (hub : DispatchHub ι κ υ δ) (updatedAt : PairKey → Int) :
    (start hub updatedAt).Nested procs :=
  ⟨fun _ hpast => absurd rfl hpast, (fun _ _ _ hlast => nomatch hlast),
    (fun _ _ hadmitted => nomatch hadmitted)⟩

variable [DecidableEq ι] [DecidableEq κ] [DecidableEq υ] [DecidableEq δ]

lemma requests_step_tool (i : ι) (env : ToolEnv) : (state.step procs (.tool i env)).requests i =
      state.toolNext procs i env := Function.update_self ..

lemma requests_step_tool_of_ne {j : ι} (hne : i ≠ j) (env : ToolEnv) :
    (state.step procs (.tool j env)).requests i = state.requests i :=
  Function.update_of_ne hne _ _

lemma requests_step_hub (event : DispatchEvent ι κ υ δ) :
    (state.step procs (.hub event)).requests = state.requests := by
  simp only [step]
  split <;> rfl

lemma admitted_step (hadmitted : state.requests i = .admitted ctx) (event : ToolsEvent ι κ υ δ) :
    (state.step procs event).requests i = .admitted ctx := by
  cases event with
  | hub event =>
    rw [requests_step_hub]
    exact hadmitted
  | tool j env =>
    by_cases hij : i = j
    · subst hij
      rw [requests_step_tool, toolNext, hadmitted]
    · rw [requests_step_tool_of_ne hij]
      exact hadmitted

lemma pushed_step {pair : PairKey} (hpushed : state.pushed cause = some pair)
    (event : ToolsEvent ι κ υ δ) : (state.step procs event).pushed cause = some pair := by
  cases event with
  | tool j env => exact hpushed
  | hub event =>
    simp only [step]
    split
    · simp [pushedAfter, hpushed]
    · exact hpushed

lemma Issued.step (hissued : state.Issued procs i) (event : ToolsEvent ι κ υ δ) :
    (state.step procs event).Issued procs i := by
  intro hpast
  by_cases hbefore : state.requests i = .authenticate
  · cases event with
    | hub event =>
      rw [requests_step_hub] at hpast
      exact absurd hbefore hpast
    | tool j env =>
      by_cases hij : i = j
      · subst hij
        rw [requests_step_tool, toolNext, hbefore] at hpast
        simp only at hpast
        split at hpast
        · exact absurd rfl hpast
        · next hissue =>
          rw [Bool.not_eq_true, Bool.not_eq_false', issued, Option.any_eq_true] at hissue
          obtain ⟨pair, hpair, hcaller⟩ := hissue
          exact ⟨pair, hpair, of_decide_eq_true hcaller⟩
      · rw [requests_step_tool_of_ne hij] at hpast
        exact absurd hbefore hpast
  · obtain ⟨pair, hpushed, hcaller⟩ := hissued hbefore
    exact ⟨pair, pushed_step hpushed event, hcaller⟩

lemma Wrote.step {depth : UInt8} (hwrote : state.Wrote procs depth cause)
    (event : ToolsEvent ι κ υ δ) : (state.step procs event).Wrote procs depth cause := by
  cases cause with
  | user d => trivial
  | a2a j =>
    obtain ⟨ctx, hctx, hdepth⟩ := hwrote
    exact ⟨ctx, admitted_step hctx event, hdepth⟩

lemma Nested.step_tool (hnested : state.Nested procs) {j : ι} {env : ToolEnv}
    (hundisturbed : state.UndisturbedStep procs (.tool j env)) :
    (state.step procs (.tool j env)).Nested procs := by
  refine ⟨fun i => (hnested.issued i).step _, ?_, ?_⟩
  · intro vtoken cause vctx hlast
    obtain ⟨row, hrow, hwrote⟩ := hnested.granted vtoken cause vctx hlast
    exact ⟨row, hrow, hwrote.step _⟩
  · intro i ctx hadmitted
    by_cases hbefore : state.requests i = .admitted ctx
    · exact hnested.level i ctx hbefore
    · by_cases hij : i = j
      · subst hij
        rw [requests_step_tool] at hadmitted
        obtain ⟨hlookup, info, hinfo, hdepth, rfl⟩ :=
          of_toolNext_admitted hadmitted hbefore
        exact ⟨hdepth, fun n hlevel =>
          hnested.level_of_lookup hlookup hundisturbed hinfo hlevel⟩
      · rw [requests_step_tool_of_ne hij] at hadmitted
        exact absurd hadmitted hbefore

lemma Nested.step_hub (hnested : state.Nested procs) (event : DispatchEvent ι κ υ δ) :
    (state.step procs (.hub event)).Nested procs := by
  refine ⟨fun i => (hnested.issued i).step _, ?_, ?_⟩
  · intro vtoken cause vctx hlast
    cases henabled : state.enabled event with
    | false =>
      have hsame : state.step procs (.hub event) = state := by
        simp [step, henabled]
      rw [hsame] at hlast ⊢
      exact hnested.granted vtoken cause vctx hlast
    | true =>
      have hlookup :
          (state.step procs (.hub event)).hub.store.active.lookup
              ⟨vctx, vtoken⟩ =
            (state.hub.store.attempt event.ok event.now
              (state.hub.op (state.running procs) event)).active.lookup ⟨vctx, vtoken⟩ := by
        simp only [step, henabled, if_true]
        rw [(DispatchHub.sameGrants_step state.hub event).active]
      simp only [step, henabled] at hlast
      rw [hlookup]
      rcases of_lastGrantAfter henabled hlast with
        ⟨row, hrow, hwrote⟩ | ⟨hold, hrow⟩
      · exact ⟨row, hrow, hwrote.step _⟩
      · obtain ⟨row, hold, hwrote⟩ := hnested.granted vtoken cause vctx hold
        exact ⟨row, hrow.trans hold, hwrote.step _⟩
  · intro i ctx hadmitted
    rw [requests_step_hub] at hadmitted
    exact hnested.level i ctx hadmitted

/-- The depth guard bounds the level of a call, as long as the rows of an agent
are those of the message that it handles. -/
theorem admitted_level_le {hub : DispatchHub ι κ υ δ}
    {updatedAt : PairKey → Int} {events : List (ToolsEvent ι κ υ δ)}
    (hundisturbed : EveryStep (step procs) (UndisturbedStep procs) (start hub updatedAt) events)
    {ctx : CallAgentContext} (hadmitted : (run (step procs) (start hub updatedAt)
      events).requests i = .admitted ctx)
    {n : Nat} (hlevel : procs.Level i n) : n ≤ maxA2aDepth.toNat := by
  have hstep : ∀ (state : ToolsHub ι κ υ δ) event, state.Nested procs →
      state.UndisturbedStep procs event → (state.step procs event).Nested procs := by
    intro state event hnested hundisturbed
    cases event with
    | tool j env => exact hnested.step_tool hundisturbed
    | hub event => exact hnested.step_hub event
  have hnested := run_invariant_of_everyStep hstep (nested_start procs hub updatedAt) hundisturbed
  obtain ⟨hdepth, hinside⟩ := hnested.level i ctx hadmitted
  exact (hinside n hlevel).trans (UInt8.lt_iff_toNat_lt.mp hdepth)

instance (state : ToolsHub ι κ υ δ) :
    ∀ event, Decidable (state.UndisturbedStep procs event) := by
  intro event
  cases event <;> dsimp only [UndisturbedStep] <;> infer_instance

end ToolsHub

namespace Sample

def ping : ClientInfo :=
  { name := "ping", vtoken := "a", online := true }

def pong : ClientInfo :=
  { name := "pong", vtoken := "b", online := true }

def agents (now : Int) : Env :=
  { now := now, registry := .ofClients [ping, pong] }

/-- A message in the first or in the second conversation. -/
def messageTo (vtoken : String) (second : Bool) : Forward :=
  { inbound :=
      { inboundAt100 with
        msg :=
          { contextToken := some (if second then "ctx2" else "ctx1")
            fromUserId := some (if second then "v" else "u") }
        candidate := fun _ => if second then "vctx_2" else "vctx_1" }
    vtoken := vtoken }

def callBetween (caller target callId : String) : CallAgent where
  ctx := ⟨caller, "", "", "", 0⟩
  params := { targetName := target, message := "hi" }
  acl := ⟨(∅ : AList fun _ : String => List String).insert "*" ["*"], ∅, []⟩
  callId := callId

/-- Two agents call each other in turn, beginning with a message of the first
conversation.  A message of the second conversation is for `b`. -/
def chain : ToolProcesses (Fin 6) Empty Empty Bool where
  call := fun i =>
    if i.val % 2 = 0 then callBetween "a" "pong" (toString i.val)
    else callBetween "b" "ping" (toString i.val)
  send := fun k => nomatch k
  user := fun x => nomatch x
  forward := fun second => messageTo (if second then "b" else "a") second
  cause := fun i => if i.val = 0 then .user false else .a2a (i - 1)

def emptyHub {ι : Type} (procs : ToolProcesses ι Empty Empty Bool) :
    DispatchHub ι Empty Empty Bool :=
  let store : Store :=
    { contexts := ∅, active := ∅, backend := ∅, grantTtlSecs := 60 }
  .start procs.toDispatchProcesses ⟨store, .new, .withLimit 10, []⟩

/-- The grant rows have not been written yet. -/
def never (_ : PairKey) : Int :=
  0

def dispatched {ι : Type} (second : Bool) (now : Int) : List (ToolsEvent ι Empty Empty Bool) :=
  List.replicate 4 (.hub (.forward second (agents now)))

def requested {ι : Type} (i : ι) (now : Int) : List (ToolsEvent ι Empty Empty Bool) :=
  List.replicate 2 (.tool i { agents now with })

/-- The call runs until it has put its message into the queue of the target. -/
def called {ι : Type} (i : ι) (now : Int) : List (ToolsEvent ι Empty Empty Bool) :=
  requested i now ++ List.replicate 7 (.hub (.hub (.call i (agents now))))

def chainOfFive : List (ToolsEvent (Fin 6) Empty Empty Bool) :=
  dispatched false 100 ++ called 0 100 ++ called 1 100 ++ called 2 100 ++
    called 3 100 ++ called 4 100

lemma level_chain (n : Nat) (hn : n < 6) : chain.Level ⟨n, hn⟩ (n + 1) := by
  induction n with
  | zero => exact .user rfl
  | succ n ih =>
    refine .a2a ?_ (ih (Nat.lt_of_succ_lt hn))
    have hpred : (⟨n + 1, hn⟩ : Fin 6) - 1 = ⟨n, Nat.lt_of_succ_lt hn⟩ := by
      ext
      rw [Fin.sub_def]
      simp only
      omega
    simp [chain, hpred]

end Sample

/-- Without a disturbance the chain gets as far as the bound. -/
theorem ToolsHub.admitted_level_le_chain :
    (∃ ctx, (run (step chain) (start (emptyHub chain) never)
        chainOfFive).requests 4 = .admitted ctx) ∧
      5 ≤ maxA2aDepth.toNat := by
  have hadmitted : (run (step chain) (start (emptyHub chain) never)
      chainOfFive).requests 4 = .admitted ⟨"a", "vctx_1", "ctx1", "peer:u", 4⟩ := by decide +kernel
  have hundisturbed : EveryStep (step chain) (UndisturbedStep chain) (start (emptyHub chain) never)
      chainOfFive := by decide +kernel
  exact ⟨⟨_, hadmitted⟩, admitted_level_le hundisturbed hadmitted (level_chain 4 (by decide))⟩

/-- A message of another conversation makes the caller look like one that answers
its user. -/
theorem ToolsHub.sixth_level_admitted :
    chain.Level 5 6 ∧ maxA2aDepth.toNat < 6 ∧ (run (step chain) (start (emptyHub chain) never)
        (chainOfFive ++ dispatched true 101 ++ requested 5 101)).requests 5 =
        .admitted ⟨"b", "vctx_2", "ctx2", "peer:v", 0⟩ :=
  ⟨level_chain 5 (by decide), by decide, by decide +kernel⟩

end IlinkHub
