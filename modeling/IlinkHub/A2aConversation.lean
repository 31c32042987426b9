/-
The notifications of an agent call go to the conversation in which the caller
got the message that it handles, unless another grant of the caller is newer.
-/
import IlinkHub.A2aLevel

namespace IlinkHub

open Transition Sample

universe u v w x

variable {ι : Type u} {κ : Type v} {υ : Type w} {δ : Type x}

/-- Both notifications go to the conversation of the call. -/
theorem CallAgent.addressee_of_notification {call : CallAgent} {phase : CallPhase}
    {text : OutboundText} (htext : call.notification phase = some text) :
    text.contextToken = call.ctx.realCtx ∧ text.toUserId = call.ctx.peerUserId := by
  cases phase with
  | notify _ _ | notifyReply _ _ =>
    cases htext
    exact ⟨rfl, rfl⟩
  | _ => cases htext

namespace ToolsHub

variable {procs : ToolProcesses ι κ υ δ} {i : ι}

def upstream (state : ToolsHub ι κ υ δ) : List OutboundText :=
  state.hub.hub.world.upstream

/-- When the request looks its conversation up, the grant for the message that
its caller handles is the newest one of the caller. -/
def NewestStep [DecidableEq ι] (procs : ToolProcesses ι κ υ δ) (i : ι)
    (state : ToolsHub ι κ υ δ) : ToolsEvent ι κ υ δ → Prop
  | .tool j env => j = i → state.requests j = .lookup →
      ∀ pair ∈ state.pushed (procs.cause j),
        state.hub.store.NewestGrant state.updatedAt env.now pair
  | .hub _ => True

variable [DecidableEq ι] [DecidableEq κ] [DecidableEq υ] [DecidableEq δ]

/-- An admitted request was admitted by a lookup in the course of the run. -/
theorem exists_lookup_of_admitted {first : ToolsHub ι κ υ δ}
    {ctx : CallAgentContext} (hfirst : ¬ first.requests i = .admitted ctx)
    {events : List (ToolsEvent ι κ υ δ)}
    (hadmitted : (run (step procs) first events).requests i = .admitted ctx) :
    ∃ seen env, seen ++ [.tool i env] <+: events ∧
      (run (step procs) first seen).requests i = .lookup ∧
      ∃ info, (run (step procs) first seen).hub.store.getActiveCtxForVtoken
            (run (step procs) first seen).updatedAt env.now
            (callerVtoken procs i) env.tie = some info ∧
        ctx.realCtx = info.realCtx ∧ ctx.peerUserId = info.peerUserId := by
  induction events generalizing first with
  | nil => exact absurd hadmitted hfirst
  | cons event events ih =>
    by_cases hnow : (first.step procs event).requests i = .admitted ctx
    · cases event with
      | hub event =>
        rw [requests_step_hub] at hnow
        exact absurd hnow hfirst
      | tool j env =>
        by_cases hij : i = j
        · subst hij
          rw [requests_step_tool] at hnow
          obtain ⟨hlookup, info, hinfo, -, rfl⟩ :=
            of_toolNext_admitted hnow hfirst
          exact ⟨[], env, ⟨events, rfl⟩, hlookup, info, hinfo, rfl, rfl⟩
        · rw [requests_step_tool_of_ne hij] at hnow
          exact absurd hnow hfirst
    · obtain ⟨seen, env, hseen, hlookup⟩ := ih hnow hadmitted
      exact ⟨event :: seen, env, (List.prefix_cons_inj event).mpr hseen, hlookup⟩

/-- What a step of a call sends goes to the conversation of its context. -/
theorem addressee_of_step {state : ToolsHub ι κ υ δ} {env : Env} {sent : List OutboundText}
    (hsent : (state.step procs (.hub (.hub (.call i env)))).upstream = state.upstream ++ sent)
    {text : OutboundText} (htext : text ∈ sent) :
    ∃ ctx, state.requests i = .admitted ctx ∧
      text.contextToken = ctx.realCtx ∧ text.toUserId = ctx.peerUserId := by
  cases hrequest : state.requests i with
  | admitted ctx =>
    refine ⟨ctx, rfl, ?_⟩
    have hstep : (state.step procs (.hub (.hub (.call i env)))).upstream =
        state.upstream ++ if env.ok then
          (CallAgent.notification { procs.call i with ctx := ctx }
            (state.hub.hub.calls i)).toList else [] := by
      simp only [step, enabled, hrequest]
      rw [← running_call_of_admitted hrequest]
      rfl
    rw [hstep] at hsent
    rw [← List.append_cancel_left hsent] at htext
    split at htext
    · have hnotified := Option.mem_toList.mp htext
      exact CallAgent.addressee_of_notification hnotified
    · cases htext
  | _ =>
    have hsame : state.step procs (.hub (.hub (.call i env))) = state := by
      simp [step, enabled, hrequest, ToolPhase.isAdmitted]
    rw [hsame] at hsent
    have hnone := List.append_right_eq_self.mp hsent.symm
    simp [hnone] at htext

/-- Whatever a call sends to the user goes to the conversation in which its
caller got the message that it handles, as this conversation is mapped when the
route looks it up. -/
theorem notifications_stay_in_conversation {hub : DispatchHub ι κ υ δ}
    {updatedAt : PairKey → Int} {past : List (ToolsEvent ι κ υ δ)}
    (hnewest : EveryStep (step procs) (NewestStep procs i) (start hub updatedAt) past)
    {env : Env} {sent : List OutboundText} (hsent : (run (step procs) (start hub updatedAt)
        (past ++ [.hub (.hub (.call i env))])).upstream =
      (run (step procs) (start hub updatedAt) past).upstream ++ sent)
    {text : OutboundText} (htext : text ∈ sent) :
    ∃ seen own vctx context, seen ++ [.tool i own] <+: past ∧
      (run (step procs) (start hub updatedAt) seen).requests i = .lookup ∧
      (run (step procs) (start hub updatedAt) seen).pushed (procs.cause i) =
        some ⟨vctx, callerVtoken procs i⟩ ∧
      (run (step procs) (start hub updatedAt) seen).hub.store.contexts.lookup vctx = some context ∧
      text.contextToken = context.realCtx ∧
      text.toUserId = context.peerUserId.getD "" := by
  rw [run_append] at hsent
  obtain ⟨ctx, hadmitted, hctx, hpeer⟩ := addressee_of_step hsent htext
  have hfresh : ¬ (start hub updatedAt).requests i = .admitted ctx := fun h => nomatch h
  obtain ⟨seen, toolEnv, hseen, hlookup, info, hinfo, hreal, huser⟩ :=
    exists_lookup_of_admitted hfresh hadmitted
  have hunissued : (start hub updatedAt).Issued procs i :=
    absurd rfl
  have hstep : ∀ (state : ToolsHub ι κ υ δ) event, state.Issued procs i →
      (state.step procs event).Issued procs i :=
    fun _ event hissued => hissued.step event
  have hissued := run_invariant hstep hunissued seen
  obtain ⟨⟨vctx, caller⟩, hpushed, rfl⟩ := hissued (by
    rw [hlookup]
    exact fun h => nomatch h)
  -- The condition holds at the lookup, a step of the run.
  have hsteps := hseen
  obtain ⟨rest, rfl⟩ := hsteps
  rw [everyStep_append, everyStep_append] at hnewest
  have hgrant := hnewest.1.2.1 rfl hlookup _ hpushed
  obtain ⟨grant, context, -, hcontext, rfl⟩ :=
    hgrant.eq_of_getActiveCtxForVtoken hinfo
  exact ⟨seen, toolEnv, vctx, context, hseen, hlookup, hpushed, hcontext, hctx.trans hreal,
    hpeer.trans huser⟩

instance (state : ToolsHub ι κ υ δ) :
    ∀ event, Decidable (state.NewestStep procs i event)
  | .tool _ _ => inferInstanceAs (Decidable (_ → _))
  | .hub _ => inferInstanceAs (Decidable True)

end ToolsHub

namespace Sample

/-- Agent `b` serves two conversations; its call belongs to the message of the
first one. -/
def twoTalks : ToolProcesses Unit Empty Empty Bool where
  call := fun _ => callBetween "b" "ping" "1"
  send := fun k => nomatch k
  user := fun x => nomatch x
  forward := messageTo "b"
  cause := fun _ => .user false

/-- The message of the first conversation comes last, or first. -/
def firstTalkLast : List (ToolsEvent Unit Empty Empty Bool) :=
  dispatched true 100 ++ dispatched false 101 ++ called () 101

def firstTalkFirst : List (ToolsEvent Unit Empty Empty Bool) :=
  dispatched false 100 ++ dispatched true 101 ++ called () 101

def question (contextToken toUserId : String) : OutboundText :=
  ⟨contextToken, toUserId, "pong\n@ping\nhi"⟩

end Sample

theorem ToolsHub.notifications_stay_in_newest_conversation :
    ∃ seen own vctx context, seen ++ [.tool () own] <+: firstTalkLast ∧
      (run (step twoTalks) (start (emptyHub twoTalks) never) seen).requests () = .lookup ∧
      (run (step twoTalks) (start (emptyHub twoTalks) never) seen).pushed (twoTalks.cause ()) =
        some ⟨vctx, callerVtoken twoTalks ()⟩ ∧
      (run (step twoTalks) (start (emptyHub twoTalks) never)
          seen).hub.store.contexts.lookup vctx = some context ∧
      (question "ctx1" "peer:u").contextToken = context.realCtx ∧
      (question "ctx1" "peer:u").toUserId = context.peerUserId.getD "" := by
  have hnewest : EveryStep (step twoTalks) (NewestStep twoTalks ())
      (start (emptyHub twoTalks) never)
      firstTalkLast := by decide +kernel
  have hsent : (run (step twoTalks) (start (emptyHub twoTalks) never)
      (firstTalkLast ++ [.hub (.hub (.call () (agents 101)))])).upstream =
      (run (step twoTalks) (start (emptyHub twoTalks) never)
        firstTalkLast).upstream ++ [question "ctx1" "peer:u"] := by decide +kernel
  exact notifications_stay_in_conversation hnewest hsent (List.mem_singleton_self _)

/-- The agent handles the message of the first conversation, and the user of the
second one reads about it. -/
theorem ToolsHub.notification_leaves_conversation :
    (run (step twoTalks) (start (emptyHub twoTalks) never)
        firstTalkFirst).pushed (twoTalks.cause ()) = some ⟨"vctx_1", "b"⟩ ∧
    (run (step twoTalks) (start (emptyHub twoTalks) never)
        firstTalkFirst).hub.store.contexts.lookup "vctx_1" = some ⟨"ctx1", some "peer:u"⟩ ∧
    (run (step twoTalks) (start (emptyHub twoTalks) never)
        (firstTalkFirst ++ [.hub (.hub (.call () (agents 101)))])).upstream =
      [question "ctx2" "peer:v"] :=
  ⟨by decide +kernel, by decide +kernel, by decide +kernel⟩

end IlinkHub
