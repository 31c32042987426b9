/-
The whole `sendmessage` route (`server/routes/bot.rs`): a request that is not an
answer to an agent call is labelled and goes upstream.  What becomes of the text
of a request that the Hub answers with success.
-/
import Mathlib.Data.Fintype.Basic
import IlinkHub.A2aReply
import IlinkHub.Outbound

namespace IlinkHub

open Transition Text

universe u v w

variable {ι : Type u} {κ : Type v} {υ : Type w}

/-- The call id, possibly empty, that makes a request the answer to a call. -/
def SendPhase.answeredCall : SendPhase → Option String
  | .answer reply => reply.msg.ilinkHubExt.bind HubExt.a2aCallId
  | _ => none

/-- The backend takes its message as accepted. -/
def SendMessageResponse.success (response : SendMessageResponse) : Bool :=
  decide (response.ret.getD 0 = 0)

/-- The second half of a request, after its ownership and sessions are settled.
`label` waits for the registry, `upstream` for the answer of the upstream. -/
inductive TailPhase where
  | waiting
  | label (reply : OwnedReply) (msg : WeixinMessage)
  | upstream (msg : WeixinMessage)
  | finished (response : SendMessageResponse)
deriving Repr, DecidableEq

/-- What the second half finds outside: fresh ids, the registry and what the
upstream says. -/
structure TailEnv where
  newClientId : String := ""
  newOutboundMsgId : Int := 0
  registry : ClientRegistry := ClientRegistry.empty
  response : Except String SendMessageResponse := .ok ⟨none, none⟩

namespace OwnedReply

variable (reply : OwnedReply)

/-- The message for the upstream: without the Hub's block, in the real context
and with a receiver. -/
def outbound (env : TailEnv) : WeixinMessage :=
  WeixinMessage.ensureOutbound { reply.msg with
      ilinkHubExt := none
      contextToken := some reply.realCtx
      toUserId := reply.msg.toUserId.or
        (if reply.peerUserId ≠ "" then some reply.peerUserId else none) }
    env.newClientId env.newOutboundMsgId

/-- A message without text or media only reported its session. -/
def afterPersist (env : TailEnv) : TailPhase :=
  let msg := reply.outbound env
  if msg.text.all isBlank && !msg.hasMediaContent then
    .finished ⟨none, none⟩
  else .label reply msg

def labelled (registry : ClientRegistry) (outboundOriginLabel : Option String)
    (msg : WeixinMessage) : WeixinMessage :=
  match registry.getByVtoken reply.pair.vtoken with
  | some client =>
    if shouldAppendOutboundOriginLabel registry.onlineClients.length outboundOriginLabel then
      applyPersonaAndFooterToFirstTextItem msg client (some reply.session)
    else msg
  | none => msg

end OwnedReply

/-- The answer of the route to what the upstream said. -/
def TailEnv.answer (env : TailEnv) : SendMessageResponse :=
  match env.response with
  | .ok response => response
  | .error reason => .err 500 ("upstream error: " ++ reason)

/-- The processes, and the configured switch of the footer. -/
structure ReplyProcesses (ι : Type u) (κ : Type v) (υ : Type w) extends
    Processes ι κ υ where
  outboundOriginLabel : Option String

/-- The Hub with the second halves of the requests, and what they handed to the
upstream. -/
structure ReplyHub (ι : Type u) (κ : Type v) (υ : Type w) where
  hub : A2aHub ι κ υ
  tails : κ → TailPhase
  sent : List (κ × WeixinMessage)

inductive ReplyEvent (ι : Type u) (κ : Type v) (υ : Type w) where
  | hub (event : A2aEvent ι κ υ)
  | tail (k : κ) (env : TailEnv)

namespace ReplyHub

variable (procs : ReplyProcesses ι κ υ)

/-- The second half starts once the first one is through. -/
def tailNext (state : ReplyHub ι κ υ) (k : κ) (env : TailEnv) : TailPhase :=
  match state.tails k, state.hub.sends k with
  | .waiting, .forward reply => reply.afterPersist env
  | .waiting, _ => .waiting
  | .label reply msg, _ =>
    .upstream (reply.labelled env.registry procs.outboundOriginLabel msg)
  | .upstream _, _ => .finished env.answer
  | .finished response, _ => .finished response

/-- The response of a request, once there is one. -/
def response (state : ReplyHub ι κ υ) (k : κ) : Option SendMessageResponse :=
  match state.tails k, state.hub.sends k with
  | .finished response, _ => some response
  | .waiting, .finished response => some response
  | _, _ => none

variable [DecidableEq ι] [DecidableEq κ] [DecidableEq υ]

def step (state : ReplyHub ι κ υ) : ReplyEvent ι κ υ → ReplyHub ι κ υ
  | .hub event =>
    { state with hub := state.hub.step procs.toProcesses event }
  | .tail k env =>
    { state with
      tails := Function.update state.tails k (state.tailNext procs k env)
      sent := state.sent ++
        match state.tails k with
        | .upstream msg => [(k, msg)]
        | _ => [] }

/-- The text has gone upstream in a message of the request. -/
def HandedOn (state : ReplyHub ι κ υ) (k : κ) (text : String) : Prop :=
  ∃ msg header footer, (k, msg) ∈ state.sent ∧ msg.text = some (header ++ text ++ footer)

/-- A call that still waits has the text as its reply. -/
def Received (state : ReplyHub ι κ υ) (text : String) : Prop :=
  ∃ i, (state.hub.calls i).waits = true ∧
    state.hub.world.waiter.delivered.lookup (procs.call i).callId = some text

/-- When the request reaches its answer with a call id, that call is registered
and waits. -/
def InTimeStep (k : κ) (state : ReplyHub ι κ υ) : ReplyEvent ι κ υ → Prop
  | .hub (.send l _) =>
    l = k → ∀ callId ∈ (state.hub.sends l).answeredCall,
      callId ≠ "" ∧ callId ∈ state.hub.world.waiter.pending ∧ ∃ i, (procs.call i).callId = callId ∧
          (state.hub.calls i).waits = true
  | .hub (.call _ _) | .hub (.user _ _) | .hub (.drop _ _ _) | .tail _ _ =>
    True

end ReplyHub

/-- Only an answer to an agent call is accepted in the first half. -/
lemma SendMessage.answer_of_next_success {send : SendMessage} {world : World}
    {env : Env} {phase : SendPhase} {response : SendMessageResponse}
    (hnext : send.next world env phase = .finished response) (hsuccess : response.success = true) :
    phase = .finished response ∨ ∃ reply callId, phase = .answer reply ∧
        reply.msg.ilinkHubExt.bind HubExt.a2aCallId = some callId := by
  cases phase with
  | authenticate =>
    simp only [next, admission] at hnext
    repeat' split at hnext
    all_goals cases hnext
    all_goals cases hsuccess
  | resolve pair msg =>
    simp only [next, afterResolve, afterSession] at hnext
    repeat' split at hnext
    all_goals cases hnext
    all_goals cases hsuccess
  | persistSession reply id =>
    simp only [next, afterSession] at hnext
    split at hnext <;> cases hnext
  | answer reply =>
    simp only [next] at hnext
    split at hnext
    · next hsome =>
      obtain ⟨callId, hcallId⟩ := Option.isSome_iff_exists.mp hsome
      exact .inr ⟨reply, callId, rfl, hcallId⟩
    · cases hnext
  | finished own => exact .inl hnext
  | _ => cases hnext

namespace ReplyHub

variable {procs : ReplyProcesses ι κ υ} {state : ReplyHub ι κ υ} {k : κ} {text : String}

/-- Where the text is until it has gone upstream. -/
def Kept (state : ReplyHub ι κ υ) (k : κ) (text : String) : Prop :=
  match state.tails k with
  | .waiting => ∀ response, state.hub.sends k = .finished response →
      response.success = false
  | .label _ msg => msg.text = some text
  | .upstream msg => ∃ header footer,
      msg.text = some (header ++ text ++ footer)
  | .finished response => response.success = true → state.HandedOn k text

lemma text_outbound (reply : OwnedReply) (env : TailEnv) :
    (reply.outbound env).text = reply.msg.text := rfl

variable {msg : WeixinMessage}

lemma text_labelled (htext : msg.text = some text)
    (reply : OwnedReply) (registry : ClientRegistry) (label : Option String) :
    ∃ header footer, (reply.labelled registry label msg).text =
      some (header ++ text ++ footer) := by
  have hsame : ∃ header footer, msg.text = some (header ++ text ++ footer) :=
    ⟨"", "", by rw [htext, String.empty_append, String.append_empty]⟩
  unfold OwnedReply.labelled
  split
  · split
    · exact text_applyPersonaAndFooter htext _ _
    · exact hsame
  · exact hsame

lemma Kept.congr {after : ReplyHub ι κ υ} (hkept : state.Kept k text)
    (htails : after.tails k = state.tails k) (hsends : after.hub.sends k = state.hub.sends k)
    (hhanded : state.HandedOn k text → after.HandedOn k text) : after.Kept k text := by
  unfold Kept at hkept ⊢
  rw [htails, hsends]
  cases hphase : state.tails k with
  | finished response =>
    rw [hphase] at hkept
    exact fun hsuccess => hhanded (hkept hsuccess)
  | _ =>
    rw [hphase] at hkept
    exact hkept

variable [DecidableEq ι] [DecidableEq κ] [DecidableEq υ]

lemma handedOn_step (event : ReplyEvent ι κ υ) (hhanded : state.HandedOn k text) :
    (state.step procs event).HandedOn k text := by
  obtain ⟨msg, header, footer, hsent, htext⟩ := hhanded
  refine ⟨msg, header, footer, ?_, htext⟩
  cases event with
  | hub event => exact hsent
  | tail l env => exact List.mem_append_left _ hsent

lemma Kept.step_tail (hkept : state.Kept k text) (hmsg : (procs.send k).req.msg = some msg)
    (htext : msg.text = some text) (hblank : isBlank text = false)
    (hcarries : (procs.send k).Carries (state.hub.sends k)) (env : TailEnv) :
    (state.step procs (.tail k env)).Kept k text := by
  have htails : (state.step procs (.tail k env)).tails k =
      state.tailNext procs k env := Function.update_self ..
  unfold Kept at hkept ⊢
  rw [htails]
  unfold tailNext
  cases hphase : state.tails k with
  | waiting =>
    rw [hphase] at hkept
    cases hsend : state.hub.sends k with
    | forward reply =>
      rw [hsend] at hcarries
      have hreply : reply.msg.text = some text := by
        rw [← htext, Option.some.inj (hcarries.1.request.symm.trans hmsg)]
      have hopen : reply.afterPersist env = .label reply (reply.outbound env) := by
        rw [OwnedReply.afterPersist, text_outbound, hreply]
        simp [hblank]
      simp only [hopen]
      rw [text_outbound, hreply]
    | _ =>
      intro own hown
      exact hkept own hown
  | label reply own =>
    rw [hphase] at hkept
    exact text_labelled hkept reply _ _
  | upstream own =>
    rw [hphase] at hkept
    obtain ⟨header, footer, hown⟩ := hkept
    intro _
    refine ⟨own, header, footer, ?_, hown⟩
    simp [step, hphase]
  | finished response =>
    rw [hphase] at hkept
    intro hsuccess
    exact handedOn_step _ (hkept hsuccess)

/-- The answer to a call that waits reaches it. -/
lemma received_of_answer {reply : OwnedReply} {callId : String}
    (hphase : state.hub.sends k = .answer reply)
    (hcallId : reply.msg.ilinkHubExt.bind HubExt.a2aCallId = some callId)
    (htext : reply.msg.text = some text) (hblank : isBlank text = false)
    {env : Env} (hintime : state.InTimeStep procs k (.hub (.send k env))) :
    (state.step procs (.hub (.send k env))).Received procs text := by
  have hanswers : (state.hub.sends k).answeredCall = some callId := by
    rw [hphase]
    exact hcallId
  obtain ⟨hnonempty, hpending, i, rfl, hwaits⟩ := hintime rfl callId hanswers
  have htextNonempty : text ≠ "" := by
    rintro rfl
    cases hblank
  have hhands : SendMessage.handsOver (state.hub.sends k) = some ((procs.call i).callId, text) := by
    simp only [SendMessage.handsOver, hphase, hcallId, htext]
    rw [if_pos ⟨hnonempty, htextNonempty⟩]
  refine ⟨i, hwaits, ?_⟩
  have hwaiter : (state.step procs (.hub (.send k env))).hub.world.waiter =
      (state.hub.world.waiter.resolve (procs.call i).callId text).2 :=
    SendMessage.waiterAfter_of_handsOver hhands _
  rw [hwaiter, A2aWaiter.resolve, if_pos hpending]
  exact AList.lookup_insert _

/-- The first half of the request keeps the text for the second one, or gives it
to a call. -/
lemma Kept.step_send (hkept : state.Kept k text)
    (hmsg : (procs.send k).req.msg = some msg) (htext : msg.text = some text)
    (hblank : isBlank text = false)
    (hcarries : (procs.send k).Carries (state.hub.sends k)) {env : Env}
    (hintime : state.InTimeStep procs k (.hub (.send k env))) :
    (state.step procs (.hub (.send k env))).Kept k text ∨
      (state.step procs (.hub (.send k env))).Received procs text := by
  have hsends : (state.step procs (.hub (.send k env))).hub.sends k =
      (procs.send k).next state.hub.world env (state.hub.sends k) :=
    A2aHub.sends_step_send _ _ _
  by_cases hanswer : ∃ reply callId, state.hub.sends k = .answer reply ∧
      reply.msg.ilinkHubExt.bind HubExt.a2aCallId = some callId
  · obtain ⟨reply, callId, hphase, hcallId⟩ := hanswer
    rw [hphase] at hcarries
    have hreply : reply.msg.text = some text := by
      rw [← htext, Option.some.inj (hcarries.1.request.symm.trans hmsg)]
    exact .inr (received_of_answer hphase hcallId hreply hblank hintime)
  · left
    have htails : (state.step procs (.hub (.send k env))).tails k = state.tails k := rfl
    unfold Kept at hkept ⊢
    rw [htails]
    cases hphase : state.tails k with
    | waiting =>
      rw [hphase] at hkept
      intro response hresponse
      rw [hsends] at hresponse
      cases hsuccess : response.success with
      | false => rfl
      | true =>
        rcases SendMessage.answer_of_next_success hresponse hsuccess with
          hbefore | hanswered
        · simp [hkept response hbefore] at hsuccess
        · exact absurd hanswered hanswer
    | _ =>
      rw [hphase] at hkept
      exact hkept

lemma Kept.step (hkept : state.Kept k text) (hmsg : (procs.send k).req.msg = some msg)
    (htext : msg.text = some text) (hblank : isBlank text = false)
    (hcarries : (procs.send k).Carries (state.hub.sends k)) {event : ReplyEvent ι κ υ}
    (hintime : state.InTimeStep procs k event) :
    (state.step procs event).Kept k text ∨ (state.step procs event).Received procs text := by
  have hhanded : state.HandedOn k text →
      (state.step procs event).HandedOn k text := handedOn_step event
  cases event with
  | tail l env =>
    left
    by_cases hkl : k = l
    · subst hkl
      exact hkept.step_tail hmsg htext hblank hcarries env
    · exact hkept.congr (Function.update_of_ne hkl _ _) rfl hhanded
  | hub event =>
    cases event with
    | send l env =>
      by_cases hkl : k = l
      · subst hkl
        exact hkept.step_send hmsg htext hblank hcarries hintime
      · exact .inl (hkept.congr rfl (A2aHub.sends_step_send_of_ne hkl env) hhanded)
    | _ => exact .inl (hkept.congr rfl rfl hhanded)

lemma carries_step (hcarries : (procs.send k).Carries (state.hub.sends k))
    (event : ReplyEvent ι κ υ) : (procs.send k).Carries ((state.step procs event).hub.sends k) := by
  cases event with
  | hub event => exact A2aHub.carries_step hcarries event
  | tail l env => exact hcarries

/-- A request that is accepted has its text delivered, as long as a call that it
answers is still waiting when the answer comes. -/
theorem accepted_reply_delivered {start : ReplyHub ι κ υ}
    {msg : WeixinMessage} (hmsg : (procs.send k).req.msg = some msg)
    (htext : msg.text = some text) (hblank : isBlank text = false)
    (hsend : start.hub.sends k = SendMessage.start)
    (htail : start.tails k = .waiting) {events : List (ReplyEvent ι κ υ)}
    (hintime : EveryStep (step procs) (InTimeStep procs k) start events)
    {response : SendMessageResponse}
    (hresponse : (run (step procs) start events).response k = some response)
    (hsuccess : response.success = true) :
    (run (step procs) start events).HandedOn k text ∨ ∃ past, past <+: events ∧
        (run (step procs) start past).Received procs text := by
  have hcarries : (procs.send k).Carries (start.hub.sends k) := by
    rw [hsend]
    trivial
  have hkept : start.Kept k text := by
    unfold Kept
    rw [htail, hsend]
    exact fun _ h => nomatch h
  clear hsend htail
  induction events generalizing start with
  | nil =>
    left
    simp only [run_nil] at hresponse ⊢
    unfold Kept at hkept
    unfold ReplyHub.response at hresponse
    split at hresponse
    · next hphase =>
      cases hresponse
      rw [hphase] at hkept
      exact hkept hsuccess
    · next hphase hfinished =>
      cases hresponse
      rw [hphase] at hkept
      simp [hkept _ hfinished] at hsuccess
    · cases hresponse
  | cons event events ih =>
    rcases hkept.step hmsg htext hblank hcarries hintime.1 with
      hnext | hreceived
    · rcases ih hintime.2 hresponse (carries_step hcarries event) hnext with
        hhanded | ⟨past, hpast, hreceived⟩
      · exact .inl hhanded
      · exact .inr ⟨event :: past, (List.prefix_cons_inj event).mpr hpast, hreceived⟩
    · exact .inr ⟨[event], ⟨events, rfl⟩, hreceived⟩

instance [Fintype ι] (state : ReplyHub ι κ υ) :
    ∀ event, Decidable (state.InTimeStep procs k event)
  | .hub (.send _ _) => inferInstanceAs (Decidable (_ → _))
  | .hub (.call _ _) | .hub (.user _ _) | .hub (.drop _ _ _) | .tail _ _ =>
    inferInstanceAs (Decidable True)

end ReplyHub

namespace Sample

def callAndReply : ReplyProcesses Unit Unit Empty :=
  { callAndAnswer with outboundOriginLabel := none }

def beforeReply : ReplyHub Unit Unit Empty :=
  ⟨beforeAnswer none, fun _ => .waiting, []⟩

def replyInTime : List (ReplyEvent Unit Unit Empty) :=
  (callEvents 8 ++ answerEvents 4).map .hub

/-- The grant of the agent for a user message outlives the call. -/
def beforeLateReply : ReplyHub Unit Unit Empty :=
  ⟨beforeAnswer (some ⟨"default", 0, 1000⟩), fun _ => .waiting, []⟩

def replyTooLate : List (ReplyEvent Unit Unit Empty) :=
  (callEvents 13 ++ answerEvents 4).map .hub

end Sample

open Sample

namespace ReplyHub

set_option maxRecDepth 4000 in
theorem accepted_reply_delivered_in_time :
    (run (step callAndReply) beforeReply replyInTime).response () = some .ok ∧
      ((run (step callAndReply) beforeReply replyInTime).HandedOn () "done" ∨
        ∃ past, past <+: replyInTime ∧ (run (step callAndReply) beforeReply
            past).Received callAndReply "done") := by
  have hresponse : (run (step callAndReply) beforeReply replyInTime).response () = some .ok := by
    decide
  have hintime : EveryStep (step callAndReply) (InTimeStep callAndReply ()) beforeReply
      replyInTime := by decide
  have hmsg : (callAndReply.send ()).req.msg = some answer := rfl
  have htext : answer.text = some "done" := by decide
  have hblank : isBlank "done" = false := by decide
  exact ⟨hresponse, accepted_reply_delivered hmsg htext hblank rfl rfl hintime hresponse rfl⟩

set_option maxRecDepth 4000 in
/-- The call has timed out: its late answer is accepted, and the text is
nowhere. -/
theorem late_reply_swallowed :
    (callAndReply.send ()).req.msg = some answer ∧ answer.text = some "done" ∧
      (run (step callAndReply) beforeLateReply replyTooLate).response () = some .ok ∧
      (run (step callAndReply) beforeLateReply replyTooLate).sent = [] ∧
      (run (step callAndReply) beforeLateReply
        replyTooLate).hub.world.waiter.delivered.lookup "1" = none ∧
      (run (step callAndReply) beforeLateReply replyTooLate).hub.calls () = .finished (errorContent
          "Agent 'bot' did not reply within 120 seconds.") :=
  ⟨rfl, by decide, by decide, by decide, by decide, by decide⟩

end ReplyHub

end IlinkHub
