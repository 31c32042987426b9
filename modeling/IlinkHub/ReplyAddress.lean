/-
Whom a reply is addressed to: from the message of a user through its dispatch,
the table of contexts and `resolve_send_context` to the request that
`sendmessage` hands to the upstream, in any interleaving of the handlers.
-/
import IlinkHub.ContextPeers
import IlinkHub.HubRuns

namespace IlinkHub

open Sample Transition Function HubData

lemma AdminOp.contexts_step (admin : AdminOp) (data : HubData) (env : HubEnv) (phase : AdminPhase) :
    (admin.step data env phase).1.world.store.contexts = data.world.store.contexts := by
  cases phase with
  | start =>
    cases admin <;> simp only [step, begin] <;> repeat' split
    all_goals rfl
  | persistDefault hashed =>
    simp only [step]
    split <;> rfl
  | upsert hashed =>
    rw [step, (sameMemory_written fun _ =>
      sameMemory_upsertClient).world]
  | remove vtoken =>
    simp only [step]
    split <;> rfl
  | unregister vtoken newDefault stage =>
    cases stage with
    | clearRoutes | deleteClient =>
      simp only [step, unregisterNext]
      split <;> rfl
    | _ => rfl
  | revoke rotation stage =>
    cases stage with
    | revokeRows =>
      simp only [step, revokeNext]
      split <;> rfl
    | upsert =>
      simp only [step, revokeNext]
      split
      · next after hafter =>
        rw [(sameMemory_of_written (fun _ =>
          sameMemory_upsertClient) hafter).world]
      · rfl
    | _ => rfl
  | updateRow vtoken name =>
    rw [step, (sameMemory_written fun _ =>
      sameMemory_updateClient).world]
  | _ => rfl

namespace Running

/-- What the handler was started for. -/
def task : Running → Option Task
  | .dispatch own _ => some (.dispatch own)
  | .getUpdates own _ => some (.getUpdates own)
  | .send own _ => some (.send own)
  | .call own _ => some (.call own)
  | .admin own _ => some (.admin own)
  | .cancelled => none

lemma task_start (task : Task) : task.start.task = some task := by
  cases task <;> rfl

variable {config : HubConfig} {data : HubData} {env : HubEnv}

lemma task_next (running : Running) : (running.next config data env).task = running.task := by
  cases running <;> rfl

lemma peerOf_dataAfter (running : Running) :
    (running.dataAfter config data env).world.store.peerOf = data.world.store.peerOf ∨
      ∃ own, running.task = some (.dispatch own) ∧ own.Enters data.world.store
          (running.dataAfter config data env).world.store := by
  cases running with
  | dispatch own phase => exact .inr ⟨own, rfl, own.enters_dataAfter phase⟩
  | send own phase =>
    left
    cases phase with
    | send phase => exact Store.peerOf_congr (Store.contexts_attempt _ _ _ _)
    | tail phase => cases phase <;> rfl
  | getUpdates own phase => cases phase <;> exact .inl rfl
  | call own phase =>
    exact .inl (Store.peerOf_congr (Store.contexts_attempt _ _ _ _))
  | admin own phase =>
    exact .inl (Store.peerOf_congr (own.contexts_step data env phase))
  | cancelled => exact .inl rfl

end Running

universe u

/-- The names that dispatches draw for contexts are new, and no two dispatches
draw the same one. -/
structure NewContexts {τ : Type u} (tasks : τ → Task) (store : Store) :
    Prop where
  candidate : ∀ {t own}, tasks t = .dispatch own → ∀ vtoken,
    store.peerOf (own.inbound.candidate vtoken) = none
  ephemeral : ∀ {t own}, tasks t = .dispatch own → ∀ vtoken,
    store.peerOf (own.inbound.ephemeral vtoken) = none
  distinct : ∀ {t s own other}, tasks t = .dispatch own → tasks s = .dispatch other → ∀ vtoken
    recipient, own.inbound.candidate vtoken = other.inbound.candidate recipient → t = s
  apart : ∀ {t s own other}, tasks t = .dispatch own → tasks s = .dispatch other → ∀ vtoken
    recipient, own.inbound.ephemeral vtoken ≠ other.inbound.candidate recipient

namespace HubState

variable {τ : Type u} {tasks : τ → Task} {config : HubConfig} {state : HubState τ}

/-- Contexts are kept for the conversation that they were drawn for; dispatches
hold contexts of their conversation, and replies are addressed to the peer of
their context. -/
structure Addressed (tasks : τ → Task) (state : HubState τ) : Prop where
  started : ∀ t, state.tasks t = .cancelled ∨ (state.tasks t).task = some (tasks t)
  candidate : ∀ {t own}, tasks t = .dispatch own → ∀ vtoken {peer},
    state.data.world.store.peerOf (own.inbound.candidate vtoken) = some peer →
      peer = some own.convKey
  ephemeral : ∀ {t own}, tasks t = .dispatch own → ∀ vtoken,
    state.data.world.store.peerOf (own.inbound.ephemeral vtoken) = none
  context : ∀ {t own phase vtoken vctx}, state.tasks t = .dispatch own phase →
    phase.context = some (vtoken, vctx) →
      state.data.world.store.peerOf vctx = some (some own.convKey) ∨
        vctx = own.inbound.ephemeral vtoken
  reply : ∀ {s send phase}, state.tasks s = .send send phase →
    send.Addressed state.data.world.store phase

lemma addressed_start {data : HubData} (removed : List String)
    (hnew : NewContexts tasks data.world.store) : Addressed tasks (start tasks data removed) where
  started t := Or.inr (Running.task_start (tasks t))
  candidate htask vtoken peer hpeer := by
    have hnone := hnew.candidate htask vtoken
    rw [start] at hpeer
    rw [hnone] at hpeer
    cases hpeer
  ephemeral htask := hnew.ephemeral htask
  context {t own phase vtoken vctx} htask hcontext := by
    simp only [start] at htask
    cases ht : tasks t with
    | dispatch other =>
      rw [ht] at htask
      obtain ⟨-, rfl⟩ := Running.dispatch.inj htask
      cases hcontext
    | _ =>
      rw [ht] at htask
      cases htask
  reply {s send phase} htask := by
    simp only [start] at htask
    cases hs : tasks s with
    | send other =>
      rw [hs] at htask
      obtain ⟨-, rfl⟩ := Running.send.inj htask
      exact ⟨trivial, fun reply hreply => by cases hreply⟩
    | _ =>
      rw [hs] at htask
      cases htask

/-- A step keeps the peers of all contexts, or it lets a context of a dispatch
in. -/
lemma peerOf_step [DecidableEq τ] (event : HubEvent τ) :
    (state.step config event).data.world.store.peerOf = state.data.world.store.peerOf ∨
      ∃ t own, (state.tasks t).task = some (.dispatch own) ∧ own.Enters state.data.world.store
          (state.step config event).data.world.store := by
  cases event with
  | run t env =>
    rcases (state.tasks t).peerOf_dataAfter with hsame | ⟨own, htask, henters⟩
    · exact .inl hsame
    · exact .inr ⟨t, own, htask, henters⟩
  | save index ok now =>
    simp only [step, saveMessage]
    split <;> exact .inl rfl
  | _ => exact .inl rfl

lemma peerOf_mono [DecidableEq τ] {event : HubEvent τ} {vctx : String} {peer : Option String}
    (hpeer : state.data.world.store.peerOf vctx = some peer) :
    (state.step config event).data.world.store.peerOf vctx = some peer := by
  rcases state.peerOf_step event with hsame | ⟨t, own, -, hsame | henters⟩
  · rw [hsame]
    exact hpeer
  · rw [hsame]
    exact hpeer
  · obtain ⟨vtoken, hnew, hafter⟩ := henters
    have hne : vctx ≠ own.inbound.candidate vtoken := by
      rintro rfl
      simp [hnew] at hpeer
    rw [hafter, update_of_ne hne]
    exact hpeer

lemma Addressed.eq_of_task (haddressed : Addressed tasks state) {t : τ} {task : Task}
    (htask : (state.tasks t).task = some task) : tasks t = task := by
  rcases haddressed.started t with hcancelled | hstarted
  · rw [hcancelled] at htask
    cases htask
  · rw [hstarted] at htask
    exact Option.some.inj htask

section Step
variable [DecidableEq τ] {event : HubEvent τ}

lemma Addressed.started_step (haddressed : Addressed tasks state) (t : τ) :
    (state.step config event).tasks t = .cancelled ∨
      ((state.step config event).tasks t).task = some (tasks t) := by
  rcases state.task_step event t with ⟨env, rfl⟩ | hcancelled | ⟨hsame, -⟩
  · rw [tasks_step_run]
    rcases haddressed.started t with hcancelled | hstarted
    · rw [hcancelled]
      exact .inl rfl
    · rw [Running.task_next]
      exact .inr hstarted
  · exact .inl hcancelled
  · rw [hsame]
    exact haddressed.started t

variable {store : Store} {own : Dispatch}

/-- A candidate comes into the table under the key of its own conversation. -/
lemma Addressed.candidate_step
    (hnew : NewContexts tasks store) (haddressed : Addressed tasks state)
    {t : τ} (htask : tasks t = .dispatch own) (vtoken : String) {peer : Option String}
    (hpeer : (state.step config event).data.world.store.peerOf
      (own.inbound.candidate vtoken) = some peer) : peer = some own.convKey := by
  rcases state.peerOf_step event with
    hsame | ⟨s, other, hother, hsame | ⟨recipient, -, hafter⟩⟩
  · rw [hsame] at hpeer
    exact haddressed.candidate htask vtoken hpeer
  · rw [hsame] at hpeer
    exact haddressed.candidate htask vtoken hpeer
  · rw [hafter] at hpeer
    by_cases heq : own.inbound.candidate vtoken = other.inbound.candidate recipient
    · have hs := haddressed.eq_of_task hother
      obtain rfl := hnew.distinct htask hs vtoken recipient heq
      obtain rfl := Task.dispatch.inj (htask.symm.trans hs)
      rw [heq, update_self] at hpeer
      exact (Option.some.inj hpeer).symm
    · rw [update_of_ne heq] at hpeer
      exact haddressed.candidate htask vtoken hpeer

lemma Addressed.ephemeral_step (hnew : NewContexts tasks store)
    (haddressed : Addressed tasks state) {t : τ} (htask : tasks t = .dispatch own)
    (vtoken : String) :
    (state.step config event).data.world.store.peerOf (own.inbound.ephemeral vtoken) = none := by
  rcases state.peerOf_step event with
    hsame | ⟨s, other, hother, hsame | ⟨recipient, -, hafter⟩⟩
  · rw [hsame]
    exact haddressed.ephemeral htask vtoken
  · rw [hsame]
    exact haddressed.ephemeral htask vtoken
  · have hne := hnew.apart htask (haddressed.eq_of_task hother) vtoken recipient
    rw [hafter, update_of_ne hne]
    exact haddressed.ephemeral htask vtoken

lemma Addressed.context_step (hnew : NewContexts tasks store) (haddressed : Addressed tasks state)
    {t : τ} {phase : DispatchPhase} {vtoken vctx : String}
    (htask : (state.step config event).tasks t = .dispatch own phase)
    (hcontext : phase.context = some (vtoken, vctx)) :
    (state.step config event).data.world.store.peerOf vctx = some (some own.convKey) ∨
      vctx = own.inbound.ephemeral vtoken := by
  rcases state.task_step event t with ⟨env, rfl⟩ | hcancelled | ⟨hsame, -⟩
  · rw [tasks_step_run] at htask
    cases hrunning : state.tasks t with
    | dispatch other before =>
      rw [hrunning] at htask
      obtain ⟨rfl, rfl⟩ := Running.dispatch.inj htask
      rcases Dispatch.context_next hcontext with hheld | hresolved
      · exact (haddressed.context hrunning hheld).imp_left peerOf_mono
      · have hdata : (state.step config (.run t env)).data =
            other.dataAfter state.data env before := by
          simp [step, hrunning, Running.dataAfter]
        rcases (Dispatch.of_resolved hresolved).2 with
          hkey | ⟨hname, hknown⟩ | hephemeral
        · rw [hdata]
          exact .inl hkey
        · -- A candidate that is known stands under its conversation.
          obtain ⟨peer, hpeer⟩ := Option.isSome_iff_exists.mp hknown
          have htask := haddressed.eq_of_task (congrArg Running.task hrunning)
          rw [hname, ← hdata] at hpeer
          rw [hname, hpeer, haddressed.candidate_step hnew htask vtoken hpeer]
          exact .inl rfl
        · exact .inr hephemeral
    | _ =>
      rw [hrunning] at htask
      cases htask
  · rw [hcancelled] at htask
    cases htask
  · rw [hsame] at htask
    exact (haddressed.context htask hcontext).imp_left peerOf_mono

lemma Addressed.reply_step (haddressed : Addressed tasks state) {s : τ} {send : SendMessage}
    {phase : ReplyPhase} (htask : (state.step config event).tasks s = .send send phase) :
    send.Addressed (state.step config event).data.world.store phase := by
  apply SendMessage.Addressed.mono fun _ _ => peerOf_mono
  rcases state.task_step event s with ⟨env, rfl⟩ | hcancelled | ⟨hsame, -⟩
  · rw [tasks_step_run] at htask
    cases hrunning : state.tasks s with
    | send other before =>
      rw [hrunning] at htask
      obtain ⟨rfl, rfl⟩ := Running.send.inj htask
      exact (haddressed.reply hrunning).next
    | _ =>
      rw [hrunning] at htask
      cases htask
  · rw [hcancelled] at htask
    cases htask
  · rw [hsame] at htask
    exact haddressed.reply htask

lemma Addressed.step (hnew : NewContexts tasks store) (haddressed : Addressed tasks state)
    (event : HubEvent τ) : Addressed tasks (state.step config event) where
  started := haddressed.started_step
  candidate htask vtoken _ := haddressed.candidate_step hnew htask vtoken
  ephemeral htask := haddressed.ephemeral_step hnew htask
  context htask := haddressed.context_step hnew htask
  reply htask := haddressed.reply_step htask

end Step

variable [DecidableEq τ]

lemma peerOf_run (events : List (HubEvent τ)) {vctx : String} {peer : Option String}
    (hpeer : state.data.world.store.peerOf vctx = some peer) :
    (run (step config) state events).data.world.store.peerOf vctx = some peer := by
  have hstep : ∀ (state : HubState τ) (event : HubEvent τ), state.data.world.store.peerOf vctx =
      some peer → (state.step config event).data.world.store.peerOf vctx = some peer :=
    fun _ _ => peerOf_mono
  exact run_invariant hstep hpeer events

lemma addressed_run {data : HubData} (removed : List String)
    (hnew : NewContexts tasks data.world.store) (events : List (HubEvent τ)) :
    Addressed tasks (run (step config) (start tasks data removed) events) := by
  have hstep : ∀ (state : HubState τ) (event : HubEvent τ),
      Addressed tasks state → Addressed tasks (state.step config event) :=
    fun _ event haddressed => haddressed.step hnew event
  exact run_invariant hstep (addressed_start removed hnew) events

end HubState

namespace Running

/-- The message that the next step puts into the queue of a backend. -/
def delivery : Running → Option (String × WeixinMessage)
  | .dispatch own phase => own.delivery phase
  | .getUpdates _ _ | .send _ _ | .call _ _ | .admin _ _ | .cancelled => none

/-- The message that is handed to the upstream. -/
def upstream : Running → Option WeixinMessage
  | .send _ (.tail (.upstream msg)) => some msg
  | _ => none

lemma eq_of_upstream {running : Running} {msg : WeixinMessage}
    (hup : running.upstream = some msg) : ∃ send, running = .send send (.tail (.upstream msg)) := by
  revert hup
  fun_cases upstream running with
  | case1 send own =>
    intro hup
    cases hup
    exact ⟨send, rfl⟩
  | case2 =>
    intro hup
    cases hup

end Running

/-- A direct message of the user is delivered in the first state, and in the
last one the same backend answers it: its request has the delivered context and
names no receiver. -/
def DirectReply {τ : Type u} (tasks : τ → Task) (first last : HubState τ)
    (user vctx : String) (upstream : WeixinMessage) : Prop :=
  ∃ t s own send vtoken delivered msg, tasks t = .dispatch own ∧ own.msg.fromUserId = some user ∧
    (own.msg.groupId.filter fun group => group ≠ "") = none ∧
    (first.tasks t).delivery = some (vtoken, delivered) ∧
    delivered.contextToken = some vctx ∧
    tasks s = .send send ∧ send.vtoken = some vtoken ∧
    send.req.msg = some msg ∧ msg.contextToken = some vctx ∧
    msg.toUserId = none ∧ (last.tasks s).upstream = some upstream

/-- The message goes to the user, in the real context of the last message of the
conversation. -/
def WeixinMessage.Answers (msg : WeixinMessage) (user : String) (row : Option ContextRow) : Prop :=
  msg.toUserId = some user ∧ msg.contextToken = row.map ContextRow.realCtx

namespace Dispatch

variable {own : Dispatch} {user : String}

/-- A direct conversation is kept under the tagged name of the user. -/
lemma convKey_direct (huser : own.msg.fromUserId = some user)
    (hdirect : (own.msg.groupId.filter fun group => group ≠ "") = none) :
    own.convKey = if user = "" then "" else "peer:" ++ user := by
  have hfrom : own.fromUserId = user := by
    change own.msg.fromUserId.getD "" = user
    rw [huser, Option.getD_some]
  rw [convKey, Store.convKey, hdirect, hfrom]
  by_cases hempty : user = ""
  · simp
  · simp

end Dispatch

lemma peer_append_ne (user : String) : "peer:" ++ user ≠ user := by
  intro heq
  have hlength := congrArg String.length heq
  rw [String.length_append] at hlength
  have hprefix : "peer:".length = 5 := rfl
  omega

namespace HubState

variable {τ : Type u} {tasks : τ → Task} {config : HubConfig}

/-- A dispatch delivers under a context of its conversation, or under its
ephemeral one. -/
lemma Addressed.context_of_delivery {state : HubState τ}
    (haddressed : Addressed tasks state) {t : τ} {own : Dispatch}
    {vtoken vctx : String} {delivered : WeixinMessage} (htask : tasks t = .dispatch own)
    (hdelivery : (state.tasks t).delivery = some (vtoken, delivered))
    (hvctx : delivered.contextToken = some vctx) :
    state.data.world.store.peerOf vctx = some (some own.convKey) ∨
      vctx = own.inbound.ephemeral vtoken := by
  cases hrunning : state.tasks t with
  | dispatch other phase =>
    rw [hrunning] at hdelivery
    have hsame := haddressed.eq_of_task (congrArg Running.task hrunning)
    obtain rfl := Task.dispatch.inj (htask.symm.trans hsame)
    exact haddressed.context hrunning (Dispatch.context_of_delivery hdelivery hvctx)
  | _ =>
    rw [hrunning] at hdelivery
    cases hdelivery

/-- A message for the upstream has the receiver of its request, otherwise the
peer of the context that the request has. -/
lemma Addressed.peer_of_upstream {state : HubState τ} (haddressed : Addressed tasks state) {s : τ}
    {send : SendMessage} {vctx : String} {msg upstream : WeixinMessage}
    (htask : tasks s = .send send) (hmsg : send.req.msg = some msg)
    (hvctx : msg.contextToken = some vctx) (hup : (state.tasks s).upstream = some upstream) :
    ∃ peer, state.data.world.store.peerOf vctx = some peer ∧
      upstream.toUserId = msg.receiver (peer.getD "") := by
  obtain ⟨other, hrunning⟩ := Running.eq_of_upstream hup
  have hsame := haddressed.eq_of_task (congrArg Running.task hrunning)
  obtain rfl := Task.send.inj (htask.symm.trans hsame)
  obtain ⟨pair, own, peer, haddresses, hpeer, hreceiver⟩ :=
    haddressed.reply hrunning
  obtain rfl := Option.some.inj (hmsg.symm.trans haddresses.request)
  obtain rfl := Option.some.inj (hvctx.symm.trans haddresses.context)
  exact ⟨peer, hpeer, hreceiver⟩

/-- A reply that names no receiver goes to the tagged name of its user, which
is never the user. -/
theorem reply_never_to_sender [DecidableEq τ] {data : HubData} {removed : List String}
    (hnew : NewContexts tasks data.world.store)
    (events later : List (HubEvent τ)) {user vctx : String} {upstream : WeixinMessage}
    (hreply : DirectReply tasks (run (step config) (start tasks data removed) events)
      (run (step config) (start tasks data removed) (events ++ later)) user vctx upstream) :
    upstream.toUserId = (if user = "" then none else some ("peer:" ++ user)) ∧
      ¬ upstream.Answers user ((run (step config) (start tasks data removed)
          (events ++ later)).data.world.store.contexts.lookup vctx) := by
  obtain ⟨t, s, own, send, vtoken, delivered, msg, ht, huser, hdirect,
    hdelivery, hdelivered, hs, hsender, hmsg, hvctx, hnone, hup⟩ := hreply
  have hreceiver : upstream.toUserId =
      if user = "" then none else some ("peer:" ++ user) := by
    obtain ⟨peer, hpeer, hto⟩ := (addressed_run removed hnew
      (events ++ later)).peer_of_upstream hs hmsg hvctx hup
    obtain hkey | hephemeral := (addressed_run removed hnew
      events).context_of_delivery ht hdelivery hdelivered
    · rw [run_append, peerOf_run later hkey] at hpeer
      cases hpeer
      rw [hto, WeixinMessage.receiver, hnone, Dispatch.convKey_direct huser hdirect]
      by_cases hempty : user = ""
      · simp [hempty]
      · simp [hempty]
    · -- An ephemeral context is not in the table, and its replies are refused.
      have haddressed : Addressed tasks (run (step config)
          (start tasks data removed) (events ++ later)) :=
        addressed_run removed hnew (events ++ later)
      have hunknown := haddressed.ephemeral ht vtoken
      rw [← hephemeral, hpeer] at hunknown
      cases hunknown
  refine ⟨hreceiver, ?_⟩
  rintro ⟨huser, -⟩
  rw [huser] at hreceiver
  split at hreceiver
  · cases hreceiver
  · exact peer_append_ne user (Option.some.inj hreceiver).symm

end HubState

namespace Sample

inductive ReplyHandler where
  | registration
  | message
  | answer
deriving DecidableEq

/-- A client is registered, gets the message of the user and answers it. -/
def replyTasks : ReplyHandler → Task
  | .registration => .admin (.register "bot" none none)
  | .message => .dispatch { inbound := inbound "u" "hi" }
  | .answer => .send ⟨some "h1",
      ⟨some { (inbound "" "done").msg with contextToken := some "vctx_1" }⟩⟩

def replyHub (events : List (HubEvent ReplyHandler)) : HubState ReplyHandler :=
  run (HubState.step noAcl) (.start replyTasks freshHub []) events

/-- Up to the delivery. -/
def replyDelivers : List (HubEvent ReplyHandler) :=
  List.replicate 4 (.run .registration { drawn := "h1" }) ++
    List.replicate 9 (.run .message { now := 1 })

def replyAnswers : List (HubEvent ReplyHandler) :=
  .run .message { now := 1 } :: List.replicate 5 (.run .answer { now := 2 })

/-- The message of the user as it is delivered, and the answer as it goes
upstream. -/
def replyDelivered : WeixinMessage :=
  { (inbound "u" "hi").msg with
    contextToken := some "vctx_1"
    ilinkHubExt := some { sessionName := some "default" } }

def replyUpstream : WeixinMessage :=
  { (inbound "" "done").msg with
    messageId := some 0
    toUserId := some "peer:u"
    clientId := some ""
    messageState := some 2 }

lemma eq_of_replyTasks {t : ReplyHandler} {own : Dispatch} (htask : replyTasks t = .dispatch own) :
    t = .message ∧ own.inbound = inbound "u" "hi" := by
  cases t with
  | registration => cases htask
  | message =>
    obtain rfl := Task.dispatch.inj htask
    exact ⟨rfl, rfl⟩
  | answer => cases htask

lemma newContexts_reply : NewContexts replyTasks freshHub.world.store where
  candidate htask vtoken := by
    rfl
  ephemeral htask vtoken := by
    rfl
  distinct ht hs _ _ _ := by
    rw [(eq_of_replyTasks ht).1, (eq_of_replyTasks hs).1]
  apart ht hs vtoken recipient := by
    rw [(eq_of_replyTasks ht).2, (eq_of_replyTasks hs).2]
    simp [inbound]

lemma directReply_sample : DirectReply replyTasks (replyHub replyDelivers)
      (replyHub (replyDelivers ++ replyAnswers)) "u" "vctx_1" replyUpstream := by
  refine ⟨.message, .answer, _, _, "h1", replyDelivered, _, rfl, rfl, rfl, ?_, rfl, rfl,
    rfl, rfl, rfl, rfl, ?_⟩
  · decide +kernel
  · decide +kernel

end Sample

theorem HubState.reply_never_to_sender_sample :
    replyUpstream.toUserId = some "peer:u" ∧ ¬ replyUpstream.Answers "u"
        ((replyHub (replyDelivers ++ replyAnswers)).data.world.store.contexts.lookup "vctx_1") :=
  reply_never_to_sender newContexts_reply replyDelivers replyAnswers directReply_sample

/-- The context of the answer is the right one, its receiver is not. -/
theorem HubState.reply_to_peer_key :
    NewContexts replyTasks freshHub.world.store ∧ DirectReply replyTasks (replyHub replyDelivers)
        (replyHub (replyDelivers ++ replyAnswers)) "u" "vctx_1" replyUpstream ∧
      replyUpstream.contextToken = ((replyHub (replyDelivers ++
          replyAnswers)).data.world.store.contexts.lookup "vctx_1").map ContextRow.realCtx ∧
      replyUpstream.toUserId = some "peer:u" ∧
      replyUpstream.toUserId ≠ some "u" := by
  refine ⟨newContexts_reply, directReply_sample, ?_, rfl, ?_⟩
  · decide +kernel
  · decide +kernel

end IlinkHub
