/-
The Hub with all its handlers at once: dispatches, requests of backends, agent
calls and client operations run against the shared data in any interleaving of
their steps.  What a step does to the tokens of backends is said here once for
all of them.
-/
import IlinkHub.AdminTask
import IlinkHub.DispatchTokens
import IlinkHub.RequestTask

namespace IlinkHub

open Function KeyedRegistry

/-- A handler and the await point at which it is.  The context of a call is
arbitrary here. -/
inductive Running where
  | dispatch (dispatch : Dispatch) (phase : DispatchPhase)
  | getUpdates (updates : GetUpdates) (phase : UpdatesPhase)
  | send (send : SendMessage) (phase : ReplyPhase)
  | call (call : CallAgent) (phase : CallPhase)
  | admin (admin : AdminOp) (phase : AdminPhase)
  | cancelled

/-- What handlers are started for. -/
inductive Task where
  | dispatch (dispatch : Dispatch)
  | getUpdates (updates : GetUpdates)
  | send (send : SendMessage)
  | call (call : CallAgent)
  | admin (admin : AdminOp)

def Task.start : Task → Running
  | .dispatch own => .dispatch own .received
  | .getUpdates own => .getUpdates own .enter
  | .send own => .send own (.send SendMessage.start)
  | .call own => .call own CallAgent.start
  | .admin own => .admin own .start

namespace Running

variable (config : HubConfig) (data : HubData) (env : HubEnv)

def next : Running → Running
  | .dispatch own phase =>
    .dispatch own (own.next config data env phase)
  | .getUpdates own phase =>
    .getUpdates own (own.next data env phase)
  | .send own phase => .send own (own.replyNext config data env phase)
  | .call own phase =>
    .call own (own.next data.world (env.toEnv data.registry.toClientRegistry) phase)
  | .admin own phase => .admin own (own.step data env phase).2
  | .cancelled => .cancelled

def dataAfter : Running → HubData
  | .dispatch own phase => own.dataAfter data env phase
  | .getUpdates own phase => own.dataAfter data env phase
  | .send own phase => own.replyAfter config data env phase
  | .call own phase =>
    { data with
      world := (own.step data.world phase (env.toEnv data.registry.toClientRegistry)).1 }
  | .admin own phase => (own.step data env phase).1
  | .cancelled => data

/-- The tokens that the handler may still write. -/
def tokens : Running → List String
  | .dispatch _ phase => phase.tokens
  | .getUpdates _ phase => phase.tokens
  | .send _ phase => phase.tokens
  | .call _ phase => phase.tokens
  | .admin _ phase => phase.tokens
  | .cancelled => []

/-- The place, if any, from which the next step takes a token without asking the
registry. -/
def recalls : Running → Option Place
  | .dispatch _ phase => phase.recalls
  | .getUpdates _ _ | .send _ _ | .call _ _ | .admin _ _ | .cancelled => none

/-- The token that the next step draws. -/
def drawn : Running → List String
  | .admin own phase => own.drawn env phase
  | .dispatch _ _ | .getUpdates _ _ | .send _ _ | .call _ _ | .cancelled => []

variable {config data env} {task : Running} {vtoken : String}

lemma tokens_start (task : Task) : task.start.tokens = [] := by
  cases task <;> rfl

lemma writes_dataAfter : data.Writes (task.dataAfter config data env) task.tokens := by
  cases task with
  | dispatch dispatch phase => exact Dispatch.writes_dataAfter phase
  | getUpdates updates phase => exact GetUpdates.writes_dataAfter phase
  | send send phase => exact SendMessage.writes_replyAfter phase
  | call call phase => exact CallAgent.writes_step phase
  | admin admin phase => exact AdminOp.writes_step phase
  | cancelled => exact HubData.writes_refl

lemma beside_dispatch (dispatch : Dispatch) (phase : DispatchPhase) :
    ((dispatch.dataAfter data env phase).registry, (dispatch.dataAfter data env phase).messages,
      (dispatch.dataAfter data env phase).saves) = (data.registry, data.messages, data.saves) := by
  cases phase with
  | mention vtoken payload stage => cases stage <;> rfl
  | command stage =>
    cases stage with
    | useStore vtoken =>
      simp only [Dispatch.dataAfter, Dispatch.commandAfter]
      split <;> rfl
    | cast text recipients => cases recipients <;> rfl
    | _ => rfl
  | _ => rfl

lemma registry_dispatch (dispatch : Dispatch) (phase : DispatchPhase) :
    (dispatch.dataAfter data env phase).registry = data.registry :=
  congrArg Prod.fst (beside_dispatch dispatch phase)

lemma registry_reply (send : SendMessage) (phase : ReplyPhase) :
    (send.replyAfter config data env phase).registry = data.registry := by
  cases phase with
  | send phase => rfl
  | tail phase => cases phase <;> rfl

/-- A step registers at most the token that it draws. -/
lemma registered_of_dataAfter
    (hregistered : (task.dataAfter config data env).registry.Registered vtoken) :
    data.registry.Registered vtoken ∨ vtoken ∈ task.drawn env := by
  cases task with
  | dispatch dispatch phase =>
    rw [dataAfter, registry_dispatch] at hregistered
    exact .inl hregistered
  | getUpdates updates phase =>
    rw [dataAfter, GetUpdates.registered_dataAfter] at hregistered
    exact .inl hregistered
  | send send phase =>
    rw [dataAfter, registry_reply] at hregistered
    exact .inl hregistered
  | call call phase => exact .inl hregistered
  | admin admin phase => exact AdminOp.registered_of_step hregistered
  | cancelled => exact .inl hregistered

/-- Where a handler has its tokens from: it held them, the registry knows them,
or it has just recalled them. -/
lemma source_next (hmem : vtoken ∈ (task.next config data env).tokens) :
    vtoken ∈ task.tokens ∨ (task.dataAfter config data env).registry.Registered vtoken ∨
      ∃ place, task.recalls = some place ∧ data.At place vtoken := by
  cases task with
  | dispatch dispatch phase =>
    rw [dataAfter, registry_dispatch]
    exact Dispatch.source_next hmem
  | getUpdates updates phase =>
    rw [dataAfter, GetUpdates.registered_dataAfter]
    exact (GetUpdates.source_next hmem).imp_right .inl
  | send send phase =>
    rw [dataAfter, registry_reply]
    exact (SendMessage.source_replyNext hmem).imp_right .inl
  | call call phase => exact (CallAgent.source_next hmem).imp_right .inl
  | admin admin phase => exact (AdminOp.source_step hmem).imp_right .inl
  | cancelled => cases hmem

end Running

/-- The routing of a message is decided when its backends are fixed. -/
def DispatchPhase.isDecided : DispatchPhase → Bool
  | .mention _ _ _ | .forward _ _ _ | .command (.cast _ _)
  | .command (.castExt _ _ _ _) | .command (.castPush _ _ _ _ _) => true
  | _ => false

/-- The backend for which the next step enqueues the message, and whether the
route or a quote chose it. -/
def DispatchPhase.pushes : DispatchPhase → Option (String × Bool)
  | .mention vtoken _ (.push _ _) => some (vtoken, false)
  | .forward vtoken _ (.push _ _) => some (vtoken, true)
  | .command (.castPush _ vtoken _ _ _) => some (vtoken, false)
  | _ => none

def Running.isDecided : Running → Bool
  | .dispatch _ phase => phase.isDecided
  | .getUpdates _ _ | .send _ _ | .call _ _ | .admin _ _ | .cancelled => false

/-- The sender of the message that the next step enqueues, with its backend. -/
def Running.pushes : Running → Option (String × String × Bool)
  | .dispatch own phase => phase.pushes.map fun push => (own.fromUserId, push)
  | .getUpdates _ _ | .send _ _ | .call _ _ | .admin _ _ | .cancelled => none

/-- The registry at some time, with the tokens that were taken out of it
before. -/
structure Moment where
  registry : KeyedRegistry
  removed : List String

/-- The token is registered, or it was. -/
def Moment.Known (moment : Moment) (vtoken : String) : Prop :=
  moment.registry.Registered vtoken ∨ vtoken ∈ moment.removed

/-- When a routing was decided: now, if the step that is made decides it. -/
def Moment.decision (moment : Moment) (earlier : Option Moment)
    (before after : Bool) : Option Moment :=
  if before = false ∧ after = true then some moment else earlier

/-- A message in a queue, and the moment at which its routing was decided. -/
structure Enqueued where
  sender : String
  vtoken : String
  forwarded : Bool
  decision : Moment

universe u

/-- The last three fields are history that no code reads: the tokens that were
taken out of the registry, when the routing of a dispatch was decided, and the
messages that dispatches have enqueued. -/
structure HubState (τ : Type u) where
  data : HubData
  tasks : τ → Running
  removed : List String
  decisions : τ → Option Moment
  enqueued : List Enqueued

/-- A handler runs to its next await point or is cancelled there, the spawned
save of a reply is done or dropped, the health check finds a client silent, or
the retention sweep deletes a batch of rows that are old enough. -/
inductive HubEvent (τ : Type u) where
  | run (t : τ) (env : HubEnv)
  | cancel (t : τ)
  | save (index : Nat) (ok : Bool) (now : Int)
  | markOffline (vtoken : String)
  | sweep (oldMessage : MessageRow → Bool) (oldGrant : PairKey → Bool)

/-- The tokens that are not registered any more. -/
def KeyedRegistry.lost (before after : KeyedRegistry) : List String :=
  before.byVtoken.keys.filter fun vtoken => ¬ after.Registered vtoken

variable {vtoken : String}

lemma KeyedRegistry.mem_lost_iff {before after : KeyedRegistry} :
    vtoken ∈ before.lost after ↔ before.Registered vtoken ∧ ¬ after.Registered vtoken := by
  rw [lost, List.mem_filter, decide_eq_true_iff, ← AList.mem_keys, ← AList.lookup_isSome]
  rfl

/-- The save of a reply stamps its row. -/
def HubData.saveMessage (data : HubData) (index : Nat) (ok : Bool) (now : Int) : HubData :=
  match data.saves[index]? with
  | some row =>
    { data with
      messages := if ok then { row with createdAt := now } :: data.messages
        else data.messages
      saves := data.saves.eraseIdx index }
  | none => data

def HubData.sweepExpired (data : HubData) (oldMessage : MessageRow → Bool)
    (oldGrant : PairKey → Bool) : HubData :=
  { data.withStore { data.world.store with
      active := Query.retain (fun pair _ => ¬ oldGrant pair) data.world.store.active } with
    messages := data.messages.filter fun row => ¬ oldMessage row }

lemma HubData.at_of_sweep {data : HubData} {oldMessage : MessageRow → Bool}
    {oldGrant : PairKey → Bool} {place : Place}
    (hat : (data.sweepExpired oldMessage oldGrant).At place vtoken) : data.At place vtoken := by
  cases place with
  | messages =>
    obtain ⟨row, hrow, hvtoken⟩ := hat
    exact ⟨row, List.mem_of_mem_filter hrow, hvtoken⟩
  | activeSessions =>
    obtain ⟨vctx, hrow⟩ := hat
    obtain ⟨row, hlookup, _⟩ := Query.isSome_lookup_retain.mp hrow
    exact ⟨vctx, Option.isSome_of_mem hlookup⟩
  | _ => exact hat

lemma HubData.registry_saveMessage (data : HubData) (index : Nat) (ok : Bool) (now : Int) :
    (data.saveMessage index ok now).registry = data.registry := by
  unfold saveMessage
  split <;> rfl

lemma HubData.at_of_save {data : HubData} {index : Nat} {ok : Bool} {now : Int} {place : Place}
    (hat : (data.saveMessage index ok now).At place vtoken) :
    data.At place vtoken ∨ place = .messages ∧ data.At .saves vtoken := by
  unfold saveMessage at hat
  split at hat
  · next row hrow =>
    cases place with
    | messages =>
      obtain ⟨own, hown, hvtoken⟩ := hat
      split at hown
      · rcases List.mem_cons.mp hown with rfl | hold
        · exact .inr ⟨rfl, row, List.mem_of_getElem? hrow, hvtoken⟩
        · exact .inl ⟨own, hold, hvtoken⟩
      · exact .inl ⟨own, hown, hvtoken⟩
    | saves =>
      obtain ⟨own, hown, hvtoken⟩ := hat
      exact .inl ⟨own, List.mem_of_mem_eraseIdx hown, hvtoken⟩
    | _ => exact .inl hat
  · exact .inl hat

namespace HubState

open HubData (registry_saveMessage at_of_save at_of_sweep)

variable {τ : Type u} (config : HubConfig)

def start (tasks : τ → Task) (data : HubData) (removed : List String) : HubState τ where
  data := data
  tasks := fun t => (tasks t).start
  removed := removed
  decisions := fun _ => none
  enqueued := []

def moment (state : HubState τ) : Moment :=
  ⟨state.data.registry, state.removed⟩

/-- The message that the next step of a handler enqueues. -/
def enqueues (state : HubState τ) (t : τ) : Option Enqueued :=
  match (state.tasks t).pushes, state.decisions t with
  | some (sender, vtoken, forwarded), some decision =>
    some ⟨sender, vtoken, forwarded, decision⟩
  | _, _ => none

variable [DecidableEq τ]

def step (state : HubState τ) : HubEvent τ → HubState τ
  | .run t env =>
    let after := (state.tasks t).dataAfter config state.data env
    let next := (state.tasks t).next config state.data env
    { data := after
      tasks := update state.tasks t next
      removed := state.removed ++ state.data.registry.lost after.registry
      decisions := update state.decisions t (state.moment.decision (state.decisions t)
          (state.tasks t).isDecided next.isDecided)
      enqueued := state.enqueued ++ (state.enqueues t).toList }
  | .cancel t =>
    { state with tasks := update state.tasks t .cancelled }
  | .save index ok now =>
    { state with data := state.data.saveMessage index ok now }
  | .markOffline vtoken =>
    { state with
      data := { state.data with
        registry := state.data.registry.markOffline vtoken } }
  | .sweep oldMessage oldGrant =>
    { state with data := state.data.sweepExpired oldMessage oldGrant }

variable {config} {state : HubState τ} {vtoken : String}

lemma tasks_step_run (state : HubState τ) (t : τ) (env : HubEnv) :
    (state.step config (.run t env)).tasks t = (state.tasks t).next config state.data env :=
  update_self ..

/-- A task makes a step of its own, is cancelled, or stays where it is. -/
lemma task_step (state : HubState τ) (event : HubEvent τ) (s : τ) :
    (∃ env, event = .run s env) ∨ (state.step config event).tasks s = .cancelled ∨
      (state.step config event).tasks s = state.tasks s ∧
        (state.step config event).decisions s = state.decisions s := by
  cases event with
  | run t env =>
    by_cases hst : s = t
    · subst hst
      exact .inl ⟨env, rfl⟩
    · exact .inr (.inr ⟨update_of_ne hst .., update_of_ne hst ..⟩)
  | cancel t =>
    by_cases hst : s = t
    · subst hst
      exact .inr (.inl (update_self ..))
    · exact .inr (.inr ⟨update_of_ne hst .., rfl⟩)
  | _ => exact .inr (.inr ⟨rfl, rfl⟩)

variable {event : HubEvent τ}

/-- A message is enqueued by the step of a dispatch. -/
lemma mem_enqueued_of_step {entry : Enqueued}
    (hentry : entry ∈ (state.step config event).enqueued) :
    entry ∈ state.enqueued ∨ ∃ t, state.enqueues t = some entry := by
  cases event with
  | run t env =>
    rcases List.mem_append.mp hentry with hold | hnew
    · exact .inl hold
    · exact .inr ⟨t, Option.mem_toList.mp hnew⟩
  | _ => exact .inl hentry

/-- A token gets to a place through a handler that holds it; the save of a
reply moves one from the spawned rows to the history. -/
lemma at_of_step {place : Place} (hat : (state.step config event).data.At place vtoken) :
    state.data.At place vtoken ∨ (∃ t env, event = .run t env ∧ vtoken ∈ (state.tasks t).tokens) ∨
      place = .messages ∧ state.data.At .saves vtoken := by
  cases event with
  | run t env =>
    rcases Running.writes_dataAfter place vtoken hat with hold | hheld
    · exact .inl hold
    · exact .inr (.inl ⟨t, env, rfl, hheld⟩)
  | cancel t => exact .inl hat
  | save index ok now => exact (at_of_save hat).imp_right .inr
  | markOffline own => exact .inl hat
  | sweep oldMessage oldGrant => exact .inl (at_of_sweep hat)

lemma registered_of_step (hregistered : (state.step config event).data.registry.Registered vtoken) :
    state.data.registry.Registered vtoken ∨
      ∃ t env, event = .run t env ∧ vtoken ∈ (state.tasks t).drawn env := by
  cases event with
  | run t env =>
    rcases Running.registered_of_dataAfter hregistered with hold | hdrawn
    · exact .inl hold
    · exact .inr ⟨t, env, rfl, hdrawn⟩
  | cancel t => exact .inl hregistered
  | save index ok now =>
    rw [step, registry_saveMessage] at hregistered
    exact .inl hregistered
  | markOffline own =>
    simp only [step] at hregistered
    rw [markOffline, registered_adjust] at hregistered
    exact .inl hregistered
  | sweep oldMessage oldGrant => exact .inl hregistered

/-- A handler gets its tokens from the registry, or it recalls them. -/
lemma tokens_of_step {s : τ} (hmem : vtoken ∈ ((state.step config event).tasks s).tokens) :
    vtoken ∈ (state.tasks s).tokens ∨ (state.step config event).data.registry.Registered vtoken ∨
      ∃ env place, event = .run s env ∧ (state.tasks s).recalls = some place ∧
        state.data.At place vtoken := by
  rcases state.task_step event s with ⟨env, rfl⟩ | hcancelled | ⟨hsame, -⟩
  · rw [tasks_step_run] at hmem
    rcases Running.source_next hmem with hheld | hregistered | hrecalled
    · exact .inl hheld
    · exact .inr (.inl hregistered)
    · obtain ⟨place, hplace, hat⟩ := hrecalled
      exact .inr (.inr ⟨env, place, rfl, hplace, hat⟩)
  · rw [hcancelled] at hmem
    cases hmem
  · rw [hsame] at hmem
    exact .inl hmem

lemma known_step (event : HubEvent τ) (hknown : state.moment.Known vtoken) :
    (state.step config event).moment.Known vtoken := by
  cases event with
  | run t env =>
    rcases hknown with hregistered | hremoved
    · by_cases hafter : ((state.tasks t).dataAfter config state.data env).registry.Registered vtoken
      · exact .inl hafter
      · exact .inr (List.mem_append_right _ (mem_lost_iff.mpr ⟨hregistered, hafter⟩))
    · exact .inr (List.mem_append_left _ hremoved)
  | cancel t => exact hknown
  | save index ok now =>
    refine hknown.imp_left fun hregistered => ?_
    rw [moment, step, registry_saveMessage]
    exact hregistered
  | markOffline own =>
    refine hknown.imp_left fun hregistered => ?_
    simp only [moment, step]
    rw [markOffline, registered_adjust]
    exact hregistered
  | sweep oldMessage oldGrant => exact hknown

end HubState

namespace Sample

/-- A user message, without the ids of a dispatch that has no use for them. -/
def inbound (fromUserId text : String) : Inbound where
  msg :=
    { fromUserId := some fromUserId
      contextToken := some "ctx"
      messageType := some 1
      itemList := some [{ itemType := some 1, textItem := some ⟨some text⟩ }] }
  candidate := fun _ => "vctx_1"
  ephemeral := fun _ => "vctx_2"
  readOk := fun _ => true
  grantAt := fun _ => 0
  pushAt := fun _ => 0

def freshHub : HubData where
  world := ⟨⟨∅, ∅, ∅, 86400⟩, .new, .withLimit 10, []⟩
  registry := .new
  router := .new none
  routingState := ∅
  clients := ∅
  messages := []
  saves := []
  lastSeen := ∅

lemma not_at_freshHub (place : Place) (vtoken : String) : ¬ freshHub.At place vtoken := by
  cases place <;> simp [freshHub, HubData.At, Router.Mentions, Router.new, InMemoryQueue.withLimit]

/-- A client is registered, answers a message of its user and is revoked; the
user then quotes the answer, which WeChat knows as message 7. -/
def botTasks : Fin 5 → Task
  | 0 => .admin (.register "bot" none none)
  | 1 => .dispatch { inbound := inbound "u" "hi" }
  | 2 => .send ⟨some "h1",
      ⟨some { (inbound "" "done").msg with contextToken := some "vctx_1" }⟩⟩
  | 3 => .admin (.revoke "bot")
  | 4 => .dispatch
      { inbound := inbound "u" "more", refs := [{ msgId := some "7" }] }

def noAcl : HubConfig :=
  { acl := ⟨∅, ∅, []⟩ }

def botRun (t : Fin 5) (n : Nat) (env : HubEnv) : List (HubEvent (Fin 5)) :=
  List.replicate n (.run t env)

def botMessaged : List (HubEvent (Fin 5)) :=
  botRun 0 4 { drawn := "h1" } ++ botRun 1 10 { now := 1 }

def botRevoked : List (HubEvent (Fin 5)) :=
  botMessaged ++ botRun 2 6 { now := 2, newOutboundMsgId := 7 } ++
    [.save 0 true 3] ++ botRun 3 6 { drawn := "h2" }

def botQuotes : List (HubEvent (Fin 5)) :=
  botRun 4 8 { now := 4 }

end Sample

end IlinkHub
