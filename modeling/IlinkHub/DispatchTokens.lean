/-
Which tokens of backends a dispatch holds, and where it takes them from.  It
writes nothing about a backend whose token it does not hold.
-/
import IlinkHub.DispatchTask

namespace IlinkHub

open KeyedRegistry HubData

def RoutingDecision.tokens : RoutingDecision → List String
  | .forwardTo vtoken _ => [vtoken]
  | .broadcast | .hubInternal _ => []

def QuoteStage.tokens : QuoteStage → List String
  | .origin vtoken _ => [vtoken]
  | .msgId | .timestamp | .content | .footer | .scope _ | .session _ _ => []

def UserOp.pair : UserOp → PairKey
  | .sessionNew pair _ _ | .sessionUse pair _ | .atMention pair _ => pair

/-- The tokens that a command may still write. -/
def CommandStage.tokens : CommandStage → List String
  | .useStore vtoken | .useRouter vtoken => [vtoken]
  | .cast _ recipients => recipients
  | .castExt _ vtoken _ rest | .castPush _ vtoken _ _ rest => vtoken :: rest
  | .session user _ => [user.pair.vtoken]
  | .useVisible _ | .useAlias _ _ | .castVisible _ | .castOnline _ _
  | .sessionResolve _ | .sessionRoute _ _ | .deleteLookup _ _
  | .delete _ _ => []

/-- The tokens that the dispatch may still write. -/
def DispatchPhase.tokens : DispatchPhase → List String
  | .mention vtoken _ _ | .forward vtoken _ _ => [vtoken]
  | .quote base stage => base.tokens ++ stage.tokens
  | .command stage => stage.tokens
  | .received | .mentionAlias _ _ _ | .route | .finished => []

/-- Where the next step takes a token from without asking the registry. -/
def DispatchPhase.recalls : DispatchPhase → Option Place
  | .route => some .router
  | .quote _ .msgId | .quote _ .timestamp | .quote _ .content =>
    some .messages
  | .quote _ (.session _ _) => some .backendSessions
  | .command (.sessionRoute _ _) => some .router
  | _ => none

lemma Forward.tokens_op (forward : Forward) (phase : ForwardPhase) :
    (forward.op phase).tokens ⊆ [forward.vtoken] := by
  cases phase <;> simp [op, StoreOp.tokens, pair]

/-- The routed message leaves its grant and its slot behind. -/
lemma Forward.writes_step (forward : Forward) (data : HubData) (env : Env)
    (phase : ForwardPhase) :
    data.Writes { data with world := (forward.step data.world phase env).1 } [forward.vtoken] := by
  have hsame : (forward.storeAfter data.world.store env phase).SameGrants _ :=
    sameGrants_storeAfter data.world.store env phase
  apply writes_world
  · intro pair hrow
    have hrow' := hsame.active ▸ hrow
    exact (Store.active_of_attempt hrow').imp_right fun h => forward.tokens_op phase h
  · intro key hrow
    have hrow' := hsame.backend ▸ hrow
    exact (Store.backend_of_attempt hrow').imp_right fun h => forward.tokens_op phase h
  · cases phase with
    | push vctx hubExt => exact InMemoryQueue.within_withSlot _ _ _
    | _ => exact fun _ hslot => .inl hslot

namespace Dispatch

variable {config : HubConfig} {dispatch : Dispatch} {data : HubData} {env : HubEnv}

lemma sameGrants_resolvedStore (store : Store) (ok : Bool) (vtoken : String) :
    (dispatch.resolvedStore store ok vtoken).SameGrants store := by
  unfold resolvedStore
  split
  · next vctx next hresolved =>
    exact Forward.sameGrants_of_resolved hresolved
  · exact ⟨rfl, rfl, rfl⟩

lemma writes_resolved (ok : Bool) (vtoken : String) (tokens : List String) : data.Writes
    (data.withStore (dispatch.resolvedStore data.world.store ok vtoken)) tokens :=
  (writes_sameGrants (sameGrants_resolvedStore ..)).mono (List.nil_subset _)

lemma writes_push (vtoken : String) (msg : WeixinMessage) :
    data.Writes (data.withQueue (data.world.queue.push vtoken msg).2) [vtoken] :=
  writes_queue (InMemoryQueue.within_withSlot _ _ _)

lemma tokens_userOp (user : UserOp) (phase : UserPhase) :
    (user.op phase).tokens ⊆ [user.pair.vtoken] := by
  cases user <;> cases phase <;> simp [UserOp.op, StoreOp.tokens, UserOp.pair]

lemma writes_mentionAfter (vtoken payload : String) (stage : MentionStage) :
    data.Writes (dispatch.mentionAfter data env vtoken payload stage) [vtoken] := by
  cases stage with
  | resolve => exact writes_resolved _ _ _
  | create vctx => exact writes_attempt _ _ _
  | readExt vctx => exact writes_refl
  | push vctx hubExt => exact writes_push _ _

lemma writes_commandAfter (stage : CommandStage) :
    data.Writes (dispatch.commandAfter data env stage) stage.tokens := by
  cases stage with
  | useStore vtoken =>
    simp only [commandAfter]
    split
    · exact writes_setRoute _ _
    · exact writes_refl
  | useRouter vtoken =>
    apply writes_router
    intro own hmentions
    rcases Router.mentions_of_setRoute hmentions with rfl | hold
    · exact .inr List.mem_cons_self
    · exact .inl hold
  | cast text recipients =>
    cases recipients with
    | nil => exact writes_refl
    | cons vtoken rest => exact writes_resolved _ _ _
  | castPush text vtoken vctx hubExt rest =>
    refine (writes_push _ _).mono ?_
    exact List.cons_subset_cons _ (List.nil_subset _)
  | sessionResolve cmd => exact writes_resolved _ _ _
  | session user phase =>
    exact (writes_attempt _ _ _).mono (tokens_userOp user phase)
  | delete pair sessionName => exact writes_attempt _ _ _
  | _ => exact writes_refl

/-- A dispatch leaves no other tokens behind than those it holds. -/
lemma writes_dataAfter (phase : DispatchPhase) :
    data.Writes (dispatch.dataAfter data env phase) phase.tokens := by
  cases phase with
  | mention vtoken payload stage => exact writes_mentionAfter vtoken payload stage
  | forward vtoken sessionOverride phase =>
    exact (dispatch.toForward vtoken sessionOverride).writes_step data
      (env.toEnv data.registry.toClientRegistry) phase
  | command stage => exact writes_commandAfter stage
  | _ => exact writes_refl

lemma tokens_handleHubCommand (cmd : HubCommand) : (dispatch.handleHubCommand cmd).tokens = [] := by
  unfold handleHubCommand
  split
  · rfl
  · split <;> rfl

lemma tokens_decided (decision : RoutingDecision) :
    (dispatch.decided decision).tokens = decision.tokens := by
  cases decision with
  | forwardTo vtoken sessionOverride => rfl
  | broadcast => rfl
  | hubInternal cmd => exact tokens_handleHubCommand cmd

variable {base : RoutingDecision} {vtoken : String} {found : String × String}

lemma tokens_merge {own name : String} {label sessionName : Option String}
    (hmem : vtoken ∈ (mergeRoutingWithQuote base
      (some (.client own name label sessionName))).tokens) : vtoken = own := by
  cases base with
  | hubInternal cmd => cases hmem
  | _ => exact List.mem_singleton.mp hmem

lemma tokens_quoteFound {found : Option (String × String)} {otherwise : DispatchPhase}
    (hmem : vtoken ∈ (quoteFound base found otherwise).tokens) :
    vtoken ∈ base.tokens ∨ vtoken ∈ otherwise.tokens ∨
      ∃ sessionName, found = some (vtoken, sessionName) ∧ vtoken ≠ "" := by
  unfold quoteFound at hmem
  split at hmem
  · next own sessionName hfound =>
    obtain ⟨hfound, hne⟩ := Option.filter_eq_some_iff.mp hfound
    rcases List.mem_append.mp hmem with hbase | hown
    · exact .inl hbase
    · obtain rfl := List.mem_singleton.mp hown
      exact .inr (.inr ⟨sessionName, hfound, of_decide_eq_true hne⟩)
  · exact .inr (.inl hmem)

/-- What is found in the history stands there. -/
lemma at_of_inScope {query : String → Option (String × String)}
    (hquery : ∀ peerUserId found, query peerUserId = some found →
      found.1 = "" ∨ data.At .messages found.1) (hfound : dispatch.inScope env query = some found) :
    found.1 = "" ∨ data.At .messages found.1 := by
  obtain ⟨peerUserId, -, hrow⟩ := Option.bind_eq_some_iff.mp hfound
  split at hrow
  · exact hquery peerUserId found hrow
  · cases hrow

lemma at_of_findByMsgId (hfound : dispatch.findByMsgId data.messages env = some found) :
    found.1 = "" ∨ data.At .messages found.1 := by
  obtain ⟨id, -, hrow⟩ := Option.bind_eq_some_iff.mp hfound
  exact at_of_inScope (fun _ _ => vtoken_of_origin) hrow

lemma at_of_findByTimestamp (hfound : dispatch.findByTimestamp data.messages env = some found) :
    found.1 = "" ∨ data.At .messages found.1 := by
  obtain ⟨refMs, -, hrow⟩ := Option.bind_eq_some_iff.mp hfound
  exact at_of_inScope (fun _ _ => vtoken_of_origin) hrow

lemma at_of_findByContent (hfound : dispatch.findByContent config data.messages env = some found) :
    found.1 = "" ∨ data.At .messages found.1 := by
  obtain ⟨contentPrefix, -, hrow⟩ := Option.bind_eq_some_iff.mp hfound
  split at hrow
  · cases hrow
  · exact at_of_inScope (fun _ _ => vtoken_of_origin) hrow

/-- The places that a token held after a step may come from. -/
def Source (data : HubData) (phase : DispatchPhase) (vtoken : String) : Prop :=
  vtoken ∈ phase.tokens ∨ data.registry.Registered vtoken ∨
    ∃ place, phase.recalls = some place ∧ data.At place vtoken

lemma source_quoteFound {stage otherwise : QuoteStage} {found : Option (String × String)}
    (hrecalls : (DispatchPhase.quote base stage).recalls = some .messages)
    (hotherwise : otherwise.tokens = [])
    (hfound : ∀ origin, found = some origin → origin.1 = "" ∨ data.At .messages origin.1)
    (hmem : vtoken ∈ (quoteFound base found (.quote base otherwise)).tokens) :
    Source data (.quote base stage) vtoken := by
  rcases tokens_quoteFound hmem with hbase | hother | ⟨session, hsome, hne⟩
  · exact .inl (List.mem_append_left _ hbase)
  · rw [DispatchPhase.tokens, hotherwise, List.append_nil] at hother
    exact .inl (List.mem_append_left _ hother)
  · rcases hfound _ hsome with hempty | hat
    · exact absurd hempty hne
    · exact .inr (.inr ⟨.messages, hrecalls, hat⟩)

lemma source_quoteNext {stage : QuoteStage}
    (hmem : vtoken ∈ (dispatch.quoteNext config data env base stage).tokens) :
    Source data (.quote base stage) vtoken := by
  have hbase : ∀ {own}, own ∈ (dispatch.decided base).tokens →
      Source data (.quote base stage) own := by
    intro own hown
    rw [tokens_decided] at hown
    exact .inl (List.mem_append_left _ hown)
  cases stage with
  | msgId =>
    exact source_quoteFound rfl rfl (fun _ => at_of_findByMsgId) hmem
  | timestamp =>
    exact source_quoteFound rfl rfl (fun _ => at_of_findByTimestamp) hmem
  | content =>
    exact source_quoteFound rfl rfl (fun _ => at_of_findByContent) hmem
  | footer =>
    simp only [quoteNext] at hmem
    split at hmem
    · exact hbase hmem
    · split at hmem
      · next info hinfo =>
        rw [tokens_decided] at hmem
        rw [tokens_merge hmem]
        exact .inr (.inl (registered_of_mem_values (mem_values_of_getByName hinfo)))
      · split at hmem
        · exact .inl hmem
        · exact hbase hmem
  | scope sessionKey =>
    simp only [quoteNext] at hmem
    split at hmem
    · exact .inl hmem
    · exact hbase hmem
  | session sessionKey vctx =>
    simp only [quoteNext] at hmem
    split at hmem
    · next own hown =>
      rcases List.mem_append.mp hmem with hold | hnew
      · exact .inl (List.mem_append_left _ hold)
      · obtain rfl := List.mem_singleton.mp hnew
        split at hown
        · exact .inr (.inr ⟨.backendSessions, rfl, vctx, sessionKey,
            Store.of_findVtokenForSession hown⟩)
        · cases hown
    · exact hbase hmem
  | origin own sessionName =>
    simp only [quoteNext, tokens_decided, QuoteOrigin.ofVtoken] at hmem
    have heq : vtoken = own := by
      split at hmem
      · exact tokens_merge hmem
      · exact tokens_merge hmem
    rw [heq]
    exact .inl (List.mem_append_right _ List.mem_cons_self)

lemma source_commandNext {stage : CommandStage}
    (hmem : vtoken ∈ (dispatch.commandNext config data env stage).tokens) :
    Source data (.command stage) vtoken := by
  cases stage with
  | useAlias name visible =>
    simp only [commandNext] at hmem
    split at hmem
    · next info hinfo =>
      obtain rfl := List.mem_singleton.mp hmem
      exact .inr (.inl (registered_of_mem_values (of_getByAliasIn hinfo).1))
    · cases hmem
  | useStore own =>
    simp only [commandNext] at hmem
    split at hmem
    · exact .inl hmem
    · cases hmem
  | castOnline text visible =>
    obtain ⟨info, hinfo, rfl⟩ := List.mem_map.mp hmem
    have honline := (List.mem_filter.mp hinfo).1
    exact .inr (.inl (registered_of_mem_values (List.mem_filter.mp honline).1))
  | cast text recipients =>
    cases recipients with
    | nil => cases hmem
    | cons own rest =>
      simp only [commandNext] at hmem
      split at hmem
      · exact .inl hmem
      · cases hmem
  | castExt text own vctx rest => exact .inl hmem
  | castPush text own vctx hubExt rest =>
    exact .inl (List.mem_cons_of_mem _ hmem)
  | sessionResolve cmd =>
    simp only [commandNext] at hmem
    split at hmem <;> cases hmem
  | sessionRoute cmd vctx =>
    simp only [commandNext] at hmem
    split at hmem
    · next own hroute =>
      have heq : vtoken = own := by
        unfold sessionCommand at hmem
        split at hmem
        · exact List.mem_singleton.mp hmem
        · exact List.mem_singleton.mp hmem
        all_goals cases hmem
      rw [heq]
      exact .inr (.inr ⟨.router, rfl, Router.mentions_of_getRoute hroute⟩)
    · cases hmem
  | session user phase =>
    simp only [commandNext] at hmem
    split at hmem
    · cases hmem
    · exact .inl hmem
  | deleteLookup pair sessionName =>
    simp only [commandNext] at hmem
    repeat' split at hmem
    all_goals cases hmem
  | _ => cases hmem

/-- A dispatch takes tokens from the registry, the router, the history and the
named sessions only. -/
lemma source_next {phase : DispatchPhase}
    (hmem : vtoken ∈ (dispatch.next config data env phase).tokens) : Source data phase vtoken := by
  cases phase with
  | received =>
    simp only [next] at hmem
    split at hmem
    · cases hmem
    · split at hmem <;> cases hmem
  | mentionAlias name payload visible =>
    simp only [next] at hmem
    split at hmem
    · next info hinfo =>
      obtain rfl := List.mem_singleton.mp hmem
      exact .inr (.inl (registered_of_mem_values (of_getByAliasIn hinfo).1))
    · cases hmem
  | mention own payload stage =>
    cases stage with
    | resolve =>
      simp only [next, mentionNext] at hmem
      split at hmem
      · exact .inl hmem
      · cases hmem
    | create vctx => exact .inl hmem
    | readExt vctx => exact .inl hmem
    | push vctx hubExt => cases hmem
  | route =>
    simp only [next, Router.route] at hmem
    split at hmem
    · cases hmem
    · split at hmem
      · next own hroute =>
        obtain rfl := List.mem_singleton.mp hmem
        exact .inr (.inr ⟨.router, rfl, Router.mentions_of_getRoute hroute⟩)
      · cases hmem
  | quote base stage => exact source_quoteNext hmem
  | forward own sessionOverride phase =>
    simp only [next] at hmem
    split at hmem
    · cases hmem
    · exact .inl hmem
  | command stage => exact source_commandNext hmem
  | finished => cases hmem

end Dispatch

end IlinkHub
