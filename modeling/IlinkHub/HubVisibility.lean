/-
Which clients the messages of a WeChat user get to.  A mention and a broadcast
keep to the clients that the allowlist shows to the user; the route, the default
client and the layers of the quote lookup do not ask the allowlist.
-/
import IlinkHub.TemporaryRouting

namespace IlinkHub

open Sample

namespace AgentAcl

variable {acl : AgentAcl} {userId name : String}

/-- The allowlist has the name among the public ones or among those of the user,
or it has no entry for WeChat at all. -/
def Shows (acl : AgentAcl) (userId name : String) : Prop :=
  (acl.wechatPublic.isEmpty && acl.wechatUsers.entries.isEmpty) = true ∨
    name ∈ acl.wechatPublic ++ (acl.wechatUsers.lookup userId).getD []

/-- Which names are shown does not depend on the registry, except that only
registered ones are. -/
lemma mem_wechatVisible_iff {registered names : List String}
    (hvisible : acl.wechatVisible userId registered = some names) :
    name ∈ names ↔ acl.Shows userId name ∧ name ∈ registered := by
  unfold wechatVisible at hvisible
  split at hvisible
  · cases hvisible
  · next hentries =>
    cases hvisible
    rw [List.mem_filter, List.contains_iff_mem, Shows, or_iff_right hentries]

lemma shows_of_all_wechatVisible {registered : List String}
    (hall : (acl.wechatVisible userId registered).all (fun names => name ∈ names) = true) :
    acl.Shows userId name := by
  cases hvisible : acl.wechatVisible userId registered with
  | none =>
    unfold wechatVisible at hvisible
    split at hvisible
    · next hentries => exact .inl hentries
    · cases hvisible
  | some names =>
    rw [hvisible, Option.all_some, decide_eq_true_iff] at hall
    exact ((mem_wechatVisible_iff hvisible).mp hall).1

end AgentAcl

namespace Dispatch

section Visibility

variable (config : HubConfig) (dispatch : Dispatch) (data : HubData) (env : DispatchPhase → HubEnv)

/-- The token belongs to a client that the sender may see. -/
def Sees (vtoken : String) : Prop :=
  ∃ client ∈ data.registry.values,
    client.vtoken = vtoken ∧ config.acl.Shows dispatch.fromUserId client.name

/-- The backend to which what the Hub holds before the message leads: the origin
of the quote; without one the stored route of the sender; without both the default
client. -/
inductive LeadsTo : String → Prop
  | quote {vtoken name : String} {label sessionName : Option String} :
      dispatch.quoted config data env = some (.client vtoken name label sessionName) →
      LeadsTo vtoken
  | stored {vtoken : String} : dispatch.quoted config data env = none →
      data.router.activeRoutes.lookup dispatch.fromUserId = some vtoken → LeadsTo vtoken
  | fallback {vtoken : String} : dispatch.quoted config data env = none →
      data.router.activeRoutes.lookup dispatch.fromUserId = none →
      data.router.defaultClient = some vtoken → LeadsTo vtoken

/-- What a dispatch goes on with after the choice: a mention and a broadcast
keep to visible clients, a forwarded message to the backend that was chosen. -/
def Screened : DispatchPhase → Prop
  | .mention vtoken _ _ => dispatch.Sees config data vtoken
  | .forward vtoken sessionOverride _ =>
    mergeRoutingWithQuote (dispatch.baseRoute data) (dispatch.quoted config data env) =
      .forwardTo vtoken sessionOverride
  | .command (.castOnline _ visible) =>
    visible = dispatch.visible config data.registry.toClientRegistry
  | .command (.cast _ recipients) => ∀ own ∈ recipients, dispatch.Sees config data own
  | .command (.castExt _ vtoken _ rest)
  | .command (.castPush _ vtoken _ _ rest) => ∀ own ∈ vtoken :: rest, dispatch.Sees config data own
  | .command _ | .finished => True
  | .received | .mentionAlias _ _ _ | .route | .quote _ _ => False

end Visibility

variable {config : HubConfig} {dispatch : Dispatch} {data : HubData} {env : DispatchPhase → HubEnv}

/-- The mention resolves its name among the visible clients. -/
lemma sees_of_mentioned {vtoken payload : String}
    (hmention : dispatch.mentioned config data = some (vtoken, payload)) :
    dispatch.Sees config data vtoken := by
  obtain ⟨mention, -, hfound⟩ := Option.bind_eq_some_iff.mp hmention
  obtain ⟨client, hclient, heq⟩ := Option.map_eq_some_iff.mp hfound
  cases heq
  obtain ⟨hmem, hall⟩ := KeyedRegistry.of_getByAliasIn hclient
  exact ⟨client, hmem, rfl, AgentAcl.shows_of_all_wechatVisible hall⟩

/-- The broadcast goes to clients that are visible and online. -/
lemma sees_of_mem_recipients {vtoken : String}
    (hmem : vtoken ∈ (data.registry.onlineClients.filter fun info =>
      (dispatch.visible config data.registry.toClientRegistry).all fun names =>
        info.name ∈ names).map ClientInfo.vtoken) : dispatch.Sees config data vtoken := by
  obtain ⟨client, hclient, rfl⟩ := List.mem_map.mp hmem
  obtain ⟨honline, hall⟩ := List.mem_filter.mp hclient
  exact ⟨client, List.mem_of_mem_filter honline, rfl, AgentAcl.shows_of_all_wechatVisible hall⟩

lemma screened_chosen : dispatch.Screened config data env (dispatch.chosen config data env) := by
  unfold chosen
  split
  · trivial
  · split
    · next hmention => exact sees_of_mentioned hmention
    · cases hmerged : mergeRoutingWithQuote (dispatch.baseRoute data)
          (dispatch.quoted config data env) with
      | hubInternal cmd =>
        simp only [decided, handleHubCommand]
        split
        · trivial
        · cases cmd <;> trivial
      | forwardTo vtoken sessionOverride => exact hmerged
      | broadcast => trivial

variable {now : HubData} {answer : HubEnv}

lemma screened_sessionCommand (cmd : HubCommand) (pair : PairKey) :
    dispatch.Screened config data env (sessionCommand cmd pair) := by
  cases cmd <;> trivial

lemma screened_commandNext {stage : CommandStage} (hregistry : now.registry = data.registry)
    (hscreened : dispatch.Screened config data env (.command stage)) :
    dispatch.Screened config data env (dispatch.commandNext config now answer stage) := by
  cases stage with
  | castVisible text => exact congrArg _ (congrArg _ hregistry)
  | castOnline text visible =>
    intro own hown
    rw [hscreened, hregistry] at hown
    exact sees_of_mem_recipients hown
  | cast text recipients =>
    cases recipients with
    | nil => trivial
    | cons vtoken rest =>
      simp only [commandNext]
      split
      · exact hscreened
      · trivial
  | castExt text vtoken vctx rest => exact hscreened
  | castPush text vtoken vctx hubExt rest =>
    exact fun own hown => hscreened own (List.mem_cons_of_mem _ hown)
  | sessionRoute cmd vctx =>
    simp only [commandNext]
    split
    · exact screened_sessionCommand _ _
    · trivial
  | deleteLookup pair sessionName =>
    simp only [commandNext]
    repeat' split
    all_goals trivial
  | useVisible _ | useRouter _ | delete _ _ => trivial
  | _ =>
    simp only [commandNext]
    split <;> trivial

lemma screened_next {phase : DispatchPhase} (hregistry : now.registry = data.registry)
    (hscreened : dispatch.Screened config data env phase) :
    dispatch.Screened config data env (dispatch.next config now answer phase) := by
  cases phase with
  | mention vtoken payload stage =>
    cases stage with
    | resolve =>
      simp only [next, mentionNext]
      split
      · exact hscreened
      · trivial
    | create vctx => exact hscreened
    | readExt vctx => exact hscreened
    | push vctx hubExt => trivial
  | forward vtoken sessionOverride phase =>
    simp only [next]
    split
    · trivial
    · exact hscreened
  | command stage => exact screened_commandNext hregistry hscreened
  | finished => trivial
  | _ => exact hscreened.elim

/-- No step of the dispatch writes the registry, so what was visible stays so. -/
lemma screened_alone (n : Nat) {state : HubData × DispatchPhase}
    (hregistry : state.1.registry = data.registry)
    (hscreened : dispatch.Screened config data env state.2) :
    dispatch.Screened config data env (dispatch.alone config env n state).2 := by
  induction n generalizing state with
  | zero => exact hscreened
  | succ n ih =>
    exact ih ((Running.registry_dispatch _ _).trans hregistry) (screened_next hregistry hscreened)

/-- What a dispatch enqueues, it enqueues after the choice. -/
lemma pushes_leads {phase last : DispatchPhase} {push : String × Bool}
    (hleads : Relation.ReflTransGen (dispatch.Quiet config data env) phase last) {n : Nat}
    (hpushes : (dispatch.alone config env n (data, phase)).2.pushes = some push) :
    ∃ m, (dispatch.alone config env m (data, last)).2.pushes = some push := by
  induction hleads using Relation.ReflTransGen.head_induction_on generalizing n with
  | refl => exact ⟨n, hpushes⟩
  | head hquiet _ ih =>
    obtain ⟨hdata, hnext, hnone⟩ := hquiet
    cases n with
    | zero =>
      rw [alone, hnone] at hpushes
      cases hpushes
    | succ n =>
      rw [alone, hdata, hnext] at hpushes
      exact ih hpushes

/-- Only a message that is no command and whose sender has a route is forwarded. -/
lemma route_of_merged {vtoken : String} {sessionOverride : Option String}
    (hmerged : mergeRoutingWithQuote (dispatch.baseRoute data) (dispatch.quoted config data env) =
      .forwardTo vtoken sessionOverride) :
    ∃ route, data.router.getRoute dispatch.fromUserId = some route ∧
      dispatch.baseRoute data = .forwardTo route none := by
  cases hcommand : dispatch.msg.text.bind (parseHubCommand dispatch.freshName) with
  | some cmd =>
    rw [baseRoute, Router.route, hcommand] at hmerged
    cases hmerged
  | none =>
    rw [baseRoute_eq hcommand] at hmerged ⊢
    cases hroute : data.router.getRoute dispatch.fromUserId with
    | some route => exact ⟨route, rfl, rfl⟩
    | none =>
      rw [hroute] at hmerged
      cases hmerged

/-- A forwarded message goes to the origin of the quote, or else to the route. -/
lemma leadsTo_iff_of_merged {vtoken own : String} {sessionOverride : Option String}
    (hmerged : mergeRoutingWithQuote (dispatch.baseRoute data) (dispatch.quoted config data env) =
      .forwardTo vtoken sessionOverride) : dispatch.LeadsTo config data env own ↔ own = vtoken := by
  obtain ⟨route, hroute, hbase⟩ := route_of_merged hmerged
  rw [hbase] at hmerged
  cases hquoted : dispatch.quoted config data env with
  | some origin =>
    rw [hquoted] at hmerged
    cases origin with
    | hub cmd => cases hmerged
    | client owner name label sessionName =>
      cases hmerged
      refine ⟨fun hleads => ?_, fun heq => heq ▸ .quote hquoted⟩
      cases hleads with
      | quote hown => cases hquoted.symm.trans hown; rfl
      | stored hnone _ => simp [hquoted] at hnone
      | fallback hnone _ _ => simp [hquoted] at hnone
  | none =>
    rw [hquoted] at hmerged
    cases hmerged
    unfold Router.getRoute at hroute
    cases hstored : data.router.activeRoutes.lookup dispatch.fromUserId with
    | some stored =>
      rw [hstored] at hroute
      cases hroute
      refine ⟨fun hleads => ?_, fun heq => heq ▸ .stored hquoted hstored⟩
      cases hleads with
      | quote hsome => simp [hquoted] at hsome
      | stored _ hown => exact Option.some.inj (hown.symm.trans hstored)
      | fallback _ hnone _ => simp [hstored] at hnone
    | none =>
      rw [hstored] at hroute
      refine ⟨fun hleads => ?_, fun heq => heq ▸ .fallback hquoted hstored hroute⟩
      cases hleads with
      | quote hsome => simp [hquoted] at hsome
      | stored _ hsome => simp [hstored] at hsome
      | fallback _ _ hown => exact Option.some.inj (hown.symm.trans hroute)

/-- For every allowlist, registry, routing and history: a message is enqueued for
a client in the visible set of its sender exactly if, in case that it is forwarded,
the origin of its quote, the stored route or the default is visible.  A mention
and a broadcast need no such condition. -/
theorem enqueued_visible_iff {names : List String} {n : Nat} {vtoken : String} {forwarded : Bool}
    (hvisible : dispatch.visible config data.registry.toClientRegistry = some names)
    (hpushes : (dispatch.alone config env n (data, .received)).2.pushes =
      some (vtoken, forwarded)) :
    (∃ client ∈ data.registry.values, client.vtoken = vtoken ∧ client.name ∈ names) ↔
      (forwarded = true → ∀ own, dispatch.LeadsTo config data env own →
        dispatch.Sees config data own) := by
  have hsees : (∃ client ∈ data.registry.values, client.vtoken = vtoken ∧ client.name ∈ names) ↔
      dispatch.Sees config data vtoken := by
    refine exists_congr fun client => and_congr_right fun hclient => and_congr_right fun _ => ?_
    rw [AgentAcl.mem_wechatVisible_iff hvisible]
    exact and_iff_left (List.mem_map_of_mem hclient)
  rw [hsees]
  obtain ⟨m, hafter⟩ := pushes_leads leads_chosen hpushes
  have hscreened : dispatch.Screened config data env
      (dispatch.alone config env m (data, dispatch.chosen config data env)).2 :=
    screened_alone m rfl screened_chosen
  unfold DispatchPhase.pushes at hafter
  split at hafter
  · next hphase =>
    cases hafter
    rw [hphase] at hscreened
    exact iff_of_true hscreened (fun h => by cases h)
  · next hphase =>
    cases hafter
    rw [hphase] at hscreened
    simp only [leadsTo_iff_of_merged hscreened, forall_eq, forall_const]
  · next hphase =>
    cases hafter
    rw [hphase] at hscreened
    exact iff_of_true (hscreened _ List.mem_cons_self) (fun h => by cases h)
  · cases hafter

end Dispatch

namespace Sample

/-- Two clients, of which the users see the second one only. -/
def pubOnly : HubConfig :=
  { acl := ⟨∅, ∅, ["pub"]⟩ }

/-- The first client is the default one. -/
def pubHub : HubData :=
  { freshHub with
    registry := botRegistry.insertClient { name := "pub", vtoken := "h2" } rfl rfl
    router := .new (some "h1") }

def mentioning : Dispatch :=
  { inbound := inbound "u" "@pub hi" }

def unaddressed : Dispatch :=
  { inbound := inbound "u" "hi" }

end Sample

theorem Dispatch.enqueued_visible_mention :
    (mentioning.alone pubOnly (fun _ => {}) 5 (pubHub, .received)).2.pushes = some ("h2", false) ∧
      ∃ client ∈ pubHub.registry.values, client.vtoken = "h2" ∧ client.name ∈ ["pub"] := by
  have hpushes : (mentioning.alone pubOnly (fun _ => {}) 5 (pubHub, .received)).2.pushes =
      some ("h2", false) := by decide +kernel
  refine ⟨hpushes, (enqueued_visible_iff (by decide +kernel) hpushes).mpr ?_⟩
  intro hforwarded
  cases hforwarded

/-- The message goes to the default client, which the users cannot see. -/
theorem Dispatch.hidden_default_enqueued :
    unaddressed.visible pubOnly pubHub.registry.toClientRegistry = some ["pub"] ∧
      (unaddressed.alone pubOnly (fun _ => {}) 9 (pubHub, .received)).2.pushes = some ("h1", true) ∧
      ∀ client ∈ pubHub.registry.values, client.vtoken = "h1" → client.name ∉ ["pub"] := by
  decide +kernel

end IlinkHub
