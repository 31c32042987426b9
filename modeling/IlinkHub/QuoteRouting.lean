/-
The choice that `dispatch_message` makes about a user message, in one go
(`hub/dispatch/pipeline.rs`, `hub/dispatch/quote.rs`): the mention, the four
layers of the quote, the merge with the route.  The process of the dispatch
arrives at the same choice, and a quote decides it only for a sender who has a
route.
-/
import IlinkHub.HubRuns

namespace IlinkHub

open QuoteOrigin

/-- What the lookups in the history make of a row: one without a backend does
not count. -/
def QuoteOrigin.ofHistory (registry : ClientRegistry)
    (found : Option (String × String)) : Option QuoteOrigin :=
  (found.filter fun origin => origin.1 ≠ "").map fun origin =>
    .ofVtoken registry origin.1 (some origin.2)

lemma QuoteOrigin.exists_ofVtoken (registry : ClientRegistry) (vtoken : String)
    (sessionName : Option String) : ∃ name label, ofVtoken registry vtoken sessionName =
      .client vtoken name label sessionName := by
  unfold ofVtoken
  split
  · next info _ => exact ⟨info.name, info.label, rfl⟩
  · exact ⟨vtoken, none, rfl⟩

lemma QuoteOrigin.ofVtoken_inj {registry : ClientRegistry}
    {vtoken other : String} {sessionName otherName : Option String}
    (heq : ofVtoken registry vtoken sessionName = .ofVtoken registry other otherName) :
    vtoken = other ∧ sessionName = otherName := by
  obtain ⟨name, label, hown⟩ := exists_ofVtoken registry vtoken sessionName
  obtain ⟨otherName, otherLabel, hother⟩ :=
    exists_ofVtoken registry other otherName
  rw [hown, hother] at heq
  injection heq with hvtoken _ _ hsession
  exact ⟨hvtoken, hsession⟩

lemma mergeRoutingWithQuote_none (base : RoutingDecision) :
    mergeRoutingWithQuote base none = base := by
  cases base <;> rfl

namespace Dispatch

variable (config : HubConfig) (dispatch : Dispatch) (data : HubData)

section Layers

variable (env : HubEnv)

def resolveQuoteFromMsgId : Option QuoteOrigin :=
  ofHistory data.registry.toClientRegistry (dispatch.findByMsgId data.messages env)

def resolveQuoteFromTimestamp : Option QuoteOrigin :=
  ofHistory data.registry.toClientRegistry (dispatch.findByTimestamp data.messages env)

def resolveQuoteFromDb : Option QuoteOrigin :=
  ofHistory data.registry.toClientRegistry
    (dispatch.findByContent config data.messages env)

end Layers

section Choice

/-- The backend of a session that stands in a footer without its name. -/
def footerOwner (env : QuoteStage → HubEnv) (sessionKey : String) : Option QuoteOrigin :=
  (derivePeerScope dispatch.msg).bind fun scope =>
    (if (env (.scope sessionKey)).ok then data.world.store.findByPeer scope
      else none).bind fun vctx =>
    let sessionEnv := env (.session sessionKey vctx)
    (if sessionEnv.ok then data.world.store.findVtokenForSession vctx sessionKey sessionEnv.tie
      else none).map fun vtoken =>
    .ofVtoken data.registry.toClientRegistry vtoken (some sessionKey)

def resolveQuoteFromFooter (env : QuoteStage → HubEnv) : Option QuoteOrigin :=
  (footerFromUserQuote dispatch.refs).bind fun (name, sessionName) =>
    match data.registry.getByName name with
    | some info => some (.client info.vtoken info.name info.label sessionName)
    | none =>
      (if looksLikeSession name then some name else sessionName).bind
        (dispatch.footerOwner data env)

/-- The first layer that resolves the quote wins. -/
def resolveQuote (env : QuoteStage → HubEnv) : Option QuoteOrigin :=
  (dispatch.resolveQuoteFromMsgId data (env .msgId)).or
    ((dispatch.resolveQuoteFromTimestamp data (env .timestamp)).or
      ((dispatch.resolveQuoteFromDb config data (env .content)).or
        (dispatch.resolveQuoteFromFooter data env)))

/-- The backend that the message mentions, if the sender may see it, and the
text for it. -/
def mentioned : Option (String × String) :=
  (dispatch.msg.text.bind parseAtMention).bind fun (name, payload) =>
    (data.registry.getByAliasIn name
      (dispatch.visible config data.registry.toClientRegistry)).map fun info =>
        (info.vtoken, payload)

def baseRoute : RoutingDecision :=
  data.router.route dispatch.freshName dispatch.msg

variable (env : DispatchPhase → HubEnv)

/-- The origin of the quote, with the answers that its lookups get. -/
def quoted : Option QuoteOrigin :=
  dispatch.resolveQuote config data fun stage =>
    env (.quote (dispatch.baseRoute data) stage)

/-- What is done with the message, before anything is done. -/
def chosen : DispatchPhase :=
  if dispatch.msg.messageType = some 2 then .finished
  else
    match dispatch.mentioned config data with
    | some (vtoken, payload) => .mention vtoken payload .resolve
    | none => dispatch.decided (mergeRoutingWithQuote
        (dispatch.baseRoute data) (dispatch.quoted config data env))

/-- A step that leaves the data of the Hub as they are and enqueues nothing. -/
def Quiet (phase next : DispatchPhase) : Prop :=
  dispatch.dataAfter data (env phase) phase = data ∧
    dispatch.next config data (env phase) phase = next ∧ phase.pushes = none

end Choice

section Process

variable {config dispatch data} {env : DispatchPhase → HubEnv} {base : RoutingDecision}

lemma quiet_quote (stage : QuoteStage) :
    dispatch.Quiet config data env (.quote base stage)
      (dispatch.quoteNext config data (env (.quote base stage)) base stage) :=
  ⟨rfl, rfl, rfl⟩

lemma leads_origin (vtoken : String) (sessionName : Option String) :
    Relation.ReflTransGen (dispatch.Quiet config data env)
      (.quote base (.origin vtoken sessionName)) (dispatch.decided (mergeRoutingWithQuote base
        (some (.ofVtoken data.registry.toClientRegistry vtoken sessionName)))) :=
  .single (quiet_quote _)

/-- A layer of the history, and the layers behind it. -/
lemma leads_quoteFound {found : Option (String × String)}
    {otherwise : DispatchPhase} {rest : Option QuoteOrigin}
    (hrest : Relation.ReflTransGen (dispatch.Quiet config data env) otherwise
      (dispatch.decided (mergeRoutingWithQuote base rest))) :
    Relation.ReflTransGen (dispatch.Quiet config data env) (quoteFound base found otherwise)
      (dispatch.decided (mergeRoutingWithQuote base
        ((ofHistory data.registry.toClientRegistry found).or rest))) := by
  unfold quoteFound ofHistory
  split
  · next vtoken sessionName hfound =>
    rw [hfound]
    exact leads_origin vtoken (some sessionName)
  · next hnone =>
    rw [hnone]
    exact hrest

lemma leads_scope (sessionKey : String) :
    Relation.ReflTransGen (dispatch.Quiet config data env) (.quote base (.scope sessionKey))
      (dispatch.decided (mergeRoutingWithQuote base
        (dispatch.footerOwner data (fun stage => env (.quote base stage)) sessionKey))) := by
  refine .head (quiet_quote _) ?_
  simp only [quoteNext]
  split
  · next vctx hvctx =>
    obtain ⟨scope, hscope, hfound⟩ := Option.bind_eq_some_iff.mp hvctx
    refine .head (quiet_quote _) ?_
    simp only [quoteNext, footerOwner, hscope, Option.bind_some, hfound]
    split
    · next vtoken hvtoken =>
      rw [hvtoken]
      exact leads_origin vtoken (some sessionKey)
    · next hnone =>
      rw [hnone, Option.map_none, mergeRoutingWithQuote_none]
  · next hnone =>
    have howner : dispatch.footerOwner data
        (fun stage => env (.quote base stage)) sessionKey = none := by
      unfold footerOwner
      cases hscope : derivePeerScope dispatch.msg with
      | none => rfl
      | some scope =>
        rw [hscope, Option.bind_some] at hnone
        rw [Option.bind_some, hnone, Option.bind_none]
    rw [howner, mergeRoutingWithQuote_none]

lemma leads_footer :
    Relation.ReflTransGen (dispatch.Quiet config data env) (.quote base .footer)
      (dispatch.decided (mergeRoutingWithQuote base (dispatch.resolveQuoteFromFooter data
          fun stage => env (.quote base stage)))) := by
  refine .head (quiet_quote _) ?_
  simp only [quoteNext, resolveQuoteFromFooter]
  cases footerFromUserQuote dispatch.refs with
  | none => rw [Option.bind_none, mergeRoutingWithQuote_none]
  | some footer =>
    simp only [Option.bind_some]
    cases data.registry.getByName footer.1 with
    | some info => exact .refl
    | none =>
      cases if looksLikeSession footer.1 = true then some footer.1
          else footer.2 with
      | none => rw [Option.bind_none, mergeRoutingWithQuote_none]
      | some sessionKey => exact leads_scope sessionKey

/-- The stages of the quote come to the origin that the layers find. -/
lemma leads_quote :
    Relation.ReflTransGen (dispatch.Quiet config data env) (.quote base .msgId)
      (dispatch.decided (mergeRoutingWithQuote base (dispatch.resolveQuote config data
          fun stage => env (.quote base stage)))) := by
  refine .head (quiet_quote _) (leads_quoteFound ?_)
  refine .head (quiet_quote _) (leads_quoteFound ?_)
  exact .head (quiet_quote _) (leads_quoteFound leads_footer)

lemma leads_route :
    Relation.ReflTransGen (dispatch.Quiet config data env) .route
      (dispatch.decided (mergeRoutingWithQuote (dispatch.baseRoute data)
        (dispatch.quoted config data env))) :=
  .head ⟨rfl, rfl, rfl⟩ leads_quote

/-- The process comes to the choice, and writes nothing before. -/
lemma leads_chosen :
    Relation.ReflTransGen (dispatch.Quiet config data env) .received
      (dispatch.chosen config data env) := by
  refine .head ⟨rfl, rfl, rfl⟩ ?_
  unfold chosen mentioned
  simp only [next]
  split
  · exact .refl
  · cases dispatch.msg.text.bind parseAtMention with
    | none => exact leads_route
    | some mention =>
      refine .head ⟨rfl, rfl, rfl⟩ ?_
      simp only [next, Option.bind_some]
      cases data.registry.getByAliasIn mention.1
          (dispatch.visible config data.registry.toClientRegistry) with
      | none => exact leads_route
      | some info => exact .refl

/-- Without a command in the text, the base is the route of the sender, and
without a route the help of the Hub. -/
lemma baseRoute_eq (hcommand : dispatch.msg.text.bind
      (parseHubCommand dispatch.freshName) = none) :
    dispatch.baseRoute data = match data.router.getRoute dispatch.fromUserId with
      | some vtoken => .forwardTo vtoken none
      | none => .hubInternal .help := by
  rw [baseRoute, Router.route, hcommand]
  rfl

/-- The quote of a user message decides exactly for a sender with a route of
their own or a default: without both, the help that nobody asked for is taken for
a command. -/
theorem chosen_eq_quoted_iff {vtoken name : String} {label sessionName : Option String}
    (huser : dispatch.msg.messageType ≠ some 2) (hmention : dispatch.mentioned config data = none)
    (hcommand : dispatch.msg.text.bind (parseHubCommand dispatch.freshName) = none)
    (hquoted : dispatch.quoted config data env = some (.client vtoken name label sessionName)) :
    dispatch.chosen config data env = .forward vtoken sessionName Forward.start ↔
      (data.router.getRoute dispatch.fromUserId).isSome = true := by
  have hchosen : dispatch.chosen config data env =
      dispatch.decided (mergeRoutingWithQuote (dispatch.baseRoute data)
        (some (.client vtoken name label sessionName))) := by
    rw [chosen, if_neg huser, hmention, hquoted]
  rw [hchosen, baseRoute_eq hcommand]
  cases data.router.getRoute dispatch.fromUserId with
  | some own => exact iff_of_true rfl rfl
  | none =>
    have hhelp : dispatch.handleHubCommand .help = .finished := by
      unfold handleHubCommand
      split <;> rfl
    constructor
    · intro hforward
      have hdecided : dispatch.handleHubCommand .help =
        .forward vtoken sessionName Forward.start := hforward
      simp [hhelp] at hdecided
    · intro hroute
      cases hroute

end Process

end Dispatch

def Sample.botRegistry : KeyedRegistry :=
  KeyedRegistry.new.insertClient { name := "bot", vtoken := "h1" } rfl rfl

/-- The history holds a reply of the client in its session `b`, which WeChat
knows as message 7. -/
def Sample.quotedHub (defaultClient : Option String) : HubData :=
  { freshHub with
    registry := botRegistry
    router := .new defaultClient
    messages := [⟨"vctx_1", some "h1", "b", "peer:u", "done", some 7, 0⟩] }

def Sample.quoting : Dispatch :=
  { inbound := inbound "u" "more", refs := [{ msgId := some "7" }] }

namespace Dispatch

open Sample

theorem chosen_eq_quoted_default :
    quoting.chosen noAcl (quotedHub (some "h1")) (fun _ => {}) =
        .forward "h1" (some "b") Forward.start ∧
      ((quotedHub (some "h1")).router.getRoute "u").isSome = true :=
  have hroute := rfl
  ⟨(chosen_eq_quoted_iff (by decide) (by decide +kernel) (by decide +kernel)
    (by decide +kernel : quoting.quoted noAcl (quotedHub (some "h1"))
      (fun _ => {}) = some (.client "h1" "bot" none (some "b")))).mpr hroute, hroute⟩

/-- The quote is resolved, and the user is shown the help. -/
theorem quote_without_route : quoting.quoted noAcl (quotedHub none) (fun _ => {}) =
        some (.client "h1" "bot" none (some "b")) ∧
      quoting.msg.text.bind (parseHubCommand quoting.freshName) = none ∧
      quoting.mentioned noAcl (quotedHub none) = none ∧
      mergeRoutingWithQuote (quoting.baseRoute (quotedHub none))
        (quoting.quoted noAcl (quotedHub none) fun _ => {}) = .hubInternal .help ∧
      quoting.chosen noAcl (quotedHub none) (fun _ => {}) = .finished :=
  ⟨by decide +kernel, by decide +kernel, by decide +kernel, by decide +kernel, by decide +kernel⟩

end Dispatch

end IlinkHub
