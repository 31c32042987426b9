/-
The MCP route in front of `call_agent` (`mcp/router.rs`): it finds out for which
conversation the caller works from the newest grant row of the caller
(`get_active_ctx_for_vtoken` in `store/sessions.rs`) and bounds the depth of the
call chain.
-/
import IlinkHub.Query
import IlinkHub.UserDispatch

namespace IlinkHub

/-- Longer chains of calls are refused. -/
def maxA2aDepth : UInt8 :=
  5

structure ActiveCtxInfo where
  vctx : String
  realCtx : String
  peerUserId : String
  a2aDepth : UInt8
deriving Repr, DecidableEq

namespace Store

variable (store : Store) (updatedAt : PairKey → Int) (now : Int) (vtoken : String)

/-- The unexpired grants of the backend in known contexts, with the second of
their last write. -/
def activeCtxRows : List (Int × ActiveCtxInfo) :=
  store.active.entries.filterMap fun entry =>
    if entry.1.vtoken = vtoken ∧ now < entry.2.expiresAt then
      (store.contexts.lookup entry.1.vctx).map fun context =>
        (updatedAt entry.1, ⟨entry.1.vctx, context.realCtx,
          context.peerUserId.getD "", entry.2.a2aDepth⟩)
    else none

/-- The newest of them.  The order among rows of one second is not specified, so
`tie` picks one. -/
def getActiveCtxForVtoken (tie : Nat) : Option ActiveCtxInfo :=
  (Query.limitOne (fun row other => decide (other.1 ≤ row.1)) tie
    (store.activeCtxRows updatedAt now vtoken)).map Prod.snd

variable {store updatedAt now vtoken}

lemma mem_activeCtxRows {row : Int × ActiveCtxInfo} :
    row ∈ store.activeCtxRows updatedAt now vtoken ↔ ∃ grant context, store.liveGrant now
        ⟨row.2.vctx, vtoken⟩ = some grant ∧ store.contexts.lookup row.2.vctx = some context ∧ row =
        (updatedAt ⟨row.2.vctx, vtoken⟩, ⟨row.2.vctx, context.realCtx,
          context.peerUserId.getD "", grant.a2aDepth⟩) := by
  rw [activeCtxRows, List.mem_filterMap]
  constructor
  · rintro ⟨⟨⟨vctx, own⟩, grant⟩, hentry, hrow⟩
    split at hrow
    · next hboth =>
      obtain ⟨rfl, hlive⟩ := hboth
      obtain ⟨context, hcontext, rfl⟩ := Option.map_eq_some_iff.mp hrow
      refine ⟨grant, context, ?_, hcontext, rfl⟩
      rw [liveGrant, AList.mem_lookup_iff.mpr hentry]
      simp [hlive]
    · cases hrow
  · rintro ⟨grant, context, hgrant, hcontext, hrow⟩
    obtain ⟨hlookup, hlive⟩ := Option.filter_eq_some_iff.mp hgrant
    refine ⟨⟨⟨row.2.vctx, vtoken⟩, grant⟩, AList.mem_lookup_iff.mp hlookup, ?_⟩
    rw [if_pos ⟨rfl, of_decide_eq_true hlive⟩, hcontext, hrow]
    rfl

/-- The answer is one of the rows, and no row is newer. -/
lemma newest_of_getActiveCtxForVtoken {tie : Nat} {info : ActiveCtxInfo}
    (hinfo : store.getActiveCtxForVtoken updatedAt now vtoken tie = some info) :
    ∃ second, (second, info) ∈ store.activeCtxRows updatedAt now vtoken ∧
      ∀ other ∈ store.activeCtxRows updatedAt now vtoken, other.1 ≤ second := by
  obtain ⟨⟨second, own⟩, hfirst, rfl⟩ := Option.map_eq_some_iff.mp hinfo
  obtain ⟨hmem, hmax⟩ := Query.of_limitOne hfirst
  exact ⟨second, hmem, fun other hother =>
    of_decide_eq_true (hmax other hother)⟩

/-- The grant of the pair is live, and every other live grant of its backend was
written in an earlier second. -/
structure NewestGrant (store : Store) (updatedAt : PairKey → Int) (now : Int)
    (pair : PairKey) : Prop where
  live : (store.liveGrant now pair).isSome = true
  known : (store.contexts.lookup pair.vctx).isSome = true
  newest : ∀ entry ∈ store.active.entries, entry.1.vtoken = pair.vtoken →
    entry.1 = pair ∨ entry.2.expiresAt ≤ now ∨ updatedAt entry.1 < updatedAt pair

/-- Then the lookup answers with this pair. -/
lemma NewestGrant.eq_of_getActiveCtxForVtoken {pair : PairKey}
    (hnewest : store.NewestGrant updatedAt now pair) {tie : Nat} {info : ActiveCtxInfo}
    (hinfo : store.getActiveCtxForVtoken updatedAt now pair.vtoken tie = some info) :
    ∃ grant context, store.liveGrant now pair = some grant ∧
      store.contexts.lookup pair.vctx = some context ∧
      info = ⟨pair.vctx, context.realCtx, context.peerUserId.getD "", grant.a2aDepth⟩ := by
  obtain ⟨second, hmem, hmax⟩ := newest_of_getActiveCtxForVtoken hinfo
  obtain ⟨grant, context, hgrant, hcontext, hrow⟩ := mem_activeCtxRows.mp hmem
  obtain ⟨hsecond, hinfo⟩ := Prod.mk.inj hrow
  obtain ⟨own, hown⟩ := Option.isSome_iff_exists.mp hnewest.live
  obtain ⟨mapped, hmapped⟩ := Option.isSome_iff_exists.mp hnewest.known
  have hlate : updatedAt pair ≤ updatedAt ⟨info.vctx, pair.vtoken⟩ := by
    rw [← hsecond]
    exact hmax (updatedAt pair, ⟨pair.vctx, mapped.realCtx,
      mapped.peerUserId.getD "", own.a2aDepth⟩)
      (mem_activeCtxRows.mpr ⟨own, mapped, hown, hmapped, rfl⟩)
  obtain ⟨hlookup, hlive⟩ := Option.filter_eq_some_iff.mp hgrant
  have hlive := of_decide_eq_true hlive
  have hpair : ⟨info.vctx, pair.vtoken⟩ = pair := by
    rcases hnewest.newest _ (AList.mem_lookup_iff.mp hlookup) rfl with
      hsame | hexpired | hearlier
    · exact hsame
    · exact absurd hlive (not_lt.mpr hexpired)
    · exact absurd hlate (not_le.mpr hearlier)
  have hvctx : info.vctx = pair.vctx := congrArg PairKey.vctx hpair
  rw [hpair] at hgrant
  rw [hvctx] at hcontext hinfo
  exact ⟨grant, context, hgrant, hcontext, hinfo⟩

instance (store : Store) (updatedAt : PairKey → Int) (now : Int)
    (pair : PairKey) : Decidable (store.NewestGrant updatedAt now pair) :=
  decidable_of_iff
    ((store.liveGrant now pair).isSome = true ∧ (store.contexts.lookup pair.vctx).isSome = true ∧
      ∀ entry ∈ store.active.entries, entry.1.vtoken = pair.vtoken →
        entry.1 = pair ∨ entry.2.expiresAt ≤ now ∨ updatedAt entry.1 < updatedAt pair)
    ⟨fun h => ⟨h.1, h.2.1, h.2.2⟩, fun h => ⟨h.live, h.known, h.newest⟩⟩

end Store

universe u v w x

variable {ι : Type u} {κ : Type v} {υ : Type w} {δ : Type x}

/-- The message that an agent handles when it issues a call. -/
inductive Cause (ι : Type u) (δ : Type x) where
  | user (d : δ)
  | a2a (j : ι)
deriving DecidableEq

/-- The processes; a call belongs to the message that its caller handles. -/
structure ToolProcesses (ι : Type u) (κ : Type v) (υ : Type w)
    (δ : Type x) extends DispatchProcesses ι κ υ δ where
  cause : ι → Cause ι δ

/-- How deep a call is nested. -/
inductive ToolProcesses.Level (procs : ToolProcesses ι κ υ δ) :
    ι → Nat → Prop where
  | user {i : ι} {d : δ} : procs.cause i = .user d → procs.Level i 1
  | a2a {i j : ι} {n : Nat} : procs.cause i = .a2a j → procs.Level j n → procs.Level i (n + 1)

/-- The await points of the route; an admitted request goes on as a call. -/
inductive ToolPhase where
  | authenticate
  | lookup
  | refused (message : String)
  | admitted (ctx : CallAgentContext)
deriving Repr, DecidableEq

def ToolPhase.isAdmitted : ToolPhase → Bool
  | .admitted _ => true
  | .authenticate | .lookup | .refused _ => false

/-- Outside of a step of the route: also the choice among equally new rows and
the text of a database error. -/
structure ToolEnv extends Env where
  tie : Nat := 0
  dbError : String := ""

def depthExceededMsg : String :=
  "A2A call rejected: maximum call depth (" ++ toString maxA2aDepth ++
    ") reached. This prevents runaway recursive agent loops."

def noActiveConversationMsg : String :=
  "No active conversation found for caller; the Hub must have delivered at " ++
    "least one message to this Agent first."

/-- The Hub with the route and the column `updated_at` of the grant rows.  The
last two fields are history that no code reads: under which pair the message of a
process went to its queue, and which process wrote the grant rows of a backend
last, for which context. -/
structure ToolsHub (ι : Type u) (κ : Type v) (υ : Type w) (δ : Type x) where
  hub : DispatchHub ι κ υ δ
  requests : ι → ToolPhase
  updatedAt : PairKey → Int
  pushed : Cause ι δ → Option PairKey
  lastGrant : String → Option (Cause ι δ × String)

inductive ToolsEvent (ι : Type u) (κ : Type v) (υ : Type w) (δ : Type x) where
  | tool (i : ι) (env : ToolEnv)
  | hub (event : DispatchEvent ι κ υ δ)

/-- The depth guard. -/
def guardDepth (callerVtoken : String) (info : ActiveCtxInfo) : ToolPhase :=
  if maxA2aDepth ≤ info.a2aDepth then .refused depthExceededMsg
  else .admitted ⟨callerVtoken, info.vctx, info.realCtx, info.peerUserId, info.a2aDepth⟩

namespace ToolsHub

variable (procs : ToolProcesses ι κ υ δ)

def callerVtoken (i : ι) : String :=
  (procs.call i).ctx.callerVtoken

/-- The processes with the contexts that the admitted calls got. -/
def running (state : ToolsHub ι κ υ δ) : DispatchProcesses ι κ υ δ :=
  { procs.toDispatchProcesses with
    call := fun i =>
      match state.requests i with
      | .admitted ctx => { procs.call i with ctx := ctx }
      | .authenticate | .lookup | .refused _ => procs.call i }

/-- An agent issues a call while it handles a message, which it got from its
queue. -/
def issued (state : ToolsHub ι κ υ δ) (i : ι) : Bool :=
  (state.pushed (procs.cause i)).any fun pair =>
    decide (pair.vtoken = callerVtoken procs i)

def toolNext (state : ToolsHub ι κ υ δ) (i : ι) (env : ToolEnv) : ToolPhase :=
  match state.requests i with
  | .authenticate =>
    if !state.issued procs i then .authenticate
    else if (env.registry.getByVtoken (callerVtoken procs i)).isNone then
      .refused unknownVtokenMsg
    else
      match env.retryAfterSecs with
      | some secs => .refused
          ("rate limit exceeded; retry after " ++ toString secs ++ "s")
      | none => .lookup
  | .lookup =>
    if env.ok then
      match state.hub.store.getActiveCtxForVtoken state.updatedAt env.now
          (callerVtoken procs i) env.tie with
      | some info => guardDepth (callerVtoken procs i) info
      | none => .refused noActiveConversationMsg
    else .refused ("DB error resolving caller context: " ++ env.dbError)
  | .refused message => .refused message
  | .admitted ctx => .admitted ctx

/-- A call runs once its request is admitted. -/
def enabled (state : ToolsHub ι κ υ δ) : DispatchEvent ι κ υ δ → Bool
  | .hub (.call i _) | .hub (.drop i _ _) => (state.requests i).isAdmitted
  | .hub (.send _ _) | .hub (.user _ _) | .forward _ _ => true

/-- The process whose grant the event writes. -/
def grantedBy (state : ToolsHub ι κ υ δ) :
    DispatchEvent ι κ υ δ → Option (Cause ι δ)
  | .forward d _ =>
    match state.hub.forwards d with
    | .grant _ _ => some (.user d)
    | _ => none
  | .hub (.call i _) =>
    match state.hub.hub.calls i with
    | .grant _ _ => some (.a2a i)
    | _ => none
  | .hub (.send _ _) | .hub (.user _ _) | .hub (.drop _ _ _) => none

/-- The process whose message the event puts into a queue, and its pair. -/
def pushes (state : ToolsHub ι κ υ δ) :
    DispatchEvent ι κ υ δ → Option (Cause ι δ × PairKey)
  | .forward d _ =>
    match state.hub.forwards d with
    | .push vctx _ => some (.user d, (procs.forward d).pair vctx)
    | _ => none
  | .hub (.call i _) =>
    match state.hub.hub.calls i with
    | .push parties _ _ =>
      some (.a2a i, ((state.running procs).call i).pair parties)
    | _ => none
  | .hub (.send _ _) | .hub (.user _ _) | .hub (.drop _ _ _) => none

/-- Every upsert of a grant row stamps it. -/
def stamped (state : ToolsHub ι κ υ δ) (event : DispatchEvent ι κ υ δ) (pair : PairKey) : Int :=
  if event.ok = true ∧ ((state.hub.op (state.running procs) event).grants.map Prod.fst =
        some pair) then event.now
  else state.updatedAt pair

def lastGrantAfter (state : ToolsHub ι κ υ δ) (event : DispatchEvent ι κ υ δ)
    (vtoken : String) : Option (Cause ι δ × String) :=
  match event.ok, (state.hub.op (state.running procs) event).activePair with
  | true, some pair =>
    if pair.vtoken = vtoken then
      (state.grantedBy event).map fun cause => (cause, pair.vctx)
    else state.lastGrant vtoken
  | _, _ => state.lastGrant vtoken

def start (hub : DispatchHub ι κ υ δ) (updatedAt : PairKey → Int) : ToolsHub ι κ υ δ :=
  ⟨hub, fun _ => .authenticate, updatedAt, fun _ => none, fun _ => none⟩

variable [DecidableEq ι] [DecidableEq κ] [DecidableEq υ] [DecidableEq δ]

def pushedAfter (state : ToolsHub ι κ υ δ) (event : DispatchEvent ι κ υ δ)
    (cause : Cause ι δ) : Option PairKey :=
  (state.pushed cause).or (((state.pushes procs event).filter fun push =>
      decide (push.1 = cause)).map Prod.snd)

def step (state : ToolsHub ι κ υ δ) : ToolsEvent ι κ υ δ → ToolsHub ι κ υ δ
  | .tool i env =>
    { state with
      requests := Function.update state.requests i (state.toolNext procs i env) }
  | .hub event =>
    if state.enabled event then
      { state with
        hub := state.hub.step (state.running procs) event
        updatedAt := state.stamped procs event
        pushed := state.pushedAfter procs event
        lastGrant := state.lastGrantAfter procs event }
    else state

end ToolsHub

end IlinkHub
