/-
The two checks of who owns a conversation (`store/context.rs`), each from its own
statement; until when a grant counts, and what a revocation leaves
(`store/sessions.rs`).
-/
import IlinkHub.HubRuns

namespace IlinkHub

open Query Store

namespace Store

variable (store : Store) (now : Int) (pair : PairKey)

/-- The statement of `resolve_send_context`. -/
def selectSendContext : Option (String × String × String) :=
  (store.contexts.entries.find? fun c => decide (c.1 = pair.vctx ∧
      ((∃ a ∈ store.active.entries, a.1.vctx = pair.vctx ∧ a.1.vtoken = pair.vtoken ∧
          a.2.expiresAt > now) ∨
        ∃ b ∈ store.backend.entries, b.1.pair.vctx = pair.vctx ∧
          b.1.pair.vtoken = pair.vtoken))).map fun c =>
    (c.2.realCtx, c.2.peerUserId.getD "", ((store.active.entries.find? fun a =>
      decide (a.1.vctx = pair.vctx ∧ a.1.vtoken = pair.vtoken ∧ a.2.expiresAt > now)).map
        fun a => a.2.sessionName).getD "default")

/-- The statement of `vtoken_owns_vctx`. -/
def selectOwnsVctx : Bool :=
  decide (∃ a ∈ store.active.entries, a.1.vctx = pair.vctx ∧ a.1.vtoken = pair.vtoken ∧
      a.2.expiresAt > now) ||
    decide (∃ b ∈ store.backend.entries, b.1.pair.vctx = pair.vctx ∧ b.1.pair.vtoken = pair.vtoken)

variable {store now pair}

lemma exists_active_iff :
    (∃ a ∈ store.active.entries, a.1.vctx = pair.vctx ∧ a.1.vtoken = pair.vtoken ∧
      a.2.expiresAt > now) ↔
      ∃ row, store.active.lookup pair = some row ∧ now < row.expiresAt := by
  simp only [lookup_eq_some_iff]
  constructor
  · rintro ⟨⟨⟨vctx, vtoken⟩, row⟩, hrow, rfl, rfl, hlive⟩
    exact ⟨row, hrow, hlive⟩
  · rintro ⟨row, hrow, hlive⟩
    exact ⟨_, hrow, rfl, rfl, hlive⟩

lemma exists_backend_iff :
    (∃ b ∈ store.backend.entries, b.1.pair.vctx = pair.vctx ∧ b.1.pair.vtoken = pair.vtoken) ↔
      store.hasBackendSession pair = true := by
  rw [hasBackendSession_iff]
  simp only [Option.isSome_iff_exists, lookup_eq_some_iff]
  constructor
  · rintro ⟨⟨⟨⟨vctx, vtoken⟩, name⟩, row⟩, hrow, rfl, rfl⟩
    exact ⟨name, row, hrow⟩
  · rintro ⟨name, row, hrow⟩
    exact ⟨_, hrow, rfl, rfl⟩

lemma owns_iff :
    ((∃ a ∈ store.active.entries, a.1.vctx = pair.vctx ∧ a.1.vtoken = pair.vtoken ∧
        a.2.expiresAt > now) ∨ ∃ b ∈ store.backend.entries, b.1.pair.vctx = pair.vctx ∧
      b.1.pair.vtoken = pair.vtoken) ↔ store.vtokenOwnsVctx now pair = true := by
  rw [exists_active_iff, exists_backend_iff, vtokenOwnsVctx_iff]

lemma selectOwnsVctx_eq : store.selectOwnsVctx now pair = store.vtokenOwnsVctx now pair := by
  rw [Bool.eq_iff_iff, selectOwnsVctx, ← Bool.decide_or, decide_eq_true_iff, owns_iff]

/-- The first statement finds what the lookups of the store find. -/
lemma selectSendContext_eq :
    store.selectSendContext now pair = store.resolveSendContext now pair := by
  have hgrant : (store.active.entries.find? fun a => decide (a.1.vctx = pair.vctx ∧
      a.1.vtoken = pair.vtoken ∧ a.2.expiresAt > now)) =
        (store.liveGrant now pair).map fun row => ⟨pair, row⟩ := by
    rw [find?_entries pair, liveGrant]
    · simp
    · rintro ⟨⟨vctx, vtoken⟩, row⟩ ha
      obtain ⟨rfl, rfl, -⟩ := of_decide_eq_true ha
      rfl
  simp only [selectSendContext, owns_iff, hgrant]
  rw [find?_entries pair.vctx fun c hc => (of_decide_eq_true hc).1, resolveSendContext]
  cases store.contexts.lookup pair.vctx with
  | none => rfl
  | some row =>
    by_cases howns : store.vtokenOwnsVctx now pair = true
    · simp [howns, Function.comp_def]
    · simp [howns, Function.comp_def]

/-- Where no named session helps, a grant counts until its stamp. -/
lemma owns_granted_iff {granted : Int} {name : String} {depth : UInt8}
    (hbackend : store.hasBackendSession pair = false) :
    (store.setActiveSessionWithDepth granted pair name depth).vtokenOwnsVctx now pair = true ↔
      now < store.grantExpiresAt granted := by
  have hrow := lookup_setActiveSessionWithDepth store granted pair name depth pair
  have hsame : (store.setActiveSessionWithDepth granted pair name depth).hasBackendSession pair =
      store.hasBackendSession pair := rfl
  rw [vtokenOwnsVctx_iff, hrow, hsame, hbackend]
  simp

end Store

/-- What happens to the tables of the store. -/
inductive StoreEvent where
  | write (ok : Bool) (now : Int) (op : StoreOp)
  | revoke (vtoken : String)
  | sweep (oldMessage : MessageRow → Bool) (oldGrant : PairKey → Bool)
  | contexts (contexts : AList fun _ : String => ContextRow)

/-- The tokens that may get a grant or a named session. -/
def StoreEvent.tokens : StoreEvent → List String
  | .write _ _ op => op.tokens
  | .revoke _ | .sweep _ _ | .contexts _ => []

namespace HubData

variable {data : HubData} {vtoken : String}

def storeStep (data : HubData) : StoreEvent → HubData
  | .write ok now op => data.withStore (data.world.store.attempt ok now op)
  | .revoke vtoken => data.revokeAuthorizationsForVtoken vtoken
  | .sweep oldMessage oldGrant => data.sweepExpired oldMessage oldGrant
  | .contexts contexts => data.withStore { data.world.store with contexts := contexts }

/-- The token has no row in the tables that grant. -/
def Revoked (vtoken : String) (data : HubData) : Prop :=
  ¬ data.At .activeSessions vtoken ∧ ¬ data.At .backendSessions vtoken

lemma Revoked.storeStep (hrevoked : data.Revoked vtoken) {event : StoreEvent}
    (hother : vtoken ∉ event.tokens) : (data.storeStep event).Revoked vtoken := by
  obtain ⟨hactive, hbackend⟩ := hrevoked
  cases event with
  | write ok now op =>
    constructor
    · rintro ⟨vctx, hrow⟩
      exact (active_of_attempt hrow).elim (fun h => hactive ⟨vctx, h⟩) hother
    · rintro ⟨vctx, name, hrow⟩
      exact (backend_of_attempt hrow).elim (fun h => hbackend ⟨vctx, name, h⟩) hother
  | revoke own =>
    have hwrites := @writes_revoke data own
    exact ⟨fun hat => (hwrites _ _ hat).elim hactive List.not_mem_nil,
      fun hat => (hwrites _ _ hat).elim hbackend List.not_mem_nil⟩
  | sweep oldMessage oldGrant =>
    exact ⟨fun hat => hactive (at_of_sweep hat), fun hat => hbackend (at_of_sweep hat)⟩
  | contexts contexts => exact ⟨hactive, hbackend⟩

lemma Revoked.run (hrevoked : data.Revoked vtoken) {events : List StoreEvent}
    (hothers : ∀ event ∈ events, vtoken ∉ event.tokens) :
    (Transition.run .storeStep data events).Revoked vtoken := by
  induction events generalizing data with
  | nil => exact hrevoked
  | cons event events ih =>
    obtain ⟨hother, hrest⟩ := List.forall_mem_cons.mp hothers
    exact ih (hrevoked.storeStep hother) hrest

lemma Revoked.owns_eq_false (hrevoked : data.Revoked vtoken) (vctx : String) (now : Int) :
    data.world.store.vtokenOwnsVctx now ⟨vctx, vtoken⟩ = false := by
  rw [← Bool.not_eq_true, vtokenOwnsVctx_iff]
  rintro (⟨row, hrow, -⟩ | hbackend)
  · exact hrevoked.1 ⟨vctx, by rw [hrow]; rfl⟩
  · obtain ⟨name, hrow⟩ := hasBackendSession_iff.mp hbackend
    exact hrevoked.2 ⟨vctx, name, hrow⟩

end HubData

/-- The two checks agree about every context that is there; a grant that is alone
counts for both until its stamp; and after a revocation both refuse until a row of
the token is written. -/
theorem ownershipChecks_agree :
    (∀ (store : Store) (now : Int) (pair : PairKey),
      (store.contexts.lookup pair.vctx).isSome = true →
        ((store.selectSendContext now pair).isSome = true ↔ store.selectOwnsVctx now pair = true)) ∧
    (∀ (store : Store) (granted now : Int) (pair : PairKey) (name : String) (depth : UInt8),
      (store.contexts.lookup pair.vctx).isSome = true →
      store.hasBackendSession pair = false →
        ((store.setActiveSessionWithDepth granted pair name depth).selectOwnsVctx now pair = true ↔
          now < store.grantExpiresAt granted) ∧
        (((store.setActiveSessionWithDepth granted pair name depth).selectSendContext now
          pair).isSome = true ↔ now < store.grantExpiresAt granted)) ∧
    ∀ (data : HubData) (vtoken : String) (events : List StoreEvent),
      (∀ event ∈ events, vtoken ∉ event.tokens) → ∀ (vctx : String) (now : Int),
        let after := Transition.run HubData.storeStep
          (data.revokeAuthorizationsForVtoken vtoken) events
        after.world.store.selectOwnsVctx now ⟨vctx, vtoken⟩ = false ∧
          after.world.store.selectSendContext now ⟨vctx, vtoken⟩ = none := by
  refine ⟨?_, ?_, ?_⟩
  · intro store now pair hcontext
    rw [selectSendContext_eq, selectOwnsVctx_eq, resolveSendContext_isSome_iff,
      and_iff_right hcontext]
  · intro store granted now pair name depth hcontext hbackend
    rw [selectSendContext_eq, selectOwnsVctx_eq, resolveSendContext_isSome_iff,
      owns_granted_iff hbackend]
    exact ⟨.rfl, and_iff_right hcontext⟩
  · intro data vtoken events hothers vctx now after
    have hstart : (data.revokeAuthorizationsForVtoken vtoken).Revoked vtoken :=
      ⟨HubData.not_at_revoke vtoken (by simp), HubData.not_at_revoke vtoken (by simp)⟩
    have howns := (hstart.run hothers).owns_eq_false vctx now
    rw [selectSendContext_eq, selectOwnsVctx_eq, ← Option.not_isSome_iff_eq_none,
      resolveSendContext_isSome_iff, howns]
    exact ⟨rfl, fun h => Bool.false_ne_true h.2⟩

/-- A store with one context, and grants for as long as an `i64` of seconds goes. -/
def Sample.lastingStore : Store :=
  ⟨AList.insert "v1" ⟨"r1", none⟩ ∅, ∅, ∅, 9223372036854775807⟩

open Sample

theorem ownershipChecks_agree_granted :
    lastingStore.hasBackendSession ⟨"v1", "h1"⟩ = false ∧
      (lastingStore.setActiveSessionWithDepth 5 ⟨"v1", "h1"⟩ "default" 0).selectOwnsVctx 6
        ⟨"v1", "h1"⟩ = true :=
  ⟨rfl, (ownershipChecks_agree.2.1 lastingStore 5 6 ⟨"v1", "h1"⟩ "default" 0 rfl rfl).1.mpr
    (by decide +kernel)⟩

/-- The sum of the time and the TTL stops at the largest `i64`, and the clock does too:
there the grant is over, though the TTL goes on. -/
theorem grant_over_before_ttl : (9223372036854775807 : Int) < 1 + lastingStore.grantTtlSecs ∧
      (lastingStore.setActiveSessionWithDepth 1 ⟨"v1", "h1"⟩ "default" 0).selectOwnsVctx
        9223372036854775807 ⟨"v1", "h1"⟩ = false := by
  decide +kernel

end IlinkHub
