/-
The health check (`hub/health.rs`): which clients a pass marks offline.  Sequences
of registrations, confirmed pairings, revocations, polls and passes, one at a
time: which clients are still online after a pass.
-/
import IlinkHub.AdminHub
import IlinkHub.RequestTask

namespace IlinkHub

open Sample KeyedRegistry Transition Query Function ClientInfo

def offlineThresholdSecs : Nat :=
  90

/-- The subtraction stops at zero. -/
def staleThreshold (now : Nat) : Int :=
  ((now - offlineThresholdSecs : Nat) : Int)

/-- The tokens whose last poll was before the threshold.  A token without a poll
is not among them. -/
def staleVtokens (lastSeen : AList fun _ : String => Int) (threshold : Int) : List String :=
  (lastSeen.entries.filter fun entry => entry.2 < threshold).map fun entry =>
    entry.1

lemma mem_staleVtokens_iff {lastSeen : AList fun _ => Int} {threshold : Int} {vtoken : String} :
    vtoken ∈ staleVtokens lastSeen threshold ↔
      ∃ seen, lastSeen.lookup vtoken = some seen ∧ seen < threshold := by
  simp only [staleVtokens, List.mem_map, List.mem_filter, decide_eq_true_iff, lookup_eq_some_iff]
  constructor
  · rintro ⟨⟨own, seen⟩, ⟨hentry, hlt⟩, rfl⟩
    exact ⟨seen, hentry, hlt⟩
  · rintro ⟨seen, hentry, hlt⟩
    exact ⟨⟨vtoken, seen⟩, ⟨hentry, hlt⟩, rfl⟩

namespace KeyedRegistry

variable {registry next : KeyedRegistry} {vtoken own name drawn : String}
  {label description : Option String} {f : ClientInfo → ClientInfo}

/-- The client of the token is marked online. -/
def Online (registry : KeyedRegistry) (vtoken : String) : Prop :=
  ∃ client, registry.byVtoken.lookup vtoken = some client ∧ client.online = true

lemma online_adjust {hvtoken : ∀ client, (f client).vtoken = client.vtoken}
    {hname : ∀ client, (f client).name = client.name} :
    (registry.adjust own f hvtoken hname).Online vtoken ↔
      if vtoken = own then
        ∃ client, registry.byVtoken.lookup own = some client ∧ (f client).online = true
      else registry.Online vtoken := by
  unfold Online
  rw [lookup_adjust]
  split
  · simp
  · rfl

lemma online_adjust_of_same {hvtoken : ∀ client, (f client).vtoken = client.vtoken}
    {hname : ∀ client, (f client).name = client.name}
    (hsame : ∀ client, (f client).online = client.online) :
    (registry.adjust own f hvtoken hname).Online vtoken ↔
      registry.Online vtoken := by
  rw [online_adjust]
  split
  · next hown =>
    subst hown
    simp only [hsame]
    rfl
  · rfl

lemma online_setPersona {personaName personaEmoji : Option String} :
    (registry.setPersona own personaName personaEmoji).Online vtoken ↔
      registry.Online vtoken := by
  rw [setPersona, online_adjust_of_same]
  exact fun _ => rfl

lemma online_setDescription {description : Option String} :
    (registry.setDescription own description).Online vtoken ↔
      registry.Online vtoken := by
  rw [setDescription, online_adjust_of_same]
  exact fun _ => rfl

lemma online_markOnline :
    (registry.markOnline own).Online vtoken ↔
      registry.Online vtoken ∨ vtoken = own ∧ registry.Registered own := by
  rw [markOnline, online_adjust]
  split
  · next hown =>
    subst hown
    rw [Registered, Option.isSome_iff_exists]
    constructor
    · rintro ⟨client, hclient, -⟩
      exact .inr ⟨rfl, client, hclient⟩
    · rintro (⟨client, hclient, -⟩ | ⟨-, client, hclient⟩)
      · exact ⟨client, hclient, rfl⟩
      · exact ⟨client, hclient, rfl⟩
  · next hown => simp [hown]

lemma online_markOffline :
    (registry.markOffline own).Online vtoken ↔ registry.Online vtoken ∧ vtoken ≠ own := by
  rw [markOffline, online_adjust]
  split
  · next hown => simp [hown]
  · next hown => simp [hown]

lemma online_foldl_markOffline {tokens : List String} :
    (tokens.foldl markOffline registry).Online vtoken ↔
      registry.Online vtoken ∧ vtoken ∉ tokens := by
  induction tokens generalizing registry with
  | nil => simp
  | cons first rest ih =>
    rw [List.foldl_cons, ih, online_markOffline, List.mem_cons, not_or, and_assoc]

lemma online_insertClient {client : ClientInfo}
    (hvtoken : registry.byVtoken.lookup client.vtoken = none)
    (hname : registry.byName.lookup client.name = none) (hoffline : client.online = false) :
    (registry.insertClient client hvtoken hname).Online vtoken ↔
      registry.Online vtoken := by
  unfold Online
  rw [insertClient, lookup_insert]
  split
  · next hsame =>
    subst hsame
    simp [hoffline, hvtoken]
  · rfl

/-- A new name is offline; a name that is registered again is online at once. -/
lemma online_register (hdrawn : registry.byVtoken.lookup drawn = none) :
    (registry.register name label description drawn hdrawn).2.2.Online vtoken ↔
      registry.Online vtoken ∨ registry.tokens name = some vtoken := by
  unfold register
  split
  · next existing hname =>
    obtain ⟨client, hclient, hown⟩ := registry.named.mp hname
    obtain ⟨found, hfound, hvtoken⟩ := getByName_of_lookup hname
    rw [online_adjust, tokens_of_getByName hfound, hvtoken]
    split
    · next hsame =>
      refine iff_of_true ⟨client, hclient, rfl⟩ (.inr ?_)
      rw [hsame]
    · next hother =>
      simp [Ne.symm hother]
  · next hname =>
    have hnone := tokens_eq_none_iff.mpr (getByName_eq_none_iff.mpr hname)
    refine (online_insertClient hdrawn hname rfl).trans ?_
    simp [hnone]

lemma online_registerConfirmed {hdrawn : registry.byVtoken.lookup drawn = none}
    (hnext : registry.registerConfirmed name label description drawn hdrawn =
      some next) : next.Online vtoken ↔ registry.Online vtoken := by
  unfold registerConfirmed at hnext
  split at hnext
  · cases hnext
  · next hname =>
    cases hnext
    exact online_insertClient hdrawn hname rfl

lemma online_iff_exists_name :
    registry.Online vtoken ↔ ∃ name client,
      registry.getByName name = some client ∧ client.vtoken = vtoken ∧ client.online = true := by
  constructor
  · rintro ⟨client, hclient, honline⟩
    refine ⟨client.name, client, ?_, registry.keyed hclient, honline⟩
    rw [getByName_eq_some_iff, mem_values_iff, registry.keyed hclient]
    exact ⟨hclient, rfl⟩
  · rintro ⟨name, client, hclient, rfl, honline⟩
    exact ⟨client, mem_values_iff.mp (getByName_eq_some_iff.mp hclient).1, honline⟩

lemma online_of_rotated {info rotated : ClientInfo} (hinfo : registry.getByName name = some info)
    (hoffline : rotated.online = false)
    (hnext : next.getByName = update registry.getByName name (some rotated)) :
    next.Online vtoken ↔ registry.Online vtoken ∧ vtoken ≠ info.vtoken := by
  rw [online_iff_exists_name, online_iff_exists_name, hnext]
  constructor
  · rintro ⟨other, client, hclient, rfl, honline⟩
    have hother : other ≠ name := by
      rintro rfl
      rw [update_self] at hclient
      simp [← Option.some.inj hclient, hoffline] at honline
    rw [update_of_ne hother] at hclient
    refine ⟨⟨other, client, hclient, rfl, honline⟩, fun hsame => hother ?_⟩
    exact name_eq_of_vtoken_eq hclient hinfo hsame
  · rintro ⟨⟨other, client, hclient, rfl, honline⟩, hne⟩
    have hother : other ≠ name := by
      rintro rfl
      rw [hinfo] at hclient
      exact hne (congrArg vtoken (Option.some.inj hclient)).symm
    refine ⟨other, client, ?_, rfl, honline⟩
    rw [update_of_ne hother]
    exact hclient

end KeyedRegistry

namespace ClientHub

variable {hub : ClientHub} {ok : Nat → Bool} {vtoken : String} {draw : VtokenDraw}

lemma registry_registerClientInHub {name : String} {label description : Option String}
    (hdrawn : hub.registry.byVtoken.lookup draw.hashed = none) :
    (hub.registerClientInHub ok name label description draw hdrawn).2.registry =
      (hub.registry.register name label description draw.hashed hdrawn).2.2 := by
  simp only [registerClientInHub]
  split <;> rfl

lemma online_applyPersona (ok : Bool) (req : RegisterRequest) (hashed : String) :
    (hub.applyPersona ok req hashed).registry.Online vtoken ↔
      hub.registry.Online vtoken := by
  unfold applyPersona
  split
  · exact online_setPersona
  · rfl

lemma online_applyDescription (ok : Bool) (req : RegisterRequest) (hashed : String) :
    (hub.applyDescription ok req hashed).registry.Online vtoken ↔
      hub.registry.Online vtoken := by
  unfold applyDescription
  split
  · split
    · rfl
    · exact online_setDescription
  · rfl

lemma online_register {req : RegisterRequest}
    (hdrawn : hub.registry.byVtoken.lookup draw.hashed = none) :
    (hub.register ok req draw hdrawn).2.registry.Online vtoken ↔
      hub.registry.Online vtoken ∨ req.rejected = none ∧
        hub.registry.tokens req.name = some vtoken := by
  have hjoined : (hub.registerClientInHub ok req.name req.label req.description
      draw hdrawn).2.registry.Online vtoken ↔ hub.registry.Online vtoken ∨
        hub.registry.tokens req.name = some vtoken := by
    rw [registry_registerClientInHub, KeyedRegistry.online_register]
  cases hrejected : req.rejected with
  | some response => simp [register, hrejected]
  | none =>
    simp only [register, hrejected, true_and]
    split
    · exact hjoined
    · rw [online_applyDescription, online_applyPersona, hjoined]

lemma online_registerConfirmedClientInHub {name : String} {label description : Option String}
    {hdrawn : hub.registry.byVtoken.lookup draw.hashed = none}
    {result : RegisterClientOutcome × ClientHub}
    (hresult : hub.registerConfirmedClientInHub ok name label description draw
      hdrawn = some result) : result.2.registry.Online vtoken ↔ hub.registry.Online vtoken := by
  obtain ⟨registry, hregistry, rfl⟩ := Option.map_eq_some_iff.mp hresult
  simp only
  split <;> exact online_registerConfirmed hregistry

end ClientHub

namespace AdminHub

variable (hub : AdminHub) (ok : Nat → Bool)

/-- `POST /hub/register`. -/
def register (req : RegisterRequest) (draw : VtokenDraw) : AdminHub :=
  if hdrawn : hub.registry.byVtoken.lookup draw.hashed = none then
    { hub with toClientHub := (hub.toClientHub.register ok req draw hdrawn).2 }
  else hub

/-- The registration of a confirmed pairing. -/
def registerConfirmed (name : String) (label : Option String) (draw : VtokenDraw) : AdminHub :=
  if hdrawn : hub.registry.byVtoken.lookup draw.hashed = none then
    match hub.registerConfirmedClientInHub ok name label none draw hdrawn with
    | some result => { hub with toClientHub := result.2 }
    | none => hub
  else hub

/-- A whole `getupdates` that nothing interrupts, and the token that it records:
the mark is read before, and the client is marked only if it was offline. -/
def getUpdates (updates : GetUpdates) (admitted : Bool) (now : Nat) : Option String × AdminHub :=
  match updates.vtoken with
  | none => (none, hub)
  | some vtoken =>
    if admitted then
      match hub.registry.getByVtoken vtoken with
      | none => (none, hub)
      | some info =>
        (some vtoken, { hub with
            lastSeen := hub.lastSeen.insert vtoken now
            registry := if info.online then hub.registry
              else hub.registry.markOnline vtoken
            queue := ((hub.queue.waitNotify vtoken).poll vtoken updates.req.ackWatermark).2 })
    else (none, hub)

/-- A pass that nothing interrupts. -/
def healthCheck (now : Nat) : AdminHub :=
  { hub with
    registry := (staleVtokens hub.lastSeen (staleThreshold now)).foldl markOffline hub.registry }

end AdminHub

namespace AdminHub

variable {hub : AdminHub} {ok : Nat → Bool} {vtoken : String}

lemma lastSeen_register (req : RegisterRequest) (draw : VtokenDraw) :
    (hub.register ok req draw).lastSeen = hub.lastSeen := by
  unfold register
  split <;> rfl

lemma lastSeen_registerConfirmed (name : String) (label : Option String) (draw : VtokenDraw) :
    (hub.registerConfirmed ok name label draw).lastSeen = hub.lastSeen := by
  unfold registerConfirmed
  split
  · split <;> rfl
  · rfl

lemma online_registerConfirmed {name : String} {label : Option String} {draw : VtokenDraw} :
    (hub.registerConfirmed ok name label draw).registry.Online vtoken ↔
      hub.registry.Online vtoken := by
  unfold registerConfirmed
  split
  · split
    · next result hresult =>
      exact ClientHub.online_registerConfirmedClientInHub hresult
    · rfl
  · rfl

/-- A revocation takes one token from both maps, or it changes neither. -/
lemma of_call_revoke (name : String) (draw : VtokenDraw) (tie : Nat) :
    (∃ old, (hub.call ok (.revoke name draw tie)).2.lastSeen = hub.lastSeen.erase old ∧ ∀ vtoken,
          (hub.call ok (.revoke name draw tie)).2.registry.Online vtoken ↔
            hub.registry.Online vtoken ∧ vtoken ≠ old) ∨
      (hub.call ok (.revoke name draw tie)).2 = hub := by
  by_cases hdrawn : hub.registry.byVtoken.lookup draw.hashed = none
  · cases hclient : hub.registry.getByName name with
    | none =>
      simp [call, revokeClientInHub, ClientHub.revokeClientInHub, hclient]
    | some client =>
      left
      obtain ⟨-, hfind, hlastSeen⟩ := call_revoke tie ok hdrawn hclient
      exact ⟨client.vtoken, hlastSeen, fun _ =>
        online_of_rotated hclient rfl hfind⟩
  · right
    rw [call, dif_neg hdrawn]

end AdminHub

/-- The polls that were recorded are history. -/
structure HealthHub where
  hub : AdminHub
  clock : Nat
  polls : List (String × Nat)

inductive HealthOp where
  | tick (secs : Nat)
  | register (ok : Nat → Bool) (req : RegisterRequest) (draw : VtokenDraw)
  | registerConfirmed (ok : Nat → Bool) (name : String) (label : Option String) (draw : VtokenDraw)
  | revoke (ok : Nat → Bool) (name : String) (draw : VtokenDraw) (tie : Nat)
  | getUpdates (updates : GetUpdates) (admitted : Bool)
  | check

namespace HealthHub

def start (hub : AdminHub) (clock : Nat) : HealthHub :=
  ⟨hub, clock, []⟩

variable (state : HealthHub)

def step : HealthOp → HealthHub
  | .tick secs => { state with clock := state.clock + secs }
  | .register ok req draw =>
    { state with hub := state.hub.register ok req draw }
  | .registerConfirmed ok name label draw =>
    { state with hub := state.hub.registerConfirmed ok name label draw }
  | .revoke ok name draw tie =>
    { state with hub := (state.hub.call ok (.revoke name draw tie)).2 }
  | .getUpdates updates admitted =>
    let result := state.hub.getUpdates updates admitted state.clock
    { state with
      hub := result.2
      polls := (result.1.map fun vtoken =>
        (vtoken, state.clock)).toList ++ state.polls }
  | .check => { state with hub := state.hub.healthCheck state.clock }

/-- Every client that is online has polled under its token since the threshold. -/
def Recent : Prop :=
  ∀ vtoken, state.hub.registry.Online vtoken → ∃ seen, (vtoken, seen) ∈ state.polls ∧
      state.clock ≤ seen + offlineThresholdSecs

/-- A pass, whenever it is run, leaves only clients online that have polled
recently. -/
def Checked : Prop :=
  ∀ wait, ((state.step (.tick wait)).step .check).Recent

/-- The token that the operation marks online without a poll. -/
def awakens : HealthOp → Option String
  | .register _ req draw =>
    if req.rejected = none ∧ state.hub.registry.byVtoken.lookup draw.hashed = none then
      state.hub.registry.tokens req.name
    else none
  | _ => none

/-- A name is registered again only if its client has polled under its token. -/
def Safe (op : HealthOp) : Prop :=
  ∀ vtoken, state.awakens op = some vtoken → (state.hub.lastSeen.lookup vtoken).isSome = true

/-- Entries come from polls, and polls are past. -/
structure Kept (state : HealthHub) : Prop where
  polled : ∀ {vtoken seen}, state.hub.lastSeen.lookup vtoken = some seen →
    ∃ time : Nat, seen = time ∧ (vtoken, time) ∈ state.polls
  past : ∀ {vtoken time}, (vtoken, time) ∈ state.polls → time ≤ state.clock

/-- Every client that is online has an entry. -/
def Seen (state : HealthHub) : Prop :=
  ∀ vtoken, state.hub.registry.Online vtoken → (state.hub.lastSeen.lookup vtoken).isSome = true

variable {state}

/-- A pass takes the stale entries' clients, and no others. -/
lemma online_check {now : Nat} {vtoken : String} {hub : AdminHub} :
    (hub.healthCheck now).registry.Online vtoken ↔ hub.registry.Online vtoken ∧ ∀ seen,
        hub.lastSeen.lookup vtoken = some seen → staleThreshold now ≤ seen := by
  rw [AdminHub.healthCheck, online_foldl_markOffline, mem_staleVtokens_iff]
  simp [not_lt]

lemma checked_iff_seen (hkept : state.Kept) : state.Checked ↔ state.Seen := by
  constructor
  · intro hchecked vtoken honline
    by_contra hnone
    rw [Option.not_isSome_iff_eq_none] at hnone
    -- Without an entry no pass takes the client, however late it is run.
    have hafter := hchecked (offlineThresholdSecs + 1) vtoken
      (online_check.mpr ⟨honline, fun seen hseen => ?_⟩)
    · obtain ⟨seen, hmem, hrecent⟩ := hafter
      have hpast := hkept.past hmem
      simp only [step] at hrecent
      omega
    · change state.hub.lastSeen.lookup vtoken = some seen at hseen
      simp [hnone] at hseen
  · intro hseen wait vtoken honline
    obtain ⟨honline, hfresh⟩ := online_check.mp honline
    obtain ⟨seen, hentry⟩ := Option.isSome_iff_exists.mp (hseen vtoken honline)
    obtain ⟨time, rfl, hmem⟩ := hkept.polled hentry
    have hle := hfresh _ hentry
    refine ⟨time, hmem, ?_⟩
    simp only [staleThreshold, step] at hle ⊢
    omega

/-- A poll marks and records the token that it has. -/
lemma of_getUpdates (hub : AdminHub) (updates : GetUpdates) (admitted : Bool) (now : Nat) :
    (hub.getUpdates updates admitted now) = (none, hub) ∨
      ∃ vtoken, (hub.getUpdates updates admitted now).1 = some vtoken ∧
        (hub.getUpdates updates admitted now).2.lastSeen = hub.lastSeen.insert vtoken now ∧
        ∀ other,
          (hub.getUpdates updates admitted now).2.registry.Online other →
            hub.registry.Online other ∨ other = vtoken := by
  unfold AdminHub.getUpdates
  split
  · exact .inl rfl
  · next vtoken _ =>
    split
    · split
      · exact .inl rfl
      · refine .inr ⟨vtoken, rfl, rfl, fun other honline => ?_⟩
        split at honline
        · exact .inl honline
        · exact (online_markOnline.mp honline).imp_right And.left
    · exact .inl rfl

lemma kept_start (hub : AdminHub) (clock : Nat)
    (hempty : hub.lastSeen = ∅) : (start hub clock).Kept where
  polled hentry := by
    rw [start, hempty] at hentry
    cases hentry
  past hmem := by cases hmem

lemma Kept.step (hkept : state.Kept) (op : HealthOp) : (state.step op).Kept := by
  cases op with
  | tick secs =>
    refine ⟨hkept.polled, fun hmem => ?_⟩
    exact (hkept.past hmem).trans (Nat.le_add_right _ _)
  | register ok req draw =>
    refine ⟨fun hentry => ?_, hkept.past⟩
    rw [HealthHub.step, AdminHub.lastSeen_register] at hentry
    exact hkept.polled hentry
  | registerConfirmed ok name label draw =>
    refine ⟨fun hentry => ?_, hkept.past⟩
    rw [HealthHub.step, AdminHub.lastSeen_registerConfirmed] at hentry
    exact hkept.polled hentry
  | revoke ok name draw tie =>
    refine ⟨fun hentry => ?_, hkept.past⟩
    simp only [HealthHub.step] at hentry
    rcases state.hub.of_call_revoke name draw tie with
      ⟨old, hlastSeen, -⟩ | hsame
    · rw [hlastSeen, lookup_erase] at hentry
      split at hentry
      · cases hentry
      · exact hkept.polled hentry
    · rw [hsame] at hentry
      exact hkept.polled hentry
  | getUpdates updates admitted =>
    rcases of_getUpdates state.hub updates admitted state.clock with
      hnone | ⟨vtoken, hsome, hlastSeen, -⟩
    · have hsame : state.step (.getUpdates updates admitted) = state := by
        simp only [HealthHub.step, hnone]
        rfl
      rw [hsame]
      exact hkept
    · refine ⟨fun {own seen} hentry => ?_, fun {own time} hmem => ?_⟩
      · simp only [HealthHub.step] at hentry ⊢
        rw [hlastSeen, lookup_insert] at hentry
        rw [hsome]
        split at hentry
        · next hown =>
          cases hentry
          exact ⟨state.clock, rfl, by simp [hown]⟩
        · obtain ⟨time, rfl, hmem⟩ := hkept.polled hentry
          exact ⟨time, rfl, List.mem_append_right _ hmem⟩
      · simp only [HealthHub.step, hsome] at hmem ⊢
        rcases List.mem_append.mp hmem with hnew | hold
        · simp only [Option.map_some, Option.toList_some, List.mem_singleton, Prod.mk.injEq] at hnew
          exact hnew.2.le
        · exact hkept.past hold
  | check => exact ⟨hkept.polled, hkept.past⟩

lemma online_step_register {ok : Nat → Bool} {req : RegisterRequest}
    {draw : VtokenDraw} {vtoken : String} :
    (state.step (.register ok req draw)).hub.registry.Online vtoken ↔
      state.hub.registry.Online vtoken ∨ state.awakens (.register ok req draw) = some vtoken := by
  simp only [step, AdminHub.register, awakens]
  by_cases hdrawn : state.hub.registry.byVtoken.lookup draw.hashed = none
  · rw [dif_pos hdrawn, ClientHub.online_register]
    simp [hdrawn]
  · simp [hdrawn]

lemma safe_of_awakens {op : HealthOp} (hnone : state.awakens op = none) : state.Safe op := by
  intro vtoken hawakens
  simp [hnone] at hawakens

/-- An operation keeps the entries of the online clients exactly if it wakes no
client that has none. -/
lemma seen_step_iff (hseen : state.Seen) (op : HealthOp) :
    (state.step op).Seen ↔ state.Safe op := by
  cases op with
  | register ok req draw =>
    have hlastSeen : (state.step (.register ok req draw)).hub.lastSeen =
        state.hub.lastSeen := AdminHub.lastSeen_register req draw
    constructor
    · intro hafter vtoken hawakens
      rw [← hlastSeen]
      exact hafter vtoken (online_step_register.mpr (.inr hawakens))
    · intro hsafe vtoken honline
      rw [hlastSeen]
      rcases online_step_register.mp honline with hold | hawakens
      · exact hseen vtoken hold
      · exact hsafe vtoken hawakens
  | tick secs => exact iff_of_true hseen (safe_of_awakens rfl)
  | registerConfirmed ok name label draw =>
    refine iff_of_true (fun vtoken honline => ?_) (safe_of_awakens rfl)
    simp only [step] at honline ⊢
    rw [AdminHub.online_registerConfirmed] at honline
    rw [AdminHub.lastSeen_registerConfirmed]
    exact hseen vtoken honline
  | revoke ok name draw tie =>
    refine iff_of_true (fun vtoken honline => ?_) (safe_of_awakens rfl)
    simp only [step] at honline ⊢
    rcases AdminHub.of_call_revoke name draw tie with
      ⟨old, hlastSeen, hiff⟩ | hsame
    · obtain ⟨hold, hne⟩ := (hiff vtoken).mp honline
      rw [hlastSeen, lookup_erase, if_neg hne]
      exact hseen vtoken hold
    · rw [hsame] at honline ⊢
      exact hseen vtoken honline
  | getUpdates updates admitted =>
    refine iff_of_true (fun vtoken honline => ?_) (safe_of_awakens rfl)
    simp only [step] at honline ⊢
    rcases of_getUpdates state.hub updates admitted state.clock with
      hnone | ⟨own, -, hlastSeen, hiff⟩
    · rw [hnone] at honline ⊢
      exact hseen vtoken honline
    · rw [hlastSeen, lookup_insert]
      split
      · rfl
      · next hne =>
        exact hseen vtoken ((hiff vtoken honline).resolve_right hne)
  | check =>
    refine iff_of_true (fun vtoken honline => ?_) (safe_of_awakens rfl)
    exact hseen vtoken (online_check.mp honline).1

/-- In every state that is reached a pass, whenever it is run, leaves only
clients online that have polled recently: this is so exactly if no name is
registered again whose client has not polled under its token. -/
theorem silent_offline_iff {hub : AdminHub} (hempty : hub.lastSeen = ∅)
    (hoffline : ∀ vtoken, ¬ hub.registry.Online vtoken) (clock : Nat) (ops : List HealthOp) :
    Throughout step Checked (start hub clock) ops ↔
      EveryStep step Safe (start hub clock) ops := by
  have hstep : ∀ (state : HealthHub) (op : HealthOp),
      state.Kept → (state.step op).Kept := fun _ op hkept => hkept.step op
  apply throughout_iff_of_step hstep
  · intro state op hkept hchecked
    rw [checked_iff_seen (hkept.step op)]
    exact seen_step_iff ((checked_iff_seen hkept).mp hchecked) op
  · exact kept_start hub clock hempty
  · rw [checked_iff_seen (kept_start hub clock hempty)]
    exact fun vtoken honline => absurd honline (hoffline vtoken)

end HealthHub

def Sample.quietHub : AdminHub where
  toClientHub := .new
  queue := .withLimit 10
  lastSeen := ∅

lemma Sample.offline_quietHub (vtoken : String) : ¬ quietHub.registry.Online vtoken := by
  rintro ⟨client, hclient, -⟩
  cases hclient

/-- A name is registered twice, and its client never polls. -/
def Sample.silentOps : List HealthOp :=
  [.register (fun _ => true) { name := "bot" } ⟨"1", "h1"⟩,
    .register (fun _ => true) { name := "bot" } ⟨"2", "h2"⟩,
    .tick 1000, .check]

theorem HealthHub.silent_offline_iff_silentOps :
    quietHub.lastSeen = ∅ ∧
      Throughout step Checked (start quietHub 0) (silentOps.eraseIdx 1) := by
  refine ⟨rfl, (silent_offline_iff rfl offline_quietHub 0 _).mpr ⟨?_, ?_, ?_, trivial⟩⟩
  · exact safe_of_awakens (by decide +kernel)
  · exact safe_of_awakens rfl
  · exact safe_of_awakens rfl

/-- After the pass the client is online, though it has never polled. -/
theorem HealthHub.silent_client_online :
    ((run step (start quietHub 0) silentOps).hub.registry.byVtoken.lookup "h1").map
          online = some true ∧
      (run step (start quietHub 0) silentOps).polls = [] ∧
      ¬ (run step (start quietHub 0) silentOps).Recent := by
  have honline : ((run step (start quietHub 0) silentOps).hub.registry.byVtoken.lookup "h1").map
        online = some true := by decide +kernel
  have hpolls : (run step (start quietHub 0) silentOps).polls = [] := rfl
  refine ⟨honline, hpolls, fun hrecent => ?_⟩
  obtain ⟨seen, hmem, -⟩ := hrecent "h1" (Option.map_eq_some_iff.mp honline)
  cases hmem

end IlinkHub
