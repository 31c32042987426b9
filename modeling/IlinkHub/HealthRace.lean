/-
Polls and passes of the health check in any interleaving of their steps
(`server/routes/bot.rs`, `hub/health.rs`): a pass collects the stale tokens one by
one and marks them later, a poll reads the mark before it records the time.
Whether a client that polls is shown online.
-/
import IlinkHub.HealthCheck
import IlinkHub.HubRuns

namespace IlinkHub

open Sample Function KeyedRegistry Transition

universe u

/-- A pass that has not marked its clients yet. -/
structure CheckPass where
  threshold : Int
  stale : List String
deriving Repr, DecidableEq

/-- A request that is dropped has finished. -/
structure HealthState (τ : Type u) where
  data : HubData
  clock : Nat
  phases : τ → UpdatesPhase
  pass : Option CheckPass

/-- Time passes, a poll runs to its next step or is dropped, a pass begins,
inspects an entry, or marks what it has collected and ends. -/
inductive HealthEvent (τ : Type u) where
  | tick (secs : Nat)
  | poll (t : τ) (admitted : Bool)
  | drop (t : τ)
  | beginPass
  | inspect (vtoken : String)
  | endPass

/-- The entry is added to what the pass has collected if it is stale. -/
def CheckPass.inspect (pass : CheckPass)
    (lastSeen : AList fun _ : String => Int) (vtoken : String) : CheckPass :=
  match lastSeen.lookup vtoken with
  | some seen =>
    if seen < pass.threshold then { pass with stale := vtoken :: pass.stale }
    else pass
  | none => pass

/-- Every registered client with a recent entry is marked online. -/
def HubData.ShowsPolling (data : HubData) (clock : Nat) : Prop :=
  ∀ vtoken seen, data.registry.Registered vtoken → data.lastSeen.lookup vtoken = some seen →
    (clock : Int) ≤ seen + offlineThresholdSecs → data.registry.Online vtoken

/-- The recorded times are unsigned. -/
def HubData.Unsigned (data : HubData) : Prop :=
  ∀ vtoken seen, data.lastSeen.lookup vtoken = some seen → 0 ≤ seen

/-- Between reading the mark and setting it. -/
def UpdatesPhase.marks : UpdatesPhase → Bool
  | .seen _ _ | .markOnline _ => true
  | .enter | .wait _ | .poll _ | .finished => false

/-- The client that the poll has found offline and is going to mark. -/
def UpdatesPhase.toMark : UpdatesPhase → Option String
  | .seen vtoken false | .markOnline vtoken => some vtoken
  | .seen _ true | .enter | .wait _ | .poll _ | .finished => none

lemma UpdatesPhase.toMark_of_marks {phase : UpdatesPhase}
    (hmarks : phase.marks = false) : phase.toMark = none := by
  cases phase with
  | seen _ _ | markOnline _ => cases hmarks
  | _ => rfl

namespace KeyedRegistry

variable {registry : KeyedRegistry} {vtoken own : String}

lemma registered_markOnline :
    (registry.markOnline own).Registered vtoken ↔ registry.Registered vtoken := by
  rw [markOnline, registered_adjust]

lemma registered_foldl_markOffline {tokens : List String} :
    (tokens.foldl markOffline registry).Registered vtoken ↔
      registry.Registered vtoken := by
  induction tokens generalizing registry with
  | nil => rfl
  | cons first rest ih =>
    rw [List.foldl_cons, ih, markOffline, registered_adjust]

end KeyedRegistry

/-- The mark that a poll has read. -/
lemma GetUpdates.of_next_enter {updates : GetUpdates} {data : HubData}
    {env : HubEnv} {vtoken : String} {alreadyOnline : Bool}
    (hnext : updates.next data env .enter = .seen vtoken alreadyOnline) :
    ∃ client, data.registry.byVtoken.lookup vtoken = some client ∧
      client.online = alreadyOnline := by
  simp only [next] at hnext
  split at hnext
  · cases hnext
  · split at hnext
    · split at hnext
      · cases hnext
      · next client hclient =>
        obtain ⟨rfl, rfl⟩ := UpdatesPhase.seen.inj hnext
        exact ⟨client, hclient, rfl⟩
    · cases hnext

/-- A step of a poll outside of its marking part changes neither map. -/
lemma GetUpdates.maps_of_marks {updates : GetUpdates} {data : HubData}
    {env : HubEnv} {phase : UpdatesPhase} (hmarks : phase.marks = false) :
    (updates.dataAfter data env phase).registry = data.registry ∧
      (updates.dataAfter data env phase).lastSeen = data.lastSeen := by
  cases phase with
  | seen _ _ | markOnline _ => cases hmarks
  | _ => exact ⟨rfl, rfl⟩

namespace HealthState

variable {τ : Type u}

def start (data : HubData) (clock : Nat) : HealthState τ where
  data := data
  clock := clock
  phases := fun _ => .enter
  pass := none

def env (state : HealthState τ) (admitted : Bool) : HubEnv :=
  { now := state.clock, admitted := admitted }

def step [DecidableEq τ] (updates : τ → GetUpdates) (state : HealthState τ) :
    HealthEvent τ → HealthState τ
  | .tick secs => { state with clock := state.clock + secs }
  | .poll t admitted =>
    { state with
      data := (updates t).dataAfter state.data (state.env admitted) (state.phases t)
      phases := update state.phases t ((updates t).next state.data (state.env admitted)
          (state.phases t)) }
  | .drop t =>
    { state with phases := update state.phases t .finished }
  | .beginPass =>
    { state with
      pass := state.pass.or (some ⟨staleThreshold state.clock, []⟩) }
  | .inspect vtoken =>
    { state with
      pass := state.pass.map fun pass =>
        pass.inspect state.data.lastSeen vtoken }
  | .endPass =>
    match state.pass with
    | some pass =>
      { state with
        data := { state.data with
          registry := pass.stale.foldl markOffline state.data.registry }
        pass := none }
    | none => state

variable (state : HealthState τ)

/-- No pass is under way, and no poll is between reading the mark and setting
it. -/
def Quiet : Prop :=
  state.pass = none ∧ ∀ t, (state.phases t).marks = false

/-- Some poll is going to mark the client online. -/
def Pending (vtoken : String) : Prop :=
  ∃ t, (state.phases t).toMark = some vtoken

/-- A pass marks a client only while no poll relies on its mark, and while its
entry is as old as it was or a poll is going to mark it; no poll is dropped that
is going to mark a client. -/
def Undisturbed : HealthEvent τ → Prop
  | .endPass =>
    ∀ pass ∈ state.pass, ∀ vtoken ∈ pass.stale, (∀ t, state.phases t ≠ .seen vtoken true) ∧
      ((∀ seen ∈ state.data.lastSeen.lookup vtoken, seen < pass.threshold) ∨ state.Pending vtoken)
  | .drop t => (state.phases t).toMark = none
  | .tick _ | .poll _ _ | .beginPass | .inspect _ => True

instance [Fintype τ] (event : HealthEvent τ) : Decidable (state.Undisturbed event) := by
  cases event <;> dsimp only [Undisturbed, Pending] <;> infer_instance

/-- What the interleavings keep: a client that is offline has an old entry or is
about to be marked, a poll that has found its client online is right, and the
threshold of a pass is not later than the one of now. -/
structure Tracked : Prop where
  offline : ∀ {vtoken}, state.data.registry.Registered vtoken →
    ¬ state.data.registry.Online vtoken →
    (∀ seen, state.data.lastSeen.lookup vtoken = some seen →
      seen + offlineThresholdSecs < state.clock) ∨ state.Pending vtoken
  online : ∀ {t vtoken}, state.phases t = .seen vtoken true → state.data.registry.Registered
    vtoken → state.data.registry.Online vtoken
  threshold : ∀ {pass}, state.pass = some pass → pass.threshold ≤ staleThreshold state.clock
  unsigned : state.data.Unsigned

variable {state}

lemma Tracked.showsPolling (htracked : state.Tracked)
    (hquiet : state.Quiet) : state.data.ShowsPolling state.clock := by
  intro vtoken seen hregistered hseen hrecent
  by_contra hoffline
  rcases htracked.offline hregistered hoffline with hold | ⟨t, hpends⟩
  · have hlt := hold seen hseen
    omega
  · simp [UpdatesPhase.toMark_of_marks (hquiet.2 t)] at hpends

lemma tracked_start {data : HubData} {clock : Nat} (hunsigned : data.Unsigned)
    (hstart : data.ShowsPolling clock) : (start data clock : HealthState τ).Tracked where
  offline hregistered hoffline := by
    left
    intro seen hseen
    by_contra hrecent
    exact hoffline (hstart _ seen hregistered hseen (not_lt.mp hrecent))
  online hphase := by cases hphase
  threshold hpass := by cases hpass
  unsigned := hunsigned

lemma Tracked.tick [DecidableEq τ] {updates : τ → GetUpdates} (htracked : state.Tracked)
    (secs : Nat) : (state.step updates (.tick secs)).Tracked where
  offline hregistered hoffline := by
    refine (htracked.offline hregistered hoffline).imp_left fun hold => ?_
    intro seen hseen
    have hlt := hold seen hseen
    simp only [step]
    omega
  online hphase hregistered := htracked.online hphase hregistered
  threshold hpass := by
    have hle := htracked.threshold hpass
    simp only [step, staleThreshold] at hle ⊢
    omega
  unsigned := htracked.unsigned

section Poll
variable [DecidableEq τ] {updates : τ → GetUpdates} {t : τ} {admitted : Bool}

lemma pending_update {vtoken : String} {next : UpdatesPhase} (hpending : state.Pending vtoken)
    (hnext : (state.phases t).toMark = some vtoken → next.toMark = some vtoken) :
    ∃ s, (update state.phases t next s).toMark = some vtoken := by
  obtain ⟨s, hs⟩ := hpending
  by_cases hst : s = t
  · subst hst
    refine ⟨s, ?_⟩
    rw [update_self]
    exact hnext hs
  · refine ⟨s, ?_⟩
    rw [update_of_ne hst]
    exact hs

lemma Tracked.poll_of_marks (htracked : state.Tracked) (hmarks : (state.phases t).marks = false)
    (hnext : ∀ vtoken, (updates t).next state.data (state.env admitted)
        (state.phases t) = .seen vtoken true →
      state.data.registry.Online vtoken) : (state.step updates (.poll t admitted)).Tracked := by
  obtain ⟨hregistry, hlastSeen⟩ := @GetUpdates.maps_of_marks (updates t)
    state.data (state.env admitted) _ hmarks
  constructor
  · intro vtoken hregistered hoffline
    simp only [step, hregistry] at hregistered hoffline
    simp only [step, hlastSeen]
    refine (htracked.offline hregistered hoffline).imp_right fun hpending => ?_
    refine pending_update hpending fun hpends => ?_
    simp [UpdatesPhase.toMark_of_marks hmarks] at hpends
  · intro s vtoken hphase hregistered
    simp only [step, hregistry] at hphase hregistered ⊢
    by_cases hst : s = t
    · subst hst
      rw [update_self] at hphase
      exact hnext vtoken hphase
    · rw [update_of_ne hst] at hphase
      exact htracked.online hphase hregistered
  · exact htracked.threshold
  · intro vtoken seen hseen
    simp only [step, hlastSeen] at hseen
    exact htracked.unsigned vtoken seen hseen

/-- The time is recorded: the client is online, or the poll goes on to mark
it. -/
lemma Tracked.poll_seen (htracked : state.Tracked) {own : String}
    {alreadyOnline : Bool} (hphase : state.phases t = .seen own alreadyOnline) :
    (state.step updates (.poll t admitted)).Tracked := by
  have hstep : state.step updates (.poll t admitted) = { state with
        data := { state.data with
          lastSeen := state.data.lastSeen.insert own state.clock }
        phases := update state.phases t
          (if alreadyOnline then .wait own else .markOnline own) } := by
    simp only [step, hphase]
    rfl
  rw [hstep]
  constructor
  · intro vtoken hregistered hoffline
    by_cases hown : vtoken = own
    · subst hown
      right
      cases alreadyOnline with
      | true => exact absurd (htracked.online hphase hregistered) hoffline
      | false =>
        refine ⟨t, ?_⟩
        simp only [update_self]
        rfl
    · rcases htracked.offline hregistered hoffline with hold | hpending
      · left
        intro seen hseen
        rw [Query.lookup_insert, if_neg hown] at hseen
        exact hold seen hseen
      · right
        refine pending_update hpending fun hpends => ?_
        rw [hphase] at hpends
        cases alreadyOnline with
        | true => cases hpends
        | false => exact absurd (Option.some.inj hpends).symm hown
  · intro s vtoken hs hregistered
    by_cases hst : s = t
    · subst hst
      simp only [update_self] at hs
      split at hs <;> cases hs
    · simp only [update_of_ne hst] at hs
      exact htracked.online hs hregistered
  · exact htracked.threshold
  · intro vtoken seen hseen
    rw [Query.lookup_insert] at hseen
    split at hseen
    · rw [← Option.some.inj hseen]
      exact Int.natCast_nonneg _
    · exact htracked.unsigned vtoken seen hseen

lemma Tracked.poll_markOnline (htracked : state.Tracked) {own : String}
    (hphase : state.phases t = .markOnline own) :
    (state.step updates (.poll t admitted)).Tracked := by
  have hstep : state.step updates (.poll t admitted) = { state with
        data := { state.data with
          registry := state.data.registry.markOnline own }
        phases := update state.phases t (.wait own) } := by
    simp only [step, hphase]
    rfl
  rw [hstep]
  constructor
  · intro vtoken hregistered hoffline
    simp only [registered_markOnline, online_markOnline, not_or] at hregistered hoffline
    refine (htracked.offline hregistered hoffline.1).imp_right fun hpending => ?_
    refine pending_update hpending fun hpends => ?_
    rw [hphase] at hpends
    cases hpends
    exact absurd ⟨rfl, hregistered⟩ hoffline.2
  · intro s vtoken hs hregistered
    by_cases hst : s = t
    · subst hst
      simp [update_self] at hs
    · simp only [update_of_ne hst] at hs
      simp only [registered_markOnline] at hregistered
      exact online_markOnline.mpr (.inl (htracked.online hs hregistered))
  · exact htracked.threshold
  · exact htracked.unsigned

lemma Tracked.poll (htracked : state.Tracked) (t : τ) (admitted : Bool) :
    (state.step updates (.poll t admitted)).Tracked := by
  cases hphase : state.phases t with
  | seen own alreadyOnline => exact htracked.poll_seen hphase
  | markOnline own => exact htracked.poll_markOnline hphase
  | enter =>
    apply htracked.poll_of_marks
    · rw [hphase]
      rfl
    · intro vtoken hnext
      rw [hphase] at hnext
      exact GetUpdates.of_next_enter hnext
  | wait own | poll own | finished =>
    apply htracked.poll_of_marks
    · rw [hphase]
      rfl
    · intro vtoken hnext
      rw [hphase] at hnext
      cases hnext

end Poll

section Pass
variable [DecidableEq τ] {updates : τ → GetUpdates}

lemma Tracked.drop (htracked : state.Tracked) {t : τ} (hfree : (state.phases t).toMark = none) :
    (state.step updates (.drop t)).Tracked where
  offline {vtoken} hregistered hoffline := by
    refine (htracked.offline hregistered hoffline).imp_right fun hpending => ?_
    refine pending_update hpending fun hpends => ?_
    rw [hfree] at hpends
    cases hpends
  online {s vtoken} hphase hregistered := by
    simp only [step] at hphase
    by_cases hst : s = t
    · subst hst
      rw [update_self] at hphase
      cases hphase
    · rw [update_of_ne hst] at hphase
      exact htracked.online hphase hregistered
  threshold hpass := htracked.threshold hpass
  unsigned := htracked.unsigned

lemma Tracked.beginPass (htracked : state.Tracked) : (state.step updates .beginPass).Tracked where
  offline hregistered hoffline := htracked.offline hregistered hoffline
  online hphase hregistered := htracked.online hphase hregistered
  threshold {pass} hpass := by
    rcases Option.or_eq_some_iff.mp hpass with hold | ⟨-, hnew⟩
    · exact htracked.threshold hold
    · cases hnew
      exact le_rfl
  unsigned := htracked.unsigned

lemma threshold_inspect (pass : CheckPass) (lastSeen : AList fun _ => Int)
    (vtoken : String) : (pass.inspect lastSeen vtoken).threshold = pass.threshold := by
  unfold CheckPass.inspect
  split
  · split <;> rfl
  · rfl

lemma Tracked.inspect (htracked : state.Tracked) (vtoken : String) :
    (state.step updates (.inspect vtoken)).Tracked where
  offline hregistered hoffline := htracked.offline hregistered hoffline
  online hphase hregistered := htracked.online hphase hregistered
  threshold {pass} hpass := by
    obtain ⟨before, hbefore, rfl⟩ := Option.map_eq_some_iff.mp hpass
    rw [threshold_inspect]
    exact htracked.threshold hbefore
  unsigned := htracked.unsigned

/-- What a pass marks offline is old, or about to be marked online. -/
lemma Tracked.endPass (htracked : state.Tracked) (hundisturbed : state.Undisturbed .endPass) :
    (state.step updates .endPass).Tracked := by
  cases hpass : state.pass with
  | none =>
    have hsame : state.step updates .endPass = state := by
      simp [step, hpass]
    rw [hsame]
    exact htracked
  | some pass =>
    have hmarks := hundisturbed pass hpass
    have hthreshold := htracked.threshold hpass
    have hstep : state.step updates .endPass = { state with
          data := { state.data with
            registry := pass.stale.foldl markOffline state.data.registry }
          pass := none } := by
      simp [step, hpass]
    rw [hstep]
    constructor
    · intro vtoken hregistered hoffline
      simp only [registered_foldl_markOffline, online_foldl_markOffline] at hregistered hoffline
      by_cases hstale : vtoken ∈ pass.stale
      · refine (hmarks vtoken hstale).2.imp_left fun hold => ?_
        intro seen hseen
        have hlt := hold seen hseen
        have hnonneg := htracked.unsigned vtoken seen hseen
        simp only [staleThreshold] at hthreshold ⊢
        omega
      · exact htracked.offline hregistered fun honline => hoffline ⟨honline, hstale⟩
    · intro t vtoken hphase hregistered
      simp only [registered_foldl_markOffline] at hregistered
      refine online_foldl_markOffline.mpr ⟨htracked.online hphase hregistered, fun hstale => ?_⟩
      exact (hmarks vtoken hstale).1 t hphase
    · intro other hother
      cases hother
    · exact htracked.unsigned

lemma Tracked.step (htracked : state.Tracked) {event : HealthEvent τ}
    (hundisturbed : state.Undisturbed event) : (state.step updates event).Tracked := by
  cases event with
  | tick secs => exact htracked.tick secs
  | poll t admitted => exact htracked.poll t admitted
  | drop t => exact htracked.drop hundisturbed
  | beginPass => exact htracked.beginPass
  | inspect vtoken => exact htracked.inspect vtoken
  | endPass => exact htracked.endPass hundisturbed

end Pass

/-- In every quiet state a client that polls is shown online, as long as passes
and polls do not disturb each other. -/
theorem showsPolling_of_undisturbed [DecidableEq τ] (updates : τ → GetUpdates)
    {data : HubData} {clock : Nat} (hunsigned : data.Unsigned)
    (hstart : data.ShowsPolling clock) {events : List (HealthEvent τ)}
    (hevery : EveryStep (step updates) Undisturbed (start data clock) events) :
    Throughout (step updates) (fun state => state.Quiet → state.data.ShowsPolling state.clock)
      (start data clock) events := by
  have hstep : ∀ (state : HealthState τ) (event : HealthEvent τ), state.Tracked → state.Undisturbed
      event → (state.step updates event).Tracked :=
    fun _ _ htracked hundisturbed => htracked.step hundisturbed
  exact throughout_of_everyStep (fun _ htracked => htracked.showsPolling) hstep
    (tracked_start hunsigned hstart) hevery

end HealthState

namespace Sample

/-- A Hub with one client that has not polled yet. -/
def registeredHub : HubData :=
  { freshHub with
    registry := (KeyedRegistry.new.register "bot" none none "h1" rfl).2.2 }

def twoPolls : Fin 2 → GetUpdates :=
  fun _ => ⟨some "h1", {}⟩

/-- The client polls, and is silent for longer than the threshold. -/
def silentFor (secs : Nat) : List (HealthEvent (Fin 2)) :=
  [.poll 0 true, .poll 0 true, .poll 0 true, .tick secs]

/-- The pass ends before the client polls again, or after the poll has read the
mark. -/
def passFirst : List (HealthEvent (Fin 2)) :=
  silentFor 100 ++ [.beginPass, .inspect "h1", .endPass, .poll 1 true, .poll 1 true, .poll 1 true]

def passLast : List (HealthEvent (Fin 2)) :=
  silentFor 100 ++ [.beginPass, .inspect "h1", .poll 1 true, .poll 1 true, .endPass]

lemma unsigned_registeredHub : registeredHub.Unsigned := by
  intro vtoken seen hseen
  cases hseen

lemma showsPolling_registeredHub : registeredHub.ShowsPolling 0 := by
  intro vtoken seen _ hseen
  cases hseen

end Sample

theorem HealthState.showsPolling_passFirst :
    Throughout (step twoPolls) (fun state => state.Quiet → state.data.ShowsPolling state.clock)
      (start registeredHub 0) passFirst :=
  showsPolling_of_undisturbed twoPolls unsigned_registeredHub
    showsPolling_registeredHub (by decide +kernel)

/-- The poll finds its client online and records the time, and the pass then
marks the client offline: it stays so although it has just polled. -/
theorem HealthState.polling_client_offline :
    (run (step twoPolls) (start registeredHub 0) passLast).Quiet ∧
      (run (step twoPolls) (start registeredHub 0) passLast).clock = 100 ∧
      (run (step twoPolls) (start registeredHub 0) passLast).data.lastSeen.lookup "h1" = some 100 ∧
      ((run (step twoPolls) (start registeredHub 0)
        passLast).data.registry.byVtoken.lookup "h1").map ClientInfo.online = some false ∧
      ¬ (run (step twoPolls) (start registeredHub 0) passLast).data.ShowsPolling 100 := by
  have hseen : (run (step twoPolls)
      (start registeredHub 0) passLast).data.lastSeen.lookup "h1" = some 100 := by decide +kernel
  have hoffline : ((run (step twoPolls) (start registeredHub 0)
      passLast).data.registry.byVtoken.lookup "h1").map
        ClientInfo.online = some false := by decide +kernel
  refine ⟨⟨by decide +kernel, by decide +kernel⟩, by decide +kernel, hseen,
    hoffline, fun hshows => ?_⟩
  obtain ⟨client, hclient, hno⟩ := Option.map_eq_some_iff.mp hoffline
  obtain ⟨other, hother, honline⟩ := hshows "h1" 100
    (Option.isSome_of_mem hclient) hseen (by decide)
  rw [hclient] at hother
  simp [← Option.some.inj hother, hno] at honline

end IlinkHub
