/-
Whose handle is in `hubs`.  Over every interleaving of registrations,
disconnections and clean-ups it is that of the connection that entered the device
last, until this connection itself has cleaned up.
-/
import IlinkHub.History
import IlinkHub.RelayHub

namespace IlinkHub

open Function HubSocket History Transition

/-- The connection has entered the device and has not cleaned up. -/
def HubSocket.Holds (deviceId : String) (socket : HubSocket) : Prop :=
  socket = .serving deviceId ∨ socket = .leaving deviceId

/-- The clean-up is done, or there was nothing to clean up. -/
def HubSocket.Gone (socket : HubSocket) : Prop :=
  ∃ error, socket = .closed error

lemma HubSocket.Gone.not_holds {socket : HubSocket} {deviceId : String}
    (hgone : socket.Gone) : ¬ socket.Holds deviceId := by
  obtain ⟨error, rfl⟩ := hgone
  rintro (heq | heq) <;> cases heq

namespace RelayHub

/-- The entry into `hubs` that an event makes. -/
def entry (hub : RelayHub) : RelayEvent → Option (String × Nat)
  | .advance connId _ =>
    match hub.sockets connId with
    | .entering register _ => some (register.deviceId, connId)
    | .reading | .capacity _ | .verifying _ | .evicting _ _
    | .checking _ _ | .marking _ _ | .binding _ _ | .serving _
    | .leaving _ | .closed _ => none
  | .connect | .receive _ _ | .hangup _ => none

/-- A step, with the entry that it makes. -/
def enter (ed : Ed25519) (hub : RelayHub) (event : RelayEvent) : Option (String × Nat) × RelayHub :=
  (hub.entry event, hub.step ed event)

/-- The relay, and its entries so far, the last one first. -/
abbrev WithEntries :=
  History.Recorded RelayHub RelayEvent (Option (String × Nat))

/-- The connection that entered a device last. -/
def latest (deviceId : String) :
    List (RelayEvent × Option (String × Nat)) → Option Nat
  | [] => none
  | (_, some (own, connId)) :: earlier =>
    if own = deviceId then some connId else latest deviceId earlier
  | (_, none) :: earlier => latest deviceId earlier

lemma mem_of_latest {deviceId : String} {connId : Nat}
    {log : List (RelayEvent × Option (String × Nat))}
    (hlatest : latest deviceId log = some connId) :
    ∃ event, (event, some (deviceId, connId)) ∈ log := by
  induction log with
  | nil => cases hlatest
  | cons record earlier ih =>
    obtain ⟨event, made⟩ := record
    cases made with
    | none =>
      obtain ⟨other, hother⟩ := ih hlatest
      exact ⟨other, List.mem_cons_of_mem _ hother⟩
    | some own =>
      rw [latest] at hlatest
      split at hlatest
      · next heq =>
        subst heq
        cases hlatest
        exact ⟨event, List.mem_cons_self⟩
      · obtain ⟨other, hother⟩ := ih hlatest
        exact ⟨other, List.mem_cons_of_mem _ hother⟩

/-- The invariant: a device is mapped to the connection that entered it last, as
long as that one holds it. -/
structure Current (recorded : WithEntries) : Prop where
  fresh : ∀ connId, recorded.state.nextConnId ≤ connId → (recorded.state.sockets connId).Gone
  entered : ∀ event deviceId connId,
    (event, some (deviceId, connId)) ∈ recorded.log → connId < recorded.state.nextConnId ∧
        ((recorded.state.sockets connId).Holds deviceId ∨ (recorded.state.sockets connId).Gone)
  holder : ∀ deviceId connId,
    recorded.state.relay.hubs.lookup deviceId = some connId ↔
      latest deviceId recorded.log = some connId ∧ (recorded.state.sockets connId).Holds deviceId

section Steps

variable {ed : Ed25519} {hub next : RelayHub} {connId : Nat}
  {event : RelayEvent} {log : List (RelayEvent × Option (String × Nat))}

/-- A step that makes no entry, by what it does to the connections that hold a
device or are gone. -/
lemma Current.of_holder (hcurrent : Current ⟨hub, log⟩) (hnext : next.nextConnId = hub.nextConnId)
    (hstays : ∀ other, (hub.sockets other).Gone → (next.sockets other).Gone)
    (hkeeps : ∀ other deviceId, (hub.sockets other).Holds deviceId →
      (next.sockets other).Holds deviceId ∨ (next.sockets other).Gone) (hholder : ∀ deviceId other,
      next.relay.hubs.lookup deviceId = some other ↔ latest deviceId log = some other ∧
          (next.sockets other).Holds deviceId) : Current ⟨next, (event, none) :: log⟩ where
  fresh := by
    intro other hother
    rw [hnext] at hother
    exact hstays other (hcurrent.fresh other hother)
  entered := by
    intro own deviceId other hmem
    rcases List.mem_cons.mp hmem with heq | hold
    · cases heq
    · obtain ⟨hless, hwhere⟩ := hcurrent.entered own deviceId other hold
      rw [hnext]
      refine ⟨hless, ?_⟩
      rcases hwhere with hholds | hgone
      · exact hkeeps other deviceId hholds
      · exact Or.inr (hstays other hgone)
  holder := hholder

lemma Current.of_same (hcurrent : Current ⟨hub, log⟩) {socket : HubSocket}
    (hhubs : next.relay.hubs = hub.relay.hubs) (hnext : next.nextConnId = hub.nextConnId)
    (hsockets : next.sockets = update hub.sockets connId socket)
    (hholds : ∀ deviceId, socket.Holds deviceId ↔ (hub.sockets connId).Holds deviceId)
    (hgone : (hub.sockets connId).Gone → socket.Gone) : Current ⟨next, (event, none) :: log⟩ := by
  have hsame : ∀ other deviceId,
      (next.sockets other).Holds deviceId ↔ (hub.sockets other).Holds deviceId := by
    intro other deviceId
    rw [hsockets]
    by_cases hother : other = connId
    · subst hother
      rw [update_self]
      exact hholds deviceId
    · rw [update_of_ne hother]
  have hstays : ∀ other, (hub.sockets other).Gone → (next.sockets other).Gone := by
    intro other hother
    rw [hsockets]
    by_cases heq : other = connId
    · subst heq
      rw [update_self]
      exact hgone hother
    · rw [update_of_ne heq]
      exact hother
  apply hcurrent.of_holder hnext hstays
  · intro other deviceId hheld
    exact .inl ((hsame other deviceId).mpr hheld)
  · intro deviceId other
    rw [hhubs, hsame]
    exact hcurrent.holder deviceId other

lemma Current.connect (hcurrent : Current ⟨hub, log⟩) :
    Current (record (enter ed) ⟨hub, log⟩ .connect) := by
  have hgone := hcurrent.fresh hub.nextConnId le_rfl
  have hother : ∀ {other}, other ≠ hub.nextConnId →
      (hub.step ed .connect).sockets other = hub.sockets other :=
    fun hne => update_of_ne hne _ _
  have hnone : ∀ deviceId, ¬ ((hub.step ed .connect).sockets hub.nextConnId).Holds deviceId := by
    intro deviceId hholds
    simp [step, setSocket, Holds] at hholds
  exact {
    fresh := by
      intro other hle
      change hub.nextConnId + 1 ≤ other at hle
      change ((hub.step ed .connect).sockets other).Gone
      rw [hother (by omega)]
      exact hcurrent.fresh other (by simp only; omega)
    entered := by
      intro own deviceId other hmem
      rcases List.mem_cons.mp hmem with heq | hold
      · cases heq
      · obtain ⟨hless, hwhere⟩ := hcurrent.entered own deviceId other hold
        refine ⟨Nat.lt_succ_of_lt hless, ?_⟩
        change ((hub.step ed .connect).sockets other).Holds deviceId ∨
          ((hub.step ed .connect).sockets other).Gone
        rw [hother hless.ne]
        exact hwhere
    holder := by
      intro deviceId other
      refine (hcurrent.holder deviceId other).trans (and_congr_right fun _ => ?_)
      by_cases hnew : other = hub.nextConnId
      · subst hnew
        exact iff_of_false hgone.not_holds (hnone deviceId)
      · exact Eq.to_iff (congrArg _ (hother hnew).symm) }

variable {deviceId : String}

lemma holds_serving_iff {own : String} : (serving own).Holds deviceId ↔ own = deviceId := by
  simp [Holds]

lemma holds_leaving_iff {own : String} : (leaving own).Holds deviceId ↔ own = deviceId := by
  simp [Holds]

lemma advance_same {socket : HubSocket}
    (hentering : ∀ register key, socket ≠ .entering register key)
    (hleaving : ∀ deviceId, socket ≠ .leaving deviceId) (now : Nat) (relay : RelayState) :
    (socket.advance ed connId now relay).1.hubs = relay.hubs ∧
      (∀ deviceId, (socket.advance ed connId now relay).2.Holds deviceId ↔ socket.Holds deviceId) ∧
      (socket.Gone → (socket.advance ed connId now relay).2.Gone) := by
  cases socket with
  | entering register key => exact absurd rfl (hentering register key)
  | leaving deviceId => exact absurd rfl (hleaving deviceId)
  | reading | serving _ | closed _ => exact ⟨rfl, fun _ => .rfl, id⟩
  | evicting _ _ | marking _ _ =>
    simp [HubSocket.advance, Holds, Gone]
  | _ =>
    simp only [HubSocket.advance]
    split <;> simp [Holds, Gone]

/-- Whoever enters a device is the last one to have entered it. -/
lemma Current.entering (hcurrent : Current ⟨hub, log⟩) {register : Register}
    {key : List UInt8} (hsocket : hub.sockets connId = .entering register key)
    (hhubs : next.relay.hubs = hub.relay.hubs.insert register.deviceId connId)
    (hnext : next.nextConnId = hub.nextConnId)
    (hsockets : next.sockets = update hub.sockets connId (.serving register.deviceId)) :
    Current ⟨next, (event, some (register.deviceId, connId)) :: log⟩ := by
  have hless : connId < hub.nextConnId := by
    by_contra hle
    obtain ⟨error, hgone⟩ := hcurrent.fresh connId (not_lt.mp hle)
    cases hsocket.symm.trans hgone
  have hown : next.sockets connId = .serving register.deviceId := by
    rw [hsockets, update_self]
  have hother : ∀ {other}, other ≠ connId → next.sockets other = hub.sockets other := by
    intro other hne
    rw [hsockets, update_of_ne hne]
  have hnot : ∀ deviceId, ¬ (hub.sockets connId).Holds deviceId := by
    simp [hsocket, Holds]
  exact {
    fresh := by
      intro other hle
      rw [hnext] at hle
      rw [hother (by omega)]
      exact hcurrent.fresh other hle
    entered := by
      intro own deviceId other hmem
      rw [hnext]
      by_cases hself : other = connId
      · subst hself
        refine ⟨hless, .inl ?_⟩
        rcases List.mem_cons.mp hmem with heq | hold
        · obtain ⟨rfl, -⟩ := Prod.mk.inj (Option.some.inj (Prod.mk.inj heq).2)
          rw [hown, holds_serving_iff]
        · obtain ⟨-, hholds | ⟨error, hgone⟩⟩ :=
            hcurrent.entered own deviceId other hold
          · exact absurd hholds (hnot deviceId)
          · cases hsocket.symm.trans hgone
      · rcases List.mem_cons.mp hmem with heq | hold
        · exact absurd (Prod.mk.inj (Option.some.inj (Prod.mk.inj heq).2)).2 hself
        · rw [hother hself]
          exact hcurrent.entered own deviceId other hold
    holder := by
      intro deviceId other
      rw [hhubs, Query.lookup_insert, latest]
      by_cases hdevice : deviceId = register.deviceId
      · rw [if_pos hdevice, if_pos hdevice.symm, iff_self_and]
        intro heq
        cases heq
        rw [hown, holds_serving_iff]
        exact hdevice.symm
      · rw [if_neg hdevice, if_neg (Ne.symm hdevice)]
        refine (hcurrent.holder deviceId other).trans (and_congr_right fun _ => ?_)
        by_cases hself : other = connId
        · subst hself
          rw [hown, holds_serving_iff]
          exact iff_of_false (hnot deviceId) (Ne.symm hdevice)
        · rw [hother hself] }

lemma lookup_cleaned {hubs : AList fun _ => Nat} (device : String) :
    (if hubs.lookup deviceId = some connId then hubs.erase deviceId
      else hubs).lookup device =
      if device = deviceId ∧ hubs.lookup deviceId = some connId then none
      else hubs.lookup device := by
  by_cases hheld : hubs.lookup deviceId = some connId
  · simp [hheld, Query.lookup_erase]
  · simp [hheld]

/-- The clean-up of a connection that has been replaced leaves the entry
alone. -/
lemma Current.leaving (hcurrent : Current ⟨hub, log⟩)
    (hsocket : hub.sockets connId = .leaving deviceId) (hhubs : next.relay.hubs =
      if hub.relay.hubs.lookup deviceId = some connId then
        hub.relay.hubs.erase deviceId
      else hub.relay.hubs) (hnext : next.nextConnId = hub.nextConnId)
    (hsockets : next.sockets = update hub.sockets connId (.closed none)) :
    Current ⟨next, (event, none) :: log⟩ := by
  have hown : next.sockets connId = .closed none := by
    rw [hsockets, update_self]
  have hother : ∀ {other}, other ≠ connId → next.sockets other = hub.sockets other := by
    intro other hne
    rw [hsockets, update_of_ne hne]
  have hgone : (next.sockets connId).Gone := ⟨none, hown⟩
  apply hcurrent.of_holder hnext
  · intro other hold
    by_cases hself : other = connId
    · rw [hself]
      exact hgone
    · rw [hother hself]
      exact hold
  · intro other device hholds
    by_cases hself : other = connId
    · rw [hself]
      exact .inr hgone
    · rw [hother hself]
      exact .inl hholds
  · intro device other
    have hholder := hcurrent.holder device other
    rw [hhubs, lookup_cleaned]
    by_cases hself : other = connId
    · subst hself
      refine iff_of_false ?_ fun hboth => hgone.not_holds hboth.2
      split
      · exact (Option.some_ne_none other).symm
      · next hnot =>
        intro hheld
        have hholds := (hholder.mp hheld).2
        rw [hsocket, holds_leaving_iff] at hholds
        subst hholds
        exact hnot ⟨rfl, hheld⟩
    · rw [hother hself]
      split
      · next hheld =>
        obtain ⟨rfl, hconn⟩ := hheld
        refine iff_of_false (Option.some_ne_none other).symm fun hboth => hself ?_
        exact Option.some.inj ((hholder.mpr hboth).symm.trans hconn)
      · exact hholder

lemma Current.advance (hcurrent : Current ⟨hub, log⟩) (connId now : Nat) :
    Current (record (enter ed) ⟨hub, log⟩ (.advance connId now)) := by
  have hrecord : record (enter ed) ⟨hub, log⟩ (.advance connId now) = ⟨hub.advance ed connId now,
        (.advance connId now, hub.entry (.advance connId now)) :: log⟩ := rfl
  rw [hrecord]
  by_cases hentering : ∃ register key, hub.sockets connId = .entering register key
  · obtain ⟨register, key, hsocket⟩ := hentering
    have hentry : hub.entry (.advance connId now) = some (register.deviceId, connId) := by
      simp [entry, hsocket]
    rw [hentry]
    apply hcurrent.entering hsocket
    · simp [RelayHub.advance, hsocket, HubSocket.advance]
    · rfl
    · simp [RelayHub.advance, hsocket, HubSocket.advance]
  · have hentry : hub.entry (.advance connId now) = none := by
      cases hsocket : hub.sockets connId with
      | entering register key => exact absurd ⟨register, key, hsocket⟩ hentering
      | _ => simp [entry, hsocket]
    rw [hentry]
    by_cases hleaving : ∃ deviceId, hub.sockets connId = .leaving deviceId
    · obtain ⟨deviceId, hsocket⟩ := hleaving
      apply hcurrent.leaving hsocket
      · simp only [RelayHub.advance, hsocket, HubSocket.advance]
        split <;> rfl
      · rfl
      · simp only [RelayHub.advance, hsocket, HubSocket.advance]
        split <;> rfl
    · obtain ⟨hhubs, hholds, hgone⟩ := @advance_same ed connId (hub.sockets connId)
        (fun register key heq => hentering ⟨register, key, heq⟩)
        (fun deviceId heq => hleaving ⟨deviceId, heq⟩) now hub.relay
      exact hcurrent.of_same hhubs rfl rfl hholds hgone

lemma Current.step {recorded : WithEntries} (hcurrent : Current recorded) (event : RelayEvent) :
    Current (record (enter ed) recorded event) := by
  cases event with
  | connect => exact hcurrent.connect
  | advance connId now => exact hcurrent.advance connId now
  | receive connId register =>
    refine @.of_same recorded.state _ connId _ recorded.log hcurrent
      _ rfl rfl rfl ?_ ?_
    · cases recorded.state.sockets connId <;>
        simp [receive, Holds]
    · cases recorded.state.sockets connId <;>
        simp [receive, Gone]
  | hangup connId =>
    refine @.of_same recorded.state _ connId _ recorded.log hcurrent
      _ rfl rfl rfl ?_ ?_
    · cases recorded.state.sockets connId <;>
        simp [hangup, Holds]
    · cases recorded.state.sockets connId <;>
        simp [hangup, Gone]

lemma current_run (ed : Ed25519) (events : List RelayEvent) :
    Current (run (record (enter ed)) (start new) events) := by
  refine run_invariant (fun _ event hcurrent => hcurrent.step event) ?_ events
  exact {
    fresh := fun _ _ => ⟨none, rfl⟩
    entered := fun _ _ _ hmem => absurd hmem List.not_mem_nil
    holder := fun _ connId => iff_of_false (Option.some_ne_none connId).symm
      fun hboth => absurd hboth.1.symm (Option.some_ne_none connId) }

/-- A stale clean-up evicts nobody, and the last clean-up leaves nothing
behind. -/
theorem lookup_hubs_run (ed : Ed25519) (events : List RelayEvent) (deviceId : String) :
    let recorded := run (record (enter ed)) (start new) events
    recorded.state = run (step ed) new events ∧
      (∀ connId, latest deviceId recorded.log = some connId →
        ¬ (recorded.state.sockets connId).Gone →
          recorded.state.relay.hubs.lookup deviceId = some connId) ∧
      ((∀ event connId, (event, some (deviceId, connId)) ∈ recorded.log →
        (recorded.state.sockets connId).Gone) →
          recorded.state.relay.hubs.lookup deviceId = none) := by
  intro recorded
  have hcurrent := current_run ed events
  refine ⟨state_run_record _ _ events, ?_, ?_⟩
  · intro connId hlatest hnot
    obtain ⟨event, hmem⟩ := mem_of_latest hlatest
    obtain ⟨-, hholds | hgone⟩ := hcurrent.entered event deviceId connId hmem
    · exact (hcurrent.holder deviceId connId).mpr ⟨hlatest, hholds⟩
    · exact absurd hgone hnot
  · intro hall
    rw [Option.eq_none_iff_forall_ne_some]
    intro connId hlookup
    obtain ⟨hlatest, hholds⟩ := (hcurrent.holder deviceId connId).mp hlookup
    obtain ⟨event, hmem⟩ := mem_of_latest hlatest
    exact (hall event connId hmem).not_holds hholds

end Steps

end RelayHub

end IlinkHub
