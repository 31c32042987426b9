/-
How much the relay keeps.  The cap on hubs is read before a registration is
verified and is not read again when its key is bound and its handle entered, and
a bound key stays.
-/
import IlinkHub.RelayHub
import IlinkHub.Text

namespace IlinkHub

open Transition Sample AList ReplayCache Function

namespace RelayHub

variable {ed : Ed25519} {hub : RelayHub} {connId : Nat}

/-- The hubs and the bound keys are within the cap. -/
structure Capped (hub : RelayHub) : Prop where
  hubs : hub.relay.hubs.entries.length ≤ maxRegisteredHubs
  keys : hub.relay.deviceKeys.entries.length ≤ maxRegisteredHubs

/-- The devices of which a registration was accepted. -/
def devices (hub : RelayHub) : Finset String :=
  (hub.accepted.map fun own => own.register.deviceId).toFinset

/-- The devices with a bound key are those. -/
def Counted (hub : RelayHub) : Prop :=
  hub.relay.deviceKeys.keys.toFinset = hub.devices

section Cap

lemma Trusted.length_hubs_le (htrusted : Trusted ed hub) :
    hub.relay.hubs.entries.length ≤ hub.relay.deviceKeys.entries.length := by
  have hsub : hub.relay.hubs.keys ⊆ hub.relay.deviceKeys.keys := by
    intro deviceId hdevice
    rw [← mem_keys, ← lookup_isSome] at hdevice ⊢
    obtain ⟨connId, hconn⟩ := Option.isSome_iff_exists.mp hdevice
    obtain ⟨own, hown, -, rfl⟩ := htrusted.hubs deviceId connId hconn
    rw [htrusted.bound own hown]
    rfl
  have hle := (List.subperm_of_subset hub.relay.hubs.keys_nodup hsub).length_le
  rw [keys, keys, List.keys, List.keys, List.length_map, List.length_map] at hle
  exact hle

lemma capped_iff (htrusted : Trusted ed hub) (hcounted : hub.Counted) :
    hub.Capped ↔ hub.devices.card ≤ maxRegisteredHubs := by
  have hcard : hub.relay.deviceKeys.entries.length = hub.devices.card := by
    rw [← hcounted, List.toFinset_card_of_nodup hub.relay.deviceKeys.keys_nodup, keys, List.keys,
      List.length_map]
  rw [← hcard]
  exact ⟨Capped.keys, fun hkeys => ⟨htrusted.length_hubs_le.trans hkeys, hkeys⟩⟩

lemma deviceKeys_advance {socket : HubSocket} {now : Nat}
    (hnot : ∀ register key, socket ≠ .binding register key) (relay : RelayState) :
    (socket.advance ed connId now relay).1.deviceKeys = relay.deviceKeys ∧
      acceptedBy connId socket (socket.advance ed connId now relay).2 = [] := by
  cases socket with
  | binding register key => exact absurd rfl (hnot register key)
  | capacity _ | checking _ _ | leaving _ =>
    simp only [HubSocket.advance]
    split <;> exact ⟨rfl, rfl⟩
  | verifying register =>
    simp only [HubSocket.advance]
    split <;> exact ⟨rfl, rfl⟩
  | _ => exact ⟨rfl, rfl⟩

/-- A device is bound by the first of its registrations that is accepted. -/
lemma Counted.step (hcounted : hub.Counted) (event : RelayEvent) :
    (hub.step ed event).Counted := by
  cases event with
  | advance connId now =>
    unfold Counted devices at hcounted ⊢
    simp only [RelayHub.step, advance]
    by_cases hbinding : ∃ register key, hub.sockets connId = .binding register key
    · obtain ⟨register, key, hsocket⟩ := hbinding
      rw [hsocket]
      simp only [HubSocket.advance, bindKey]
      cases hlookup : hub.relay.deviceKeys.lookup register.deviceId with
      | none =>
        have hnew := lookup_eq_none.mp hlookup
        simp [acceptedBy, keys_insert, List.erase_of_not_mem hnew, ← hcounted]
      | some existing =>
        have hold : register.deviceId ∈ hub.relay.deviceKeys.keys := by
          rw [← mem_keys, ← lookup_isSome, hlookup]
          rfl
        by_cases heq : existing = key
        · simp [heq, acceptedBy, ← hcounted, hold]
        · simp [heq, acceptedBy, ← hcounted]
    · obtain ⟨hkeys, hnone⟩ := @deviceKeys_advance ed connId _ now
        (fun register key hsocket => hbinding ⟨register, key, hsocket⟩) hub.relay
      rw [hkeys, hnone, List.nil_append]
      exact hcounted
  | _ => exact hcounted

lemma devices_subset_step (event : RelayEvent) : hub.devices ⊆ (hub.step ed event).devices := by
  cases event with
  | advance connId now => simp [step, advance, devices]
  | _ => exact Finset.Subset.refl _

end Cap

section Flood

variable {now : Nat} {registers : List Register}

/-- A connection for each registration, each up to the verification. -/
def arrivals (now : Nat) : Nat → List Register → List RelayEvent
  | _, [] => []
  | connId, register :: registers =>
    [.connect, .receive connId register, .advance connId now] ++ arrivals now (connId + 1) registers

/-- The rest of every registration, one after the other. -/
def completions (now : Nat) : Nat → List Register → List RelayEvent
  | _, [] => []
  | connId, _ :: registers =>
    List.replicate 6 (.advance connId now) ++ completions now (connId + 1) registers

/-- The connections from one on wait to verify these registrations. -/
def Waiting (hub : RelayHub) (connId : Nat) (registers : List Register) : Prop :=
  ∀ i register, registers[i]? = some register → hub.sockets (connId + i) = .verifying register

lemma run_arrival (hempty : hub.relay.hubs.entries = []) (register : Register) :
    let after := run (step ed) hub [.connect,
      .receive hub.nextConnId register, .advance hub.nextConnId now]
    after.relay = hub.relay ∧ after.nextConnId = hub.nextConnId + 1 ∧ after.sockets =
        update hub.sockets hub.nextConnId (.verifying register) := by
  simp [step, setSocket, advance, HubSocket.receive, HubSocket.advance, hempty, maxRegisteredHubs]

lemma run_arrivals (registers : List Register) (hempty : hub.relay.hubs.entries = []) :
    let after := run (step ed) hub (arrivals now hub.nextConnId registers)
    after.relay = hub.relay ∧ Waiting after hub.nextConnId registers ∧
      ∀ other, other < hub.nextConnId → after.sockets other = hub.sockets other := by
  induction registers generalizing hub with
  | nil => exact ⟨rfl, by simp [Waiting], fun _ _ => rfl⟩
  | cons register registers ih =>
    obtain ⟨hrelay, hnext, hsockets⟩ :=
      @run_arrival ed hub now hempty register
    have hrest := @ih _ (by rw [hrelay]; exact hempty)
    simp only [arrivals, run_append]
    rw [hnext, hrelay, hsockets] at hrest
    obtain ⟨hsame, hwaiting, hothers⟩ := hrest
    refine ⟨hsame, ?_, ?_⟩
    · intro i own hown
      cases i with
      | zero =>
        cases hown
        exact (hothers hub.nextConnId (Nat.lt_succ_self _)).trans (update_self _ _ _)
      | succ i =>
        rw [← add_assoc, Nat.add_right_comm]
        exact hwaiting i own hown
    · intro other hother
      rw [hothers other (Nat.lt_succ_of_lt hother), update_of_ne hother.ne]

lemma sockets_run_advance (n : Nat) {other : Nat} (hother : other ≠ connId) :
    (run (step ed) hub (List.replicate n (.advance connId now))).sockets other =
        hub.sockets other := by
  induction n generalizing hub with
  | zero => rfl
  | succ n ih =>
    rw [List.replicate_succ, run_cons, ih]
    exact update_of_ne hother _ _

lemma run_completion {register : Register} {key : List UInt8}
    (hsocket : hub.sockets connId = .verifying register) (hcheck : register.check ed now = .ok key)
    (hkey : hub.relay.deviceKeys.lookup register.deviceId = none)
    (hnonce : hub.relay.usedRegisterNonces.lookup register.nonce = none) :
    (run (step ed) hub (List.replicate 6 (.advance connId now))).relay =
      ⟨hub.relay.hubs.insert register.deviceId connId,
        hub.relay.deviceKeys.insert register.deviceId key,
        (evict registerMaxSkew now hub.relay.usedRegisterNonces).insert register.nonce now⟩ := by
  have hnot : (evict registerMaxSkew now
      hub.relay.usedRegisterNonces).lookup register.nonce = none := by
    rw [evict, Query.lookup_retain, hnonce]
    rfl
  have hrun := congrArg Prod.fst (run_advance ed connId now hub 6)
  rw [hsocket] at hrun
  refine hrun.trans ?_
  simp [HubSocket.alone, HubSocket.advance, hcheck, hnot, bindKey, hkey]

/-- Nothing is known yet of the device that registers. -/
structure Unknown (relay : RelayState) (register : Register) : Prop where
  hub : relay.hubs.lookup register.deviceId = none
  key : relay.deviceKeys.lookup register.deviceId = none
  nonce : relay.usedRegisterNonces.lookup register.nonce = none

/-- No cap holds the registrations back that wait to be verified. -/
lemma run_completions (hwaiting : hub.Waiting connId registers)
    (hdistinct : (registers.map Register.deviceId).Nodup)
    (hcheck : ∀ register ∈ registers, ∃ key, register.check ed now = .ok key)
    (hunknown : ∀ register ∈ registers, Unknown hub.relay register) :
    let after := run (step ed) hub (completions now connId registers)
    after.relay.hubs.entries.length = hub.relay.hubs.entries.length + registers.length ∧
      after.relay.deviceKeys.entries.length =
        hub.relay.deviceKeys.entries.length + registers.length := by
  induction registers generalizing hub connId with
  | nil => exact ⟨rfl, rfl⟩
  | cons register registers ih =>
    rw [List.map_cons, List.nodup_cons] at hdistinct
    obtain ⟨hnew, hothers⟩ := hdistinct
    obtain ⟨⟨key, hkey⟩, hchecks⟩ := List.forall_mem_cons.mp hcheck
    obtain ⟨hfirst, hrest⟩ := List.forall_mem_cons.mp hunknown
    have hrelay := run_completion (hwaiting 0 register rfl) hkey hfirst.key hfirst.nonce
    have hnext := @ih (run (step ed) hub (List.replicate 6 (.advance connId now))) (connId + 1) (by
        intro i own hown
        rw [sockets_run_advance 6 (by omega), Nat.add_right_comm]
        exact hwaiting (i + 1) own hown)
      hothers hchecks
      (by
        intro own hown
        have hne : own.deviceId ≠ register.deviceId := fun heq =>
          hnew (heq ▸ List.mem_map_of_mem hown)
        have hnonce : own.nonce ≠ register.nonce := fun heq =>
          hne (congrArg Prod.fst heq)
        rw [add_zero] at hrelay
        rw [hrelay]
        refine ⟨?_, ?_, ?_⟩
        · rw [Query.lookup_insert, if_neg hne, (hrest own hown).hub]
        · rw [Query.lookup_insert, if_neg hne, (hrest own hown).key]
        · rw [Query.lookup_insert, if_neg hnonce, evict,
            Query.lookup_retain, (hrest own hown).nonce]
          rfl)
    rw [add_zero] at hrelay
    simp only [completions, run_append]
    rw [hrelay] at hnext
    simp only [entries_insert_of_notMem (lookup_eq_none.mp hfirst.hub), entries_insert_of_notMem
      (lookup_eq_none.mp hfirst.key), List.length_cons] at hnext ⊢
    omega

/-- Registrations that arrive together are all registered, however many. -/
lemma run_flood (hdistinct : (registers.map Register.deviceId).Nodup)
    (hcheck : ∀ register ∈ registers, ∃ key, register.check ed now = .ok key) :
    (run (step ed) new (arrivals now 1 registers ++
        completions now 1 registers)).relay.hubs.entries.length = registers.length ∧
      (run (step ed) new (arrivals now 1 registers ++
        completions now 1 registers)).relay.deviceKeys.entries.length = registers.length := by
  obtain ⟨hrelay, hwaiting, -⟩ := @run_arrivals ed new now registers rfl
  have hall := run_completions hwaiting hdistinct hcheck (by
    intro register _
    rw [hrelay]
    exact ⟨rfl, rfl, rfl⟩)
  rw [hrelay, ← run_append] at hall
  obtain ⟨hhubs, hkeys⟩ := hall
  exact ⟨hhubs.trans (Nat.zero_add _), hkeys.trans (zero_add _)⟩

end Flood

end RelayHub

namespace Sample

/-- A key that signs for any device. -/
def ownerOfAll : Ed25519 where
  decode text :=
    if text = "key" then some (List.replicate 32 1)
    else if text = "signed" then some (List.replicate 64 1)
    else none
  isPoint _ := true
  verify key _ signature := key.head? == signature.head?

def registerOf (n : Nat) : Register :=
  ⟨String.ofList (Text.fixedDigits 8 n), "key", 100, "signed"⟩

lemma check_registerOf (n : Nat) :
    (registerOf n).check ownerOfAll (secs 100) = .ok (List.replicate 32 1) := by
  have hkey : verifyingKeyFromB64 ownerOfAll "key" = .ok (List.replicate 32 1) := by decide
  have hverify := @Register.verifyRegister_eq_ok_iff ownerOfAll
    (List.replicate 32 1) (registerOf n).deviceId 100 "signed" 100
  refine Register.check_eq_ok_iff.mpr ⟨?_, hkey, hverify.mpr
    ⟨by decide, List.replicate 64 1, by decide, by decide, rfl⟩⟩
  have hsize : (registerOf n).deviceId.utf8ByteSize = 8 :=
    Text.utf8ByteSize_fixedDigits 8 n
  rw [validateDeviceId, if_neg (by omega), List.all_eq_true]
  intro c hc
  rw [registerOf, String.toList_ofList] at hc
  simp [Char.isAlphanum, Text.isDigit_of_mem_fixedDigits hc]

lemma nodup_registerOf {n : Nat} (hn : n ≤ 100000000) :
    (((List.range n).map registerOf).map Register.deviceId).Nodup := by
  rw [List.map_map]
  refine List.Nodup.map_on ?_ List.nodup_range
  intro i hi j hj heq
  rw [List.mem_range] at hi hj
  exact Text.fixedDigits_inj (by omega) (by omega) (String.ofList_injective heq)

/-- One registration more than the cap, all of them at once. -/
def race : List RelayEvent :=
  RelayHub.arrivals (secs 100) 1 ((List.range 1025).map registerOf) ++
    RelayHub.completions (secs 100) 1 ((List.range 1025).map registerOf)

end Sample

end IlinkHub
