/-
The connections of hubs to the relay (`handle_hub_socket` of `relay/server.rs`),
each stopping wherever another one may go on, and whom the relay takes for the
owner of a device over any run of them.
-/
import Mathlib
import IlinkHub.RelayReplay

namespace IlinkHub

open Function Transition

def maxRegisteredHubs : Nat :=
  1024

/-- Where a connection stands.  A `Register` message goes through the capacity
check, the steps of `accept_registration` and the entry into `hubs`; meanwhile
the socket is not read.  `closed` keeps the error that was answered. -/
inductive HubSocket where
  | reading
  | capacity (register : Register)
  | verifying (register : Register)
  | evicting (register : Register) (key : List UInt8)
  | checking (register : Register) (key : List UInt8)
  | marking (register : Register) (key : List UInt8)
  | binding (register : Register) (key : List UInt8)
  | entering (register : Register) (key : List UInt8)
  | serving (deviceId : String)
  | leaving (deviceId : String)
  | closed (error : Option String)
deriving DecidableEq

namespace HubSocket

/-- One step of a connection that has work to do. -/
def advance (ed : Ed25519) (connId now : Nat) (relay : RelayState) :
    HubSocket → RelayState × HubSocket
  | .capacity register =>
    if relay.hubs.lookup register.deviceId = none ∧
        maxRegisteredHubs ≤ relay.hubs.entries.length then
      (relay, .closed (some "relay at capacity (1024 Hubs); retry later"))
    else (relay, .verifying register)
  | .verifying register =>
    match register.check ed now with
    | .error reason => (relay, .closed (some reason))
    | .ok key => (relay, .evicting register key)
  | .evicting register key =>
    ({ relay with
       usedRegisterNonces := ReplayCache.evict registerMaxSkew now relay.usedRegisterNonces },
      .checking register key)
  | .checking register key =>
    if (relay.usedRegisterNonces.lookup register.nonce).isSome then
      (relay, .closed (some "registration nonce already used; replay detected"))
    else (relay, .marking register key)
  | .marking register key =>
    ({ relay with
       usedRegisterNonces :=
         relay.usedRegisterNonces.insert register.nonce now },
      .binding register key)
  | .binding register key =>
    let bound := bindKey register.deviceId key relay.deviceKeys
    match bound.1 with
    | .error reason =>
      ({ relay with deviceKeys := bound.2 }, .closed (some reason))
    | .ok () =>
      ({ relay with deviceKeys := bound.2 }, .entering register key)
  | .entering register _ =>
    ({ relay with hubs := relay.hubs.insert register.deviceId connId }, .serving register.deviceId)
  | .leaving deviceId =>
    -- A newer connection of the device keeps its entry.
    if relay.hubs.lookup deviceId = some connId then
      ({ relay with hubs := relay.hubs.erase deviceId }, .closed none)
    else (relay, .closed none)
  | .reading => (relay, .reading)
  | .serving deviceId => (relay, .serving deviceId)
  | .closed error => (relay, .closed error)

/-- A second registration on the same connection is ignored. -/
def receive (register : Register) : HubSocket → HubSocket
  | .reading => .capacity register
  | socket => socket

/-- The deadline, an error or the end of the stream. -/
def hangup : HubSocket → HubSocket
  | .reading => .closed none
  | .serving deviceId => .leaving deviceId
  | socket => socket

end HubSocket

/-- A registration that `accept_registration` accepted. -/
structure Accepted where
  connId : Nat
  register : Register
  key : List UInt8
deriving DecidableEq

/-- `accepted` is the history; the process does not keep it. -/
structure RelayHub where
  relay : RelayState
  nextConnId : Nat
  sockets : Nat → HubSocket
  accepted : List Accepted

inductive RelayEvent where
  | connect
  | receive (connId : Nat) (register : Register)
  | advance (connId now : Nat)
  | hangup (connId : Nat)
deriving DecidableEq

/-- The registration that is accepted by this step of a connection. -/
def acceptedBy (connId : Nat) : HubSocket → HubSocket → List Accepted
  | .binding register key, .entering _ _ => [⟨connId, register, key⟩]
  | _, _ => []

namespace RelayHub

def new : RelayHub :=
  ⟨.new, 1, fun _ => .closed none, []⟩

def setSocket (hub : RelayHub) (connId : Nat) (socket : HubSocket) : RelayHub :=
  { hub with sockets := update hub.sockets connId socket }

def advance (ed : Ed25519) (hub : RelayHub) (connId now : Nat) : RelayHub :=
  let socket := hub.sockets connId
  let next := socket.advance ed connId now hub.relay
  { hub with
    relay := next.1
    sockets := update hub.sockets connId next.2
    accepted := acceptedBy connId socket next.2 ++ hub.accepted }

def step (ed : Ed25519) (hub : RelayHub) : RelayEvent → RelayHub
  | .connect =>
    { hub.setSocket hub.nextConnId .reading with
      nextConnId := hub.nextConnId + 1 }
  | .receive connId register =>
    hub.setSocket connId ((hub.sockets connId).receive register)
  | .advance connId now => hub.advance ed connId now
  | .hangup connId => hub.setSocket connId (hub.sockets connId).hangup

/-- Once a registration was accepted under a key, all of this device were
verified under it, and so was the one that the socket in `hubs` belongs to. -/
def TrustsFirstUse (ed : Ed25519) (hub : RelayHub) : Prop :=
  ∀ first ∈ hub.accepted, (∀ other ∈ hub.accepted,
      other.register.deviceId = first.register.deviceId → other.key = first.key ∧
          other.register.VerifiedUnder ed first.key) ∧
    ∀ connId, hub.relay.hubs.lookup first.register.deviceId = some connId →
      ∃ other ∈ hub.accepted, other.connId = connId ∧ other.register.deviceId =
        first.register.deviceId ∧ other.register.VerifiedUnder ed first.key

/-- What a connection knows about the registration that it works on. -/
def Vouched (ed : Ed25519) (accepted : List Accepted) (connId : Nat) :
    HubSocket → Prop
  | .evicting register key | .checking register key | .marking register key
  | .binding register key => register.VerifiedUnder ed key
  | .entering register key => ⟨connId, register, key⟩ ∈ accepted
  | .reading | .capacity _ | .verifying _ | .serving _ | .leaving _
  | .closed _ => True

/-- The invariant: the bound key of a device is the key of all its
registrations. -/
structure Trusted (ed : Ed25519) (hub : RelayHub) : Prop where
  verified : ∀ own ∈ hub.accepted, own.register.VerifiedUnder ed own.key
  bound : ∀ own ∈ hub.accepted, hub.relay.deviceKeys.lookup own.register.deviceId = some own.key
  hubs : ∀ deviceId connId, hub.relay.hubs.lookup deviceId = some connId →
    ∃ own ∈ hub.accepted, own.connId = connId ∧ own.register.deviceId = deviceId
  sockets : ∀ connId, Vouched ed hub.accepted connId (hub.sockets connId)

variable {ed : Ed25519} {hub : RelayHub} {connId : Nat}

lemma trusted_new : Trusted ed new where
  verified own hown := absurd hown List.not_mem_nil
  bound own hown := absurd hown List.not_mem_nil
  hubs deviceId connId hlookup := by cases hlookup
  sockets _ := trivial

variable {accepted : List Accepted} {socket : HubSocket} {next : RelayState × HubSocket}

lemma Vouched.mono {others : List Accepted} (hvouched : Vouched ed accepted connId socket)
    (hsub : ∀ own ∈ accepted, own ∈ others) : Vouched ed others connId socket := by
  cases socket with
  | entering register key => exact hsub _ hvouched
  | _ => trivial

lemma Vouched.receive (hvouched : Vouched ed accepted connId socket) (register : Register) :
    Vouched ed accepted connId (socket.receive register) := by
  cases socket with
  | _ => exact hvouched

lemma Vouched.hangup (hvouched : Vouched ed accepted connId socket) :
    Vouched ed accepted connId socket.hangup := by
  cases socket with
  | _ => exact hvouched

lemma Trusted.setSocket (htrusted : Trusted ed hub)
    (hvouched : Vouched ed hub.accepted connId socket) :
    Trusted ed (hub.setSocket connId socket) where
  verified := htrusted.verified
  bound := htrusted.bound
  hubs := htrusted.hubs
  sockets other := by
    by_cases hother : other = connId
    · subst hother
      simp only [RelayHub.setSocket, update_self]
      exact hvouched
    · simp only [RelayHub.setSocket, update_of_ne hother]
      exact htrusted.sockets other

/-- What has to be shown of a step of one connection: how it changes the keys and
the handles, and that it vouches for where it goes. -/
structure Advances (ed : Ed25519) (hub : RelayHub) (connId : Nat)
    (next : RelayState × HubSocket) (records : List Accepted) : Prop where
  verified : ∀ own ∈ records, own.register.VerifiedUnder ed own.key
  kept : ∀ deviceId key, hub.relay.deviceKeys.lookup deviceId = some key →
    next.1.deviceKeys.lookup deviceId = some key
  bound : ∀ own ∈ records, next.1.deviceKeys.lookup own.register.deviceId = some own.key
  hubs : ∀ deviceId holder, next.1.hubs.lookup deviceId = some holder →
    hub.relay.hubs.lookup deviceId = some holder ∨ ∃ own ∈ hub.accepted, own.connId = holder ∧
        own.register.deviceId = deviceId
  socket : Vouched ed (records ++ hub.accepted) connId next.2

lemma advances_of_none (hkept : ∀ deviceId key, hub.relay.deviceKeys.lookup deviceId = some key →
      next.1.deviceKeys.lookup deviceId = some key)
    (hhubs : ∀ deviceId holder, next.1.hubs.lookup deviceId = some holder →
      hub.relay.hubs.lookup deviceId = some holder ∨ ∃ own ∈ hub.accepted, own.connId = holder ∧
          own.register.deviceId = deviceId) (hvouched : Vouched ed hub.accepted connId next.2) :
    Advances ed hub connId next [] where
  verified _ hown := absurd hown List.not_mem_nil
  kept := hkept
  bound _ hown := absurd hown List.not_mem_nil
  hubs := hhubs
  socket := hvouched

lemma advances_of_same
    (hkeys : next.1.deviceKeys = hub.relay.deviceKeys) (hhubs : next.1.hubs = hub.relay.hubs)
    (hvouched : Vouched ed hub.accepted connId next.2) : Advances ed hub connId next [] := by
  apply advances_of_none ?_ ?_ hvouched
  · intro deviceId key hlookup
    rw [hkeys, hlookup]
  · intro deviceId holder hlookup
    rw [hhubs] at hlookup
    exact .inl hlookup

lemma advances_binding {register : Register} {key : List UInt8}
    (hverified : register.VerifiedUnder ed key) (now : Nat) :
    Advances ed hub connId ((HubSocket.binding register key).advance ed connId now hub.relay)
      (acceptedBy connId (.binding register key)
        ((HubSocket.binding register key).advance ed connId now hub.relay).2) := by
  simp only [HubSocket.advance]
  cases hbound : (bindKey register.deviceId key hub.relay.deviceKeys).1 with
  | error reason =>
    apply advances_of_none
    · exact fun _ _ hown => bindKey_keeps hown
    · exact fun _ _ hown => .inl hown
    · trivial
  | ok _ =>
    exact {
      verified := by
        intro own hown
        obtain rfl := List.mem_singleton.mp hown
        exact hverified
      kept := fun _ _ hown => bindKey_keeps hown
      bound := by
        intro own hown
        obtain rfl := List.mem_singleton.mp hown
        exact bindKey_binds hbound
      hubs := fun _ _ hown => .inl hown
      socket := List.mem_cons_self }

/-- A connection writes its own handle only, after it was accepted. -/
lemma advances_entering {register : Register} {key : List UInt8}
    (hvouched : Vouched ed hub.accepted connId (.entering register key)) (now : Nat) :
    Advances ed hub connId ((HubSocket.entering register key).advance ed connId now hub.relay)
      [] := by
  apply advances_of_none
  · exact fun _ _ hown => hown
  · intro deviceId holder hholder
    simp only [HubSocket.advance, Query.lookup_insert] at hholder
    split at hholder
    · next hdevice =>
      cases hholder
      exact .inr ⟨_, hvouched, rfl, hdevice.symm⟩
    · exact .inl hholder
  · trivial

lemma advances_leaving (deviceId : String) (now : Nat) :
    Advances ed hub connId ((HubSocket.leaving deviceId).advance ed connId now hub.relay) [] := by
  simp only [HubSocket.advance]
  split
  · apply advances_of_none
    · exact fun _ _ hown => hown
    · intro device holder hholder
      rw [Query.lookup_erase] at hholder
      split at hholder
      · cases hholder
      · exact .inl hholder
    · trivial
  · exact advances_of_same rfl rfl trivial

lemma advances_of_vouched (hvouched : Vouched ed hub.accepted connId socket) (now : Nat) :
    Advances ed hub connId (socket.advance ed connId now hub.relay) (acceptedBy connId socket
        (socket.advance ed connId now hub.relay).2) := by
  cases socket with
  | capacity register =>
    simp only [HubSocket.advance]
    split <;> exact advances_of_same rfl rfl trivial
  | verifying register =>
    simp only [HubSocket.advance]
    split
    · exact advances_of_same rfl rfl trivial
    · next key hcheck =>
      exact advances_of_same rfl rfl (Register.verifiedUnder_of_check hcheck)
  | checking register key =>
    simp only [HubSocket.advance]
    split
    · exact advances_of_same rfl rfl trivial
    · exact advances_of_same rfl rfl hvouched
  | evicting register key | marking register key =>
    exact advances_of_same rfl rfl hvouched
  | binding register key => exact advances_binding hvouched now
  | entering register key => exact advances_entering hvouched now
  | leaving deviceId => exact advances_leaving deviceId now
  | _ => exact advances_of_same rfl rfl trivial

lemma Trusted.advance (htrusted : Trusted ed hub) (connId now : Nat) :
    Trusted ed (hub.advance ed connId now) := by
  have hstep := advances_of_vouched (htrusted.sockets connId) now
  have hmem : ∀ own ∈ hub.accepted, own ∈ (hub.advance ed connId now).accepted :=
    fun own hown => List.mem_append_right _ hown
  exact {
    verified := by
      intro own hown
      rcases List.mem_append.mp hown with hnew | hold
      · exact hstep.verified own hnew
      · exact htrusted.verified own hold
    bound := by
      intro own hown
      rcases List.mem_append.mp hown with hnew | hold
      · exact hstep.bound own hnew
      · exact hstep.kept _ _ (htrusted.bound own hold)
    hubs := by
      intro deviceId holder hholder
      have hsome : ∃ own ∈ hub.accepted, own.connId = holder ∧
          own.register.deviceId = deviceId := by
        rcases hstep.hubs deviceId holder hholder with hold | hown
        · exact htrusted.hubs deviceId holder hold
        · exact hown
      obtain ⟨own, hown, hwhose⟩ := hsome
      exact ⟨own, hmem own hown, hwhose⟩
    sockets := by
      intro other
      by_cases hother : other = connId
      · subst hother
        simp only [RelayHub.advance, update_self]
        exact hstep.socket
      · simp only [RelayHub.advance, update_of_ne hother]
        exact (htrusted.sockets other).mono hmem }

lemma Trusted.step (htrusted : Trusted ed hub) (event : RelayEvent) :
    Trusted ed (hub.step ed event) := by
  cases event with
  | connect =>
    have hsocket : Trusted ed (hub.setSocket hub.nextConnId .reading) :=
      htrusted.setSocket trivial
    exact ⟨hsocket.verified, hsocket.bound, hsocket.hubs, hsocket.sockets⟩
  | receive connId register =>
    exact htrusted.setSocket ((htrusted.sockets connId).receive register)
  | advance connId now => exact htrusted.advance connId now
  | hangup connId => exact htrusted.setSocket (htrusted.sockets connId).hangup

lemma trustsFirstUse_of_trusted (htrusted : Trusted ed hub) : hub.TrustsFirstUse ed := by
  intro first hfirst
  have hsame : ∀ other ∈ hub.accepted,
      other.register.deviceId = first.register.deviceId → other.key = first.key ∧
          other.register.VerifiedUnder ed first.key := by
    intro other hother hdevice
    have hbound := htrusted.bound other hother
    rw [hdevice, htrusted.bound first hfirst] at hbound
    have hkey := (Option.some.inj hbound).symm
    exact ⟨hkey, hkey ▸ htrusted.verified other hother⟩
  refine ⟨hsame, ?_⟩
  intro connId hholder
  obtain ⟨other, hother, hconn, hdevice⟩ := htrusted.hubs _ _ hholder
  exact ⟨other, hother, hconn, hdevice, (hsame other hother hdevice).2⟩

/-- Trust on first use, over every run of the relay. -/
theorem trustsFirstUse_run (ed : Ed25519) (events : List RelayEvent) :
    (run (step ed) new events).TrustsFirstUse ed := by
  have hstep : ∀ (hub : RelayHub) (event : RelayEvent), Trusted ed hub →
      Trusted ed (hub.step ed event) :=
    fun _ event htrusted => htrusted.step event
  exact trustsFirstUse_of_trusted (run_invariant hstep trusted_new events)

end RelayHub

section Signatures

/-- A decimal holds no colon, so that the last one ends the device id. -/
lemma colon_notMem_repr (n : Int) : ':' ∉ n.repr.toList := by
  have hdigits : ∀ n : Nat, ':' ∉ n.repr.toList := by
    intro n hcolon
    rw [Nat.toList_repr] at hcolon
    exact absurd (Nat.isDigit_of_mem_toDigits (by decide) (by decide) hcolon) (by decide)
  cases n with
  | ofNat n => exact hdigits n
  | negSucc n => simpa [Int.repr] using hdigits n.succ

lemma registerPayload_inj {id other : String} {timestamp time : Int64}
    (heq : registerPayload id timestamp = registerPayload other time) :
    id = other ∧ timestamp = time := by
  have hown := colon_notMem_repr timestamp.toInt
  have hother := colon_notMem_repr time.toInt
  have hlist : id.toList ++ ':' :: timestamp.toInt.repr.toList =
      other.toList ++ ':' :: time.toInt.repr.toList := by
    simpa [registerPayload, toString, String.append_assoc] using congrArg String.toList heq
  rw [← String.toList_inj, ← Int64.toInt_inj, ← Int.repr_inj, ← String.toList_inj]
  obtain ⟨rest, hid, htail⟩ | ⟨rest, hid, htail⟩ := List.append_eq_append_iff.mp hlist
  all_goals
    cases rest with
    | nil => simp_all
    | cons => simp_all

variable {ed : Ed25519} {key : List UInt8} {signed : List (String × Int64)}

/-- A signature is good for the device and the timestamp that it was made for, and for
nothing else. -/
theorem RelayHub.accepted_signed (hunforged : ∀ payload bytes, ed.verify key payload bytes = true →
      ∃ pair ∈ signed, payload = registerPayload pair.1 pair.2) (events : List RelayEvent) :
    let hub := run (step ed) new events
    ∀ own ∈ hub.accepted, own.key = key → own.register.nonce ∈ signed ∧
      ∀ connId, hub.relay.hubs.lookup own.register.deviceId = some connId →
        ∃ other ∈ hub.accepted, other.connId = connId ∧
          other.register.deviceId = own.register.deviceId ∧ other.register.nonce ∈ signed := by
  intro hub own hown hkey
  have hsigned : ∀ register : Register, register.VerifiedUnder ed key →
      register.nonce ∈ signed := by
    rintro register ⟨bytes, -, hverify⟩
    obtain ⟨pair, hpair, hpayload⟩ := hunforged _ _ hverify
    obtain ⟨hid, htime⟩ := registerPayload_inj hpayload
    rwa [Register.nonce, hid, htime]
  have htrusted : Trusted ed hub :=
    run_invariant (fun _ event h => h.step event) trusted_new events
  obtain ⟨hsame, hholder⟩ := trustsFirstUse_of_trusted htrusted own hown
  rw [hkey] at hsame hholder
  refine ⟨hsigned _ (hsame own hown rfl).2, ?_⟩
  intro connId hlookup
  obtain ⟨other, hother, hconn, hdevice, hverified⟩ := hholder connId hlookup
  exact ⟨other, hother, hconn, hdevice, hsigned _ hverified⟩

/-- The owner of the device is served, and a connection that signs with another key is
closed. -/
theorem RelayHub.accepted_signed_owner :
    let hub := run (step Sample.ed) new
      ([.connect, .connect, .receive 1 Sample.ownRegister] ++
        List.replicate 7 (.advance 1 (secs 40)) ++
        .receive 2 Sample.foreignRegister :: List.replicate 7 (.advance 2 (secs 100)))
    hub.relay.hubs.lookup "device-1" = some 1 ∧
      hub.sockets 2 = .closed (some "device_id already bound to another key") ∧
      ∃ own ∈ hub.accepted, own.connId = 1 ∧ own.register.nonce = ("device-1", 100) := by
  intro hub
  have hunforged : ∀ payload bytes, Sample.ed.verify (.replicate 32 1) payload bytes = true →
      ∃ pair ∈ [("device-1", (100 : Int64))], payload = registerPayload pair.1 pair.2 := by
    intro payload bytes hverify
    exact ⟨_, List.mem_singleton_self _, eq_of_beq (Bool.and_eq_true_iff.mp hverify).1⟩
  have hlookup : hub.relay.hubs.lookup "device-1" = some 1 := by decide +kernel
  obtain ⟨own, hown, hconn, -, hnonce⟩ := (accepted_signed hunforged _
    ⟨1, Sample.ownRegister, .replicate 32 1⟩ (by decide +kernel) rfl).2 1 hlookup
  exact ⟨hlookup, by decide +kernel, own, hown, hconn, List.mem_singleton.mp hnonce⟩

end Signatures

section Alone

variable (ed : Ed25519) (connId now : Nat)

/-- Steps of a connection with no other in between. -/
def HubSocket.alone : Nat → RelayState × HubSocket → RelayState × HubSocket
  | 0, next => next
  | n + 1, next => alone n (next.2.advance ed connId now next.1)

lemma RelayHub.run_advance (hub : RelayHub) (n : Nat) :
    let after := run (.step ed) hub (List.replicate n (.advance connId now))
    (after.relay, after.sockets connId) =
      HubSocket.alone ed connId now n (hub.relay, hub.sockets connId) := by
  induction n generalizing hub with
  | zero => rfl
  | succ n ih =>
    have hnext := ih (hub.advance ed connId now)
    simp only [advance, update_self] at hnext
    exact hnext

end Alone

end IlinkHub
