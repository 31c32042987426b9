/-
Registration at the pairing relay (`relay/auth.rs`, `relay/device.rs` and
`accept_registration` of `relay/server.rs`).  Times of the server are counted in
nanoseconds since the epoch, and one registration reads the clock once.  The
difference of two `i64` wraps around, as it does in a release build.
-/
import IlinkHub.Pairing
import IlinkHub.ReplayCache
import IlinkHub.Transition

namespace IlinkHub

open ReplayCache

/-- What the relay takes from libraries: base64, the decoding of a point and the
verification of a signature, a fixed predicate on key, payload and signature. -/
structure Ed25519 where
  decode : String → Option (List UInt8)
  isPoint : List UInt8 → Bool
  verify : List UInt8 → String → List UInt8 → Bool

/-- The `Register` message. -/
structure Register where
  deviceId : String
  publicKey : String
  timestamp : Int64
  signature : String
deriving DecidableEq

/-- The maps of the relay; a handle in `hubs` goes by the id of its
connection. -/
structure RelayState where
  hubs : AList fun _ : String => Nat
  deviceKeys : AList fun _ : String => List UInt8
  usedRegisterNonces : AList fun _ : String × Int64 => Nat

/-- The relay before its first connection. -/
def RelayState.new : RelayState :=
  ⟨∅, ∅, ∅⟩

def registerMaxSkewSecs : Nat :=
  60

def registerMaxSkew : Nat :=
  secs registerMaxSkewSecs

def unixNow (now : Nat) : Int64 :=
  Int64.ofNat (now / secs 1)

def validateDeviceId (id : String) : Bool :=
  if id.utf8ByteSize < 8 ∨ 64 < id.utf8ByteSize then false
  else id.toList.all fun c => c.isAlphanum || c == '-'

def registerPayload (deviceId : String) (timestamp : Int64) : String :=
  "register:" ++ deviceId ++ ":" ++ toString timestamp

/-- The check of the timestamp. -/
def outOfRange (nowUnix timestamp : Int64) : Bool :=
  decide (Int64.ofNat registerMaxSkewSecs < (nowUnix - timestamp).abs)

section Checks

variable (ed : Ed25519)

def verifyingKeyFromB64 (publicKey : String) : Except String (List UInt8) :=
  match ed.decode publicKey with
  | none => .error "invalid public_key encoding"
  | some bytes =>
    if bytes.length ≠ 32 then .error "public_key must be 32 bytes"
    else if ed.isPoint bytes then .ok bytes
    else .error "invalid public_key"

def verifyRegister (key : List UInt8) (deviceId : String) (timestamp : Int64)
    (signature : String) (nowUnix : Int64) : Except String Unit :=
  if outOfRange nowUnix timestamp then
    .error "registration timestamp out of range"
  else
    match ed.decode signature with
    | none => .error "invalid signature encoding"
    | some bytes =>
      if bytes.length ≠ 64 then .error "invalid signature length"
      else if ed.verify key (registerPayload deviceId timestamp) bytes then
        .ok ()
      else .error "invalid registration signature"

end Checks

namespace Register

variable (ed : Ed25519) (register : Register)

/-- What is remembered of a registration. -/
def nonce : String × Int64 :=
  (register.deviceId, register.timestamp)

/-- The checks that read no map.  They answer with the key. -/
def check (now : Nat) : Except String (List UInt8) :=
  if validateDeviceId register.deviceId = false then .error "invalid device_id"
  else
    match verifyingKeyFromB64 ed register.publicKey with
    | .error reason => .error reason
    | .ok key =>
      match verifyRegister ed key register.deviceId register.timestamp
          register.signature (unixNow now) with
      | .error reason => .error reason
      | .ok () => .ok key

/-- The signature of the message is one of the key. -/
def VerifiedUnder (key : List UInt8) : Prop :=
  ∃ bytes, ed.decode register.signature = some bytes ∧
    ed.verify key (registerPayload register.deviceId register.timestamp) bytes = true

variable {ed register}

variable {key : List UInt8} {now : Nat}

lemma check_eq_ok_iff :
    register.check ed now = .ok key ↔ validateDeviceId register.deviceId = true ∧
        verifyingKeyFromB64 ed register.publicKey = .ok key ∧
        verifyRegister ed key register.deviceId register.timestamp
          register.signature (unixNow now) = .ok () := by
  unfold check
  split
  · next hid => simp [hid]
  · next hid =>
    cases hkey : verifyingKeyFromB64 ed register.publicKey with
    | error reason => simp
    | ok own =>
      cases hverify : verifyRegister ed own register.deviceId
          register.timestamp register.signature (unixNow now) with
      | error reason =>
        simp only [hverify, hid, true_and, Except.ok.injEq, reduceCtorEq, false_iff, not_and]
        rintro rfl
        simp [hverify]
      | ok _ =>
        simp only [hverify, hid, true_and, Except.ok.injEq, iff_self_and]
        rintro rfl
        exact hverify

lemma verifyRegister_eq_ok_iff {deviceId : String}
    {timestamp : Int64} {signature : String} {nowUnix : Int64} :
    verifyRegister ed key deviceId timestamp signature nowUnix = .ok () ↔
      outOfRange nowUnix timestamp = false ∧
        ∃ bytes, ed.decode signature = some bytes ∧ bytes.length = 64 ∧
          ed.verify key (registerPayload deviceId timestamp) bytes = true := by
  unfold verifyRegister
  cases outOfRange nowUnix timestamp with
  | true => simp
  | false =>
    cases ed.decode signature with
    | none => simp
    | some bytes =>
      by_cases hlength : bytes.length = 64
      · simp [hlength]
      · simp [hlength]

lemma inRange_of_check (hcheck : register.check ed now = .ok key) :
    outOfRange (unixNow now) register.timestamp = false :=
  (verifyRegister_eq_ok_iff.mp (check_eq_ok_iff.mp hcheck).2.2).1

lemma verifiedUnder_of_check (hcheck : register.check ed now = .ok key) :
    register.VerifiedUnder ed key := by
  obtain ⟨-, bytes, hbytes, -, hverify⟩ :=
    verifyRegister_eq_ok_iff.mp (check_eq_ok_iff.mp hcheck).2.2
  exact ⟨bytes, hbytes, hverify⟩

/-- Only the range of the timestamp depends on the time. -/
lemma check_at_of_check {later : Nat} (hcheck : register.check ed now = .ok key)
    (hrange : outOfRange (unixNow later) register.timestamp = false) :
    register.check ed later = .ok key := by
  obtain ⟨hid, hkey, hverify⟩ := check_eq_ok_iff.mp hcheck
  refine check_eq_ok_iff.mpr ⟨hid, hkey, verifyRegister_eq_ok_iff.mpr ?_⟩
  exact ⟨hrange, (verifyRegister_eq_ok_iff.mp hverify).2⟩

end Register

/-- The first key of a device is kept, and no other is let in after it. -/
def bindKey (deviceId : String) (key : List UInt8) (keys : AList fun _ : String => List UInt8) :
    Except String Unit × AList fun _ : String => List UInt8 :=
  match keys.lookup deviceId with
  | some existing =>
    if existing ≠ key then
      (.error "device_id already bound to another key", keys)
    else (.ok (), keys)
  | none => (.ok (), keys.insert deviceId key)

/-- The timestamp is marked as used before the key is compared with the bound
one. -/
def acceptRegistration (ed : Ed25519) (now : Nat) (register : Register)
    (state : RelayState) : Except String Unit × RelayState :=
  match register.check ed now with
  | .error reason => (.error reason, state)
  | .ok key =>
    let offered := offer registerMaxSkew now register.nonce state.usedRegisterNonces
    if offered.1 = false then
      (.error "registration nonce already used; replay detected",
        { state with usedRegisterNonces := offered.2 })
    else
      let bound := bindKey register.deviceId key state.deviceKeys
      (bound.1, { state with
          usedRegisterNonces := offered.2, deviceKeys := bound.2 })

/-- The registration is accepted. -/
def Accepts (ed : Ed25519) (now : Nat) (register : Register) (state : RelayState) : Prop :=
  (acceptRegistration ed now register state).1 = .ok ()
deriving Decidable

/-- The relay still knows of a use of the pair. -/
abbrev RelayState.Remembers (state : RelayState) (now : Nat)
    (nonce : String × Int64) : Prop :=
  ReplayCache.Remembers registerMaxSkew now nonce state.usedRegisterNonces

section Outcomes

variable {ed : Ed25519} {now later : Nat} {register other : Register}
  {state : RelayState} {key : List UInt8}

variable {keys : AList fun _ : String => List UInt8} {deviceId : String}

lemma bindKey_eq_ok_iff :
    (bindKey deviceId key keys).1 = .ok () ↔
      ∀ existing, keys.lookup deviceId = some existing → existing = key := by
  unfold bindKey
  cases keys.lookup deviceId with
  | none => simp
  | some existing => by_cases heq : existing = key <;> simp [heq]

/-- What stood in the map stays, and an accepted key stands in it. -/
lemma lookup_bindKey (deviceId : String) (keys : AList fun _ => List UInt8)
    (device : String) : (bindKey deviceId key keys).2.lookup device =
      if device = deviceId ∧ keys.lookup deviceId = none then some key
      else keys.lookup device := by
  unfold bindKey
  cases hlookup : keys.lookup deviceId with
  | none => simp [Query.lookup_insert]
  | some existing => by_cases heq : existing = key <;> simp [heq]

lemma bindKey_keeps {device : String} {existing : List UInt8}
    (hexisting : keys.lookup device = some existing) :
    (bindKey deviceId key keys).2.lookup device = some existing := by
  rw [lookup_bindKey, if_neg, hexisting]
  rintro ⟨rfl, hnone⟩
  simp [hnone] at hexisting

lemma bindKey_binds (hbound : (bindKey deviceId key keys).1 = .ok ()) :
    (bindKey deviceId key keys).2.lookup deviceId = some key := by
  cases hold : keys.lookup deviceId with
  | none => rw [lookup_bindKey, if_pos ⟨rfl, hold⟩]
  | some existing =>
    obtain rfl := bindKey_eq_ok_iff.mp hbound existing hold
    exact bindKey_keeps hold

lemma acceptRegistration_of_error {reason : String}
    (hcheck : register.check ed now = .error reason) :
    acceptRegistration ed now register state = (.error reason, state) := by
  simp [acceptRegistration, hcheck]

lemma acceptRegistration_of_remembers (hcheck : register.check ed now = .ok key)
    (hseen : state.Remembers now register.nonce) : acceptRegistration ed now register state =
      (.error "registration nonce already used; replay detected", { state with
          usedRegisterNonces :=
            evict registerMaxSkew now state.usedRegisterNonces }) := by
  simp [acceptRegistration, hcheck, offer_of_remembers hseen]

lemma acceptRegistration_of_not_remembers (hcheck : register.check ed now = .ok key)
    (hseen : ¬ state.Remembers now register.nonce) :
    acceptRegistration ed now register state = ((bindKey register.deviceId key state.deviceKeys).1,
        { state with
          usedRegisterNonces :=
            (evict registerMaxSkew now
              state.usedRegisterNonces).insert register.nonce now
          deviceKeys :=
            (bindKey register.deviceId key state.deviceKeys).2 }) := by
  simp [acceptRegistration, hcheck, offer_of_not_remembers hseen]

/-- A registration is accepted if it passes the checks, its timestamp is not
remembered and no other key is bound. -/
lemma accepts_iff :
    Accepts ed now register state ↔ ∃ key, register.check ed now = .ok key ∧
        ¬ state.Remembers now register.nonce ∧
        ∀ existing, state.deviceKeys.lookup register.deviceId = some existing → existing = key := by
  unfold Accepts
  cases hcheck : register.check ed now with
  | error reason => simp [acceptRegistration_of_error hcheck]
  | ok key =>
    by_cases hseen : state.Remembers now register.nonce
    · simp [acceptRegistration_of_remembers hcheck hseen, hseen]
    · rw [acceptRegistration_of_not_remembers hcheck hseen, bindKey_eq_ok_iff]
      simp [hseen]

/-- Whatever the outcome, the nonces are left alone, or one more pair is offered
to them. -/
lemma nonces_acceptRegistration :
    (acceptRegistration ed now register state).2.usedRegisterNonces = state.usedRegisterNonces ∨
      (acceptRegistration ed now register state).2.usedRegisterNonces =
        (offer registerMaxSkew now register.nonce state.usedRegisterNonces).2 := by
  unfold acceptRegistration
  cases register.check ed now with
  | error reason => exact .inl rfl
  | ok key =>
    right
    simp only
    split <;> rfl

end Outcomes

end IlinkHub
