/-
Replayed and rejected registrations at the relay: how long an accepted pair of
device and timestamp stays used up, and what a rejected registration leaves
behind.
-/
import Mathlib.Algebra.Group.Int.Defs
import Mathlib.Algebra.Group.Nat.Defs
import IlinkHub.Relay

namespace IlinkHub

open Sample ReplayCache

section Range

/-- The seconds of the clock stay far below the end of `i64`. -/
def clockEnd : Nat :=
  secs (2 ^ 62)

variable {now later : Nat}

lemma toInt_unixNow (hnow : now < clockEnd) :
    (unixNow now).toInt = ((now / secs 1 : Nat) : Int) := by
  apply Int64.toInt_ofNat_of_lt
  simp only [clockEnd, secs] at hnow ⊢
  omega

lemma toInt_abs (n : Int64) :
    n.abs.toInt = if n.toInt = -2 ^ 63 then -2 ^ 63 else (n.toInt.natAbs : Int) := by
  have hmin : n.toBitVec = .intMin 64 ↔ n.toInt = -2 ^ 63 := by
    rw [← BitVec.toInt_inj]
    rfl
  have habs : n.abs.toInt = n.toBitVec.abs.toInt := rfl
  simp only [habs, BitVec.toInt_abs_eq_natAbs, hmin]
  rfl

/-- The difference leaves the range of `i64` upwards only. -/
lemma toInt_sub_eq {nowUnix : Int64} (hlow : 0 ≤ nowUnix.toInt) (hhigh : nowUnix.toInt ≤ 2 ^ 62)
    (timestamp : Int64) :
    (nowUnix - timestamp).toInt = if nowUnix.toInt - timestamp.toInt < 2 ^ 63 then
        nowUnix.toInt - timestamp.toInt
      else nowUnix.toInt - timestamp.toInt - 2 ^ 64 := by
  have hleast := timestamp.le_toInt
  have hmost := timestamp.toInt_lt
  rw [Int64.toInt_sub, Int.bmod_def]
  split <;> split <;> omega

/-- Besides the minute on both sides, a timestamp that is `2^63` behind the clock
passes the check. -/
lemma outOfRange_eq_false_iff_of_le {nowUnix : Int64}
    (hlow : 0 ≤ nowUnix.toInt) (hhigh : nowUnix.toInt ≤ 2 ^ 62) (timestamp : Int64) :
    outOfRange nowUnix timestamp = false ↔ (-60 ≤ nowUnix.toInt - timestamp.toInt ∧
        nowUnix.toInt - timestamp.toInt ≤ 60) ∨
      nowUnix.toInt - timestamp.toInt = 2 ^ 63 := by
  have hleast := timestamp.le_toInt
  have hmost := timestamp.toInt_lt
  have hskew : (Int64.ofNat registerMaxSkewSecs).toInt = 60 := rfl
  rw [outOfRange, decide_eq_false_iff_not, Int64.lt_iff_toInt_lt, toInt_abs,
    toInt_sub_eq hlow hhigh]
  split <;> split <;> omega

lemma outOfRange_eq_false_iff (hnow : now < clockEnd) (timestamp : Int64) :
    outOfRange (unixNow now) timestamp = false ↔
      (-60 ≤ ((now / secs 1 : Nat) : Int) - timestamp.toInt ∧
        ((now / secs 1 : Nat) : Int) - timestamp.toInt ≤ 60) ∨
      ((now / secs 1 : Nat) : Int) - timestamp.toInt = 2 ^ 63 := by
  have hseconds : now / secs 1 < 2 ^ 62 := by
    simp only [clockEnd, secs] at hnow ⊢
    omega
  rw [← toInt_unixNow hnow]
  apply outOfRange_eq_false_iff_of_le
  · rw [toInt_unixNow hnow]
    exact Int.natCast_nonneg _
  · rw [toInt_unixNow hnow]
    omega

/-- A minute after the clock had passed the timestamp, the range is over. -/
lemma outOfRange_of_passed {timestamp : Int64} (hlater : later < clockEnd)
    (hnow : now + registerMaxSkew ≤ later) (hrange : outOfRange (unixNow now) timestamp = false)
    (hpassed : timestamp.toInt < ((now / secs 1 : Nat) : Int)) :
    outOfRange (unixNow later) timestamp = true := by
  have hstart : now < clockEnd := by omega
  by_contra hin
  rw [Bool.not_eq_true, outOfRange_eq_false_iff hlater] at hin
  rw [outOfRange_eq_false_iff hstart] at hrange
  simp only [registerMaxSkew, registerMaxSkewSecs, clockEnd, secs] at *
  omega

/-- Until the clock passes the timestamp, the range is open for another
minute. -/
lemma inRange_of_not_passed {timestamp : Int64} (hroom : now + registerMaxSkew < clockEnd)
    (hrange : outOfRange (unixNow now) timestamp = false)
    (hpassed : ((now / secs 1 : Nat) : Int) ≤ timestamp.toInt) :
    outOfRange (unixNow (now + registerMaxSkew)) timestamp = false := by
  have hstart : now < clockEnd := by omega
  rw [outOfRange_eq_false_iff hstart] at hrange
  rw [outOfRange_eq_false_iff hroom]
  simp only [registerMaxSkew, registerMaxSkewSecs, secs] at *
  omega

end Range

/-- A registration and the time at which it is looked at. -/
structure Attempt where
  now : Nat
  register : Register

/-- The clock does not go back from one attempt to the next. -/
def Clocked : Nat → List Attempt → Prop
  | _, [] => True
  | start, attempt :: rest =>
    start ≤ attempt.now ∧ attempt.now < clockEnd ∧ Clocked attempt.now rest

def RelayState.step (ed : Ed25519) (state : RelayState) (attempt : Attempt) : RelayState :=
  (acceptRegistration ed attempt.now attempt.register state).2

/-- No attempt of the run with this pair is accepted. -/
def NeverAccepted (ed : Ed25519) (nonce : String × Int64) (state : RelayState)
    (attempts : List Attempt) : Prop :=
  Transition.EveryStep (RelayState.step ed)
    (fun state attempt => attempt.register.nonce = nonce →
      ¬ Accepts ed attempt.now attempt.register state)
    state attempts

section Replay

variable {ed : Ed25519} {state : RelayState} {now since : Nat}
  {register : Register} {nonce : String × Int64}

/-- Within a minute of its use a pair stays used, whatever is attempted. -/
lemma usedSince_step {attempt : Attempt} (hused : UsedSince since nonce state.usedRegisterNonces)
    (hsince : since ≤ attempt.now) (hnow : attempt.now < since + registerMaxSkew) :
    UsedSince since nonce (state.step ed attempt).usedRegisterNonces := by
  have hnonces := @nonces_acceptRegistration ed attempt.now attempt.register state
  rcases hnonces with hsame | hoffered
  · rw [RelayState.step, hsame]
    exact hused
  · rw [RelayState.step, hoffered]
    exact hused.offer hsince hnow

lemma usedSince_of_accepts (haccepts : Accepts ed now register state) :
    UsedSince now register.nonce (state.step ed ⟨now, register⟩).usedRegisterNonces := by
  obtain ⟨key, hcheck, hseen, -⟩ := accepts_iff.mp haccepts
  rw [RelayState.step, acceptRegistration_of_not_remembers hcheck hseen]
  exact usedSince_insert _ _ _

variable {attempts : List Attempt}

/-- A pair that was used after its timestamp is not accepted again: for a minute
it is remembered, and from then on it is out of range. -/
lemma neverAccepted_of_usedSince {start : Nat} (hsince : since ≤ start)
    (hused : start < since + registerMaxSkew → UsedSince since nonce state.usedRegisterNonces)
    (hrange : outOfRange (unixNow since) nonce.2 = false)
    (hpassed : nonce.2.toInt < ((since / secs 1 : Nat) : Int)) (hclocked : Clocked start attempts) :
    NeverAccepted ed nonce state attempts := by
  induction attempts generalizing state start with
  | nil => trivial
  | cons attempt rest ih =>
    obtain ⟨hstart, hend, hrest⟩ := hclocked
    refine ⟨?_, ih (hsince.trans hstart) ?_ hrest⟩
    · rintro rfl haccepts
      obtain ⟨key, hcheck, hseen, -⟩ := accepts_iff.mp haccepts
      by_cases hyoung : attempt.now < since + registerMaxSkew
      · have hstill := hused (hstart.trans_lt hyoung)
        exact hseen (hstill.remembers (hsince.trans hstart) hyoung)
      · have hover := outOfRange_of_passed hend (not_lt.mp hyoung) hrange hpassed
        have hin := Register.inRange_of_check hcheck
        rw [Register.nonce] at hover
        simp [hover] at hin
    · intro hyoung
      exact usedSince_step (hused (hstart.trans_lt hyoung)) (hsince.trans hstart) hyoung

/-- The same for a registration that was accepted after its timestamp. -/
lemma neverAccepted_of_accepts (haccepts : Accepts ed now register state)
    (hpassed : register.timestamp.toInt < ((now / secs 1 : Nat) : Int))
    (hclocked : Clocked now attempts) :
    NeverAccepted ed register.nonce (state.step ed ⟨now, register⟩) attempts := by
  obtain ⟨key, hcheck, -⟩ := accepts_iff.mp haccepts
  exact neverAccepted_of_usedSince le_rfl (fun _ => usedSince_of_accepts haccepts)
    (Register.inRange_of_check hcheck) hpassed hclocked

/-- A minute later the same registration passes again, when its timestamp was
not over at the first time. -/
lemma accepts_again (haccepts : Accepts ed now register state)
    (hroom : now + registerMaxSkew < clockEnd)
    (hpassed : ((now / secs 1 : Nat) : Int) ≤ register.timestamp.toInt) :
    Accepts ed (now + registerMaxSkew) register (state.step ed ⟨now, register⟩) := by
  obtain ⟨key, hcheck, hseen, hbound⟩ := accepts_iff.mp haccepts
  have hrange := inRange_of_not_passed hroom (Register.inRange_of_check hcheck) hpassed
  rw [accepts_iff]
  refine ⟨key, Register.check_at_of_check hcheck hrange, ?_⟩
  rw [RelayState.step, acceptRegistration_of_not_remembers hcheck hseen]
  refine ⟨not_remembers_insert _ _ le_rfl, ?_⟩
  intro existing hexisting
  rw [lookup_bindKey] at hexisting
  split at hexisting
  · exact (Option.some.inj hexisting).symm
  · exact hbound existing hexisting

/-- An accepted registration can never be replayed exactly if the clock had
passed its timestamp. -/
theorem neverAccepted_again_iff (haccepts : Accepts ed now register state)
    (hroom : now + registerMaxSkew < clockEnd) :
    (∀ attempts, Clocked now attempts →
      NeverAccepted ed register.nonce (state.step ed ⟨now, register⟩) attempts) ↔
      register.timestamp.toInt < ((now / secs 1 : Nat) : Int) := by
  constructor
  · intro hnever
    by_contra hpassed
    have hagain := accepts_again haccepts hroom (not_lt.mp hpassed)
    have hclocked : Clocked now [⟨now + registerMaxSkew, register⟩] :=
      ⟨Nat.le_add_right _ _, hroom, trivial⟩
    exact (hnever _ hclocked).1 rfl hagain
  · intro hpassed attempts hclocked
    exact neverAccepted_of_accepts haccepts hpassed hclocked

end Replay

/-- Two keys, and signatures of both for one payload. -/
def Sample.ed : Ed25519 where
  decode text :=
    if text = "key-1" then some (List.replicate 32 1)
    else if text = "key-2" then some (List.replicate 32 2)
    else if text = "signed-1" then some (List.replicate 64 1)
    else if text = "signed-2" then some (List.replicate 64 2)
    else none
  isPoint _ := true
  verify key payload signature :=
    payload == "register:device-1:100" && key.head? == signature.head?

/-- The registration of the owner of the device. -/
def Sample.ownRegister : Register :=
  ⟨"device-1", "key-1", 100, "signed-1"⟩

/-- The same pair under another key. -/
def Sample.foreignRegister : Register :=
  ⟨"device-1", "key-2", 100, "signed-2"⟩

theorem neverAccepted_again_when_passed :
    Accepts ed (secs 101) ownRegister .new ∧
      ((∀ attempts, Clocked (secs 101) attempts → NeverAccepted ed ownRegister.nonce
          (RelayState.new.step ed ⟨secs 101, ownRegister⟩) attempts) ↔
        ownRegister.timestamp.toInt < ((secs 101 / secs 1 : Nat) : Int)) := by
  have haccepts : Accepts ed (secs 101) ownRegister .new := by
    decide +kernel
  exact ⟨haccepts, neverAccepted_again_iff haccepts (by decide)⟩

/-- Signed a minute ahead of the server: the registration is accepted at once and
once more a minute later. -/
theorem accepted_twice :
    Accepts ed (secs 40) ownRegister .new ∧ Accepts ed (secs 100) ownRegister
        (RelayState.new.step ed ⟨secs 40, ownRegister⟩) := by
  decide +kernel

section Rejected

variable {ed : Ed25519} {state after : RelayState} {now later : Nat} {register : Register}

/-- Nothing is different but for pairs that were remembered and are expired. -/
structure RelayState.Unaffected (now : Nat) (state after : RelayState) :
    Prop where
  keys : after.deviceKeys = state.deviceKeys
  nonces : ∀ nonce,
    after.usedRegisterNonces.lookup nonce = state.usedRegisterNonces.lookup nonce ∨
      after.usedRegisterNonces.lookup nonce = none ∧ ¬ state.Remembers now nonce

/-- A rejected registration has no effect: neither on the maps nor on whether
another one is accepted from then on. -/
def RejectedWithoutEffect (ed : Ed25519) (now : Nat) (register : Register)
    (state : RelayState) : Prop :=
  ¬ Accepts ed now register state → state.Unaffected now (state.step ed ⟨now, register⟩) ∧
      ∀ later other, now ≤ later → Accepts ed later other state →
        Accepts ed later other (state.step ed ⟨now, register⟩)

/-- A registration that is right in itself and new, but under another key than
the bound one. -/
def ForeignKey (ed : Ed25519) (now : Nat) (register : Register) (state : RelayState) : Prop :=
  ∃ key, register.check ed now = .ok key ∧ ¬ state.Remembers now register.nonce ∧
    ∃ existing, state.deviceKeys.lookup register.deviceId = some existing ∧ existing ≠ key

/-- The two ways in which a registration is rejected before its timestamp is
marked as used. -/
lemma step_of_rejected (hrejected : ¬ Accepts ed now register state)
    (hforeign : ¬ ForeignKey ed now register state) :
    state.step ed ⟨now, register⟩ = state ∨ state.step ed ⟨now, register⟩ = { state with
          usedRegisterNonces :=
            evict registerMaxSkew now state.usedRegisterNonces } := by
  cases hcheck : register.check ed now with
  | error reason =>
    left
    rw [RelayState.step, acceptRegistration_of_error hcheck]
  | ok key =>
    right
    have hseen : state.Remembers now register.nonce := by
      by_contra hseen
      apply hrejected
      refine accepts_iff.mpr ⟨key, hcheck, hseen, ?_⟩
      intro existing hexisting
      by_contra hne
      exact hforeign ⟨key, hcheck, hseen, existing, hexisting, hne⟩
    rw [RelayState.step, acceptRegistration_of_remembers hcheck hseen]

lemma unaffected_evict (now : Nat) (state : RelayState) : state.Unaffected now { state with
        usedRegisterNonces :=
          evict registerMaxSkew now state.usedRegisterNonces } where
  keys := rfl
  nonces nonce := by
    by_cases hseen : state.Remembers now nonce
    · left
      obtain ⟨seen, hlookup, hyoung⟩ := remembers_iff.mp hseen
      rw [hlookup, evict, Query.lookup_retain, hlookup, Option.filter_eq_some_iff]
      exact ⟨rfl, decide_eq_true hyoung⟩
    · right
      exact ⟨Option.not_isSome_iff_eq_none.mp hseen, hseen⟩

lemma accepts_evict {other : Register} (hle : now ≤ later)
    (haccepts : Accepts ed later other state) : Accepts ed later other { state with
        usedRegisterNonces :=
          evict registerMaxSkew now state.usedRegisterNonces } := by
  obtain ⟨key, hcheck, hseen, hbound⟩ := accepts_iff.mp haccepts
  refine accepts_iff.mpr ⟨key, hcheck, ?_, hbound⟩
  rwa [RelayState.Remembers, Remembers, evict_evict _ hle]

/-- The timestamp of a registration under a foreign key is used up although the
registration is rejected. -/
lemma not_unaffected_of_foreignKey (hforeign : ForeignKey ed now register state) :
    ¬ Accepts ed now register state ∧ ¬ state.Unaffected now (state.step ed ⟨now, register⟩) := by
  obtain ⟨key, hcheck, hseen, existing, hexisting, hne⟩ := hforeign
  constructor
  · intro haccepts
    obtain ⟨own, hown, -, hbound⟩ := accepts_iff.mp haccepts
    rw [hcheck] at hown
    obtain rfl := Except.ok.inj hown
    exact hne (hbound existing hexisting)
  · intro hunaffected
    have hnonce := hunaffected.nonces register.nonce
    rw [RelayState.step, acceptRegistration_of_not_remembers hcheck hseen,
      AList.lookup_insert] at hnonce
    rcases hnonce with hsame | ⟨hnone, -⟩
    · apply hseen
      refine remembers_iff.mpr ⟨now, hsame.symm, ?_⟩
      rw [Nat.sub_self]
      decide
    · cases hnone

/-- Rejected registrations are without effect, those under a foreign key apart. -/
theorem rejectedWithoutEffect_iff (ed : Ed25519) (now : Nat)
    (register : Register) (state : RelayState) :
    RejectedWithoutEffect ed now register state ↔ ¬ ForeignKey ed now register state := by
  constructor
  · intro heffect hforeign
    obtain ⟨hrejected, haffected⟩ := not_unaffected_of_foreignKey hforeign
    exact haffected (heffect hrejected).1
  · intro hforeign hrejected
    rcases step_of_rejected hrejected hforeign with hsame | hevict
    · rw [hsame]
      exact ⟨⟨rfl, fun _ => .inl rfl⟩, fun _ _ _ haccepts => haccepts⟩
    · rw [hevict]
      exact ⟨unaffected_evict now state, fun _ _ hle haccepts => accepts_evict hle haccepts⟩

end Rejected

/-- The device is bound to the key of its owner. -/
def Sample.boundRelay : RelayState :=
  { RelayState.new with
    deviceKeys := (∅ : AList _).insert "device-1" (List.replicate 32 1) }

/-- The owner would be accepted, and after the rejected attempt under another key
is not. -/
theorem foreign_attempt_blocks_owner :
    Accepts ed (secs 101) ownRegister boundRelay ∧
      (acceptRegistration ed (secs 101) foreignRegister
        boundRelay).1 = .error "device_id already bound to another key" ∧
      (acceptRegistration ed (secs 101) ownRegister (boundRelay.step ed
          ⟨secs 101, foreignRegister⟩)).1 =
          .error "registration nonce already used; replay detected" := by
  decide +kernel

end IlinkHub
