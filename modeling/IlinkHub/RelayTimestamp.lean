/-
The arithmetic of the timestamp check at the relay (`relay/auth.rs`).  The
timestamp is whatever number of 64 bits the hub sends.  A build with overflow
checks stops at the first operation whose result is no `i64`; a release build
goes on with the wrapped one.
-/
import IlinkHub.RelayReplay

namespace IlinkHub

/-- `a - b` with overflow checks. -/
def checkedSub (left right : Int64) : Option Int64 :=
  if (left - right).toInt = left.toInt - right.toInt then some (left - right)
  else none

/-- `i64::abs` with overflow checks. -/
def checkedAbs (n : Int64) : Option Int64 :=
  if n.abs.toInt = n.toInt.natAbs then some n.abs else none

/-- The arithmetic of `verify_register`. -/
def checkedSkew (nowUnix timestamp : Int64) : Option Int64 :=
  (checkedSub nowUnix timestamp).bind checkedAbs

/-- No operation overflows, and only a timestamp within the minute is looked at
any further. -/
structure ExactTimestamp (nowUnix timestamp : Int64) : Prop where
  arithmetic : (checkedSkew nowUnix timestamp).isSome = true
  proceeds : ∀ (ed : Ed25519) (key : List UInt8) (deviceId signature : String),
    verifyRegister ed key deviceId timestamp signature nowUnix ≠
        .error "registration timestamp out of range" →
      (nowUnix.toInt - timestamp.toInt).natAbs ≤ registerMaxSkewSecs

lemma verifyRegister_eq_outOfRange_iff {ed : Ed25519} {key : List UInt8}
    {deviceId signature : String} {timestamp nowUnix : Int64} :
    verifyRegister ed key deviceId timestamp signature nowUnix =
        .error "registration timestamp out of range" ↔
      outOfRange nowUnix timestamp = true := by
  unfold verifyRegister
  cases outOfRange nowUnix timestamp with
  | true => simp
  | false =>
    simp only [Bool.false_eq_true, if_false]
    split
    · simp
    · split
      · simp
      · split <;> simp

section Bounds

variable {nowUnix : Int64}

lemma isSome_checkedSkew_iff (hlow : 0 ≤ nowUnix.toInt)
    (hhigh : nowUnix.toInt ≤ 2 ^ 62) (timestamp : Int64) :
    (checkedSkew nowUnix timestamp).isSome = true ↔ nowUnix.toInt - timestamp.toInt < 2 ^ 63 := by
  have hmost := timestamp.toInt_lt
  have hsub := toInt_sub_eq hlow hhigh timestamp
  by_cases hfits : nowUnix.toInt - timestamp.toInt < 2 ^ 63
  · rw [if_pos hfits] at hsub
    have habs : (nowUnix - timestamp).abs.toInt = (nowUnix - timestamp).toInt.natAbs := by
      rw [toInt_abs]
      omega
    rw [checkedSkew, checkedSub, if_pos hsub, Option.bind_some, checkedAbs, if_pos habs]
    exact iff_of_true rfl hfits
  · rw [checkedSkew, checkedSub, if_neg (by omega)]
    exact iff_of_false Bool.false_ne_true hfits

/-- The check is exact for the timestamps whose distance from the clock is an
`i64`, and for no others. -/
theorem exactTimestamp_iff (timestamp : Int64) (hlow : 0 ≤ nowUnix.toInt)
    (hhigh : nowUnix.toInt ≤ 2 ^ 62) :
    ExactTimestamp nowUnix timestamp ↔ nowUnix.toInt - timestamp.toInt < 2 ^ 63 := by
  constructor
  · intro hexact
    exact (isSome_checkedSkew_iff hlow hhigh timestamp).mp hexact.arithmetic
  · intro hfits
    refine ⟨(isSome_checkedSkew_iff hlow hhigh timestamp).mpr hfits, ?_⟩
    intro ed key deviceId signature hproceeds
    rw [ne_eq, verifyRegister_eq_outOfRange_iff, Bool.not_eq_true,
      outOfRange_eq_false_iff_of_le hlow hhigh] at hproceeds
    rw [registerMaxSkewSecs]
    omega

/-- A hub whose clock is a minute behind is looked at. -/
theorem exactTimestamp_minute : ExactTimestamp 1700000000 1699999940 :=
  (exactTimestamp_iff 1699999940 (by decide) (by decide)).mpr (by decide)

/-- A timestamp `2^63` seconds behind the clock: the subtraction overflows, and
where it wraps, a signature for this timestamp is accepted. -/
theorem not_exactTimestamp :
    let nowUnix : Int64 := 1700000000
    let timestamp : Int64 := -9223372035154775808
    let ed : Ed25519 := ⟨fun _ => some (List.replicate 64 0), fun _ => true, fun _ _ _ => true⟩
    nowUnix.toInt - timestamp.toInt = 9223372036854775808 ∧ checkedSub nowUnix timestamp = none ∧
      verifyRegister ed [] "device-1" timestamp "" nowUnix = .ok () ∧
      ¬ ExactTimestamp nowUnix timestamp := by
  intro nowUnix timestamp ed
  have hstops : (checkedSkew nowUnix timestamp).isSome = false := by decide
  refine ⟨by decide, by decide, Register.verifyRegister_eq_ok_iff.mpr
    ⟨by decide, .replicate 64 0, rfl, by decide, rfl⟩, ?_⟩
  intro hexact
  simp [hexact.arithmetic] at hstops

end Bounds

end IlinkHub
