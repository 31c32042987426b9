/-
The rate limiter of the outbound bot API (`hub/rate_limit.rs`): a token bucket for
each tenant in one map behind a lock.  Numbers are exact rationals and times are
seconds.  A wait that no `Duration` holds panics with the lock held, and from then
on the lock is poisoned.
-/
import Mathlib.Algebra.Order.Archimedean.Basic
import Mathlib.Data.Finset.Card
import IlinkHub.Query
import IlinkHub.TokenBucket
import IlinkHub.Transition

namespace IlinkHub

open TokenBucket Transition AList

section Durations

/-- The nearest integer, and of two the even one. -/
def roundTiesEven (value : ℚ) : Int :=
  if value - ⌊value⌋ < 1 / 2 then ⌊value⌋
  else if 1 / 2 < value - ⌊value⌋ then ⌊value⌋ + 1
  else if ⌊value⌋ % 2 = 0 then ⌊value⌋
  else ⌊value⌋ + 1

lemma le_roundTiesEven_iff {value : ℚ} {n : Int} (heven : n % 2 = 0) :
    n ≤ roundTiesEven value ↔ (n : ℚ) - 1 / 2 ≤ value := by
  have hfloor := Int.floor_le value
  have hnext := Int.lt_floor_add_one value
  unfold roundTiesEven
  generalize ⌊value⌋ = below at hfloor hnext ⊢
  have hlow : n ≤ below → n - 1 / 2 ≤ value := by
    intro hle
    have hcast : (n : ℚ) ≤ below := Int.cast_le.mpr hle
    linarith
  have hhigh : n - 1 / 2 ≤ value → n ≤ below + 1 := by
    intro hle
    have hlt : n < ((below + 2 : Int) : ℚ) := by
      push_cast
      linarith
    have := Int.cast_lt.mp hlt
    omega
  split
  · refine ⟨hlow, fun hle => ?_⟩
    have hlt : n < ((below + 1 : Int) : ℚ) := by
      push_cast
      linarith
    exact Int.lt_add_one_iff.mp (Int.cast_lt.mp hlt)
  · have hup : n ≤ below + 1 → n - 1 / 2 ≤ value := by
      intro hle
      have hcast : n ≤ ((below + 1 : Int) : ℚ) := Int.cast_le.mpr hle
      push_cast at hcast
      linarith
    split
    · exact ⟨hup, hhigh⟩
    · split
      · refine ⟨hlow, fun hle => ?_⟩
        have := hhigh hle
        omega
      · exact ⟨hup, hhigh⟩

/-- The nanoseconds of `Duration::MAX`, and one more. -/
def durationEnd : Nat :=
  18446744073709551616 * 1000000000

/-- A `Duration` in nanoseconds: its seconds have 64 bits. -/
structure Duration where
  nanos : Nat
  fits : nanos < durationEnd
deriving DecidableEq

namespace Duration

/-- `from_secs_f64`: rounded to nanoseconds, and a panic where that is no
`Duration`. -/
def fromSecs (secs : ℚ) : Option Duration :=
  if secs < 0 then none
  else
    let nanos := (roundTiesEven (secs * 1000000000)).toNat
    if hfits : nanos < durationEnd then some ⟨nanos, hfits⟩ else none

def asMillis (duration : Duration) : Nat :=
  duration.nanos / 1000000

/-- A `Duration` holds this many seconds. -/
def Fits (secs : ℚ) : Prop :=
  0 ≤ secs ∧ secs * 1000000000 < durationEnd - 1 / 2
deriving Decidable

lemma isSome_fromSecs_iff {secs : ℚ} : (fromSecs secs).isSome = true ↔ Fits secs := by
  have heven : (durationEnd : Int) % 2 = 0 := by decide
  have hround := @le_roundTiesEven_iff (secs * 1000000000) _ heven
  rw [Int.cast_natCast] at hround
  have hnat : (roundTiesEven (secs * 1000000000)).toNat < durationEnd ↔
      secs * 1000000000 < durationEnd - 1 / 2 := by
    rw [← not_le (b := secs * 1000000000), ← hround]
    have hpos : 0 < durationEnd := by decide
    omega
  unfold fromSecs Fits
  by_cases hneg : secs < 0
  · simp [hneg]
  · rw [if_neg hneg]
    simp only [← hnat]
    split
    · next hfits => simpa [hfits] using not_lt.mp hneg
    · next hfits => simp [hfits]

lemma Fits.lt_end {secs : ℚ} (hfits : Fits secs) : 0 ≤ secs ∧ secs < 18446744073709551616 := by
  obtain ⟨hnonneg, hlt⟩ := hfits
  refine ⟨hnonneg, ?_⟩
  rw [durationEnd, Nat.cast_mul] at hlt
  linarith

lemma Fits.mono {secs more : ℚ} (hfits : Fits more) (hnonneg : 0 ≤ secs)
    (hle : secs ≤ more) : Fits secs :=
  ⟨hnonneg, by linarith [hfits.2]⟩

end Duration

end Durations

inductive RateLimitOutcome where
  | allowed (remaining : ℚ)
  | denied (retryAfter : Duration)
deriving DecidableEq

def sanitizeRate (ratePerSec : ℚ) : ℚ :=
  if 0 < ratePerSec then ratePerSec else 1 / 1000

def sanitizeBurst (burst : ℚ) : ℚ :=
  if 1 ≤ burst then burst else 1

/-- The rate and the burst as the limiter keeps them. -/
structure RatePolicy where
  rate : ℚ
  burst : ℚ
  rate_pos : 0 < rate
  one_le_burst : 1 ≤ burst

def RatePolicy.new (ratePerSec burst : ℚ) : RatePolicy where
  rate := sanitizeRate ratePerSec
  burst := sanitizeBurst burst
  rate_pos := by
    unfold sanitizeRate
    split
    · assumption
    · norm_num
  one_le_burst := by
    unfold sanitizeBurst
    split
    · assumption
    · exact le_rfl

/-- `Bucket`: the tokens, the last refill and the rejections so far. -/
structure RateBucket extends TokenBucket ℚ where
  rejected : Nat
deriving DecidableEq

/-- The part of `check_at` on one bucket; without an outcome it panics. -/
def RateBucket.charge (policy : RatePolicy) (bucket : RateBucket) (now : ℚ) :
    Option RateLimitOutcome × RateBucket :=
  let elapsed := max (now - bucket.last) 0
  let tokens := min (bucket.tokens + elapsed * policy.rate) policy.burst
  if 1 ≤ tokens then
    (some (.allowed (tokens - 1)), ⟨⟨tokens - 1, now⟩, bucket.rejected⟩)
  else
    ((Duration.fromSecs ((1 - tokens) / policy.rate)).map .denied,
      ⟨⟨tokens, now⟩, min (bucket.rejected + 1) 18446744073709551615⟩)

def botRateLimitMaxEntries : Nat :=
  4096

structure VtokenRateLimiter where
  buckets : AList fun _ : String => RateBucket
  poisoned : Bool
  policy : RatePolicy
  capacity : Nat

/-- A call of `check_at`.  Of several oldest buckets `tie` picks the one that
goes. -/
structure RateCall where
  vtoken : String
  now : ℚ
  tie : Nat := 0
deriving DecidableEq

namespace VtokenRateLimiter

def new (policy : RatePolicy) : VtokenRateLimiter :=
  ⟨∅, false, policy, botRateLimitMaxEntries⟩

/-- The map after the least recently used bucket has made room. -/
def evicted (limiter : VtokenRateLimiter) (call : RateCall) : AList fun _ : String => RateBucket :=
  if limiter.capacity ≤ limiter.buckets.entries.length ∧
      limiter.buckets.lookup call.vtoken = none then
    match Query.limitOne (fun left right => decide (left.2.last ≤ right.2.last)) call.tie
        limiter.buckets.entries with
    | some oldest => limiter.buckets.erase oldest.1
    | none => limiter.buckets
  else limiter.buckets

/-- The bucket that a call finds, or the full one that it makes. -/
def bucketFor (limiter : VtokenRateLimiter) (call : RateCall) : RateBucket :=
  ((limiter.evicted call).lookup call.vtoken).getD ⟨⟨limiter.policy.burst, call.now⟩, 0⟩

def checkAt (limiter : VtokenRateLimiter) (call : RateCall) :
    Option RateLimitOutcome × VtokenRateLimiter :=
  if limiter.poisoned then (some (.allowed limiter.policy.burst), limiter)
  else
    let charged := (limiter.bucketFor call).charge limiter.policy call.now
    (charged.1, { limiter with
        buckets := (limiter.evicted call).insert call.vtoken charged.2
        poisoned := charged.1.isNone })

def step (limiter : VtokenRateLimiter) (call : RateCall) : VtokenRateLimiter :=
  (limiter.checkAt call).2

/-- The calls with their outcomes. -/
def trace : VtokenRateLimiter → List RateCall → List (RateCall × Option RateLimitOutcome)
  | _, [] => []
  | limiter, call :: calls =>
    (call, (limiter.checkAt call).1) :: trace (limiter.step call) calls

end VtokenRateLimiter

/-- The call is admitted. -/
def RateLimitOutcome.isAllowed : Option RateLimitOutcome → Bool
  | some (.allowed _) => true
  | some (.denied _) | none => false

section Buckets

variable {policy : RatePolicy} {bucket : RateBucket} {now : ℚ}

lemma RatePolicy.burst_nonneg (policy : RatePolicy) : 0 ≤ policy.burst :=
  le_trans zero_le_one policy.one_le_burst

namespace RateBucket

/-- What a call finds in the bucket. -/
def level (policy : RatePolicy) (bucket : RateBucket) (now : ℚ) : ℚ :=
  bucket.toTokenBucket.level policy.rate policy.burst now

/-- The exact time until the bucket has a whole token again. -/
def wait (policy : RatePolicy) (bucket : RateBucket) (now : ℚ) : ℚ :=
  (1 - bucket.level policy now) / policy.rate

lemma charge_toTokenBucket : (bucket.charge policy now).2.toTokenBucket =
      bucket.toTokenBucket.after policy.rate policy.burst now := by
  by_cases hone : 1 ≤ bucket.toTokenBucket.level policy.rate policy.burst now
  · rw [after_of_one_le hone]
    simp only [TokenBucket.level] at hone ⊢
    simp only [charge, if_pos hone]
  · rw [after_of_not_one_le hone]
    simp only [TokenBucket.level] at hone ⊢
    simp only [charge, if_neg hone]

lemma charge_of_one_le (hone : 1 ≤ bucket.level policy now) :
    (bucket.charge policy now).1 = some (.allowed (bucket.level policy now - 1)) := by
  simp only [level, TokenBucket.level] at hone
  simp only [charge, if_pos hone]
  rfl

lemma charge_of_lt (hone : bucket.level policy now < 1) :
    (bucket.charge policy now).1 = (Duration.fromSecs (bucket.wait policy now)).map .denied := by
  simp only [level, TokenBucket.level] at hone
  simp only [charge, if_neg (not_le.mpr hone)]
  rfl

lemma isAllowed_charge :
    RateLimitOutcome.isAllowed (bucket.charge policy now).1 = true ↔
      1 ≤ bucket.level policy now := by
  by_cases hone : 1 ≤ bucket.level policy now
  · simp [charge_of_one_le hone, hone, RateLimitOutcome.isAllowed]
  · rw [charge_of_lt (not_le.mp hone)]
    refine iff_of_false ?_ hone
    cases Duration.fromSecs (bucket.wait policy now) <;>
      simp [RateLimitOutcome.isAllowed]

/-- A call returns, unless it denies with a wait that no `Duration` holds. -/
lemma isSome_charge :
    (bucket.charge policy now).1.isSome = true ↔
      1 ≤ bucket.level policy now ∨ Duration.Fits (bucket.wait policy now) := by
  by_cases hone : 1 ≤ bucket.level policy now
  · simp [charge_of_one_le hone, hone]
  · rw [charge_of_lt (not_le.mp hone), Option.isSome_map,
      Duration.isSome_fromSecs_iff, or_iff_right hone]

/-- The longest wait is the one for a whole token. -/
lemma fits_wait (hfits : Duration.Fits (1 / policy.rate)) (hnonneg : 0 ≤ bucket.level policy now)
    (hone : bucket.level policy now ≤ 1) : Duration.Fits (bucket.wait policy now) := by
  apply hfits.mono
  · exact div_nonneg (sub_nonneg.mpr hone) policy.rate_pos.le
  · exact div_le_div_of_nonneg_right (by linarith) policy.rate_pos.le

end RateBucket

end Buckets

namespace VtokenRateLimiter

variable {limiter : VtokenRateLimiter} {call : RateCall} {calls : List RateCall}

section Calls

@[simp] lemma policy_step : (limiter.step call).policy = limiter.policy := by
  unfold step checkAt
  split <;> rfl

@[simp] lemma capacity_step : (limiter.step call).capacity = limiter.capacity := by
  unfold step checkAt
  split <;> rfl

lemma checkAt_of_poisoned (hpoisoned : limiter.poisoned = true) (call : RateCall) :
    limiter.checkAt call = (some (.allowed limiter.policy.burst), limiter) := by
  unfold checkAt
  rw [if_pos hpoisoned]

lemma checkAt_of_not_poisoned (hlock : limiter.poisoned = false) (call : RateCall) :
    (limiter.checkAt call).1 = ((limiter.bucketFor call).charge limiter.policy call.now).1 := by
  simp [checkAt, hlock]

lemma poisoned_step (hlock : limiter.poisoned = false) (call : RateCall) :
    (limiter.step call).poisoned = (limiter.checkAt call).1.isNone := by
  simp [step, checkAt, hlock]

lemma lookup_step (hlock : limiter.poisoned = false) (call : RateCall) (vtoken : String) :
    (limiter.step call).buckets.lookup vtoken =
      if vtoken = call.vtoken then
        some ((limiter.bucketFor call).charge limiter.policy call.now).2
      else (limiter.evicted call).lookup vtoken := by
  simp [step, checkAt, hlock, Query.lookup_insert]

lemma trace_append (first later : List RateCall) :
    limiter.trace (first ++ later) = limiter.trace first ++
        (run step limiter first).trace later := by
  induction first generalizing limiter with
  | nil => rfl
  | cons call first ih =>
    rw [List.cons_append, trace, ih]
    rfl

variable {bucket : RateBucket}

lemma evicted_of_lookup (hbucket : limiter.buckets.lookup call.vtoken = some bucket) :
    limiter.evicted call = limiter.buckets := by
  unfold evicted
  rw [if_neg]
  rintro ⟨-, hnone⟩
  simp [hbucket] at hnone

lemma bucketFor_of_lookup (hbucket : limiter.buckets.lookup call.vtoken = some bucket) :
    limiter.bucketFor call = bucket := by
  rw [bucketFor, evicted_of_lookup hbucket, hbucket, Option.getD_some]

lemma lookup_evicted {vtoken : String}
    (hbucket : (limiter.evicted call).lookup vtoken = some bucket) :
    limiter.buckets.lookup vtoken = some bucket := by
  unfold evicted at hbucket
  split at hbucket
  · split at hbucket
    · rw [Query.lookup_erase] at hbucket
      split at hbucket
      · cases hbucket
      · exact hbucket
    · exact hbucket
  · exact hbucket

end Calls

/-- The tokens of every bucket are in range. -/
def InRange (limiter : VtokenRateLimiter) : Prop :=
  ∀ vtoken bucket, limiter.buckets.lookup vtoken = some bucket →
    bucket.toTokenBucket.Within limiter.policy.burst

/-- No more tenants than the map may hold. -/
def Room (limiter : VtokenRateLimiter) (calls : List RateCall) : Prop :=
  (limiter.buckets.keys ++ calls.map RateCall.vtoken).toFinset.card ≤ limiter.capacity

section Invariants

lemma InRange.bucketFor (hrange : limiter.InRange) (call : RateCall) :
    (limiter.bucketFor call).toTokenBucket.Within limiter.policy.burst := by
  unfold VtokenRateLimiter.bucketFor
  cases hlookup : (limiter.evicted call).lookup call.vtoken with
  | none => exact ⟨limiter.policy.burst_nonneg, le_rfl⟩
  | some bucket => exact hrange _ _ (lookup_evicted hlookup)

lemma InRange.step (hrange : limiter.InRange) (call : RateCall) : (limiter.step call).InRange := by
  cases hlock : limiter.poisoned with
  | true =>
    rw [VtokenRateLimiter.step, checkAt_of_poisoned hlock]
    exact hrange
  | false =>
    intro vtoken bucket hbucket
    rw [policy_step]
    rw [lookup_step hlock] at hbucket
    split at hbucket
    · cases hbucket
      rw [RateBucket.charge_toTokenBucket]
      exact (hrange.bucketFor call).after limiter.policy.rate_pos.le limiter.policy.burst_nonneg
    · exact hrange _ _ (lookup_evicted hbucket)

lemma InRange.level_nonneg (hrange : limiter.InRange) (call : RateCall) :
    0 ≤ (limiter.bucketFor call).level limiter.policy call.now :=
  (hrange.bucketFor call).level_nonneg limiter.policy.rate_pos.le limiter.policy.burst_nonneg

/-- As long as the longest wait fits, no call panics. -/
lemma InRange.not_poisoned_step (hrange : limiter.InRange)
    (hfits : Duration.Fits (1 / limiter.policy.rate)) (hlock : limiter.poisoned = false)
    (call : RateCall) : (limiter.step call).poisoned = false := by
  rw [poisoned_step hlock, checkAt_of_not_poisoned hlock,
    Option.isNone_eq_false_iff, RateBucket.isSome_charge]
  by_cases hone : 1 ≤ (limiter.bucketFor call).level limiter.policy call.now
  · exact .inl hone
  · exact .inr (RateBucket.fits_wait hfits (hrange.level_nonneg call) (le_of_not_ge hone))

lemma Room.evicted (hroom : limiter.Room (call :: calls)) :
    limiter.evicted call = limiter.buckets := by
  unfold VtokenRateLimiter.evicted
  rw [if_neg]
  rintro ⟨hfull, hnone⟩
  have hnew := lookup_eq_none.mp hnone
  have hkeys : limiter.buckets.keys.length = limiter.buckets.entries.length := by
    simp [keys, List.keys]
  have hnodup := List.nodup_cons.mpr ⟨hnew, limiter.buckets.keys_nodup⟩
  have hmore : (call.vtoken :: limiter.buckets.keys).toFinset.card ≤ limiter.capacity := by
    refine le_trans (Finset.card_le_card ?_) hroom
    intro vtoken hvtoken
    simp only [List.mem_toFinset, List.mem_cons, List.mem_append, List.map_cons] at hvtoken ⊢
    tauto
  rw [List.toFinset_card_of_nodup hnodup, List.length_cons] at hmore
  omega

lemma Room.step (hroom : limiter.Room (call :: calls)) : (limiter.step call).Room calls := by
  unfold Room at hroom ⊢
  rw [capacity_step]
  refine le_trans (Finset.card_le_card ?_) hroom
  intro vtoken hvtoken
  have hold : vtoken ∈ (limiter.step call).buckets.keys →
      vtoken ∈ limiter.buckets.keys ∨ vtoken = call.vtoken := by
    intro hmem
    rw [← mem_keys, ← lookup_isSome] at hmem
    cases hlock : limiter.poisoned with
    | true =>
      rw [VtokenRateLimiter.step, checkAt_of_poisoned hlock, lookup_isSome] at hmem
      exact .inl hmem
    | false =>
      rw [lookup_step hlock] at hmem
      split at hmem
      · next heq => exact .inr heq
      · obtain ⟨bucket, hbucket⟩ := Option.isSome_iff_exists.mp hmem
        rw [← mem_keys, ← lookup_isSome, lookup_evicted hbucket]
        exact .inl rfl
  simp only [List.mem_toFinset, List.mem_append, List.map_cons, List.mem_cons] at hvtoken ⊢
  tauto

lemma room_new {policy : RatePolicy} :
    (new policy).Room calls ↔ (calls.map RateCall.vtoken).toFinset.card ≤ botRateLimitMaxEntries :=
  .rfl

end Invariants

/-- What one tenant sees when nobody else calls: the outcomes at these times. -/
def tenantTrace (policy : RatePolicy) :
    Option RateBucket → List ℚ → List (Option RateLimitOutcome)
  | _, [] => []
  | bucket, now :: later =>
    let charged := (bucket.getD ⟨⟨policy.burst, now⟩, 0⟩).charge policy now
    charged.1 :: tenantTrace policy (some charged.2) later

/-- The times of the calls of one tenant. -/
def timesOf (vtoken : String) (calls : List RateCall) : List ℚ :=
  (calls.filter (·.vtoken = vtoken)).map RateCall.now

/-- The outcomes of the calls of one tenant. -/
def outcomesOf (limiter : VtokenRateLimiter) (vtoken : String)
    (calls : List RateCall) : List (Option RateLimitOutcome) :=
  ((limiter.trace calls).filter (·.1.vtoken = vtoken)).map Prod.snd

section Tenants

variable {vtoken : String} {policy : RatePolicy}

/-- With room for all tenants and a longest wait that fits, each has its bucket
for itself. -/
lemma outcomesOf_eq_tenantTrace (hlock : limiter.poisoned = false)
    (hrange : limiter.InRange) (hroom : limiter.Room calls)
    (hfits : Duration.Fits (1 / limiter.policy.rate)) :
    limiter.outcomesOf vtoken calls = tenantTrace limiter.policy (limiter.buckets.lookup vtoken)
        (timesOf vtoken calls) := by
  induction calls generalizing limiter with
  | nil => rfl
  | cons call calls ih =>
    have hnext := @ih (limiter.step call) (hrange.not_poisoned_step hfits hlock call)
      (hrange.step call) hroom.step (by rw [policy_step]; exact hfits)
    have hfor : limiter.bucketFor call = (limiter.buckets.lookup call.vtoken).getD
          ⟨⟨limiter.policy.burst, call.now⟩, 0⟩ := by
      rw [bucketFor, hroom.evicted]
    rw [policy_step, lookup_step hlock, hroom.evicted] at hnext
    unfold outcomesOf timesOf at hnext ⊢
    rw [trace]
    by_cases hown : call.vtoken = vtoken
    · rw [if_pos hown.symm] at hnext
      rw [List.filter_cons_of_pos (by simpa using hown),
        List.filter_cons_of_pos (by simpa using hown), List.map_cons,
        List.map_cons, hnext, tenantTrace, checkAt_of_not_poisoned hlock,
        hfor, hown]
    · rw [if_neg (Ne.symm hown)] at hnext
      rw [List.filter_cons_of_neg (by simpa using hown),
        List.filter_cons_of_neg (by simpa using hown), hnext]

/-- A tenant passes as often as its token bucket lets it. -/
lemma countP_tenantTrace (bucket : RateBucket) (times : List ℚ) :
    (tenantTrace policy (some bucket) times).countP RateLimitOutcome.isAllowed =
      bucket.toTokenBucket.passed policy.rate policy.burst times := by
  induction times generalizing bucket with
  | nil => rfl
  | cons now later ih =>
    rw [tenantTrace, List.countP_cons, ih, RateBucket.charge_toTokenBucket, add_comm]
    simp only [RateBucket.isAllowed_charge]
    rfl

/-- In a stretch of time a tenant has at most the burst and what the rate
gives. -/
lemma countP_tenantTrace_le {bucket : Option RateBucket}
    (hwithin : ∀ own ∈ bucket, own.toTokenBucket.Within policy.burst)
    {times : List ℚ} {start length : ℚ} (hordered : times.Pairwise (· ≤ ·))
    (hwindow : ∀ time ∈ times, start ≤ time ∧ time ≤ start + length) (hlength : 0 ≤ length) :
    ((tenantTrace policy bucket times).countP RateLimitOutcome.isAllowed : ℚ) ≤
      policy.burst + policy.rate * length := by
  have hsome : ∀ own, own.toTokenBucket.Within policy.burst →
      ((tenantTrace policy (some own) times).countP
          RateLimitOutcome.isAllowed) ≤
        policy.burst + policy.rate * length := by
    intro own hown
    have hle := passed_le_of_window policy.rate_pos.le
      policy.burst_nonneg hown hordered hwindow (by linarith)
    rw [countP_tenantTrace]
    linarith [mul_comm policy.rate length]
  cases bucket with
  | some own => exact hsome own (hwithin own rfl)
  | none =>
    cases times with
    | nil =>
      have hmore := mul_nonneg policy.rate_pos.le hlength
      have hburst := policy.burst_nonneg
      simp only [tenantTrace, List.countP_nil, Nat.cast_zero]
      linarith
    | cons now later =>
      exact hsome _ ⟨policy.burst_nonneg, le_rfl⟩

end Tenants

/-- The calls of one tenant at these times. -/
def callsAt (vtoken : String) (times : List ℚ) : List RateCall :=
  times.map fun now => ⟨vtoken, now, 0⟩

/-- A call at this time returns. -/
def Returns (policy : RatePolicy) (bucket : TokenBucket ℚ) (now : ℚ) : Prop :=
  1 ≤ bucket.level policy.rate policy.burst now ∨
    Duration.Fits ((1 - bucket.level policy.rate policy.burst now) / policy.rate)

lemma returns_of_le {policy : RatePolicy} {bucket : TokenBucket ℚ}
    {now tokens : ℚ} (hfits : Duration.Fits ((1 - tokens) / policy.rate))
    (hle : tokens ≤ bucket.level policy.rate policy.burst now) : Returns policy bucket now := by
  by_cases hone : 1 ≤ bucket.level policy.rate policy.burst now
  · exact .inl hone
  · refine .inr (hfits.mono ?_ ?_)
    · exact div_nonneg (sub_nonneg.mpr (le_of_not_ge hone)) policy.rate_pos.le
    · exact div_le_div_of_nonneg_right (by linarith) policy.rate_pos.le

/-- So do all the calls at these times. -/
def Quiet (policy : RatePolicy) : TokenBucket ℚ → List ℚ → Prop :=
  EveryStep (after policy.rate policy.burst) (Returns policy)

/-- How many of the calls of a tenant at these times are admitted. -/
def admittedAt (limiter : VtokenRateLimiter) (vtoken : String) (times : List ℚ) : Nat :=
  (limiter.trace (callsAt vtoken times)).countP fun entry => RateLimitOutcome.isAllowed entry.2

section OneTenant

variable {vtoken : String} {bucket : RateBucket}

lemma callsAt_append (vtoken : String) (first later : List ℚ) :
    callsAt vtoken (first ++ later) = callsAt vtoken first ++ callsAt vtoken later :=
  List.map_append

lemma run_callsAt_append (limiter : VtokenRateLimiter) (vtoken : String) (first later : List ℚ) :
    run step limiter (callsAt vtoken (first ++ later)) =
      run step (run step limiter (callsAt vtoken first)) (callsAt vtoken later) := by
  rw [callsAt_append, run_append]

lemma admittedAt_append (limiter : VtokenRateLimiter) (vtoken : String) (first later : List ℚ) :
    limiter.admittedAt vtoken (first ++ later) = limiter.admittedAt vtoken first +
        (run step limiter (callsAt vtoken first)).admittedAt vtoken later := by
  rw [admittedAt, callsAt_append, trace_append, List.countP_append]
  rfl

lemma admittedAt_of_poisoned (hpoisoned : limiter.poisoned = true)
    (times : List ℚ) : limiter.admittedAt vtoken times = times.length := by
  induction times with
  | nil => rfl
  | cons now later ih =>
    have hstep : limiter.step ⟨vtoken, now, 0⟩ = limiter := by
      rw [step, checkAt_of_poisoned hpoisoned]
    simp only [admittedAt, callsAt, List.map_cons, trace, hstep,
      List.countP_cons, checkAt_of_poisoned hpoisoned] at ih ⊢
    rw [ih]
    rfl

/-- While its calls return, a tenant that has a bucket has what its bucket
gives. -/
lemma run_of_quiet (hlock : limiter.poisoned = false)
    (hbucket : limiter.buckets.lookup vtoken = some bucket) {times : List ℚ}
    (hquiet : Quiet limiter.policy bucket.toTokenBucket times) :
    limiter.admittedAt vtoken times =
        bucket.toTokenBucket.passed limiter.policy.rate limiter.policy.burst times ∧
      (run step limiter (callsAt vtoken times)).poisoned = false ∧
      (run step limiter (callsAt vtoken times)).policy = limiter.policy ∧
      ∃ later, (run step limiter (callsAt vtoken times)).buckets.lookup vtoken = some later ∧
        later.toTokenBucket = bucket.toTokenBucket.run limiter.policy.rate
          limiter.policy.burst times := by
  induction times generalizing limiter bucket with
  | nil => exact ⟨rfl, hlock, rfl, bucket, hbucket, rfl⟩
  | cons now later ih =>
    obtain ⟨hreturns, hrest⟩ := hquiet
    have hfor : limiter.bucketFor ⟨vtoken, now, 0⟩ = bucket :=
      bucketFor_of_lookup hbucket
    have houtcome := checkAt_of_not_poisoned hlock ⟨vtoken, now, 0⟩
    have hopen : (limiter.step ⟨vtoken, now, 0⟩).poisoned = false := by
      rw [poisoned_step hlock, houtcome, hfor, Option.isNone_eq_false_iff]
      exact RateBucket.isSome_charge.mpr hreturns
    have hlookup : (limiter.step ⟨vtoken, now, 0⟩).buckets.lookup vtoken =
        some (bucket.charge limiter.policy now).2 := by
      rw [lookup_step hlock, if_pos rfl, hfor]
    have hnext := @ih (limiter.step ⟨vtoken, now, 0⟩) _ hopen hlookup (by
      rw [RateBucket.charge_toTokenBucket, policy_step]
      exact hrest)
    rw [RateBucket.charge_toTokenBucket, policy_step] at hnext
    obtain ⟨hcount, hnot, hpolicy, last, hlast, heq⟩ := hnext
    refine ⟨?_, hnot, hpolicy, last, hlast, heq⟩
    simp only [admittedAt, callsAt, List.map_cons, trace, List.countP_cons] at hcount ⊢
    rw [hcount, houtcome, hfor, add_comm]
    simp only [RateBucket.isAllowed_charge]
    rfl

/-- A call with no whole token and a wait that does not fit panics. -/
lemma poisoned_of_not_returns (hlock : limiter.poisoned = false)
    (hbucket : limiter.buckets.lookup vtoken = some bucket) {now : ℚ}
    (hnot : ¬ Returns limiter.policy bucket.toTokenBucket now) :
    (limiter.step ⟨vtoken, now, 0⟩).poisoned = true := by
  have hfor : limiter.bucketFor ⟨vtoken, now, 0⟩ = bucket :=
    bucketFor_of_lookup hbucket
  rw [poisoned_step hlock, checkAt_of_not_poisoned hlock, hfor,
    ← Bool.not_eq_false, Option.isNone_eq_false_iff, RateBucket.isSome_charge]
  exact hnot

lemma quiet_replicate {policy : RatePolicy} {bucket : TokenBucket ℚ} {now : ℚ} {n : Nat}
    (hwhole : (n : ℚ) ≤ bucket.level policy.rate policy.burst now) :
    Quiet policy bucket (List.replicate n now) := by
  induction n generalizing bucket with
  | zero => trivial
  | succ n ih =>
    obtain ⟨hone, hrest⟩ := one_le_of_succ_le hwhole
    refine ⟨.inl hone, ih ?_⟩
    rw [level_after_of_one_le hone]
    exact hrest

lemma quiet_replicate_of_fits {policy : RatePolicy} {bucket : TokenBucket ℚ} {now : ℚ}
    (hone : ¬ 1 ≤ bucket.level policy.rate policy.burst now)
    (hfits : Duration.Fits ((1 - bucket.level policy.rate policy.burst now) / policy.rate))
    (n : Nat) : Quiet policy bucket (List.replicate n now) := by
  induction n generalizing bucket with
  | zero => trivial
  | succ n ih =>
    have hsame := level_after_of_not_one_le hone
    exact ⟨.inr hfits, ih (hsame.symm ▸ hone) (hsame.symm ▸ hfits)⟩

lemma quiet_append {policy : RatePolicy} {bucket : TokenBucket ℚ} {first later : List ℚ} :
    Quiet policy bucket (first ++ later) ↔ Quiet policy bucket first ∧
        Quiet policy (bucket.run policy.rate policy.burst first) later :=
  everyStep_append

end OneTenant

end VtokenRateLimiter

end IlinkHub
