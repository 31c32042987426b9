/-
The rate limiter under retuning (`set_limits` of `hub/rate_limit.rs`).  The two
stores of `set_limits` take no lock, so they are events of their own, and a call
may come between them.  Buckets keep their tokens when the burst shrinks.
-/
import IlinkHub.RateLimitBounds

namespace IlinkHub

open Transition RateBucket

lemma sanitizeRate_pos (ratePerSec : ℚ) : 0 < sanitizeRate ratePerSec :=
  (RatePolicy.new ratePerSec 1).rate_pos

lemma one_le_sanitizeBurst (burst : ℚ) : 1 ≤ sanitizeBurst burst :=
  (RatePolicy.new 1 burst).one_le_burst

def RatePolicy.storeRate (policy : RatePolicy) (ratePerSec : ℚ) : RatePolicy :=
  { policy with
    rate := sanitizeRate ratePerSec
    rate_pos := sanitizeRate_pos ratePerSec }

def RatePolicy.storeBurst (policy : RatePolicy) (burst : ℚ) : RatePolicy :=
  { policy with
    burst := sanitizeBurst burst
    one_le_burst := one_le_sanitizeBurst burst }

/-- What happens to a limiter. -/
inductive LimiterEvent where
  | storeRate (ratePerSec : ℚ)
  | storeBurst (burst : ℚ)
  | check (call : RateCall)
deriving DecidableEq

/-- `set_limits`. -/
def LimiterEvent.setLimits (ratePerSec burst : ℚ) : List LimiterEvent :=
  [.storeRate ratePerSec, .storeBurst burst]

namespace VtokenRateLimiter

variable {limiter : VtokenRateLimiter}

def handle (limiter : VtokenRateLimiter) : LimiterEvent → VtokenRateLimiter
  | .storeRate ratePerSec =>
    { limiter with policy := limiter.policy.storeRate ratePerSec }
  | .storeBurst burst =>
    { limiter with policy := limiter.policy.storeBurst burst }
  | .check call => limiter.step call

/-- The seconds that a call turns into a `Duration`, if it comes to that. -/
def secsOf (limiter : VtokenRateLimiter) (call : RateCall) : Option ℚ :=
  if limiter.poisoned ∨ 1 ≤ (limiter.bucketFor call).level limiter.policy call.now then none
  else some ((limiter.bucketFor call).wait limiter.policy call.now)

/-- A call that returns and leaves the lock as it should be. -/
structure Answered (limiter : VtokenRateLimiter) (call : RateCall) : Prop where
  secs : ∀ secs, limiter.secsOf call = some secs → 0 ≤ secs ∧ secs < 18446744073709551616
  outcome : (limiter.checkAt call).1.isSome = true
  lock : (limiter.step call).poisoned = false

/-- The same of an event: the stores are atomic. -/
def Safe (limiter : VtokenRateLimiter) : LimiterEvent → Prop
  | .storeRate _ | .storeBurst _ => True
  | .check call => limiter.Answered call

/-- What keeps a limiter from panicking under every policy it may get. -/
structure Tunable (limiter : VtokenRateLimiter) : Prop where
  lock : limiter.poisoned = false
  tokens : ∀ vtoken bucket, limiter.buckets.lookup vtoken = some bucket → 0 ≤ bucket.tokens
  fits : Duration.Fits (1 / limiter.policy.rate)

lemma tunable_new {policy : RatePolicy}
    (hfits : Duration.Fits (1 / policy.rate)) : (new policy).Tunable where
  lock := rfl
  tokens := by
    intro vtoken bucket hbucket
    cases hbucket
  fits := hfits

lemma Tunable.bucketFor (htunable : limiter.Tunable) (call : RateCall) :
    0 ≤ (limiter.bucketFor call).tokens := by
  unfold VtokenRateLimiter.bucketFor
  cases hlookup : (limiter.evicted call).lookup call.vtoken with
  | none => exact limiter.policy.burst_nonneg
  | some bucket => exact htunable.tokens _ _ (lookup_evicted hlookup)

lemma Tunable.level_nonneg (htunable : limiter.Tunable) (call : RateCall) :
    0 ≤ (limiter.bucketFor call).level limiter.policy call.now :=
  TokenBucket.level_nonneg limiter.policy.rate_pos.le
    limiter.policy.burst_nonneg (htunable.bucketFor call)

lemma Tunable.answered (htunable : limiter.Tunable) (call : RateCall) : limiter.Answered call := by
  have hwait :=
    fun hlow => fits_wait htunable.fits (htunable.level_nonneg call) (le_of_not_ge hlow)
  have hsome : (limiter.checkAt call).1.isSome = true := by
    rw [checkAt_of_not_poisoned htunable.lock, isSome_charge]
    exact (em _).imp_right hwait
  refine ⟨?_, hsome, ?_⟩
  · intro secs hsecs
    unfold secsOf at hsecs
    split at hsecs
    · cases hsecs
    · next hdenied =>
      cases hsecs
      exact (hwait fun hone => hdenied (.inr hone)).lt_end
  · rw [poisoned_step htunable.lock, Option.isNone_eq_false_iff]
    exact hsome

lemma Tunable.step (htunable : limiter.Tunable) (call : RateCall) :
    (limiter.step call).Tunable where
  lock := (htunable.answered call).lock
  tokens := by
    intro vtoken bucket hbucket
    rw [lookup_step htunable.lock] at hbucket
    split at hbucket
    · cases hbucket
      rw [charge_toTokenBucket]
      exact TokenBucket.after_nonneg limiter.policy.rate_pos.le
        limiter.policy.burst_nonneg (htunable.bucketFor call)
    · exact htunable.tokens _ _ (lookup_evicted hbucket)
  fits := by
    rw [policy_step]
    exact htunable.fits

/-- A rate may be stored whose tokens come in time. -/
def InTime : LimiterEvent → Prop
  | .storeRate ratePerSec => Duration.Fits (1 / sanitizeRate ratePerSec)
  | .storeBurst _ | .check _ => True

lemma Tunable.handle (htunable : limiter.Tunable) {event : LimiterEvent}
    (hevent : InTime event) : (limiter.handle event).Tunable := by
  cases event with
  | storeRate ratePerSec =>
    exact ⟨htunable.lock, htunable.tokens, hevent⟩
  | storeBurst burst =>
    exact ⟨htunable.lock, htunable.tokens, htunable.fits⟩
  | check call => exact htunable.step call

lemma Tunable.safe (htunable : limiter.Tunable) (event : LimiterEvent) : limiter.Safe event := by
  cases event with
  | storeRate ratePerSec => trivial
  | storeBurst burst => trivial
  | check call => exact htunable.answered call

lemma not_poisoned_of_everyStep (hlock : limiter.poisoned = false) {calls : List RateCall}
    (hsafe : EveryStep handle Safe limiter (calls.map .check)) :
    (run step limiter calls).poisoned = false := by
  induction calls generalizing limiter with
  | nil => exact hlock
  | cons call calls ih => exact ih hsafe.1.lock hsafe.2

/-- With the rates of a list, no call of any run panics, exactly if the time for
one token is a `Duration` at each of them. -/
theorem everyStep_safe_iff (ratePerSec burst : ℚ) (rates : List ℚ) :
    (∀ events : List LimiterEvent,
      (∀ rate, LimiterEvent.storeRate rate ∈ events → rate ∈ rates) →
        EveryStep handle Safe (new (RatePolicy.new ratePerSec burst)) events) ↔
      ∀ rate ∈ ratePerSec :: rates, Duration.Fits (1 / sanitizeRate rate) := by
  constructor
  · intro hsafe rate hrate
    by_contra hlong
    -- A limiter that gets the rate before its first call comes to a wait that
    -- is too long.
    obtain ⟨policy, events, hpolicy, hevents, hnew⟩ :
        ∃ policy events, policy.rate = sanitizeRate rate ∧
          (∀ stored, .storeRate stored ∈ events → stored ∈ rates) ∧
          run handle (new (.new ratePerSec burst)) events = new policy := by
      rcases List.mem_cons.mp hrate with rfl | hrates
      · exact ⟨_, [], rfl, fun _ hmem => absurd hmem List.not_mem_nil, rfl⟩
      · refine ⟨((RatePolicy.new ratePerSec burst).storeRate rate).storeBurst
          burst, LimiterEvent.setLimits rate burst, rfl, ?_, rfl⟩
        intro stored hmem
        rw [LimiterEvent.setLimits, List.mem_cons, List.mem_singleton,
          or_iff_left (by rintro ⟨⟩)] at hmem
        obtain rfl := LimiterEvent.storeRate.inj hmem
        exact hrates
    rw [← hpolicy] at hlong
    obtain ⟨n, wait, -, hpoisoned⟩ := exists_poisoning_new hlong ""
    have hall := hsafe (events ++ (callsAt ""
      (List.replicate n 0 ++ [wait] ++ [wait])).map .check) ?_
    · rw [everyStep_append, hnew] at hall
      have hlock := not_poisoned_of_everyStep rfl hall.2
      rw [hlock] at hpoisoned
      cases hpoisoned
    · intro stored hmem
      rcases List.mem_append.mp hmem with hold | hcheck
      · exact hevents stored hold
      · obtain ⟨call, -, hcall⟩ := List.mem_map.mp hcheck
        cases hcall
  · intro hfits events hstored
    have hnew := @tunable_new (.new ratePerSec burst) (hfits ratePerSec List.mem_cons_self)
    have hhandle : ∀ limiter event, Tunable limiter → InTime event →
        Tunable (handle limiter event) :=
      fun _ _ htunable hevent => htunable.handle hevent
    apply everyStep_of_invariant (fun _ event htunable _ => htunable.safe event) hhandle hnew
    intro event hevent
    cases event with
    | storeRate rate =>
      exact hfits rate (List.mem_cons_of_mem _ (hstored rate hevent))
    | storeBurst burst => trivial
    | check call => trivial

/-- One token in 10^20 seconds: the second of two calls at one time asks for
more seconds than a `Duration` has, panics and poisons the lock. -/
theorem not_safe_of_slow_rate :
    let limiter := new (RatePolicy.new (1 / 100000000000000000000) 1)
    let call : RateCall := ⟨"h1", 0, 0⟩
    (limiter.step call).secsOf call = some 100000000000000000000 ∧
      ((limiter.step call).checkAt call).1 = none ∧ ((limiter.step call).step call).poisoned =
      true ∧ ¬ EveryStep handle Safe limiter [.check call, .check call] := by
  intro limiter call
  have hnone : ((limiter.step call).checkAt call).1 = none := by
    decide +kernel
  refine ⟨by decide +kernel, hnone, by decide +kernel, ?_⟩
  rintro ⟨-, hsecond, -⟩
  have hsome : ((limiter.step call).checkAt call).1.isSome = true :=
    hsecond.outcome
  simp [hnone] at hsome

end VtokenRateLimiter

end IlinkHub
