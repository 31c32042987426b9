/-
Two things a caller of the rate limiter does with the clock: it waits as long as
a denial tells it to, and it comes with a time that another call has overtaken.
-/
import IlinkHub.RateLimitBounds

namespace IlinkHub

open TokenBucket RateLimitOutcome AList

/-- `retry_after_secs`: whole seconds to advertise.  `as u64` keeps 64 bits of the
milliseconds. -/
def retryAfterSecs (retryAfter : Duration) : Nat :=
  max ((retryAfter.asMillis % 18446744073709551616 + 999) / 1000) 1

/-- The wait is over a whole number of seconds by less than the millisecond that
`as_millis` shows. -/
def JustOver (wait : ℚ) : Prop :=
  ∃ secs : Nat, 1 ≤ secs ∧ (secs : ℚ) < wait ∧
    wait * 1000000000 < (secs : ℚ) * 1000000000 + 1000000 - 1 / 2

/-- The milliseconds of the wait have 64 bits. -/
def MillisFit (wait : ℚ) : Prop :=
  wait * 1000000000 < 18446744073709551616 * 1000000 - 1 / 2

section Rounding

variable {wait : ℚ} {retryAfter : Duration}

section Waits

variable (hretry : Duration.fromSecs wait = some retryAfter)

include hretry

lemma le_nanos_iff {n : Nat}
    (heven : n % 2 = 0) : n ≤ retryAfter.nanos ↔ (n : ℚ) - 1 / 2 ≤ wait * 1000000000 := by
  have hround := @le_roundTiesEven_iff (wait * 1000000000) n (by omega)
  have hzero := @le_roundTiesEven_iff (wait * 1000000000) 0 rfl
  rw [Int.cast_natCast] at hround
  rw [← hround]
  unfold Duration.fromSecs at hretry
  split at hretry
  · cases hretry
  · have hnonneg : 0 ≤ roundTiesEven (wait * 1000000000) := by
      rw [hzero]
      linarith
    simp only at hretry
    split at hretry
    · cases hretry
      simp only
      omega
    · cases hretry

lemma nanos_le : (retryAfter.nanos : ℚ) ≤ wait * 1000000000 + 3 / 2 := by
  have hle := (@le_nanos_iff _ _ hretry (retryAfter.nanos / 2 * 2) (by omega)).mp (by omega)
  have hnext : retryAfter.nanos ≤ retryAfter.nanos / 2 * 2 + 1 := by omega
  have hcast : retryAfter.nanos ≤
      ((retryAfter.nanos / 2 * 2 + 1 : Nat) : ℚ) := Nat.cast_le.mpr hnext
  rw [Nat.cast_succ] at hcast
  linarith

lemma millisFit_iff : MillisFit wait ↔ retryAfter.asMillis < 18446744073709551616 := by
  have hmany := @le_nanos_iff _ _ hretry (18446744073709551616 * 1000000) (by decide)
  have hcast : ((18446744073709551616 * 1000000 : Nat) : ℚ) =
      18446744073709551616 * 1000000 := by norm_num
  rw [hcast] at hmany
  rw [MillisFit, ← not_le, ← hmany, Duration.asMillis]
  omega

/-- What is cut off of the milliseconds makes up more than what is rounded
up. -/
lemma retryAfterSecs_lt_of_not_millisFit
    (hlong : ¬ MillisFit wait) : (retryAfterSecs retryAfter : ℚ) < wait := by
  rw [millisFit_iff hretry] at hlong
  have hnanos := nanos_le hretry
  have hmillis : (retryAfter.asMillis : ℚ) * 1000000 ≤ retryAfter.nanos := by
    exact_mod_cast Nat.div_mul_le_self retryAfter.nanos 1000000
  have hsecs : (retryAfterSecs retryAfter) * 1000 ≤
      ((retryAfter.asMillis % 18446744073709551616 : Nat) : ℚ) + 1000 := by
    have hup : retryAfterSecs retryAfter * 1000 ≤
        retryAfter.asMillis % 18446744073709551616 + 1000 := by
      rw [retryAfterSecs]
      omega
    exact_mod_cast hup
  have hrest : ((retryAfter.asMillis % 18446744073709551616 : Nat) : ℚ) +
      18446744073709551616 ≤ retryAfter.asMillis := by
    have hcut : retryAfter.asMillis % 18446744073709551616 +
        18446744073709551616 ≤ retryAfter.asMillis := by omega
    exact_mod_cast hcut
  linarith

/-- The advertised seconds cover the wait, unless its milliseconds are cut off or
show a whole number of seconds that is already over. -/
lemma le_retryAfterSecs_iff :
    wait ≤ retryAfterSecs retryAfter ↔ MillisFit wait ∧ ¬ JustOver wait := by
  by_cases hfit : MillisFit wait
  · have hfew := (millisFit_iff hretry).mp hfit
    have hsecs : retryAfterSecs retryAfter = max ((retryAfter.asMillis + 999) / 1000) 1 := by
      rw [retryAfterSecs, Nat.mod_eq_of_lt hfew]
    rw [and_iff_right hfit]
    constructor
    · rintro hle ⟨secs, hone, hover, hunder⟩
      have hlow := (@le_nanos_iff _ _ hretry (secs * 1000000000)
        (by omega)).mpr (by push_cast; linarith)
      have hhigh : ¬ secs * 1000000000 + 1000000 ≤ retryAfter.nanos := by
        rw [@le_nanos_iff _ _ hretry (secs * 1000000000 + 1000000) (by omega), not_le]
        push_cast
        exact hunder
      have hmillis : retryAfter.asMillis = secs * 1000 := by
        unfold Duration.asMillis
        omega
      have hshown : retryAfterSecs retryAfter = secs := by omega
      rw [hshown] at hle
      linarith
    · intro hnot
      by_contra hless
      refine hnot ⟨retryAfterSecs retryAfter, ?_, not_le.mp hless, ?_⟩
      · exact le_max_right _ _
      · have hhigh : ¬ retryAfterSecs retryAfter * 1000000000 + 1000000 ≤
            retryAfter.nanos := by
          unfold Duration.asMillis at hsecs
          omega
        rw [@le_nanos_iff _ _ hretry (retryAfterSecs retryAfter * 1000000000 + 1000000) (by omega),
          not_le] at hhigh
        push_cast at hhigh
        exact hhigh
  · have hless := retryAfterSecs_lt_of_not_millisFit hretry hfit
    exact iff_of_false (not_le.mpr hless) fun hboth => hfit hboth.1

end Waits

end Rounding

namespace VtokenRateLimiter

variable {limiter : VtokenRateLimiter} {call : RateCall}

section Waiting

variable {bucket : RateBucket} {retryAfter : Duration}

/-- While others call, a bucket stays as it is, is evicted or is behind a poisoned
lock. -/
def Untouched (vtoken : String) (bucket : RateBucket) (limiter : VtokenRateLimiter) : Prop :=
  limiter.poisoned = true ∨ limiter.buckets.lookup vtoken = none ∨
    limiter.buckets.lookup vtoken = some bucket

lemma Untouched.step {vtoken : String} (huntouched : Untouched vtoken bucket limiter)
    (hother : call.vtoken ≠ vtoken) : Untouched vtoken bucket (limiter.step call) := by
  cases hlock : limiter.poisoned with
  | true =>
    rw [VtokenRateLimiter.step, checkAt_of_poisoned hlock]
    exact huntouched
  | false =>
    refine .inr ?_
    rw [lookup_step hlock, if_neg (symm hother)]
    cases hlookup : (limiter.evicted call).lookup vtoken with
    | none => exact .inl rfl
    | some found =>
      have hfound := lookup_evicted hlookup
      rcases huntouched with hpoisoned | hnone | hsome
      · simp [hlock] at hpoisoned
      · simp [hnone] at hfound
      · exact .inr (hfound.symm.trans hsome)

lemma Untouched.run {vtoken : String} (huntouched : Untouched vtoken bucket limiter)
    {others : List RateCall} (hothers : ∀ other ∈ others, other.vtoken ≠ vtoken) :
    Untouched vtoken bucket (Transition.run .step limiter others) := by
  induction others generalizing limiter with
  | nil => exact huntouched
  | cons other others ih =>
    obtain ⟨hfirst, hrest⟩ := List.forall_mem_cons.mp hothers
    exact ih (huntouched.step hfirst) hrest

/-- A bucket of its own, a full one or no lock at all: the call is admitted if its
bucket would admit it. -/
lemma Untouched.isAllowed (huntouched : Untouched call.vtoken bucket limiter)
    (hone : 1 ≤ bucket.level limiter.policy call.now) :
    isAllowed (limiter.checkAt call).1 = true := by
  cases hlock : limiter.poisoned with
  | true =>
    rw [checkAt_of_poisoned hlock]
    rfl
  | false =>
    rw [checkAt_of_not_poisoned hlock, RateBucket.isAllowed_charge]
    rcases huntouched with hpoisoned | hnone | hsome
    · simp [hlock] at hpoisoned
    · have hevicted : (limiter.evicted call).lookup call.vtoken = none := by
        rw [Option.eq_none_iff_forall_ne_some]
        intro found hfound
        simp [lookup_evicted hfound] at hnone
      rw [bucketFor, hevicted]
      simp [RateBucket.level, level, limiter.policy.one_le_burst]
    · rw [bucketFor_of_lookup hsome]
      exact hone

/-- A call is denied in a bucket without a whole token, for the time until there
is one. -/
lemma lt_one_of_denied (hdenied : (limiter.checkAt call).1 = some (.denied retryAfter)) :
    limiter.poisoned = false ∧ (limiter.bucketFor call).level limiter.policy call.now < 1 ∧
      Duration.fromSecs ((limiter.bucketFor call).wait limiter.policy
        call.now) = some retryAfter := by
  cases hlock : limiter.poisoned with
  | true =>
    simp [checkAt_of_poisoned hlock] at hdenied
  | false =>
    rw [checkAt_of_not_poisoned hlock] at hdenied
    by_cases hone : 1 ≤ (limiter.bucketFor call).level limiter.policy call.now
    · simp [RateBucket.charge_of_one_le hone] at hdenied
    · have hless := not_le.mp hone
      rw [RateBucket.charge_of_lt hless] at hdenied
      obtain ⟨wait, hwait, heq⟩ := Option.map_eq_some_iff.mp hdenied
      obtain rfl := denied.inj heq
      exact ⟨rfl, hless, hwait⟩

/-- After a denial the bucket has a whole token when the wait is over. -/
lemma one_le_level_charge_iff {policy : RatePolicy} {now secs : ℚ}
    (hless : bucket.level policy now < 1) (hsecs : 0 ≤ secs) :
    1 ≤ (bucket.charge policy now).2.level policy (now + secs) ↔ bucket.wait policy now ≤ secs := by
  have hafter : (bucket.charge policy now).2.toTokenBucket = ⟨bucket.level policy now, now⟩ := by
    rw [RateBucket.charge_toTokenBucket]
    exact after_of_not_one_le (not_le.mpr hless)
  rw [RateBucket.wait, div_le_iff₀ policy.rate_pos, RateBucket.level, hafter,
    level, le_min_iff, and_iff_left policy.one_le_burst,
    add_sub_cancel_left, max_eq_left hsecs, sub_le_iff_le_add']

/-- The advertised wait is enough exactly if its milliseconds have 64 bits and it
is not just over a whole number of seconds. -/
theorem retryAfterSecs_suffices_iff
    (hdenied : (limiter.checkAt call).1 = some (.denied retryAfter)) :
    (∀ (others : List RateCall) (tie : Nat),
      (∀ other ∈ others, other.vtoken ≠ call.vtoken) → isAllowed
          ((Transition.run step (limiter.step call) others).checkAt
            ⟨call.vtoken, call.now + retryAfterSecs retryAfter, tie⟩).1 = true) ↔
      MillisFit ((limiter.bucketFor call).wait limiter.policy call.now) ∧
        ¬ JustOver ((limiter.bucketFor call).wait limiter.policy call.now) := by
  obtain ⟨hlock, hless, hwait⟩ := lt_one_of_denied hdenied
  rw [← le_retryAfterSecs_iff hwait, ← one_le_level_charge_iff hless (Nat.cast_nonneg _)]
  have hlookup := lookup_step hlock call call.vtoken
  rw [if_pos rfl] at hlookup
  constructor
  · intro hallowed
    have hnow := hallowed [] 0 (fun other hother =>
      absurd hother List.not_mem_nil)
    have hopen : (limiter.step call).poisoned = false := by
      rw [poisoned_step hlock, hdenied]
      rfl
    have hfor := @bucketFor_of_lookup (limiter.step call)
      ⟨call.vtoken, call.now + retryAfterSecs retryAfter, 0⟩ _ hlookup
    rw [Transition.run_nil, checkAt_of_not_poisoned hopen,
      RateBucket.isAllowed_charge, hfor, policy_step] at hnow
    exact hnow
  · intro hone others tie hothers
    have huntouched : Untouched call.vtoken _ (limiter.step call) :=
      .inr (.inr hlookup)
    refine @Untouched.isAllowed _ ⟨call.vtoken, _, tie⟩ _ (huntouched.run hothers) ?_
    rw [policy_run, policy_step]
    exact hone

/-- Half a second is advertised as one, whatever others do. -/
theorem retryAfterSecs_of_half :
    let limiter := (new (RatePolicy.new 2 1)).step ⟨"h1", 0, 0⟩
    let half : Duration := ⟨500000000, by decide⟩
    (limiter.checkAt ⟨"h1", 0, 0⟩).1 = some (.denied half) ∧ isAllowed
        ((Transition.run step (limiter.step ⟨"h1", 0, 0⟩) [⟨"h2", 0, 0⟩]).checkAt
            ⟨"h1", 0 + retryAfterSecs half, 0⟩).1 = true := by
  intro limiter half
  have hdenied : (limiter.checkAt ⟨"h1", 0, 0⟩).1 = some (.denied half) := by
    decide +kernel
  have hwait : (limiter.bucketFor ⟨"h1", 0, 0⟩).wait limiter.policy 0 = 1 / 2 := by decide +kernel
  refine ⟨hdenied, (retryAfterSecs_suffices_iff hdenied).mpr ?_ [⟨"h2", 0, 0⟩] 0 (by decide)⟩
  rw [hwait]
  refine ⟨by norm_num [MillisFit], ?_⟩
  rintro ⟨secs, hone, hover, -⟩
  have hcast : (1 : ℚ) ≤ secs := Nat.one_le_cast.mpr hone
  linarith

/-- At 0.9995 tokens a second the wait of 1.0005 seconds is advertised as one
second, and then the next call is denied as well. -/
theorem retryAfterSecs_not_enough :
    let limiter := (new (RatePolicy.new (9995 / 10000) 1)).step ⟨"h1", 0, 0⟩
    let retryAfter : Duration := ⟨1000500250, by decide⟩
    (limiter.checkAt ⟨"h1", 0, 0⟩).1 = some (.denied retryAfter) ∧ retryAfterSecs retryAfter = 1 ∧
      isAllowed
        ((limiter.step ⟨"h1", 0, 0⟩).checkAt ⟨"h1", 0 + 1, 0⟩).1 = false := by
  decide +kernel

end Waiting

/-- The calls that are admitted. -/
def admitted (limiter : VtokenRateLimiter) (calls : List RateCall) : Nat :=
  (limiter.trace calls).countP fun entry => isAllowed entry.2

/-- The calls of all tenants but one, with their outcomes. -/
def traceOfOthers (limiter : VtokenRateLimiter) (vtoken : String)
    (calls : List RateCall) : List (RateCall × Option RateLimitOutcome) :=
  (limiter.trace calls).filter fun entry => !decide (entry.1.vtoken = vtoken)

section Tenants

variable {other : VtokenRateLimiter} {calls : List RateCall} {vtoken : String}

/-- Apart from one tenant two limiters with the same buckets say the same. -/
lemma traceOfOthers_eq (hopen : limiter.Open) (hother : other.Open)
    (hpolicy : limiter.policy = other.policy) (hroom : limiter.Room calls)
    (hotherRoom : other.Room calls)
    (hsame : ∀ own, own ≠ vtoken → limiter.buckets.lookup own = other.buckets.lookup own) :
    limiter.traceOfOthers vtoken calls = other.traceOfOthers vtoken calls := by
  induction calls generalizing limiter other with
  | nil => rfl
  | cons call calls ih =>
    have hfor : ∀ own, own ≠ vtoken → own = call.vtoken →
        limiter.bucketFor call = other.bucketFor call := by
      intro own hown heq
      rw [bucketFor, bucketFor, hroom.evicted, hotherRoom.evicted,
        hsame call.vtoken (heq ▸ hown), hpolicy]
    have hrest := ih (hopen.step call) (hother.step call)
      (by rw [policy_step, policy_step, hpolicy]) hroom.step hotherRoom.step (by
        intro own hown
        rw [lookup_step hopen.lock, lookup_step hother.lock, hroom.evicted,
          hotherRoom.evicted, hsame own hown]
        split
        · next heq => rw [hfor own hown heq, hpolicy]
        · rfl)
    unfold traceOfOthers at hrest ⊢
    rw [trace, trace, List.filter_cons, List.filter_cons, hrest]
    by_cases hown : call.vtoken = vtoken
    · simp [hown]
    · rw [checkAt_of_not_poisoned hopen.lock,
        checkAt_of_not_poisoned hother.lock, hfor _ hown rfl, hpolicy]

lemma admitted_eq_add (limiter : VtokenRateLimiter) (vtoken : String) (calls : List RateCall) :
    limiter.admitted calls = (limiter.outcomesOf vtoken calls).countP isAllowed +
        (limiter.traceOfOthers vtoken calls).countP fun entry => isAllowed entry.2 := by
  rw [outcomesOf, List.countP_map]
  exact List.countP_eq_countP_filter_add _ _ _

/-- A tenant that never finds more in its bucket than elsewhere is admitted no
more often. -/
lemma admitted_le_of_level_le (hopen : limiter.Open) (hother : other.Open)
    (hpolicy : limiter.policy = other.policy) (hroom : limiter.Room calls)
    (hotherRoom : other.Room calls)
    (hsame : ∀ own, own ≠ vtoken → limiter.buckets.lookup own = other.buckets.lookup own)
    {low high : RateBucket} (hlow : limiter.buckets.lookup vtoken = some low)
    (hhigh : other.buckets.lookup vtoken = some high)
    (hlevel : ∀ now, low.level other.policy now ≤ high.level other.policy now) :
    limiter.admitted calls ≤ other.admitted calls := by
  rw [admitted_eq_add limiter vtoken, admitted_eq_add other vtoken,
    traceOfOthers_eq hopen hother hpolicy hroom hotherRoom hsame,
    outcomesOf_eq_tenantTrace hopen.lock hopen.range hroom hopen.fits,
    outcomesOf_eq_tenantTrace hother.lock hother.range hotherRoom hother.fits,
    hlow, hhigh, countP_tenantTrace, countP_tenantTrace, hpolicy]
  exact Nat.add_le_add_right (passed_le_of_level_le hlevel _) _

end Tenants

section Probes

variable {other : VtokenRateLimiter} {vtoken : String} {bucket low high : RateBucket}

/-- After calls that use up whole tokens, one more call shows what is left. -/
lemma admittedAt_probe (hlock : limiter.poisoned = false)
    (hbucket : limiter.buckets.lookup vtoken = some bucket) {now later : ℚ}
    (hlast : bucket.last ≤ now) {n : Nat} (hwhole : (n : ℚ) ≤ bucket.level limiter.policy now)
    (hlater : now ≤ later) :
    limiter.admittedAt vtoken (List.replicate n now ++ [later]) =
      n + if 1 ≤ bucket.level limiter.policy now - n +
        (later - now) * limiter.policy.rate then 1 else 0 := by
  obtain ⟨hcount, hopen, hpolicy, left, hleft, heq⟩ :=
    run_of_quiet hlock hbucket (quiet_replicate hwhole)
  have hlevel := level_run_replicate limiter.policy.rate_pos.le hlast hwhole hlater
  rw [← heq] at hlevel
  rw [admittedAt_append, hcount, passed_replicate hwhole]
  set used := Transition.run step limiter (callsAt vtoken (List.replicate n now))
  have hfor : used.bucketFor ⟨vtoken, later, 0⟩ = left :=
    bucketFor_of_lookup hleft
  have hone : isAllowed (used.checkAt ⟨vtoken, later, 0⟩).1 = true ↔ 1 ≤
      bucket.level limiter.policy now - n + (later - now) * limiter.policy.rate := by
    rw [checkAt_of_not_poisoned hopen, RateBucket.isAllowed_charge, hfor,
      hpolicy, RateBucket.level, hlevel, le_min_iff,
      and_iff_left limiter.policy.one_le_burst]
    rfl
  simp [admittedAt, callsAt, trace, hone]

/-- Who finds more at one time can be admitted more often. -/
lemma exists_admittedAt_lt (hlock : limiter.poisoned = false)
    (hlow : limiter.buckets.lookup vtoken = some low) (hother : other.poisoned = false)
    (hhigh : other.buckets.lookup vtoken = some high) (hpolicy : other.policy = limiter.policy)
    {now : ℚ} (hlastLow : low.last ≤ now) (hlastHigh : high.last ≤ now)
    (hnonneg : 0 ≤ low.level limiter.policy now)
    (hlt : low.level limiter.policy now < high.level limiter.policy now) :
    ∃ times, limiter.admittedAt vtoken times < other.admittedAt vtoken times := by
  have hfloor := Nat.floor_le hnonneg
  have hnext := Nat.lt_floor_add_one (low.level limiter.policy now)
  generalize ⌊low.level limiter.policy now⌋₊ = n at hfloor hnext
  have hwait : 0 ≤ max (1 - (high.level limiter.policy now - n)) 0 / limiter.policy.rate :=
    div_nonneg (le_max_right _ _) limiter.policy.rate_pos.le
  -- The whole tokens of the poorer one are used up, and then comes a call when
  -- the richer one has a whole token again.
  refine ⟨List.replicate n now ++ [now +
    max (1 - (high.level limiter.policy now - n)) 0 / limiter.policy.rate], ?_⟩
  rw [admittedAt_probe hlock hlow hlastLow hfloor (le_add_of_nonneg_right hwait),
    admittedAt_probe hother hhigh hlastHigh (by rw [hpolicy]; exact hfloor.trans hlt.le)
      (le_add_of_nonneg_right hwait), hpolicy, add_sub_cancel_left,
    div_mul_cancel₀ _ limiter.policy.rate_pos.ne', if_neg, if_pos]
  · exact Nat.lt_succ_self n
  · have hmax := le_max_left (1 - (high.level limiter.policy now - n)) 0
    linarith
  · rcases max_cases (1 - (high.level limiter.policy now - n)) 0 with
      ⟨heq, -⟩ | ⟨heq, -⟩
    · linarith
    · linarith

/-- A tenant can be denied as often as it likes without a panic. -/
lemma exists_denied (hlock : limiter.poisoned = false)
    (hbucket : limiter.buckets.lookup vtoken = some bucket)
    (hwithin : bucket.toTokenBucket.Within limiter.policy.burst) (more : Nat) :
    ∃ times, limiter.admittedAt vtoken times + more ≤ times.length := by
  have hpos := limiter.policy.rate_pos
  have hlevel := @level_of_le_last ℚ _ _ limiter.policy.rate
    limiter.policy.burst bucket.toTokenBucket bucket.last _ le_rfl hwithin.le
  have hfloor := Nat.floor_le hwithin.nonneg
  have hnext := Nat.lt_floor_add_one bucket.tokens
  generalize ⌊bucket.tokens⌋₊ = n at hfloor hnext
  -- The fraction of a token that is left when the wait is a second or less.
  obtain ⟨part, hpart, hless, hsecond⟩ : ∃ part, bucket.tokens - n ≤ part ∧
      part < 1 ∧ 1 - part ≤ limiter.policy.rate :=
    ⟨max (bucket.tokens - n) (1 - limiter.policy.rate), le_max_left _ _,
      max_lt (by linarith) (by linarith),
      by linarith [le_max_right (bucket.tokens - n) (1 - limiter.policy.rate)]⟩
  have hwait : 0 ≤ (part - (bucket.tokens - n)) / limiter.policy.rate :=
    div_nonneg (by linarith) hpos.le
  have hwhole : n ≤ bucket.toTokenBucket.level limiter.policy.rate
      limiter.policy.burst bucket.last := by
    rw [hlevel]
    exact hfloor
  have hthen := level_run_replicate hpos.le le_rfl hwhole (le_add_of_nonneg_right hwait)
  rw [hlevel, add_sub_cancel_left, div_mul_cancel₀ _ hpos.ne', add_sub_cancel,
    min_eq_left (hless.le.trans limiter.policy.one_le_burst)] at hthen
  have hnone := not_le.mpr hless
  rw [← hthen] at hnone hsecond
  have hfits : Duration.Fits 1 := by norm_num [Duration.Fits, durationEnd]
  have hquiet := quiet_append.mpr ⟨quiet_replicate hwhole, quiet_replicate_of_fits hnone (hfits.mono
      (div_nonneg (sub_nonneg.mpr (le_of_not_ge hnone)) hpos.le)
      ((div_le_one hpos).mpr hsecond)) more⟩
  refine ⟨List.replicate n bucket.last ++ List.replicate more (bucket.last +
    (part - (bucket.tokens - n)) / limiter.policy.rate), le_of_eq ?_⟩
  rw [(run_of_quiet hlock hbucket hquiet).1, passed_append, passed_replicate hwhole,
    passed_replicate_of_not_one_le hnone, List.length_append,
    List.length_replicate, List.length_replicate, add_zero]

end Probes

section Stale

variable {other : VtokenRateLimiter} {vtoken : String} {bucket behind : RateBucket} {stale : ℚ}

/-- Of two runs only one comes to a panic: then it can be admitted more often. -/
lemma exists_admittedAt_lt_of_poisoned {first : List ℚ} (hother : (Transition.run step other
      (callsAt vtoken first)).poisoned = true) (hlock : limiter.poisoned = false)
    (hbucket : limiter.buckets.lookup vtoken = some bucket)
    (hwithin : bucket.toTokenBucket.Within limiter.policy.burst)
    (hquiet : Quiet limiter.policy bucket.toTokenBucket first) :
    ∃ times, limiter.admittedAt vtoken times < other.admittedAt vtoken times := by
  obtain ⟨-, hopen, hpolicy, left, hleft, heq⟩ :=
    run_of_quiet hlock hbucket hquiet
  obtain ⟨later, hlater⟩ := exists_denied hopen hleft (by
      rw [heq, hpolicy]
      exact hwithin.run limiter.policy.rate_pos.le limiter.policy.burst_nonneg first)
    (limiter.admittedAt vtoken first + 1)
  refine ⟨first ++ later, ?_⟩
  rw [admittedAt_append, admittedAt_append, admittedAt_of_poisoned hother]
  omega

/-- A bucket that is one token and some time behind comes to a panic while the
other one does not. -/
lemma exists_poisoned_of_behind {policy : RatePolicy} (hother : other.poisoned = false)
    (hpolicy : other.policy = policy) (hbehind : other.buckets.lookup vtoken = some behind)
    (hbucket : bucket.toTokenBucket.Within policy.burst) (hone : 1 ≤ bucket.tokens)
    (hstale : stale < bucket.last) (heq : behind.toTokenBucket = ⟨bucket.tokens - 1, stale⟩)
    (hlong : ¬ Duration.Fits (1 / policy.rate)) : ∃ first,
    (Transition.run step other (callsAt vtoken first)).poisoned = true ∧
      Quiet policy bucket.toTokenBucket first := by
  have hrate := policy.rate_pos
  have hwithin : behind.toTokenBucket.Within other.policy.burst := by
    rw [heq, hpolicy]
    exact ⟨sub_nonneg.mpr hone, by linarith [hbucket.le]⟩
  have hpanic := poisoned_exhausted hother hbehind hwithin (by rw [hpolicy]; exact hlong)
  have hspent := poisoned_spent hother hbehind hwithin
  have htokens := congrArg tokens heq
  have hlast := congrArg last heq
  have hfloor := Nat.floor_le hwithin.nonneg
  rw [exhausting] at hpanic
  generalize ⌊behind.tokens⌋₊ = n at hpanic hspent hfloor
  rw [hpolicy, htokens, hlast] at hpanic hspent
  have hquiet := @quiet_replicate policy bucket.toTokenBucket stale n (by
    rw [level_of_le_last hstale.le hbucket.le]
    linarith)
  have hused := @tokens_run_replicate ℚ _ _ policy.rate policy.burst
    bucket.toTokenBucket stale _ hstale.le hbucket.le n (by linarith)
  have hrun := hbucket.run hrate.le policy.burst_nonneg (List.replicate n stale)
  -- The calls that leave the one behind with a fraction of a token leave the
  -- other one with a whole token more.
  have hlevel : ∀ now, 1 + (bucket.tokens - 1 - n) ≤
      (bucket.toTokenBucket.run policy.rate policy.burst
        (List.replicate n stale)).level policy.rate policy.burst now := by
    intro now
    refine le_trans (le_of_eq ?_) (tokens_le_level hrate.le hrun.le)
    rw [hused]
    ring
  have hwhole : ∀ now, 1 ≤ (bucket.toTokenBucket.run policy.rate policy.burst
      (List.replicate n stale)).level policy.rate policy.burst now :=
    fun now => by linarith [hlevel now]
  by_cases hpart : Duration.Fits ((1 - (bucket.tokens - 1 - n)) / policy.rate)
  · refine ⟨_, hpanic, quiet_append.mpr ⟨quiet_append.mpr
      ⟨hquiet, .inl (hwhole _), trivial⟩, returns_of_le hpart ?_, trivial⟩⟩
    have hafter := level_after_of_one_le (hwhole (stale +
      (1 - (bucket.tokens - 1 - n)) / policy.rate))
    rw [run, List.foldl_append, List.foldl_cons, List.foldl_nil, ← run]
    linarith [hlevel (stale + (1 - (bucket.tokens - 1 - n)) / policy.rate)]
  · exact ⟨_, hspent hpart, quiet_append.mpr ⟨hquiet, .inl (hwhole stale), trivial⟩⟩

/-- A stale call moves the bucket back in time, and takes a token if there is
one. -/
lemma lookup_step_stale (hlock : limiter.poisoned = false)
    (hbucket : limiter.buckets.lookup call.vtoken = some bucket) (hstale : call.now < bucket.last)
    (hle : bucket.tokens ≤ limiter.policy.burst) :
    ∃ behind, (limiter.step call).buckets.lookup call.vtoken = some behind ∧ behind.toTokenBucket =
        ⟨if 1 ≤ bucket.tokens then bucket.tokens - 1 else bucket.tokens, call.now⟩ := by
  have hlookup := lookup_step hlock call call.vtoken
  rw [if_pos rfl, bucketFor_of_lookup hbucket] at hlookup
  refine ⟨_, hlookup, ?_⟩
  rw [RateBucket.charge_toTokenBucket, after, level_of_le_last hstale.le hle]
  split <;> rfl

lemma Room.cons_of_lookup {calls : List RateCall} (hroom : limiter.Room calls)
    (hbucket : limiter.buckets.lookup call.vtoken = some bucket) :
    limiter.Room (call :: calls) := by
  refine le_trans (Finset.card_le_card ?_) hroom
  have hkey : call.vtoken ∈ limiter.buckets.keys := by
    rw [← mem_keys, ← lookup_isSome, hbucket]
    rfl
  intro own hown
  simp only [List.map_cons, List.mem_toFinset, List.mem_append, List.mem_cons] at hown ⊢
  rcases hown with hold | rfl | hnew
  · exact .inl hold
  · exact .inl hkey
  · exact .inr hnew

lemma Room.callsAt_of_lookup (hroom : limiter.Room [])
    (hbucket : limiter.buckets.lookup vtoken = some bucket)
    (times : List ℚ) : limiter.Room (callsAt vtoken times) := by
  induction times with
  | nil => exact hroom
  | cons now later ih =>
    exact @.cons_of_lookup _ ⟨vtoken, now, 0⟩ _ _ ih hbucket

/-- The lead of a bucket that was moved back in time, at the time of the other
one. -/
lemma exists_admittedAt_lt_of_lead (hlock : limiter.poisoned = false)
    (hbucket : limiter.buckets.lookup vtoken = some bucket)
    (hwithin : bucket.toTokenBucket.Within limiter.policy.burst) (hother : other.poisoned = false)
    (hbehind : other.buckets.lookup vtoken = some behind) (hpolicy : other.policy = limiter.policy)
    (hstale : behind.last ≤ bucket.last)
    (hlead : bucket.tokens < behind.tokens + (bucket.last - behind.last) * limiter.policy.rate)
    (hnotFull : bucket.tokens < limiter.policy.burst) :
    ∃ times, limiter.admittedAt vtoken times < other.admittedAt vtoken times := by
  have hlevel : bucket.level limiter.policy bucket.last = bucket.tokens :=
    level_of_le_last le_rfl hwithin.le
  apply exists_admittedAt_lt hlock hbucket hother hbehind hpolicy le_rfl hstale
  · rw [hlevel]
    exact hwithin.nonneg
  · rw [hlevel, RateBucket.level, level, max_eq_left (sub_nonneg.mpr hstale)]
    exact lt_min hlead hnotFull

/-- Without a whole token a stale call is what lets a later one pass. -/
lemma exists_admittedAt_lt_of_not_one_le (hlock : limiter.poisoned = false)
    (hbucket : limiter.buckets.lookup call.vtoken = some bucket)
    (hwithin : bucket.toTokenBucket.Within limiter.policy.burst)
    (hstale : call.now < bucket.last) (hone : ¬ 1 ≤ bucket.tokens) :
    ∃ times, limiter.admittedAt call.vtoken times <
      (limiter.step call).admittedAt call.vtoken times := by
  cases hother : (limiter.step call).poisoned with
  | true =>
    -- The stale call itself has poisoned the lock.
    have hprobe := @admittedAt_probe _ _ _ hlock hbucket bucket.last bucket.last le_rfl 0
      (hwithin.level_nonneg limiter.policy.rate_pos.le limiter.policy.burst_nonneg) le_rfl
    rw [RateBucket.level, level_of_le_last le_rfl hwithin.le,
      if_neg (by simpa using hone)] at hprobe
    refine ⟨_, hprobe.trans_lt ?_⟩
    rw [admittedAt_of_poisoned hother]
    exact zero_lt_one
  | false =>
    obtain ⟨behind, hbehind, heq⟩ :=
      lookup_step_stale hlock hbucket hstale hwithin.le
    rw [if_neg hone] at heq
    have hlead := mul_pos (sub_pos.mpr hstale) limiter.policy.rate_pos
    apply exists_admittedAt_lt_of_lead hlock hbucket hwithin hother hbehind policy_step
    · rw [heq]
      exact hstale.le
    · rw [heq]
      exact lt_add_of_pos_right _ hlead
    · exact (not_le.mp hone).trans_le limiter.policy.one_le_burst

/-- A stale call can earn tokens, unless it takes a token that makes up for the
time it adds, or the bucket was full. -/
theorem stale_call_iff (hrange : limiter.InRange)
    (hroom : limiter.poisoned = false → limiter.Room [])
    (hbucket : limiter.buckets.lookup call.vtoken = some bucket) (hstale : call.now < bucket.last) :
    (∀ calls, (limiter.poisoned = false → limiter.Room calls) →
        (limiter.step call).admitted calls ≤ limiter.admitted calls) ↔
      limiter.poisoned = true ∨ (Duration.Fits (1 / limiter.policy.rate) ∧ 1 ≤ bucket.tokens ∧
          ((bucket.last - call.now) * limiter.policy.rate ≤ 1 ∨
            bucket.tokens = limiter.policy.burst)) := by
  have hwithin := hrange _ _ hbucket
  cases hlock : limiter.poisoned with
  | true =>
    have hstep : limiter.step call = limiter := by
      rw [step, checkAt_of_poisoned hlock]
    rw [hstep]
    exact iff_of_true (fun _ _ => le_rfl) (.inl rfl)
  | false =>
    rw [or_iff_right Bool.false_ne_true]
    obtain ⟨behind, hbehind, heq⟩ :=
      lookup_step_stale hlock hbucket hstale hwithin.le
    constructor
    · intro hle
      have hnone : ¬ ∃ times, limiter.admittedAt call.vtoken times <
          (limiter.step call).admittedAt call.vtoken times := by
        rintro ⟨times, hlt⟩
        exact absurd (hle _ fun _ => (hroom hlock).callsAt_of_lookup hbucket times) (not_le.mpr hlt)
      have hone : 1 ≤ bucket.tokens := by
        by_contra hone
        exact hnone (exists_admittedAt_lt_of_not_one_le hlock hbucket hwithin hstale hone)
      rw [if_pos hone] at heq
      have hother : (limiter.step call).poisoned = false := by
        rw [poisoned_step hlock, checkAt_of_not_poisoned hlock,
          bucketFor_of_lookup hbucket, Option.isNone_eq_false_iff,
          RateBucket.isSome_charge, RateBucket.level,
          level_of_le_last hstale.le hwithin.le]
        exact .inl hone
      refine ⟨?_, hone, ?_⟩
      · by_contra hlong
        obtain ⟨first, hpanic, hquiet⟩ := exists_poisoned_of_behind hother
          policy_step hbehind hwithin hone hstale heq hlong
        exact hnone (exists_admittedAt_lt_of_poisoned hpanic hlock hbucket hwithin hquiet)
      · by_contra hneither
        obtain ⟨hgap, hnotFull⟩ := not_or.mp hneither
        apply hnone
        apply exists_admittedAt_lt_of_lead hlock hbucket hwithin hother hbehind policy_step
        · rw [heq]
          exact hstale.le
        · rw [heq]
          linarith
        · exact lt_of_le_of_ne hwithin.le hnotFull
    · rintro ⟨hfits, hone, hgap⟩ calls hroomCalls
      have hcalls := hroomCalls rfl
      have hopen : limiter.Open := ⟨hlock, hrange, hfits⟩
      rw [if_pos hone] at heq
      refine admitted_le_of_level_le (hopen.step call) hopen policy_step
        (hcalls.cons_of_lookup hbucket).step hcalls ?_ hbehind hbucket ?_
      · intro own hown
        rw [lookup_step hlock, if_neg hown, evicted_of_lookup hbucket]
      · intro now
        rw [RateBucket.level, heq]
        exact level_le_of_back limiter.policy.rate_pos.le hstale.le hgap

lemma room_nil_iff : limiter.Room [] ↔ limiter.buckets.keys.length ≤ limiter.capacity := by
  rw [Room, List.map_nil, List.append_nil, List.toFinset_card_of_nodup limiter.buckets.keys_nodup]

lemma length_keys_evicted (hroom : limiter.Room []) (hpos : 0 < limiter.capacity)
    (hnew : limiter.buckets.lookup call.vtoken = none) :
    (limiter.evicted call).keys.length < limiter.capacity := by
  have hkeys : limiter.buckets.keys.length = limiter.buckets.entries.length := List.length_map _
  rw [room_nil_iff] at hroom
  unfold evicted
  split
  · next hfull =>
    have hsome := Query.limitOne_key_isSome (fun entry => entry.2.last)
      call.tie (List.ne_nil_of_length_pos (hpos.trans_le hfull.1))
    obtain ⟨oldest, holdest⟩ := Option.isSome_iff_exists.mp hsome
    have hmem : oldest.1 ∈ limiter.buckets.keys :=
      List.mem_map_of_mem (Query.of_limitOne holdest).1
    rw [holdest]
    rw [keys_erase, List.length_erase_of_mem hmem]
    omega
  · next hnotFull =>
    rw [not_and] at hnotFull
    have hless := mt hnotFull (not_not.mpr hnew)
    omega

lemma Room.nil_step (hroom : limiter.Room []) (hpos : 0 < limiter.capacity)
    (call : RateCall) : (limiter.step call).Room [] := by
  cases hlock : limiter.poisoned with
  | true =>
    rw [VtokenRateLimiter.step, checkAt_of_poisoned hlock]
    exact hroom
  | false =>
    have hkeys : (limiter.step call).buckets.keys =
        call.vtoken :: (limiter.evicted call).keys.erase call.vtoken := by
      simp [VtokenRateLimiter.step, checkAt, hlock]
    rw [room_nil_iff, hkeys, capacity_step, List.length_cons]
    cases hlookup : limiter.buckets.lookup call.vtoken with
    | none =>
      have hless := length_keys_evicted hroom hpos hlookup
      have herase := @List.length_erase_le _ _ call.vtoken (limiter.evicted call).keys
      omega
    | some bucket =>
      have hmem : call.vtoken ∈ limiter.buckets.keys := by
        rw [← mem_keys, ← lookup_isSome, hlookup]
        rfl
      rw [evicted_of_lookup hlookup, List.length_erase_of_mem hmem]
      rw [room_nil_iff] at hroom
      omega

/-- What holds of every limiter that a run comes to. -/
lemma sound_run (policy : RatePolicy) (past : List RateCall) :
    (Transition.run step (new policy) past).InRange ∧
      (Transition.run step (new policy) past).Room [] := by
  have hstep : ∀ (limiter : VtokenRateLimiter) (call : RateCall),
      limiter.InRange ∧ limiter.Room [] ∧ 0 < limiter.capacity →
        (limiter.step call).InRange ∧ (limiter.step call).Room [] ∧
          0 < (limiter.step call).capacity := by
    rintro limiter call ⟨hrange, hroom, hpos⟩
    refine ⟨hrange.step call, hroom.nil_step hpos call, ?_⟩
    rw [capacity_step]
    exact hpos
  have hall := Transition.run_invariant hstep
    ⟨inRange_new policy, Nat.zero_le _, Nat.succ_pos _⟩ past
  exact ⟨hall.1, hall.2.1⟩

/-- A second back is made up for by the token that the call takes. -/
theorem stale_call_of_one_second :
    let policy := RatePolicy.new 1 2
    let limiter := Transition.run step (new policy) [⟨"h1", 10, 0⟩]
    limiter.Room [⟨"h1", 10, 0⟩, ⟨"h1", 11, 0⟩] ∧ (limiter.step ⟨"h1", 9, 0⟩).admitted
          [⟨"h1", 10, 0⟩, ⟨"h1", 11, 0⟩] ≤
        limiter.admitted [⟨"h1", 10, 0⟩, ⟨"h1", 11, 0⟩] := by
  intro policy limiter
  have hroom : limiter.Room [⟨"h1", 10, 0⟩, ⟨"h1", 11, 0⟩] := by
    unfold Room
    decide +kernel
  have hbucket : limiter.buckets.lookup "h1" = some ⟨⟨1, 10⟩, 0⟩ := by
    decide +kernel
  refine ⟨hroom, (@stale_call_iff _ ⟨"h1", 9, 0⟩ _
    (sound_run policy [⟨"h1", 10, 0⟩]).1 (fun _ => (sound_run policy [⟨"h1", 10, 0⟩]).2)
    hbucket (by norm_num)).mpr (.inr ?_) _ fun _ => hroom⟩
  decide +kernel

/-- A bucket is used up at 10.  A call at 5 finds it empty as well, and with that
the next call at 10 finds the tokens of five seconds. -/
theorem stale_call_earns :
    let limiter := Transition.run step (new (RatePolicy.new 1 1)) [⟨"h1", 10, 0⟩]
    limiter.buckets.lookup "h1" = some ⟨⟨0, 10⟩, 0⟩ ∧ limiter.admitted [⟨"h1", 10, 0⟩] = 0 ∧
      (limiter.step ⟨"h1", 5, 0⟩).admitted [⟨"h1", 10, 0⟩] = 1 := by
  decide +kernel

end Stale

end VtokenRateLimiter

end IlinkHub
