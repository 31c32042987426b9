/-
Whole runs of the rate limiter: how many calls of a tenant are admitted in any
stretch of time, and what a tenant notices of the others.  Both rest on the lock
not being poisoned.
-/
import IlinkHub.RateLimit

namespace IlinkHub

open TokenBucket

namespace VtokenRateLimiter

variable {limiter : VtokenRateLimiter} {calls : List RateCall} {vtoken : String}

/-- The calls of a tenant that are admitted in a stretch of time. -/
def admittedIn (limiter : VtokenRateLimiter) (vtoken : String)
    (start length : ℚ) (calls : List RateCall) : Nat :=
  (limiter.trace calls).countP fun entry =>
    decide (entry.1.vtoken = vtoken ∧ start ≤ entry.1.now ∧
      entry.1.now ≤ start + length) && RateLimitOutcome.isAllowed entry.2

/-- The tokens stay in range, and in every stretch of time a tenant has at most
the burst and what the rate gives. -/
structure Bounded (policy : RatePolicy) (calls : List RateCall) : Prop where
  range : Transition.Throughout step InRange (new policy) calls
  admitted : ∀ vtoken start length, 0 ≤ length →
    ((new policy).admittedIn vtoken start length calls : ℚ) ≤ policy.burst + policy.rate * length

section Windows

lemma mem_of_mem_trace {entry : RateCall × Option RateLimitOutcome}
    (hentry : entry ∈ limiter.trace calls) : entry.1 ∈ calls := by
  induction calls generalizing limiter with
  | nil => exact absurd hentry List.not_mem_nil
  | cons call calls ih =>
    rcases List.mem_cons.mp hentry with rfl | hrest
    · exact List.mem_cons_self
    · exact List.mem_cons_of_mem call (ih hrest)

/-- Calls in order fall apart at every point of time. -/
lemma exists_split {early : ℚ → Prop} [DecidablePred early]
    (hearly : ∀ {time later}, time ≤ later → early later → early time)
    (hordered : calls.Pairwise fun left right => left.now ≤ right.now) :
    ∃ first later, calls = first ++ later ∧ (∀ call ∈ first, early call.now) ∧
      ∀ call ∈ later, ¬ early call.now := by
  have hnil : ∀ {P : RateCall → Prop}, ∀ call ∈ [], P call :=
    fun call hcall => absurd hcall List.not_mem_nil
  induction calls with
  | nil => exact ⟨[], [], rfl, hnil, hnil⟩
  | cons call calls ih =>
    obtain ⟨hcall, hrest⟩ := List.pairwise_cons.mp hordered
    by_cases hfirst : early call.now
    · obtain ⟨first, later, rfl, hbefore, hafter⟩ := ih hrest
      refine ⟨call :: first, later, rfl, ?_, hafter⟩
      intro other hother
      rcases List.mem_cons.mp hother with rfl | hmem
      · exact hfirst
      · exact hbefore other hmem
    · refine ⟨[], call :: calls, rfl, hnil, ?_⟩
      intro other hother
      rcases List.mem_cons.mp hother with rfl | hmem
      · exact hfirst
      · exact fun hlate => hfirst (hearly (hcall other hmem) hlate)

lemma admittedIn_append (start length : ℚ) (first later : List RateCall) :
    limiter.admittedIn vtoken start length (first ++ later) =
      limiter.admittedIn vtoken start length first +
        (Transition.run step limiter first).admittedIn vtoken start length later := by
  rw [admittedIn, trace_append, List.countP_append]
  rfl

lemma admittedIn_of_outside {start length : ℚ} (houtside : ∀ call ∈ calls,
      ¬ (start ≤ call.now ∧ call.now ≤ start + length)) :
    limiter.admittedIn vtoken start length calls = 0 := by
  rw [admittedIn, List.countP_eq_zero]
  intro entry hentry
  have hcall := houtside entry.1 (mem_of_mem_trace hentry)
  rw [Bool.and_eq_true, decide_eq_true_iff]
  exact fun hboth => hcall hboth.1.2

lemma admittedIn_of_inside {start length : ℚ} (hinside : ∀ call ∈ calls,
      start ≤ call.now ∧ call.now ≤ start + length) :
    limiter.admittedIn vtoken start length calls = (limiter.outcomesOf vtoken calls).countP
        RateLimitOutcome.isAllowed := by
  rw [outcomesOf, List.countP_map, List.countP_filter]
  apply List.countP_congr
  intro entry hentry
  have hcall := hinside entry.1 (mem_of_mem_trace hentry)
  simp only [Bool.and_eq_true, decide_eq_true_iff]
  tauto

lemma pairwise_timesOf (hordered : calls.Pairwise fun left right => left.now ≤ right.now) :
    (timesOf vtoken calls).Pairwise (· ≤ ·) := by
  rw [timesOf, List.pairwise_map]
  exact hordered.filter _

lemma mem_timesOf {now : ℚ} (hnow : now ∈ timesOf vtoken calls) :
    ∃ call ∈ calls, call.now = now := by
  obtain ⟨call, hcall, rfl⟩ := List.mem_map.mp hnow
  exact ⟨call, (List.mem_filter.mp hcall).1, rfl⟩

end Windows

section Runs

lemma Room.run (first : List RateCall) (hroom : limiter.Room (first ++ calls)) :
    (Transition.run .step limiter first).Room calls := by
  induction first generalizing limiter with
  | nil => exact hroom
  | cons call first ih => exact ih hroom.step

/-- What holds of a limiter whose waits all fit. -/
structure Open (limiter : VtokenRateLimiter) : Prop where
  lock : limiter.poisoned = false
  range : limiter.InRange
  fits : Duration.Fits (1 / limiter.policy.rate)

lemma Open.step (hopen : limiter.Open) (call : RateCall) : (limiter.step call).Open where
  lock := hopen.range.not_poisoned_step hopen.fits hopen.lock call
  range := hopen.range.step call
  fits := by
    rw [policy_step]
    exact hopen.fits

lemma Open.run (hopen : limiter.Open) (calls : List RateCall) :
    (Transition.run .step limiter calls).Open :=
  Transition.run_invariant (fun _ call hlimiter => hlimiter.step call) hopen calls

lemma policy_run (limiter : VtokenRateLimiter) (calls : List RateCall) :
    (Transition.run step limiter calls).policy = limiter.policy := by
  induction calls generalizing limiter with
  | nil => rfl
  | cons call calls ih => exact (ih _).trans policy_step

lemma inRange_new (policy : RatePolicy) : (new policy).InRange := by
  intro vtoken bucket hbucket
  cases hbucket

lemma Open.admittedIn_le (hopen : limiter.Open) (hroom : limiter.Room calls)
    (hordered : calls.Pairwise fun left right => left.now ≤ right.now)
    {start length : ℚ} (hlength : 0 ≤ length) :
    (limiter.admittedIn vtoken start length calls : ℚ) ≤
      limiter.policy.burst + limiter.policy.rate * length := by
  obtain ⟨before, rest, rfl, hbefore, hrest⟩ :=
    @exists_split _ (· < start) _ (fun hle hlt => hle.trans_lt hlt) hordered
  obtain ⟨inside, later, rfl, hinside, hlater⟩ :=
    @exists_split rest (· ≤ start + length) _ (fun hle hlt => hle.trans hlt)
      (List.pairwise_append.mp hordered).2.1
  have hwindow : ∀ call ∈ inside, start ≤ call.now ∧ call.now ≤ start + length := fun call hcall =>
    ⟨not_lt.mp (hrest call (List.mem_append_left _ hcall)), hinside call hcall⟩
  rw [admittedIn_append, admittedIn_append, admittedIn_of_outside fun call hcall hboth =>
      absurd (hbefore call hcall) (not_lt.mpr hboth.1),
    admittedIn_of_outside fun call hcall hboth => hlater call hcall hboth.2,
    zero_add, admittedIn_of_inside hwindow]
  have hmiddle := hopen.run before
  have hroomInside : (Transition.run .step limiter before).Room inside := by
    refine le_trans (Finset.card_le_card ?_) (hroom.run before)
    intro own hown
    simp only [List.mem_toFinset, List.map_append, List.mem_append] at hown ⊢
    tauto
  rw [outcomesOf_eq_tenantTrace hmiddle.lock hmiddle.range hroomInside hmiddle.fits, policy_run]
  have hwithin : ∀ own ∈ (Transition.run .step limiter before).buckets.lookup vtoken,
      own.toTokenBucket.Within limiter.policy.burst := by
    intro own hown
    rw [← policy_run limiter before]
    exact hmiddle.range _ own hown
  have hpairs : (timesOf vtoken inside).Pairwise (· ≤ ·) :=
    pairwise_timesOf (List.pairwise_append.mp (List.pairwise_append.mp hordered).2.1).1
  have htimes : ∀ time ∈ timesOf vtoken inside, start ≤ time ∧ time ≤ start + length := by
    intro time htime
    obtain ⟨call, hcall, rfl⟩ := mem_timesOf htime
    exact hwindow call hcall
  exact countP_tenantTrace_le hwithin hpairs htimes hlength

end Runs

section Poison

variable {bucket : RateBucket}

/-- The whole tokens are used up, and one more call takes the next token as soon as
it is there. -/
def exhausting (policy : RatePolicy) (bucket : TokenBucket ℚ) : List ℚ :=
  List.replicate ⌊bucket.tokens⌋₊ bucket.last ++
    [bucket.last + (1 - (bucket.tokens - ⌊bucket.tokens⌋₊)) / policy.rate]

lemma run_exhausting {policy : RatePolicy} {bucket : TokenBucket ℚ}
    (hwithin : bucket.Within policy.burst) :
    Quiet policy bucket (exhausting policy bucket) ∧
      bucket.run policy.rate policy.burst (exhausting policy bucket) = ⟨0, bucket.last +
          (1 - (bucket.tokens - ⌊bucket.tokens⌋₊)) / policy.rate⟩ := by
  have hrate := policy.rate_pos
  have hlevel := @level_of_le_last ℚ _ _ policy.rate policy.burst
    bucket bucket.last _ le_rfl hwithin.le
  have hfloor := Nat.floor_le hwithin.nonneg
  have hnext := Nat.lt_floor_add_one bucket.tokens
  unfold exhausting
  generalize ⌊bucket.tokens⌋₊ = n at hfloor hnext ⊢
  have hwait : 0 ≤ (1 - (bucket.tokens - n)) / policy.rate :=
    div_nonneg (by linarith) hrate.le
  have hfull := @level_run_replicate ℚ _ _ policy.rate policy.burst bucket bucket.last _
    hrate.le le_rfl n (by rw [hlevel]; exact hfloor)
    (bucket.last + (1 - (bucket.tokens - n)) / policy.rate) (le_add_of_nonneg_right hwait)
  rw [hlevel, add_sub_cancel_left, div_mul_cancel₀ _ hrate.ne',
    add_sub_cancel, min_eq_left policy.one_le_burst] at hfull
  constructor
  · refine quiet_append.mpr ⟨quiet_replicate ?_, .inl hfull.ge, trivial⟩
    rw [hlevel]
    exact hfloor
  · rw [run, List.foldl_append, List.foldl_cons, List.foldl_nil]
    rw [run] at hfull
    rw [after_of_one_le hfull.ge, hfull, sub_self]

/-- Where the wait after the whole tokens does not fit, one more call panics. -/
lemma poisoned_spent (hlock : limiter.poisoned = false)
    (hbucket : limiter.buckets.lookup vtoken = some bucket)
    (hwithin : bucket.toTokenBucket.Within limiter.policy.burst)
    (hlong : ¬ Duration.Fits ((1 - (bucket.tokens - ⌊bucket.tokens⌋₊)) / limiter.policy.rate)) :
    (Transition.run step limiter (callsAt vtoken (List.replicate ⌊bucket.tokens⌋₊ bucket.last ++
        [bucket.last]))).poisoned = true := by
  have hfloor := Nat.floor_le hwithin.nonneg
  have hnext := Nat.lt_floor_add_one bucket.tokens
  generalize ⌊bucket.tokens⌋₊ = n at hlong hfloor hnext ⊢
  have hlevel := @level_of_le_last ℚ _ _ limiter.policy.rate
    limiter.policy.burst bucket.toTokenBucket bucket.last _ le_rfl hwithin.le
  have hwhole : n ≤ bucket.toTokenBucket.level limiter.policy.rate
      limiter.policy.burst bucket.last := by
    rw [hlevel]
    exact hfloor
  obtain ⟨-, hopen, hpolicy, later, hlater, heq⟩ :=
    run_of_quiet hlock hbucket (quiet_replicate hwhole)
  have hleft := level_run_replicate limiter.policy.rate_pos.le le_rfl hwhole le_rfl
  rw [hlevel, sub_self, zero_mul, add_zero,
    min_eq_left (by linarith [hwithin.le, Nat.cast_nonneg (α := ℚ) n])]
    at hleft
  rw [run_callsAt_append]
  apply poisoned_of_not_returns hopen hlater
  rw [heq, hpolicy, Returns, hleft]
  exact not_or.mpr ⟨by linarith, hlong⟩

/-- Where the longest wait does not fit, a tenant comes to it. -/
lemma poisoned_exhausted (hlock : limiter.poisoned = false)
    (hbucket : limiter.buckets.lookup vtoken = some bucket)
    (hwithin : bucket.toTokenBucket.Within limiter.policy.burst)
    (hlong : ¬ Duration.Fits (1 / limiter.policy.rate)) :
    (Transition.run step limiter (callsAt vtoken
      (exhausting limiter.policy bucket.toTokenBucket ++ [bucket.last +
        (1 - (bucket.tokens - ⌊bucket.tokens⌋₊)) / limiter.policy.rate]))).poisoned = true := by
  obtain ⟨hquiet, hrun⟩ := run_exhausting hwithin
  obtain ⟨-, hopen, hpolicy, later, hlater, heq⟩ :=
    run_of_quiet hlock hbucket hquiet
  rw [hrun] at heq
  rw [run_callsAt_append]
  apply poisoned_of_not_returns hopen hlater
  rw [heq, hpolicy, Returns, level_of_le_last le_rfl limiter.policy.burst_nonneg, sub_zero]
  exact not_or.mpr ⟨by norm_num, hlong⟩

end Poison

section Main

lemma admittedIn_callsAt {start length : ℚ} {times : List ℚ}
    (hinside : ∀ time ∈ times, start ≤ time ∧ time ≤ start + length) :
    limiter.admittedIn vtoken start length (callsAt vtoken times) =
      limiter.admittedAt vtoken times := by
  apply List.countP_congr
  intro entry hentry
  obtain ⟨time, htime, heq⟩ := List.mem_map.mp (mem_of_mem_trace hentry)
  have hcall := hinside time htime
  rw [Bool.and_eq_true, decide_eq_true_iff, ← heq]
  exact and_iff_right ⟨rfl, hcall⟩

lemma mem_callsAt {call : RateCall} {times : List ℚ}
    (hcall : call ∈ callsAt vtoken times) : call.vtoken = vtoken := by
  obtain ⟨time, -, rfl⟩ := List.mem_map.mp hcall
  rfl

lemma card_vtokens_le {tenants : Finset String} (hcalls : ∀ call ∈ calls, call.vtoken ∈ tenants) :
    (calls.map RateCall.vtoken).toFinset.card ≤ tenants.card := by
  apply Finset.card_le_card
  intro own hown
  obtain ⟨call, hcall, rfl⟩ := List.mem_map.mp (List.mem_toFinset.mp hown)
  exact hcalls call hcall

/-- The first call of a tenant at time zero, and its bucket after it. -/
lemma first_call (policy : RatePolicy) (vtoken : String) :
    ((new policy).checkAt ⟨vtoken, 0, 0⟩).1 = some (.allowed (policy.burst - 1)) ∧
      ((new policy).step ⟨vtoken, 0, 0⟩).poisoned = false ∧
      ∃ bucket, ((new policy).step ⟨vtoken, 0, 0⟩).buckets.lookup vtoken =
          some bucket ∧ bucket.last = 0 := by
  have hfor : (new policy).bucketFor ⟨vtoken, 0, 0⟩ = ⟨⟨policy.burst, 0⟩, 0⟩ := rfl
  have hlevel : RateBucket.level policy ⟨⟨policy.burst, 0⟩, 0⟩ 0 = policy.burst := by
    simp [RateBucket.level, level]
  have hone : 1 ≤ RateBucket.level policy ⟨⟨policy.burst, 0⟩, 0⟩ 0 := by
    rw [hlevel]
    exact policy.one_le_burst
  have houtcome : ((new policy).checkAt ⟨vtoken, 0, 0⟩).1 = some (.allowed (policy.burst - 1)) := by
    have hcharge := RateBucket.charge_of_one_le hone
    rw [hlevel] at hcharge
    exact hcharge
  have hlookup := @lookup_step (new policy) rfl ⟨vtoken, 0, 0⟩ vtoken
  refine ⟨houtcome, ?_, _, hlookup.trans (if_pos rfl), ?_⟩
  · rw [poisoned_step rfl, houtcome]
    rfl
  · have hlast := @RateBucket.charge_toTokenBucket policy ((new policy).bucketFor ⟨vtoken, 0, 0⟩) 0
    exact (congrArg last hlast).trans after_last

/-- A tenant alone comes to the longest wait. -/
lemma exists_poisoning_new {policy : RatePolicy}
    (hlong : ¬ Duration.Fits (1 / policy.rate)) (vtoken : String) :
    ∃ n wait, 0 ≤ wait ∧ (Transition.run step (new policy) (callsAt vtoken
        (List.replicate n 0 ++ [wait] ++ [wait]))).poisoned = true := by
  obtain ⟨-, hlock, bucket, hbucket, hlast⟩ := first_call policy vtoken
  have hwithin := (inRange_new policy).step ⟨vtoken, 0, 0⟩ vtoken bucket hbucket
  have hpoisoned := poisoned_exhausted hlock hbucket hwithin (by rw [policy_step]; exact hlong)
  have hnext := Nat.lt_floor_add_one bucket.tokens
  rw [exhausting, hlast, zero_add] at hpoisoned
  exact ⟨⌊bucket.tokens⌋₊ + 1, _, div_nonneg (by linarith) policy.rate_pos.le, hpoisoned⟩

/-- The limiter keeps its bound over every run, with every tenant in range,
exactly if the time for one token is a `Duration`. -/
theorem bounded_iff (policy : RatePolicy) :
    (∀ calls : List RateCall,
      (calls.Pairwise fun left right => left.now ≤ right.now) →
      (calls.map RateCall.vtoken).toFinset.card ≤ botRateLimitMaxEntries → Bounded policy calls) ↔
      Duration.Fits (1 / policy.rate) := by
  constructor
  · intro hbounded
    by_contra hlong
    obtain ⟨n, wait, hwait, hpoisoned⟩ := exists_poisoning_new hlong ""
    obtain ⟨m, hm⟩ := exists_nat_gt policy.burst
    -- The lock is poisoned, and then come more calls than a full bucket has
    -- tokens for.
    have hall := hbounded (callsAt "" ((List.replicate n 0 ++ [wait] ++ [wait]) ++
      List.replicate m wait)) ?_ ?_
    · have hle := hall.admitted "" wait 0 le_rfl
      have hlast := @admittedIn_callsAt (Transition.run step (new policy)
        (callsAt "" (List.replicate n 0 ++ [wait] ++ [wait]))) "" wait 0
        (List.replicate m wait) (by
          intro time htime
          rw [List.eq_of_mem_replicate htime, add_zero]
          exact ⟨le_rfl, le_rfl⟩)
      rw [admittedAt_of_poisoned hpoisoned, List.length_replicate] at hlast
      rw [callsAt_append, admittedIn_append, hlast, mul_zero, Nat.cast_add] at hle
      linarith
    · rw [callsAt]
      simp [List.pairwise_append, hwait]
    · refine le_trans (@card_vtokens_le _ {""} ?_) (by decide)
      intro call hcall
      exact Finset.mem_singleton.mpr (mem_callsAt hcall)
  · intro hfits calls hordered hroom
    have hopen : (new policy).Open := ⟨rfl, inRange_new policy, hfits⟩
    exact ⟨fun past _ => (hopen.run past).range, fun _ _ _ hlength =>
      hopen.admittedIn_le (room_new.mpr hroom) hordered hlength⟩

/-- With one token in 10^20 seconds the second call panics, and the third is
admitted at the same time as the first. -/
theorem not_bounded_of_slow_rate :
    let policy := RatePolicy.new (1 / 100000000000000000000) 1
    let calls := callsAt "h1" [0, 0, 0]
    (new policy).outcomesOf "h1" calls = [some (.allowed 0), none, some (.allowed 1)] ∧
      ¬ Bounded policy calls := by
  intro policy calls
  have hadmitted : (new policy).admittedIn "h1" 0 0 calls = 2 := by
    decide +kernel
  refine ⟨by decide +kernel, fun hbounded => ?_⟩
  have hle := hbounded.admitted "h1" 0 0 le_rfl
  have hburst : policy.burst = 1 := by decide +kernel
  rw [hadmitted, mul_zero, hburst] at hle
  norm_num at hle

lemma outcomesOf_append (first later : List RateCall) :
    limiter.outcomesOf vtoken (first ++ later) = limiter.outcomesOf vtoken first ++
        (Transition.run step limiter first).outcomesOf vtoken later := by
  simp [outcomesOf, trace_append]

lemma outcomesOf_of_forall_ne (hne : ∀ call ∈ calls, call.vtoken ≠ vtoken) :
    limiter.outcomesOf vtoken calls = [] := by
  rw [outcomesOf, List.map_eq_nil_iff, List.filter_eq_nil_iff]
  intro entry hentry
  simpa using hne entry.1 (mem_of_mem_trace hentry)

lemma timesOf_of_forall_ne (hne : ∀ call ∈ calls, call.vtoken ≠ vtoken) :
    timesOf vtoken calls = [] := by
  rw [timesOf, List.map_eq_nil_iff, List.filter_eq_nil_iff]
  intro call hcall
  simpa using hne call hcall

lemma outcomesOf_singleton (limiter : VtokenRateLimiter) (call : RateCall) :
    limiter.outcomesOf call.vtoken [call] = [(limiter.checkAt call).1] := by
  simp [outcomesOf, trace]

/-- A tenant sees nothing of the others, while there is room for all, exactly if
the time for one token is a `Duration`. -/
theorem isolated_iff (policy : RatePolicy) :
    (∀ (vtoken : String) (calls others : List RateCall),
      (calls.map RateCall.vtoken).toFinset.card ≤ botRateLimitMaxEntries →
      (others.map RateCall.vtoken).toFinset.card ≤ botRateLimitMaxEntries →
      timesOf vtoken calls = timesOf vtoken others → (new policy).outcomesOf vtoken calls =
          (new policy).outcomesOf vtoken others) ↔
      Duration.Fits (1 / policy.rate) := by
  constructor
  · intro hisolated
    by_contra hlong
    obtain ⟨n, wait, -, hpoisoned⟩ := exists_poisoning_new hlong "other"
    generalize htimes : List.replicate n 0 ++ [wait] ++ [wait] = times at hpoisoned
    have hne : ∀ call ∈ callsAt "other" times, call.vtoken ≠ "own" := by
      intro call hcall
      rw [mem_callsAt hcall]
      decide
    -- The other tenant poisons the lock, and the own one gets a full bucket
    -- that its call is not taken from.
    have hsame := hisolated "own" [⟨"own", 0, 0⟩]
      (callsAt "other" times ++ [⟨"own", 0, 0⟩]) (by decide) ?_ ?_
    · rw [outcomesOf_append, outcomesOf_of_forall_ne hne, outcomesOf_singleton _ ⟨"own", 0, 0⟩,
        outcomesOf_singleton _ ⟨"own", 0, 0⟩, (first_call policy "own").1,
        checkAt_of_poisoned hpoisoned, policy_run] at hsame
      simp [new] at hsame
    · refine le_trans (@card_vtokens_le _ {"other", "own"} ?_) (by decide)
      intro call hcall
      rcases List.mem_append.mp hcall with hother | hown
      · simp [mem_callsAt hother]
      · simp [List.mem_singleton.mp hown]
    · have hnone := timesOf_of_forall_ne hne
      simp only [timesOf, List.filter_append, List.map_append] at hnone ⊢
      rw [hnone, List.nil_append]
  · intro hfits vtoken calls others hcalls hothers htimes
    rw [outcomesOf_eq_tenantTrace rfl (inRange_new policy) (room_new.mpr hcalls) hfits, htimes,
      outcomesOf_eq_tenantTrace rfl (inRange_new policy) (room_new.mpr hothers) hfits]

/-- What another tenant did to the lock shows in the first outcome. -/
theorem not_isolated_of_slow_rate :
    let policy := RatePolicy.new (1 / 100000000000000000000) 1
    let quiet := callsAt "h1" [0, 0]
    let noisy := callsAt "h2" [0, 0] ++ callsAt "h1" [0, 0]
    timesOf "h1" quiet = timesOf "h1" noisy ∧
      (new policy).outcomesOf "h1" quiet = [some (.allowed 0), none] ∧
      (new policy).outcomesOf "h1" noisy = [some (.allowed 1), some (.allowed 1)] := by
  decide +kernel

end Main

end VtokenRateLimiter

end IlinkHub
