/-
The rate limiter of the relay (`relay/ratelimit.rs`): a fixed window per key, and
a sweep over a table that has grown too large.  Beside it stands the same limiter
without the sweep.  Times are counted in nanoseconds.
-/
import IlinkHub.Pairing
import IlinkHub.WindowLimit

namespace IlinkHub

open Transition WindowLimit

open WindowLimit (Bucket Call fresh)

structure RelayRateLimiter where
  buckets : AList fun _ : String => Bucket
  maxEvents : Nat
  window : Nat

namespace RelayRateLimiter

def new (maxEvents windowSecs : Nat) : RelayRateLimiter :=
  ⟨∅, maxEvents, secs windowSecs⟩

/-- The bucket that a call looks at: a new one, one whose window is over and
starts again, or the one of the running window. -/
def bucketAt (limiter : RelayRateLimiter) (key : String) (now : Nat) : Bucket :=
  ((limiter.buckets.lookup key).getD ⟨0, now⟩).roll limiter.window now

/-- The limiter that never evicts: the decision and the table, up to the
sweep. -/
def allowKeeping (limiter : RelayRateLimiter) (call : Call String) : Bool × RelayRateLimiter :=
  let bucket := limiter.bucketAt call.key call.now
  if limiter.maxEvents ≤ bucket.count then
    (false, { limiter with buckets := limiter.buckets.insert call.key bucket })
  else
    (true, { limiter with
      buckets := limiter.buckets.insert call.key { bucket with count := bucket.count + 1 } })

/-- Stale keys go when there are more than 10000. -/
def evict (limiter : RelayRateLimiter) (now : Nat) : RelayRateLimiter :=
  if 10000 < limiter.buckets.entries.length then
    { limiter with
      buckets := Query.retain (fun _ bucket => fresh limiter.window now bucket.windowStart)
        limiter.buckets }
  else limiter

/-- A call that is refused returns before the sweep. -/
def allow (limiter : RelayRateLimiter) (call : Call String) : Bool × RelayRateLimiter :=
  let (allowed, limiter) := limiter.allowKeeping call
  (allowed, if allowed then limiter.evict call.now else limiter)

variable {limiter keeping : RelayRateLimiter} {call : Call String}

section Steps

@[simp] lemma maxEvents_allowKeeping :
    (limiter.allowKeeping call).2.maxEvents = limiter.maxEvents := by
  unfold allowKeeping
  dsimp only
  split <;> rfl

@[simp] lemma window_allowKeeping : (limiter.allowKeeping call).2.window = limiter.window := by
  unfold allowKeeping
  dsimp only
  split <;> rfl

lemma allowKeeping_eq_true_iff :
    (limiter.allowKeeping call).1 = true ↔
      (limiter.bucketAt call.key call.now).count < limiter.maxEvents := by
  unfold allowKeeping
  dsimp only
  split <;> simp_all

@[simp] lemma maxEvents_evict (now : Nat) : (limiter.evict now).maxEvents = limiter.maxEvents := by
  unfold evict
  split <;> rfl

@[simp] lemma window_evict (now : Nat) : (limiter.evict now).window = limiter.window := by
  unfold evict
  split <;> rfl

/-- A bucket that is evicted would start again anyway. -/
lemma bucketAt_evict {now later : Nat} (hle : now ≤ later) (key : String) :
    (limiter.evict now).bucketAt key later = limiter.bucketAt key later := by
  unfold evict
  split
  · rw [bucketAt, bucketAt]
    rw [Query.lookup_retain]
    cases limiter.buckets.lookup key with
    | none => rfl
    | some bucket =>
      rw [Option.filter_some]
      split
      · rfl
      · next hstale =>
        rw [fresh, decide_eq_true_iff] at hstale
        rw [Option.getD_none, Bucket.roll_new, Option.getD_some, Bucket.roll_of_le (by omega)]
  · rfl

/-- The bucket of the key after a call. -/
def charged (limiter : RelayRateLimiter) (call : Call String) : Bucket :=
  let bucket := limiter.bucketAt call.key call.now
  if bucket.count < limiter.maxEvents then
    { bucket with count := bucket.count + 1 }
  else bucket

lemma lookup_allowKeeping (key : String) : (limiter.allowKeeping call).2.buckets.lookup key =
      if key = call.key then some (limiter.charged call)
      else limiter.buckets.lookup key := by
  unfold allowKeeping charged
  dsimp only
  split
  · next hfull => rw [Query.lookup_insert, if_neg (not_lt.mpr hfull)]
  · next hfull => rw [Query.lookup_insert, if_pos (not_le.mp hfull)]

lemma bucketAt_allowKeeping (key : String) (later : Nat) :
    (limiter.allowKeeping call).2.bucketAt key later =
      if key = call.key then (limiter.charged call).roll limiter.window later
      else limiter.bucketAt key later := by
  rw [bucketAt, lookup_allowKeeping, window_allowKeeping]
  split <;> rfl

end Steps

section Eviction

/-- The two limiters are the same to every call from now on. -/
structure Same (clock : Nat) (limiter keeping : RelayRateLimiter) : Prop where
  maxEvents : limiter.maxEvents = keeping.maxEvents
  window : limiter.window = keeping.window
  buckets : ∀ key now, clock ≤ now → limiter.bucketAt key now = keeping.bucketAt key now

variable {clock : Nat}

section SameAnswers

variable (hsame : Same clock limiter keeping)

include hsame

lemma Same.answer (hclock : clock ≤ call.now) :
    (limiter.allow call).1 = (keeping.allowKeeping call).1 := by
  have hkeeping : (limiter.allow call).1 = (limiter.allowKeeping call).1 := rfl
  rw [hkeeping, Bool.eq_iff_iff, allowKeeping_eq_true_iff,
    allowKeeping_eq_true_iff, hsame.buckets call.key call.now hclock,
    hsame.maxEvents]

lemma Same.allowKeeping (hclock : clock ≤ call.now) :
    Same call.now (limiter.allowKeeping call).2 (keeping.allowKeeping call).2 where
  maxEvents := by
    rw [maxEvents_allowKeeping, maxEvents_allowKeeping, hsame.maxEvents]
  window := by rw [window_allowKeeping, window_allowKeeping, hsame.window]
  buckets := by
    intro key later hlater
    have hcharged : limiter.charged call = keeping.charged call := by
      rw [charged, charged, hsame.buckets call.key call.now hclock, hsame.maxEvents]
    rw [bucketAt_allowKeeping, bucketAt_allowKeeping, hcharged, hsame.window,
      hsame.buckets key later (hclock.trans hlater)]

lemma Same.evict : Same clock (limiter.evict clock) keeping where
  maxEvents := (maxEvents_evict clock).trans hsame.maxEvents
  window := (window_evict clock).trans hsame.window
  buckets := by
    intro key now hnow
    rw [bucketAt_evict hnow, hsame.buckets key now hnow]

lemma Same.allow (hclock : clock ≤ call.now) :
    Same call.now (limiter.allow call).2 (keeping.allowKeeping call).2 := by
  have hnext := hsame.allowKeeping hclock
  rw [RelayRateLimiter.allow]
  dsimp only
  split
  · exact hnext.evict
  · exact hnext

lemma Same.log_eq {calls : List (Call String)}
    (hordered : WindowLimit.Ordered calls) (hclock : ∀ call ∈ calls, clock ≤ call.now)
    (log : List (Call String × Bool)) :
    (run (History.record RelayRateLimiter.allow) ⟨limiter, log⟩ calls).log =
      (run (History.record RelayRateLimiter.allowKeeping) ⟨keeping, log⟩ calls).log := by
  induction calls generalizing limiter keeping clock log with
  | nil => rfl
  | cons call calls ih =>
    obtain ⟨hafter, hordered⟩ := List.pairwise_cons.mp hordered
    have hnow := hclock call List.mem_cons_self
    rw [run_cons, run_cons, History.record, hsame.answer hnow]
    exact ih (hsame.allow hnow) hordered hafter _

end SameAnswers

end Eviction

section Bound

open WindowLimit (Spans admittedTimes within)

/-- The buckets beside the calls that they have admitted. -/
structure Accounts (clock : Nat)
    (recorded : History.Recorded RelayRateLimiter (Call String) Bool) :
    Prop where
  pos : 0 < recorded.state.window
  stored : ∀ key bucket, recorded.state.buckets.lookup key = some bucket →
    bucket.windowStart ≤ clock ∧ Spans recorded.state.maxEvents recorded.state.window bucket
        (admittedTimes key recorded.log)
  absent : ∀ key, recorded.state.buckets.lookup key = none → admittedTimes key recorded.log = []

variable {clock : Nat} {recorded : History.Recorded RelayRateLimiter (Call String) Bool}

lemma Accounts.bucketAt (haccounts : Accounts clock recorded)
    (key : String) {now : Nat} (hnow : clock ≤ now) :
    (recorded.state.bucketAt key now).windowStart ≤ now ∧
      now < (recorded.state.bucketAt key now).windowStart + recorded.state.window ∧
      Spans recorded.state.maxEvents recorded.state.window (recorded.state.bucketAt key now)
        (admittedTimes key recorded.log) := by
  unfold RelayRateLimiter.bucketAt
  cases hlookup : recorded.state.buckets.lookup key with
  | none =>
    rw [Option.getD_none, Bucket.roll_new, haccounts.absent key hlookup]
    exact ⟨le_rfl, Nat.lt_add_of_pos_right haccounts.pos, spans_nil now⟩
  | some bucket =>
    obtain ⟨hstart, hspans⟩ := haccounts.stored key bucket hlookup
    obtain ⟨hbegun, hrunning⟩ :=
      Bucket.roll_spans haccounts.pos (hstart.trans hnow)
    exact ⟨hbegun, hrunning, hspans.roll haccounts.pos now⟩

lemma Accounts.record (haccounts : Accounts clock recorded) (hclock : clock ≤ call.now) :
    Accounts call.now (History.record allowKeeping recorded call) where
  pos := by
    rw [History.record, window_allowKeeping]
    exact haccounts.pos
  stored := by
    intro key bucket hbucket
    rw [History.record] at hbucket ⊢
    rw [lookup_allowKeeping] at hbucket
    rw [maxEvents_allowKeeping, window_allowKeeping, admittedTimes_cons]
    by_cases hkey : key = call.key
    · subst hkey
      rw [if_pos rfl] at hbucket
      cases hbucket
      obtain ⟨hbegun, hrunning, hspans⟩ := haccounts.bucketAt call.key hclock
      by_cases hroom : (recorded.state.bucketAt call.key call.now).count < recorded.state.maxEvents
      · have hcharged : recorded.state.charged call = _ := if_pos hroom
        rw [if_pos ⟨rfl, allowKeeping_eq_true_iff.mpr hroom⟩, hcharged]
        exact ⟨hbegun, hspans.admit hroom hbegun hrunning⟩
      · have hcharged : recorded.state.charged call = _ := if_neg hroom
        rw [if_neg fun hboth => hroom (allowKeeping_eq_true_iff.mp hboth.2), hcharged]
        exact ⟨hbegun, hspans⟩
    · rw [if_neg hkey] at hbucket
      rw [if_neg fun hboth => hkey hboth.1.symm]
      obtain ⟨hstart, hspans⟩ := haccounts.stored key bucket hbucket
      exact ⟨hstart.trans hclock, hspans⟩
  absent := by
    intro key hnone
    rw [History.record] at hnone ⊢
    rw [lookup_allowKeeping] at hnone
    by_cases hkey : key = call.key
    · rw [if_pos hkey] at hnone
      cases hnone
    · rw [if_neg hkey] at hnone
      rw [admittedTimes_cons, if_neg fun hboth => hkey hboth.1.symm]
      exact haccounts.absent key hnone

lemma Accounts.run {calls : List (Call String)} (haccounts : Accounts clock recorded)
    (hordered : WindowLimit.Ordered calls) (hclock : ∀ call ∈ calls, clock ≤ call.now) :
    ∃ last, Accounts last (run (History.record allowKeeping) recorded calls) := by
  induction calls generalizing recorded clock with
  | nil => exact ⟨clock, haccounts⟩
  | cons call calls ih =>
    obtain ⟨hafter, hordered⟩ := List.pairwise_cons.mp hordered
    exact ih (haccounts.record (hclock call List.mem_cons_self)) hordered hafter

lemma maxEvents_run (calls : List (Call String)) :
    (run (History.record allowKeeping) recorded calls).state.maxEvents = recorded.state.maxEvents ∧
      (run (History.record allowKeeping) recorded calls).state.window = recorded.state.window := by
  induction calls generalizing recorded with
  | nil => exact ⟨rfl, rfl⟩
  | cons call calls ih =>
    rw [run_cons, ih.1, ih.2]
    exact ⟨maxEvents_allowKeeping, window_allowKeeping⟩

lemma Accounts.within_le (haccounts : Accounts clock recorded) (key : String) (start : Nat) :
    within start recorded.state.window (admittedTimes key recorded.log) ≤
      2 * recorded.state.maxEvents := by
  cases hlookup : recorded.state.buckets.lookup key with
  | none =>
    rw [haccounts.absent key hlookup]
    exact Nat.zero_le _
  | some bucket => exact (haccounts.stored key bucket hlookup).2.all start

end Bound

end RelayRateLimiter

open WindowLimit in
/-- The sweep changes no decision, and in a stretch of the length of a window a
key is admitted at most twice as often as in one window.  Its end counts as well,
unless the window is empty. -/
theorem relay_limits (maxEvents windowSecs : Nat) (calls : List (Call String))
    (hordered : Ordered calls) :
    let limiter := RelayRateLimiter.new maxEvents windowSecs
    let log := logOf RelayRateLimiter.allow limiter calls
    log = logOf RelayRateLimiter.allowKeeping limiter calls ∧
      (∀ key start, admittedIn key start (secs windowSecs) log ≤ 2 * maxEvents) ∧
      (0 < windowSecs → ∀ key start,
        within start (secs windowSecs) (admittedTimes key log) ≤ 2 * maxEvents) := by
  intro limiter log
  have hlog : log = logOf RelayRateLimiter.allowKeeping limiter calls := by
    have hsame : RelayRateLimiter.Same 0 limiter limiter :=
      ⟨rfl, rfl, fun _ _ _ => rfl⟩
    exact hsame.log_eq hordered (fun _ _ => Nat.zero_le _) []
  have hclosed : 0 < windowSecs → ∀ key start,
      within start (secs windowSecs) (admittedTimes key log) ≤ 2 * maxEvents := by
    intro hpos key start
    have hwindow : 0 < limiter.window := Nat.mul_pos hpos (by decide)
    have hstart : RelayRateLimiter.Accounts 0 (History.start limiter) :=
      ⟨hwindow, fun _ _ hnone => (by cases hnone), fun _ _ => rfl⟩
    obtain ⟨last, hend⟩ := hstart.run hordered fun _ _ => Nat.zero_le _
    have hle := hend.within_le key start
    have hsame := @RelayRateLimiter.maxEvents_run (History.start limiter) calls
    rw [hsame.1, hsame.2] at hle
    rw [hlog]
    exact hle
  refine ⟨hlog, ?_, hclosed⟩
  intro key start
  rcases Nat.eq_zero_or_pos windowSecs with rfl | hpos
  · -- The stretch is empty.
    rw [admittedIn, List.countP_eq_zero.mpr]
    · exact Nat.zero_le _
    · intro time _
      rw [decide_eq_true_iff, secs]
      omega
  · apply le_trans _ (hclosed hpos key start)
    apply List.countP_mono_left
    intro time _ htime
    rw [decide_eq_true_iff] at htime ⊢
    exact ⟨htime.1, htime.2.le⟩

open WindowLimit in
/-- Around the end of a window twice as many calls pass, and no more. -/
theorem relay_limits_straddle : let calls : List (Call String) :=
      [⟨"192.0.2.1", secs 0, 0⟩, ⟨"192.0.2.1", secs 59, 0⟩,
        ⟨"192.0.2.1", secs 59, 0⟩, ⟨"192.0.2.1", secs 60, 0⟩,
        ⟨"192.0.2.1", secs 60, 0⟩, ⟨"192.0.2.1", secs 119, 0⟩]
    let log := logOf RelayRateLimiter.allow (RelayRateLimiter.new 2 60) calls
    log.map Prod.snd = [false, true, true, false, true, true] ∧
      within (secs 59) (secs 60) (admittedTimes "192.0.2.1" log) ≤ 2 * 2 := by
  intro calls log
  have hordered : Ordered calls := by
    unfold Ordered
    decide
  exact ⟨by decide, (relay_limits 2 60 calls hordered).2.2 (by decide) "192.0.2.1" (secs 59)⟩

end IlinkHub
