/-
Limiters that count the calls of a key in windows of time, over arbitrary keys.
The log of a limiter has its calls with their answers, the last one first.  A
sliding window looks back from each call; a fixed window starts with a call and
is over after its length.
-/
import Mathlib.Data.Finset.Card
import Mathlib.Data.List.AList
import IlinkHub.History

namespace WindowLimit

universe u v

variable {K : Type u} {S : Type v}

/-- For whom and when.  Where a limiter may choose between entries of its table,
`tie` picks one. -/
structure Call (K : Type u) where
  key : K
  now : Nat
  tie : Nat := 0
deriving DecidableEq

/-- The clock does not go back. -/
def Ordered (calls : List (Call K)) : Prop :=
  calls.Pairwise fun call later => call.now ≤ later.now

/-- The time lies less than a window back. -/
def fresh (window now time : Nat) : Bool :=
  decide (now - time < window)

lemma fresh_of_le {window now later time : Nat} (hle : now ≤ later)
    (hfresh : fresh window later time = true) : fresh window now time = true := by
  rw [fresh, decide_eq_true_iff] at hfresh ⊢
  omega

section Logs

variable [DecidableEq K]

/-- When calls of a key were admitted. -/
def admittedTimes (key : K) (log : List (Call K × Bool)) : List Nat :=
  (log.filter fun entry => decide (entry.1.key = key) && entry.2).map fun entry => entry.1.now

/-- How many of them lie in a stretch of time, its end not included. -/
def admittedIn (key : K) (start length : Nat) (log : List (Call K × Bool)) : Nat :=
  (admittedTimes key log).countP fun time =>
    decide (start ≤ time ∧ time < start + length)

/-- How many of them lie less than a window back. -/
def used (window : Nat) (key : K) (now : Nat) (log : List (Call K × Bool)) : Nat :=
  (admittedTimes key log).countP (fresh window now)

lemma admittedTimes_cons (key : K) (entry : Call K × Bool) (log : List (Call K × Bool)) :
    admittedTimes key (entry :: log) =
      if entry.1.key = key ∧ entry.2 = true then
        entry.1.now :: admittedTimes key log
      else admittedTimes key log := by
  rw [admittedTimes, List.filter_cons]
  simp only [Bool.and_eq_true, decide_eq_true_iff]
  split <;> rfl

lemma mem_admittedTimes {key : K} {time : Nat} {log : List (Call K × Bool)} :
    time ∈ admittedTimes key log ↔ ∃ entry ∈ log, entry.1.key = key ∧ entry.2 = true ∧
        entry.1.now = time := by
  simp [admittedTimes, and_assoc]

end Logs

/-- The calls of a run with their answers. -/
def logOf (check : S → Call K → Bool × S) (state : S)
    (calls : List (Call K)) : List (Call K × Bool) :=
  (Transition.run (History.record check) (History.start state) calls).log

section Sliding

variable [DecidableEq K] {quota window : Nat}

/-- The answer is the one that counting gives. -/
def Counted (quota window : Nat) (entry : Call K × Bool) (earlier : List (Call K × Bool)) : Prop :=
  entry.2 = true ↔ used window entry.1.key entry.1.now earlier < quota

/-- Where every answer is given by counting, no window holds more than the
quota: the last call in it has looked back over the others. -/
lemma admittedIn_le_quota {log : List (Call K × Bool)}
    (heach : History.Each (Counted quota window) log) (key : K)
    (start : Nat) : admittedIn key start window log ≤ quota := by
  induction log with
  | nil => exact Nat.zero_le quota
  | cons entry earlier ih =>
    have hrest := ih heach.2
    rw [admittedIn, admittedTimes_cons]
    split
    · next hown =>
      obtain ⟨hkey, hadmitted⟩ := hown
      rw [List.countP_cons]
      split
      · next hin =>
        have hroom := heach.1.mp hadmitted
        rw [hkey, used] at hroom
        have hle : (admittedTimes key earlier).countP (fun time =>
            decide (start ≤ time ∧ time < start + window)) ≤
            (admittedTimes key earlier).countP (fresh window entry.1.now) := by
          apply List.countP_mono_left
          intro time _ htime
          rw [decide_eq_true_iff] at hin htime
          rw [fresh, decide_eq_true_iff]
          omega
        omega
      · exact hrest
    · exact hrest

variable {check : S → Call K → Bool × S} {times : S → K → List Nat}

/-- A call on stored times that nothing else happens to: it forgets those that
are too old, counts the others and adds its own. -/
structure Slides (check : S → Call K → Bool × S) (times : S → K → List Nat)
    (quota window : Nat) (state : S) (call : Call K) : Prop where
  answer : (check state call).1 = true ↔
    (times state call.key).countP (fresh window call.now) < quota
  times : ∀ key, times (check state call).2 key =
    (times state key).filter (fresh window call.now) ++
      if call.key = key ∧ (check state call).1 = true then [call.now] else []

/-- The stored times count for as much as the admitted calls, now and later. -/
structure Tracks (times : S → K → List Nat) (quota window clock : Nat)
    (recorded : History.Recorded S (Call K) Bool) : Prop where
  past : ∀ entry ∈ recorded.log, entry.1.now ≤ clock
  count : ∀ key now, clock ≤ now → (times recorded.state key).countP (fresh window now) =
      used window key now recorded.log
  each : History.Each (Counted quota window) recorded.log

lemma Tracks.start {state : S} (hempty : ∀ key, times state key = []) :
    Tracks times quota window 0 (History.start state) where
  past := fun _ hentry => absurd hentry List.not_mem_nil
  count := by
    intro key now _
    rw [History.start, hempty]
    rfl
  each := trivial

variable {recorded : History.Recorded S (Call K) Bool} {calls : List (Call K)} {max : Nat}
  {clock : Nat}

lemma Tracks.record (htracks : Tracks times quota window clock recorded) {call : Call K}
    (hclock : clock ≤ call.now) (hslides : Slides check times quota window recorded.state call) :
    Tracks times quota window call.now (History.record check recorded call) where
  past := by
    intro entry hentry
    rcases List.mem_cons.mp hentry with rfl | hearlier
    · exact le_rfl
    · exact (htracks.past entry hearlier).trans hclock
  count := by
    intro key now hnow
    have hkept : ((times recorded.state key).filter
        (fresh window call.now)).countP (fresh window now) =
          used window key now recorded.log := by
      rw [List.countP_filter, ← htracks.count key now (hclock.trans hnow)]
      apply List.countP_congr
      intro time _
      rw [Bool.and_eq_true]
      exact and_iff_left_of_imp (fresh_of_le hnow)
    have hlog : used window key now (History.record check recorded call).log =
        used window key now recorded.log +
          if call.key = key ∧ (check recorded.state call).1 = true then
            [call.now].countP (fresh window now) else 0 := by
      simp only [used, History.record, admittedTimes_cons]
      split
      · rw [← List.singleton_append, List.countP_append, Nat.add_comm]
      · rfl
    rw [History.record, hslides.times key, List.countP_append, hkept]
    rw [History.record] at hlog
    rw [hlog]
    split <;> rfl
  each := by
    refine ⟨?_, htracks.each⟩
    rw [Counted, hslides.answer, htracks.count call.key call.now hclock]

lemma Tracks.exists_call (htracks : Tracks times quota window clock recorded)
    {key : K} {now time : Nat} (hnow : clock ≤ now) (htime : time ∈ times recorded.state key)
    (hfresh : fresh window now time = true) :
    ∃ entry ∈ recorded.log, entry.1.key = key ∧ fresh window now entry.1.now = true := by
  have hpos : 0 < used window key now recorded.log := by
    rw [← htracks.count key now hnow]
    exact List.countP_pos_iff.mpr ⟨time, htime, hfresh⟩
  obtain ⟨admitted, hadmitted, hstill⟩ := List.countP_pos_iff.mp hpos
  obtain ⟨entry, hentry, hkey, -, rfl⟩ := mem_admittedTimes.mp hadmitted
  exact ⟨entry, hentry, hkey, hstill⟩

/-- The keys of the calls in a window. -/
def seen (window start : Nat) (calls : List (Call K)) : Finset K :=
  ((calls.filter fun call =>
    decide (start ≤ call.now ∧ call.now < start + window)).map Call.key).toFinset

/-- In no window there are as many keys. -/
def Sparse (window max : Nat) (calls : List (Call K)) : Prop :=
  ∀ start, (seen window start calls).card < max

lemma sparse_of_length_lt (hlength : calls.length < max) : Sparse window max calls := by
  intro start
  apply lt_of_le_of_lt _ hlength
  apply (List.toFinset_card_le _).trans
  rw [List.length_map]
  exact List.length_filter_le _ calls

/-- Different keys whose calls lie less than a window back are fewer. -/
lemma Sparse.length_lt (hsparse : Sparse window max calls) {keys : List K} (hnodup : keys.Nodup)
    {now : Nat} (hkeys : ∀ key ∈ keys, ∃ call ∈ calls, call.key = key ∧
      call.now ≤ now ∧ fresh window now call.now = true) : keys.length < max := by
  apply lt_of_le_of_lt _ (hsparse (now + 1 - window))
  rw [← List.toFinset_card_of_nodup hnodup]
  apply Finset.card_le_card
  intro key hkey
  obtain ⟨call, hcall, rfl, hpast, hfresh⟩ :=
    hkeys key (List.mem_toFinset.mp hkey)
  rw [fresh, decide_eq_true_iff] at hfresh
  rw [seen, List.mem_toFinset]
  apply List.mem_map_of_mem
  rw [List.mem_filter, decide_eq_true_iff]
  exact ⟨hcall, by omega, by omega⟩

/-- A table of keys whose times still count has room for a key that it does not
have yet. -/
lemma Tracks.length_lt {β : Type*}
    (htracks : Tracks times quota window clock recorded) (hsparse : Sparse window max calls)
    (hpos : 0 < window) {call : Call K} (hclock : clock ≤ call.now)
    (hcall : call ∈ calls) (hlog : ∀ entry ∈ recorded.log, entry.1 ∈ calls)
    {table : AList fun _ => β} (hnew : table.lookup call.key = none)
    (htable : ∀ key value, table.lookup key = some value →
      ∃ time ∈ times recorded.state key, fresh window call.now time = true) :
    table.entries.length < max := by
  have hown : fresh window call.now call.now = true := by
    rw [fresh, Nat.sub_self]
    exact decide_eq_true hpos
  have hkeys : table.keys.length = table.entries.length :=
    List.length_map _
  have hnodup : (call.key :: table.keys).Nodup := by
    refine List.nodup_cons.mpr ⟨?_, table.keys_nodup⟩
    exact AList.lookup_eq_none.mp hnew
  rw [← hkeys]
  apply lt_of_le_of_lt (Nat.le_succ table.keys.length)
  apply hsparse.length_lt hnodup
  intro key hkey
  rcases List.mem_cons.mp hkey with rfl | hstored
  · exact ⟨call, hcall, rfl, le_rfl, hown⟩
  · obtain ⟨value, hvalue⟩ := Option.isSome_iff_exists.mp
      (AList.lookup_isSome.mpr (AList.mem_keys.mpr hstored))
    obtain ⟨time, htime, hfresh⟩ := htable key value hvalue
    obtain ⟨entry, hentry, hsame, hstill⟩ :=
      htracks.exists_call hclock htime hfresh
    exact ⟨entry.1, hlog entry hentry, hsame, (htracks.past entry hentry).trans hclock, hstill⟩

/-- The answers are given by counting along every run in which the clock does
not go back and each call slides. -/
lemma each_counted {state : S} (hempty : ∀ key, times state key = []) (hordered : Ordered calls)
    (hslides : ∀ recorded clock call,
      Tracks times quota window clock recorded → clock ≤ call.now →
      call ∈ calls → (∀ entry ∈ recorded.log, entry.1 ∈ calls) →
        Slides check times quota window recorded.state call) :
    History.Each (Counted quota window) (logOf check state calls) := by
  -- The calls that are left, from any point of the run.
  have hrun : ∀ later, Ordered later → later ⊆ calls →
      ∀ clock recorded, Tracks times quota window clock recorded →
        (∀ call ∈ later, clock ≤ call.now) →
        (∀ entry ∈ recorded.log, entry.1 ∈ calls) →
        History.Each (Counted quota window)
          (Transition.run (History.record check) recorded later).log := by
    intro later
    induction later with
    | nil => exact fun _ _ _ _ htracks _ _ => htracks.each
    | cons call later ih =>
      intro hsorted hsubset clock recorded htracks hclock hlog
      obtain ⟨hafter, hsorted⟩ := List.pairwise_cons.mp hsorted
      obtain ⟨hcall, hsubset⟩ := List.cons_subset.mp hsubset
      have hnow := hclock call List.mem_cons_self
      apply ih hsorted hsubset call.now _
        (htracks.record hnow (hslides recorded clock call htracks hnow hcall hlog)) hafter
      intro entry hentry
      rcases List.mem_cons.mp hentry with rfl | hearlier
      · exact hcall
      · exact hlog entry hearlier
  exact hrun calls hordered (List.Subset.refl calls) 0 _ (.start hempty)
    (fun _ _ => Nat.zero_le _) (fun _ hentry => absurd hentry List.not_mem_nil)

/-- What is expected of a limiter with a sliding window and a table of at most
`max` entries. -/
structure Limits (check : S → Call K → Bool × S) (size : S → Nat)
    (quota window max : Nat) (state : S) (calls : List (Call K)) : Prop where
  size : Transition.Throughout (fun state call => (check state call).2)
    (fun state => size state ≤ max) state calls
  admitted : Sparse window max calls → ∀ key start,
    admittedIn key start window (logOf check state calls) ≤ quota
  refused : Sparse window max calls → History.Each (fun entry earlier => entry.2 = false →
      quota ≤ used window entry.1.key entry.1.now earlier)
      (logOf check state calls)

lemma Limits.of_each {size : S → Nat} {state : S}
    (hsize : Transition.Throughout (fun state call => (check state call).2)
      (fun state => size state ≤ max) state calls) (heach : Sparse window max calls →
      History.Each (Counted quota window) (logOf check state calls)) :
    Limits check size quota window max state calls where
  size := hsize
  admitted := fun hsparse => admittedIn_le_quota (heach hsparse)
  refused := by
    intro hsparse
    apply (heach hsparse).imp
    intro entry earlier hcounted hrefused
    rw [Counted, hrefused] at hcounted
    exact not_lt.mp (mt hcounted.mpr Bool.false_ne_true)

end Sliding

section Fixed

/-- The calls counted since the start of the window. -/
structure Bucket where
  count : Nat
  windowStart : Nat
deriving DecidableEq

/-- A window that is over gives way to one that starts now. -/
def Bucket.roll (window now : Nat) (bucket : Bucket) : Bucket :=
  if window ≤ now - bucket.windowStart then ⟨0, now⟩ else bucket

lemma Bucket.roll_of_le {window now : Nat} {bucket : Bucket}
    (hover : window ≤ now - bucket.windowStart) : bucket.roll window now = ⟨0, now⟩ :=
  if_pos hover

lemma Bucket.roll_new (window now : Nat) : roll window now ⟨0, now⟩ = ⟨0, now⟩ :=
  ite_self _

lemma Bucket.roll_spans {window now : Nat} (hpos : 0 < window)
    {bucket : Bucket} (hstart : bucket.windowStart ≤ now) :
    (bucket.roll window now).windowStart ≤ now ∧
      now < (bucket.roll window now).windowStart + window := by
  unfold roll
  split
  · exact ⟨le_rfl, Nat.lt_add_of_pos_right hpos⟩
  · next hrunning => exact ⟨hstart, by omega⟩

/-- How many times lie in a stretch, its ends included. -/
def within (start length : Nat) (times : List Nat) : Nat :=
  times.countP fun time => decide (start ≤ time ∧ time ≤ start + length)

/-- A bucket beside the times at which its calls were admitted, in this window
and in those before. -/
structure Spans (max window : Nat) (bucket : Bucket) (times : List Nat) :
    Prop where
  count_le : bucket.count ≤ max
  before : ∀ time ∈ times, time < bucket.windowStart + window
  own : ∀ start, bucket.windowStart ≤ start → within start window times ≤ bucket.count
  straddle : ∀ start, bucket.windowStart ≤ start + window →
    within start window times ≤ max + bucket.count
  all : ∀ start, within start window times ≤ 2 * max

variable {max window now : Nat} {bucket : Bucket} {times : List Nat}

lemma spans_nil (now : Nat) : Spans max window ⟨0, now⟩ [] where
  count_le := Nat.zero_le max
  before := fun _ htime => absurd htime List.not_mem_nil
  own := fun _ _ => le_rfl
  straddle := fun _ _ => Nat.zero_le _
  all := fun _ => Nat.zero_le _

lemma within_eq_zero {start length : Nat} (hbefore : ∀ time ∈ times, time < start) :
    within start length times = 0 := by
  rw [within, List.countP_eq_zero]
  intro time htime
  rw [decide_eq_true_iff]
  have hlt := hbefore time htime
  omega

/-- Two windows start at least their length apart, so no stretch of this length
meets three of them. -/
lemma Spans.roll (hspans : Spans max window bucket times) (hpos : 0 < window) (now : Nat) :
    Spans max window (bucket.roll window now) times := by
  unfold Bucket.roll
  split
  · have hbefore : ∀ time ∈ times, time < now := by
      intro time htime
      have hlt := hspans.before time htime
      omega
    refine ⟨Nat.zero_le max, ?_, ?_, ?_, hspans.all⟩
    · intro time htime
      exact (hbefore time htime).trans_le (Nat.le_add_right now window)
    · intro start hstart
      rw [within_eq_zero fun time htime =>
        (hbefore time htime).trans_le hstart]
    · intro start hstart
      -- The window that is over had started at `start` or before.
      dsimp only at hstart
      have hown := hspans.own start (by omega)
      have hle := hspans.count_le
      omega
  · exact hspans

lemma Spans.admit (hspans : Spans max window bucket times) (hroom : bucket.count < max)
    (hstart : bucket.windowStart ≤ now) (hnow : now < bucket.windowStart + window) :
    Spans max window ⟨bucket.count + 1, bucket.windowStart⟩ (now :: times) := by
  have hcons : ∀ start, within start window (now :: times) ≤ within start window times + 1 := by
    intro start
    rw [within, within, List.countP_cons]
    split <;> omega
  refine ⟨hroom, ?_, ?_, ?_, ?_⟩
  · intro time htime
    rcases List.mem_cons.mp htime with rfl | hmem
    · exact hnow
    · exact hspans.before time hmem
  · intro start hle
    exact (hcons start).trans (Nat.add_le_add_right (hspans.own start hle) 1)
  · intro start hle
    exact (hcons start).trans (Nat.add_le_add_right (hspans.straddle start hle) 1)
  · intro start
    by_cases hle : bucket.windowStart ≤ start + window
    · have hstraddle := hspans.straddle start hle
      have hnext := hcons start
      omega
    · -- The call comes after the stretch.
      rw [within, List.countP_cons_of_neg (by rw [decide_eq_true_iff]; omega)]
      exact hspans.all start

end Fixed

end WindowLimit
