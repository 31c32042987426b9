/-
A token bucket over an ordered field: tokens come in at a rate up to a limit, and
a request passes when it finds a whole one.  Tokens and passed requests together
grow no faster than the rate, and a bucket that is never fuller than another one
never lets more requests pass.
-/
import Mathlib.Algebra.Order.Field.Basic
import Mathlib.Tactic.Linarith
import Mathlib.Tactic.Ring

universe u

/-- The tokens at the time of the last request. -/
structure TokenBucket (K : Type u) where
  tokens : K
  last : K
deriving DecidableEq

namespace TokenBucket

variable {K : Type u} [Field K] [LinearOrder K]

section Requests

variable (rate burst : K)

/-- What a request at this time finds.  A time before the last one adds
nothing. -/
def level (bucket : TokenBucket K) (now : K) : K :=
  min (bucket.tokens + max (now - bucket.last) 0 * rate) burst

/-- The bucket after a request. -/
def after (bucket : TokenBucket K) (now : K) : TokenBucket K :=
  if 1 ≤ bucket.level rate burst now then
    ⟨bucket.level rate burst now - 1, now⟩
  else ⟨bucket.level rate burst now, now⟩

/-- How many of the requests pass. -/
def passed : TokenBucket K → List K → Nat
  | _, [] => 0
  | bucket, now :: later =>
    (if 1 ≤ bucket.level rate burst now then 1 else 0) + passed (bucket.after rate burst now) later

/-- The bucket after all of them. -/
def run (bucket : TokenBucket K) (times : List K) : TokenBucket K :=
  times.foldl (after rate burst) bucket

end Requests

variable {rate burst : K} {bucket : TokenBucket K} {now : K}

lemma level_le : bucket.level rate burst now ≤ burst :=
  min_le_right _ _

@[simp] lemma after_last : (bucket.after rate burst now).last = now := by
  unfold after
  split <;> rfl

lemma passed_append (bucket : TokenBucket K) (first later : List K) :
    bucket.passed rate burst (first ++ later) = bucket.passed rate burst first +
        (bucket.run rate burst first).passed rate burst later := by
  induction first generalizing bucket with
  | nil => simp [passed, run]
  | cons now first ih =>
    rw [List.cons_append, passed, passed, ih, add_assoc]
    rfl

/-- A request takes a token with it exactly if it passes. -/
lemma after_tokens :
    (bucket.after rate burst now).tokens + (if 1 ≤ bucket.level rate burst now then 1 else 0) =
      bucket.level rate burst now := by
  unfold after
  split
  · exact sub_add_cancel _ _
  · exact add_zero _

variable [IsStrictOrderedRing K]

/-- The tokens are at least none and at most the limit. -/
structure Within (burst : K) (bucket : TokenBucket K) : Prop where
  nonneg : 0 ≤ bucket.tokens
  le : bucket.tokens ≤ burst

/-- Tokens above the limit do no harm here: they are cut off. -/
lemma level_nonneg (hrate : 0 ≤ rate) (hburst : 0 ≤ burst)
    (htokens : 0 ≤ bucket.tokens) : 0 ≤ bucket.level rate burst now := by
  apply le_min _ hburst
  exact add_nonneg htokens (mul_nonneg (le_max_right _ _) hrate)

lemma after_nonneg (hrate : 0 ≤ rate) (hburst : 0 ≤ burst) (htokens : 0 ≤ bucket.tokens) :
    0 ≤ (bucket.after rate burst now).tokens := by
  unfold after
  split
  · next hone => exact sub_nonneg.mpr hone
  · exact level_nonneg hrate hburst htokens

lemma Within.level_nonneg (hrate : 0 ≤ rate) (hburst : 0 ≤ burst)
    (hwithin : bucket.Within burst) : 0 ≤ bucket.level rate burst now :=
  TokenBucket.level_nonneg hrate hburst hwithin.nonneg

lemma Within.after (hrate : 0 ≤ rate) (hburst : 0 ≤ burst) (hwithin : bucket.Within burst) :
    (bucket.after rate burst now).Within burst := by
  have hlevel := @level_le K _ _ rate burst bucket now
  refine ⟨after_nonneg hrate hburst hwithin.nonneg, ?_⟩
  unfold TokenBucket.after
  split
  · exact le_trans (sub_le_self _ zero_le_one) hlevel
  · exact hlevel

lemma Within.run (hrate : 0 ≤ rate) (hburst : 0 ≤ burst) (hwithin : bucket.Within burst)
    (times : List K) : (bucket.run rate burst times).Within burst := by
  induction times generalizing bucket with
  | nil => exact hwithin
  | cons now later ih => exact ih (hwithin.after hrate hburst)

/-- What comes in between two requests is what the rate gives at most. -/
lemma level_le_of_le (hlast : bucket.last ≤ now) :
    bucket.level rate burst now ≤ bucket.tokens + (now - bucket.last) * rate := by
  rw [level, max_eq_left (sub_nonneg.mpr hlast)]
  exact min_le_left _ _

/-- The potential: the tokens and the requests that passed grow with the rate. -/
lemma passed_add_tokens_le (hrate : 0 ≤ rate) {times : List K} {upTo : K}
    (hordered : (bucket.last :: times).Pairwise (· ≤ ·))
    (hupTo : ∀ time ∈ bucket.last :: times, time ≤ upTo) :
    (bucket.passed rate burst times : K) + (bucket.run rate burst times).tokens ≤
      bucket.tokens + (upTo - bucket.last) * rate := by
  induction times generalizing bucket with
  | nil =>
    have hle := hupTo bucket.last List.mem_cons_self
    have hmore := mul_nonneg (sub_nonneg.mpr hle) hrate
    simp only [passed, run, List.foldl_nil, Nat.cast_zero]
    linarith
  | cons now later ih =>
    obtain ⟨hfirst, hlater⟩ := List.pairwise_cons.mp hordered
    have hnow := hfirst now List.mem_cons_self
    have hrest := @ih (bucket.after rate burst now) (by rw [after_last]; exact hlater) (by
        rw [after_last]
        exact fun time htime => hupTo time (List.mem_cons_of_mem _ htime))
    rw [after_last] at hrest
    have htokens := @after_tokens K _ _ rate burst bucket now
    have hlevel := @level_le_of_le K _ _ rate burst bucket now _ hnow
    simp only [passed, Nat.cast_add, Nat.cast_ite, Nat.cast_one, Nat.cast_zero]
    have hrun : bucket.run rate burst (now :: later) =
        (bucket.after rate burst now).run rate burst later := rfl
    rw [hrun]
    linarith

/-- Over a stretch of time no more requests pass than the limit and the rate
allow, however full the bucket is at its beginning. -/
lemma passed_le_of_window (hrate : 0 ≤ rate) (hburst : 0 ≤ burst) (hwithin : bucket.Within burst)
    {times : List K} {start stop : K} (hordered : times.Pairwise (· ≤ ·))
    (hwindow : ∀ time ∈ times, start ≤ time ∧ time ≤ stop) (hstop : start ≤ stop) :
    (bucket.passed rate burst times : K) ≤ burst + (stop - start) * rate := by
  cases times with
  | nil =>
    have hmore := mul_nonneg (sub_nonneg.mpr hstop) hrate
    simp only [passed, Nat.cast_zero]
    linarith
  | cons now later =>
    have hafter : (bucket.after rate burst now).Within burst :=
      hwithin.after hrate hburst
    have hpotential := @passed_add_tokens_le K _ _ rate burst (bucket.after rate burst now) _ hrate
      later stop (by rw [after_last]; exact hordered) (by
        rw [after_last]
        exact fun time htime => (hwindow time htime).2)
    rw [after_last] at hpotential
    have hend := (hafter.run hrate hburst later).nonneg
    have htokens := @after_tokens K _ _ rate burst bucket now
    have hlevel := @level_le K _ _ rate burst bucket now
    have hstart := (hwindow now List.mem_cons_self).1
    have hless : (stop - now) * rate ≤ (stop - start) * rate :=
      mul_le_mul_of_nonneg_right (by linarith) hrate
    simp only [passed, Nat.cast_add, Nat.cast_ite, Nat.cast_one, Nat.cast_zero]
    linarith

/-- A time up to the last one adds nothing. -/
lemma level_of_le_last (hnow : now ≤ bucket.last) (hle : bucket.tokens ≤ burst) :
    bucket.level rate burst now = bucket.tokens := by
  rw [level, max_eq_right (sub_nonpos.mpr hnow), zero_mul, add_zero, min_eq_left hle]

lemma tokens_le_level (hrate : 0 ≤ rate) (hle : bucket.tokens ≤ burst) :
    bucket.tokens ≤ bucket.level rate burst now :=
  le_min (le_add_of_nonneg_right (mul_nonneg (le_max_right _ _) hrate)) hle

section Drain

/-- A time that is looked at without a request changes nothing. -/
lemma level_of_level (hrate : 0 ≤ rate) (hlast : bucket.last ≤ now) {later : K}
    (hlater : now ≤ later) : min (bucket.level rate burst now + (later - now) * rate) burst =
      bucket.level rate burst later := by
  have hmore := mul_nonneg (sub_nonneg.mpr hlater) hrate
  rw [level, level, max_eq_left (sub_nonneg.mpr hlast),
    max_eq_left (sub_nonneg.mpr (hlast.trans hlater)), ← min_add_add_right,
    min_assoc, min_eq_right (le_add_of_nonneg_right hmore)]
  congr 1
  ring

omit [IsStrictOrderedRing K] in
lemma after_of_one_le (hone : 1 ≤ bucket.level rate burst now) :
    bucket.after rate burst now = ⟨bucket.level rate burst now - 1, now⟩ :=
  if_pos hone

omit [IsStrictOrderedRing K] in
lemma after_of_not_one_le (hone : ¬ 1 ≤ bucket.level rate burst now) :
    bucket.after rate burst now = ⟨bucket.level rate burst now, now⟩ :=
  if_neg hone

lemma level_after_of_one_le (hone : 1 ≤ bucket.level rate burst now) :
    (bucket.after rate burst now).level rate burst now = bucket.level rate burst now - 1 := by
  have hburst := @level_le K _ _ rate burst bucket now
  rw [after_of_one_le hone]
  simp only [level, sub_self, max_self, zero_mul, add_zero] at hburst ⊢
  exact min_eq_left (by linarith)

lemma level_after_of_not_one_le (hone : ¬ 1 ≤ bucket.level rate burst now) :
    (bucket.after rate burst now).level rate burst now = bucket.level rate burst now := by
  rw [after_of_not_one_le hone]
  exact level_of_le_last le_rfl level_le

lemma one_le_of_succ_le {n : Nat} {tokens : K} (hwhole : ((n + 1 : Nat) : K) ≤ tokens) :
    1 ≤ tokens ∧ (n : K) ≤ tokens - 1 := by
  rw [Nat.cast_succ] at hwhole
  exact ⟨by linarith, by linarith⟩

/-- Whole tokens are used up one after the other. -/
lemma level_run_replicate (hrate : 0 ≤ rate) (hlast : bucket.last ≤ now)
    {n : Nat} (hwhole : (n : K) ≤ bucket.level rate burst now) {later : K} (hlater : now ≤ later) :
    (bucket.run rate burst (List.replicate n now)).level rate burst later =
      min (bucket.level rate burst now - n + (later - now) * rate) burst := by
  induction n generalizing bucket with
  | zero =>
    rw [Nat.cast_zero, sub_zero]
    exact (level_of_level hrate hlast hlater).symm
  | succ n ih =>
    obtain ⟨hone, hrest⟩ := one_le_of_succ_le hwhole
    have hnext := @ih (bucket.after rate burst now) (le_of_eq after_last)
      (by rw [level_after_of_one_le hone]; exact hrest)
    rw [level_after_of_one_le hone] at hnext
    rw [Nat.cast_succ, add_comm (n : K) 1, ← sub_sub]
    exact hnext

lemma passed_replicate {n : Nat} (hwhole : (n : K) ≤ bucket.level rate burst now) :
    bucket.passed rate burst (List.replicate n now) = n := by
  induction n generalizing bucket with
  | zero => rfl
  | succ n ih =>
    obtain ⟨hone, hrest⟩ := one_le_of_succ_le hwhole
    rw [List.replicate_succ, passed, if_pos hone, ih, add_comm]
    rw [level_after_of_one_le hone]
    exact hrest

lemma passed_replicate_of_not_one_le (hone : ¬ 1 ≤ bucket.level rate burst now) (n : Nat) :
    bucket.passed rate burst (List.replicate n now) = 0 := by
  induction n generalizing bucket with
  | zero => rfl
  | succ n ih =>
    rw [List.replicate_succ, passed, if_neg hone, ih]
    rw [level_after_of_not_one_le hone]
    exact hone

lemma tokens_run_replicate (hnow : now ≤ bucket.last)
    (hle : bucket.tokens ≤ burst) {n : Nat} (hwhole : (n : K) ≤ bucket.tokens) :
    (bucket.run rate burst (List.replicate n now)).tokens = bucket.tokens - n := by
  induction n generalizing bucket with
  | zero => simp [run]
  | succ n ih =>
    obtain ⟨hone, hrest⟩ := one_le_of_succ_le hwhole
    have hlevel := @level_of_le_last K _ _ rate burst bucket now _ hnow hle
    have hafter : bucket.after rate burst now = ⟨bucket.tokens - 1, now⟩ := by
      rw [after_of_one_le (by rw [hlevel]; exact hone), hlevel]
    have hnext := @ih ⟨bucket.tokens - 1, now⟩ le_rfl (by simp only; linarith) hrest
    rw [List.replicate_succ, run, List.foldl_cons, hafter]
    rw [run] at hnext
    rw [hnext, Nat.cast_succ]
    ring

end Drain

section Compare

variable {other : TokenBucket K}

/-- The induction: a bucket may be ahead of the other one by as many tokens as the
other one has let more requests pass. -/
lemma passed_le_add_of_level {times : List K} {ahead : Nat}
    (ih : ∀ {bucket other : TokenBucket K} {ahead : Nat},
      bucket.last = other.last → bucket.tokens ≤ other.tokens + ahead →
      bucket.passed rate burst times ≤ other.passed rate burst times + ahead)
    (hlevel : bucket.level rate burst now ≤ other.level rate burst now + ahead) :
    bucket.passed rate burst (now :: times) ≤ other.passed rate burst (now :: times) + ahead := by
  have hlast : (bucket.after rate burst now).last =
      (other.after rate burst now).last := by rw [after_last, after_last]
  have htokens := @after_tokens K _ _ rate burst bucket now
  have hother := @after_tokens K _ _ rate burst other now
  simp only [passed]
  by_cases hpass : 1 ≤ bucket.level rate burst now
  · rw [if_pos hpass] at htokens ⊢
    by_cases hboth : 1 ≤ other.level rate burst now
    · rw [if_pos hboth] at hother ⊢
      have hle := ih hlast (by linarith : _ ≤ _ + (ahead : K))
      omega
    · rw [if_neg hboth] at hother ⊢
      -- The lead that lets this request pass is a whole one.
      cases ahead with
      | zero =>
        rw [Nat.cast_zero, add_zero] at hlevel
        exact absurd (hpass.trans hlevel) hboth
      | succ rest =>
        rw [Nat.cast_succ] at hlevel
        have hle := ih hlast (by linarith : _ ≤ _ + (rest : K))
        omega
  · rw [if_neg hpass] at htokens ⊢
    by_cases hboth : 1 ≤ other.level rate burst now
    · rw [if_pos hboth] at hother ⊢
      have hle := ih hlast (by
        rw [Nat.cast_succ]
        linarith : _ ≤ _ + ((ahead + 1 : Nat) : K))
      omega
    · rw [if_neg hboth] at hother ⊢
      have hle := ih hlast (by linarith : _ ≤ _ + (ahead : K))
      omega

lemma passed_le_add {ahead : Nat} (hlast : bucket.last = other.last)
    (htokens : bucket.tokens ≤ other.tokens + ahead) (times : List K) :
    bucket.passed rate burst times ≤ other.passed rate burst times + ahead := by
  induction times generalizing bucket other ahead with
  | nil => exact Nat.zero_le _
  | cons now later ih =>
    apply passed_le_add_of_level ih
    rw [level, level, hlast, ← min_add_add_right]
    exact min_le_min (by linarith) (by linarith)

/-- A bucket in which no request finds more than in the other one. -/
lemma passed_le_of_level_le
    (hlevel : ∀ now, bucket.level rate burst now ≤ other.level rate burst now) (times : List K) :
    bucket.passed rate burst times ≤ other.passed rate burst times := by
  cases times with
  | nil => exact le_refl 0
  | cons now later =>
    have hfirst : bucket.level rate burst now ≤ other.level rate burst now + (0 : Nat) := by
      rw [Nat.cast_zero, add_zero]
      exact hlevel now
    exact passed_le_add_of_level (fun hlast htokens => passed_le_add hlast htokens later) hfirst

/-- A token less makes up for time that gives at most a token. -/
lemma level_le_of_back (hrate : 0 ≤ rate) {back : K} (hback : back ≤ bucket.last)
    (hgap : (bucket.last - back) * rate ≤ 1 ∨ bucket.tokens = burst) :
    (⟨bucket.tokens - 1, back⟩ : TokenBucket K).level rate burst now ≤
      bucket.level rate burst now := by
  rcases hgap with hgap | hfull
  · apply min_le_min _ le_rfl
    have hmax : max (now - back) 0 ≤ max (now - bucket.last) 0 + (bucket.last - back) := by
      apply max_le
      · linarith [le_max_left (now - bucket.last) 0]
      · linarith [le_max_right (now - bucket.last) 0]
    have hmore := mul_le_mul_of_nonneg_right hmax hrate
    linarith
  · exact level_le.trans (hfull.ge.trans (tokens_le_level hrate hfull.le))

end Compare

end TokenBucket
