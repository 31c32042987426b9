/-
The two limiters of the pairing endpoints (`server/pairing.rs`): one attempt per
code and address within a window, and a number of QR codes per address.  Times
are counted in nanoseconds, and `duration_since` saturates at zero.
-/
import IlinkHub.Pairing
import IlinkHub.WindowLimit

namespace IlinkHub

open Query

open WindowLimit (Call fresh)

def pairConfirmRateLimitWindow : Nat :=
  secs 60

def pairConfirmRateLimitMaxEntries : Nat :=
  4096

def qrCreateRateLimitMax : Nat :=
  20

def qrCreateRateLimitWindow : Nat :=
  secs 60

def qrCreateRateLimitMaxEntries : Nat :=
  4096

/-- From the code and the address to the time of the attempt. -/
structure PairConfirmRateLimiter where
  attempts : AList fun _ : String × String => Nat

namespace PairConfirmRateLimiter

def new : PairConfirmRateLimiter :=
  ⟨∅⟩

/-- Stale entries are purged. -/
def purged (limiter : PairConfirmRateLimiter) (now : Nat) : AList fun _ : String × String => Nat :=
  retain (fun _ time => fresh pairConfirmRateLimitWindow now time) limiter.attempts

def checkAndRecord (limiter : PairConfirmRateLimiter)
    (call : Call (String × String)) : Bool × PairConfirmRateLimiter :=
  let attempts := limiter.purged call.now
  if (attempts.lookup call.key).isSome then (false, ⟨attempts⟩)
  else
    let attempts :=
      if pairConfirmRateLimitMaxEntries ≤ attempts.entries.length then
        dropLeast (fun entry => entry.2) call.tie attempts
      else attempts
    (true, ⟨attempts.insert call.key call.now⟩)

def trackedCount (limiter : PairConfirmRateLimiter) : Nat :=
  limiter.attempts.entries.length

/-- The time of an attempt, as a list of none or one. -/
def times (limiter : PairConfirmRateLimiter) (key : String × String) : List Nat :=
  (limiter.attempts.lookup key).toList

end PairConfirmRateLimiter

/-- From the address to the times of the recent creations. -/
structure QrCreateRateLimiter where
  attempts : AList fun _ : String => List Nat

namespace QrCreateRateLimiter

def new : QrCreateRateLimiter :=
  ⟨∅⟩

/-- Stale times are purged, and addresses without any. -/
def purged (limiter : QrCreateRateLimiter) (now : Nat) : AList fun _ : String => List Nat :=
  retain (fun _ times => !times.isEmpty)
      (mapValues (fun times => times.filter (fresh qrCreateRateLimitWindow now)) limiter.attempts)

def checkAndRecord (limiter : QrCreateRateLimiter) (call : Call String) :
    Bool × QrCreateRateLimiter :=
  let attempts := limiter.purged call.now
  let current := ((attempts.lookup call.key).map List.length).getD 0
  if qrCreateRateLimitMax ≤ current then (false, ⟨attempts⟩)
  else
    let attempts :=
      if qrCreateRateLimitMaxEntries ≤ attempts.entries.length ∧
          (attempts.lookup call.key).isNone = true then
        dropLeast (fun entry => entry.2.head?.getD call.now) call.tie attempts
      else attempts
    (true, ⟨attempts.insert call.key ((attempts.lookup call.key).getD [] ++ [call.now])⟩)

def trackedCount (limiter : QrCreateRateLimiter) : Nat :=
  limiter.attempts.entries.length

def times (limiter : QrCreateRateLimiter) (ip : String) : List Nat :=
  (limiter.attempts.lookup ip).getD []

end QrCreateRateLimiter

section Sizes

/-- A table that has made room when it was full holds one entry more. -/
lemma length_insert_le {α β : Type} [DecidableEq α] {max : Nat} {table : AList fun _ => β}
    (key : (_ : α) × β → Nat) (tie : Nat) (own : α) (value : β) (hpos : 0 < max)
    (hsize : table.entries.length ≤ max) :
    ((if max ≤ table.entries.length then dropLeast key tie table
      else table).insert own value).entries.length ≤ max := by
  have hroom : (if max ≤ table.entries.length then
      dropLeast key tie table else table).entries.length < max := by
    split
    · next hfull =>
      have hdrop := length_dropLeast key tie (List.ne_nil_of_length_pos (hpos.trans_le hfull))
      omega
    · next hfull => exact not_le.mp hfull
  exact (length_erase_le _ own).trans_lt hroom

namespace PairConfirmRateLimiter

variable {limiter : PairConfirmRateLimiter} {call : Call (String × String)}

lemma length_purged_le (now : Nat) : (limiter.purged now).entries.length ≤ limiter.trackedCount :=
  List.length_filter_le _ _

lemma trackedCount_checkAndRecord_le
    (hsize : limiter.trackedCount ≤ pairConfirmRateLimitMaxEntries) :
    (limiter.checkAndRecord call).2.trackedCount ≤ pairConfirmRateLimitMaxEntries := by
  have hpurged := (length_purged_le call.now).trans hsize
  unfold checkAndRecord
  dsimp only
  split
  · exact hpurged
  · exact length_insert_le _ call.tie call.key call.now (by decide) hpurged

end PairConfirmRateLimiter

namespace QrCreateRateLimiter

variable {limiter : QrCreateRateLimiter} {call : Call String}

lemma length_purged_le (now : Nat) :
    (limiter.purged now).entries.length ≤ limiter.trackedCount := by
  apply (List.length_filter_le _ _).trans
  rw [mapValues, List.length_map]
  exact le_rfl

lemma trackedCount_checkAndRecord_le (hsize : limiter.trackedCount ≤ qrCreateRateLimitMaxEntries) :
    (limiter.checkAndRecord call).2.trackedCount ≤ qrCreateRateLimitMaxEntries := by
  have hpurged := (length_purged_le call.now).trans hsize
  unfold checkAndRecord
  dsimp only
  split
  · exact hpurged
  · cases hown : (limiter.purged call.now).lookup call.key with
    | none =>
      simp only [Option.isNone_none, and_true]
      exact length_insert_le _ call.tie call.key _ (by decide) hpurged
    | some old =>
      -- The entry of the address is replaced.
      have herase := length_erase_of_isSome (Option.isSome_of_eq_some hown)
      simp only [Option.isNone_some, Bool.false_eq_true, and_false, if_false]
      rw [trackedCount, length_insert]
      omega

end QrCreateRateLimiter

end Sizes

section Slides

open WindowLimit (Slides)

namespace PairConfirmRateLimiter

variable {limiter : PairConfirmRateLimiter} {call : Call (String × String)}

lemma toList_lookup_purged (now : Nat) (key : String × String) :
    ((limiter.purged now).lookup key).toList =
      (limiter.times key).filter (fresh pairConfirmRateLimitWindow now) := by
  rw [purged, lookup_retain, times, Option.toList_filter]

lemma checkAndRecord_of_some {time : Nat}
    (hown : (limiter.purged call.now).lookup call.key = some time) :
    limiter.checkAndRecord call = (false, ⟨limiter.purged call.now⟩) := by
  simp [checkAndRecord, hown]

lemma checkAndRecord_of_none (hown : (limiter.purged call.now).lookup call.key = none)
    (hroom : (limiter.purged call.now).entries.length < pairConfirmRateLimitMaxEntries) :
    limiter.checkAndRecord call = (true, ⟨(limiter.purged call.now).insert call.key call.now⟩) := by
  simp [checkAndRecord, hown, if_neg (not_le.mpr hroom)]

/-- As long as there is room, the table is a sliding window of one call. -/
lemma slides (hroom : (limiter.purged call.now).lookup call.key = none →
      (limiter.purged call.now).entries.length < pairConfirmRateLimitMaxEntries) :
    Slides checkAndRecord times 1 pairConfirmRateLimitWindow limiter call := by
  have hpurged := @toList_lookup_purged limiter call.now
  have hcount := hpurged call.key
  cases hown : (limiter.purged call.now).lookup call.key with
  | some time =>
    have hrefused := checkAndRecord_of_some hown
    rw [hown] at hcount
    refine ⟨?_, fun key => ?_⟩
    · rw [hrefused, List.countP_eq_length_filter, ← hcount]
      exact iff_of_false Bool.false_ne_true (lt_irrefl 1)
    · rw [hrefused, if_neg (by simp), List.append_nil]
      exact hpurged key
  | none =>
    have hadmitted := checkAndRecord_of_none hown (hroom hown)
    rw [hown] at hcount
    refine ⟨?_, fun key => ?_⟩
    · rw [hadmitted, List.countP_eq_length_filter, ← hcount]
      exact iff_of_true rfl zero_lt_one
    · rw [hadmitted, times, lookup_insert]
      by_cases hkey : key = call.key
      · subst hkey
        rw [if_pos rfl, if_pos ⟨rfl, rfl⟩, ← hcount]
        rfl
      · rw [if_neg hkey, if_neg (fun hboth => hkey hboth.1.symm), List.append_nil, hpurged]

lemma each_counted {calls : List (Call (String × String))} (hordered : WindowLimit.Ordered calls)
    (hsparse : WindowLimit.Sparse pairConfirmRateLimitWindow pairConfirmRateLimitMaxEntries calls) :
    History.Each (WindowLimit.Counted 1 pairConfirmRateLimitWindow)
      (WindowLimit.logOf checkAndRecord new calls) := by
  have hempty : ∀ key, times new key = [] := fun _ => rfl
  apply WindowLimit.each_counted hempty hordered
  intro recorded clock call htracks hclock hcall hlog
  apply slides
  intro hown
  apply htracks.length_lt hsparse (by decide) hclock hcall hlog hown
  intro key time htime
  rw [← Option.mem_toList, toList_lookup_purged] at htime
  exact ⟨time, List.mem_filter.mp htime⟩

end PairConfirmRateLimiter

namespace QrCreateRateLimiter

variable {limiter : QrCreateRateLimiter} {call : Call String}

lemma getD_lookup_purged (now : Nat) (ip : String) :
    ((limiter.purged now).lookup ip).getD [] =
      (limiter.times ip).filter (fresh qrCreateRateLimitWindow now) := by
  rw [purged, lookup_retain, lookup_mapValues, times]
  cases limiter.attempts.lookup ip with
  | none => rfl
  | some old =>
    rw [Option.map_some, Option.getD_some]
    cases old.filter (fresh qrCreateRateLimitWindow now) <;> rfl

/-- The number that a call finds. -/
lemma current_eq (now : Nat) (ip : String) :
    (((limiter.purged now).lookup ip).map List.length).getD 0 =
      (limiter.times ip).countP (fresh qrCreateRateLimitWindow now) := by
  rw [List.countP_eq_length_filter, ← getD_lookup_purged]
  cases (limiter.purged now).lookup ip <;> rfl

lemma checkAndRecord_of_full (hfull : qrCreateRateLimitMax ≤ (limiter.times call.key).countP
      (fresh qrCreateRateLimitWindow call.now)) :
    limiter.checkAndRecord call = (false, ⟨limiter.purged call.now⟩) := by
  simp [checkAndRecord, current_eq, if_pos hfull]

lemma checkAndRecord_of_not_full (hfull : ¬ qrCreateRateLimitMax ≤ (limiter.times call.key).countP
      (fresh qrCreateRateLimitWindow call.now))
    (hroom : (limiter.purged call.now).lookup call.key = none →
      (limiter.purged call.now).entries.length < qrCreateRateLimitMaxEntries) :
    limiter.checkAndRecord call = (true, ⟨(limiter.purged call.now).insert call.key
        ((limiter.times call.key).filter
          (fresh qrCreateRateLimitWindow call.now) ++ [call.now])⟩) := by
  have hkept : ¬ (qrCreateRateLimitMaxEntries ≤ (limiter.purged call.now).entries.length ∧
        ((limiter.purged call.now).lookup call.key).isNone = true) := by
    rintro ⟨hover, hnone⟩
    exact absurd (hroom (Option.isNone_iff_eq_none.mp hnone)) (not_lt.mpr hover)
  simp only [checkAndRecord, current_eq, if_neg hfull, if_neg hkept, getD_lookup_purged]

/-- As long as there is room, the table is a sliding window. -/
lemma slides (hroom : (limiter.purged call.now).lookup call.key = none →
      (limiter.purged call.now).entries.length < qrCreateRateLimitMaxEntries) :
    Slides checkAndRecord times qrCreateRateLimitMax qrCreateRateLimitWindow limiter call := by
  by_cases hfull : qrCreateRateLimitMax ≤ (limiter.times call.key).countP
      (fresh qrCreateRateLimitWindow call.now)
  · have hrefused := checkAndRecord_of_full hfull
    refine ⟨?_, fun key => ?_⟩
    · rw [hrefused, ← not_le]
      exact iff_of_false Bool.false_ne_true (not_not.mpr hfull)
    · rw [hrefused, if_neg (by simp), List.append_nil, ← getD_lookup_purged]
      rfl
  · have hadmitted := checkAndRecord_of_not_full hfull hroom
    refine ⟨?_, fun key => ?_⟩
    · rw [hadmitted]
      exact iff_of_true rfl (not_le.mp hfull)
    · rw [hadmitted, times, lookup_insert]
      by_cases hkey : key = call.key
      · subst hkey
        rw [if_pos rfl, if_pos ⟨rfl, rfl⟩, Option.getD_some]
      · rw [if_neg hkey, if_neg (fun hboth => hkey hboth.1.symm),
          List.append_nil, getD_lookup_purged]

lemma each_counted {calls : List (Call String)} (hordered : WindowLimit.Ordered calls)
    (hsparse : WindowLimit.Sparse qrCreateRateLimitWindow qrCreateRateLimitMaxEntries calls) :
    History.Each (WindowLimit.Counted qrCreateRateLimitMax qrCreateRateLimitWindow)
      (WindowLimit.logOf checkAndRecord new calls) := by
  have hempty : ∀ key, times new key = [] := fun _ => rfl
  apply WindowLimit.each_counted hempty hordered
  intro recorded clock call htracks hclock hcall hlog
  apply slides
  intro hown
  apply htracks.length_lt hsparse (by decide) hclock hcall hlog hown
  intro ip kept hkept
  have hne : kept ≠ [] := by
    rw [purged, lookup_retain, Option.filter_eq_some_iff] at hkept
    simpa using hkept.2
  have htimes := @getD_lookup_purged recorded.state call.now ip
  rw [hkept, Option.getD_some] at htimes
  obtain ⟨time, htime⟩ := List.exists_mem_of_ne_nil kept hne
  rw [htimes] at htime
  exact ⟨time, List.mem_filter.mp htime⟩

end QrCreateRateLimiter

end Slides

open WindowLimit in
/-- Neither table grows beyond its maximum, and as long as the addresses in
every window are fewer than that, each limiter admits its quota in every window
and refuses nothing else. -/
theorem pairing_limits :
    (∀ calls, Ordered calls → Limits PairConfirmRateLimiter.checkAndRecord
        PairConfirmRateLimiter.trackedCount 1 pairConfirmRateLimitWindow
        pairConfirmRateLimitMaxEntries PairConfirmRateLimiter.new calls) ∧
      ∀ calls, Ordered calls → Limits QrCreateRateLimiter.checkAndRecord
          QrCreateRateLimiter.trackedCount qrCreateRateLimitMax
          qrCreateRateLimitWindow qrCreateRateLimitMaxEntries QrCreateRateLimiter.new calls := by
  constructor
  · intro calls hordered
    apply Limits.of_each _ (PairConfirmRateLimiter.each_counted hordered)
    have hstep : ∀ limiter call,
        PairConfirmRateLimiter.trackedCount limiter ≤ pairConfirmRateLimitMaxEntries →
          (limiter.checkAndRecord call).2.trackedCount ≤
            pairConfirmRateLimitMaxEntries :=
      fun _ _ => PairConfirmRateLimiter.trackedCount_checkAndRecord_le
    exact fun past _ => Transition.run_invariant hstep (Nat.zero_le _) past
  · intro calls hordered
    apply Limits.of_each _ (QrCreateRateLimiter.each_counted hordered)
    have hstep : ∀ limiter call,
        QrCreateRateLimiter.trackedCount limiter ≤ qrCreateRateLimitMaxEntries →
          (limiter.checkAndRecord call).2.trackedCount ≤
            qrCreateRateLimitMaxEntries :=
      fun _ _ => QrCreateRateLimiter.trackedCount_checkAndRecord_le
    exact fun past _ => Transition.run_invariant hstep (Nat.zero_le _) past

open WindowLimit in
/-- A replay within the window is refused, and admitted when the window is
over. -/
theorem pairing_limits_replay :
    let own := ("code", "192.0.2.1")
    let calls : List (Call (String × String)) :=
      [⟨own, 0, 0⟩, ⟨own, secs 59, 0⟩, ⟨own, secs 60, 0⟩]
    let log := logOf PairConfirmRateLimiter.checkAndRecord PairConfirmRateLimiter.new calls
    log.map Prod.snd = [true, false, true] ∧
      Sparse pairConfirmRateLimitWindow pairConfirmRateLimitMaxEntries calls ∧
      admittedIn own 0 pairConfirmRateLimitWindow log ≤ 1 := by
  intro own calls log
  have hsparse : Sparse pairConfirmRateLimitWindow pairConfirmRateLimitMaxEntries calls :=
    sparse_of_length_lt (by decide)
  have hordered : Ordered calls := by
    unfold Ordered
    decide
  exact ⟨by decide, hsparse, (pairing_limits.1 calls hordered).admitted hsparse own 0⟩

end IlinkHub
