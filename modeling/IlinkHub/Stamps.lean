/-
Numbers drawn from a clock and a counter: the reading of the clock, and below it
the counter modulo a base.  While the clock never goes back and no reading is
drawn from more often than the base, no number comes twice.
-/
import Mathlib.Data.List.Count
import Mathlib.Data.List.Nodup

namespace Stamps

def stamp (base time counter : Nat) : Nat :=
  time * base + counter % base

/-- The numbers that are drawn at these readings, from this count on. -/
def stamps (base : Nat) : Nat → List Nat → List Nat
  | _, [] => []
  | counter, time :: later =>
    stamp base time counter :: stamps base (counter + 1) later

structure Steady (base : Nat) (times : List Nat) : Prop where
  ordered : times.Pairwise (· ≤ ·)
  few : ∀ time, times.count time ≤ base

variable {base : Nat}

lemma stamps_concat (times : List Nat) (time counter : Nat) :
    stamps base counter (times ++ [time]) = stamps base counter times ++
        [stamp base time (counter + times.length)] := by
  induction times generalizing counter with
  | nil => rfl
  | cons first later ih =>
    rw [List.cons_append, stamps, stamps, ih, List.length_cons,
      List.cons_append, Nat.add_right_comm, Nat.add_assoc]

lemma mem_stamps_iff {times : List Nat} {counter number : Nat} :
    number ∈ stamps base counter times ↔ ∃ n time, times[n]? = some time ∧
        number = stamp base time (counter + n) := by
  induction times generalizing counter with
  | nil => simp [stamps]
  | cons first later ih =>
    rw [stamps, List.mem_cons, ih]
    constructor
    · rintro (rfl | ⟨n, time, htime, rfl⟩)
      · exact ⟨0, first, rfl, rfl⟩
      · refine ⟨n + 1, time, htime, ?_⟩
        rw [Nat.add_right_comm, Nat.add_assoc]
    · rintro ⟨n, time, htime, rfl⟩
      cases n with
      | zero =>
        cases htime
        exact .inl rfl
      | succ n =>
        refine .inr ⟨n, time, htime, ?_⟩
        rw [Nat.add_right_comm, Nat.add_assoc]

lemma stamp_lt_of_lt {time later counter other : Nat} (hbase : 0 < base) (htime : time < later) :
    stamp base time counter < stamp base later other := by
  have hcounter := Nat.mod_lt counter hbase
  have hstep := Nat.mul_le_mul_right base htime
  rw [Nat.succ_mul] at hstep
  unfold stamp
  omega

lemma stamp_ne_of_near {time counter other : Nat} (hlt : counter < other)
    (hnear : other < counter + base) : stamp base time counter ≠ stamp base time other := by
  intro heq
  have hmod := (Nat.add_left_cancel heq).symm
  have hdvd := Nat.dvd_of_mod_eq_zero (Nat.sub_mod_eq_zero_of_mod_eq hmod)
  have hle := Nat.le_of_dvd (Nat.sub_pos_of_lt hlt) hdvd
  omega

/-- Readings in order that come back to the first one have all been equal. -/
lemma count_of_return {first : Nat} {later : List Nat} {n : Nat}
    (hordered : (first :: later).Pairwise (· ≤ ·)) (hreturn : later[n]? = some first) :
    n + 2 ≤ (first :: later).count first := by
  induction later generalizing n with
  | nil => simp at hreturn
  | cons second rest ih =>
    have hsecond : second = first := by
      have hle := (List.pairwise_cons.mp hordered).1 second List.mem_cons_self
      have hback : second ≤ first := by
        cases n with
        | zero => exact Nat.le_of_eq (Option.some.inj hreturn)
        | succ n =>
          have hrest := (List.pairwise_cons.mp (List.pairwise_cons.mp hordered).2).1
          exact hrest first (List.mem_of_getElem? hreturn)
      omega
    subst hsecond
    cases n with
    | zero => simp
    | succ n =>
      have hshort := ih (List.pairwise_cons.mp hordered).2 hreturn
      rw [List.count_cons_self]
      omega

lemma nodup_stamps (hbase : 0 < base) {times : List Nat} (hsteady : Steady base times)
    (counter : Nat) : (stamps base counter times).Nodup := by
  induction times generalizing counter with
  | nil => exact List.nodup_nil
  | cons first later ih =>
    obtain ⟨hordered, hfew⟩ := hsteady
    have hlater : Steady base later :=
      ⟨(List.pairwise_cons.mp hordered).2, fun time =>
        Nat.le_trans List.count_le_count_cons (hfew time)⟩
    rw [stamps, List.nodup_cons]
    refine ⟨?_, ih hlater (counter + 1)⟩
    intro hmem
    obtain ⟨n, time, htime, heq⟩ := mem_stamps_iff.mp hmem
    have hle := (List.pairwise_cons.mp hordered).1 time (List.mem_of_getElem? htime)
    rcases Nat.lt_or_eq_of_le hle with hlt | rfl
    · exact absurd heq (Nat.ne_of_lt (stamp_lt_of_lt hbase hlt))
    · have hcount := Nat.le_trans (count_of_return hordered htime) (hfew first)
      exact stamp_ne_of_near (by omega) (by omega) heq

end Stamps
