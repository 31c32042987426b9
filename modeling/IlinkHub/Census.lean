/-
How many processes of a list are in some kind of stage, when one of them moves.
A gate that counts before it lets anyone through keeps its limit, however the
counting and the passing are interleaved.
-/
import Mathlib.Data.List.Basic

namespace Census

universe u

variable {α : Type u} {procs : List α} {i : Nat} {old new : α}

/-- The one that moves is taken from its old stage and added to its new one. -/
theorem countP_set (p : α → Bool) (hold : procs[i]? = some old) :
    (procs.set i new).countP p + (if p old then 1 else 0) =
      procs.countP p + if p new then 1 else 0 := by
  obtain ⟨hi, hget⟩ := getElem?_eq_some_iff.mp hold
  rw [List.countP_set hi, hget]
  by_cases hp : p old = true
  · have hpos := List.countP_pos_iff.mpr ⟨old, List.mem_of_getElem? hold, hp⟩
    rw [if_pos hp]
    omega
  · rw [if_neg hp]
    omega

/-- The limit of a gate: who is admitted was admitted before, or comes to a gate
that counts fewer than the limit, and those admitted are counted. -/
theorem countP_set_le {admitted counted : α → Bool} {limit : Nat}
    (hcounted : ∀ proc, admitted proc = true → counted proc = true)
    (hold : procs[i]? = some old) (hlimit : procs.countP admitted ≤ limit)
    (hgate : admitted new = true → admitted old = true ∨ procs.countP counted < limit) :
    (procs.set i new).countP admitted ≤ limit := by
  have hmove := @countP_set α procs i old new admitted hold
  have hle : procs.countP admitted ≤ procs.countP counted :=
    List.countP_mono_left fun proc _ => hcounted proc
  by_cases hnew : admitted new = true
  · rw [if_pos hnew] at hmove
    rcases hgate hnew with hbefore | hroom
    · rw [if_pos hbefore] at hmove
      omega
    · omega
  · rw [if_neg hnew] at hmove
    omega

end Census
