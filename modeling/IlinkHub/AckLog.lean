/-
An append-only log whose prefix is retired by acknowledgements.  Entry `i` of
the log (counted from zero) carries the id `i + 1`; an acknowledgement of `a`
retires every entry whose id is at most `a`, and what is not retired is held.
-/
import Mathlib.Data.List.Basic

universe u

variable {M : Type u}

/-- The entries ever accepted, and how many of them are retired. -/
structure AckLog (M : Type u) where
  accepted : List M
  retired : Nat
  retired_le : retired ≤ accepted.length

namespace AckLog

def empty : AckLog M :=
  ⟨[], 0, Nat.le_refl 0⟩

/-- The entries that are still to be acknowledged, oldest first. -/
def held (log : AckLog M) : List M :=
  log.accepted.drop log.retired

def append (log : AckLog M) (entry : M) : AckLog M :=
  ⟨log.accepted ++ [entry], log.retired, by
    rw [List.length_append]
    exact Nat.le_trans log.retired_le (Nat.le_add_right _ _)⟩

/-- Retire up to an id.  An id that was not handed out yet retires what there
is and has no effect on later entries. -/
def acknowledge (log : AckLog M) : Option Nat → AckLog M
  | none => log
  | some upTo => ⟨log.accepted, max log.retired (min upTo log.accepted.length),
      Nat.max_le.mpr ⟨log.retired_le, Nat.min_le_right _ _⟩⟩

@[simp] lemma accepted_append (log : AckLog M) (entry : M) :
    (log.append entry).accepted = log.accepted ++ [entry] := rfl

@[simp] lemma retired_append (log : AckLog M) (entry : M) :
    (log.append entry).retired = log.retired := rfl

@[simp] lemma accepted_acknowledge (log : AckLog M) (upTo : Option Nat) :
    (log.acknowledge upTo).accepted = log.accepted := by
  cases upTo <;> rfl

lemma held_append (log : AckLog M) (entry : M) : (log.append entry).held = log.held ++ [entry] :=
  List.drop_append_of_le_length log.retired_le

@[simp] lemma length_held (log : AckLog M) : log.held.length = log.accepted.length - log.retired :=
  List.length_drop

lemma held_getElem? (log : AckLog M) (i : Nat) : log.held[i]? = log.accepted[log.retired + i]? :=
  List.getElem?_drop

/-- An acknowledgement only drops entries from the front of what is held. -/
lemma held_acknowledge (log : AckLog M) (upTo : Nat) :
    (log.acknowledge (some upTo)).held =
      log.held.drop (min upTo log.accepted.length - log.retired) := by
  simp only [acknowledge, held, List.drop_drop]
  congr 1
  omega

lemma retired_le_acknowledge (log : AckLog M) (upTo : Option Nat) :
    log.retired ≤ (log.acknowledge upTo).retired := by
  cases upTo with
  | none => exact Nat.le_refl _
  | some a => exact Nat.le_max_left _ _

/-- An entry that is in the log survives an acknowledgement exactly when the
acknowledged id is smaller than its own. -/
lemma retired_acknowledge_lt_iff (log : AckLog M) {id : Nat}
    (hid : id ≤ log.accepted.length) (upTo : Option Nat) :
    (log.acknowledge upTo).retired < id ↔ log.retired < id ∧ ∀ a, upTo = some a → a < id := by
  cases upTo with
  | none => simp [acknowledge]
  | some a =>
    simp only [acknowledge, Option.some.injEq, forall_eq']
    omega

variable (seq : M → Option Int)

/-- The ids are consecutive from one, in acceptance order. -/
def Numbered (log : AckLog M) : Prop :=
  ∀ (i : Nat) (entry : M), log.accepted[i]? = some entry → seq entry = some ((i : Int) + 1)

variable {seq}

lemma numbered_empty : (empty : AckLog M).Numbered seq := by
  intro i entry hentry
  simp [empty] at hentry

variable {log : AckLog M} {entry : M}

section Numbers

variable (hlog : log.Numbered seq)

include hlog

lemma Numbered.append (hentry : seq entry = some ((log.accepted.length : Int) + 1)) :
    (log.append entry).Numbered seq := by
  intro i found hfound
  rw [accepted_append, List.getElem?_append] at hfound
  by_cases hlt : i < log.accepted.length
  · rw [if_pos hlt] at hfound
    exact hlog i found hfound
  · rw [if_neg hlt] at hfound
    have hzero : i - log.accepted.length = 0 := by
      by_contra hne
      obtain ⟨n, hn⟩ := Nat.exists_eq_succ_of_ne_zero hne
      simp [hn] at hfound
    rw [hzero] at hfound
    obtain rfl : entry = found := by simpa using hfound
    obtain rfl : i = log.accepted.length := by omega
    exact hentry

lemma Numbered.acknowledge (upTo : Option Nat) : (log.acknowledge upTo).Numbered seq := by
  intro i entry hentry
  rw [accepted_acknowledge] at hentry
  exact hlog i entry hentry

lemma Numbered.held_seq {i : Nat} (hentry : log.held[i]? = some entry) :
    seq entry = some ((log.retired + i : Nat) + 1 : Int) := by
  rw [held_getElem?] at hentry
  exact hlog _ entry hentry

/-- The ids that are held are the ones above the retired count. -/
lemma Numbered.map_held :
    log.held.map seq = (List.range' (log.retired + 1) log.held.length).map
        fun id : Nat => some (id : Int) := by
  apply List.ext_getElem?
  intro i
  rw [List.getElem?_map, List.getElem?_map]
  cases hentry : log.held[i]? with
  | none =>
    have hlen := List.getElem?_eq_none_iff.mp hentry
    rw [List.getElem?_eq_none (by simpa using hlen)]
    rfl
  | some entry =>
    obtain ⟨hlt, -⟩ := getElem?_eq_some_iff.mp hentry
    rw [List.getElem?_range' hlt]
    simp only [Option.map_some, hlog.held_seq hentry]
    congr 2
    omega

lemma Numbered.seq_of_mem_held (hentry : entry ∈ log.held) :
    ∃ id : Nat, seq entry = some (id : Int) ∧ log.retired < id ∧ id ≤ log.accepted.length := by
  obtain ⟨i, hi⟩ := List.mem_iff_getElem?.mp hentry
  obtain ⟨hlt, -⟩ := getElem?_eq_some_iff.mp hi
  rw [length_held] at hlt
  exact ⟨log.retired + i + 1, by simpa using hlog.held_seq hi, by omega, by omega⟩

lemma Numbered.eq_of_seq_eq {left right : M}
    (hleft : left ∈ log.accepted) (hright : right ∈ log.accepted) (heq : seq left = seq right) :
    left = right := by
  obtain ⟨i, hi⟩ := List.mem_iff_getElem?.mp hleft
  obtain ⟨j, hj⟩ := List.mem_iff_getElem?.mp hright
  rw [hlog i left hi, hlog j right hj] at heq
  obtain rfl : i = j := by
    have := Option.some.inj heq
    omega
  rw [hi] at hj
  exact Option.some.inj hj

lemma Numbered.mem_held_iff (hentry : entry ∈ log.accepted)
    {id : Nat} (hid : seq entry = some (id : Int)) : entry ∈ log.held ↔ log.retired < id := by
  constructor
  · intro hmem
    obtain ⟨id', hid', hlt, -⟩ := hlog.seq_of_mem_held hmem
    rw [hid] at hid'
    have heq := Option.some.inj hid'
    omega
  · intro hlt
    obtain ⟨i, hi⟩ := List.mem_iff_getElem?.mp hentry
    have hidi := hlog i entry hi
    rw [hid] at hidi
    have heq := Option.some.inj hidi
    apply List.mem_iff_getElem?.mpr
    refine ⟨i - log.retired, ?_⟩
    rw [held_getElem?, ← hi]
    congr 1
    omega

end Numbers

end AckLog
