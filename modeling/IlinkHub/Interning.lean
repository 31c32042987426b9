/-
A table that gives every key one name and remembers the last value of the key.
The name of a new key is a candidate that comes with the call.  As long as the
candidates are new, two calls get the same name exactly if they have the same
key.
-/
import IlinkHub.History

namespace Interning

universe u v w x

variable {C : Type u} {K : Type v} {N : Type w} {V : Type x}

/-- What a call brings along. -/
structure Spec (C : Type u) (K : Type v) (N : Type w) (V : Type x) where
  key : C → K
  value : C → V
  candidate : C → N

/-- The name of a key with its last value. -/
def Table (K : Type v) (N : Type w) (V : Type x) : Type (max v w x) :=
  K → Option (N × V)

namespace Spec

variable [DecidableEq K] (spec : Spec C K N V)

def assign (table : Table K N V) (c : C) : N × Table K N V :=
  let name := ((table (spec.key c)).map Prod.fst).getD (spec.candidate c)
  (name, Function.update table (spec.key c) (some (name, spec.value c)))

def start : History.Recorded (Table K N V) C N :=
  History.start fun _ => none

/-- The candidate was not one before. -/
def Fresh {A : Type*} (log : List (C × A)) (c : C) : Prop :=
  ∀ entry ∈ log, spec.candidate entry.1 ≠ spec.candidate c

/-- What the log says about the table. -/
structure Tracks (recorded : History.Recorded (Table K N V) C N) : Prop where
  named : ∀ key name value, recorded.state key = some (name, value) →
    ∃ entry ∈ recorded.log, spec.candidate entry.1 = name
  kept : ∀ entry ∈ recorded.log, ∃ value, recorded.state (spec.key entry.1) = some (entry.2, value)
  latest : ∀ key, (recorded.state key).map Prod.snd =
    (recorded.log.find? fun entry => spec.key entry.1 = key).map fun entry => spec.value entry.1
  distinct : ∀ key other name value last, recorded.state key = some (name, value) → recorded.state
    other = some (name, last) → key = other

lemma tracks_start : spec.Tracks start where
  named _ _ _ hname := by cases hname
  kept _ hentry := by cases hentry
  latest _ := rfl
  distinct _ _ _ _ _ hname := by cases hname

variable {spec} {recorded : History.Recorded (Table K N V) C N} {c : C}

lemma assign_key :
    (spec.assign recorded.state c).2 (spec.key c) =
      some ((spec.assign recorded.state c).1, spec.value c) :=
  Function.update_self ..

lemma assign_of_ne {key : K} (hkey : key ≠ spec.key c) :
    (spec.assign recorded.state c).2 key = recorded.state key :=
  Function.update_of_ne hkey ..

lemma assign_of_some {name : N} {value : V}
    (hname : recorded.state (spec.key c) = some (name, value)) :
    (spec.assign recorded.state c).1 = name := by
  simp [assign, hname]

lemma assign_of_none (hnone : recorded.state (spec.key c) = none) :
    (spec.assign recorded.state c).1 = spec.candidate c := by
  simp [assign, hnone]

lemma Tracks.distinct_step (htracks : spec.Tracks recorded)
    (hfresh : spec.Fresh recorded.log c) {other : K} {last : V}
    (hother : recorded.state other = some ((spec.assign recorded.state c).1, last)) :
    spec.key c = other := by
  cases hkey : recorded.state (spec.key c) with
  | some own =>
    rw [assign_of_some hkey] at hother
    exact htracks.distinct _ _ _ _ _ hkey hother
  | none =>
    rw [assign_of_none hkey] at hother
    obtain ⟨entry, hentry, hcandidate⟩ := htracks.named _ _ _ hother
    exact absurd hcandidate (hfresh entry hentry)

lemma Tracks.step (htracks : spec.Tracks recorded) (hfresh : spec.Fresh recorded.log c) :
    spec.Tracks (History.record spec.assign recorded c) where
  named key name value hname := by
    by_cases hkey : key = spec.key c
    · subst hkey
      obtain ⟨rfl, -⟩ := Prod.mk.inj (Option.some.inj (assign_key.symm.trans hname))
      cases hown : recorded.state (spec.key c) with
      | some own =>
        rw [assign_of_some hown]
        obtain ⟨entry, hentry, hcandidate⟩ := htracks.named _ _ _ hown
        exact ⟨entry, List.mem_cons_of_mem _ hentry, hcandidate⟩
      | none => exact ⟨_, List.mem_cons_self, (assign_of_none hown).symm⟩
    · have hold := (assign_of_ne hkey).symm.trans hname
      obtain ⟨entry, hentry, hcandidate⟩ := htracks.named _ _ _ hold
      exact ⟨entry, List.mem_cons_of_mem _ hentry, hcandidate⟩
  kept entry hentry := by
    rcases List.mem_cons.mp hentry with rfl | hold
    · exact ⟨_, assign_key⟩
    · obtain ⟨value, hvalue⟩ := htracks.kept entry hold
      by_cases hkey : spec.key entry.1 = spec.key c
      · refine ⟨spec.value c, ?_⟩
        rw [hkey] at hvalue ⊢
        rw [← assign_of_some hvalue]
        exact assign_key
      · exact ⟨value, (assign_of_ne hkey).trans hvalue⟩
  latest key := by
    by_cases hkey : key = spec.key c
    · subst hkey
      simp [History.record, assign_key]
    · have hne : ¬ spec.key c = key := fun heq => hkey heq.symm
      simp only [History.record, assign_of_ne hkey, List.find?_cons, hne]
      exact htracks.latest key
  distinct key other name value last hname hother := by
    by_cases hkey : key = spec.key c
    · subst hkey
      by_cases hsame : other = spec.key c
      · exact hsame.symm
      · obtain ⟨rfl, -⟩ := Prod.mk.inj (Option.some.inj (assign_key.symm.trans hname))
        exact htracks.distinct_step hfresh ((assign_of_ne hsame).symm.trans hother)
    · by_cases hsame : other = spec.key c
      · subst hsame
        obtain ⟨rfl, -⟩ := Prod.mk.inj (Option.some.inj (assign_key.symm.trans hother))
        exact (htracks.distinct_step hfresh ((assign_of_ne hkey).symm.trans hname)).symm
      · exact htracks.distinct _ _ _ _ _ ((assign_of_ne hkey).symm.trans hname)
          ((assign_of_ne hsame).symm.trans hother)

lemma Tracks.same_name_iff (htracks : spec.Tracks recorded) {left right : C × N}
    (hleft : left ∈ recorded.log) (hright : right ∈ recorded.log) :
    left.2 = right.2 ↔ spec.key left.1 = spec.key right.1 := by
  obtain ⟨value, hvalue⟩ := htracks.kept left hleft
  obtain ⟨last, hlast⟩ := htracks.kept right hright
  constructor
  · intro hname
    rw [hname] at hvalue
    exact htracks.distinct _ _ _ _ _ hvalue hlast
  · intro hkey
    rw [hkey, hlast] at hvalue
    exact (Prod.mk.inj (Option.some.inj hvalue)).1.symm

end Spec

end Interning
