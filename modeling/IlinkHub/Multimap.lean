/-
A map from keys to sets, kept as a keyed table of lists.  A key is entered with
its first value, so two tables that hold the same pairs are the same map.
-/
import Mathlib.Data.Finset.Dedup
import IlinkHub.Query

namespace Multimap

universe u v

variable {α : Type u} {β : Type v} [DecidableEq α]

/-- The key has the value. -/
def Has (table : AList fun _ : α => List β) (key : α) (value : β) : Prop :=
  value ∈ (table.lookup key).getD []

/-- Every key that is present has a value. -/
def Inhabited (table : AList fun _ : α => List β) : Prop :=
  ∀ key, table.lookup key ≠ some []

variable [DecidableEq β]

/-- `entry(key).or_default().insert(value)`. -/
def insert (key : α) (value : β) (table : AList fun _ : α => List β) : AList fun _ : α => List β :=
  table.insert key (((table.lookup key).getD []).insert value)

/-- The same keys with the same sets. -/
def Same (left right : AList fun _ : α => List β) : Prop :=
  ∀ key, (left.lookup key).map List.toFinset = (right.lookup key).map List.toFinset

variable {table : AList fun _ : α => List β}

lemma has_insert {key own : α} {value added : β} :
    Has (insert own added table) key value ↔ key = own ∧ value = added ∨ Has table key value := by
  rw [Has, insert, Query.lookup_insert]
  split
  · next hkey =>
    subst hkey
    simp [Has]
  · next hkey => simp [Has, hkey]

lemma inhabited_insert (htable : Inhabited table) (own : α) (added : β) :
    Inhabited (insert own added table) := by
  intro key hempty
  rw [insert, Query.lookup_insert] at hempty
  split at hempty
  · have hmem := List.mem_insert_self (l := (table.lookup own).getD []) (a := added)
    simp [Option.some.inj hempty] at hmem
  · exact htable key hempty

omit [DecidableEq β] in
lemma Inhabited.isSome_lookup_iff (htable : Inhabited table) {key : α} :
    (table.lookup key).isSome = true ↔ ∃ value, Has table key value := by
  have hsome := htable key
  unfold Has
  cases hvalues : table.lookup key with
  | none => simp
  | some values =>
    rw [hvalues] at hsome
    simpa using List.exists_mem_of_ne_nil values fun hnil => hsome (by rw [hnil])

omit [DecidableEq β] in
lemma Inhabited.isEmpty_entries_iff (htable : Inhabited table) :
    table.entries.isEmpty = true ↔ ∀ key value, ¬ Has table key value := by
  rw [List.isEmpty_iff]
  constructor
  · intro hentries key value hhas
    have hsome := htable.isSome_lookup_iff.mpr ⟨value, hhas⟩
    obtain ⟨values, hvalues⟩ := Option.isSome_iff_exists.mp hsome
    simp [Query.lookup_eq_some_iff, hentries] at hvalues
  · intro hnone
    refine List.eq_nil_iff_forall_not_mem.mpr fun entry hentry => ?_
    have hlookup := Query.lookup_eq_some_iff.mpr hentry
    obtain ⟨value, hhas⟩ :=
      htable.isSome_lookup_iff.mp (Option.isSome_of_mem hlookup)
    exact hnone _ _ hhas

/-- Tables without empty sets are determined by the pairs they hold. -/
lemma same_of_has_iff {left right : AList fun _ : α => List β} (hleft : Inhabited left)
    (hright : Inhabited right) (hiff : ∀ key value, Has left key value ↔ Has right key value) :
    Same left right := by
  intro key
  have hpresent : (left.lookup key).isSome = (right.lookup key).isSome := by
    rw [Bool.eq_iff_iff, hleft.isSome_lookup_iff, hright.isSome_lookup_iff]
    exact exists_congr (hiff key)
  have hmember := hiff key
  unfold Has at hmember
  cases hl : left.lookup key with
  | none =>
    cases hr : right.lookup key with
    | none => rfl
    | some values => simp [hl, hr] at hpresent
  | some values =>
    cases hr : right.lookup key with
    | none => simp [hl, hr] at hpresent
    | some others =>
      simp only [hl, hr] at hmember
      simp only [Option.map_some, Option.some.injEq]
      exact Finset.ext fun value => by simpa using hmember value

end Multimap
