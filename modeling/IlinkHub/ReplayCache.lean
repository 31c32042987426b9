/-
A table of used keys with the time of their use.  Entries that are `keep` old are
dropped before every use, and a key that is still there is refused.
-/
import IlinkHub.Query

namespace ReplayCache

universe u

variable {κ : Type u} {keep now later since : Nat}

/-- The entries that are younger than `keep` stay. -/
def evict (keep now : Nat) (cache : AList fun _ : κ => Nat) : AList fun _ : κ => Nat :=
  Query.retain (fun _ seen => decide (now - seen < keep)) cache

/-- An entry that was dropped once would be dropped at any later time. -/
lemma evict_evict (cache : AList fun _ : κ => Nat) (hle : now ≤ later) :
    evict keep later (evict keep now cache) = evict keep later cache := by
  apply AList.ext
  simp only [evict, Query.retain, List.filter_filter]
  apply List.filter_congr
  intro entry _
  rw [← Bool.decide_and, decide_eq_decide]
  omega

variable [DecidableEq κ] {key other : κ} {cache : AList fun _ : κ => Nat}

/-- Use a key at a time; the answer tells whether it was new. -/
def offer (keep now : Nat) (key : κ) (cache : AList fun _ : κ => Nat) :
    Bool × AList fun _ : κ => Nat :=
  let young := evict keep now cache
  if (young.lookup key).isSome then (false, young)
  else (true, young.insert key now)

/-- The key was used less than `keep` ago. -/
def Remembers (keep now : Nat) (key : κ) (cache : AList fun _ : κ => Nat) : Prop :=
  ((evict keep now cache).lookup key).isSome = true
deriving Decidable

lemma remembers_iff :
    Remembers keep now key cache ↔ ∃ seen, cache.lookup key = some seen ∧ now - seen < keep := by
  simp [Remembers, evict, Query.isSome_lookup_retain]

lemma offer_of_remembers (hseen : Remembers keep now key cache) :
    offer keep now key cache = (false, evict keep now cache) :=
  if_pos hseen

lemma offer_of_not_remembers (hseen : ¬ Remembers keep now key cache) :
    offer keep now key cache = (true, (evict keep now cache).insert key now) :=
  if_neg hseen

/-- The table knows of a use at this time or after it. -/
def UsedSince (since : Nat) (key : κ) (cache : AList fun _ : κ => Nat) : Prop :=
  ∃ seen, since ≤ seen ∧ cache.lookup key = some seen

lemma UsedSince.remembers (hused : UsedSince since key cache)
    (hsince : since ≤ now) (hnow : now < since + keep) : Remembers keep now key cache := by
  obtain ⟨seen, hle, hlookup⟩ := hused
  exact remembers_iff.mpr ⟨seen, hlookup, by omega⟩

lemma UsedSince.evict (hused : UsedSince since key cache) (hsince : since ≤ now)
    (hnow : now < since + keep) : UsedSince since key (evict keep now cache) := by
  obtain ⟨seen, hle, hlookup⟩ := hused
  refine ⟨seen, hle, ?_⟩
  rw [ReplayCache.evict, Query.lookup_retain, hlookup, Option.filter_eq_some_iff]
  exact ⟨rfl, decide_eq_true (by omega)⟩

/-- Within `keep` no use of any key makes the table forget. -/
lemma UsedSince.offer (hused : UsedSince since key cache) (hsince : since ≤ now)
    (hnow : now < since + keep) : UsedSince since key (offer keep now other cache).2 := by
  by_cases hseen : Remembers keep now other cache
  · rw [offer_of_remembers hseen]
    exact hused.evict hsince hnow
  · have hne : key ≠ other := by
      rintro rfl
      exact hseen (hused.remembers hsince hnow)
    obtain ⟨seen, hle, hlookup⟩ := hused.evict hsince hnow
    rw [offer_of_not_remembers hseen]
    exact ⟨seen, hle, by rw [Query.lookup_insert, if_neg hne, hlookup]⟩

lemma usedSince_insert (cache : AList fun _ => Nat) (key : κ)
    (now : Nat) : UsedSince now key (cache.insert key now) :=
  ⟨now, le_rfl, AList.lookup_insert cache⟩

/-- A key can be used again once its last use is `keep` ago. -/
lemma not_remembers_insert (cache : AList fun _ => Nat) (key : κ)
    (hlater : now + keep ≤ later) : ¬ Remembers keep later key (cache.insert key now) := by
  rw [remembers_iff, AList.lookup_insert]
  rintro ⟨seen, hseen, hlt⟩
  cases hseen
  omega

end ReplayCache
