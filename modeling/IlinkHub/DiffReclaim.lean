/-
Removing additions by the difference of two listings.  A process lists the
names that are present, works for a while, lists them again and deletes the
ones that are new.  Others may add names meanwhile.
-/
import Mathlib.Data.Set.Insert

namespace DiffReclaim

universe u

variable {N : Type u}

/-- `taken none` is a first listing that failed. -/
inductive Stage (N : Type u) where
  | untaken
  | taken (pre : Option (List N))
  | deleting (left : List N)

/-- One step of the process.  With `ok = false` its access to the names fails:
it then has no listing, or leaves a name behind. -/
inductive Step (ok : Bool) (present : Set N) :
    Stage N → Stage N → Set N → Prop where
  | idle : Step ok present .untaken .untaken present
  | reject : Step ok present .untaken (.deleting []) present
  | list (pre : List N) (hpre : ∀ name, name ∈ pre ↔ name ∈ present) :
      Step ok present .untaken (.taken (some pre)) present
  | listFailed (hok : ok = false) : Step ok present .untaken (.taken none) present
  | hold (pre : Option (List N)) : Step ok present (.taken pre) (.taken pre) present
  | compare (pre left : List N) (hleft : ∀ name, name ∈ left ↔ name ∈ present ∧ name ∉ pre) : Step
      ok present (.taken (some pre)) (.deleting left) present
  | skip (pre : Option (List N)) (hskip : ok = true → pre = none) :
      Step ok present (.taken pre) (.deleting []) present
  | delete (name : N) (left : List N) :
      Step ok present (.deleting (name :: left)) (.deleting left) (present \ {name})
  | deleteFailed (name : N) (left : List N) (hok : ok = false) :
      Step ok present (.deleting (name :: left)) (.deleting left) present
  | rest : Step ok present (.deleting []) (.deleting []) present

/-- How the names relate to those before the process. -/
def Inv (initial present : Set N) : Stage N → Prop
  | .untaken => present = initial
  | .taken pre =>
    (∃ names, pre = some names ∧ ∀ name, name ∈ names ↔ name ∈ initial) ∧ initial ⊆ present
  | .deleting left =>
    initial ⊆ present ∧ (∀ name ∈ present, name ∈ initial ∨ name ∈ left) ∧
      ∀ name ∈ left, name ∉ initial

/-- A name that is added now does not outlive the process. -/
def Stage.Absorbs (initial : Set N) (name : N) : Stage N → Prop
  | .untaken => name ∈ initial
  | .taken _ => True
  | .deleting left => name ∈ initial ∨ name ∈ left

/-- A name that is added now is not listed any more. -/
def Stage.late [DecidableEq N] (name : N) : Stage N → Bool
  | .deleting left => name ∉ left
  | .untaken | .taken _ => false

/-- A name that is present now is not deleted by the process. -/
def Stage.Spares (name : N) : Stage N → Prop
  | .untaken => True
  | .taken none => True
  | .taken (some names) => name ∈ names
  | .deleting left => name ∉ left

instance [DecidableEq N] (name : N) :
    ∀ stage : Stage N, Decidable (stage.Spares name)
  | .untaken | .taken none => inferInstanceAs (Decidable True)
  | .taken (some names) => inferInstanceAs (Decidable (name ∈ names))
  | .deleting left => inferInstanceAs (Decidable (name ∉ left))

variable {initial present present' : Set N} {stage next : Stage N} {name : N}

lemma Step.untaken {ok : Bool}
    (hstep : Step ok present stage .untaken present') : stage = .untaken := by
  cases hstep
  rfl

lemma Inv.step (hinv : Inv initial present stage) (hstep : Step true present stage next present') :
    Inv initial present' next := by
  cases hstep with
  | reject =>
    obtain rfl := hinv
    exact ⟨subset_rfl, fun name h => .inl h, fun name h => nomatch h⟩
  | list pre hpre =>
    obtain rfl := hinv
    exact ⟨⟨pre, rfl, hpre⟩, subset_rfl⟩
  | listFailed hok => cases hok
  | compare pre left hleft =>
    obtain ⟨⟨names, hnames, hmem⟩, hsub⟩ := hinv
    cases hnames
    refine ⟨hsub, ?_, ?_⟩
    · intro name hname
      by_cases hinitial : name ∈ initial
      · exact .inl hinitial
      · refine .inr ((hleft name).mpr ⟨hname, ?_⟩)
        rwa [hmem name]
    · intro name hname
      rw [← hmem name]
      exact ((hleft name).mp hname).2
  | skip pre hskip =>
    obtain ⟨⟨names, hnames, -⟩, -⟩ := hinv
    simp [hskip rfl] at hnames
  | delete name left =>
    obtain ⟨hsub, hcover, hdisjoint⟩ := hinv
    refine ⟨?_, ?_, ?_⟩
    · intro other hother
      refine ⟨hsub hother, ?_⟩
      rintro rfl
      exact hdisjoint other List.mem_cons_self hother
    · rintro other ⟨hother, hne⟩
      rcases hcover other hother with hinitial | hleft
      · exact .inl hinitial
      · exact .inr (List.mem_of_ne_of_mem hne hleft)
    · intro other hother
      exact hdisjoint other (List.mem_cons_of_mem name hother)
  | deleteFailed name left hok => cases hok
  | _ => exact hinv

lemma Stage.absorbs_of_not_late [DecidableEq N]
    (hstage : stage ≠ .untaken) (hlate : stage.late name = false) : stage.Absorbs initial name := by
  cases stage with
  | untaken => exact absurd rfl hstage
  | taken pre => trivial
  | deleting left => exact .inr (not_not.mp (of_decide_eq_false hlate))

lemma Inv.add (hinv : Inv initial present stage)
    (habsorbs : stage.Absorbs initial name) : Inv initial (insert name present) stage := by
  cases stage with
  | untaken =>
    obtain rfl := hinv
    exact Set.insert_eq_of_mem habsorbs
  | taken pre => exact ⟨hinv.1, hinv.2.trans (Set.subset_insert name present)⟩
  | deleting left =>
    obtain ⟨hsub, hcover, hdisjoint⟩ := hinv
    refine ⟨hsub.trans (Set.subset_insert name present), ?_, hdisjoint⟩
    rintro other (rfl | hother)
    · exact habsorbs
    · exact hcover other hother

lemma Inv.present_eq (hinv : Inv initial present (.deleting [])) : present = initial := by
  refine antisymm ?_ hinv.1
  intro name hname
  exact (hinv.2.1 name hname).resolve_right List.not_mem_nil

/-- A spared name stays spared and present, whether or not accesses fail. -/
lemma Stage.Spares.step {ok : Bool} (hspares : stage.Spares name) (hname : name ∈ present)
    (hstep : Step ok present stage next present') : next.Spares name ∧ name ∈ present' := by
  cases hstep with
  | reject | skip _ _ => exact ⟨List.not_mem_nil, hname⟩
  | list pre hpre => exact ⟨(hpre name).mpr hname, hname⟩
  | compare pre left hleft =>
    refine ⟨?_, hname⟩
    intro hmem
    exact ((hleft name).mp hmem).2 hspares
  | delete other left =>
    have hne := List.ne_of_not_mem_cons hspares
    exact ⟨List.not_mem_of_not_mem_cons hspares, hname, hne⟩
  | deleteFailed other left hok =>
    exact ⟨List.not_mem_of_not_mem_cons hspares, hname⟩
  | _ => exact ⟨hspares, hname⟩

/-- What becomes of one name, which `was` present at the first listing.  While the
process is at work the name may come and go. -/
def Tracks (name : N) (was : Prop) (present : Set N) : Stage N → Prop
  | .untaken => name ∈ present ↔ was
  | .taken pre => ∃ names, pre = some names ∧ (name ∈ names ↔ was)
  | .deleting left =>
    (was → name ∉ left) ∧ (¬ was → name ∈ present → name ∈ left)

lemma Tracks.congr {was : Prop} (htracks : Tracks name was present stage)
    (hpresent : name ∈ present' ↔ name ∈ present) : Tracks name was present' stage := by
  cases stage with
  | untaken => exact hpresent.trans htracks
  | taken pre => exact htracks
  | deleting left =>
    exact ⟨htracks.1, fun hnew hname => htracks.2 hnew (hpresent.mp hname)⟩

lemma Tracks.step {was : Prop} (htracks : Tracks name was present stage)
    (hstep : Step true present stage next present') : Tracks name was present' next := by
  cases hstep with
  | reject =>
    exact ⟨fun _ => List.not_mem_nil, fun hnew hname =>
      absurd (htracks.mp hname) hnew⟩
  | list pre hpre => exact ⟨pre, rfl, (hpre name).trans htracks⟩
  | listFailed hok => cases hok
  | compare pre left hleft =>
    obtain ⟨names, hnames, hmem⟩ := htracks
    cases hnames
    constructor
    · intro hwas hname
      exact ((hleft name).mp hname).2 (hmem.mpr hwas)
    · intro hnew hname
      exact (hleft name).mpr ⟨hname, fun h => hnew (hmem.mp h)⟩
  | skip pre hskip =>
    obtain ⟨names, hnames, -⟩ := htracks
    simp [hskip rfl] at hnames
  | delete other left =>
    constructor
    · intro hwas
      exact List.not_mem_of_not_mem_cons (htracks.1 hwas)
    · rintro hnew ⟨hname, hne⟩
      exact List.mem_of_ne_of_mem hne (htracks.2 hnew hname)
  | deleteFailed other left hok => cases hok
  | _ => exact htracks

end DiffReclaim
