/-
Processes that overwrite one shared cell for a while.  Each of them saves what
the cell holds, writes a row under its own key, later deletes the row if it is
still its own, and puts the saved content back if it then finds the cell empty.
-/
import Mathlib.Logic.Function.Basic

namespace Overlay

universe t d e u

variable {T : Type t} {D : Type d} {E : Type e} {ι : Type u}

/-- A row of the cell.  Every write sets the stamp, and no process saves it. -/
structure Row (T : Type t) (D : Type d) (E : Type e) where
  tag : T
  data : D
  stamp : E

def Row.content (row : Row T D E) : T × D :=
  (row.tag, row.data)

/-- Where a process stands. -/
inductive Stage (T : Type t) (D : Type d) where
  | outside
  | entering
  | saved (prev : Option (T × D))
  | holding (prev : Option (T × D))
  | inspecting (prev : Option (T × D))
  | restoring (tag : T) (data : D)
  | ended

namespace Stage

/-- The content a process may still put back. -/
def pending : Stage T D → Option (Option (T × D))
  | .outside | .entering | .ended => none
  | .saved prev | .holding prev | .inspecting prev => some prev
  | .restoring tag data => some (some (tag, data))

/-- The process has written its row and not deleted it yet. -/
def holds : Stage T D → Bool
  | .holding _ => true
  | _ => false

/-- The process is between its deletion and the end of its restore. -/
def returning : Stage T D → Bool
  | .inspecting _ | .restoring _ _ => true
  | _ => false

/-- The process may put back the row of another one. -/
def remembers [DecidableEq T] (stage : Stage T D) (tag : T) : Bool :=
  match stage.pending with
  | some (some content) => decide (content.1 = tag)
  | _ => false

end Stage

/-- One step of the process with the given key. -/
inductive Step [DecidableEq T] (key : T) (stamp : E)
    (cell : Option (Row T D E)) :
    Stage T D → Stage T D → Option (Row T D E) → Prop where
  | idle : Step key stamp cell .outside .outside cell
  | enter : Step key stamp cell .outside .entering cell
  | reject : Step key stamp cell .outside .ended cell
  | save : Step key stamp cell .entering (.saved (cell.map Row.content)) cell
  | wait (prev : Option (T × D)) : Step key stamp cell (.saved prev) (.saved prev) cell
  | write (prev : Option (T × D)) (data : D) :
      Step key stamp cell (.saved prev) (.holding prev) (some ⟨key, data, stamp⟩)
  | hold (prev : Option (T × D)) : Step key stamp cell (.holding prev) (.holding prev) cell
  | delete (prev : Option (T × D)) :
      Step key stamp cell (.holding prev) (.inspecting prev)
        (if cell.map Row.tag = some key then none else cell)
  | keep (prev : Option (T × D)) (hkeep : cell = none → prev = none) :
      Step key stamp cell (.inspecting prev) .ended cell
  | retrieve (tag : T) (data : D) (hcell : cell = none) :
      Step key stamp cell (.inspecting (some (tag, data))) (.restoring tag data) cell
  | restore (tag : T) (data : D) :
      Step key stamp cell (.restoring tag data) .ended (some ⟨tag, data, stamp⟩)
  | rest : Step key stamp cell .ended .ended cell

/-- Content that is safe to put back: the original one, or the row of a process
that will still delete it. -/
def Good (key : ι → T) (original : Option (T × D)) (stages : ι → Stage T D)
    (content : Option (T × D)) : Prop :=
  content = original ∨ ∃ i data, content = some (key i, data) ∧ (stages i).holds = true

/-- An empty cell that should not be empty is about to be filled. -/
structure Inv (key : ι → T) (original : Option (T × D))
    (stages : ι → Stage T D) (cell : Option (Row T D E)) : Prop where
  pending_good : ∀ i prev, (stages i).pending = some prev → Good key original stages prev
  pending_other : ∀ i data, (stages i).pending ≠ some (some (key i, data))
  cell_good : Good key original stages (cell.map Row.content) ∨
    cell = none ∧ ∃ i, (stages i).returning = true

section

variable {key : ι → T} {original : Option (T × D)} {stages : ι → Stage T D}
  {cell cell' : Option (Row T D E)} {content : Option (T × D)}

lemma Good.mono {stages' : ι → Stage T D} (hgood : Good key original stages content)
    (hholds : ∀ i, (stages i).holds = true → (stages' i).holds = true) :
    Good key original stages' content := by
  rcases hgood with horiginal | ⟨i, data, hcontent, hi⟩
  · exact .inl horiginal
  · exact .inr ⟨i, data, hcontent, hholds i hi⟩

/-- Only the original content can be absent and good. -/
lemma Good.original_eq_none (hgood : Good key original stages (none : Option (T × D))) :
    original = none := by
  rcases hgood with horiginal | ⟨i, data, hcontent, -⟩
  · exact horiginal.symm
  · cases hcontent

lemma inv_of_pending_none (hstages : ∀ i, (stages i).pending = none)
    (hcell : cell.map Row.content = original) : Inv key original stages cell := by
  refine ⟨?_, ?_, .inl (.inl hcell)⟩
  · intro i prev hprev
    simp [hstages i] at hprev
  · intro i data hprev
    simp [hstages i] at hprev

lemma Stage.pending_of_holds {stage : Stage T D}
    (hholds : stage.holds = true) : stage.pending ≠ none := by
  cases stage with
  | holding prev => exact Option.some_ne_none prev
  | _ => cases hholds

lemma Stage.pending_of_returning {stage : Stage T D}
    (hreturning : stage.returning = true) : stage.pending ≠ none := by
  cases stage with
  | inspecting prev => exact Option.some_ne_none prev
  | restoring tag data => exact Option.some_ne_none _
  | _ => cases hreturning

/-- When no process is under way the cell has its original content. -/
lemma Inv.content_eq (hinv : Inv key original stages cell)
    (hstages : ∀ i, (stages i).pending = none) : cell.map Row.content = original := by
  rcases hinv.cell_good with (horiginal | ⟨i, data, -, hi⟩) | ⟨-, i, hi⟩
  · exact horiginal
  · exact absurd (hstages i) (Stage.pending_of_holds hi)
  · exact absurd (hstages i) (Stage.pending_of_returning hi)

variable [DecidableEq ι] {i : ι} {next : Stage T D}

lemma holds_update (hholds : (stages i).holds = true → next.holds = true) (j : ι)
    (hj : (stages j).holds = true) : (Function.update stages i next j).holds = true := by
  by_cases hji : j = i
  · subst hji
    rw [Function.update_self]
    exact hholds hj
  · rwa [Function.update_of_ne hji]

lemma returning_update {j : ι} (hji : j ≠ i) (hj : (stages j).returning = true) :
    ∃ k, (Function.update stages i next k).returning = true := by
  refine ⟨j, ?_⟩
  rwa [Function.update_of_ne hji]

/-- What is left to show when process `i` moves. -/
lemma Inv.update (hinv : Inv key original stages cell)
    (hothers : ∀ j prev, j ≠ i → (stages j).pending = some prev →
      Good key original (Function.update stages i next) prev)
    (hpending : ∀ prev, next.pending = some prev →
      Good key original (Function.update stages i next) prev)
    (hother : ∀ data, next.pending ≠ some (some (key i, data)))
    (hcell : Good key original (Function.update stages i next) (cell'.map Row.content) ∨
      cell' = none ∧ ∃ j, (Function.update stages i next j).returning = true) :
    Inv key original (Function.update stages i next) cell' := by
  refine ⟨?_, ?_, hcell⟩
  · intro j prev hprev
    by_cases hji : j = i
    · subst hji
      rw [Function.update_self] at hprev
      exact hpending prev hprev
    · rw [Function.update_of_ne hji] at hprev
      exact hothers j prev hji hprev
  · intro j data hprev
    by_cases hji : j = i
    · subst hji
      rw [Function.update_self] at hprev
      exact hother data hprev
    · rw [Function.update_of_ne hji] at hprev
      exact hinv.pending_other j data hprev

/-- The same for a move that gives nothing up. -/
lemma Inv.update_of_holds (hinv : Inv key original stages cell)
    (hholds : (stages i).holds = true → next.holds = true)
    (hpending : ∀ prev, next.pending = some prev → Good key original stages prev)
    (hother : ∀ data, next.pending ≠ some (some (key i, data)))
    (hcell : Good key original (Function.update stages i next) (cell'.map Row.content) ∨
      cell' = none ∧ ∃ j, (Function.update stages i next j).returning = true) :
    Inv key original (Function.update stages i next) cell' := by
  refine hinv.update ?_ ?_ hother hcell
  · intro j prev _ hprev
    exact (hinv.pending_good j prev hprev).mono (holds_update hholds)
  · intro prev hprev
    exact (hpending prev hprev).mono (holds_update hholds)

/-- What nobody else remembers stays good when process `i` gives its row up. -/
lemma Good.of_not_own (hgood : Good key original stages content)
    (hown : ∀ data, content ≠ some (key i, data)) :
    Good key original (Function.update stages i next) content := by
  rcases hgood with horiginal | ⟨j, data, hcontent, hj⟩
  · exact .inl horiginal
  · have hji : j ≠ i := by
      rintro rfl
      exact hown data hcontent
    refine .inr ⟨j, data, hcontent, ?_⟩
    rwa [Function.update_of_ne hji]

lemma Inv.save (hkey : Function.Injective key) (hfresh : ∀ j data, original ≠ some (key j, data))
    (hinv : Inv key original stages cell) (hstage : stages i = .entering)
    (hsave : cell = none → original = none) :
    Inv key original (Function.update stages i (.saved (cell.map Row.content))) cell := by
  have hholds : (stages i).holds = true → (Stage.saved (cell.map Row.content)).holds = true := by
    rw [hstage]
    exact id
  have hgood : Good key original stages (cell.map Row.content) := by
    rcases hinv.cell_good with hgood | ⟨hnone, -⟩
    · exact hgood
    · left
      rw [hnone, hsave hnone]
      rfl
  refine hinv.update_of_holds hholds ?_ ?_ (.inl (hgood.mono (holds_update hholds)))
  · rintro prev hprev
    cases hprev
    exact hgood
  · -- The holder whose row is saved is another process, and keys differ.
    intro data hdata
    rcases hgood with horiginal | ⟨j, data', hcontent, hj⟩
    · exact hfresh i data (horiginal.symm.trans (Option.some.inj hdata))
    · rw [Option.some.inj hdata] at hcontent
      have hij := hkey (Prod.mk.inj (Option.some.inj hcontent)).1
      rw [← hij, hstage] at hj
      cases hj

/-- A process that remembers nothing before and after its move. -/
lemma Inv.move (hinv : Inv key original stages cell) (hstage : (stages i).pending = none)
    (hnext : next.pending = none) : Inv key original (Function.update stages i next) cell := by
  have hholds : (stages i).holds = true → next.holds = true := by
    intro hi
    exact absurd hstage (Stage.pending_of_holds hi)
  refine hinv.update_of_holds hholds ?_ ?_ ?_
  · intro prev hprev
    simp [hnext] at hprev
  · intro data hdata
    simp [hnext] at hdata
  · rcases hinv.cell_good with hgood | ⟨hnone, j, hj⟩
    · exact .inl (hgood.mono (holds_update hholds))
    · have hji : j ≠ i := by
        rintro rfl
        exact Stage.pending_of_returning hj hstage
      exact .inr ⟨hnone, returning_update hji hj⟩

/-- A process that found the cell filled, or has nothing to put back. -/
lemma Inv.keep {prev : Option (T × D)} (hinv : Inv key original stages cell)
    (hstage : stages i = .inspecting prev) (hkeep : cell = none → prev = none) :
    Inv key original (Function.update stages i .ended) cell := by
  have hholds : (stages i).holds = true → (.ended : Stage T D).holds = true := by
    rw [hstage]
    exact id
  refine hinv.update_of_holds hholds (fun _ h => nomatch h) (fun _ h => nomatch h) ?_
  rcases hinv.cell_good with hgood | ⟨hnone, j, hj⟩
  · exact .inl (hgood.mono (holds_update hholds))
  · by_cases hji : j = i
    · have hgood := hinv.pending_good i prev (by rw [hstage]; rfl)
      rw [hkeep hnone] at hgood
      rw [hnone, hgood.original_eq_none]
      exact .inl (.inl rfl)
    · exact .inr ⟨hnone, returning_update hji hj⟩

variable [DecidableEq T]

lemma Inv.delete {prev : Option (T × D)}
    (hinv : Inv key original stages cell) (hstage : stages i = .holding prev)
    (hdelete : ∀ j, j ≠ i → (stages j).remembers (key i) = false) :
    Inv key original (Function.update stages i (.inspecting prev))
      (if cell.map Row.tag = some (key i) then none else cell) := by
  have hprev : (stages i).pending = some prev := by rw [hstage]; rfl
  refine hinv.update ?_ ?_ ?_ ?_
  · intro j saved hji hsaved
    refine (hinv.pending_good j saved hsaved).of_not_own ?_
    rintro data rfl
    have hforgot := hdelete j hji
    simp [Stage.remembers, hsaved] at hforgot
  · intro saved hsaved
    cases hsaved
    refine (hinv.pending_good i prev hprev).of_not_own ?_
    rintro data rfl
    exact hinv.pending_other i data hprev
  · intro data hdata
    exact hinv.pending_other i data (hprev.trans hdata)
  · by_cases htag : cell.map Row.tag = some (key i)
    · rw [if_pos htag]
      exact .inr ⟨rfl, i, by rw [Function.update_self]; rfl⟩
    · rw [if_neg htag]
      rcases hinv.cell_good with hgood | ⟨hnone, j, hj⟩
      · refine .inl (hgood.of_not_own ?_)
        intro data hdata
        apply htag
        have htags := congrArg (Option.map Prod.fst) hdata
        rwa [Option.map_map] at htags
      · have hji : j ≠ i := by
          rintro rfl
          rw [hstage] at hj
          cases hj
        exact .inr ⟨hnone, returning_update hji hj⟩

/-- The step lemma.  Nobody may save an empty cell that should be filled, and a
process may give its row up only when no other one remembers it. -/
lemma Inv.step {stamp : E} (hkey : Function.Injective key)
    (hfresh : ∀ j data, original ≠ some (key j, data)) (hinv : Inv key original stages cell)
    (hstep : Step (key i) stamp cell (stages i) next cell')
    (hsave : stages i = .entering → cell = none → original = none)
    (hdelete : (stages i).holds = true → next.holds = false →
      ∀ j, j ≠ i → (stages j).remembers (key i) = false) :
    Inv key original (Function.update stages i next) cell' := by
  generalize hstage : stages i = stage at hstep
  cases hstep with
  | enter | reject => exact hinv.move (by rw [hstage]; rfl) rfl
  | save => exact hinv.save hkey hfresh hstage (hsave hstage)
  | write prev data =>
    have hprev : (stages i).pending = some prev := by rw [hstage]; rfl
    refine hinv.update_of_holds (fun _ => rfl) ?_ ?_ (.inl ?_)
    · rintro saved hsaved
      cases hsaved
      exact hinv.pending_good i prev hprev
    · intro data' hdata
      exact hinv.pending_other i data' (hprev.trans hdata)
    · exact .inr ⟨i, data, rfl, by rw [Function.update_self]; rfl⟩
  | delete prev =>
    refine hinv.delete hstage (hdelete ?_ rfl)
    rw [hstage]
    rfl
  | keep prev hkeep => exact hinv.keep hstage hkeep
  | retrieve tag data hcell =>
    have hprev : (stages i).pending = some (some (tag, data)) := by
      rw [hstage]
      rfl
    refine hinv.update_of_holds ?_ ?_ ?_ (.inr ⟨hcell, i, ?_⟩)
    · rw [hstage]
      exact id
    · intro saved hsaved
      exact hinv.pending_good i saved (hprev.trans hsaved)
    · intro data' hdata
      exact hinv.pending_other i data' (hprev.trans hdata)
    · rw [Function.update_self]
      rfl
  | restore tag data =>
    have hprev : (stages i).pending = some (some (tag, data)) := by
      rw [hstage]
      rfl
    have hholds : (stages i).holds = true → (.ended : Stage T D).holds = true := by
      rw [hstage]
      exact id
    refine hinv.update_of_holds hholds (fun _ h => nomatch h) (fun _ h => nomatch h) (.inl ?_)
    exact (hinv.pending_good i _ hprev).mono (holds_update hholds)
  | _ => rwa [← hstage, Function.update_eq_self]

end

/-- What a process that enters and is alone with the cell finds there, when the
restore of the initial row is stamped with `stamp`. -/
def Alone (key : T) (initial : Option (Row T D E)) (stamp : E)
    (cell : Option (Row T D E)) : Stage T D → Prop
  | .outside => False
  | .entering => cell = initial
  | .saved prev => prev = initial.map Row.content ∧ cell = initial
  | .holding prev =>
    prev = initial.map Row.content ∧ cell.map Row.tag = some key
  | .inspecting prev => prev = initial.map Row.content ∧ cell = none
  | .restoring tag data =>
    initial.map Row.content = some (tag, data) ∧ cell = none
  | .ended => cell = initial.map fun row => { row with stamp := stamp }

/-- A whole overlay gives the initial row back with a new stamp. -/
lemma Alone.step [DecidableEq T] {key : T} {initial : Option (Row T D E)} {stamp written : E}
    {cell cell' : Option (Row T D E)} {stage next : Stage T D}
    (halone : Alone key initial stamp cell stage) (hstep : Step key written cell stage next cell')
    (hstamp : ∀ tag data, stage = .restoring tag data → written = stamp) :
    Alone key initial stamp cell' next := by
  cases hstep with
  | enter | reject => exact halone.elim
  | save => exact ⟨by rw [show cell = initial from halone], halone⟩
  | write prev data => exact ⟨halone.1, rfl⟩
  | delete prev =>
    rw [if_pos halone.2]
    exact ⟨halone.1, rfl⟩
  | keep prev hkeep =>
    have hnone : initial = none := by
      rw [halone.1] at hkeep
      exact Option.map_eq_none_iff.mp (hkeep halone.2)
    rw [hnone]
    exact halone.2
  | retrieve tag data hcell => exact ⟨halone.1.symm, hcell⟩
  | restore tag data =>
    obtain ⟨row, rfl, hrow⟩ := Option.map_eq_some_iff.mp halone.1
    cases hrow
    rw [hstamp _ _ rfl]
    rfl
  | _ => exact halone

/-- The tag that a reader finds while the process stands at a stage, when `own`
is the tag of the cell without the process. -/
def Stage.shown (key : T) (own : Option T) : Stage T D → Option T
  | .holding _ => some key
  | .inspecting _ | .restoring _ _ => none
  | .outside | .entering | .saved _ | .ended => own

/-- A process that is alone with the cell, as far as the tags go. -/
structure Shows (key : T) (own : Option T) (cell : Option (Row T D E))
    (stage : Stage T D) : Prop where
  saved : ∀ prev, stage.pending = some prev → prev.map Prod.fst = own
  tag : cell.map Row.tag = stage.shown key own

lemma Shows.step [DecidableEq T] {key : T} {own : Option T} {stamp : E}
    {cell cell' : Option (Row T D E)} {stage next : Stage T D} (hshows : Shows key own cell stage)
    (hstep : Step key stamp cell stage next cell') : Shows key own cell' next := by
  obtain ⟨hsaved, htag⟩ := hshows
  cases hstep with
  | save =>
    refine ⟨?_, htag⟩
    rintro prev hprev
    cases hprev
    rw [Option.map_map]
    exact htag
  | write prev data => exact ⟨hsaved, rfl⟩
  | delete prev =>
    rw [if_pos (show cell.map Row.tag = some key from htag)]
    exact ⟨hsaved, rfl⟩
  | keep prev hkeep =>
    -- The cell is empty here, so there was nothing to put back.
    have hprev := hkeep (Option.map_eq_none_iff.mp htag)
    have hown : own = none := by
      rw [← hsaved prev rfl, hprev]
      rfl
    exact ⟨(fun _ h => nomatch h), htag.trans hown.symm⟩
  | restore tag data => exact ⟨(fun _ h => nomatch h), hsaved _ rfl⟩
  | _ => exact ⟨hsaved, htag⟩

/-- A row is there exactly if `kept` says so, and it is fresh. -/
def RowIff (Fresh : E → Prop) (cell : Option (Row T D E)) (kept : Prop) : Prop :=
  (kept → ∃ row, cell = some row ∧ Fresh row.stamp) ∧ (¬ kept → cell = none)

/-- Somebody else has replaced the row of the process, while it was in place, by
one with the tag `guest`. -/
def Hosted (key guest : T) (own : Option T) (Fresh : E → Prop)
    (cell : Option (Row T D E)) : Stage T D → Prop
  | .outside | .entering | .saved _ => False
  | .holding prev =>
    prev.map Prod.fst = own ∧ cell.map Row.tag = some guest ∧ RowIff Fresh cell True
  | .inspecting prev =>
    prev.map Prod.fst = own ∧ RowIff Fresh cell (guest ≠ key)
  | .restoring tag _ => own = some tag ∧ guest = key
  | .ended => RowIff Fresh cell (guest ≠ key ∨ own ≠ none)

/-- The row of a guest survives under its own tag; under the tag of the process
it goes with the process, and what comes back is what was there before. -/
lemma Hosted.step [DecidableEq T] {key guest : T} {own : Option T}
    {Fresh : E → Prop} {stamp : E} {cell cell' : Option (Row T D E)}
    {stage next : Stage T D} (hhosted : Hosted key guest own Fresh cell stage)
    (hstep : Step key stamp cell stage next cell') (hstamp : Fresh stamp) :
    Hosted key guest own Fresh cell' next := by
  cases hstep with
  | rest | hold _ => exact hhosted
  | delete prev =>
    obtain ⟨hown, htag, hrow⟩ := hhosted
    refine ⟨hown, ?_⟩
    rw [htag]
    by_cases hguest : guest = key
    · rw [if_pos (congrArg some hguest)]
      exact ⟨absurd hguest, fun _ => rfl⟩
    · rw [if_neg fun h => hguest (Option.some.inj h)]
      exact ⟨fun _ => hrow.1 trivial, absurd hguest⟩
  | keep prev hkeep =>
    obtain ⟨hown, hrow⟩ := hhosted
    by_cases hguest : guest = key
    · have hcell := hrow.2 (not_not.mpr hguest)
      have hnone : own = none := by
        rw [← hown, hkeep hcell]
        rfl
      refine ⟨?_, fun _ => hcell⟩
      rintro (hne | hne)
      · exact absurd hguest hne
      · exact absurd hnone hne
    · exact ⟨fun _ => hrow.1 hguest, absurd (.inl hguest)⟩
  | retrieve tag data hcell =>
    obtain ⟨hown, hrow⟩ := hhosted
    refine ⟨hown.symm, ?_⟩
    by_contra hguest
    obtain ⟨row, hrow, -⟩ := hrow.1 hguest
    simp [hcell] at hrow
  | restore tag data =>
    refine ⟨fun _ => ⟨_, rfl, hstamp⟩, absurd (.inr ?_)⟩
    rw [hhosted.1]
    exact Option.some_ne_none tag
  | _ => exact hhosted.elim

end Overlay
