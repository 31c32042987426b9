/-
A wake-up primitive with one stored permit.  A notification wakes one waiter,
or is stored when nobody waits; a waiter that is dropped after it was woken
passes its notification on.  Which waiter is woken is left to a choice.
-/
import Mathlib.Data.List.Perm.Lattice

universe u

/-- The stored permit, the tasks that wait, and the tasks that were woken and
did not run yet. -/
structure Notify (ι : Type u) where
  permit : Bool
  waiters : List ι
  woken : List ι
  nodup : (waiters ++ woken).Nodup

namespace Notify

variable {ι : Type u}

def new : Notify ι :=
  ⟨false, [], [], List.nodup_nil⟩

variable [DecidableEq ι]

/-- The waiter a notification goes to: the chosen one if it waits, any other
otherwise. -/
def pick (waiters : List ι) (choice : ι) : Option ι :=
  if choice ∈ waiters then some choice else waiters.head?

variable {choice i : ι} {notify : Notify ι}

lemma pick_mem {waiters : List ι} (hpick : pick waiters choice = some i) : i ∈ waiters := by
  unfold pick at hpick
  split at hpick
  · next hmem =>
    cases hpick
    exact hmem
  · exact List.mem_of_mem_head? hpick

lemma nodup_wake {waiters woken : List ι} (hnodup : (waiters ++ woken).Nodup) (hi : i ∈ waiters) :
    (waiters.erase i ++ i :: woken).Nodup := by
  have hperm := calc
      (waiters ++ woken).Perm ((i :: waiters.erase i) ++ woken) :=
        (List.perm_cons_erase hi).append_right woken
      _ |>.Perm (waiters.erase i ++ i :: woken) := List.perm_middle.symm
  exact hperm.nodup_iff.mp hnodup

/-- Wake one waiter, or store the permit. -/
def notifyOne (notify : Notify ι) (choice : ι) : Notify ι :=
  match hpick : pick notify.waiters choice with
  | none => { notify with permit := true }
  | some i =>
    { notify with
      waiters := notify.waiters.erase i
      woken := i :: notify.woken
      nodup := nodup_wake notify.nodup (pick_mem hpick) }

/-- Every task that is inside the wait. -/
def tasks (notify : Notify ι) : List ι :=
  notify.waiters ++ notify.woken

/-- A notification is on its way: stored, or given to a task that did not run
yet. -/
def Signalled (notify : Notify ι) : Prop :=
  notify.permit = true ∨ ∃ i, i ∈ notify.woken

/-- Begin to wait: the stored permit is taken, which the result reports, or the
task joins the waiters. -/
def enter (notify : Notify ι) (i : ι) : Bool × Notify ι :=
  if notify.permit then
    (true, { notify with permit := false })
  else if hi : i ∈ notify.waiters ++ notify.woken then
    (false, notify)
  else
    (false, { notify with
      waiters := i :: notify.waiters
      nodup := List.nodup_cons.mpr ⟨hi, notify.nodup⟩ })

/-- A woken task runs. -/
def finish (notify : Notify ι) (i : ι) : Notify ι :=
  { notify with
    woken := notify.woken.erase i
    nodup := notify.nodup.sublist (List.Sublist.append_left List.erase_sublist _) }

/-- A task is dropped inside the wait. -/
def leave (notify : Notify ι) (i choice : ι) : Notify ι :=
  if i ∈ notify.woken then
    (notify.finish i).notifyOne choice
  else
    { notify with
      waiters := notify.waiters.erase i
      nodup := notify.nodup.sublist (List.Sublist.append_right List.erase_sublist _) }

lemma notifyOne_of_pick_none (hpick : pick notify.waiters choice = none) :
    (notify.notifyOne choice).permit = true ∧ (notify.notifyOne choice).waiters = notify.waiters ∧
      (notify.notifyOne choice).woken = notify.woken := by
  unfold notifyOne
  split
  · exact ⟨rfl, rfl, rfl⟩
  · next i hi =>
    simp [hpick] at hi

lemma notifyOne_of_pick_some (hpick : pick notify.waiters choice = some i) :
    (notify.notifyOne choice).permit = notify.permit ∧ (notify.notifyOne choice).waiters =
      notify.waiters.erase i ∧ (notify.notifyOne choice).woken = i :: notify.woken := by
  unfold notifyOne
  split
  · next hnone =>
    simp [hpick] at hnone
  · next j hj =>
    rw [hpick] at hj
    cases hj
    exact ⟨rfl, rfl, rfl⟩

/-- A notification is never lost at the moment it is given. -/
lemma signalled_notifyOne (notify : Notify ι) (choice : ι) :
    (notify.notifyOne choice).Signalled := by
  cases hpick : pick notify.waiters choice with
  | none => exact .inl (notifyOne_of_pick_none hpick).1
  | some i =>
    refine .inr ⟨i, ?_⟩
    rw [(notifyOne_of_pick_some hpick).2.2]
    exact List.mem_cons_self

lemma mem_tasks_notifyOne : i ∈ (notify.notifyOne choice).tasks ↔ i ∈ notify.tasks := by
  cases hpick : pick notify.waiters choice with
  | none =>
    obtain ⟨-, hwaiters, hwoken⟩ := notifyOne_of_pick_none hpick
    rw [tasks, hwaiters, hwoken, tasks]
  | some j =>
    obtain ⟨-, hwaiters, hwoken⟩ := notifyOne_of_pick_some hpick
    have hj := pick_mem hpick
    rw [tasks, hwaiters, hwoken, tasks, List.mem_append]
    by_cases heq : i = j
    · subst heq
      simp [hj]
    · simp [heq]

lemma mem_tasks_of_mem_tasks_enter {j : ι} (hj : j ∈ (notify.enter i).2.tasks) :
    j ∈ notify.tasks ∨ (j = i ∧ (notify.enter i).1 = false) := by
  unfold enter at hj ⊢
  split at hj
  · exact .inl hj
  · next hpermit =>
    rw [if_neg hpermit]
    split at hj
    · exact .inl hj
    · next hi =>
      rw [dif_neg hi]
      rcases List.mem_cons.mp hj with rfl | hmem
      · exact .inr ⟨rfl, rfl⟩
      · exact .inl hmem

/-- Joining the waiters takes no signal away. -/
lemma signalled_enter (henter : (notify.enter i).1 = false) (hsignal : notify.Signalled) :
    (notify.enter i).2.Signalled := by
  unfold enter at henter ⊢
  split at henter
  · cases henter
  · next hpermit =>
    rw [if_neg hpermit]
    split
    · exact hsignal
    · exact hsignal

lemma mem_tasks_of_mem_tasks_finish {j : ι} (hi : i ∈ notify.woken)
    (hj : j ∈ (notify.finish i).tasks) : j ∈ notify.tasks ∧ j ≠ i := by
  have hnodup := List.nodup_append.mp notify.nodup
  rcases List.mem_append.mp hj with hwaiter | hwoken
  · exact ⟨List.mem_append_left _ hwaiter, hnodup.2.2 j hwaiter i hi⟩
  · have hmem := (hnodup.2.1.mem_erase_iff).mp hwoken
    exact ⟨List.mem_append_right _ hmem.2, hmem.1⟩

lemma mem_tasks_of_mem_tasks_leave {j : ι} (hj : j ∈ (notify.leave i choice).tasks) :
    j ∈ notify.tasks ∧ j ≠ i := by
  unfold leave at hj
  split at hj
  · next hi => exact mem_tasks_of_mem_tasks_finish hi (mem_tasks_notifyOne.mp hj)
  · next hi =>
    have hnodup := List.nodup_append.mp notify.nodup
    rcases List.mem_append.mp hj with hwaiter | hwoken
    · have hmem := (hnodup.1.mem_erase_iff).mp hwaiter
      exact ⟨List.mem_append_left _ hmem.2, hmem.1⟩
    · refine ⟨List.mem_append_right _ hwoken, ?_⟩
      rintro rfl
      exact hi hwoken

/-- A task that leaves hands on the notification it was given. -/
lemma signalled_leave (hsignal : notify.Signalled) : (notify.leave i choice).Signalled := by
  unfold leave
  split
  · exact signalled_notifyOne _ _
  · exact hsignal

end Notify
