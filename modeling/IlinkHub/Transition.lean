/-
Runs of a state machine driven by a list of events.  A step function is total:
an event that is not enabled leaves the state as it is, so every list of
events is a run and interleavings are plain lists.
-/
import Mathlib.Data.List.Infix

namespace Transition

universe u v

variable {S : Type u} {E : Type v}

/-- The state reached from `state` by the events, first event first. -/
def run (step : S → E → S) (state : S) (events : List E) : S :=
  events.foldl step state

@[simp] lemma run_nil (step : S → E → S) (state : S) : run step state [] = state := rfl

@[simp] lemma run_cons (step : S → E → S) (state : S) (event : E) (events : List E) :
    run step state (event :: events) = run step (step state event) events := rfl

@[simp] lemma run_append (step : S → E → S) (state : S) (first last : List E) :
    run step state (first ++ last) = run step (run step state first) last :=
  List.foldl_append

variable {step : S → E → S} {Inv Holds : S → Prop} {state : S}
  {Cond : S → E → Prop} {events : List E}

/-- What every step preserves holds at the end of every run. -/
lemma run_invariant (hstep : ∀ state event, Inv state → Inv (step state event))
    (hstate : Inv state) (events : List E) : Inv (run step state events) := by
  induction events generalizing state with
  | nil => exact hstate
  | cons event events ih => exact ih (hstep state event hstate)

/-- Every event of the run meets `Cond` in the state it is applied to. -/
def EveryStep (step : S → E → S) (Cond : S → E → Prop) : S → List E → Prop
  | _, [] => True
  | state, event :: events =>
    Cond state event ∧ EveryStep step Cond (step state event) events

instance everyStepDecidable (step : S → E → S) (Cond : S → E → Prop)
    [∀ state event, Decidable (Cond state event)] :
    ∀ (state : S) (events : List E), Decidable (EveryStep step Cond state events)
  | _, [] => inferInstanceAs (Decidable True)
  | state, event :: events =>
    haveI := everyStepDecidable step Cond (step state event) events
    inferInstanceAs (Decidable (_ ∧ _))

lemma everyStep_append {first last : List E} :
    EveryStep step Cond state (first ++ last) ↔ EveryStep step Cond state first ∧
        EveryStep step Cond (run step state first) last := by
  induction first generalizing state with
  | nil => simp [EveryStep]
  | cons event events ih =>
    simp [EveryStep, ih, and_assoc]

/-- The invariant rule for runs whose steps all meet a condition. -/
lemma run_invariant_of_everyStep
    (hstep : ∀ state event, Inv state → Cond state event → Inv (step state event))
    (hstate : Inv state) (hevery : EveryStep step Cond state events) :
    Inv (run step state events) := by
  induction events generalizing state with
  | nil => exact hstate
  | cons event events ih =>
    exact ih (hstep state event hstate hevery.1) hevery.2

/-- `Holds` is true of every state the run passes through, the first and the last
included. -/
def Throughout (step : S → E → S) (Holds : S → Prop) (state : S) (events : List E) : Prop :=
  ∀ past, past <+: events → Holds (run step state past)

lemma throughout_nil : Throughout step Holds state [] ↔ Holds state := by
  simp [Throughout]

lemma throughout_cons {event : E} :
    Throughout step Holds state (event :: events) ↔
      Holds state ∧ Throughout step Holds (step state event) events := by
  constructor
  · intro hall
    refine ⟨hall [] List.nil_prefix, ?_⟩
    intro past hpast
    exact hall (event :: past) ((List.prefix_cons_inj event).mpr hpast)
  · rintro ⟨hfirst, hrest⟩ past hpast
    cases past with
    | nil => exact hfirst
    | cons head tail =>
      obtain ⟨rfl, htail⟩ := List.cons_prefix_cons.mp hpast
      exact hrest tail htail

/-- Invariants hold throughout a run, not only at its end. -/
lemma throughout_of_everyStep (himp : ∀ state, Inv state → Holds state)
    (hstep : ∀ state event, Inv state → Cond state event → Inv (step state event))
    (hstate : Inv state) (hevery : EveryStep step Cond state events) :
    Throughout step Holds state events := by
  rintro past ⟨rest, rfl⟩
  exact himp _ (run_invariant_of_everyStep hstep hstate (everyStep_append.mp hevery).1)

/-- A condition on the steps that is exactly what keeps `Holds`: the invariant
survives a step that meets it, and a step that does not meet it ends `Holds` at
once.  `Inv n` may keep room for `n` further steps. -/
lemma throughout_iff_everyStep {Inv : Nat → S → Prop}
    (himp : ∀ n state, Inv n state → Holds state)
    (hstep : ∀ n state event, Inv (n + 1) state → Cond state event → Inv n (step state event))
    (hbreak : ∀ n state event, Inv (n + 1) state → ¬ Cond state event → ¬ Holds (step state event))
    (hstate : Inv events.length state) :
    Throughout step Holds state events ↔ EveryStep step Cond state events := by
  induction events generalizing state with
  | nil =>
    rw [throughout_nil]
    exact ⟨fun _ => trivial, fun _ => himp _ _ hstate⟩
  | cons event events ih =>
    rw [throughout_cons]
    constructor
    · rintro ⟨-, hrest⟩
      have hcond : Cond state event := by
        by_contra hcond
        exact hbreak _ state event hstate hcond (hrest [] List.nil_prefix)
      exact ⟨hcond, (ih (hstep _ state event hstate hcond)).mp hrest⟩
    · rintro ⟨hcond, hrest⟩
      exact ⟨himp _ _ hstate, (ih (hstep _ state event hstate hcond)).mpr hrest⟩

/-- The same where the steps keep an invariant of their own, and under it a step
keeps `Holds` exactly if it meets the condition. -/
lemma throughout_iff_of_step (hstep : ∀ state event, Inv state → Inv (step state event))
    (hiff : ∀ state event, Inv state → Holds state → (Holds (step state event) ↔ Cond state event))
    (hstate : Inv state) (hholds : Holds state) :
    Throughout step Holds state events ↔ EveryStep step Cond state events := by
  have himp : ∀ (_ : Nat) (state : S), Inv state ∧ Holds state → Holds state :=
    fun _ _ hboth => hboth.2
  apply throughout_iff_everyStep himp
  · rintro - state event ⟨hinv, hholds⟩ hcond
    exact ⟨hstep state event hinv, (hiff state event hinv hholds).mpr hcond⟩
  · rintro - state event ⟨hinv, hholds⟩ hcond
    exact mt (hiff state event hinv hholds).mp hcond
  · exact ⟨hstate, hholds⟩

/-- A condition that an invariant implies holds at every step. -/
lemma everyStep_of_invariant {Allowed : E → Prop}
    (hcond : ∀ state event, Inv state → Allowed event → Cond state event)
    (hstep : ∀ state event, Inv state → Allowed event → Inv (step state event)) (hstate : Inv state)
    (hevents : ∀ event ∈ events, Allowed event) : EveryStep step Cond state events := by
  induction events generalizing state with
  | nil => trivial
  | cons event events ih =>
    have hfirst := hevents event List.mem_cons_self
    refine ⟨hcond state event hstate hfirst, ih (hstep state event hstate hfirst) ?_⟩
    intro other hother
    exact hevents other (List.mem_cons_of_mem event hother)

/-- What an invariant and the condition on the steps imply of every step. -/
lemma EveryStep.imp_of_invariant {Good : S → E → Prop}
    (himp : ∀ state event, Inv state → Cond state event → Good state event)
    (hstep : ∀ state event, Inv state → Cond state event → Inv (step state event))
    (hstate : Inv state) (hevery : EveryStep step Cond state events) :
    EveryStep step Good state events := by
  induction events generalizing state with
  | nil => trivial
  | cons event events ih =>
    obtain ⟨hcond, hrest⟩ := hevery
    exact ⟨himp state event hstate hcond, ih (hstep state event hstate hcond) hrest⟩

/-- Erasing events from a run: the two runs stay related when a kept event moves
both and an erased one moves the first alone. -/
lemma run_filter_related {keep : E → Bool} {Related : S → S → Prop} {Allowed : E → Prop}
    (hkept : ∀ state erased event, Related state erased → Allowed event →
      keep event = true → Related (step state event) (step erased event))
    (herased : ∀ state erased event, Related state erased → Allowed event →
      keep event = false → Related (step state event) erased)
    {erased : S} (hrelated : Related state erased) (hevents : ∀ event ∈ events, Allowed event) :
    Related (run step state events) (run step erased (events.filter keep)) := by
  induction events generalizing state erased with
  | nil => exact hrelated
  | cons event events ih =>
    have hfirst := hevents event List.mem_cons_self
    have hrest := fun other hother => hevents other (List.mem_cons_of_mem event hother)
    cases hkeep : keep event with
    | true =>
      rw [List.filter_cons_of_pos hkeep]
      exact ih (hkept _ _ _ hrelated hfirst hkeep) hrest
    | false =>
      rw [List.filter_cons_of_neg (by rw [hkeep]; exact Bool.false_ne_true)]
      exact ih (herased _ _ _ hrelated hfirst hkeep) hrest

end Transition
